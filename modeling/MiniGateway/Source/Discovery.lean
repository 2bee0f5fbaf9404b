import MiniGateway.Source.Router
import MiniGateway.Support.Concurrent
import MiniGateway.Support.Json
import MiniGateway.Support.Utf8

/-!
# Source — Discovery

`discovery/consul.rs` and `discovery/etcd.rs`: the two registries a service can be looked up in.

Each keeps a table of the endpoints of the services, shared by every call and by the tasks that
`watch` starts.  A call is a program over that table: it takes the lock, sends its query or writes
what it got, and between two of these any other task may run.  `DiscoveryPrograms.machine` is the
whole: calls and tasks over one table and one registry.

The HTTP client, the JSON parser and Base64 are parameters.  Logging is left out.
-/

namespace MiniGateway

open Http Concurrent

/-- What the clients of the registries are linked against. -/
structure WebLibraries where
  /-- `reqwest::Client::builder()…build()`. -/
  buildClient : Except Text Unit
  /-- What a status is displayed as. -/
  statusText : StatusCode → Text
  parse : Bytes → Option Json
  /-- The error of a body that cannot be read. -/
  decodeError : Bytes → Text
  encode : Bytes → Text
  decode : Text → Option Bytes

/-- The response to a query; reading its body can fail. -/
structure RegistryResponse where
  status : StatusCode
  body : Except Text Bytes

/-- What a send gives. -/
abbrev RegistryReply := Except Text RegistryResponse

/-- A program over the table; the queries are `Q`. -/
abbrev DiscoveryProg (Q : Type) := Prog Text (List Text) Q RegistryReply

/-- What either client makes of a reply; `registry` is its name in the messages. -/
def readReply {α : Type} (W : WebLibraries) (registry : Text) (read : Json → Option α) :
    RegistryReply → Except GatewayError α
  | .error e => .error (.discovery (registry ++ " query failed: ".toList ++ e))
  | .ok response =>
      if !response.status.isSuccess then
        .error (.discovery
          (registry ++ " returned status: ".toList ++ W.statusText response.status))
      else
        let failed := fun e : Text => GatewayError.discovery
          ("Failed to parse ".toList ++ registry ++ " response: ".toList ++ e)
        match response.body with
        | .error e => .error (failed e)
        | .ok body =>
            match (W.parse body).bind read with
            | some value => .ok value
            | none => .error (failed (W.decodeError body))

/-- `Client::builder().timeout(…).build()`. -/
def buildRegistryClient (W : WebLibraries) : Except GatewayError Unit :=
  match W.buildClient with
  | .ok () => .ok ()
  | .error e => .error (.discovery ("Failed to create HTTP client: ".toList ++ e))

/-! ### The trait -/

/-- A `ServiceDiscovery`, as programs; `tick` is one turn of the loop that `watch` starts. -/
structure DiscoveryPrograms (Q : Type) where
  resolve : Text → DiscoveryProg Q (Except GatewayError Text)
  healthCheck : Text → DiscoveryProg Q (Except GatewayError (List Text))
  tick : Text → DiscoveryProg Q Unit

/-- What can be started. -/
inductive DiscoveryCall where
  | resolve (name : Text)
  | healthCheck (name : Text)
  | watch (name : Text)

/-- What it comes to. -/
inductive DiscoveryResult where
  | endpoint (r : Except GatewayError Text)
  | endpoints (r : Except GatewayError (List Text))
  | ticked

/-- The calls and tasks over one table and one registry. -/
def DiscoveryPrograms.machine {Q : Type} (P : DiscoveryPrograms Q)
    (Replies : Nat → Q → RegistryReply → Prop) :
    Machine DiscoveryCall Text (List Text) Q RegistryReply DiscoveryResult where
  program
    | .resolve name => do return .endpoint (← P.resolve name)
    | .healthCheck name => do return .endpoints (← P.healthCheck name)
    | .watch name => do
        P.tick name
        return .ticked
  loops
    | .resolve _ => false
    | .healthCheck _ => false
    | .watch _ => true
  Replies := Replies

/-- The trait as the router calls it, one call at a time: over the table, and what the registry
answers.  `watch` starts its task and returns. -/
def DiscoveryPrograms.service {Q : Type} (P : DiscoveryPrograms Q) :
    ServiceDiscovery ((Text → Option (List Text)) × (Q → RegistryReply)) where
  resolve d name :=
    let r := (P.resolve name).run d.2 d.1
    (r.1, (r.2, d.2))
  healthCheck d name :=
    let r := (P.healthCheck name).run d.2 d.1
    (r.1, (r.2, d.2))
  watch d _ := (.ok (), d)

/-! ### `consul.rs` -/

structure ConsulCheck where
  status : Text
  deriving DecidableEq

structure ConsulService where
  serviceAddress : Text
  servicePort : Nat
  serviceTags : List Text
  checks : List ConsulCheck
  deriving DecidableEq

def ConsulCheck.fromJson (json : Json) : Option ConsulCheck :=
  match json.fields ["Status".toList] with
  | some [status] => do
      let status ← Json.required Json.asString status
      return ⟨status⟩
  | _ => none

def ConsulService.fromJson (json : Json) : Option ConsulService :=
  match json.fields ["ServiceAddress".toList, "ServicePort".toList, "ServiceTags".toList,
      "Checks".toList] with
  | some [address, port, tags, checks] => do
      let address ← Json.required Json.asString address
      let port ← Json.required Json.asU16 port
      let tags ← Json.withDefault (Json.asVec Json.asString) [] tags
      let checks ← Json.withDefault (Json.asVec ConsulCheck.fromJson) [] checks
      return ⟨address, port, tags, checks⟩
  | _ => none

structure ConsulDiscovery where
  address : Text
  datacenter : Option Text

namespace ConsulDiscovery

def new (W : WebLibraries) (config : DiscoveryConfig) : Except GatewayError ConsulDiscovery :=
  match config.provider with
  | .consul address datacenter => do
      buildRegistryClient W
      .ok ⟨address, datacenter⟩
  | .etcd _ => .error (.discovery "Invalid provider for Consul")

def buildUrl (c : ConsulDiscovery) (serviceName : Text) : Text :=
  let url := c.address ++ "/v1/health/service/".toList ++ serviceName
  match c.datacenter with
  | some dc => url ++ "?dc=".toList ++ dc
  | none => url

/-- One turn of the loop over the services: the endpoint of a healthy one that has an address. -/
def endpointOf (svc : ConsulService) : Option Text :=
  if !svc.checks.all (·.status == "passing".toList) then none
  else if svc.serviceAddress.isEmpty then none
  else some ("http://".toList ++ svc.serviceAddress ++ ':' :: Text.ofNat svc.servicePort)

/-- What `health_check` makes of the reply. -/
def extract (W : WebLibraries) (reply : RegistryReply) : Except GatewayError (List Text) := do
  let services ← readReply W "Consul" (Json.asVec ConsulService.fromJson) reply
  return services.filterMap endpointOf

def healthCheck (W : WebLibraries) (c : ConsulDiscovery) (serviceName : Text) :
    DiscoveryProg Text (Except GatewayError (List Text)) := do
  let reply ← Prog.send (c.buildUrl serviceName)
  return extract W reply

def resolve (W : WebLibraries) (c : ConsulDiscovery) (serviceName : Text) :
    DiscoveryProg Text (Except GatewayError Text) := do
  match ← Prog.lookup serviceName with
  | some (endpoint :: _) => return .ok endpoint
  | _ =>
      match ← c.healthCheck W serviceName with
      | .error e => return .error e
      | .ok [] => return .error .upstreamUnavailable
      | .ok (endpoint :: rest) =>
          Prog.insert serviceName (endpoint :: rest)
          return .ok endpoint

/-- An error is only logged. -/
def tick (W : WebLibraries) (c : ConsulDiscovery) (name : Text) : DiscoveryProg Text Unit := do
  match ← c.healthCheck W name with
  | .ok endpoints => Prog.insert name endpoints
  | .error _ => return ()

def programs (W : WebLibraries) (c : ConsulDiscovery) : DiscoveryPrograms Text :=
  ⟨c.resolve W, c.healthCheck W, c.tick W⟩

end ConsulDiscovery

/-! ### `etcd.rs` -/

structure EtcdRangeRequest where
  key : Text
  rangeEnd : Option Text
  deriving DecidableEq

structure EtcdKeyValue where
  key : Text
  value : Text
  deriving DecidableEq

structure EtcdRangeResponse where
  kvs : List EtcdKeyValue
  deriving DecidableEq

def EtcdKeyValue.fromJson (json : Json) : Option EtcdKeyValue :=
  match json.fields ["key".toList, "value".toList] with
  | some [key, value] => do
      let key ← Json.required Json.asString key
      let value ← Json.required Json.asString value
      return ⟨key, value⟩
  | _ => none

def EtcdRangeResponse.fromJson (json : Json) : Option EtcdRangeResponse :=
  match json.fields ["kvs".toList] with
  | some [kvs] => do
      let kvs ← Json.withDefault (Json.asVec EtcdKeyValue.fromJson) [] kvs
      return ⟨kvs⟩
  | _ => none

/-- A `POST` of a range request to a URL. -/
structure EtcdQuery where
  url : Text
  request : EtcdRangeRequest
  deriving DecidableEq

structure EtcdDiscovery where
  endpoints : List Text
  keyPrefix : Text

namespace EtcdDiscovery

def new (W : WebLibraries) (config : DiscoveryConfig) : Except GatewayError EtcdDiscovery :=
  match config.provider with
  | .etcd endpoints => do
      buildRegistryClient W
      .ok ⟨endpoints, "/services/".toList⟩
  | .consul _ _ => .error (.discovery "Invalid provider for Etcd")

def getEndpoint (c : EtcdDiscovery) : Text :=
  c.endpoints.head?.getD "http://127.0.0.1:2379".toList

def serviceKey (c : EtcdDiscovery) (serviceName : Text) : Text := c.keyPrefix ++ serviceName

/-- The last byte is incremented, and wraps; the bytes are read as text again. -/
def rangeEnd (key : Text) : Text :=
  let bytes := key.utf8
  match bytes.getLast? with
  | some last => Utf8.fromUtf8Lossy (bytes.dropLast ++ [last + 1])
  | none => Utf8.fromUtf8Lossy bytes

def query (W : WebLibraries) (c : EtcdDiscovery) (serviceName : Text) : EtcdQuery :=
  let key := c.serviceKey serviceName
  ⟨c.getEndpoint ++ "/v3/kv/range".toList,
    ⟨W.encode key.utf8, some (W.encode (rangeEnd key).utf8)⟩⟩

/-- One turn of the loop over the values: the value, decoded and trimmed, unless that is empty. -/
def endpointOf (W : WebLibraries) (kv : EtcdKeyValue) : Option Text :=
  let endpointUrl := (Utf8.fromUtf8Lossy ((W.decode kv.value).getD [])).trimUnicode
  if endpointUrl.isEmpty then none else some endpointUrl

/-- What `health_check` makes of the reply. -/
def extract (W : WebLibraries) (reply : RegistryReply) : Except GatewayError (List Text) := do
  let response ← readReply W "Etcd" EtcdRangeResponse.fromJson reply
  return response.kvs.filterMap (endpointOf W)

/-- Writes what it got, even if it is empty. -/
def healthCheck (W : WebLibraries) (c : EtcdDiscovery) (serviceName : Text) :
    DiscoveryProg EtcdQuery (Except GatewayError (List Text)) := do
  let reply ← Prog.send (c.query W serviceName)
  match extract W reply with
  | .error e => return .error e
  | .ok endpoints =>
      Prog.insert serviceName endpoints
      return .ok endpoints

def resolve (W : WebLibraries) (c : EtcdDiscovery) (serviceName : Text) :
    DiscoveryProg EtcdQuery (Except GatewayError Text) := do
  match ← Prog.lookup serviceName with
  | some (endpoint :: _) => return .ok endpoint
  | _ =>
      match ← c.healthCheck W serviceName with
      | .error e => return .error e
      | .ok [] => return .error .upstreamUnavailable
      | .ok (endpoint :: _) => return .ok endpoint

/-- Writes a second time what `health_check` has written. -/
def tick (W : WebLibraries) (c : EtcdDiscovery) (name : Text) : DiscoveryProg EtcdQuery Unit := do
  match ← c.healthCheck W name with
  | .ok endpoints => Prog.insert name endpoints
  | .error _ => return ()

def programs (W : WebLibraries) (c : EtcdDiscovery) : DiscoveryPrograms EtcdQuery :=
  ⟨c.resolve W, c.healthCheck W, c.tick W⟩

end EtcdDiscovery

end MiniGateway
