import MiniGateway.Properties.Discovery

/-!
# Properties — Registries

What the Consul client makes of the replies of the endpoint it asks.  `/v1/health/service/:name`
answers with an array of entries that hold the address and the port inside their `Service`; the
client looks for `ServiceAddress` and `ServicePort` beside it, where no entry has them.  So a reply
is understood exactly if it lists nothing (`consul_understood_iff`).
-/

namespace MiniGateway

open Http Concurrent

/-- The members of a JSON object that nothing is said about. -/
abbrev Members := List (Text × Json)

/-- A check of an instance: its status, beside anything else. -/
structure HealthCheck where
  rest : Members
  status : Text

/-- An instance of a service, as Consul's health endpoint describes it. -/
structure HealthEntry where
  nodeRest : Members
  nodeAddress : Text
  serviceRest : Members
  address : Text
  port : Nat
  tags : List Text
  checks : List HealthCheck

namespace HealthEntry

/-- `{Node: {…, Address}, Service: {…, Address, Port, Tags}, Checks: [{…, Status}]}`. -/
def toJson (i : HealthEntry) : Json :=
  .obj [("Node".toList, .obj (i.nodeRest ++ [("Address".toList, .str i.nodeAddress)])),
    ("Service".toList, .obj (i.serviceRest ++ [("Address".toList, .str i.address),
      ("Port".toList, .int i.port), ("Tags".toList, .arr (i.tags.map .str))])),
    ("Checks".toList, .arr (i.checks.map fun check =>
      .obj (check.rest ++ [("Status".toList, .str check.status)])))]

/-- All checks pass, and there is an address. -/
def healthy (i : HealthEntry) : Bool :=
  i.checks.all (·.status == "passing".toList) && !i.address.isEmpty

def endpoint (i : HealthEntry) : Text :=
  "http://".toList ++ i.address ++ ':' :: Text.ofNat i.port

/-- **No entry is read as a service**: it has no `ServiceAddress`. -/
theorem fromJson_toJson (i : HealthEntry) : ConsulService.fromJson i.toJson = none := by
  have hfields : i.toJson.fields ["ServiceAddress".toList, "ServicePort".toList,
      "ServiceTags".toList, "Checks".toList] =
      some [none, none, none, some (.arr (i.checks.map fun check =>
        .obj (check.rest ++ [("Status".toList, .str check.status)])))] := rfl
  rw [ConsulService.fromJson, hfields]
  rfl

end HealthEntry

namespace ConsulDiscovery

/-- **When Consul's replies are understood.**  On a reply in the format of the health endpoint,
`health_check` returns the endpoints of the healthy instances, in order, exactly if the reply lists
no instance. -/
theorem consul_understood_iff (W : WebLibraries) (c : ConsulDiscovery) (name : Text)
    (instances : List HealthEntry) {body : Bytes} {status : StatusCode}
    (hparse : W.parse body = some (.arr (instances.map HealthEntry.toJson)))
    (hstatus : status.isSuccess = true) {answer : Text → RegistryReply}
    (hanswer : answer (c.buildUrl name) = .ok ⟨status, .ok body⟩)
    (entries : Text → Option (List Text)) :
    ((c.programs W).service.healthCheck (entries, answer) name).1 =
        .ok ((instances.filter HealthEntry.healthy).map HealthEntry.endpoint) ↔
      instances = [] := by
  have hcheck : ((c.programs W).service.healthCheck (entries, answer) name).1 =
      extract W (answer (c.buildUrl name)) := rfl
  rw [hcheck, hanswer, extract_eq_ok_iff]
  cases instances with
  | nil => exact iff_of_true ⟨[], ⟨_, body, rfl, hstatus, rfl, by rw [hparse]; rfl⟩, rfl⟩ rfl
  | cons i instances =>
      refine iff_of_false ?_ (List.cons_ne_nil _ _)
      rintro ⟨services, ⟨response, body', heq, -, hbody, hread⟩, -⟩
      cases heq
      cases hbody
      -- the first entry already cannot be read
      rw [hparse, Option.bind_some, List.map_cons, Json.asVec, List.mapM_cons,
        HealthEntry.fromJson_toJson] at hread
      cases hread

/-- `[]`, and one passing instance. -/
def emptyBody : Bytes := Text.utf8 "[]"

def oneEntry : HealthEntry := ⟨[], "10.0.0.9", [], "10.0.0.9", 8080, [], [⟨[], "passing"⟩]⟩

def oneBody : Bytes := Text.utf8 ("[\x7b\"Node\":\x7b\"Address\":\"10.0.0.9\"\x7d,".toList ++
  "\"Service\":\x7b\"Address\":\"10.0.0.9\",\"Port\":8080,\"Tags\":[]\x7d,".toList ++
  "\"Checks\":[\x7b\"Status\":\"passing\"\x7d]\x7d]".toList)

/-- Libraries that know the two bodies. -/
def healthBodies : WebLibraries :=
  { knownBodies with
    parse := fun body => if body = emptyBody then some (.arr [])
      else if body = oneBody then some (.arr [oneEntry.toJson]) else none }

/-- A registry that answers everything with this body. -/
def repeats (body : Bytes) (_url : Text) : RegistryReply := .ok ⟨.ok, .ok body⟩

theorem parse_emptyBody : healthBodies.parse emptyBody = some (.arr []) := by
  simp only [healthBodies, if_true]

theorem parse_oneBody : healthBodies.parse oneBody = some (.arr [oneEntry.toJson]) := by
  have hne : oneBody ≠ emptyBody := by decide
  simp only [healthBodies, hne, if_false, if_true]

/-- The empty list is understood. -/
theorem consul_understood_empty :
    ((localConsul.programs healthBodies).service.healthCheck
      (fun _ => none, repeats emptyBody) "api").1 = .ok [] :=
  (consul_understood_iff healthBodies localConsul "api" [] parse_emptyBody (by decide) rfl
    fun _ => none).mpr rfl

/-- A passing instance makes the whole reply an error. -/
theorem consul_not_understood :
    healthBodies.parse oneBody = some (.arr ([oneEntry].map HealthEntry.toJson)) ∧
      ([oneEntry].filter HealthEntry.healthy).map HealthEntry.endpoint =
        ["http://10.0.0.9:8080".toList] ∧
      ¬ ((localConsul.programs healthBodies).service.healthCheck
        (fun _ => none, repeats oneBody) "api").1 = .ok ["http://10.0.0.9:8080".toList] := by
  refine ⟨parse_oneBody, by decide, fun h => ?_⟩
  have hcheck : ((localConsul.programs healthBodies).service.healthCheck
      (fun _ => none, repeats oneBody) "api").1 = extract healthBodies (repeats oneBody "") := rfl
  rw [hcheck, extract_eq_ok_iff] at h
  obtain ⟨services, ⟨response, body, heq, -, hbody, hread⟩, -⟩ := h
  cases heq
  cases hbody
  rw [parse_oneBody] at hread
  cases hread

end ConsulDiscovery

end MiniGateway
