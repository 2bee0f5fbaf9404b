import MiniGateway.Source.Router
import MiniGateway.Source.World

/-!
# Source — Proxy

`proxy.rs`, the part `handle_request` runs: building the upstream request, sending it with
retries, and turning the upstream's answer into the response.

The HTTP client is a parameter: whether it takes a text for a URL, and what sending a request
answers in a given state of the upstream.
-/

namespace MiniGateway

open Http

/-- Why a send failed. -/
inductive SendErrorKind where
  | timeout
  | connect
  | other
  deriving DecidableEq, Repr

/-- A failed send, with the text it displays. -/
structure SendError where
  kind : SendErrorKind
  text : Text
  deriving DecidableEq, Repr

/-- The answer to a send; reading its body can fail, with a message. -/
structure UpstreamResponse where
  status : StatusCode
  headers : HeaderMap
  body : Except Text Bytes

/-- The HTTP client, over the state `υ` of what it talks to. -/
structure Client (υ : Type) where
  isUrl : Text → Bool
  send : υ → OutRequest → Except SendError UpstreamResponse × υ

structure ProxyClient (υ : Type) where
  client : Client υ

/-- What `execute_with_retry` and `proxy` leave behind. -/
structure Sent (υ α : Type) where
  result : Except GatewayError α
  upstream : υ
  events : List Event

namespace ProxyClient

variable {υ : Type}

/-- `ProxyClient::with_pool`; `build` makes a client of the idle connections it keeps for each
host, and for how many seconds. -/
def withPool (build : Nat → Nat → Client υ) (maxIdle idleTimeoutSecs : Nat) : ProxyClient υ :=
  ⟨build maxIdle idleTimeoutSecs⟩

def new (build : Nat → Nat → Client υ) : ProxyClient υ := ⟨build 100 60⟩

/-! ### The upstream request -/

def targetPath (route : RouteMatch) (path : Text) : Text :=
  match route.stripPrefix with
  | some p => (path.stripPrefix p).getD path
  | none => path

/-- `?query`, or nothing. -/
def querySuffix (uri : Uri) : Text := uri.query.elim [] ('?' :: ·)

def targetUrl (route : RouteMatch) (uri : Uri) : Text :=
  route.upstreamUrl ++ targetPath route uri.path ++ querySuffix uri

/-- The names the copy loop leaves out. -/
def filtered : List Text :=
  ["host".toList, "connection".toList, "keep-alive".toList, "proxy-authenticate".toList,
    "proxy-authorization".toList, "te".toList, "trailers".toList, "transfer-encoding".toList,
    "upgrade".toList]

/-- The copy loop: one `insert` for each entry that is not filtered. -/
def copyHeaders (headers : HeaderMap) : HeaderMap :=
  headers.entries.foldl (fun copy e =>
    if filtered.contains (e.1.text.map Char.toLower) then copy else copy.insert e.1 e.2) .empty

/-! ### Sending -/

/-- The pause after a failed attempt. -/
def pause (backoff : Option Nat) (attempt : Nat) : List Event :=
  match backoff with
  | some b => [.sleep (b * attempt)]
  | none => []

/-- The loop of `execute_with_retry`: `left` attempts are left, `attempt` is the number of the
next one.  `req` is what `try_clone` gives: nothing, if the builder holds an error. -/
def attempts (C : Client υ) (req : Option OutRequest) (maxAttempts : Nat) (backoff : Option Nat) :
    Nat → Nat → υ → Sent υ UpstreamResponse
  | 0, _, u => ⟨.error .upstreamUnavailable, u, []⟩
  | left + 1, attempt, u =>
      match req with
      | none => ⟨.error (.proxy "Cannot clone request"), u, []⟩
      | some request =>
          let again (u' : υ) : Sent υ UpstreamResponse :=
            let rest := attempts C req maxAttempts backoff left (attempt + 1) u'
            { rest with events := .send request :: pause backoff attempt ++ rest.events }
          match C.send u request with
          | (.ok resp, u') =>
              -- the last attempt's answer is handed on, a server error or not
              if resp.status.isServerError && decide (attempt < maxAttempts) then again u'
              else ⟨.ok resp, u', [.send request]⟩
          | (.error e, u') =>
              if attempt < maxAttempts then again u'
              else ⟨.error (.proxy ("Request failed after ".toList ++ Text.ofNat maxAttempts ++
                " attempts: ".toList ++ e.text)), u', [.send request]⟩

def executeWithRetry (C : Client υ) (req : Option OutRequest) (retry : Option RetryConfig)
    (timeoutMs : Option Nat) (u : υ) : Sent υ UpstreamResponse :=
  let maxAttempts := (retry.map (·.maxAttempts)).getD 1
  let req := req.map fun r => match timeoutMs with
    | some t => { r with timeoutMs := some t }
    | none => r
  attempts C req maxAttempts (retry.map (·.backoffMs)) maxAttempts 1 u

/-! ### The response -/

/-- The upstream's response, less the `transfer-encoding` and `content-encoding` headers. -/
def response (resp : UpstreamResponse) (body : Bytes) : Except Text Response :=
  let builder := resp.headers.entries.foldl (fun b e =>
    let key := e.1.text.map Char.toLower
    if key = "transfer-encoding".toList ∨ key = "content-encoding".toList then b
    else b.header e.1.text e.2.bytes) (Builder.new.status resp.status.code)
  builder.body body

/-- The request `proxy` hands to the client: nothing, if its URL is none. -/
def outRequest (C : Client υ) (route : RouteMatch) (req : Request) (method : Method)
    (body : Bytes) : Option OutRequest :=
  let url := targetUrl route req.uri
  if C.isUrl url then some ⟨method, url, copyHeaders req.headers, body, none⟩ else none

def proxy (p : ProxyClient υ) (req : Request) (route : RouteMatch) (metrics : RequestMetrics)
    (u : υ) : Sent υ Response × List Sample :=
  match Method.parse req.method.text with
  | none => (⟨.error (.proxy "Invalid method: invalid HTTP method"), u, []⟩, [])
  | some method =>
      match req.body with
      | .error e => (⟨.error (.proxy ("Body read error: ".toList ++ e)), u, []⟩, [])
      | .ok body =>
          let sent := executeWithRetry p.client (outRequest p.client route req method body)
            route.retry route.timeoutMs u
          match sent.result with
          | .error e => (⟨.error e, sent.upstream, sent.events⟩, [])
          | .ok resp =>
              match resp.body with
              | .error e => (⟨.error (.proxy ("Response body error: ".toList ++ e)),
                  sent.upstream, sent.events⟩, [])
              | .ok bytes =>
                  let samples := metrics.recordSuccess resp.status.code
                  match response resp bytes with
                  | .ok r => (⟨.ok r, sent.upstream, sent.events⟩, samples)
                  | .error e => (⟨.error (.httpBody e), sent.upstream, sent.events⟩, samples)

end ProxyClient

end MiniGateway
