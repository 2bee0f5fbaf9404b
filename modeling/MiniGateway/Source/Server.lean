import MiniGateway.Source.Gateway
import MiniGateway.Support.Tasks

/-!
# Source — Server

`gateway.rs` as it runs: `run` accepts connections and starts a task for each, `serve_connection`
answers the requests of a connection one after the other, and `handle_request` goes through its
stages.

Tasks run side by side.  A `Stage` is where the handling of a request stands between two operations
on what the tasks share: resolving an upstream, a check of the limiter, a lookup in the cache, a
send.  `advance` is one such operation, with the code up to the next one.

A connection can end at any time; what is left of its request is then dropped.  A panic ends the
task where it stands.

Of what is logged, the lines on completed requests are kept (`LogLine`), without the duration.
-/

namespace MiniGateway

open Http RateLimit Tasks

/-! ### Log lines -/

inductive Level where
  | info
  | warn
  deriving DecidableEq, Repr

/-- A line on a request; a status is there if there was a response. -/
structure LogLine where
  level : Level
  requestId : Text
  method : Text
  uri : Text
  status : Option Nat
  message : Text
  deriving DecidableEq

/-- The line on a request that was answered; a `warn` if
`is_server_error() || is_client_error()`. -/
def LogLine.completed (requestId method uri : Text) (status : StatusCode) : LogLine :=
  if 400 ≤ status.code ∧ status.code < 600 then
    ⟨.warn, requestId, method, uri, some status.code, "Request completed with error status"⟩
  else ⟨.info, requestId, method, uri, some status.code, "Request completed"⟩

/-! ### `handle_request`, stage by stage -/

/-- The loop of `execute_with_retry`, between two attempts. -/
structure Sending where
  metrics : RequestMetrics
  request : Option OutRequest
  maxAttempts : Nat
  backoff : Option Nat
  left : Nat
  attempt : Nat

/-- Where the handling of a request stands. -/
inductive Stage where
  | matching (req : Request)
  | checking (route : RouteMatch) (req : Request)
  | limiting (route : RouteMatch) (metrics : RequestMetrics) (req : Request)
  | lookingUp (route : RouteMatch) (metrics : RequestMetrics) (req : Request)
  | sending (s : Sending)
  | answered (reply : Except Panic Response)

/-- What a step leaves behind. -/
structure Progress (lim κ υ δ : Type) where
  stage : Stage
  world : World lim κ υ δ
  events : List Event
  logs : List LogLine

namespace Gateway

variable {ρ lim κ υ δ : Type}

/-- The answer at the end of `handle_request`, which is logged. -/
def complete (requestId : Text) (metrics : RequestMetrics) (w : World lim κ υ δ)
    (events : List Event) (reply : Except Panic Response) : Progress lim κ υ δ where
  stage := .answered reply
  world := w
  events := events
  logs := match reply with
    | .ok r => [.completed requestId metrics.method metrics.path r.status]
    | .error _ => []

/-- `proxy` failed. -/
def completeError (requestId : Text) (metrics : RequestMetrics) (w : World lim κ υ δ)
    (events : List Event) (e : GatewayError) : Progress lim κ υ δ :=
  complete requestId metrics w events (errorReply e)

/-- The end of `proxy`, with the upstream's response at hand. -/
def receive (g : Gateway ρ lim κ υ δ) (requestId : Text) (metrics : RequestMetrics)
    (w : World lim κ υ δ) (events : List Event) (resp : UpstreamResponse) :
    Progress lim κ υ δ :=
  match resp.body with
  | .error e => completeError requestId metrics w events
      (.proxy ("Response body error: ".toList ++ e))
  | .ok bytes =>
      let w := { w with increments := w.increments ++ metrics.recordSuccess resp.status.code }
      match ProxyClient.response resp bytes with
      | .ok r => complete requestId metrics w events (g.withCors r)
      | .error e => completeError requestId metrics w events (.httpBody e)

/-- The beginning of `proxy`, up to the first attempt. -/
def prepare (g : Gateway ρ lim κ υ δ) (requestId : Text) (route : RouteMatch)
    (metrics : RequestMetrics) (req : Request) (w : World lim κ υ δ) (events : List Event) :
    Progress lim κ υ δ :=
  match Method.parse req.method.text with
  | none => completeError requestId metrics w events (.proxy "Invalid method: invalid HTTP method")
  | some method =>
      match req.body with
      | .error e => completeError requestId metrics w events
          (.proxy ("Body read error: ".toList ++ e))
      | .ok body =>
          let maxAttempts := (route.retry.map (·.maxAttempts)).getD 1
          let request := (ProxyClient.outRequest g.proxyClient.client route req method body).map
            fun r => match route.timeoutMs with
              | some t => { r with timeoutMs := some t }
              | none => r
          ⟨.sending ⟨metrics, request, maxAttempts, route.retry.map (·.backoffMs), maxAttempts, 1⟩,
            w, events, []⟩

/-- One turn of the loop of `execute_with_retry`. -/
def attempt (g : Gateway ρ lim κ υ δ) (requestId : Text) (s : Sending) (w : World lim κ υ δ) :
    Progress lim κ υ δ :=
  match s.left with
  | 0 => completeError requestId s.metrics w [] .upstreamUnavailable
  | left + 1 =>
      match s.request with
      | none => completeError requestId s.metrics w [] (.proxy "Cannot clone request")
      | some request =>
          let again (w : World lim κ υ δ) : Progress lim κ υ δ :=
            ⟨.sending { s with left := left, attempt := s.attempt + 1 }, w,
              .send request :: ProxyClient.pause s.backoff s.attempt, []⟩
          match g.proxyClient.client.send w.upstream request with
          | (.ok resp, u) =>
              if resp.status.isServerError && decide (s.attempt < s.maxAttempts) then
                again { w with upstream := u }
              else g.receive requestId s.metrics { w with upstream := u } [.send request] resp
          | (.error e, u) =>
              if s.attempt < s.maxAttempts then again { w with upstream := u }
              else completeError requestId s.metrics { w with upstream := u } [.send request]
                (.proxy ("Request failed after ".toList ++ Text.ofNat s.maxAttempts ++
                  " attempts: ".toList ++ e.text))

/-- **One step of `handle_request`.** -/
def advance (L : Libraries ρ lim κ υ δ) (g : Gateway ρ lim κ υ δ) (requestId : Text)
    (w : World lim κ υ δ) : Stage → Progress lim κ υ δ
  | .matching req =>
      match g.router.matchRoute L.regex req w.discovery with
      | (some route, d) => ⟨.checking route req, { w with discovery := d }, [], []⟩
      | (none, d) => ⟨.answered notFound, { w with discovery := d }, [], []⟩
  | .checking route req =>
      let metrics : RequestMetrics := ⟨req.method.text, req.uri.path, route.routeId⟩
      match g.preflight req with
      | some reply => ⟨.answered reply, w, [], []⟩
      | none =>
          match g.authenticate L.tokens (w.now / nanos) req with
          | .error message =>
              ⟨.answered (unauthorized message), w.record metrics.recordAuthFailure, [], []⟩
          | .ok req => ⟨.limiting route metrics req, w, [], []⟩
  | .limiting route metrics req =>
      match g.rateLimitLayer with
      | some rl =>
          let key := RateLimitLayer.requestKey rl.keyStrategy req
          match rl.limiter.checkKey w.limiter key w.now with
          | (true, l) =>
              ⟨.lookingUp route metrics req, { w with limiter := l }, [.tick key true], []⟩
          | (false, l) =>
              ⟨.answered tooManyRequests, { w with limiter := l }.record metrics.recordRateLimited,
                [.tick key false], []⟩
      | none => ⟨.lookingUp route metrics req, w, [], []⟩
  | .lookingUp route metrics req =>
      match g.cacheLayer with
      | some cache =>
          if route.cacheEnabled && decide (req.method = .get) then
            let key := cache.buildKey req
            match cache.backend.get w.cache key with
            | (.ok (some cached), k) =>
                ⟨.answered (hitReply cached), { w with cache := k }.record metrics.recordCacheHit,
                  [.lookup key true], []⟩
            | (_, k) => g.prepare requestId route metrics req { w with cache := k }
                [.lookup key false]
          else g.prepare requestId route metrics req w []
      | none => g.prepare requestId route metrics req w []
  | .sending s => g.attempt requestId s w
  | .answered reply => ⟨.answered reply, w, [], []⟩

end Gateway

/-! ### `run` and `serve_connection` -/

/-- A request that is being handled: as it came in, the steps it has taken, what it has done in
them, and where it stands. -/
structure Handling where
  request : Request
  requestId : Text
  arrived : Nat
  steps : Nat
  events : List Event
  logs : List LogLine
  stage : Stage

/-- The task of a connection. -/
inductive Conn where
  | handshaking
  | idle
  | busy (h : Handling)

/-- What the tasks share: the world, the deltas `gateway_active_connections` was incremented by, and
whether `run` still accepts.  Beside that, the tasks a panic has ended, and everything the requests
did, with the time. -/
structure Server (lim κ υ δ : Type) where
  world : World lim κ υ δ
  deltas : List Int
  listening : Bool
  panicked : Nat
  trace : List (Nat × Event)

namespace Server

variable {ρ lim κ υ δ : Type}

/-- Nothing accepted yet. -/
def init (w : World lim κ υ δ) : Server lim κ υ δ := ⟨w, [], true, 0, []⟩

/-- `record_active_connections`. -/
def recordActiveConnections (s : Server lim κ υ δ) (delta : Int) : Server lim κ υ δ :=
  { s with deltas := s.deltas ++ [delta] }

/-- The server after a step of a request. -/
def after (s : Server lim κ υ δ) (p : Progress lim κ υ δ) : Server lim κ υ δ :=
  { s with world := p.world, trace := s.trace ++ p.events.map (s.world.now, ·) }

/-- What the task of a connection can do. -/
inductive Moves (L : Libraries ρ lim κ υ δ) (g : Gateway ρ lim κ υ δ) (s : Server lim κ υ δ) :
    Conn → Server lim κ υ δ → Option Conn → Prop where
  | secured : Moves L g s .handshaking s (some .idle)
  | refused : Moves L g s .handshaking (s.recordActiveConnections (-1)) none
  | request (req : Request) (id : Text) :
      Moves L g s .idle s (some (.busy ⟨req, id, s.world.now, 0, [], [],
        .matching (g.stampRequestId id req)⟩))
  | advance {h : Handling} {p : Progress lim κ υ δ} (hopen : ∀ reply, h.stage ≠ .answered reply)
      (hp : g.advance L h.requestId s.world h.stage = p) :
      Moves L g s (.busy h) (s.after p) (some (.busy { h with
        steps := h.steps + 1, events := h.events ++ p.events, logs := h.logs ++ p.logs,
        stage := p.stage }))
  | reply {h : Handling} {r : Response} (hr : h.stage = .answered (.ok r)) :
      Moves L g s (.busy h) s (some .idle)
  | panic {h : Handling} {e : Panic} (he : h.stage = .answered (.error e)) :
      Moves L g s (.busy h) { s with panicked := s.panicked + 1 } none
  | closed : Moves L g s .idle (s.recordActiveConnections (-1)) none
  | dropped {h : Handling} (hno : ∀ e, h.stage ≠ .answered (.error e)) :
      Moves L g s (.busy h) (s.recordActiveConnections (-1)) none

/-- `run` accepts a connection; `tls` says whether there is an acceptor. -/
inductive Accepts (tls : Bool) (s : Server lim κ υ δ) : Server lim κ υ δ → Conn → Prop where
  | accept (h : s.listening = true) :
      Accepts tls s (s.recordActiveConnections 1) (if tls then .handshaking else .idle)

/-- Time passes, and what others share with the gateway changes; or accepting fails, and `run`
returns. -/
inductive Changes (s : Server lim κ υ δ) : Server lim κ υ δ → Prop where
  | world (now : Nat) (k : κ) (u : υ) (d : δ) (h : s.world.now ≤ now) :
      Changes s { s with world :=
        { s.world with now := now, cache := k, upstream := u, discovery := d } }
  | failed : Changes s { s with listening := false }

/-- The gateway at work. -/
def system (L : Libraries ρ lim κ υ δ) (g : Gateway ρ lim κ υ δ) (tls : Bool) :
    System (Server lim κ υ δ) Conn where
  Moves s := Moves L g s
  Starts := Accepts tls
  Changes := Changes

end Server

end MiniGateway
