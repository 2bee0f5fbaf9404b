import MiniGateway.Source.Middleware
import MiniGateway.Source.Server

/-!
# Source — Services

`middleware/logging.rs` and `middleware/metrics.rs`, and the services of `middleware/` at work: many
calls at a time.

A service is called, and its future awaited later; in between, others are called and awaited.  The
future of `CacheMiddlewareService` awaits three times — the lookup, the wrapped future, the store —
and others can come in between (`CacheStage`).  The futures of the other services await the wrapped
one only.

A panic in `call` is told as one of its future.
-/

namespace MiniGateway

open Http Tasks

variable {σ ε : Type}

/-! ### Logging -/

/-- `LoggingService`: the wrapped service, and the header for the request id. -/
structure LoggingService (σ ε : Type) where
  inner : AsyncService σ ε
  requestIdHeader : Option Text

namespace LoggingService

/-- The request with its id.  Neither the name nor the value may be illegal. -/
def stamp (header : Option Text) (requestId : Text) (req : Request) : Except Panic Request :=
  match header with
  | none => .ok req
  | some header =>
      match HeaderName.parse header, HeaderValue.fromStr requestId with
      | some name, some value => .ok { req with headers := req.headers.insert name value }
      | _, _ => .error .unwrap

/-- The line on a request; the URI is the whole of it. -/
def line (requestId : Text) (req : Request) : Except ε Response → LogLine
  | .ok response => .completed requestId req.method.text req.uri.toText response.status
  | .error _ => ⟨.warn, requestId, req.method.text, req.uri.toText, none, "Request failed"⟩

/-- `LoggingService::call`; `requestId` is the fresh UUID. -/
def call (requestId : Text) (service : LoggingService σ ε) (st : List LogLine × σ)
    (req : Request) :
    (List LogLine × σ → Except Panic (Except ε Response) × (List LogLine × σ)) ×
      (List LogLine × σ) :=
  match stamp service.requestIdHeader requestId req with
  | .error panic => (fun st => (.error panic, st), st)
  | .ok stamped =>
      let called := service.inner.call st.2 stamped
      (fun st => match called.1 st.2 with
        | (.error panic, s) => (.error panic, st.1, s)
        | (.ok result, s) => (.ok result, st.1 ++ [line requestId req result], s),
        st.1, called.2)

/-- The service of a request id. -/
def service (logging : LoggingService σ ε) (requestId : Text) :
    AsyncService (List LogLine × σ) ε :=
  ⟨logging.call requestId⟩

end LoggingService

/-! ### Metrics -/

/-- `MetricsService`: the wrapped service, and the route. -/
structure MetricsService (σ ε : Type) where
  inner : AsyncService σ ε
  routeId : Text

namespace MetricsService

/-- What is counted of a result: nothing of an error. -/
def samples (metrics : RequestMetrics) : Except ε Response → List Sample
  | .ok response => metrics.recordSuccess response.status.code
  | .error _ => []

/-- `MetricsService::call`. -/
def call (service : MetricsService σ ε) (st : List Sample × σ) (req : Request) :
    (List Sample × σ → Except Panic (Except ε Response) × (List Sample × σ)) ×
      (List Sample × σ) :=
  let metrics : RequestMetrics := ⟨req.method.text, req.uri.path, service.routeId⟩
  let called := service.inner.call st.2 req
  (fun st => match called.1 st.2 with
    | (.error panic, s) => (.error panic, st.1, s)
    | (.ok result, s) => (.ok result, st.1 ++ samples metrics result, s),
    st.1, called.2)

def service (metrics : MetricsService σ ε) : AsyncService (List Sample × σ) ε :=
  ⟨metrics.call⟩

end MetricsService

/-! ### Calls at work -/

/-- A call of a service: which of its kind (of a request id, at a time), with what request, in which
state, and what has come of its future. -/
structure Call (ι σ ε : Type) where
  index : ι
  request : Request
  called : σ
  outcome : Option (Except Panic (Except ε Response))

namespace AsyncService

variable {ι : Type}

/-- The future of a call is awaited, or dropped before that. -/
inductive Moves (service : ι → AsyncService σ ε) (s : σ) :
    Call ι σ ε → σ → Option (Call ι σ ε) → Prop where
  | await {c : Call ι σ ε} (h : c.outcome = none) :
      Moves service s c (((service c.index).call c.called c.request).1 s).2
        (some { c with outcome := some (((service c.index).call c.called c.request).1 s).1 })
  | dropped {c : Call ι σ ε} (h : c.outcome = none) : Moves service s c s none

/-- A service is called. -/
inductive Starts (service : ι → AsyncService σ ε) (s : σ) : σ → Call ι σ ε → Prop where
  | call (i : ι) (req : Request) :
      Starts service s ((service i).call s req).2 ⟨i, req, s, none⟩

/-- A service at work. -/
def system (service : ι → AsyncService σ ε) : System σ (Call ι σ ε) where
  Moves := Moves service
  Starts := Starts service
  Changes s s' := s = s'

end AsyncService

/-! ### The cache at work -/

/-- Where the future of `CacheMiddlewareService::call` stands; `fromCache` is what the lookup has
found. -/
inductive CacheStage (σ ε : Type) where
  | passing (future : σ → Except Panic (Except ε Response) × σ)
  | looking (future : σ → Except Panic (Except ε Response) × σ)
  | awaiting (future : σ → Except Panic (Except ε Response) × σ)
  | storing (response : Response)
  | answered (fromCache : Option CachedResponse) (reply : Except Panic (Except ε Response))

/-- A call of the service. -/
structure CacheTask (σ ε : Type) where
  request : Request
  stage : CacheStage σ ε

/-- What the calls share: the wrapped service and the cache.  Beside that, what the wrapped service
has answered, and to what. -/
structure CacheServer (σ κ : Type) where
  inner : σ
  cache : κ
  given : List (Request × Response)

namespace CacheMiddlewareService

variable {κ : Type}

/-- The future of a call, at the beginning. -/
def begin (service : CacheMiddlewareService σ κ ε) (s : σ) (req : Request) : CacheStage σ ε :=
  if req.method = .get then .looking (service.inner.call s req).1
  else .passing (service.inner.call s req).1

/-- **One step of the future**, up to the next `await`. -/
def advance (service : CacheMiddlewareService σ κ ε) (req : Request) (s : σ) (k : κ) :
    CacheStage σ ε → CacheStage σ ε × σ × κ
  | .passing future => (.answered none (future s).1, (future s).2, k)
  | .looking future =>
      match service.cache.backend.get k (service.cache.buildKey req) with
      | (.ok (some cached), k) =>
          (.answered (some cached) ((Gateway.hitReply cached).map .ok), s, k)
      | (_, k) => (.awaiting future, s, k)
  | .awaiting future =>
      match future s with
      | (.error panic, s) => (.answered none (.error panic), s, k)
      | (.ok (.error e), s) => (.answered none (.ok (.error e)), s, k)
      | (.ok (.ok response), s) =>
          if service.cache.shouldCache newRequest response.status.code then
            (.storing response, s, k)
          else (.answered none (.ok (.ok response)), s, k)
  | .storing response =>
      (.answered none ((missReply response).map .ok), s,
        (service.cache.set k (service.cache.buildKey req) (cachedOf response)).2)
  | .answered fromCache reply => (.answered fromCache reply, s, k)

/-- What the wrapped service answers in a step. -/
def answerOf (s : σ) : CacheStage σ ε → Option Response
  | .passing future => (future s).1.toOption.bind Except.toOption
  | .awaiting future => (future s).1.toOption.bind Except.toOption
  | _ => none

/-- The shared state after a step of a call. -/
def after (service : CacheMiddlewareService σ κ ε) (w : CacheServer σ κ) (t : CacheTask σ ε) :
    CacheServer σ κ where
  inner := (service.advance t.request w.inner w.cache t.stage).2.1
  cache := (service.advance t.request w.inner w.cache t.stage).2.2
  given := w.given ++ ((answerOf w.inner t.stage).map (t.request, ·)).toList

inductive Moves (service : CacheMiddlewareService σ κ ε) (w : CacheServer σ κ) :
    CacheTask σ ε → CacheServer σ κ → Option (CacheTask σ ε) → Prop where
  | advance (t : CacheTask σ ε) :
      Moves service w t (service.after w t)
        (some { t with stage := (service.advance t.request w.inner w.cache t.stage).1 })
  | dropped (t : CacheTask σ ε) : Moves service w t w none

inductive Starts (service : CacheMiddlewareService σ κ ε) (w : CacheServer σ κ) :
    CacheServer σ κ → CacheTask σ ε → Prop where
  | call (req : Request) :
      Starts service w { w with inner := (service.inner.call w.inner req).2 }
        ⟨req, service.begin w.inner req⟩

/-- The service at work; `Fades` says how the cache can change by itself. -/
def system (service : CacheMiddlewareService σ κ ε) (Fades : κ → κ → Prop) :
    System (CacheServer σ κ) (CacheTask σ ε) where
  Moves := Moves service
  Starts := Starts service
  Changes w w' := w'.given = w.given ∧ Fades w.cache w'.cache

end CacheMiddlewareService

end MiniGateway
