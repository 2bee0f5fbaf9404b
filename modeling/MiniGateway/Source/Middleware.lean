import MiniGateway.Source.Gateway

/-!
# Source — Middleware

The services of `middleware/auth.rs`, `middleware/cors.rs`, `middleware/rate_limit.rs` and
`middleware/cache.rs`: each wraps a service and does there what `handle_request` does in line.

The answers to a missing and to a refused token are the ones of the gateway, letter by letter;
so are the answer to a request over the limit, the answer out of the cache and the way the
`origin` header is read.
-/

namespace MiniGateway

open Http

variable {σ ε : Type}

/-- `AuthService`: the wrapped service, and the layer it was made by. -/
structure AuthService (σ ε : Type) where
  inner : Service σ ε
  config : AuthLayer

/-- `AuthService::call`, at a time.  A user id that is no header value panics. -/
def AuthService.call (J : TokenDecoder) (now : Nat) (service : AuthService σ ε) (s : σ)
    (req : Request) : Except Panic (Except ε Response) × σ :=
  if !service.config.config.enabled || service.config.isExcludedPath req.uri.path then
    service.inner.call s req
  else
    match AuthLayer.extractToken req with
    | none => ((Gateway.unauthorized "Missing or invalid token").map .ok, s)
    | some token =>
        match service.config.validateJwt J now token with
        | .ok claims =>
            match HeaderValue.fromStr claims.sub with
            | some value => service.inner.call s
                { req with headers := req.headers.insert Gateway.userIdName value }
            | none => (.error .unwrap, s)
        | .error e => ((Gateway.unauthorized e.toText).map .ok, s)

/-- `CorsService`: the wrapped service, and the layer. -/
structure CorsService (σ ε : Type) where
  inner : Service σ ε
  config : CorsLayer

namespace CorsService

/-- The answer to a preflight request from an origin that is not allowed. -/
def forbidden : Except Panic Response :=
  unwrap ((Builder.new.status 403).body (Text.utf8 "CORS origin not allowed"))

/-- What becomes of the wrapped service's answer; an error of the service is handed on. -/
def annotate (config : CorsLayer) (origin : Text) (result : Except ε Response) :
    Except Panic (Except ε Response) :=
  match result with
  | .error e => .ok (.error e)
  | .ok response =>
      if !origin.isEmpty && config.isOriginAllowed origin then
        (config.addCorsHeaders response origin).map .ok
      else .ok (.ok response)

/-- `CorsService::call`. -/
def call (service : CorsService σ ε) (s : σ) (req : Request) :
    Except Panic (Except ε Response) × σ :=
  let origin := Gateway.originOf req.headers
  if req.method = .options then
    if service.config.isOriginAllowed origin then
      ((service.config.buildPreflightResponse origin).map .ok, s)
    else (forbidden.map .ok, s)
  else
    let answer := service.inner.call s req
    (answer.1.bind (annotate service.config origin), answer.2)

end CorsService

/-! ### The rate limit -/

/-- `RateLimitService`: the wrapped service, the limiter and the way its keys are made. -/
structure RateLimitService (lim σ ε : Type) where
  inner : AsyncService σ ε
  limiter : RateLimit.KeyedLimiter lim
  keyStrategy : RateLimitKeyStrategy

/-- `RateLimitService::call`, at a time: the key is checked at once, the wrapped service is called
if it is admitted. -/
def RateLimitService.call {lim : Type} (now : Nat) (service : RateLimitService lim σ ε)
    (st : lim × σ) (req : Request) :
    (lim × σ → Except Panic (Except ε Response) × (lim × σ)) × (lim × σ) :=
  match service.limiter.checkKey st.1 (RateLimitLayer.requestKey service.keyStrategy req) now with
  | (true, l) =>
      let called := service.inner.call st.2 req
      (fun st => ((called.1 st.2).1, st.1, (called.1 st.2).2), l, called.2)
  | (false, l) => (fun st => (Gateway.tooManyRequests.map .ok, st), l, st.2)

/-- The service at a time. -/
def RateLimitService.service {lim : Type} (now : Nat) (service : RateLimitService lim σ ε) :
    AsyncService (lim × σ) ε :=
  ⟨service.call now⟩

/-! ### The cache -/

/-- A call of the cache's backend. -/
inductive CacheCall where
  | get (key : Text)
  | set (key : Text) (value : CachedResponse) (ttl : Nat)
  deriving DecidableEq

/-- What the future of `CacheMiddlewareService::call` leaves behind. -/
structure CacheAnswer (σ κ ε : Type) where
  reply : Except Panic (Except ε Response)
  inner : σ
  cache : κ
  calls : List CacheCall

/-- `CacheMiddlewareService`: the wrapped service, and the cache. -/
structure CacheMiddlewareService (σ κ ε : Type) where
  inner : AsyncService σ ε
  cache : CacheLayer κ

namespace CacheMiddlewareService

variable {κ : Type}

/-- `Request::new(())`: a `GET` of `/`, without headers. -/
def newRequest : Request := ⟨.get, ⟨none, none, "/".toList, none⟩, .empty, .ok []⟩

/-- What is stored of a response. -/
def cachedOf (response : Response) : CachedResponse where
  status := response.status.code
  headers := response.headers.entries.map fun e => (e.1.text, e.2.bytes)
  body := response.body

/-- The response again, with one more header. -/
def missReply (response : Response) : Except Panic Response :=
  let b := response.headers.entries.foldl (fun b e => b.header e.1.text e.2.bytes)
    (Builder.new.status response.status.code)
  unwrap ((b.header "X-Cache" (Text.utf8 "MISS")).body response.body)

/-- The end of the future, with the wrapped service's answer at hand. -/
def store (cache : CacheLayer κ) (key : Text) (answer : Except Panic (Except ε Response) × σ)
    (k : κ) : CacheAnswer σ κ ε :=
  match answer with
  | (.error panic, s) => ⟨.error panic, s, k, [.get key]⟩
  | (.ok (.error e), s) => ⟨.ok (.error e), s, k, [.get key]⟩
  | (.ok (.ok response), s) =>
      -- the request itself has gone to the wrapped service
      if cache.shouldCache newRequest response.status.code then
        { reply := (missReply response).map .ok
          inner := s
          cache := (cache.set k key (cachedOf response)).2
          calls := [.get key,
            .set key (cachedOf response) (fromSecs cache.config.defaultTtlSecs)] }
      else ⟨.ok (.ok response), s, k, [.get key]⟩

/-- `CacheMiddlewareService::call`: the wrapped service is called first; the future looks the key
up, and awaits the wrapped future on a miss. -/
def call (service : CacheMiddlewareService σ κ ε) (s : σ) (req : Request) :
    (σ → κ → CacheAnswer σ κ ε) × σ :=
  let called := service.inner.call s req
  if req.method = .get then
    let key := service.cache.buildKey req
    (fun s k => match service.cache.backend.get k key with
      | (.ok (some cached), k) => ⟨(Gateway.hitReply cached).map .ok, s, k, [.get key]⟩
      | (_, k) => store service.cache key (called.1 s) k, called.2)
  else
    (fun s k => ⟨(called.1 s).1, (called.1 s).2, k, []⟩, called.2)

end CacheMiddlewareService

end MiniGateway
