import MiniGateway.Source.Auth
import MiniGateway.Source.Cache
import MiniGateway.Source.Cors
import MiniGateway.Source.Proxy
import MiniGateway.Source.RateLimit

/-!
# Source — Gateway

`gateway.rs`: building the gateway from a configuration, and handling one request.

`handle_request` is a pipeline with an early return at each stage.  Each stage is a function of
its own here, which answers or hands over to the next: `handleRequest` matches the route,
`routed` answers preflights and checks the token, `limited` asks the limiter, `cached` the
cache, and `forward` sends the request upstream.

The whole of a request is handled at one time, `World.now`.  Logging is left out.
-/

namespace MiniGateway

open Http RateLimit

/-! ### Building a gateway -/

/-- What the gateway is linked against. -/
structure Libraries (ρ lim κ υ δ : Type) where
  regex : Regex.Engine ρ
  tokens : TokenDecoder
  keyed : Quota → KeyedLimiter lim
  memory : Option Nat → CacheBackendTrait κ
  redis : Text → Except GatewayError (CacheBackendTrait κ)
  consul : DiscoveryConfig → Except GatewayError (ServiceDiscovery δ)
  etcd : DiscoveryConfig → Except GatewayError (ServiceDiscovery δ)
  /-- A panic of `create_tls_acceptor` is told as an error: either way there is no gateway. -/
  tlsAcceptor : TlsConfig → Except GatewayError Unit
  client : Nat → Nat → Client υ

structure Gateway (ρ lim κ υ δ : Type) where
  config : GatewayConfig
  router : Router ρ δ
  proxyClient : ProxyClient υ
  authLayer : Option AuthLayer
  rateLimitLayer : Option (RateLimitLayer lim)
  corsLayer : Option CorsLayer
  cacheLayer : Option (CacheLayer κ)

/-- What handling a request leaves behind: the answer, or a panic; the world; the events. -/
structure Handled (lim κ υ δ : Type) where
  reply : Except Panic Response
  world : World lim κ υ δ
  events : List Event

/-- The same, after one more event. -/
def Handled.after {lim κ υ δ : Type} (e : Event) (h : Handled lim κ υ δ) : Handled lim κ υ δ :=
  { h with events := e :: h.events }

namespace Gateway

variable {ρ lim κ υ δ : Type}

/-- `watch` each service a route names; whether it succeeds does not matter. -/
def watchServices (disc : ServiceDiscovery δ) (routes : List RouteConfig) (d : δ) : δ :=
  routes.foldl (fun d route => match route.upstream with
    | .service name _ => (disc.watch d name).2
    | _ => d) d

/-- The discovery a configuration asks for. -/
def discoveryOf (L : Libraries ρ lim κ υ δ) (config : GatewayConfig) :
    Except GatewayError (Option (ServiceDiscovery δ)) :=
  match config.discovery with
  | some disc =>
      if disc.enabled then
        match disc.provider with
        | .consul .. => (L.consul disc).map some
        | .etcd .. => (L.etcd disc).map some
      else .ok none
  | none => .ok none

def checkTls (L : Libraries ρ lim κ υ δ) (config : GatewayConfig) : Except GatewayError Unit :=
  match config.tls with
  | some tls => if tls.enabled then L.tlsAcceptor tls else .ok ()
  | none => .ok ()

/-- An enabled section gives a layer. -/
def authLayerOf (config : GatewayConfig) : Except GatewayError (Option AuthLayer) :=
  match config.auth with
  | some auth =>
      if auth.enabled then
        match AuthLayer.new auth with
        | .ok layer => .ok (some layer)
        | .error e => .error (.auth e.toText)
      else .ok none
  | none => .ok none

def rateLimitLayerOf (L : Libraries ρ lim κ υ δ) (config : GatewayConfig) :
    Option (RateLimitLayer lim) :=
  match config.rateLimit with
  | some rl =>
      if rl.enabled then
        some (RateLimitLayer.new L.keyed rl.requestsPerSecond rl.burstSize rl.keyStrategy)
      else none
  | none => none

def corsLayerOf (config : GatewayConfig) : Option CorsLayer :=
  match config.cors with
  | some cors => if cors.enabled then some (CorsLayer.new cors) else none
  | none => none

def cacheLayerOf (L : Libraries ρ lim κ υ δ) (config : GatewayConfig) :
    Except GatewayError (Option (CacheLayer κ)) :=
  match config.cache with
  | some cache =>
      if cache.enabled then (CacheLayer.new L.memory L.redis cache).map some else .ok none
  | none => .ok none

def proxyClientOf (L : Libraries ρ lim κ υ δ) (config : GatewayConfig) : ProxyClient υ :=
  match config.pool with
  | some pool =>
      if pool.enabled then ProxyClient.withPool L.client pool.maxConnections pool.idleTimeoutSecs
      else ProxyClient.new L.client
  | none => ProxyClient.new L.client

/-- `Gateway::new`, from the state of the service discovery; the first error ends it. -/
def new (L : Libraries ρ lim κ υ δ) (config : GatewayConfig) (d : δ) :
    Except GatewayError (Gateway ρ lim κ υ δ × δ) := do
  let router ← Router.new L.regex config.routes
  let discovery ← discoveryOf L config
  checkTls L config
  let authLayer ← authLayerOf config
  let cacheLayer ← cacheLayerOf L config
  .ok ({ config := config
         router := discovery.elim router router.withDiscovery
         proxyClient := proxyClientOf L config
         authLayer := authLayer
         rateLimitLayer := rateLimitLayerOf L config
         corsLayer := corsLayerOf config
         cacheLayer := cacheLayer },
    discovery.elim d fun disc => watchServices disc config.routes d)

/-! ### Answers -/

/-- `Response::builder().status(status).header(name, value).body(body).unwrap()`. -/
def plainReply (status : Nat) (name value body : Text) : Except Panic Response :=
  unwrap (((Builder.new.status status).header name value.utf8).body body.utf8)

/-- A JSON object with two members, the second a string. -/
def errorBody (error message : Text) : Text :=
  "\x7b\"error\":\"".toList ++ error ++ "\",\"message\":\"".toList ++ message ++ "\"\x7d".toList

def notFound : Except Panic Response :=
  plainReply 404 "Content-Type" "application/json"
    (errorBody "Not Found" "No route matches the request")

def unauthorized (message : Text) : Except Panic Response :=
  plainReply 401 "WWW-Authenticate" "Bearer" (errorBody "Unauthorized" message)

def tooManyRequests : Except Panic Response :=
  plainReply 429 "Content-Type" "application/json"
    "\x7b\"error\":\"Rate limit exceeded\",\"retry_after\":1\x7d"

/-- The answer out of the cache: as stored, with one more header. -/
def hitReply (cached : CachedResponse) : Except Panic Response :=
  let b := cached.headers.foldl (fun b e => b.header e.1 e.2) (Builder.new.status cached.status)
  unwrap ((b.header "X-Cache" (Text.utf8 "HIT")).body cached.body)

def errorReply (e : GatewayError) : Except Panic Response :=
  plainReply e.statusCode.code "Content-Type" "application/json"
    (errorBody (Text.ofNat e.statusCode.code) e.toText)

/-! ### Handling a request -/

/-- The request as the stages see it: with its id, if the configured header name is legal. -/
def stampRequestId (g : Gateway ρ lim κ υ δ) (requestId : Text) (req : Request) : Request :=
  match g.config.logging.requestIdHeader with
  | some header =>
      match HeaderName.parse header, HeaderValue.fromStr requestId with
      | some name, some value => { req with headers := req.headers.insert name value }
      | _, _ => req
  | none => req

/-- `header::ORIGIN`. -/
def originName : HeaderName := ⟨"origin".toList, by decide⟩

/-- The `origin` header as text; empty if there is none. -/
def originOf (headers : HeaderMap) : Text :=
  ((headers.get originName).bind HeaderValue.toStr).getD []

/-- The answer to a preflight request from an allowed origin. -/
def preflight (g : Gateway ρ lim κ υ δ) (req : Request) : Option (Except Panic Response) :=
  match g.corsLayer with
  | some cors =>
      if req.method = .options then
        if cors.isOriginAllowed (originOf req.headers) then
          some (cors.buildPreflightResponse (originOf req.headers))
        else none
      else none
  | none => none

def userIdName : HeaderName := ⟨"x-user-id".toList, by decide⟩

/-- `x-user-id: sub`, if `sub` is a legal value. -/
def withUserId (req : Request) (claims : Claims) : Request :=
  match HeaderValue.fromStr claims.sub with
  | some value => { req with headers := req.headers.insert userIdName value }
  | none => req

/-- The auth stage: the request to go on with, or the message of the rejection. -/
def authenticate (J : TokenDecoder) (now : Nat) (g : Gateway ρ lim κ υ δ) (req : Request) :
    Except Text Request :=
  match g.authLayer with
  | some auth =>
      if auth.config.enabled && !auth.isExcludedPath req.uri.path then
        match AuthLayer.extractToken req with
        | some token =>
            match auth.validateJwt J now token with
            | .ok claims => .ok (withUserId req claims)
            | .error e => .error e.toText
        | none => .error "Missing or invalid token"
      else .ok req
  | none => .ok req

/-- An upstream's answer gets the CORS headers, if its own headers name an allowed origin. -/
def withCors (g : Gateway ρ lim κ υ δ) (response : Response) : Except Panic Response :=
  match g.corsLayer with
  | some cors =>
      -- the `origin` of the response's own headers
      let origin := originOf response.headers
      if !origin.isEmpty && cors.isOriginAllowed origin then cors.addCorsHeaders response origin
      else .ok response
  | none => .ok response

def forward (g : Gateway ρ lim κ υ δ) (route : RouteMatch) (metrics : RequestMetrics)
    (req : Request) (w : World lim κ υ δ) : Handled lim κ υ δ :=
  let sent := g.proxyClient.proxy req route metrics w.upstream
  { reply := match sent.1.result with
      | .ok response => g.withCors response
      | .error e => errorReply e
    world := { w with upstream := sent.1.upstream, increments := w.increments ++ sent.2 }
    events := sent.1.events }

/-- The cache stage; a backend error counts as a miss. -/
def cached (g : Gateway ρ lim κ υ δ) (route : RouteMatch) (metrics : RequestMetrics)
    (req : Request) (w : World lim κ υ δ) : Handled lim κ υ δ :=
  match g.cacheLayer with
  | some cache =>
      if route.cacheEnabled && decide (req.method = .get) then
        let key := cache.buildKey req
        match cache.backend.get w.cache key with
        -- nothing on this path ever stores an answer
        | (.ok (some cached), k) =>
            { reply := hitReply cached
              world := { w with cache := k }.record metrics.recordCacheHit
              events := [.lookup key true] }
        | (_, k) => (g.forward route metrics req { w with cache := k }).after (.lookup key false)
      else g.forward route metrics req w
  | none => g.forward route metrics req w

def limited (g : Gateway ρ lim κ υ δ) (route : RouteMatch) (metrics : RequestMetrics)
    (req : Request) (w : World lim κ υ δ) : Handled lim κ υ δ :=
  match g.rateLimitLayer with
  | some rl =>
      let key := RateLimitLayer.requestKey rl.keyStrategy req
      match rl.limiter.checkKey w.limiter key w.now with
      | (true, l) => (g.cached route metrics req { w with limiter := l }).after (.tick key true)
      | (false, l) =>
          { reply := tooManyRequests
            world := { w with limiter := l }.record metrics.recordRateLimited
            events := [.tick key false] }
  | none => g.cached route metrics req w

def routed (J : TokenDecoder) (g : Gateway ρ lim κ υ δ) (route : RouteMatch) (req : Request)
    (w : World lim κ υ δ) : Handled lim κ υ δ :=
  let metrics : RequestMetrics := ⟨req.method.text, req.uri.path, route.routeId⟩
  match g.preflight req with
  | some reply => ⟨reply, w, []⟩
  | none =>
      match g.authenticate J (w.now / nanos) req with
      | .error message => ⟨unauthorized message, w.record metrics.recordAuthFailure, []⟩
      | .ok req => g.limited route metrics req w

/-- `handle_request`; the peer address is not used, and `requestId` is the fresh UUID. -/
def handleRequest (L : Libraries ρ lim κ υ δ) (g : Gateway ρ lim κ υ δ) (req : Request)
    (_clientAddr : SocketAddr) (requestId : Text) (w : World lim κ υ δ) : Handled lim κ υ δ :=
  let req := g.stampRequestId requestId req
  -- a route whose upstream does not resolve counts as no route
  match g.router.matchRoute L.regex req w.discovery with
  | (some route, d) => g.routed L.tokens route req { w with discovery := d }
  | (none, d) => ⟨notFound, { w with discovery := d }, []⟩

end Gateway

end MiniGateway
