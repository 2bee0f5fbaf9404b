import MiniGateway.Support.Http

/-!
# Source — Config

`config.rs` and `error.rs`: the configuration the gateway is built from, and its error type with
the text and the status of each error.

Fields no function of the gateway reads (`rate_limit.paths`, a route's `rate_limit_key`, the
server, log level and log output settings) are left out.
-/

namespace MiniGateway

open Http

/-! ### `config.rs` -/

inductive LoadBalanceStrategy where
  | roundRobin
  | random
  | leastConnections
  | ipHash
  deriving DecidableEq, Repr

inductive UpstreamConfig where
  | static (url : Text)
  | service (name discovery : Text)
  | loadBalance (endpoints : List Text) (strategy : LoadBalanceStrategy)
  deriving DecidableEq, Repr

structure RetryConfig where
  maxAttempts : Nat
  backoffMs : Nat
  deriving DecidableEq, Repr

structure RouteConfig where
  id : Text
  path : Text
  methods : Option (List Text)
  upstream : UpstreamConfig
  stripPrefix : Option Text
  retry : Option RetryConfig
  timeoutMs : Option Nat
  cacheEnabled : Option Bool
  authRequired : Option Bool
  deriving DecidableEq, Repr

inductive RateLimitKeyStrategy where
  | global
  | ip
  | header (name : Text)
  | custom (key : Text)
  deriving DecidableEq, Repr

structure RateLimitConfig where
  enabled : Bool
  requestsPerSecond : Nat
  burstSize : Nat
  keyStrategy : RateLimitKeyStrategy
  deriving DecidableEq, Repr

structure CorsConfig where
  enabled : Bool
  allowOrigins : List Text
  allowMethods : List Text
  allowHeaders : List Text
  allowCredentials : Bool
  maxAge : Option Nat
  exposeHeaders : Option (List Text)
  deriving DecidableEq, Repr

inductive AuthProvider where
  | jwt (secret : Text) (issuer audience : Option Text)
  | oauth2 (clientId clientSecret tokenUrl : Text) (authorizeUrl : Option Text)
      (scopes : Option (List Text))
  deriving DecidableEq, Repr

structure AuthConfig where
  enabled : Bool
  provider : AuthProvider
  excludedPaths : List Text
  deriving DecidableEq, Repr

inductive CacheBackend where
  | memory
  | redis (url : Text)
  deriving DecidableEq, Repr

inductive CacheKeyStrategy where
  | uri
  | uriWithMethod
  | uriWithHeaders (headers : List Text)
  deriving DecidableEq, Repr

structure CacheConfig where
  enabled : Bool
  backend : CacheBackend
  defaultTtlSecs : Nat
  maxCapacity : Option Nat
  cacheableMethods : List Text
  cacheableStatuses : List Nat
  keyStrategy : CacheKeyStrategy
  excludedPaths : List Text
  deriving DecidableEq, Repr

inductive DiscoveryProvider where
  | consul (address : Text) (datacenter : Option Text)
  | etcd (endpoints : List Text)
  deriving DecidableEq, Repr

structure DiscoveryConfig where
  enabled : Bool
  provider : DiscoveryProvider
  refreshIntervalSecs : Nat
  deriving DecidableEq, Repr

structure ClientAuthConfig where
  enabled : Bool
  caPath : Text
  deriving DecidableEq, Repr

structure TlsConfig where
  enabled : Bool
  certPath : Text
  keyPath : Text
  clientAuth : Option ClientAuthConfig
  deriving DecidableEq, Repr

structure PoolConfig where
  enabled : Bool
  maxConnections : Nat
  idleTimeoutSecs : Nat
  deriving DecidableEq, Repr

/-- Of the logging section, the header that carries the request id. -/
structure LoggingConfig where
  requestIdHeader : Option Text
  deriving DecidableEq, Repr

structure GatewayConfig where
  tls : Option TlsConfig
  routes : List RouteConfig
  rateLimit : Option RateLimitConfig
  cors : Option CorsConfig
  auth : Option AuthConfig
  cache : Option CacheConfig
  discovery : Option DiscoveryConfig
  logging : LoggingConfig
  pool : Option PoolConfig
  deriving DecidableEq, Repr

/-- `GatewayConfig::default`. -/
def GatewayConfig.default : GatewayConfig where
  tls := none
  routes := []
  rateLimit := none
  cors := some
    { enabled := true
      allowOrigins := ["*"]
      allowMethods := ["GET", "POST", "PUT", "DELETE", "OPTIONS"]
      allowHeaders := ["*"]
      allowCredentials := false
      maxAge := some 3600
      exposeHeaders := none }
  auth := none
  cache := none
  discovery := none
  logging := ⟨some "x-request-id"⟩
  pool := some ⟨true, 100, 60⟩

/-- `create_demo_config` of `main.rs`, used where there is no configuration file. -/
def createDemoConfig : GatewayConfig where
  tls := none
  routes :=
    [{ id := "api"
       path := "/api/**"
       methods := none
       upstream := .static "http://localhost:3000"
       stripPrefix := some "/api"
       retry := some ⟨3, 100⟩
       timeoutMs := some 30000
       cacheEnabled := some false
       authRequired := some false },
     { id := "health"
       path := "/health"
       methods := some ["GET"]
       upstream := .static "http://localhost:3000"
       stripPrefix := none
       retry := none
       timeoutMs := some 5000
       cacheEnabled := some false
       authRequired := some false }]
  rateLimit := some ⟨true, 100, 200, .ip⟩
  cors := some
    { enabled := true
      allowOrigins := ["*"]
      allowMethods := ["GET", "POST", "PUT", "DELETE", "OPTIONS"]
      allowHeaders := ["*"]
      allowCredentials := false
      maxAge := some 3600
      exposeHeaders := some ["X-Request-ID"] }
  auth := none
  cache := some
    { enabled := true
      backend := .memory
      defaultTtlSecs := 300
      maxCapacity := some 10000
      cacheableMethods := ["GET"]
      cacheableStatuses := [200, 301, 404]
      keyStrategy := .uriWithMethod
      excludedPaths := ["/api/auth/**"] }
  discovery := none
  logging := ⟨some "x-request-id"⟩
  pool := some ⟨true, 100, 60⟩

/-! ### `error.rs` -/

/-- `GatewayError`; the errors it wraps are the texts they display. -/
inductive GatewayError where
  | io (e : Text)
  | http (e : Text)
  | httpBody (e : Text)
  | config (e : Text)
  | tls (e : Text)
  | discovery (e : Text)
  | auth (e : Text)
  | rateLimited
  | cache (e : Text)
  | proxy (e : Text)
  | serialization (e : Text)
  | invalidUri (e : Text)
  | timeout
  | upstreamUnavailable
  | internal (e : Text)
  deriving DecidableEq, Repr

namespace GatewayError

/-- `Display`. -/
def toText : GatewayError → Text
  | .io e => "IO error: ".toList ++ e
  | .http e => "HTTP error: ".toList ++ e
  | .httpBody e => "HTTP body error: ".toList ++ e
  | .config e => "Configuration error: ".toList ++ e
  | .tls e => "TLS error: ".toList ++ e
  | .discovery e => "Service discovery error: ".toList ++ e
  | .auth e => "Authentication error: ".toList ++ e
  | .rateLimited => "Rate limit exceeded".toList
  | .cache e => "Cache error: ".toList ++ e
  | .proxy e => "Proxy error: ".toList ++ e
  | .serialization e => "Serialization error: ".toList ++ e
  | .invalidUri e => "Invalid URI: ".toList ++ e
  | .timeout => "Request timeout".toList
  | .upstreamUnavailable => "Upstream unavailable".toList
  | .internal e => "Internal error: ".toList ++ e

def statusCode : GatewayError → StatusCode
  | .rateLimited => ⟨429, by decide⟩
  | .auth _ => ⟨401, by decide⟩
  | .timeout => ⟨504, by decide⟩
  | .upstreamUnavailable => ⟨502, by decide⟩
  | .invalidUri _ => ⟨400, by decide⟩
  | _ => ⟨500, by decide⟩

end GatewayError

end MiniGateway
