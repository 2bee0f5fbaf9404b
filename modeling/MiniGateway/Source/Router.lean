import MiniGateway.Source.Config
import MiniGateway.Support.Regex

/-!
# Source — Router

`router.rs` and the discovery trait it resolves services through.

`Router::new` compiles each route's path into an anchored pattern; `match_route` walks the
routes in order, skips those whose pattern or methods reject the request, and answers with the
first that is left — or with nothing, when the upstream of that one does not resolve.
-/

namespace MiniGateway

open Http

/-- The `ServiceDiscovery` trait, over the state `δ` of its implementation. -/
structure ServiceDiscovery (δ : Type) where
  resolve : δ → Text → Except GatewayError Text × δ
  healthCheck : δ → Text → Except GatewayError (List Text) × δ
  watch : δ → Text → Except GatewayError Unit × δ

structure RouteEntry (ρ : Type) where
  config : RouteConfig
  pathRegex : ρ

structure RouteMatch where
  routeId : Text
  upstreamUrl : Text
  stripPrefix : Option Text
  timeoutMs : Option Nat
  cacheEnabled : Bool
  authRequired : Bool
  retry : Option RetryConfig
  deriving DecidableEq, Repr

structure Router (ρ δ : Type) where
  routes : List (RouteEntry ρ)
  discovery : Option (ServiceDiscovery δ)

namespace Router

variable {ρ δ : Type}

/-- The pattern `Router::new` builds for a route's path. -/
def pattern (E : Regex.Engine ρ) (path : Text) : Text :=
  if path.endsWith "/**" then
    "^".toList ++ E.escape (path.take (path.length - 3)) ++ "(/.*)?$".toList
  else if path.endsWith "/*" then
    "^".toList ++ E.escape (path.take (path.length - 2)) ++ "(/.*)?$".toList
  else
    "^".toList ++ E.escape path ++ "$".toList

/-- The loop of `Router::new`. -/
def compile (E : Regex.Engine ρ) : List RouteConfig → Except GatewayError (List (RouteEntry ρ))
  | [] => .ok []
  | route :: routes =>
      match E.new (pattern E route.path) with
      | .error e => .error (.config ("Invalid route pattern '".toList ++ route.path ++
          "': ".toList ++ e))
      | .ok regex =>
          match compile E routes with
          | .error e => .error e
          | .ok entries => .ok (⟨route, regex⟩ :: entries)

def new (E : Regex.Engine ρ) (routes : List RouteConfig) : Except GatewayError (Router ρ δ) :=
  match compile E routes with
  | .error e => .error e
  | .ok entries => .ok ⟨entries, none⟩

def withDiscovery (r : Router ρ δ) (discovery : ServiceDiscovery δ) : Router ρ δ :=
  { r with discovery := some discovery }

def resolveUpstream (r : Router ρ δ) (d : δ) : UpstreamConfig → Except GatewayError Text × δ
  | .static url => (.ok url, d)
  | .service name _ =>
      match r.discovery with
      | some disc => disc.resolve d name
      | none => (.error (.discovery "Service discovery not configured"), d)
  | .loadBalance [] _ => (.error .upstreamUnavailable, d)
  | .loadBalance (endpoint :: _) _ => (.ok endpoint, d)

/-- Does the `methods` list of a route let the method through? -/
def methodAllowed (methods : Option (List Text)) (method : Method) : Bool :=
  match methods with
  | some ms => ms.any (·.eqIgnoreAsciiCase method.text)
  | none => true

/-- What `match_route` answers for a route whose upstream resolved to `upstreamUrl`. -/
def routeMatch (config : RouteConfig) (upstreamUrl : Text) : RouteMatch where
  routeId := config.id
  upstreamUrl := upstreamUrl
  stripPrefix := config.stripPrefix
  timeoutMs := config.timeoutMs
  cacheEnabled := config.cacheEnabled.getD false
  authRequired := config.authRequired.getD false
  retry := config.retry

/-- The end of `match_route` at the entry that accepted: `resolve_upstream(..).await.ok()?`. -/
def answer (r : Router ρ δ) (d : δ) (entry : RouteEntry ρ) : Option RouteMatch × δ :=
  match r.resolveUpstream d entry.config.upstream with
  | (.ok url, d') => (some (routeMatch entry.config url), d')
  | (.error _, d') => (none, d')

/-- The loop of `match_route`.  A route that accepts the request ends it, resolved or not. -/
def matchLoop (E : Regex.Engine ρ) (r : Router ρ δ) (req : Request) (d : δ) :
    List (RouteEntry ρ) → Option RouteMatch × δ
  | [] => (none, d)
  | entry :: entries =>
      if !E.isMatch entry.pathRegex req.uri.path then r.matchLoop E req d entries
      else if !methodAllowed entry.config.methods req.method then r.matchLoop E req d entries
      else r.answer d entry

def matchRoute (E : Regex.Engine ρ) (r : Router ρ δ) (req : Request) (d : δ) :
    Option RouteMatch × δ :=
  r.matchLoop E req d r.routes

end Router

end MiniGateway
