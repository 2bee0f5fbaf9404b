import MiniGateway.Source.Config
import MiniGateway.Support.RateLimit

/-!
# Source — RateLimit

`middleware/rate_limit.rs`: the layer, and the two ways a key is derived.  `extract_key` takes
the `ip` key from the peer address; the request handler and the service take it from the
`x-forwarded-for` header.
-/

namespace MiniGateway

open Http RateLimit

structure RateLimitLayer (lim : Type) where
  limiter : KeyedLimiter lim
  keyStrategy : RateLimitKeyStrategy

namespace RateLimitLayer

variable {lim : Type}

/-- The quota: zero stands for 100, in both places. -/
def quota (rps burst : Nat) : Quota where
  rate := if rps = 0 then 100 else rps
  burst := if burst = 0 then 100 else burst
  rate_pos := by split <;> omega
  burst_pos := by split <;> omega

/-- `RateLimiter::keyed` is the first argument. -/
def new (keyed : Quota → KeyedLimiter lim) (rps burst : Nat) (keyStrategy : RateLimitKeyStrategy) :
    RateLimitLayer lim :=
  ⟨keyed (quota rps burst), keyStrategy⟩

/-- `get(name).and_then(|v| v.to_str().ok()).unwrap_or("unknown")`. -/
def headerKey (req : Request) (name : Text) : Text :=
  ((req.headers.getStr name).bind HeaderValue.toStr).getD "unknown"

/-- The first address of `x-forwarded-for`. -/
def forwardedFor (req : Request) : Option Text :=
  ((req.headers.getStr "x-forwarded-for").bind HeaderValue.toStr).map fun s =>
    (s.firstPiece ',').trim

/-- `extract_key`. -/
def extractKey (strategy : RateLimitKeyStrategy) (req : Request) (clientAddr : Option SocketAddr) :
    Text :=
  match strategy with
  | .global => "global"
  | .ip => (clientAddr.map (·.ip)).getD "unknown"
  | .header name => headerKey req name
  | .custom key => key

/-- The key of `handle_request` and of `RateLimitService::call`. -/
def requestKey (strategy : RateLimitKeyStrategy) (req : Request) : Text :=
  match strategy with
  | .global => "global"
  | .ip => (forwardedFor req).getD "unknown"
  | .header name => headerKey req name
  | .custom key => key

end RateLimitLayer

end MiniGateway
