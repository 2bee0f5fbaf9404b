import MiniGateway.Source.Config

/-!
# Source — Cors

`middleware/cors.rs`: the CORS layer.  Building a header out of configured text can panic.
-/

namespace MiniGateway

open Http

structure CorsLayer where
  allowOrigins : List Text
  allowMethods : List Text
  allowHeaders : List Text
  allowCredentials : Bool
  maxAge : Option Nat
  exposeHeaders : List Text
  deriving DecidableEq

namespace CorsLayer

def new (config : CorsConfig) : CorsLayer where
  allowOrigins := config.allowOrigins
  allowMethods := config.allowMethods
  allowHeaders := config.allowHeaders
  allowCredentials := config.allowCredentials
  maxAge := config.maxAge
  exposeHeaders := config.exposeHeaders.getD []

def isOriginAllowed (cors : CorsLayer) (origin : Text) : Bool :=
  cors.allowOrigins.any fun o => o == "*".toList || o == origin

def buildPreflightResponse (cors : CorsLayer) (origin : Text) : Except Panic Response :=
  let b := (Builder.new.status 204).header "Access-Control-Allow-Origin" origin.utf8
  let b := if cors.allowCredentials then
    b.header "Access-Control-Allow-Credentials" (Text.utf8 "true") else b
  let b := b.header "Access-Control-Allow-Methods" (Text.join cors.allowMethods ", ").utf8
  let b := b.header "Access-Control-Allow-Headers" (Text.join cors.allowHeaders ", ").utf8
  let b := match cors.maxAge with
    | some age => b.header "Access-Control-Max-Age" (Text.ofNat age).utf8
    | none => b
  let b := if cors.exposeHeaders.isEmpty then b else
    b.header "Access-Control-Expose-Headers" (Text.join cors.exposeHeaders ", ").utf8
  unwrap (b.body [])

def allowOrigin : HeaderName := ⟨"access-control-allow-origin", by decide⟩
def allowCredentialsName : HeaderName := ⟨"access-control-allow-credentials", by decide⟩
def exposeHeadersName : HeaderName := ⟨"access-control-expose-headers", by decide⟩

/-- `headers_mut().insert(name, HeaderValue::from_str(value).unwrap())`. -/
def insertStr (response : Response) (name : HeaderName) (value : Text) : Except Panic Response :=
  match HeaderValue.fromStr value with
  | some v => .ok { response with headers := response.headers.insert name v }
  | none => .error .unwrap

def addCorsHeaders (cors : CorsLayer) (response : Response) (origin : Text) :
    Except Panic Response := do
  let response ← insertStr response allowOrigin origin
  let response ←
    if cors.allowCredentials then insertStr response allowCredentialsName "true"
    else .ok response
  if cors.exposeHeaders.isEmpty then .ok response
  else insertStr response exposeHeadersName (Text.join cors.exposeHeaders ", ")

end CorsLayer

end MiniGateway
