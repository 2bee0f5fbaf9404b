import MiniGateway.Source.Config

/-!
# Source — Auth

`middleware/auth.rs`: the authentication layer, up to the service that wraps it.

The token library is a parameter, `TokenDecoder`.  What the gateway relies on is
`TokenDecoder.Documented`: `decode` accepts a token when its signature verifies and its claims
pass the validation, and the validation compares `iss` and `aud` with the configured sets only
in tokens that carry them, unless they are listed as required.

A token's other claims (`extra`) are read by nobody and left out.
-/

namespace MiniGateway

open Http

/-! ### The token library -/

structure Claims where
  sub : Text
  exp : Nat
  iat : Nat
  iss : Option Text
  aud : Option Text
  deriving DecidableEq, Repr

/-- `Validation`; the algorithm is HS256 throughout. -/
structure Validation where
  requiredSpecClaims : List Text
  leeway : Nat
  iss : Option (List Text)
  aud : Option (List Text)
  deriving DecidableEq, Repr

namespace Validation

/-- `Validation::new(Algorithm::HS256)`. -/
def new : Validation where
  requiredSpecClaims := ["exp".toList]
  leeway := 60
  iss := none
  aud := none

def setIssuer (v : Validation) (items : List Text) : Validation := { v with iss := some items }

def setAudience (v : Validation) (items : List Text) : Validation := { v with aud := some items }

/-- Is a claim that may be missing present?  `exp`, `sub` and `iat` always are. -/
def present (c : Claims) (claim : Text) : Bool :=
  if claim = "iss".toList then c.iss.isSome
  else if claim = "aud".toList then c.aud.isSome
  else true

/-- The checks on the claims of a verified token at time `now`. -/
def passes (v : Validation) (now : Nat) (c : Claims) : Bool :=
  v.requiredSpecClaims.all (present c) &&
  decide (now ≤ c.exp + v.leeway) &&
  (match c.iss, v.iss with
    | some i, some items => decide (i ∈ items)
    | _, _ => true) &&
  -- an audience is refused where none is configured; an issuer is not
  (match c.aud, v.aud with
    | some a, some items => decide (a ∈ items)
    | some _, none => false
    | none, _ => true)

end Validation

/-- The token library: what a token says under a key, and `decode`, at a given time. -/
structure TokenDecoder where
  verify : Text → Bytes → Except Text Claims
  decode : Nat → Text → Bytes → Validation → Except Text Claims

/-- `decode` is the signature check followed by the validation of the claims. -/
structure TokenDecoder.Documented (J : TokenDecoder) : Prop where
  decode_iff : ∀ (now : Nat) (token : Text) (key : Bytes) (v : Validation) (c : Claims),
    J.decode now token key v = .ok c ↔ J.verify token key = .ok c ∧ v.passes now c = true

/-! ### `auth.rs` -/

inductive AuthError where
  | missingToken
  | invalidToken (e : Text)
  | configuration (e : Text)
  deriving DecidableEq, Repr

/-- `Display`. -/
def AuthError.toText : AuthError → Text
  | .missingToken => "Missing token".toList
  | .invalidToken e => "Invalid token: ".toList ++ e
  | .configuration e => "Configuration error: ".toList ++ e

structure AuthLayer where
  config : AuthConfig
  decodingKey : Option Bytes

namespace AuthLayer

def new (config : AuthConfig) : Except GatewayError AuthLayer :=
  .ok { config := config
        decodingKey := match config.provider with
          | .jwt secret _ _ => some secret.utf8
          | .oauth2 .. => none }

/-- The test `is_excluded_path` makes for one pattern. -/
def excludes (p path : Text) : Bool :=
  if p.endsWith "/**" then path.startsWith (p.take (p.length - 3))
  else if p.endsWith "/*" then path.startsWith (p.take (p.length - 2))
  else path == p

def isExcludedPath (auth : AuthLayer) (path : Text) : Bool :=
  auth.config.excludedPaths.any (excludes · path)

/-- `header::AUTHORIZATION`. -/
def authorization : HeaderName := ⟨"authorization".toList, by decide⟩

/-- The bearer token, or the `token` parameter of the query. -/
def extractToken (req : Request) : Option Text :=
  (((req.headers.get authorization).bind HeaderValue.toStr).bind fun s =>
    if s.startsWith "Bearer " then some (s.drop 7) else none).or
  (req.uri.query.bind fun q =>
    ((q.pieces '&').find? (·.startsWith "token=")).map (·.drop 6))

/-- The validation `validate_jwt` sets up. -/
def validation (auth : AuthLayer) : Validation :=
  match auth.config.provider with
  | .jwt _ issuer audience =>
      let v := match issuer with
        | some iss => Validation.new.setIssuer [iss]
        | none => Validation.new
      match audience with
      | some aud => v.setAudience [aud]
      | none => v
  | .oauth2 .. => Validation.new

def validateJwt (J : TokenDecoder) (now : Nat) (auth : AuthLayer) (token : Text) :
    Except AuthError Claims :=
  match auth.decodingKey with
  | none => .error (.configuration "JWT not configured")
  | some key =>
      match J.decode now token key auth.validation with
      | .ok claims => .ok claims
      | .error e => .error (.invalidToken e)

end AuthLayer

end MiniGateway
