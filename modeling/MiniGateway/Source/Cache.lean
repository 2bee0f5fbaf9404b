import MiniGateway.Source.Config
import MiniGateway.Support.Utf8

/-!
# Source — Cache

`cache/mod.rs`: what is cached, the backend trait and the layer over it.  A backend's state is
`κ`; its operations thread it.
-/

namespace MiniGateway

open Http

structure CachedResponse where
  status : Nat
  headers : List (Text × Bytes)
  body : Bytes
  deriving DecidableEq

/-- `Duration::from_secs`; a duration is in nanoseconds. -/
def fromSecs (secs : Nat) : Nat := secs * 1000000000

/-- `as_secs`. -/
def asSecs (duration : Nat) : Nat := duration / 1000000000

/-- `CacheBackendTrait`; a time to live is a duration. -/
structure CacheBackendTrait (κ : Type) where
  get : κ → Text → Except GatewayError (Option CachedResponse) × κ
  set : κ → Text → CachedResponse → Nat → Except GatewayError Unit × κ
  delete : κ → Text → Except GatewayError Unit × κ
  clear : κ → Except GatewayError Unit × κ

structure CacheLayer (κ : Type) where
  backend : CacheBackendTrait κ
  config : CacheConfig

namespace CacheLayer

variable {κ : Type}

/-- `MemoryCache::new` and `RedisCache::new` are the two arguments. -/
def new (memory : Option Nat → CacheBackendTrait κ)
    (redis : Text → Except GatewayError (CacheBackendTrait κ)) (config : CacheConfig) :
    Except GatewayError (CacheLayer κ) :=
  match config.backend with
  | .memory => .ok ⟨memory config.maxCapacity, config⟩
  | .redis url =>
      match redis url with
      | .ok backend => .ok ⟨backend, config⟩
      | .error e => .error (.cache ("Redis cache init failed: ".toList ++ e.toText))

def shouldCache (cache : CacheLayer κ) (req : Request) (status : Nat) : Bool :=
  if !cache.config.enabled then false
  else if !cache.config.cacheableMethods.any (·.eqIgnoreAsciiCase req.method.text) then false
  else if !cache.config.cacheableStatuses.any (· == status) then false
  else if cache.config.excludedPaths.any (req.uri.path.startsWith ·) then false
  else true

/-- `format!("cache:{}:{}", method, uri)`. -/
def methodKey (req : Request) : Text :=
  "cache:".toList ++ (req.method.text ++ ':' :: req.uri.toText)

/-- What one listed header adds to the key. -/
def headerPart (req : Request) (name : Text) : Text :=
  match req.headers.getStr name with
  | some value => ':' :: Utf8.fromUtf8Lossy value.bytes
  | none => []

/-- `build_key`, by the configured strategy. -/
def keyOf (strategy : CacheKeyStrategy) (req : Request) : Text :=
  match strategy with
  | .uri => "cache:".toList ++ req.uri.toText
  | .uriWithMethod => methodKey req
  | .uriWithHeaders headers =>
      headers.foldl (fun key name => key ++ headerPart req name) (methodKey req)

def buildKey (cache : CacheLayer κ) (req : Request) : Text := keyOf cache.config.keyStrategy req

def set (cache : CacheLayer κ) (k : κ) (key : Text) (value : CachedResponse) :
    Except GatewayError Unit × κ :=
  cache.backend.set k key value (fromSecs cache.config.defaultTtlSecs)

end CacheLayer

end MiniGateway
