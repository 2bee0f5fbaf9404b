import MiniGateway.Source.Cache
import MiniGateway.Support.Store

/-!
# Source — Backends

`cache/memory.rs` and `cache/redis.rs`: the two cache backends.

The cache library, the Redis server and the JSON encoding are parameters.  A Redis command is sent
at a time, so `RedisCache.backend` is a backend for each time; the memory backend does not know
the time.
-/

namespace MiniGateway

open Http

/-! ### `memory.rs` -/

namespace MemoryCache

variable {μ : Type}

/-- `MemoryCache::new`; the builder sets a capacity and no expiry. -/
def new (B : Store.Bounded μ Text CachedResponse) (maxCapacity : Option Nat) : μ :=
  B.build (maxCapacity.getD 10000)

def backend (B : Store.Bounded μ Text CachedResponse) : CacheBackendTrait μ where
  get m key := (.ok (B.get m key).1, (B.get m key).2)
  -- the time to live is not used
  set m key value _ttl := (.ok (), B.insert m key value)
  delete m key := (.ok (), B.invalidate m key)
  clear m := (.ok (), B.invalidateAll m)

end MemoryCache

/-! ### `redis.rs` -/

/-- `serde_json`, at the type of what is cached. -/
structure ResponseCodec where
  toVec : CachedResponse → Except Text Bytes
  fromSlice : Bytes → Except Text CachedResponse

/-- Every value is read back from what it was written as. -/
def ResponseCodec.RoundTrips (J : ResponseCodec) : Prop :=
  ∀ v, ∃ bytes, J.toVec v = .ok bytes ∧ J.fromSlice bytes = .ok v

/-- `RedisCache`: whether the connection is there, and the server. -/
structure RedisCache (σ : Type) where
  conn : Bool
  server : σ

namespace RedisCache

variable {σ : Type}

/-- `RedisCache::new`; `openUrl` is `redis::Client::open`. -/
def new (openUrl : Text → Except Text Unit) (url : Text) (server : σ) :
    Except GatewayError (RedisCache σ) :=
  match openUrl url with
  | .ok () => .ok ⟨false, server⟩
  | .error e => .error (.cache ("Invalid Redis URL: ".toList ++ e))

/-- `get_conn`: the first use connects. -/
def getConn (S : Store.Expiring σ Text Bytes Text) (now : Nat) (c : RedisCache σ) :
    Except GatewayError Unit × RedisCache σ :=
  if c.conn then (.ok (), c)
  else
    match S.connect now c.server with
    | (.ok (), s) => (.ok (), ⟨true, s⟩)
    | (.error e, s) => (.error (.cache ("Redis connection failed: ".toList ++ e)), ⟨false, s⟩)

/-- A command on the connection; an error is told with the name of the command. -/
def command {α : Type} (S : Store.Expiring σ Text Bytes Text) (now : Nat) (name : Text)
    (run : σ → Except Text α × σ) (c : RedisCache σ) : Except GatewayError α × RedisCache σ :=
  match getConn S now c with
  | (.error e, c) => (.error e, c)
  | (.ok (), c) =>
      match run c.server with
      | (.ok a, s) => (.ok a, { c with server := s })
      | (.error e, s) => (.error (.cache ("Redis ".toList ++ name ++ " failed: ".toList ++ e)),
          { c with server := s })

/-- `deserialize`. -/
def deserialize (J : ResponseCodec) (data : Bytes) : Except GatewayError CachedResponse :=
  match J.fromSlice data with
  | .ok value => .ok value
  | .error e => .error (.serialization e)

def get (S : Store.Expiring σ Text Bytes Text) (J : ResponseCodec) (now : Nat) (c : RedisCache σ)
    (key : Text) : Except GatewayError (Option CachedResponse) × RedisCache σ :=
  match command S now "GET" (S.get now · key) c with
  | (.error e, c) => (.error e, c)
  | (.ok none, c) => (.ok none, c)
  | (.ok (some bytes), c) =>
      match deserialize J bytes with
      | .ok value => (.ok (some value), c)
      | .error e => (.error e, c)

/-- Connects first, then encodes, then sends. -/
def set (S : Store.Expiring σ Text Bytes Text) (J : ResponseCodec) (now : Nat) (c : RedisCache σ)
    (key : Text) (value : CachedResponse) (ttl : Nat) : Except GatewayError Unit × RedisCache σ :=
  match getConn S now c with
  | (.error e, c) => (.error e, c)
  | (.ok (), c) =>
      match J.toVec value with
      | .error e => (.error (.serialization e), c)
      | .ok data => command S now "SET" (S.setEx now · key data (asSecs ttl)) c

def backend (S : Store.Expiring σ Text Bytes Text) (J : ResponseCodec) (now : Nat) :
    CacheBackendTrait (RedisCache σ) where
  get := get S J now
  set := set S J now
  delete c key := command S now "DEL" (S.del now · key) c
  clear c := command S now "FLUSHDB" (S.flushDb now) c

end RedisCache

end MiniGateway
