import MiniGateway.Support.Http

/-!
# Source — Pool

`pool.rs`: the connection pool.  Its lock is held for the whole of each call, the connecting
included, so the calls take place one after the other and each is a function here.

What a call reads from outside are its arguments: the clock, as often as it is read, and whether
connecting succeeds.
-/

namespace MiniGateway

open Http

structure PooledConnection where
  addr : SocketAddr
  createdAt : Nat
  lastUsed : Nat
  deriving DecidableEq

structure ConnectionPool where
  maxConnections : Nat
  idleTimeout : Nat
  connections : List PooledConnection
  deriving DecidableEq

/-- How `get_connection` ends: with a stream, or without one, having tried to connect or not. -/
inductive Connecting where
  | connected
  | failed
  | refused
  deriving DecidableEq

namespace ConnectionPool

def new (maxConnections idleTimeout : Nat) : ConnectionPool := ⟨maxConnections, idleTimeout, []⟩

/-- `duration_since` is zero for a time to come. -/
def isValid (pool : ConnectionPool) (now : Nat) (conn : PooledConnection) : Bool :=
  decide (now - conn.lastUsed < pool.idleTimeout)

/-- The pool without its expired entries. -/
def retain (pool : ConnectionPool) (now : Nat) : ConnectionPool :=
  { pool with connections := pool.connections.filter (pool.isValid now) }

/-- One more entry. -/
def push (pool : ConnectionPool) (conn : PooledConnection) : ConnectionPool :=
  { pool with connections := pool.connections ++ [conn] }

/-- The outcome of `TcpStream::connect`. -/
def outcome (connects : Bool) : Connecting := if connects then .connected else .failed

/-- `get_connection`: `now` is read first, `createdAt` and `lastUsed` for a new entry. -/
def getConnection (pool : ConnectionPool) (addr : SocketAddr) (now : Nat) (connects : Bool)
    (createdAt lastUsed : Nat) : Connecting × ConnectionPool :=
  let pool := pool.retain now
  match pool.connections.findIdx? (·.addr = addr) with
  | some pos =>
      -- the entry is gone, whether connecting succeeds or not
      (outcome connects, { pool with connections := pool.connections.eraseIdx pos })
  | none =>
      if pool.connections.length < pool.maxConnections then
        (outcome connects,
          if connects then pool.push ⟨addr, createdAt, lastUsed⟩ else pool)
      else (.refused, pool)

def returnConnection (pool : ConnectionPool) (addr : SocketAddr) (createdAt lastUsed : Nat) :
    ConnectionPool :=
  if pool.connections.length < pool.maxConnections then pool.push ⟨addr, createdAt, lastUsed⟩
  else pool

def cleanupExpired (pool : ConnectionPool) (now : Nat) : ConnectionPool := pool.retain now

end ConnectionPool

end MiniGateway
