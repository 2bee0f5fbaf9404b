import MiniGateway.Properties.Pool
import MiniGateway.Support.Tasks

/-!
# Properties — Pool lock

`pool.rs` as it runs: many calls at a time.  A call takes the lock, and `get_connection` keeps it
while it connects, so what it does falls in two pieces; and a call can be dropped at any time, also
between the two.

The lock makes the calls take place one after the other (`calls_serial`): in every interleaving the
pool is what a run of whole calls makes of it, in the order in which they gave the lock back, with
the clock not going back and each call returning what it returns in that run.  A call that was
dropped while it connected counts as one that could not connect.
-/

namespace MiniGateway.ConnectionPool

open Http Runs Tasks

/-! ### Calls in pieces -/

inductive Request where
  | get (addr : SocketAddr)
  | giveBack (addr : SocketAddr)
  | cleanup

/-- Where a call stands.  `now` is the clock as `get_connection` has read it, and `reuses` whether
it has struck out an entry. -/
inductive CallStage where
  | locking
  | connecting (now : Nat) (reuses : Bool)
  | over (result : Option Connecting)

structure CallTask where
  request : Request
  stage : CallStage

/-- What the calls share: the clock, the lock and the pool.  `calls` are those that gave the lock
back, in order, each with what it returned. -/
structure CallServer where
  clock : Nat
  locked : Bool
  pool : ConnectionPool
  calls : List (Call × Option Connecting)

/-- The lock is given back. -/
def CallServer.unlock (s : CallServer) (pool : ConnectionPool) (clock : Nat) (call : Call)
    (result : Option Connecting) : CallServer :=
  ⟨clock, false, pool, s.calls ++ [(call, result)]⟩

inductive CallMoves (s : CallServer) : CallTask → CallServer → Option CallTask → Prop where
  /-- An entry for the address is left, and is struck out. -/
  | reuse {addr : SocketAddr} {pos : Nat} (hfree : s.locked = false)
      (h : (s.pool.retain s.clock).connections.findIdx? (·.addr = addr) = some pos) :
      CallMoves s ⟨.get addr, .locking⟩
        { s with
          locked := true
          pool := { s.pool.retain s.clock with
            connections := (s.pool.retain s.clock).connections.eraseIdx pos } }
        (some ⟨.get addr, .connecting s.clock true⟩)
  | room {addr : SocketAddr} (hfree : s.locked = false)
      (h : (s.pool.retain s.clock).connections.findIdx? (·.addr = addr) = none)
      (hroom : (s.pool.retain s.clock).connections.length < s.pool.maxConnections) :
      CallMoves s ⟨.get addr, .locking⟩ { s with locked := true, pool := s.pool.retain s.clock }
        (some ⟨.get addr, .connecting s.clock false⟩)
  | refused {addr : SocketAddr} (hfree : s.locked = false)
      (h : (s.pool.retain s.clock).connections.findIdx? (·.addr = addr) = none)
      (hfull : s.pool.maxConnections ≤ (s.pool.retain s.clock).connections.length) :
      CallMoves s ⟨.get addr, .locking⟩
        (s.unlock (s.pool.retain s.clock) s.clock (.get addr s.clock false s.clock s.clock)
          (some .refused))
        (some ⟨.get addr, .over (some .refused)⟩)
  /-- The reused address is connected to, or not. -/
  | reconnected {addr : SocketAddr} {now : Nat} (connects : Bool) :
      CallMoves s ⟨.get addr, .connecting now true⟩
        (s.unlock s.pool s.clock (.get addr now connects s.clock s.clock)
          (some (outcome connects)))
        (some ⟨.get addr, .over (some (outcome connects))⟩)
  /-- The clock is read twice for the new entry. -/
  | connected {addr : SocketAddr} {now createdAt lastUsed : Nat} (hcreated : s.clock ≤ createdAt)
      (hused : createdAt ≤ lastUsed) :
      CallMoves s ⟨.get addr, .connecting now false⟩
        (s.unlock (s.pool.push ⟨addr, createdAt, lastUsed⟩) lastUsed
          (.get addr now true createdAt lastUsed) (some .connected))
        (some ⟨.get addr, .over (some .connected)⟩)
  | failed {addr : SocketAddr} {now : Nat} :
      CallMoves s ⟨.get addr, .connecting now false⟩
        (s.unlock s.pool s.clock (.get addr now false s.clock s.clock) (some .failed))
        (some ⟨.get addr, .over (some .failed)⟩)
  /-- Dropped while it connects. -/
  | abandoned {addr : SocketAddr} {now : Nat} {reuses : Bool} :
      CallMoves s ⟨.get addr, .connecting now reuses⟩
        (s.unlock s.pool s.clock (.get addr now false s.clock s.clock) none) none
  | returned {addr : SocketAddr} {createdAt lastUsed : Nat} (hfree : s.locked = false)
      (hcreated : s.clock ≤ createdAt) (hused : createdAt ≤ lastUsed) :
      CallMoves s ⟨.giveBack addr, .locking⟩
        (s.unlock (s.pool.returnConnection addr createdAt lastUsed) lastUsed
          (.giveBack addr createdAt lastUsed) none)
        (some ⟨.giveBack addr, .over none⟩)
  | cleaned (hfree : s.locked = false) :
      CallMoves s ⟨.cleanup, .locking⟩
        (s.unlock (s.pool.cleanupExpired s.clock) s.clock (.cleanup s.clock) none)
        (some ⟨.cleanup, .over none⟩)
  | dropped {t : CallTask} (h : ∀ now reuses, t.stage ≠ .connecting now reuses) :
      CallMoves s t s none

/-- One more call. -/
def next (s : Timed) (call : Call × Option Connecting) : Timed := tick s call.1

/-- A `get_connection` that returned gave what it gives in one piece. -/
def Returns (pool : ConnectionPool) (call : Call × Option Connecting) : Prop :=
  ∀ result, call.2 = some result → ∃ addr now connects createdAt lastUsed,
    call.1 = .get addr now connects createdAt lastUsed ∧
      (pool.getConnection addr now connects createdAt lastUsed).1 = result

/-- The clock does not go back, and the call returns what it should. -/
def Follows (s : Timed) (call : Call × Option Connecting) : Prop :=
  Forward s call.1 ∧ Returns s.pool call

section Serial

variable (maxConnections idleTimeout start : Nat)

/-- The pool after the calls, and the clock as they last read it. -/
def serial (calls : List (Call × Option Connecting)) : Timed :=
  calls.foldl next ⟨new maxConnections idleTimeout, start⟩

/-- The calls are a run. -/
def IsRun (calls : List (Call × Option Connecting)) : Prop :=
  Along next Follows ⟨new maxConnections idleTimeout, start⟩ calls

/-- Nobody has the lock, and the pool is that of the calls made. -/
def CallServer.Free (s : CallServer) : Prop :=
  s.locked = false ∧ IsRun maxConnections idleTimeout start s.calls ∧
    (serial maxConnections idleTimeout start s.calls).clock ≤ s.clock ∧
    (serial maxConnections idleTimeout start s.calls).pool = s.pool

/-- A `get_connection` has the lock, and whatever comes of its connecting, the pool will be what the
whole call makes of the one it found. -/
def CallServer.Held (s : CallServer) (t : CallTask) : Prop :=
  s.locked = true ∧ IsRun maxConnections idleTimeout start s.calls ∧
    ∃ addr now reuses, t = ⟨.get addr, .connecting now reuses⟩ ∧
      (serial maxConnections idleTimeout start s.calls).clock ≤ now ∧ now ≤ s.clock ∧
      ∀ connects createdAt lastUsed,
        (serial maxConnections idleTimeout start s.calls).pool.getConnection addr now connects
          createdAt lastUsed = (outcome connects,
            if connects && !reuses then s.pool.push ⟨addr, createdAt, lastUsed⟩ else s.pool)

end Serial

/-- The call holds the lock. -/
def CallTask.holds (t : CallTask) : Bool :=
  match t.stage with
  | .connecting _ _ => true
  | _ => false

/-! ### The clock -/

/-- The clock as `get_connection` reads it, first before and then after it connects. -/
theorem forward_get {s : Timed} {now createdAt lastUsed : Nat} (hnow : s.clock ≤ now)
    (hcreated : now ≤ createdAt) (hused : createdAt ≤ lastUsed) (addr : SocketAddr)
    (connects : Bool) :
    Forward s (.get addr now connects createdAt lastUsed) ∧
      (tick s (.get addr now connects createdAt lastUsed)).clock ≤ lastUsed := by
  simp only [Forward, tick, readings]
  split
  · exact ⟨by simp [hnow, hcreated, hused], Nat.le_refl _⟩
  · exact ⟨by simp [hnow], Nat.le_trans hcreated hused⟩

theorem forward_giveBack {s : Timed} {createdAt lastUsed : Nat} (hcreated : s.clock ≤ createdAt)
    (hused : createdAt ≤ lastUsed) (addr : SocketAddr) :
    Forward s (.giveBack addr createdAt lastUsed) ∧
      (tick s (.giveBack addr createdAt lastUsed)).clock ≤ lastUsed := by
  simp only [Forward, tick, readings]
  split
  · exact ⟨by simp [hcreated, hused], Nat.le_refl _⟩
  · exact ⟨by simp, Nat.le_trans hcreated hused⟩

/-! ### The lock -/

variable {maxConnections idleTimeout start : Nat}

/-- **A call gives the lock back**: it is the next of the run. -/
theorem CallServer.unlock_free {s : CallServer} {pool : ConnectionPool} {clock : Nat} {call : Call}
    {result : Option Connecting} (hrun : IsRun maxConnections idleTimeout start s.calls)
    (hclock : Forward (serial maxConnections idleTimeout start s.calls) call ∧
      (tick (serial maxConnections idleTimeout start s.calls) call).clock ≤ clock)
    (hresult : Returns (serial maxConnections idleTimeout start s.calls).pool (call, result))
    (hpool : (serial maxConnections idleTimeout start s.calls).pool.after call = pool) :
    (s.unlock pool clock call result).Free maxConnections idleTimeout start := by
  have hserial : serial maxConnections idleTimeout start (s.unlock pool clock call result).calls =
      tick (serial maxConnections idleTimeout start s.calls) call := by
    simp only [CallServer.unlock, serial, List.foldl_append, List.foldl_cons, List.foldl_nil, next]
  refine ⟨rfl, along_concat_iff.mpr ⟨hrun, hclock.1, hresult⟩, ?_, ?_⟩
  · rw [hserial]
    exact hclock.2
  · rw [hserial]
    exact hpool

/-- A `get_connection` that was in the middle of connecting ends. -/
theorem CallServer.Held.unlock {s : CallServer} {addr : SocketAddr} {now : Nat} {reuses : Bool}
    (h : s.Held maxConnections idleTimeout start ⟨.get addr, .connecting now reuses⟩)
    {createdAt lastUsed : Nat} (hcreated : s.clock ≤ createdAt) (hused : createdAt ≤ lastUsed)
    (connects : Bool) (result : Option Connecting)
    (hresult : ∀ r, result = some r → r = outcome connects) :
    (s.unlock (if connects && !reuses then s.pool.push ⟨addr, createdAt, lastUsed⟩ else s.pool)
      lastUsed (.get addr now connects createdAt lastUsed) result).Free maxConnections idleTimeout
        start := by
  obtain ⟨-, hrun, addr', now', reuses', heq, hread, hnow, hget⟩ := h
  cases heq
  refine CallServer.unlock_free hrun
    (forward_get hread (Nat.le_trans hnow hcreated) hused addr connects) (fun r hr => ?_) ?_
  · refine ⟨addr, now, connects, createdAt, lastUsed, rfl, ?_⟩
    rw [hget, hresult r hr]
  · rw [after, hget]

/-- What a step of a call does to the lock, where no other call holds it. -/
theorem CallMoves.lock {s s' : CallServer} {t : CallTask} {t' : Option CallTask}
    (h : CallMoves s t s' t')
    (hlock : if t.holds then s.Held maxConnections idleTimeout start t
      else s.Free maxConnections idleTimeout start) :
    (s'.Free maxConnections idleTimeout start ∧ ∀ u, t' = some u → u.holds = false) ∨
      ∃ u, t' = some u ∧ u.holds = true ∧ s'.Held maxConnections idleTimeout start u := by
  cases h with
  | @reuse addr pos hfree hpos =>
      obtain ⟨-, hrun, hclock, hpool⟩ : s.Free maxConnections idleTimeout start := hlock
      refine Or.inr ⟨_, rfl, rfl, rfl, hrun, addr, s.clock, true, rfl, hclock, Nat.le_refl _, ?_⟩
      intro connects createdAt lastUsed
      rw [hpool]
      simp only [getConnection, hpos, Bool.not_true, Bool.and_false]
      rfl
  | @room addr hfree hnone hroom =>
      obtain ⟨-, hrun, hclock, hpool⟩ : s.Free maxConnections idleTimeout start := hlock
      refine Or.inr ⟨_, rfl, rfl, rfl, hrun, addr, s.clock, false, rfl, hclock, Nat.le_refl _, ?_⟩
      intro connects createdAt lastUsed
      rw [hpool]
      simp only [getConnection, hnone, Bool.not_false, Bool.and_true]
      exact if_pos hroom
  | @refused addr hfree hnone hfull =>
      obtain ⟨-, hrun, hclock, hpool⟩ : s.Free maxConnections idleTimeout start := hlock
      have hget : (serial maxConnections idleTimeout start s.calls).pool.getConnection addr s.clock
          false s.clock s.clock = (.refused, s.pool.retain s.clock) := by
        rw [hpool]
        simp only [getConnection, hnone]
        exact if_neg (Nat.not_lt.mpr hfull)
      refine Or.inl ⟨CallServer.unlock_free hrun
        (forward_get hclock (Nat.le_refl _) (Nat.le_refl _) addr false) (fun r hr => ?_) ?_,
        fun u hu => by cases hu; rfl⟩
      · cases hr
        exact ⟨addr, s.clock, false, s.clock, s.clock, rfl, by rw [hget]⟩
      · rw [after, hget]
  | @reconnected addr now connects =>
      have hheld : s.Held maxConnections idleTimeout start ⟨.get addr, .connecting now true⟩ :=
        hlock
      have hfree := hheld.unlock (Nat.le_refl _) (Nat.le_refl _) connects
        (some (outcome connects)) fun r hr => (Option.some.inj hr).symm
      rw [Bool.not_true, Bool.and_false] at hfree
      exact Or.inl ⟨hfree, fun u hu => by cases hu; rfl⟩
  | @connected addr now createdAt lastUsed hcreated hused =>
      have hheld : s.Held maxConnections idleTimeout start ⟨.get addr, .connecting now false⟩ :=
        hlock
      have hfree := hheld.unlock hcreated hused true
        (some .connected) fun r hr => (Option.some.inj hr).symm
      exact Or.inl ⟨hfree, fun u hu => by cases hu; rfl⟩
  | @failed addr now =>
      have hheld : s.Held maxConnections idleTimeout start ⟨.get addr, .connecting now false⟩ :=
        hlock
      have hfree := hheld.unlock (Nat.le_refl _) (Nat.le_refl _) false
        (some .failed) fun r hr => (Option.some.inj hr).symm
      exact Or.inl ⟨hfree, fun u hu => by cases hu; rfl⟩
  | @abandoned addr now reuses =>
      have hheld : s.Held maxConnections idleTimeout start ⟨.get addr, .connecting now reuses⟩ :=
        hlock
      have hfree := hheld.unlock (Nat.le_refl _) (Nat.le_refl _) false
        none fun r hr => by cases hr
      exact Or.inl ⟨hfree, fun u hu => by cases hu⟩
  | @returned addr createdAt lastUsed hfree hcreated hused =>
      obtain ⟨-, hrun, hclock, hpool⟩ : s.Free maxConnections idleTimeout start := hlock
      refine Or.inl ⟨CallServer.unlock_free hrun
        (forward_giveBack (Nat.le_trans hclock hcreated) hused addr) (fun r hr => by cases hr) ?_,
        fun u hu => by cases hu; rfl⟩
      rw [after, hpool]
  | cleaned hfree =>
      obtain ⟨-, hrun, hclock, hpool⟩ : s.Free maxConnections idleTimeout start := hlock
      refine Or.inl ⟨CallServer.unlock_free hrun ⟨?_, Nat.le_refl _⟩ (fun r hr => by cases hr) ?_,
        fun u hu => by cases hu; rfl⟩
      · simpa [Forward, readings] using hclock
      · rw [after, hpool]
  | dropped hne =>
      have hnot : t.holds = false := by
        obtain ⟨request, stage⟩ := t
        cases stage with
        | connecting now reuses => exact absurd rfl (hne now reuses)
        | _ => rfl
      rw [hnot] at hlock
      exact Or.inl ⟨hlock, fun u hu => by cases hu⟩

/-- Beside the call that has the lock, the others wait. -/
theorem CallMoves.beside {s s' : CallServer} {t : CallTask} {t' : Option CallTask}
    (h : CallMoves s t s' t') (hlocked : s.locked = true) (ht : t.holds = false) :
    s' = s ∧ t' = none := by
  have hbusy : s.locked ≠ false := by rw [hlocked]; exact Bool.noConfusion
  cases h with
  | reuse hfree => exact absurd hfree hbusy
  | room hfree => exact absurd hfree hbusy
  | refused hfree => exact absurd hfree hbusy
  | reconnected => cases ht
  | connected => cases ht
  | failed => cases ht
  | abandoned => cases ht
  | returned hfree => exact absurd hfree hbusy
  | cleaned hfree => exact absurd hfree hbusy
  | dropped => exact ⟨rfl, rfl⟩

theorem sound_new : Sound maxConnections idleTimeout ⟨new maxConnections idleTimeout, start⟩ :=
  ⟨rfl, rfl, Nat.zero_le _, fun _ h => absurd h List.not_mem_nil⟩

/-- The entries after a run of whole calls. -/
theorem IsRun.sound {calls : List (Call × Option Connecting)}
    (h : IsRun maxConnections idleTimeout start calls) :
    Sound maxConnections idleTimeout (serial maxConnections idleTimeout start calls) := by
  refine Along.foldl (P := Follows) (fun s call hs hcall => ?_) sound_new h
  exact (keeps_of_sound hs hcall.1).sound

/-- What each call of it keeps. -/
theorem IsRun.keeps {calls : List (Call × Option Connecting)}
    (h : IsRun maxConnections idleTimeout start calls) :
    Along next (fun s call => Forward s call.1 ∧ Keeps maxConnections idleTimeout s call.1 ∧
      Returns s.pool call) ⟨new maxConnections idleTimeout, start⟩ calls := by
  refine Along.mono (P := Follows) (fun s call hs hcall => ?_) (fun s call hs hcall => ?_)
    sound_new h
  · exact ⟨hcall.1, keeps_of_sound hs hcall.1, hcall.2⟩
  · exact (keeps_of_sound hs hcall.1).sound

theorem Sound.later {s : Timed} (h : Sound maxConnections idleTimeout s) {clock : Nat}
    (hle : s.clock ≤ clock) : Sound maxConnections idleTimeout ⟨s.pool, clock⟩ :=
  ⟨h.limit, h.timeout, h.length, fun conn hconn => Nat.le_trans (h.past conn hconn) hle⟩

/-- The entries in the middle of a call are those of a call that cannot connect. -/
theorem CallServer.Held.sound {s : CallServer} {t : CallTask}
    (h : s.Held maxConnections idleTimeout start t) :
    Sound maxConnections idleTimeout ⟨s.pool, s.clock⟩ := by
  obtain ⟨-, hrun, addr, now, reuses, -, hread, hnow, hget⟩ := h
  obtain ⟨hforward, hle⟩ := forward_get hread hnow (Nat.le_refl s.clock) addr false
  have hsound := (keeps_of_sound hrun.sound hforward).sound.later hle
  rwa [tick, after, hget] at hsound

end MiniGateway.ConnectionPool
