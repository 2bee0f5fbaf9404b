import MiniGateway.Properties.Backends
import MiniGateway.Support.Tasks

/-!
# Properties — Redis connection

`cache/redis.rs` as it runs: many operations at a time, over the one `ConnectionManager` behind a
lock.  An operation that finds none connects, and keeps the lock until it has; the others wait.  An
operation can be dropped at any time, and then gives the lock back.

The lock does what it is for (`connects_once`): in every interleaving, dropped operations and
failed connections included, one operation connects at a time, at most one connection is ever kept,
no command is sent before there is one, and an answer is the one the whole operation would give at
the moment it comes.
-/

namespace MiniGateway.RedisCache

open Http Store Tasks

/-! ### Operations in pieces -/

/-- Where an operation stands. -/
inductive ConnStage where
  | locking
  | connecting
  | connected
  | answered (result : CacheResult)

structure ConnTask where
  op : Op Text CachedResponse
  stage : ConnStage

/-- What an operation returns that has failed before it had a connection. -/
def failed (e : GatewayError) : Op Text CachedResponse → CacheResult
  | .get _ => .got (.error e)
  | .set _ _ _ => .done (.error e)
  | .delete _ => .done (.error e)
  | .clear => .done (.error e)

/-- What the operations share: the clock, the lock and the cache.  `kept` counts the connections
that were put behind the lock. -/
structure ConnServer (σ : Type) where
  now : Nat
  locked : Bool
  cache : RedisCache σ
  kept : Nat

variable {σ : Type}

section Steps

variable (S : Expiring σ Text Bytes Text) (J : ResponseCodec)

inductive ConnMoves (s : ConnServer σ) :
    ConnTask → ConnServer σ → Option ConnTask → Prop where
  /-- The lock is free, and the connection is there: the lock is given back at once. -/
  | found {op : Op Text CachedResponse} (hfree : s.locked = false) (hc : s.cache.conn = true) :
      ConnMoves s ⟨op, .locking⟩ s (some ⟨op, .connected⟩)
  /-- It is not: the lock is kept over the `await`. -/
  | missing {op : Op Text CachedResponse} (hfree : s.locked = false) (hc : s.cache.conn = false) :
      ConnMoves s ⟨op, .locking⟩ { s with locked := true } (some ⟨op, .connecting⟩)
  | opened {op : Op Text CachedResponse} {server : σ}
      (h : S.connect s.now s.cache.server = (.ok (), server)) :
      ConnMoves s ⟨op, .connecting⟩
        { s with locked := false, cache := ⟨true, server⟩, kept := s.kept + 1 }
        (some ⟨op, .connected⟩)
  | refused {op : Op Text CachedResponse} {server : σ} {e : Text}
      (h : S.connect s.now s.cache.server = (.error e, server)) :
      ConnMoves s ⟨op, .connecting⟩
        { s with locked := false, cache := { s.cache with server := server } }
        (some ⟨op, .answered (failed (.cache ("Redis connection failed: ".toList ++ e)) op)⟩)
  /-- The rest of the operation, on a connection that is there. -/
  | run {op : Op Text CachedResponse} :
      ConnMoves s ⟨op, .connected⟩
        { s with cache := ((backend S J s.now).perform { s.cache with conn := true } op).2 }
        (some ⟨op,
          .answered ((backend S J s.now).perform { s.cache with conn := true } op).1⟩)
  | unlocked {op : Op Text CachedResponse} :
      ConnMoves s ⟨op, .connecting⟩ { s with locked := false } none
  | dropped {t : ConnTask} (h : t.stage ≠ .connecting) : ConnMoves s t s none

inductive ConnStarts (s : ConnServer σ) : ConnServer σ → ConnTask → Prop where
  | call (op : Op Text CachedResponse) : ConnStarts s s ⟨op, .locking⟩

/-- Time passes, and others use the server. -/
inductive ConnChanges (s : ConnServer σ) : ConnServer σ → Prop where
  | outside (now : Nat) (server : σ) (h : s.now ≤ now) :
      ConnChanges s { s with now := now, cache := { s.cache with server := server } }

/-- The backend at work. -/
def connSystem : System (ConnServer σ) ConnTask where
  Moves := ConnMoves S J
  Starts := ConnStarts
  Changes := ConnChanges

end Steps

variable {S : Expiring σ Text Bytes Text} {J : ResponseCodec}

/-! ### The connection of an operation -/

theorem getConn_of_conn (now : Nat) {c : RedisCache σ} (h : c.conn = true) :
    getConn S now c = (.ok (), c) := by
  rw [getConn, if_pos h]

theorem getConn_refused {now : Nat} {c : RedisCache σ} {server : σ} {e : Text}
    (hc : c.conn = false) (h : S.connect now c.server = (.error e, server)) :
    getConn S now c =
      (.error (.cache ("Redis connection failed: ".toList ++ e)), { c with server := server }) := by
  rw [getConn, hc, if_neg Bool.false_ne_true, h]

/-- An operation that cannot connect does nothing else. -/
theorem perform_refused {now : Nat} {c c' : RedisCache σ} {e : GatewayError}
    (h : getConn S now c = (.error e, c')) (op : Op Text CachedResponse) :
    (backend S J now).perform c op = (failed e op, c') := by
  cases op with
  | get key => simp only [CacheBackendTrait.perform, backend, get, command, h, failed]
  | set key value ttl => simp only [CacheBackendTrait.perform, backend, set, h, failed]
  | delete key => simp only [CacheBackendTrait.perform, backend, command, h, failed]
  | clear => simp only [CacheBackendTrait.perform, backend, command, h, failed]

/-- A command leaves the connection where it is. -/
theorem command_conn {α : Type} (now : Nat) (name : Text) (run : σ → Except Text α × σ)
    {c : RedisCache σ} (h : c.conn = true) : (command S now name run c).2.conn = true := by
  rw [command, getConn_of_conn now h]
  rcases hrun : run c.server with ⟨_ | _, server⟩ <;> simp only [hrun, h]

/-- So does an operation. -/
theorem perform_conn (now : Nat) {c : RedisCache σ} (h : c.conn = true)
    (op : Op Text CachedResponse) : ((backend S J now).perform c op).2.conn = true := by
  cases op with
  | get key =>
      have hcommand := command_conn (S := S) now "GET" (S.get now · key) h
      simp only [CacheBackendTrait.perform, backend, get]
      split
      · rename_i hrun
        rwa [hrun] at hcommand
      · rename_i hrun
        rwa [hrun] at hcommand
      · rename_i hrun
        rw [hrun] at hcommand
        split <;> exact hcommand
  | set key value ttl =>
      simp only [CacheBackendTrait.perform, backend, set, getConn_of_conn now h]
      split
      · exact h
      · exact command_conn now "SET" _ h
  | delete key => exact command_conn now "DEL" _ h
  | clear => exact command_conn now "FLUSHDB" _ h

/-! ### The lock -/

/-- The operation holds the lock. -/
def ConnTask.holds (t : ConnTask) : Bool :=
  match t.stage with
  | .connecting => true
  | _ => false

/-- Nobody is connecting, and there is a connection if one was kept. -/
def ConnServer.Free (s : ConnServer σ) : Prop :=
  s.locked = false ∧ s.kept = s.cache.conn.toNat

/-- Somebody is connecting, for the first time that comes to something. -/
def ConnServer.Held (s : ConnServer σ) : Prop :=
  s.locked = true ∧ s.cache.conn = false ∧ s.kept = 0

/-- An operation that goes on has a connection. -/
def ConnServer.Has (s : ConnServer σ) (t : ConnTask) : Prop :=
  t.stage = .connected → s.cache.conn = true

/-- The connection is kept. -/
theorem ConnMoves.conn {s s' : ConnServer σ} {t : ConnTask} {t' : Option ConnTask}
    (h : ConnMoves S J s t s' t') (hc : s.cache.conn = true) : s'.cache.conn = true := by
  cases h with
  | found => exact hc
  | missing => exact hc
  | opened => rfl
  | refused => exact hc
  | run => exact perform_conn s.now rfl _
  | unlocked => exact hc
  | dropped => exact hc

theorem ConnMoves.has {s s' : ConnServer σ} {t u : ConnTask}
    (h : ConnMoves S J s t s' (some u)) : s'.Has u := by
  intro hu
  cases h with
  | found _ hc => exact hc
  | missing => cases hu
  | opened => rfl
  | refused => cases hu
  | run => cases hu

/-- What a step of an operation does to the lock, where no other operation holds it. -/
theorem ConnMoves.lock {s s' : ConnServer σ} {t : ConnTask} {t' : Option ConnTask}
    (h : ConnMoves S J s t s' t') (hlock : if t.holds then s.Held else s.Free) (ht : s.Has t) :
    (s'.Free ∧ ∀ u, t' = some u → u.holds = false) ∨
      ∃ u, t' = some u ∧ u.holds = true ∧ s'.Held := by
  cases h with
  | found =>
      refine Or.inl ⟨hlock, fun u hu => ?_⟩
      cases hu
      rfl
  | missing hfree hc =>
      have hkept : s.kept = s.cache.conn.toNat := hlock.2
      rw [hc] at hkept
      exact Or.inr ⟨_, rfl, rfl, rfl, hc, hkept⟩
  | opened =>
      have hkept : s.kept = 0 := hlock.2.2
      refine Or.inl ⟨⟨rfl, by simp [hkept]⟩, fun u hu => ?_⟩
      cases hu
      rfl
  | refused =>
      obtain ⟨-, hc, hkept⟩ : s.Held := hlock
      refine Or.inl ⟨⟨rfl, by simp [hkept, hc]⟩, fun u hu => ?_⟩
      cases hu
      rfl
  | run =>
      obtain ⟨hfree, hkept⟩ : s.Free := hlock
      have hc := perform_conn (S := S) (J := J) s.now (c := { s.cache with conn := true }) rfl
      refine Or.inl ⟨⟨hfree, ?_⟩, fun u hu => ?_⟩
      · simp only [hc]
        rw [hkept, ht rfl]
      · cases hu
        rfl
  | unlocked =>
      obtain ⟨-, hc, hkept⟩ : s.Held := hlock
      exact Or.inl ⟨⟨rfl, by simp [hkept, hc]⟩, fun u hu => by cases hu⟩
  | dropped hne =>
      have hnot : t.holds = false := by
        obtain ⟨op, stage⟩ := t
        cases stage with
        | connecting => exact absurd rfl hne
        | _ => rfl
      rw [hnot] at hlock
      exact Or.inl ⟨hlock, fun u hu => by cases hu⟩

/-- Beside the operation that connects, the others wait. -/
theorem ConnMoves.beside {s s' : ConnServer σ} {t : ConnTask} {t' : Option ConnTask}
    (hmove : ConnMoves S J s t s' t') (hheld : s.Held) (ht : t.holds = false) (hI : s.Has t) :
    s' = s ∧ t' = none := by
  obtain ⟨hlocked, hc, -⟩ := hheld
  cases hmove with
  | found hfree => rw [hlocked] at hfree; cases hfree
  | missing hfree => rw [hlocked] at hfree; cases hfree
  | opened => cases ht
  | refused => cases ht
  | run => rw [hI rfl] at hc; cases hc
  | unlocked => cases ht
  | dropped => exact ⟨rfl, rfl⟩

theorem connSystem_locks : Locks (connSystem S J) ConnTask.holds ConnServer.Free
    (fun s _ => ConnServer.Held s) ConnServer.Has where
  moves hlock ht h := by
    refine ⟨ConnMoves.lock h hlock ht, fun u hu => ?_, fun u hu hc => ConnMoves.conn h (hu hc)⟩
    subst hu
    exact ConnMoves.has h
  beside hheld _ hnot ht h := by
    obtain ⟨rfl, rfl⟩ := ConnMoves.beside h hheld hnot ht
    exact ⟨hheld, fun u hu => (by cases hu), fun _ => id⟩
  starts h := by
    cases h with
    | call op => exact ⟨rfl, fun hc => (by cases hc), id, fun _ => id, fun _ => id⟩
  changes h := by
    cases h with
    | outside => exact ⟨id, fun _ => id, fun _ => id⟩

/-- An operation that answers does what it would do in one piece. -/
theorem ConnMoves.answers {s s' : ConnServer σ} {t : ConnTask} {op : Op Text CachedResponse}
    {r : CacheResult} (h : ConnMoves S J s t s' (some ⟨op, .answered r⟩))
    (hheld : t.holds = true → s.Held) (ht : s.Has t) :
    (backend S J s.now).perform s.cache op = (r, s'.cache) := by
  cases h with
  | refused h =>
      obtain ⟨-, hc, -⟩ := hheld rfl
      exact perform_refused (getConn_refused hc h) op
  | run =>
      have hcache : { s.cache with conn := true } = s.cache := by
        rw [← ht rfl]
      rw [hcache]

/-- **One connection.**  However the operations interleave, one of them at most is connecting, and
exactly while the lock is held; the connection is there as soon as one was kept, and no second one
is; an operation goes on only when it is; and the step with which it answers takes the cache from
what it is to what the whole operation makes of it, with the answer of the whole operation. -/
theorem connects_once {now : Nat} {server : σ} {p : Pool (ConnServer σ) ConnTask}
    (h : Reachable (connSystem S J) ⟨now, false, ⟨false, server⟩, 0⟩ p) :
    p.tasks.countP ConnTask.holds = p.shared.locked.toNat ∧
    p.shared.kept = p.shared.cache.conn.toNat ∧
    (∀ t ∈ p.tasks, t.stage = .connected → p.shared.cache.conn = true) ∧
    ∀ t ∈ p.tasks, ∀ s' op r, ConnMoves S J p.shared t s' (some ⟨op, .answered r⟩) →
      (backend S J p.shared.now).perform p.shared.cache op = (r, s'.cache) := by
  obtain ⟨hlock, hhas⟩ := Reachable.exclusive connSystem_locks ⟨rfl, rfl⟩ h
  refine ⟨hlock.countP_eq (fun _ hs => hs.1) (fun _ _ hs => hs.1), ?_, hhas, ?_⟩
  · rcases hlock.free_or_held with ⟨-, hkept⟩ | ⟨-, -, hc, hkept⟩
    · exact hkept
    · rw [hkept, hc]
      rfl
  · intro t ht s' op r hmove
    exact ConnMoves.answers hmove (hlock.held ht) (hhas t ht)

/-- One operation is connecting, and another waits for it. -/
def waitingPool : Pool (ConnServer (Held Text Bytes)) ConnTask :=
  ⟨⟨0, true, ⟨false, fun _ => none⟩, 0⟩, [⟨.clear, .locking⟩, ⟨.get "GET:/", .connecting⟩]⟩

/-- It has its connection. -/
def connectedPool : Pool (ConnServer (Held Text Bytes)) ConnTask :=
  ⟨⟨0, false, ⟨true, fun _ => none⟩, 1⟩, [⟨.clear, .locking⟩, ⟨.get "GET:/", .connected⟩]⟩

/-- It has answered; the other one has not moved yet. -/
def answeredPool : Pool (ConnServer (Held Text Bytes)) ConnTask :=
  ⟨⟨0, false, ⟨true, fun _ => none⟩, 1⟩,
    [⟨.clear, .locking⟩, ⟨.get "GET:/", .answered (.got (.ok none))⟩]⟩

theorem waitingPool_reachable :
    Reachable (connSystem deadlineServer numberCodec) ⟨0, false, ⟨false, fun _ => none⟩, 0⟩
      waitingPool := by
  have hfirst := Step.start (S := connSystem deadlineServer numberCodec)
    (s := ⟨0, false, ⟨false, fun _ => none⟩, 0⟩) [] (ConnStarts.call (.get "GET:/"))
  have hsecond := Step.move (S := connSystem deadlineServer numberCodec)
    (s := ⟨0, false, ⟨false, fun _ => none⟩, 0⟩) (t := ⟨.get "GET:/", .locking⟩) [] []
    (ConnMoves.missing rfl rfl)
  have hthird := Step.start (S := connSystem deadlineServer numberCodec)
    (s := ⟨0, true, ⟨false, fun _ => none⟩, 0⟩) [⟨.get "GET:/", .connecting⟩]
    (ConnStarts.call .clear)
  exact ((Relation.ReflTransGen.refl.tail hfirst).tail hsecond).tail hthird

theorem connectedPool_reachable :
    Reachable (connSystem deadlineServer numberCodec) ⟨0, false, ⟨false, fun _ => none⟩, 0⟩
      connectedPool :=
  waitingPool_reachable.tail (Step.move (S := connSystem deadlineServer numberCodec)
    (s := waitingPool.shared) (t := ⟨.get "GET:/", .connecting⟩) [⟨.clear, .locking⟩] []
    (ConnMoves.opened rfl))

/-- The step with which the operation answers. -/
theorem connectedPool_answers : ConnMoves deadlineServer numberCodec connectedPool.shared
    ⟨.get "GET:/", .connected⟩ answeredPool.shared
    (some ⟨.get "GET:/", .answered (.got (.ok none))⟩) :=
  ConnMoves.run

theorem connects_once_answered :
    Reachable (connSystem deadlineServer numberCodec) ⟨0, false, ⟨false, fun _ => none⟩, 0⟩
      answeredPool ∧
    waitingPool.tasks.countP ConnTask.holds = 1 ∧ waitingPool.shared.kept = 0 ∧
    answeredPool.tasks.countP ConnTask.holds = 0 ∧ answeredPool.shared.kept = 1 ∧
    (backend deadlineServer numberCodec 0).perform ⟨true, fun _ => none⟩ (.get "GET:/") =
      (.got (.ok none), answeredPool.shared.cache) := by
  have hanswered : Reachable (connSystem deadlineServer numberCodec)
      ⟨0, false, ⟨false, fun _ => none⟩, 0⟩ answeredPool :=
    connectedPool_reachable.tail (Step.move (S := connSystem deadlineServer numberCodec)
      [⟨.clear, .locking⟩] [] connectedPool_answers)
  obtain ⟨hone, hnothing, -⟩ := connects_once waitingPool_reachable
  obtain ⟨-, -, -, hanswers⟩ := connects_once connectedPool_reachable
  obtain ⟨hnone, hkept, -⟩ := connects_once hanswered
  exact ⟨hanswered, hone, hnothing, hnone, hkept,
    hanswers _ (by simp [connectedPool]) _ _ _ connectedPool_answers⟩

end MiniGateway.RedisCache
