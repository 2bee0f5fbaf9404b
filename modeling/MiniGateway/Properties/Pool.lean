import MiniGateway.Source.Pool
import MiniGateway.Support.Runs

/-!
# Properties — Pool

The entry list, and the pool's limit against the streams in use.

Along every run with a clock that does not go back the list stays within the limit, no entry of it
was used in the future, and only expired entries are dropped, but for the first with the address
that `get_connection` asks for (`entries_kept`).

The limit is not one on the streams in use, though.  The entry list holds neither the idle
connections nor the ones in use: a new connection is entered when it is handed out and stays when
it is given back, which enters it once more; a reused one is struck out while it is in use.

So the limit bounds the streams in use exactly along the runs in which, at each `get_connection`,
the live entries happen to tell as much (`limit_iff`).
-/

namespace MiniGateway.ConnectionPool

open Http Runs

/-! ### Runs -/

/-- A call, with what it reads from outside. -/
inductive Call where
  | get (addr : SocketAddr) (now : Nat) (connects : Bool) (createdAt lastUsed : Nat)
  | giveBack (addr : SocketAddr) (createdAt lastUsed : Nat)
  | cleanup (now : Nat)
  deriving DecidableEq

/-- The pool, and the addresses of the streams that were handed out and not given back. -/
structure Use where
  pool : ConnectionPool
  inUse : List SocketAddr
  deriving DecidableEq

/-- The streams in use after `get_connection` for `addr` ended so. -/
def handOut (addr : SocketAddr) (inUse : List SocketAddr) : Connecting → List SocketAddr
  | .connected => addr :: inUse
  | .failed | .refused => inUse

def step (s : Use) : Call → Use
  | .get addr now connects createdAt lastUsed =>
      let got := s.pool.getConnection addr now connects createdAt lastUsed
      ⟨got.2, handOut addr s.inUse got.1⟩
  | .giveBack addr createdAt lastUsed =>
      ⟨s.pool.returnConnection addr createdAt lastUsed, s.inUse.erase addr⟩
  | .cleanup now => ⟨s.pool.cleanupExpired now, s.inUse⟩

def fresh (maxConnections idleTimeout : Nat) : Use := ⟨new maxConnections idleTimeout, []⟩

/-- The call keeps the streams in use within the limit, and is not refused below it. -/
def Limits (s : Use) (call : Call) : Prop :=
  (step s call).inUse.length ≤ s.pool.maxConnections ∧
    ∀ addr now connects createdAt lastUsed, call = .get addr now connects createdAt lastUsed →
      (s.pool.getConnection addr now connects createdAt lastUsed).1 = .refused →
        s.pool.maxConnections ≤ s.inUse.length

/-! ### One call -/

/-- `get_connection` can take a stream: an entry for the address is left, or there is room. -/
def Open (pool : ConnectionPool) (addr : SocketAddr) (now : Nat) : Prop :=
  (∃ conn ∈ pool.connections, pool.isValid now conn = true ∧ conn.addr = addr) ∨
    (pool.connections.filter (pool.isValid now)).length < pool.maxConnections

/-- **How `get_connection` ends.** -/
theorem getConnection_fst (pool : ConnectionPool) (addr : SocketAddr) (now : Nat)
    (connects : Bool) (createdAt lastUsed : Nat) :
    (pool.Open addr now ∧
        (pool.getConnection addr now connects createdAt lastUsed).1 = outcome connects) ∨
      (¬ pool.Open addr now ∧
        (pool.getConnection addr now connects createdAt lastUsed).1 = .refused) := by
  simp only [getConnection]
  split
  · rename_i pos hpos
    refine Or.inl ⟨Or.inl ?_, rfl⟩
    obtain ⟨hlt, haddr, -⟩ := List.findIdx?_eq_some_iff_getElem.mp hpos
    have hmem := List.getElem_mem hlt
    obtain ⟨hin, hvalid⟩ := List.mem_filter.mp hmem
    exact ⟨_, hin, hvalid, of_decide_eq_true haddr⟩
  · rename_i hnone
    split
    · rename_i hroom
      exact Or.inl ⟨Or.inr hroom, rfl⟩
    · rename_i hfull
      refine Or.inr ⟨?_, rfl⟩
      rintro (⟨conn, hin, hvalid, haddr⟩ | hroom)
      · have hno := List.findIdx?_eq_none_iff.mp hnone conn (List.mem_filter.mpr ⟨hin, hvalid⟩)
        exact absurd haddr (of_decide_eq_false hno)
      · exact hfull hroom

/-- `get_connection` enters a new connection: no entry is left for the address, there is room, and
connecting succeeds. -/
def opens (pool : ConnectionPool) (addr : SocketAddr) (now : Nat) (connects : Bool) : Bool :=
  (pool.retain now).connections.all (fun conn => conn.addr ≠ addr) &&
    decide ((pool.retain now).connections.length < pool.maxConnections) && connects

/-- **The entries after `get_connection`**, out of those that were not expired: without the first
with the address, if there is one; otherwise with the new one, or as they were. -/
theorem getConnection_snd (pool : ConnectionPool) (addr : SocketAddr) (now : Nat)
    (connects : Bool) (createdAt lastUsed : Nat) :
    (∃ pre conn post, pool.connections.filter (pool.isValid now) = pre ++ conn :: post ∧
        (∀ c ∈ pre, c.addr ≠ addr) ∧ conn.addr = addr ∧ pool.opens addr now connects = false ∧
        (pool.getConnection addr now connects createdAt lastUsed).2 =
          { pool with connections := pre ++ post }) ∨
      (∀ c ∈ pool.connections.filter (pool.isValid now), c.addr ≠ addr) ∧
        (pool.getConnection addr now connects createdAt lastUsed).2 =
          if pool.opens addr now connects then
            (pool.retain now).push ⟨addr, createdAt, lastUsed⟩ else pool.retain now := by
  simp only [getConnection]
  split
  · rename_i pos hpos
    obtain ⟨hlt, haddr, -⟩ := List.findIdx?_eq_some_iff_getElem.mp hpos
    -- the first of the entries with the address is erased
    have herase : (pool.retain now).connections.eraseP (fun c => decide (c.addr = addr)) =
        (pool.retain now).connections.eraseIdx pos := by
      rw [List.eraseP_eq_eraseIdx, hpos]
    obtain ⟨conn, pre, post, hpre, hconn, hlive, hrest⟩ :=
      List.exists_of_eraseP (p := fun c => decide (c.addr = addr)) (List.getElem_mem hlt) haddr
    rw [hrest] at herase
    have hno : pool.opens addr now connects = false := by
      have hall : (pool.retain now).connections.all (fun c => decide (c.addr ≠ addr)) = false := by
        refine List.all_eq_false.mpr ⟨_, List.getElem_mem hlt, ?_⟩
        simpa using haddr
      rw [opens, hall, Bool.false_and, Bool.false_and]
    refine Or.inl ⟨pre, conn, post, hlive, fun c hc h => hpre c hc (decide_eq_true h),
      of_decide_eq_true hconn, hno, ?_⟩
    rw [← herase]
    rfl
  · rename_i hnone
    have hfree : ∀ c ∈ (pool.retain now).connections, c.addr ≠ addr := fun c hc =>
      of_decide_eq_false (List.findIdx?_eq_none_iff.mp hnone c hc)
    refine Or.inr ⟨hfree, ?_⟩
    have hall : (pool.retain now).connections.all (fun c => decide (c.addr ≠ addr)) = true :=
      List.all_eq_true.mpr fun c hc => decide_eq_true (hfree c hc)
    rw [opens, hall, Bool.true_and]
    by_cases hroom : (pool.retain now).connections.length < pool.maxConnections
    · rw [if_pos (show _ < (pool.retain now).maxConnections from hroom), decide_eq_true hroom]
      rfl
    · rw [if_neg (show ¬ _ < (pool.retain now).maxConnections from hroom),
        decide_eq_false hroom]
      rfl

/-- The pool after a call. -/
def after (pool : ConnectionPool) : Call → ConnectionPool
  | .get addr now connects createdAt lastUsed =>
      (pool.getConnection addr now connects createdAt lastUsed).2
  | .giveBack addr createdAt lastUsed => pool.returnConnection addr createdAt lastUsed
  | .cleanup now => pool.cleanupExpired now

/-- The limit and the timeout are never changed. -/
theorem after_config (pool : ConnectionPool) (call : Call) :
    (pool.after call).maxConnections = pool.maxConnections ∧
      (pool.after call).idleTimeout = pool.idleTimeout := by
  cases call with
  | get addr now connects createdAt lastUsed =>
      rw [after]
      rcases pool.getConnection_snd addr now connects createdAt lastUsed with
        ⟨pre, conn, post, -, -, -, -, h⟩ | ⟨-, h⟩
      · rw [h]
        exact ⟨rfl, rfl⟩
      · rw [h]
        split
        · exact ⟨rfl, rfl⟩
        · exact ⟨rfl, rfl⟩
  | giveBack addr createdAt lastUsed =>
      simp only [after, returnConnection]
      split
      · exact ⟨rfl, rfl⟩
      · exact ⟨rfl, rfl⟩
  | cleanup now => exact ⟨rfl, rfl⟩

theorem step_pool (s : Use) (call : Call) : (step s call).pool = s.pool.after call := by
  cases call with
  | get addr now connects createdAt lastUsed => rfl
  | giveBack addr createdAt lastUsed => rfl
  | cleanup now => rfl

/-- What the live entries tell `get_connection` is right: below the limit a stream can be had, and
at the limit none can, unless connecting fails. -/
def Tells (s : Use) : Call → Prop
  | .get addr now connects _ _ =>
      (s.inUse.length < s.pool.maxConnections → s.pool.Open addr now) ∧
        (s.pool.maxConnections ≤ s.inUse.length → s.pool.Open addr now → connects = false)
  | .giveBack .. | .cleanup _ => True

/-- **One call**, made with no more streams in use than the limit. -/
theorem limits_iff_tells (s : Use) (call : Call) (hs : s.inUse.length ≤ s.pool.maxConnections) :
    Limits s call ↔ Tells s call := by
  cases call with
  | giveBack addr createdAt lastUsed =>
      refine iff_of_true ⟨?_, fun _ _ _ _ _ h => by cases h⟩ trivial
      exact Nat.le_trans (List.erase_sublist.length_le) hs
  | cleanup now => exact iff_of_true ⟨hs, fun _ _ _ _ _ h => by cases h⟩ trivial
  | get addr now connects createdAt lastUsed =>
      rcases getConnection_fst s.pool addr now connects createdAt lastUsed with
        ⟨hopen, hgot⟩ | ⟨hclosed, hgot⟩
      · -- a stream is handed out if connecting succeeds
        have hstep : (step s (.get addr now connects createdAt lastUsed)).inUse =
            handOut addr s.inUse (outcome connects) := by rw [step, ← hgot]
        have hnot : (s.pool.getConnection addr now connects createdAt lastUsed).1 ≠ .refused := by
          rw [hgot]
          cases connects with
          | false => exact fun h => by cases h
          | true => exact fun h => by cases h
        have hright : ∀ addr' now' connects' createdAt' lastUsed',
            Call.get addr now connects createdAt lastUsed =
              .get addr' now' connects' createdAt' lastUsed' →
            (s.pool.getConnection addr' now' connects' createdAt' lastUsed').1 = .refused →
            s.pool.maxConnections ≤ s.inUse.length := by
          rintro _ _ _ _ _ ⟨⟩ h
          exact absurd h hnot
        rw [Limits, hstep, and_iff_left hright]
        cases connects with
        | false => exact iff_of_true hs ⟨fun _ => hopen, fun _ _ => rfl⟩
        | true =>
            refine ⟨fun h => ⟨fun _ => hopen, fun hfull => ?_⟩, fun h => ?_⟩
            · exact absurd hfull (Nat.not_le.mpr h)
            · exact Nat.not_le.mp fun hfull => by cases h.2 hfull hopen
      · have hstep : (step s (.get addr now connects createdAt lastUsed)).inUse = s.inUse := by
          simp only [step, hgot, handOut]
        rw [Limits, hstep]
        refine ⟨fun h => ⟨fun hlt => ?_, fun _ ho => absurd ho hclosed⟩, fun h => ⟨hs, ?_⟩⟩
        · exact absurd (h.2 _ _ _ _ _ rfl hgot) (Nat.not_le.mpr hlt)
        · intro _ _ _ _ _ _ _
          exact Nat.not_lt.mp fun hlt => hclosed (h.1 hlt)

/-- **The limit along a run.**  The streams in use never exceed the limit, and no call is refused
below it, exactly along the runs in which the live entries are right at each `get_connection`. -/
theorem limit_iff (maxConnections idleTimeout : Nat) (run : List Call) :
    Along step Limits (fresh maxConnections idleTimeout) run ↔
      Along step Tells (fresh maxConnections idleTimeout) run :=
  along_congr limits_iff_tells
    (fun s call _ h => by rw [step_pool, (s.pool.after_config call).1]; exact h.1)
    (Nat.zero_le _) run

def peerA : SocketAddr := ⟨"10.0.0.1", 8080⟩
def peerB : SocketAddr := ⟨"10.0.0.2", 8080⟩

/-- Two calls for one address hand out two streams where one is allowed; and after a stream has
been given back, a call for another address is refused though none is in use. -/
theorem limit_broken :
    (step (step (fresh 1 60) (.get peerA 0 true 0 0)) (.get peerA 1 true 1 1)).inUse.length = 2 ∧
      ¬ Along step Limits (fresh 1 60) [.get peerA 0 true 0 0, .get peerA 1 true 1 1] ∧
      ((step (step (fresh 1 60) (.get peerA 0 true 0 0)) (.giveBack peerA 1 1)).pool.getConnection
        peerB 2 true 2 2).1 = .refused ∧
      (step (step (fresh 1 60) (.get peerA 0 true 0 0)) (.giveBack peerA 1 1)).inUse = [] := by
  refine ⟨by decide, fun h => ?_, by decide, by decide⟩
  exact absurd h.2.1.1 (by decide)

/-! ### The entries -/

/-- The clock as a call reads it; the times of an entry only if there is one to be made. -/
def readings (pool : ConnectionPool) : Call → List Nat
  | .get addr now connects createdAt lastUsed =>
      now :: if pool.opens addr now connects then [createdAt, lastUsed] else []
  | .giveBack _ createdAt lastUsed =>
      if pool.connections.length < pool.maxConnections then [createdAt, lastUsed] else []
  | .cleanup now => [now]

/-- The pool, and the clock as it was last read. -/
structure Timed where
  pool : ConnectionPool
  clock : Nat

def tick (s : Timed) (call : Call) : Timed :=
  ⟨s.pool.after call, (s.pool.readings call).getLastD s.clock⟩

/-- The clock does not go back, from one reading to the next. -/
def Forward (s : Timed) (call : Call) : Prop := (s.clock :: s.pool.readings call).IsChain (· ≤ ·)

instance (s : Timed) (call : Call) : Decidable (Forward s call) :=
  inferInstanceAs (Decidable (List.IsChain _ _))

/-- The list is within the limit, and no entry of it was used in the future. -/
structure Sound (maxConnections idleTimeout : Nat) (s : Timed) : Prop where
  limit : s.pool.maxConnections = maxConnections
  timeout : s.pool.idleTimeout = idleTimeout
  length : s.pool.connections.length ≤ maxConnections
  past : ∀ conn ∈ s.pool.connections, conn.lastUsed ≤ s.clock

/-- What is left of `before` after a call: all that is not expired, but for the first entry with the
address asked for; and at most one that is new. -/
def Leaves (idleTimeout : Nat) (before : List PooledConnection) (call : Call)
    (left : List PooledConnection) : Prop :=
  match call with
  | .get addr now _ createdAt lastUsed =>
      ∃ live, live = before.filter (fun conn => now - conn.lastUsed < idleTimeout) ∧
        -- an entry is reused, the first of the live ones with the address; or there is none
        ((∃ pre conn post, live = pre ++ conn :: post ∧ (∀ c ∈ pre, c.addr ≠ addr) ∧
            conn.addr = addr ∧ left = pre ++ post) ∨
          (∀ c ∈ live, c.addr ≠ addr) ∧
            (left = live ∨ left = live ++ [⟨addr, createdAt, lastUsed⟩]))
  | .giveBack addr createdAt lastUsed =>
      left = before ∨ left = before ++ [⟨addr, createdAt, lastUsed⟩]
  | .cleanup now => left = before.filter (fun conn => now - conn.lastUsed < idleTimeout)

/-- A call keeps the list sound, and drops nothing else than it should. -/
structure Keeps (maxConnections idleTimeout : Nat) (s : Timed) (call : Call) : Prop where
  sound : Sound maxConnections idleTimeout (tick s call)
  leaves : Leaves idleTimeout s.pool.connections call (tick s call).pool.connections

/-- A chain ends no lower than it starts. -/
theorem le_getLastD (l : List Nat) : ∀ {a : Nat}, (a :: l).IsChain (· ≤ ·) → a ≤ l.getLastD a := by
  induction l with
  | nil => exact fun _ => Nat.le_refl _
  | cons b l ih =>
      intro a h
      obtain ⟨hab, hrest⟩ := List.isChain_cons_cons.mp h
      rw [List.getLastD_cons]
      exact Nat.le_trans hab (ih hrest)

/-- **What a call leaves.** -/
theorem after_leaves (pool : ConnectionPool) (call : Call) :
    Leaves pool.idleTimeout pool.connections call (pool.after call).connections := by
  cases call with
  | get addr now connects createdAt lastUsed =>
      refine ⟨_, rfl, ?_⟩
      rw [after]
      rcases pool.getConnection_snd addr now connects createdAt lastUsed with
        ⟨pre, conn, post, hlive, hpre, haddr, -, h⟩ | ⟨hfree, h⟩
      · rw [h]
        exact Or.inl ⟨pre, conn, post, hlive, hpre, haddr, rfl⟩
      · rw [h]
        refine Or.inr ⟨hfree, ?_⟩
        split
        · exact Or.inr rfl
        · exact Or.inl rfl
  | giveBack addr createdAt lastUsed =>
      simp only [after, returnConnection]
      split
      · exact Or.inr rfl
      · exact Or.inl rfl
  | cleanup now => rfl

/-- An entry after a call was there before, or it is new and was used when the clock was last
read. -/
theorem mem_after (s : Timed) (call : Call) {conn : PooledConnection}
    (h : conn ∈ (tick s call).pool.connections) :
    conn ∈ s.pool.connections ∨ conn.lastUsed = (tick s call).clock := by
  cases call with
  | get addr now connects createdAt lastUsed =>
      simp only [tick, after, readings] at h ⊢
      rcases s.pool.getConnection_snd addr now connects createdAt lastUsed with
        ⟨pre, first, post, hlive, -, -, -, hafter⟩ | ⟨-, hafter⟩
      · rw [hafter] at h
        have hmem : conn ∈ pre ++ first :: post :=
          ((List.sublist_cons_self first post).append_left pre).subset h
        rw [← hlive] at hmem
        exact Or.inl (List.mem_filter.mp hmem).1
      · rw [hafter] at h
        split at h
        · rename_i hopens
          rcases List.mem_append.mp h with h | h
          · exact Or.inl (List.mem_filter.mp h).1
          · rw [if_pos hopens, List.mem_singleton.mp h]
            exact Or.inr rfl
        · exact Or.inl (List.mem_filter.mp h).1
  | giveBack addr createdAt lastUsed =>
      simp only [tick, after, readings, returnConnection] at h ⊢
      split at h
      · rename_i hroom
        rcases List.mem_append.mp h with h | h
        · exact Or.inl h
        · rw [if_pos hroom, List.mem_singleton.mp h]
          exact Or.inr rfl
      · exact Or.inl h
  | cleanup now => exact Or.inl (List.mem_filter.mp h).1

/-- The list stays within the limit. -/
theorem after_length {pool : ConnectionPool} (h : pool.connections.length ≤ pool.maxConnections)
    (call : Call) : (pool.after call).connections.length ≤ pool.maxConnections := by
  have hretain : ∀ now, (pool.retain now).connections.length ≤ pool.maxConnections := fun now =>
    Nat.le_trans (List.length_filter_le _ _) h
  cases call with
  | get addr now connects createdAt lastUsed =>
      rw [after]
      rcases pool.getConnection_snd addr now connects createdAt lastUsed with
        ⟨pre, first, post, hlive, -, -, -, hafter⟩ | ⟨-, hafter⟩
      · have hlength : (pre ++ first :: post).length ≤ pool.maxConnections := by
          rw [← hlive]
          exact hretain now
        rw [hafter]
        exact Nat.le_trans ((List.sublist_cons_self first post).append_left pre).length_le hlength
      · rw [hafter]
        split
        · rename_i hopens
          rw [opens, Bool.and_eq_true, Bool.and_eq_true] at hopens
          have hroom := of_decide_eq_true hopens.1.2
          rw [push, List.length_append]
          exact hroom
        · exact hretain now
  | giveBack addr createdAt lastUsed =>
      simp only [after, returnConnection]
      split
      · rename_i hroom
        rw [push, List.length_append]
        exact hroom
      · exact h
  | cleanup now => exact hretain now

/-- **One call.** -/
theorem keeps_of_sound {maxConnections idleTimeout : Nat} {s : Timed} {call : Call}
    (hs : Sound maxConnections idleTimeout s) (hclock : Forward s call) :
    Keeps maxConnections idleTimeout s call := by
  obtain ⟨hmax, hidle⟩ := s.pool.after_config call
  have hlength : s.pool.connections.length ≤ s.pool.maxConnections := by
    rw [hs.limit]
    exact hs.length
  refine ⟨⟨hmax.trans hs.limit, hidle.trans hs.timeout, ?_, fun conn hconn => ?_⟩, ?_⟩
  · rw [← hs.limit]
    exact after_length hlength call
  · rcases mem_after s call hconn with hold | hnew
    · exact Nat.le_trans (hs.past conn hold) (le_getLastD _ hclock)
    · exact Nat.le_of_eq hnew
  · rw [← hs.timeout]
    exact s.pool.after_leaves call

/-- **The entries along a run**, from an empty pool and with a clock that does not go back. -/
theorem entries_kept (maxConnections idleTimeout clock : Nat) {run : List Call}
    (h : Along tick Forward ⟨new maxConnections idleTimeout, clock⟩ run) :
    Along tick (Keeps maxConnections idleTimeout) ⟨new maxConnections idleTimeout, clock⟩ run := by
  have hstart : Sound maxConnections idleTimeout ⟨new maxConnections idleTimeout, clock⟩ :=
    ⟨rfl, rfl, Nat.zero_le _, fun _ h => absurd h List.not_mem_nil⟩
  refine Along.mono (P := Forward) (fun s call hs hclock => ?_) (fun s call hs hclock => ?_)
    hstart h
  · exact keeps_of_sound hs hclock
  · exact (keeps_of_sound hs hclock).sound

/-- A connection is made, reused in vain, given back and expires. -/
theorem entries_kept_expired :
    Along tick (Keeps 1 60) ⟨new 1 60, 0⟩ [.get peerA 0 true 1 2, .get peerA 3 false 0 0,
      .giveBack peerA 4 5, .cleanup 70] :=
  entries_kept 1 60 0 ⟨by decide, by decide, by decide, by decide, trivial⟩

end MiniGateway.ConnectionPool
