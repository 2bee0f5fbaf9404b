import MiniGateway.Source.Selection
import MiniGateway.Support.Rounds

/-!
# Properties — Selection

Runs of `select_endpoint`.  Each call touches the counter in one atomic step, so the calls of any
number of clones and threads are a list, in the order of these steps: every interleaving is one.

* On one list, the calls that take a value of the counter get round it in turn, but for one place
  where the counter wraps (`positions_level`).
* The counter is the same for all lists and for two strategies.  The `RoundRobin` calls for one
  list are spread evenly exactly if what comes in between does not take them back to an endpoint
  they had in the same round (`fair_iff`).
-/

namespace MiniGateway.ProxyClient

open Rounds

/-- A call, with the time it reads. -/
structure Selection where
  endpoints : List Text
  strategy : LoadBalanceStrategy
  clientIp : Option Text
  now : Nat

namespace Selection

variable (H : DefaultHasher) (call : Selection) (counter : UInt64)

/-- The index it reads at. -/
def index : Nat :=
  (selectIndex H call.now call.endpoints call.strategy call.clientIp counter).1

def answer : Except OutOfBounds (Option Text) :=
  (selectEndpoint H call.now call.endpoints call.strategy call.clientIp counter).1

/-- The counter it leaves. -/
def after : UInt64 :=
  (selectEndpoint H call.now call.endpoints call.strategy call.clientIp counter).2

/-- The call takes a value of the counter. -/
def consumes (call : Selection) : Bool :=
  decide (call.strategy = .roundRobin ∨ call.strategy = .leastConnections) &&
    !call.endpoints.isEmpty

/-- It does so to select in turn from the list. -/
def selectsFrom (endpoints : List Text) (call : Selection) : Bool :=
  call.consumes && decide (call.strategy = .roundRobin ∧ call.endpoints = endpoints)

/-! ### One call -/

theorem after_eq : call.after H counter = if call.consumes then counter + 1 else counter := by
  obtain ⟨endpoints, strategy, clientIp, now⟩ := call
  cases endpoints with
  | nil => simp [after, selectEndpoint, consumes]
  | cons endpoint endpoints =>
      cases strategy with
      | roundRobin => rfl
      | random => rfl
      | leastConnections => rfl
      | ipHash =>
          cases clientIp with
          | none => rfl
          | some ip => rfl

variable {call}

/-- The index is one of the list, whatever the strategy. -/
theorem index_lt (hne : call.endpoints ≠ []) : call.index H counter < call.endpoints.length := by
  have hpos : 0 < call.endpoints.length := List.length_pos_iff.mpr hne
  simp only [index, selectIndex]
  split
  · exact Nat.mod_lt _ hpos
  · exact Nat.mod_lt _ hpos
  · split
    · exact Nat.mod_lt _ hpos
    · exact hpos
  · exact Nat.mod_lt _ hpos

/-- **The call returns the endpoint at its index.** -/
theorem answer_eq (hne : call.endpoints ≠ []) :
    ∃ e, call.endpoints[call.index H counter]? = some e ∧ call.answer H counter = .ok (some e) := by
  refine ⟨_, List.getElem?_eq_getElem (index_lt H counter hne), ?_⟩
  have hempty : call.endpoints.isEmpty = false := List.isEmpty_eq_false_iff.mpr hne
  have hanswer : call.answer H counter =
      (endpointAt call.endpoints (call.index H counter)).map some := by
    rw [answer, selectEndpoint, hempty]
    rfl
  rw [hanswer, endpointAt, List.getElem?_eq_getElem (index_lt H counter hne)]
  rfl

theorem index_of_consumes (h : call.consumes = true) :
    call.index H counter = counter.toNat % call.endpoints.length := by
  rw [consumes, Bool.and_eq_true, decide_eq_true_eq] at h
  rcases h.1 with hs | hs
  · simp only [index, selectIndex, hs]
  · simp only [index, selectIndex, hs]

end Selection

open Selection

/-! ### Runs -/

/-- The calls of a run, each with the value of the counter it finds. -/
def withCounters (H : DefaultHasher) : UInt64 → List Selection → List (Selection × UInt64)
  | _, [] => []
  | counter, call :: run => (call, counter) :: withCounters H (call.after H counter) run

/-- The counter after a run has gone on once for each call that takes a value of it. -/
theorem withCounters_append (H : DefaultHasher) (pre run : List Selection) : ∀ counter : UInt64,
    withCounters H counter (pre ++ run) = withCounters H counter pre ++
      withCounters H (counter + UInt64.ofNat (pre.countP consumes)) run := by
  induction pre with
  | nil =>
      intro counter
      exact congrArg (withCounters H · run) (UInt64.add_zero counter).symm
  | cons call pre ih =>
      intro counter
      have hcounter : call.after H counter + UInt64.ofNat (pre.countP consumes) =
          counter + UInt64.ofNat ((call :: pre).countP consumes) := by
        rw [after_eq, List.countP_cons]
        split
        · rw [UInt64.ofNat_add, UInt64.add_assoc, UInt64.add_comm 1]
          rfl
        · rw [Nat.add_zero]
      rw [List.cons_append, withCounters, ih, hcounter]
      rfl

/-- The indices that the calls that take a value of the counter read at. -/
def positions (H : DefaultHasher) (counter : UInt64) (run : List Selection) : List Nat :=
  ((withCounters H counter run).filter fun p => p.1.consumes).map fun p => p.1.index H p.2

theorem positions_cons (H : DefaultHasher) (counter : UInt64) (call : Selection)
    (run : List Selection) :
    positions H counter (call :: run) =
      if call.consumes then call.index H counter :: positions H (counter + 1) run
      else positions H counter run := by
  rw [positions, withCounters, List.filter_cons, after_eq]
  split
  · rfl
  · rfl

/-- **On one list the positions are the values of the counter**, modulo the number of endpoints. -/
theorem positions_eq (H : DefaultHasher) {endpoints : List Text} {run : List Selection} :
    ∀ counter : UInt64, (∀ call ∈ run, call.consumes = true → call.endpoints = endpoints) →
    positions H counter run = (List.range (run.countP consumes)).map fun i =>
      (counter.toNat + i) % 2 ^ 64 % endpoints.length := by
  induction run with
  | nil => exact fun _ _ => rfl
  | cons call run ih =>
      intro counter hlist
      have hrest : ∀ call ∈ run, call.consumes = true → call.endpoints = endpoints :=
        fun call' h => hlist call' (List.mem_cons_of_mem _ h)
      rw [positions_cons, List.countP_cons]
      split
      · rename_i hc
        have hfirst : call.index H counter = (counter.toNat + 0) % 2 ^ 64 % endpoints.length := by
          rw [index_of_consumes H counter hc, hlist call List.mem_cons_self hc, Nat.add_zero,
            Nat.mod_eq_of_lt counter.toNat_lt]
        rw [List.range_succ_eq_map, List.map_cons, ← hfirst, ih (counter + 1) hrest, List.map_map]
        refine congrArg (_ :: ·) (List.map_congr_left fun i _ => ?_)
        -- the next value is one more, or zero
        have hnext : (counter + 1).toNat = (counter.toNat + 1) % 2 ^ 64 :=
          UInt64.toNat_add counter 1
        rw [hnext, Nat.mod_add_mod, Nat.add_assoc, Nat.add_comm 1 i]
        rfl
      · exact ih counter hrest

/-- **In turn, across the wrap.**  Along every run whose calls take the values of the counter for
one list, every call with a list returns the endpoint at its index, and the positions are level up
to one, or up to two if the counter wraps. -/
theorem positions_level (H : DefaultHasher) (counter : UInt64) {endpoints : List Text}
    {run : List Selection}
    (hlist : ∀ call ∈ run, call.consumes = true → call.endpoints = endpoints)
    (hn : run.countP consumes ≤ 2 ^ 64) :
    (∀ p ∈ withCounters H counter run, p.1.endpoints ≠ [] →
      ∃ e, p.1.endpoints[p.1.index H p.2]? = some e ∧ p.1.answer H p.2 = .ok (some e)) ∧
    Level (if counter.toNat + run.countP consumes ≤ 2 ^ 64 then 1 else 2)
      (Finset.range endpoints.length) (positions H counter run) := by
  refine ⟨fun p _ hne => answer_eq H p.2 hne, ?_⟩
  have hlevel := level_wrapping endpoints.length counter.toNat_lt hn
  rw [List.range'_eq_map_range, List.map_map] at hlevel
  rw [positions_eq H counter hlist]
  exact hlevel

/-- A hasher that makes the same of everything. -/
def constHasher : DefaultHasher := ⟨fun _ => 0, fun _ => 0⟩

/-- A call for the list, from no address in particular. -/
def callFor (endpoints : List Text) (strategy : LoadBalanceStrategy) : Selection :=
  ⟨endpoints, strategy, none, 0⟩

def threeEndpoints : List Text := ["http://a:1".toList, "http://b:1".toList, "http://c:1".toList]

/-- Three calls that take a value of the counter, and one that does not. -/
def wrapRun : List Selection :=
  [callFor threeEndpoints .roundRobin, callFor threeEndpoints .ipHash,
    callFor threeEndpoints .leastConnections, callFor threeEndpoints .roundRobin]

/-- The counter wraps after the first call, and the first endpoint is selected again. -/
theorem positions_level_wrapRun :
    positions constHasher 18446744073709551615 wrapRun = [0, 0, 1] ∧
      Level 2 (Finset.range 3) (positions constHasher 18446744073709551615 wrapRun) := by
  have hlist : ∀ call ∈ wrapRun, call.consumes = true → call.endpoints = threeEndpoints := by
    decide
  exact ⟨by decide, (positions_level constHasher 18446744073709551615 hlist (by decide)).2⟩

/-! ### One list among others -/

/-- What the call selects in turn from the list, if it does. -/
def selected (H : DefaultHasher) (endpoints : List Text) (p : Selection × UInt64) : Option Text :=
  if p.1.strategy = .roundRobin ∧ p.1.endpoints = endpoints then (p.1.answer H p.2).toOption.join
  else none

/-- The `RoundRobin` selections that a run makes for the list. -/
def selections (H : DefaultHasher) (endpoints : List Text) (counter : UInt64)
    (run : List Selection) : List Text :=
  (withCounters H counter run).filterMap (selected H endpoints)

/-- **The run is fair to the list**: the numbers of times that any two of its endpoints are selected
differ by one at most. -/
def Fair (H : DefaultHasher) (endpoints : List Text) (run : List Selection) : Prop :=
  Level 1 endpoints.toFinset (selections H endpoints newCounter run)

/-- From one `RoundRobin` call for the list to a later one of the same round the counter does not
go on by a multiple of the number of endpoints. -/
def Spaced (endpoints : List Text) (run : List Selection) : Prop :=
  ∀ pre first mid second post, run = pre ++ first :: (mid ++ second :: post) →
    first.selectsFrom endpoints = true → second.selectsFrom endpoints = true →
    pre.countP (selectsFrom endpoints) / endpoints.length =
      (pre ++ first :: mid).countP (selectsFrom endpoints) / endpoints.length →
    ¬ endpoints.length ∣ (first :: mid).countP consumes

section Selections

variable (H : DefaultHasher) {endpoints : List Text}

theorem selected_eq (call : Selection) (counter : UInt64) :
    selected H endpoints (call, counter) =
      if call.selectsFrom endpoints then endpoints[counter.toNat % endpoints.length]?
      else none := by
  by_cases hcall : call.strategy = .roundRobin ∧ call.endpoints = endpoints
  · obtain ⟨hs, rfl⟩ := hcall
    rw [selected, if_pos ⟨hs, rfl⟩]
    by_cases hne : call.endpoints = []
    · have hno : call.selectsFrom call.endpoints = false := by simp [selectsFrom, consumes, hne]
      rw [hno, if_neg (by decide), Selection.answer, selectEndpoint, hne]
      rfl
    · have hc : call.consumes = true := by simp [consumes, hs, hne]
      have hyes : call.selectsFrom call.endpoints = true := by simp [selectsFrom, hc, hs]
      obtain ⟨e, he, hanswer⟩ := answer_eq H counter hne
      rw [index_of_consumes H counter hc] at he
      rw [hyes, if_pos rfl, hanswer, he]
      rfl
  · have hno : call.selectsFrom endpoints = false := by simp [selectsFrom, hcall]
    rw [selected, if_neg hcall, hno, if_neg (by decide)]

theorem selections_append (pre run : List Selection) (counter : UInt64) :
    selections H endpoints counter (pre ++ run) = selections H endpoints counter pre ++
      selections H endpoints (counter + UInt64.ofNat (pre.countP consumes)) run := by
  rw [selections, withCounters_append, List.filterMap_append]
  rfl

theorem selections_cons (call : Selection) (run : List Selection) (counter : UInt64) :
    selections H endpoints counter (call :: run) =
      (selected H endpoints (call, counter)).toList ++
        selections H endpoints (call.after H counter) run := by
  rw [selections, withCounters, List.filterMap_cons]
  split
  · rename_i h
    rw [h]
    rfl
  · rename_i e h
    rw [h]
    rfl

/-- A selecting call finds an endpoint. -/
theorem selected_eq_some {call : Selection} (h : call.selectsFrom endpoints = true)
    (counter : UInt64) : ∃ e, selected H endpoints (call, counter) = some e ∧
      endpoints[counter.toNat % endpoints.length]? = some e := by
  have hpos : 0 < endpoints.length := by
    simp only [selectsFrom, consumes, Bool.and_eq_true, Bool.not_eq_true', decide_eq_true_eq] at h
    obtain ⟨⟨-, hne⟩, -, rfl⟩ := h
    exact List.length_pos_iff.mpr (List.isEmpty_eq_false_iff.mp hne)
  have hat := List.getElem?_eq_getElem (Nat.mod_lt counter.toNat hpos)
  refine ⟨_, ?_, hat⟩
  rw [selected_eq, h, if_pos rfl, hat]

theorem length_selections (run : List Selection) : ∀ counter : UInt64,
    (selections H endpoints counter run).length = run.countP (selectsFrom endpoints) := by
  induction run with
  | nil => exact fun _ => rfl
  | cons call run ih =>
      intro counter
      have hfirst : (selected H endpoints (call, counter)).toList.length =
          if call.selectsFrom endpoints then 1 else 0 := by
        cases hs : call.selectsFrom endpoints with
        | true =>
            obtain ⟨e, he, -⟩ := selected_eq_some H hs counter
            rw [he]
            rfl
        | false =>
            rw [selected_eq, hs, if_neg (by decide)]
            rfl
      rw [selections_cons, List.length_append, hfirst, ih, List.countP_cons, Nat.add_comm]

theorem mem_selections {run : List Selection} {counter : UInt64} {e : Text}
    (h : e ∈ selections H endpoints counter run) : e ∈ endpoints := by
  obtain ⟨⟨call, value⟩, -, he⟩ := List.mem_filterMap.mp h
  rw [selected_eq] at he
  split at he
  · exact List.mem_of_getElem? he
  · cases he

/-- **Which endpoint a selection gets**: the one that the number of calls before it says, of those
that take a value of the counter. -/
theorem selections_at (pre post : List Selection) {call : Selection} (hlength : pre.length < 2 ^ 64)
    (h : call.selectsFrom endpoints = true) :
    ∃ e, (selections H endpoints newCounter (pre ++ call :: post))[pre.countP
        (selectsFrom endpoints)]? = some e ∧
      endpoints[pre.countP consumes % endpoints.length]? = some e := by
  have hcounter : (newCounter + UInt64.ofNat (pre.countP consumes)).toNat =
      pre.countP consumes := by
    have hlt : pre.countP consumes < 2 ^ 64 := Nat.lt_of_le_of_lt List.countP_le_length hlength
    rw [newCounter, UInt64.zero_add]
    exact UInt64.toNat_ofNat_of_lt' hlt
  obtain ⟨e, he, hat⟩ := selected_eq_some H h
    (newCounter + UInt64.ofNat (pre.countP consumes))
  rw [hcounter] at hat
  refine ⟨e, ?_, hat⟩
  rw [selections_append, List.getElem?_append_right (length_selections H pre newCounter).le,
    length_selections, Nat.sub_self, selections_cons, he]
  rfl

/-- What was selected up to some point was so by the run up to some call. -/
theorem exists_prefix {run : List Selection} {q : List Text}
    (hq : q <+: selections H endpoints newCounter run) :
    ∃ p, p <+: run ∧ selections H endpoints newCounter p = q := by
  rcases Nat.lt_or_ge q.length (selections H endpoints newCounter run).length with hlt | hge
  · rw [length_selections] at hlt
    obtain ⟨pre, call, post, rfl, -, hcount⟩ := exists_split hlt
    refine ⟨pre, List.prefix_append _ _, ?_⟩
    rw [selections_append] at hq
    have hlength : (selections H endpoints newCounter pre).length = q.length := by
      rw [length_selections, hcount]
    exact ((List.prefix_of_prefix_length_le (List.prefix_append _ _) hq hlength.le).eq_of_length
      hlength)
  · exact ⟨run, List.prefix_refl _, (hq.eq_of_length_le hge).symm⟩

/-- Fair all along is level all along. -/
theorem fair_prefixes_iff (run : List Selection) :
    (∀ p, p <+: run → Fair H endpoints p) ↔
      ∀ q, q <+: selections H endpoints newCounter run → Level 1 endpoints.toFinset q := by
  constructor
  · intro h q hq
    obtain ⟨p, hp, rfl⟩ := exists_prefix H hq
    exact h p hp
  · rintro h p ⟨post, rfl⟩
    rw [selections_append] at h
    exact h _ (List.prefix_append _ _)

/-- **Two selections get the same endpoint** exactly if the counter goes on by a multiple of the
number of endpoints from the one to the other. -/
theorem same_endpoint_iff (hdistinct : endpoints.Nodup) {pre mid post : List Selection}
    {first second : Selection}
    (hlength : (pre ++ first :: mid ++ second :: post).length < 2 ^ 64)
    (hfirst : first.selectsFrom endpoints = true) (hsecond : second.selectsFrom endpoints = true) :
    ∃ e e', (selections H endpoints newCounter (pre ++ first :: mid ++ second :: post))[pre.countP
        (selectsFrom endpoints)]? = some e ∧
      (selections H endpoints newCounter (pre ++ first :: mid ++ second :: post))[(pre ++
        first :: mid).countP (selectsFrom endpoints)]? = some e' ∧
      (e = e' ↔ endpoints.length ∣ (first :: mid).countP consumes) := by
  rw [List.length_append] at hlength
  obtain ⟨e', he', hat'⟩ := selections_at H (pre ++ first :: mid) post (by omega) hsecond
  rw [List.length_append] at hlength
  obtain ⟨e, he, hat⟩ := selections_at H pre (mid ++ second :: post) (by omega) hfirst
  rw [← List.cons_append, ← List.append_assoc] at he
  refine ⟨e, e', he, he', ?_⟩
  rw [List.countP_append] at hat'
  have hturns : pre.countP consumes ≡ pre.countP consumes + (first :: mid).countP consumes
      [MOD endpoints.length] ↔ endpoints.length ∣ (first :: mid).countP consumes := by
    rw [Nat.modEq_iff_dvd' (Nat.le_add_right _ _), Nat.add_sub_cancel_left]
  rw [← hturns]
  constructor
  · rintro rfl
    have hlt := (List.getElem?_eq_some_iff.mp hat).1
    exact (List.getElem?_inj hlt hdistinct).mp (hat.trans hat'.symm)
  · intro hmod
    rw [← hmod, hat] at hat'
    exact Option.some.inj hat'

end Selections

/-- **When `RoundRobin` is fair to one list**, all along a run of fewer than `2 ^ 64` calls for any
lists and strategies: exactly if the selections of each of its rounds are spaced. -/
theorem fair_iff (H : DefaultHasher) {endpoints : List Text} (hdistinct : endpoints.Nodup)
    {run : List Selection} (hlength : run.length < 2 ^ 64) :
    (∀ p, p <+: run → Fair H endpoints p) ↔ Spaced endpoints run := by
  rw [fair_prefixes_iff, level_prefixes_iff fun a ha => List.mem_toFinset.mpr (mem_selections H ha),
    List.toFinset_card_of_nodup hdistinct]
  constructor
  · rintro h pre first mid second post rfl hfirst hsecond hround hdvd
    rw [← List.cons_append, ← List.append_assoc] at h hlength
    obtain ⟨e, e', he, he', hsame⟩ := same_endpoint_iff H hdistinct hlength hfirst hsecond
    cases hsame.mpr hdvd
    have hless : pre.countP (selectsFrom endpoints) <
        (pre ++ first :: mid).countP (selectsFrom endpoints) := by
      rw [List.countP_append, List.countP_cons_of_pos hfirst]
      omega
    exact h _ _ e hless he he' hround
  · intro h i j a hij hi hj hround
    -- the two calls that selected the endpoint
    have hj' : j < run.countP (selectsFrom endpoints) := by
      rw [← length_selections H run newCounter]
      exact (List.getElem?_eq_some_iff.mp hj).1
    obtain ⟨before, second, post, rfl, hsecond, rfl⟩ := exists_split hj'
    obtain ⟨pre, first, mid, rfl, hfirst, rfl⟩ := exists_split hij
    obtain ⟨e, e', he, he', hsame⟩ := same_endpoint_iff H hdistinct hlength hfirst hsecond
    refine h pre first mid second post ?_ hfirst hsecond hround (hsame.mp ?_)
    · rw [List.append_assoc, List.cons_append]
    · rw [hi] at he
      rw [hj] at he'
      exact Option.some.inj (he.symm.trans he')

/-- A list that alone uses the counter is served fairly. -/
theorem spaced_of_alone {endpoints : List Text} {run : List Selection}
    (h : ∀ call ∈ run, call.consumes = true → call.selectsFrom endpoints = true) :
    Spaced endpoints run := by
  rintro pre first mid second post rfl hfirst - hround hdvd
  have hsame : (first :: mid).countP consumes = (first :: mid).countP (selectsFrom endpoints) := by
    refine List.countP_congr fun call hcall => ⟨h call ?_, fun hs => ?_⟩
    · rw [← List.cons_append]
      exact List.mem_append_right _ (List.mem_append_left _ hcall)
    · rw [selectsFrom, Bool.and_eq_true] at hs
      exact hs.1
  rw [hsame] at hdvd
  rw [List.countP_append] at hround
  have hpos : 0 < (first :: mid).countP (selectsFrom endpoints) := by
    rw [List.countP_cons_of_pos hfirst]
    exact Nat.succ_pos _
  -- a multiple of their number is another round
  obtain ⟨d, hd⟩ := hdvd
  rw [hd] at hpos hround
  have hdpos : 0 < d := Nat.pos_of_mul_pos_left hpos
  rw [Nat.add_mul_div_left _ _ (Nat.pos_of_mul_pos_right hpos)] at hround
  omega

def twoEndpoints : List Text := ["http://a:1".toList, "http://b:1".toList]

def otherEndpoints : List Text := ["http://c:1".toList, "http://d:1".toList]

/-- One list, with a call in between that leaves the counter alone. -/
def aloneRun : List Selection :=
  [callFor twoEndpoints .roundRobin, callFor otherEndpoints .ipHash,
    callFor twoEndpoints .roundRobin, callFor twoEndpoints .roundRobin]

theorem fair_alone :
    selections constHasher twoEndpoints newCounter aloneRun =
        ["http://a:1".toList, "http://b:1".toList, "http://a:1".toList] ∧
      Fair constHasher twoEndpoints aloneRun := by
  have halone : ∀ call ∈ aloneRun, call.consumes = true →
      call.selectsFrom twoEndpoints = true := by decide
  have hfair := (fair_iff constHasher (by decide) (by decide)).mpr (spaced_of_alone halone)
  exact ⟨by decide, hfair aloneRun (List.prefix_refl _)⟩

/-- Two lists in alternation. -/
def alternatingRun : List Selection :=
  [callFor twoEndpoints .roundRobin, callFor otherEndpoints .roundRobin,
    callFor twoEndpoints .roundRobin]

/-- Of each list one endpoint gets all the traffic. -/
theorem alternating_unfair :
    twoEndpoints.Nodup ∧ alternatingRun.length < 2 ^ 64 ∧
      selections constHasher twoEndpoints newCounter alternatingRun =
        ["http://a:1".toList, "http://a:1".toList] ∧
      ¬ Fair constHasher twoEndpoints alternatingRun := by
  refine ⟨by decide, by decide, by decide, fun h => ?_⟩
  exact absurd (h "http://a:1".toList (by decide) "http://b:1".toList (by decide)) (by decide)

end MiniGateway.ProxyClient
