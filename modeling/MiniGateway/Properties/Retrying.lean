import Mathlib.Data.List.Basic
import MiniGateway.Source.Proxy

/-!
# Properties — Retrying

How often `execute_with_retry` sends, how long it pauses, and which attempt's answer it returns.

The answers are those of any client from any state of its upstream, so any sequence of responses
and errors.  The loop stops at the first attempt but the last that answers with something else
than a server error, or at the last (`lastAttempt`); what it sends, sleeps and returns is a
function of that number (`attempts_spec`).
-/

namespace MiniGateway.ProxyClient

open Http

variable {υ : Type}

/-! ### The attempts' answers -/

/-- The answer to the `i`-th of the sends of `req` one after the other, counted from nothing. -/
def answer (C : Client υ) (req : OutRequest) : υ → Nat → Except SendError UpstreamResponse
  | u, 0 => (C.send u req).1
  | u, i + 1 => answer C req (C.send u req).2 i

/-- A response that is not a server error. -/
def settles (outcome : Except SendError UpstreamResponse) : Bool :=
  match outcome with
  | .ok resp => !resp.status.isServerError
  | .error _ => false

/-- The least `i < n` whose outcome settles the request, from one on; `n` if there is none. -/
def lastAttempt (outcome : Nat → Except SendError UpstreamResponse) (n : Nat) : Nat :=
  ((List.range' 1 (n - 1)).find? fun i => settles (outcome i)).getD n

theorem lastAttempt_one (o : Nat → Except SendError UpstreamResponse) : lastAttempt o 1 = 1 := rfl

theorem lastAttempt_add_two (o : Nat → Except SendError UpstreamResponse) (n : Nat) :
    lastAttempt o (n + 2) =
      if settles (o 1) then 1 else lastAttempt (fun i => o (i + 1)) (n + 1) + 1 := by
  have htail : List.range' 2 n = (List.range' 1 n).map (· + 1) := by
    rw [List.range'_eq_map_range, List.range'_eq_map_range, List.map_map]
    exact List.map_congr_left fun i _ => by simp only [Function.comp]; omega
  rw [lastAttempt, lastAttempt, show n + 2 - 1 = n + 1 from rfl, List.range'_succ, List.find?_cons]
  by_cases hs : settles (o 1)
  · simp [hs]
  · rw [if_neg hs, htail, List.find?_map]
    simp only [hs, show n + 1 - 1 = n from rfl, Function.comp_def]
    cases (List.range' 1 n).find? fun i => settles (o (i + 1)) with
    | none => rfl
    | some i => rfl

/-- Only the outcomes from one on count. -/
theorem lastAttempt_congr {o o' : Nat → Except SendError UpstreamResponse}
    (h : ∀ i, 1 ≤ i → o i = o' i) (n : Nat) : lastAttempt o n = lastAttempt o' n := by
  have hfind : ∀ l : List Nat, (∀ i ∈ l, 1 ≤ i) →
      (l.find? fun i => settles (o i)) = l.find? fun i => settles (o' i) := by
    intro l
    induction l with
    | nil => exact fun _ => rfl
    | cons i l ih =>
        intro hl
        rw [List.find?_cons, List.find?_cons, h i (hl i List.mem_cons_self),
          ih fun j hj => hl j (List.mem_cons_of_mem _ hj)]
  rw [lastAttempt, lastAttempt, hfind _ fun i hi => (List.mem_range'_1.mp hi).1]

theorem lastAttempt_pos (o : Nat → Except SendError UpstreamResponse) (n : Nat) :
    1 ≤ lastAttempt o (n + 1) := by
  cases n with
  | zero => exact Nat.le_of_eq (lastAttempt_one o).symm
  | succ n =>
      rw [lastAttempt_add_two]
      split
      · exact Nat.le_refl 1
      · exact Nat.le_add_left 1 _

theorem lastAttempt_settles (o : Nat → Except SendError UpstreamResponse) (n : Nat) :
    lastAttempt o n = n ∨ settles (o (lastAttempt o n)) := by
  rw [lastAttempt]
  cases hfind : (List.range' 1 (n - 1)).find? fun i => settles (o i) with
  | none => exact Or.inl rfl
  | some i =>
      have hi : settles (o i) = true := by simpa using List.find?_some hfind
      exact Or.inr hi

/-! ### The loop -/

/-- The result that `outcome`, the last of `n` attempts, gives. -/
def verdict (n : Nat) (outcome : Except SendError UpstreamResponse) :
    Except GatewayError UpstreamResponse :=
  match outcome with
  | .ok resp => .ok resp
  | .error e => .error (.proxy ("Request failed after ".toList ++ Text.ofNat n ++
      " attempts: ".toList ++ e.text))

theorem verdict_ne_unavailable (n : Nat) (outcome : Except SendError UpstreamResponse) :
    verdict n outcome ≠ .error .upstreamUnavailable := by
  cases outcome with
  | ok resp => exact fun h => by cases h
  | error e => exact fun h => by cases h

theorem ok_of_verdict {n : Nat} {outcome : Except SendError UpstreamResponse}
    {resp : UpstreamResponse} (h : verdict n outcome = .ok resp) : outcome = .ok resp := by
  cases outcome with
  | ok resp' =>
      cases h
      rfl
  | error e => cases h

/-- The sends of `k` attempts from number `a` on, with the pauses between them. -/
def timeline (req : OutRequest) (backoff : Option Nat) (a k : Nat) : List Event :=
  (List.range' a (k - 1)).flatMap (fun i => .send req :: pause backoff i) ++ [.send req]

theorem timeline_succ (req : OutRequest) (backoff : Option Nat) (a : Nat) {k : Nat} (hk : 1 ≤ k) :
    timeline req backoff a (k + 1) =
      .send req :: pause backoff a ++ timeline req backoff (a + 1) k := by
  obtain ⟨k, rfl⟩ := Nat.exists_eq_add_of_le' hk
  simp only [timeline, Nat.add_sub_cancel, List.range'_succ, List.flatMap_cons, List.append_assoc]

/-- **One pass that is the last**: the request is settled, or no attempt is left. -/
theorem attempts_stop (C : Client υ) (req : OutRequest) {n : Nat} (backoff : Option Nat)
    {left a : Nat} (hn : a + left = n) {u : υ} (hstop : settles (C.send u req).1 ∨ left = 0) :
    attempts C (some req) n backoff (left + 1) a u =
      ⟨verdict n (C.send u req).1, (C.send u req).2, [.send req]⟩ := by
  have hlast : left = 0 → ¬ a < n := by omega
  rcases hsend : C.send u req with ⟨e | resp, u'⟩
  · rw [hsend] at hstop
    have hna : ¬ a < n := hlast (hstop.resolve_left (by simp [settles]))
    simp [attempts, hsend, hna, verdict]
  · have hfinal : (resp.status.isServerError && decide (a < n)) = false := by
      rw [hsend] at hstop
      rcases hstop with h | h
      · rw [show resp.status.isServerError = false by simpa [settles] using h, Bool.false_and]
      · rw [decide_eq_false (hlast h), Bool.and_false]
    simp [attempts, hsend, hfinal, verdict]

/-- **One pass with another after it.** -/
theorem attempts_again (C : Client υ) (req : OutRequest) {n : Nat} (backoff : Option Nat)
    {left a : Nat} (hn : a + (left + 1) = n) {u : υ} (hagain : ¬ settles (C.send u req).1) :
    attempts C (some req) n backoff (left + 2) a u =
      { attempts C (some req) n backoff (left + 1) (a + 1) (C.send u req).2 with
        events := .send req :: pause backoff a ++
          (attempts C (some req) n backoff (left + 1) (a + 1) (C.send u req).2).events } := by
  have ha : a < n := by omega
  rw [attempts]
  rcases hsend : C.send u req with ⟨e | resp, u'⟩
  · simp only [ha, if_true]
  · have herror : resp.status.isServerError = true := by
      simpa [hsend, settles] using hagain
    simp only [herror, ha, decide_true, Bool.and_self, if_true]

/-- **Induction along the loop**: a property of the runs that holds of a last pass, and of a pass
with another after it if it holds from there on, holds of every run. -/
theorem attempts_induction (C : Client υ) (req : OutRequest) {n : Nat} (backoff : Option Nat)
    {P : Nat → Nat → υ → Sent υ UpstreamResponse → Prop}
    (hstop : ∀ left a u, a + left = n → settles (C.send u req).1 ∨ left = 0 →
      P left a u ⟨verdict n (C.send u req).1, (C.send u req).2, [.send req]⟩)
    (hagain : ∀ left a u run, a + (left + 1) = n → ¬ settles (C.send u req).1 →
      P left (a + 1) (C.send u req).2 run →
        P (left + 1) a u { run with events := .send req :: pause backoff a ++ run.events })
    (left : Nat) : ∀ (a : Nat) (u : υ), a + left = n →
      P left a u (attempts C (some req) n backoff (left + 1) a u) := by
  induction left with
  | zero =>
      intro a u hn
      rw [attempts_stop C req backoff hn (Or.inr rfl)]
      exact hstop 0 a u hn (Or.inr rfl)
  | succ left ih =>
      intro a u hn
      by_cases hs : settles (C.send u req).1
      · rw [attempts_stop C req backoff hn (Or.inl hs)]
        exact hstop (left + 1) a u hn (Or.inl hs)
      · rw [attempts_again C req backoff hn hs]
        exact hagain left a u _ hn hs (ih (a + 1) _ (by omega))

/-- **The loop.**  From attempt `a` on it makes the attempts up to the last, and returns that
one's answer. -/
theorem attempts_spec (C : Client υ) (req : OutRequest) {n : Nat} (backoff : Option Nat)
    (left : Nat) : ∀ (a : Nat) (u : υ), a + left = n →
    (attempts C (some req) n backoff (left + 1) a u).result = verdict n (answer C req u
        (lastAttempt (fun i => answer C req u (i - 1)) (left + 1) - 1)) ∧
      (attempts C (some req) n backoff (left + 1) a u).events = timeline req backoff a
        (lastAttempt (fun i => answer C req u (i - 1)) (left + 1)) := by
  refine attempts_induction C req backoff (P := fun left a u run =>
    run.result = verdict n (answer C req u
        (lastAttempt (fun i => answer C req u (i - 1)) (left + 1) - 1)) ∧
      run.events = timeline req backoff a
        (lastAttempt (fun i => answer C req u (i - 1)) (left + 1))) ?_ ?_ left
  · intro left a u _ hlast
    have hone : lastAttempt (fun i => answer C req u (i - 1)) (left + 1) = 1 := by
      cases left with
      | zero => exact lastAttempt_one _
      | succ left =>
          rw [lastAttempt_add_two]
          exact if_pos (hlast.resolve_right (Nat.succ_ne_zero left))
    rw [hone]
    exact ⟨rfl, rfl⟩
  · rintro left a u run - hs ⟨hresult, hevents⟩
    -- the outcomes of the rest are those of the run from the upstream's next state
    have hshift : lastAttempt (fun i => answer C req u (i + 1 - 1)) (left + 1) =
        lastAttempt (fun i => answer C req (C.send u req).2 (i - 1)) (left + 1) :=
      lastAttempt_congr (fun i hi => by obtain ⟨j, rfl⟩ := Nat.exists_eq_add_of_le' hi; rfl) _
    have hfirst : ¬ settles (answer C req u (1 - 1)) := hs
    rw [lastAttempt_add_two, if_neg hfirst, hshift]
    obtain ⟨k, hk⟩ := Nat.exists_eq_add_of_le'
      (lastAttempt_pos (fun i => answer C req (C.send u req).2 (i - 1)) left)
    rw [hk] at hresult hevents ⊢
    refine ⟨hresult, ?_⟩
    rw [timeline_succ req backoff a (Nat.le_add_left 1 k), ← hevents]

/-- A response the loop returns is the client's answer to the request. -/
theorem attempts_ok_answer (C : Client υ) (req : OutRequest) {n : Nat} (backoff : Option Nat)
    {resp : UpstreamResponse} (left : Nat) : ∀ (a : Nat) (u : υ), a + left = n →
    (attempts C (some req) n backoff (left + 1) a u).result = .ok resp →
      ∃ u', (C.send u' req).1 = .ok resp := by
  refine attempts_induction C req backoff (P := fun _ _ _ run => run.result = .ok resp →
    ∃ u', (C.send u' req).1 = .ok resp) ?_ ?_ left
  · exact fun _ _ u _ _ h => ⟨u, ok_of_verdict h⟩
  · exact fun _ _ _ _ _ _ ih => ih

/-- **What the first send brings about and every send keeps holds in the end.** -/
theorem attempts_keeps (C : Client υ) (req : OutRequest) {n : Nat} (backoff : Option Nat)
    {P : υ → Prop} (hsend : ∀ u, P u → P (C.send u req).2) (left : Nat) : ∀ (a : Nat) (u : υ),
    a + left = n → P (C.send u req).2 →
      P (attempts C (some req) n backoff (left + 1) a u).upstream := by
  refine attempts_induction C req backoff
    (P := fun _ _ u run => P (C.send u req).2 → P run.upstream) ?_ ?_ left
  · exact fun _ _ _ _ _ h => h
  · exact fun _ _ _ _ _ _ ih h => ih (hsend _ h)

/-! ### `execute_with_retry` -/

/-- `retry.map(|r| r.max_attempts).unwrap_or(1)`. -/
def attemptsOf (retry : Option RetryConfig) : Nat := (retry.map (·.maxAttempts)).getD 1

/-- The request with the route's timeout, if one is set. -/
def timed (timeoutMs : Option Nat) (request : OutRequest) : OutRequest :=
  match timeoutMs with
  | some t => { request with timeoutMs := some t }
  | none => request

theorem timed_url (timeoutMs : Option Nat) (request : OutRequest) :
    (timed timeoutMs request).url = request.url := by
  cases timeoutMs with
  | none => rfl
  | some t => rfl

/-- The outcome of attempt `i`, counted from one. -/
def outcome (C : Client υ) (request : OutRequest) (u : υ) (i : Nat) :
    Except SendError UpstreamResponse := answer C request u (i - 1)

theorem executeWithRetry_eq (C : Client υ) (request : OutRequest) (retry : Option RetryConfig)
    (timeoutMs : Option Nat) (u : υ) :
    executeWithRetry C (some request) retry timeoutMs u =
      attempts C (some (timed timeoutMs request)) (attemptsOf retry) (retry.map (·.backoffMs))
        (attemptsOf retry) 1 u := by
  cases timeoutMs with
  | none => rfl
  | some t => rfl

/-- Without a request or an attempt nothing is sent. -/
theorem executeWithRetry_unsent (C : Client υ) {request : Option OutRequest}
    {retry : Option RetryConfig} (timeoutMs : Option Nat) (u : υ)
    (h : request = none ∨ attemptsOf retry = 0) :
    (executeWithRetry C request retry timeoutMs u).upstream = u := by
  rw [executeWithRetry]
  change (attempts C _ (attemptsOf retry) _ (attemptsOf retry) 1 u).upstream = u
  rcases h with rfl | h
  · cases attemptsOf retry with
    | zero => rfl
    | succ n => rfl
  · rw [h]
    rfl

/-- The last attempt's answer is the result, and the sends up to it are the events. -/
theorem executeWithRetry_last (C : Client υ) (request : OutRequest) {retry : Option RetryConfig}
    (timeoutMs : Option Nat) (u : υ) (hpos : 1 ≤ attemptsOf retry) :
    (executeWithRetry C (some request) retry timeoutMs u).result = verdict (attemptsOf retry)
        (outcome C (timed timeoutMs request) u
          (lastAttempt (outcome C (timed timeoutMs request) u) (attemptsOf retry))) ∧
      (executeWithRetry C (some request) retry timeoutMs u).events =
        timeline (timed timeoutMs request) (retry.map (·.backoffMs)) 1
          (lastAttempt (outcome C (timed timeoutMs request) u) (attemptsOf retry)) := by
  rw [executeWithRetry_eq]
  obtain ⟨left, hleft⟩ := Nat.exists_eq_add_of_le' hpos
  rw [hleft]
  exact attempts_spec C (timed timeoutMs request) (retry.map (·.backoffMs)) left 1 u
    (Nat.add_comm 1 left)

/-- **The retry loop.**  Without an attempt nothing is sent.  Otherwise the attempts up to the
last are made, each with the route's timeout and with the growing pauses between them, and the
last one's answer is returned: a server error only if no attempt was left. -/
theorem executeWithRetry_spec (C : Client υ) (request : OutRequest) (retry : Option RetryConfig)
    (timeoutMs : Option Nat) (u : υ) :
    (attemptsOf retry = 0 → executeWithRetry C (some request) retry timeoutMs u =
      ⟨.error .upstreamUnavailable, u, []⟩) ∧
    (1 ≤ attemptsOf retry → ∃ k, k = lastAttempt (outcome C (timed timeoutMs request) u)
        (attemptsOf retry) ∧
      (executeWithRetry C (some request) retry timeoutMs u).events =
        (List.range' 1 (k - 1)).flatMap (fun i => .send (timed timeoutMs request) ::
          (retry.map fun r => Event.sleep (r.backoffMs * i)).toList) ++
        [.send (timed timeoutMs request)] ∧
      (∀ resp, outcome C (timed timeoutMs request) u k = .ok resp →
        (executeWithRetry C (some request) retry timeoutMs u).result = .ok resp ∧
        (resp.status.isServerError → k = attemptsOf retry)) ∧
      (∀ e, outcome C (timed timeoutMs request) u k = .error e →
        (executeWithRetry C (some request) retry timeoutMs u).result = .error (.proxy
          ("Request failed after ".toList ++ Text.ofNat (attemptsOf retry) ++
            " attempts: ".toList ++ e.text))) ∧
      (executeWithRetry C (some request) retry timeoutMs u).result ≠
        .error .upstreamUnavailable) := by
  refine ⟨fun hzero => by rw [executeWithRetry_eq, hzero]; rfl, fun hpos => ⟨_, rfl, ?_⟩⟩
  obtain ⟨hresult, hevents⟩ := executeWithRetry_last C request timeoutMs u hpos
  rw [hresult, hevents]
  refine ⟨?_, fun resp hresp => ?_, fun e he => ?_, ?_⟩
  · cases retry with
    | none => rfl
    | some r => rfl
  · refine ⟨congrArg (verdict (attemptsOf retry)) hresp, fun herror => ?_⟩
    refine (lastAttempt_settles (outcome C (timed timeoutMs request) u)
      (attemptsOf retry)).resolve_right ?_
    rw [hresp]
    simp [settles, herror]
  · exact congrArg (verdict (attemptsOf retry)) he
  · exact verdict_ne_unavailable _ _

end MiniGateway.ProxyClient
