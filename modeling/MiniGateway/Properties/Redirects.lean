import MiniGateway.Properties.Forwarding
import MiniGateway.Properties.Retrying

/-!
# Properties — Redirects

Where a forwarded request ends up.  Neither constructor of the proxy's client sets a redirect
policy, so the client follows redirects by itself, for up to ten hops.  A client with the same
connections that follows none is the one to compare it with: the two run in step until the
first redirect (`attempts_in_step`).
-/

namespace MiniGateway.ProxyClient

open Http Url

variable {υ : Type}

/-! ### The client -/

/-- What a client stands on: one request and its answer, over a connection to the authority of the
request's URL; which `Location` values it can read, what they mean at a URL, and what the next
request is but for its URL; and the error of a chain that is too long. -/
structure Connections (υ : Type) where
  isUrl : Text → Bool
  exchange : υ → OutRequest → Except SendError UpstreamResponse × υ
  isLocation : HeaderValue → Bool
  join : Text → HeaderValue → Text
  rewrite : OutRequest → UpstreamResponse → OutRequest
  tooMany : OutRequest → SendError

/-- A request that went over a connection, and its answer; `hop` redirects were followed to get
there. -/
structure Exchange where
  hop : Nat
  request : OutRequest
  answer : Except SendError UpstreamResponse

namespace Connections

def location : HeaderName := ⟨"location", by decide⟩

/-- The `Location` to follow, if the answer is a redirect. -/
def redirect (N : Connections υ) (resp : UpstreamResponse) : Option HeaderValue :=
  if resp.status.code ∈ [301, 302, 303, 307, 308] then
    (resp.headers.get location).filter N.isLocation
  else none

/-- The request after an answer that is a redirect. -/
def next (N : Connections υ) (request : OutRequest) :
    Except SendError UpstreamResponse → Option OutRequest
  | .ok resp => (N.redirect resp).map fun target =>
      { N.rewrite request resp with url := N.join request.url target }
  | .error _ => none

/-- One exchange, with its entry in the log. -/
def logged (N : Connections υ) (hop : Nat) (request : OutRequest) (st : υ × List Exchange) :
    Except SendError UpstreamResponse × (υ × List Exchange) :=
  let sent := N.exchange st.1 request
  (sent.1, sent.2, st.2 ++ [⟨hop, request, sent.1⟩])

/-- The request, and those it is redirected to: `left` redirects may still be followed. -/
def follow (N : Connections υ) : Nat → Nat → OutRequest → υ × List Exchange →
    Except SendError UpstreamResponse × (υ × List Exchange)
  | 0, hop, request, st =>
      let sent := N.logged hop request st
      match N.next request sent.1 with
      | none => sent
      | some _ => (.error (N.tooMany request), sent.2)
  | left + 1, hop, request, st =>
      let sent := N.logged hop request st
      match N.next request sent.1 with
      | none => sent
      | some request' => follow N left (hop + 1) request' sent.2

/-- The client the builder makes without a policy: it follows up to ten redirects. -/
def following (N : Connections υ) : Client (υ × List Exchange) where
  isUrl := N.isUrl
  send st request := N.follow 10 0 request st

/-- A client that follows none. -/
def direct (N : Connections υ) : Client υ where
  isUrl := N.isUrl
  send := N.exchange

/-- Every exchange stays in the log, and the first one of a request is in it. -/
theorem follow_log (N : Connections υ) {x : Exchange} (left : Nat) :
    ∀ (hop : Nat) (request : OutRequest) (st : υ × List Exchange),
    x ∈ (N.logged hop request st).2.2 → x ∈ (N.follow left hop request st).2.2 := by
  induction left with
  | zero =>
      intro hop request st hx
      simp only [follow]
      split
      · exact hx
      · exact hx
  | succ left ih =>
      intro hop request st hx
      simp only [follow]
      split
      · exact hx
      · exact ih _ _ _ (List.mem_append_left _ hx)

/-- An answer the client returns is no redirect. -/
theorem follow_ok (N : Connections υ) {resp : UpstreamResponse} (left : Nat) :
    ∀ (hop : Nat) (request : OutRequest) (st : υ × List Exchange),
    (N.follow left hop request st).1 = .ok resp → N.redirect resp = none := by
  have hstop : ∀ {hop : Nat} {request : OutRequest} {st : υ × List Exchange},
      N.next request (N.logged hop request st).1 = none →
      (N.logged hop request st).1 = .ok resp → N.redirect resp = none := by
    intro hop request st hnext h
    rw [h] at hnext
    exact Option.map_eq_none_iff.mp hnext
  induction left with
  | zero =>
      intro hop request st h
      simp only [follow] at h
      split at h
      · rename_i hnext
        exact hstop hnext h
      · cases h
  | succ left ih =>
      intro hop request st h
      simp only [follow] at h
      split at h
      · rename_i hnext
        exact hstop hnext h
      · exact ih _ _ _ h

/-- **Without a redirect the client makes one exchange.** -/
theorem follow_direct (N : Connections υ) {left hop : Nat} {request : OutRequest}
    {st : υ × List Exchange}
    (h : ∀ resp, (N.exchange st.1 request).1 = .ok resp → N.redirect resp = none) :
    N.follow left hop request st = N.logged hop request st := by
  have hnext : N.next request (N.logged hop request st).1 = none := by
    cases hsend : (N.exchange st.1 request).1 with
    | error e => simp only [logged, hsend, next]
    | ok resp => simp only [logged, hsend, next, h resp hsend, Option.map_none]
  cases left with
  | zero => simp only [follow, hnext]
  | succ left => simp only [follow, hnext]

/-- A server error is no redirect. -/
theorem redirect_of_serverError (N : Connections υ) {resp : UpstreamResponse}
    (h : resp.status.isServerError = true) : N.redirect resp = none := by
  refine if_neg fun hmem => ?_
  simp only [StatusCode.isServerError, Bool.and_eq_true, decide_eq_true_eq] at h
  simp only [List.mem_cons, List.not_mem_nil, or_false] at hmem
  omega

/-- A redirect has a status of the 300s. -/
theorem code_of_redirect {N : Connections υ} {resp : UpstreamResponse}
    (h : N.redirect resp ≠ none) : 300 ≤ resp.status.code ∧ resp.status.code < 400 := by
  by_contra hcode
  refine h (if_neg fun hmem => hcode ?_)
  simp only [List.mem_cons, List.not_mem_nil, or_false] at hmem
  omega

/-! ### In step -/

section InStep

variable (N : Connections υ) (out : OutRequest) {n : Nat} (backoff : Option Nat)

/-- An answer that does not settle the request is no redirect. -/
theorem send_unsettled {u : υ} (log : List Exchange)
    (h : ¬ settles (N.direct.send u out).1) :
    N.following.send (u, log) out = N.logged 0 out (u, log) := by
  refine N.follow_direct fun resp hresp => N.redirect_of_serverError ?_
  rw [show N.direct.send u out = N.exchange u out from rfl, hresp] at h
  simpa [settles] using h

/-- Two runs, from `log` on, return the same, and each exchange since is one of the request itself;
an answer other than a server error is the one returned. -/
structure InStep (log : List Exchange) (run : Sent (υ × List Exchange) UpstreamResponse)
    (plain : Sent υ UpstreamResponse) : Prop where
  result : run.result = plain.result
  exchanges : ∀ x ∈ run.upstream.2, x ∈ log ∨ x.request = out ∧
    ∀ resp, x.answer = .ok resp → resp.status.isServerError = false → plain.result = .ok resp

/-- **Without a redirect the two clients run in step.** -/
theorem attempts_in_step (left : Nat) : ∀ (a : Nat) (u : υ), a + left = n → ∀ log : List Exchange,
    (∀ resp, (attempts N.direct (some out) n backoff (left + 1) a u).result = .ok resp →
      N.redirect resp = none) →
    InStep out log (attempts N.following (some out) n backoff (left + 1) a (u, log))
      (attempts N.direct (some out) n backoff (left + 1) a u) := by
  refine attempts_induction N.direct out backoff (P := fun left a u plain =>
    ∀ log : List Exchange, (∀ resp, plain.result = .ok resp → N.redirect resp = none) →
      InStep out log (attempts N.following (some out) n backoff (left + 1) a (u, log)) plain)
    ?_ ?_ left
  · intro left a u hn hlast log hplain
    have hsend : N.following.send (u, log) out = N.logged 0 out (u, log) :=
      N.follow_direct fun resp hresp => hplain resp (congrArg (verdict n) hresp)
    rw [attempts_stop N.following out backoff hn (by rw [hsend]; exact hlast), hsend]
    refine ⟨rfl, fun x hx => ?_⟩
    rcases List.mem_append.mp hx with hx | hx
    · exact Or.inl hx
    · cases List.mem_singleton.mp hx
      exact Or.inr ⟨rfl, fun resp hresp _ => congrArg (verdict n) hresp⟩
  · intro left a u plain hn hs ih log hplain
    have hsend := N.send_unsettled out log hs
    rw [attempts_again N.following out backoff hn (by rw [hsend]; exact hs), hsend]
    obtain ⟨hresult, hexchanges⟩ := ih (log ++ [⟨0, out, (N.direct.send u out).1⟩]) hplain
    refine ⟨hresult, fun x hx => ?_⟩
    rcases hexchanges x hx with hx | hx
    · rcases List.mem_append.mp hx with hx | hx
      · exact Or.inl hx
      · -- the failed attempt before the rest
        cases List.mem_singleton.mp hx
        refine Or.inr ⟨rfl, fun resp hresp hok => absurd ?_ hs⟩
        rw [show (N.direct.send u out).1 = .ok resp from hresp]
        simp [settles, hok]
    · exact Or.inr hx

/-- **What the client without redirects returns, the upstream has answered to the other too.** -/
theorem attempts_logged {resp : UpstreamResponse} (left : Nat) : ∀ (a : Nat) (u : υ),
    a + left = n → ∀ log : List Exchange,
    (attempts N.direct (some out) n backoff (left + 1) a u).result = .ok resp →
      (⟨0, out, .ok resp⟩ : Exchange) ∈
        (attempts N.following (some out) n backoff (left + 1) a (u, log)).upstream.2 := by
  have hkeep : ∀ (x : Exchange) (st : υ × List Exchange), x ∈ st.2 →
      x ∈ (N.following.send st out).2.2 :=
    fun x st hx => N.follow_log 10 0 out st (List.mem_append_left _ hx)
  refine attempts_induction N.direct out backoff (P := fun left a u plain =>
    ∀ log : List Exchange, plain.result = .ok resp → (⟨0, out, .ok resp⟩ : Exchange) ∈
      (attempts N.following (some out) n backoff (left + 1) a (u, log)).upstream.2) ?_ ?_ left
  · intro left a u hn _ log h
    refine attempts_keeps N.following out backoff (hkeep _) left a (u, log) hn ?_
    refine N.follow_log 10 0 out (u, log) (List.mem_append_right _ (List.mem_singleton.mpr ?_))
    rw [show (N.exchange u out).1 = .ok resp from ok_of_verdict h]
  · intro left a u plain hn hs ih log h
    have hsend := N.send_unsettled out log hs
    rw [attempts_again N.following out backoff hn (by rw [hsend]; exact hs), hsend]
    exact ih _ h

/-- The same of `execute_with_retry`. -/
theorem executeWithRetry_in_step {retry : Option RetryConfig} (hpos : 1 ≤ attemptsOf retry)
    (timeoutMs : Option Nat) (u : υ)
    (h : ∀ resp, (executeWithRetry N.direct (some out) retry timeoutMs u).result = .ok resp →
      N.redirect resp = none) :
    InStep (timed timeoutMs out) []
      (executeWithRetry N.following (some out) retry timeoutMs (u, []))
      (executeWithRetry N.direct (some out) retry timeoutMs u) := by
  obtain ⟨left, hleft⟩ := Nat.exists_eq_add_of_le' hpos
  rw [executeWithRetry_eq, executeWithRetry_eq, hleft]
  simp only [executeWithRetry_eq, hleft] at h
  exact N.attempts_in_step _ _ left 1 u (Nat.add_comm 1 left) [] h

theorem executeWithRetry_logged {retry : Option RetryConfig} (hpos : 1 ≤ attemptsOf retry)
    (timeoutMs : Option Nat) (u : υ) {resp : UpstreamResponse}
    (h : (executeWithRetry N.direct (some out) retry timeoutMs u).result = .ok resp) :
    (⟨0, timed timeoutMs out, .ok resp⟩ : Exchange) ∈
      (executeWithRetry N.following (some out) retry timeoutMs (u, [])).upstream.2 := by
  obtain ⟨left, hleft⟩ := Nat.exists_eq_add_of_le' hpos
  rw [executeWithRetry_eq, hleft] at h ⊢
  exact N.attempts_logged _ _ left 1 u (Nat.add_comm 1 left) [] h

/-- What `execute_with_retry` returns is no redirect. -/
theorem executeWithRetry_no_redirect {retry : Option RetryConfig} (hpos : 1 ≤ attemptsOf retry)
    (timeoutMs : Option Nat) {st : υ × List Exchange} {resp : UpstreamResponse}
    (h : (executeWithRetry N.following (some out) retry timeoutMs st).result = .ok resp) :
    N.redirect resp = none := by
  obtain ⟨left, hleft⟩ := Nat.exists_eq_add_of_le' hpos
  rw [executeWithRetry_eq, hleft] at h
  obtain ⟨st', hst'⟩ := attempts_ok_answer _ _ _ left 1 st (Nat.add_comm 1 left) h
  exact N.follow_ok 10 0 _ st' hst'

end InStep

end Connections

/-! ### `proxy` -/

/-- Every connection goes to the authority of the target, and an answer of the 300s to the request
itself is handed on. -/
structure PassesRedirects (route : RouteMatch) (req : Request)
    (sent : Sent (υ × List Exchange) Response) : Prop where
  confined : ∀ x ∈ sent.upstream.2,
    authorityOf x.request.url = authorityOf (targetUrl route req.uri)
  passed : ∀ x ∈ sent.upstream.2, x.hop = 0 → ∀ resp, x.answer = .ok resp →
    300 ≤ resp.status.code ∧ resp.status.code < 400 →
      ∃ bytes r, resp.body = .ok bytes ∧ response resp bytes = .ok r ∧ sent.result = .ok r

/-- What the upstream answers to the last attempt, if no redirect is followed: no redirect, and
nothing of the 300s whose body cannot be read. -/
def Unredirected (N : Connections υ) (route : RouteMatch) (req : Request) (u : υ) : Prop :=
  ∀ body out resp, req.body = .ok body →
    outRequest N.direct route req req.method body = some out → 1 ≤ attemptsOf route.retry →
    outcome N.direct (timed route.timeoutMs out) u (lastAttempt
      (outcome N.direct (timed route.timeoutMs out) u) (attemptsOf route.retry)) = .ok resp →
    N.redirect resp = none ∧
      (300 ≤ resp.status.code ∧ resp.status.code < 400 → ∃ bytes, resp.body = .ok bytes)

/-- What is handed on of a response keeps its redirect. -/
theorem Connections.redirect_of_response (N : Connections υ) {resp resp' : UpstreamResponse}
    {bytes bytes' : Bytes} {r : Response} (h : response resp bytes = .ok r)
    (h' : response resp' bytes' = .ok r) : N.redirect resp = N.redirect resp' := by
  rw [response_eq] at h h'
  have hlocation : ∀ m : HeaderMap, (⟨m.entries.filter fun e => !dropped e.1⟩ : HeaderMap).get
      Connections.location = m.get Connections.location := by
    intro m
    rw [HeaderMap.get, m.getAll_filter fun n => !dropped n]
    rfl
  cases h
  injection h' with h'
  injection h' with hstatus hheaders
  rw [Connections.redirect, Connections.redirect, ← hlocation, ← hlocation resp'.headers, hheaders,
    hstatus]

/-- Where nothing is sent there is nothing to pass. -/
theorem PassesRedirects.of_empty {route : RouteMatch} {req : Request}
    {sent : Sent (υ × List Exchange) Response} (h : sent.upstream.2 = []) :
    PassesRedirects route req sent := by
  refine ⟨fun x hx => ?_, fun x hx => ?_⟩
  · rw [h] at hx
    cases hx
  · rw [h] at hx
    cases hx

section Sent

variable {N : Connections υ} {req : Request} {route : RouteMatch} {metrics : RequestMetrics}
  {body : Bytes} {out : OutRequest} {u : υ}

/-- The client without redirects returns its last answer. -/
theorem direct_last (hpos : 1 ≤ attemptsOf route.retry) {resp : UpstreamResponse} :
    outcome N.direct (timed route.timeoutMs out) u (lastAttempt
        (outcome N.direct (timed route.timeoutMs out) u) (attemptsOf route.retry)) = .ok resp ↔
      (executeWithRetry N.direct (some out) route.retry route.timeoutMs u).result = .ok resp := by
  rw [(executeWithRetry_last N.direct out route.timeoutMs u hpos).1]
  exact ⟨fun h => congrArg (verdict _) h, ok_of_verdict⟩

/-- Redirects that are passed through were not followed. -/
theorem unredirected_of_passes (hbody : req.body = .ok body)
    (hout : outRequest N.following route req req.method body = some out)
    (hpos : 1 ≤ attemptsOf route.retry)
    (h : PassesRedirects route req
      ((⟨N.following⟩ : ProxyClient _).proxy req route metrics (u, [])).1)
    {resp : UpstreamResponse}
    (hlast : (executeWithRetry N.direct (some out) route.retry route.timeoutMs u).result =
      .ok resp) :
    N.redirect resp = none ∧
      (300 ≤ resp.status.code ∧ resp.status.code < 400 → ∃ bytes, resp.body = .ok bytes) := by
  have hlogged := N.executeWithRetry_logged out hpos route.timeoutMs u hlast
  obtain ⟨-, hspec⟩ := proxy_spec (⟨N.following⟩ : ProxyClient _) route metrics (u, []) hbody
  have hupstream := proxy_upstream (⟨N.following⟩ : ProxyClient _) route metrics (u, []) hbody
  simp only [hout] at hspec hupstream
  rw [← hupstream] at hlogged
  -- the answer is in the log, so it has to be the one that is handed on
  have hpassed := h.passed _ hlogged rfl resp rfl
  refine ⟨?_, fun hcode => ?_⟩
  · by_contra hredirect
    obtain ⟨bytes, r, -, hr, hresult⟩ := hpassed (Connections.code_of_redirect hredirect)
    obtain ⟨resp', bytes', hresp', -, hr'⟩ := hspec r hresult
    rw [N.redirect_of_response hr hr'] at hredirect
    exact hredirect (N.executeWithRetry_no_redirect out hpos route.timeoutMs hresp')
  · obtain ⟨bytes, -, hbytes, -⟩ := hpassed hcode
    exact ⟨bytes, hbytes⟩

/-- Without a redirect the answer is handed on. -/
theorem passes_of_unredirected (hbody : req.body = .ok body)
    (hout : outRequest N.following route req req.method body = some out)
    (hpos : 1 ≤ attemptsOf route.retry)
    (h : ∀ resp, (executeWithRetry N.direct (some out) route.retry route.timeoutMs u).result =
      .ok resp → N.redirect resp = none ∧
        (300 ≤ resp.status.code ∧ resp.status.code < 400 → ∃ bytes, resp.body = .ok bytes)) :
    PassesRedirects route req
      ((⟨N.following⟩ : ProxyClient _).proxy req route metrics (u, [])).1 := by
  obtain ⟨hresult, hexchanges⟩ := N.executeWithRetry_in_step out hpos route.timeoutMs u
    fun resp hresp => (h resp hresp).1
  have hupstream := proxy_upstream (⟨N.following⟩ : ProxyClient _) route metrics (u, []) hbody
  simp only [hout] at hupstream
  rw [← hupstream] at hexchanges
  refine ⟨fun x hx => ?_, fun x hx _ resp hresp hcode => ?_⟩
  · obtain ⟨hrequest, -⟩ := (hexchanges x hx).resolve_left List.not_mem_nil
    rw [hrequest, timed_url, outRequest_url hout]
  · obtain ⟨-, hreturned⟩ := (hexchanges x hx).resolve_left List.not_mem_nil
    have hok : resp.status.isServerError = false := by
      rw [StatusCode.isServerError, decide_eq_false (by omega), Bool.false_and]
    have hdirect := hreturned resp hresp hok
    obtain ⟨bytes, hbytes⟩ := (h resp hdirect).2 hcode
    refine ⟨bytes, _, hbytes, response_eq resp bytes, ?_⟩
    refine proxy_answered _ route metrics (u, []) hbody ?_ hbytes
    rw [hout]
    exact hresult.trans hdirect

end Sent

/-- **Redirects are passed through exactly if the client follows none**, whatever pool it was built
with; and a client built without a policy follows every one it is answered with. -/
theorem redirects_passed_iff (N : Connections υ) (maxIdle idleTimeoutSecs : Nat) (req : Request)
    (route : RouteMatch) (metrics : RequestMetrics) (u : υ) :
    PassesRedirects route req ((withPool (fun _ _ => N.following) maxIdle idleTimeoutSecs).proxy
      req route metrics (u, [])).1 ↔ Unredirected N route req u := by
  cases hbody : req.body with
  | error e =>
      refine iff_of_true (.of_empty ?_) fun body out resp h => ?_
      · rw [proxy_of_error _ route metrics _ hbody]
      · rw [hbody] at h
        cases h
  | ok body =>
      refine ⟨fun h body' out resp hbody' hout hpos hlast => ?_, fun h => ?_⟩
      · exact unredirected_of_passes hbody' hout hpos h ((direct_last hpos).mp hlast)
      · by_cases hsent : outRequest N.direct route req req.method body = none ∨
            attemptsOf route.retry = 0
        · refine .of_empty ?_
          rw [proxy_upstream _ route metrics _ hbody]
          exact congrArg Prod.snd (executeWithRetry_unsent N.following _ (u, []) hsent)
        · rw [not_or, ← ne_eq, Option.ne_none_iff_exists'] at hsent
          obtain ⟨⟨out, hout⟩, hpos⟩ := hsent
          have hpos : 1 ≤ attemptsOf route.retry := Nat.one_le_iff_ne_zero.mpr hpos
          exact passes_of_unredirected hbody hout hpos fun resp hresp =>
            h body out resp hbody hout hpos ((direct_last hpos).mpr hresp)

def found : StatusCode := ⟨302, by decide⟩
def elsewhere : HeaderValue := ⟨Text.utf8 "http://evil.com/", by decide⟩

/-- An upstream that sends every client elsewhere, where there is an answer. -/
def leaving : Connections Unit where
  isUrl url := url.startsWith "http://"
  exchange u request :=
    if authorityOf request.url = "evil.com".toList then (.ok ⟨.ok, .empty, .ok []⟩, u)
    else (.ok ⟨found, ⟨[(Connections.location, elsewhere)]⟩, .ok []⟩, u)
  isLocation _ := true
  join _ target := target.toStr.getD []
  rewrite request _ := request
  tooMany _ := ⟨.other, "error following redirect"⟩

/-- The gateway goes there, and hands on what it finds. -/
theorem redirect_followed :
    ((new fun _ _ => leaving.following).proxy (Router.plainGet "/api/echo") Gateway.apiMatch
        ⟨[], [], []⟩ ((), [])).1.upstream.2.map (fun x => authorityOf x.request.url) =
          ["localhost:3000".toList, "evil.com".toList] ∧
      ((new fun _ _ => leaving.following).proxy (Router.plainGet "/api/echo") Gateway.apiMatch
        ⟨[], [], []⟩ ((), [])).1.result = .ok ⟨.ok, .empty, []⟩ ∧
      ¬ PassesRedirects Gateway.apiMatch (Router.plainGet "/api/echo")
        ((new fun _ _ => leaving.following).proxy (Router.plainGet "/api/echo") Gateway.apiMatch
          ⟨[], [], []⟩ ((), [])).1 := by
  refine ⟨by decide, rfl, fun h => ?_⟩
  have hthere := h.confined ⟨1, ⟨.get, "http://evil.com/", .empty, [], none⟩,
    .ok ⟨.ok, .empty, .ok []⟩⟩ (List.mem_cons_of_mem _ List.mem_cons_self)
  exact absurd hthere (by decide)

end MiniGateway.ProxyClient
