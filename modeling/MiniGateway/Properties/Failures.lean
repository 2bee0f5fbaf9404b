import MiniGateway.Properties.Answers
import MiniGateway.Properties.Exits
import MiniGateway.Properties.Retrying

/-!
# Properties — Failures

What a client hears of an upstream that could not be reached.  The loop turns every error of its
last attempt into one kind of error, whose status is 500; that the attempt timed out or could not
connect is only in the text.  So neither is ever reported as such (`failure_never_reported`).
-/

namespace MiniGateway

open Http

namespace ProxyClient

variable {υ : Type}

/-- The last attempt that is made for the request fails with `e`. -/
structure LastFails (p : ProxyClient υ) (req : Request) (route : RouteMatch) (u : υ)
    (e : SendError) : Prop where
  attempted : 1 ≤ attemptsOf route.retry
  fails : ∃ body out, req.body = .ok body ∧
    outRequest p.client route req req.method body = some out ∧
    outcome p.client (timed route.timeoutMs out) u
      (lastAttempt (outcome p.client (timed route.timeoutMs out) u) (attemptsOf route.retry)) =
        .error e

/-- **Every failed last attempt ends in the same error**, but for its text. -/
theorem LastFails.result {p : ProxyClient υ} {req : Request} {route : RouteMatch} {u : υ}
    {e : SendError} (h : LastFails p req route u e) (metrics : RequestMetrics) :
    ∃ text, (p.proxy req route metrics u).1.result = .error (.proxy text) := by
  obtain ⟨hpos, body, out, hbody, hout, hfails⟩ := h
  have hresult := (executeWithRetry_last p.client out route.timeoutMs u hpos).1
  rw [hfails, verdict] at hresult
  rw [proxy, Method.parse_text]
  simp only [hbody, hout, hresult]
  exact ⟨_, rfl⟩

end ProxyClient

namespace Gateway

variable {ρ lim κ υ δ : Type}

/-- A timeout is answered with 504, a connection that failed with 502, and no failure with 500. -/
structure ReportsFailure (kind : SendErrorKind) (reply : Except Panic Response) : Prop where
  timeout : kind = .timeout → ∃ r, reply = .ok r ∧ r.status.code = 504
  connect : kind = .connect → ∃ r, reply = .ok r ∧ r.status.code = 502
  other : ∃ r, reply = .ok r ∧ r.status.code ≠ 500

/-- **No failure of an upstream is reported as one.**  A request that gets to the proxy and whose
last attempt fails is answered with 500, whatever the failure. -/
theorem failure_never_reported (L : Libraries ρ lim κ υ δ) (g : Gateway ρ lim κ υ δ)
    (req : Request) (client : SocketAddr) (id : Text) (w : World lim κ υ δ) {lookedUp : Bool}
    {route : RouteMatch} {metrics : RequestMetrics} {req' : Request}
    (hexit : g.exit L req id w = .forwarded lookedUp route metrics req') {e : SendError}
    (hfails : g.proxyClient.LastFails req' route w.upstream e) :
    (∃ r, (g.handleRequest L req client id w).reply = .ok r ∧ r.status.code = 500) ∧
      ¬ ReportsFailure e.kind (g.handleRequest L req client id w).reply := by
  obtain ⟨text, hresult⟩ := hfails.result metrics
  obtain ⟨r, hr, hstatus⟩ := errorReply_status (.proxy text)
  have hreply : (g.handleRequest L req client id w).reply = .ok r := by
    rw [(handleRequest_exit L g req client id w).reply, hexit, Exit.reply, hresult]
    exact hr
  have hcode : r.status.code = 500 := congrArg StatusCode.code hstatus
  refine ⟨⟨r, hreply, hcode⟩, fun h => ?_⟩
  obtain ⟨r', hr', hne⟩ := h.other
  rw [hreply] at hr'
  cases hr'
  exact hne hcode

/-- An upstream that takes too long. -/
def slowClient : Client Unit where
  isUrl url := url.startsWith "http://"
  send u _ := (.error ⟨.timeout, "operation timed out"⟩, u)

/-- A gateway in front of it. -/
def slowGateway : Gateway Regex.Re (Text → Nat) (List (Text × CachedResponse)) Unit Unit :=
  { plainGateway apiRoutes none none none with proxyClient := ⟨slowClient⟩ }

/-- The request as it gets to the proxy. -/
def slowRequest : Request := slowGateway.stampRequestId "id" (Router.plainGet "/api/echo")

theorem slow_fails : slowGateway.proxyClient.LastFails slowRequest apiMatch (freshWorld 0).upstream
    ⟨.timeout, "operation timed out"⟩ :=
  ⟨by decide, [], _, rfl, rfl, rfl⟩

theorem slow_exit :
    slowGateway.exit tokenLibraries (Router.plainGet "/api/echo") "id" (freshWorld 0) =
      .forwarded false apiMatch ⟨"GET", "/api/echo", "api"⟩ slowRequest := rfl

/-- A timeout is answered with 500. -/
theorem timeout_reported_as_internal :
    ∃ r, (slowGateway.handleRequest tokenLibraries (Router.plainGet "/api/echo") peer "id"
      (freshWorld 0)).reply = .ok r ∧ r.status.code = 500 :=
  (failure_never_reported tokenLibraries slowGateway _ peer "id" _ slow_exit slow_fails).1

/-- It ought to be 504. -/
theorem timeout_unreported :
    slowGateway.exit tokenLibraries (Router.plainGet "/api/echo") "id" (freshWorld 0) =
        .forwarded false apiMatch ⟨"GET", "/api/echo", "api"⟩ slowRequest ∧
      slowGateway.proxyClient.LastFails slowRequest apiMatch (freshWorld 0).upstream
        ⟨.timeout, "operation timed out"⟩ ∧
      ¬ ReportsFailure .timeout (slowGateway.handleRequest tokenLibraries
        (Router.plainGet "/api/echo") peer "id" (freshWorld 0)).reply := by
  refine ⟨slow_exit, slow_fails, fun h => ?_⟩
  obtain ⟨r, hr, hstatus⟩ := h.timeout rfl
  have hcode : (slowGateway.handleRequest tokenLibraries (Router.plainGet "/api/echo") peer "id"
      (freshWorld 0)).reply.toOption.map (fun r => r.status.code) = some 500 := by decide
  rw [hr] at hcode
  simp [Except.toOption, hstatus] at hcode

end Gateway

end MiniGateway
