import MiniGateway.Properties.Interleaving

/-!
# Properties — Access log

The lines `handle_request` logs on completed requests, in every interleaving.  There is a line for
what was sent upstream and answered, with the status of the answer, and none for what was answered
in front of the proxy (`accessLog_interleaved`).
-/

namespace MiniGateway

open Http RateLimit Tasks

/-- The line on a completed request, field by field. -/
theorem LogLine.completed_eq (requestId method uri : Text) (status : StatusCode) :
    LogLine.completed requestId method uri status =
      { level := if 400 ≤ status.code ∧ status.code < 600 then .warn else .info
        requestId := requestId
        method := method
        uri := uri
        status := some status.code
        message := if 400 ≤ status.code ∧ status.code < 600 then
          "Request completed with error status" else "Request completed" } := by
  by_cases hfailed : 400 ≤ status.code ∧ status.code < 600
  · simp only [LogLine.completed, if_pos hfailed]
  · simp only [LogLine.completed, if_neg hfailed]

namespace Gateway

variable {ρ lim κ υ δ : Type} {L : Libraries ρ lim κ υ δ} {g : Gateway ρ lim κ υ δ}

/-- The event is an answer in front of the proxy: a hit in the cache, or a refusal. -/
def Settles : Event → Prop
  | .tick _ admitted => admitted = false
  | .lookup _ hit => hit = true
  | .send _ => False
  | .sleep _ => False

/-- The event is a send. -/
def Sends : Event → Prop
  | .send _ => True
  | _ => False

/-- The line on a request, answered so. -/
def lineOn (h : Handling) (r : Response) : LogLine where
  level := if 400 ≤ r.status.code ∧ r.status.code < 600 then .warn else .info
  requestId := h.requestId
  method := h.request.method.text
  uri := h.request.uri.path
  status := some r.status.code
  message := if 400 ≤ r.status.code ∧ r.status.code < 600 then
    "Request completed with error status" else "Request completed"

/-- What is counted and logged under the request is its method and path. -/
def MetricsOf (h : Handling) (metrics : RequestMetrics) : Prop :=
  metrics.method = h.request.method.text ∧ metrics.path = h.request.uri.path

/-- The request of a stage, as far as it matters for the log. -/
def SameTarget (h : Handling) (req : Request) : Prop :=
  req.method = h.request.method ∧ req.uri = h.request.uri

/-- **The invariant of a request**: before it is answered nothing is logged, and a send comes after
everything that could answer it in front of the proxy. -/
def Logged (h : Handling) : Prop :=
  match h.stage with
  | .matching req => h.logs = [] ∧ SameTarget h req ∧ h.events = []
  | .checking _ req => h.logs = [] ∧ SameTarget h req ∧ h.events = []
  | .limiting _ metrics _ => h.logs = [] ∧ MetricsOf h metrics ∧ h.events = []
  | .lookingUp _ metrics _ => h.logs = [] ∧ MetricsOf h metrics ∧
      ∀ e ∈ h.events, ¬ Settles e ∧ ¬ Sends e
  | .sending s => h.logs = [] ∧ MetricsOf h s.metrics ∧ ∀ e ∈ h.events, ¬ Settles e
  | .answered (.ok r) => (h.logs = [] ∧ ∀ e ∈ h.events, ¬ Sends e) ∨
      h.logs = [lineOn h r] ∧ ∀ e ∈ h.events, ¬ Settles e
  | .answered (.error _) => h.logs = []

/-- The request after a step. -/
def stepped (h : Handling) (p : Progress lim κ υ δ) : Handling :=
  { h with steps := h.steps + 1, events := h.events ++ p.events, logs := h.logs ++ p.logs,
           stage := p.stage }

/-- The end of `handle_request` logs its line. -/
theorem complete_logged {h : Handling} {metrics : RequestMetrics} (hlogs : h.logs = [])
    (hmetrics : MetricsOf h metrics) (hquiet : ∀ e ∈ h.events, ¬ Settles e)
    (w : World lim κ υ δ) {events : List Event} (hevents : ∀ e ∈ events, ¬ Settles e)
    (reply : Except Panic Response) :
    Logged (stepped h (complete h.requestId metrics w events reply)) := by
  cases reply with
  | error e => simp only [Logged, stepped, complete, hlogs, List.append_nil]
  | ok r =>
      refine Or.inr ⟨?_, fun e he => ?_⟩
      · simp only [stepped, complete, hlogs, List.nil_append, hmetrics.1, hmetrics.2,
          LogLine.completed_eq, lineOn]
      · exact (List.mem_append.mp he).elim (hquiet e) (hevents e)

theorem not_settles_pause (request : OutRequest) (backoff : Option Nat) (attempt : Nat) :
    ∀ e ∈ Event.send request :: ProxyClient.pause backoff attempt, ¬ Settles e := by
  cases backoff <;> simp [ProxyClient.pause, Settles]

/-- An answer in front of the proxy logs nothing. -/
theorem answered_logged {h : Handling} (hlogs : h.logs = []) (hno : ∀ e ∈ h.events, ¬ Sends e)
    (w : World lim κ υ δ) {events : List Event} (hevents : ∀ e ∈ events, ¬ Sends e)
    (reply : Except Panic Response) :
    Logged (stepped h (⟨.answered reply, w, events, []⟩ : Progress lim κ υ δ)) := by
  cases reply with
  | error e => simp only [Logged, stepped, hlogs, List.append_nil]
  | ok r =>
      refine Or.inl ⟨?_, fun e he => ?_⟩
      · simp only [stepped, hlogs, List.append_nil]
      · exact (List.mem_append.mp he).elim (hno e) (hevents e)

/-- A lookup that finds nothing settles nothing, nor does an attempt. -/
theorem Missed.quiet {w : World lim κ υ δ} {req : Request} {k : κ} {events : List Event}
    (h : Missed g w req k events) : ∀ e ∈ events, ¬ Settles e := by
  cases h <;> simp [Settles]

theorem Tried.quiet {w : World lim κ υ δ} {s : Sending} {u : υ} {events : List Event}
    (h : Tried g w s u events) : ∀ e ∈ events, ¬ Settles e := by
  cases h <;> simp [Settles]

/-- **A step logs a line only at the end of `handle_request`.** -/
theorem advance_logged {h : Handling} (hh : Logged h)
    (hopen : ∀ reply, h.stage ≠ .answered reply) (w : World lim κ υ δ) :
    Logged (stepped h (g.advance L h.requestId w h.stage)) := by
  have hnone : ∀ e ∈ ([] : List Event), ¬ Sends e := fun e he => by cases he
  have hstep := advance_advances (L := L) (g := g) h.requestId w h.stage
  generalize hstage : h.stage = stage at hstep
  generalize g.advance L h.requestId w stage = p at hstep
  simp only [Logged, hstage] at hh
  cases hstep with
  | unrouted =>
      obtain ⟨hlogs, -, hevents⟩ := hh
      exact answered_logged hlogs (by rw [hevents]; exact hnone) _ hnone _
  | matched =>
      obtain ⟨hlogs, htarget, hevents⟩ := hh
      simp only [Logged, stepped, hlogs, hevents, List.append_nil, true_and, and_true]
      exact htarget
  | preflight =>
      obtain ⟨hlogs, -, hevents⟩ := hh
      exact answered_logged hlogs (by rw [hevents]; exact hnone) _ hnone _
  | rejected =>
      obtain ⟨hlogs, -, hevents⟩ := hh
      exact answered_logged hlogs (by rw [hevents]; exact hnone) _ hnone _
  | authenticated =>
      obtain ⟨hlogs, htarget, hevents⟩ := hh
      simp only [Logged, stepped, hlogs, hevents, List.append_nil, true_and, and_true]
      exact ⟨congrArg Method.text htarget.1, congrArg Uri.path htarget.2⟩
  | unlimited =>
      obtain ⟨hlogs, hmetrics, hevents⟩ := hh
      simp only [Logged, stepped, hlogs, hevents, List.append_nil, true_and]
      exact ⟨hmetrics, fun e he => by cases he⟩
  | admitted =>
      obtain ⟨hlogs, hmetrics, hevents⟩ := hh
      simp only [Logged, stepped, hlogs, hevents, List.append_nil, true_and, List.nil_append]
      exact ⟨hmetrics, by simp [Settles, Sends]⟩
  | refused =>
      obtain ⟨hlogs, -, hevents⟩ := hh
      exact answered_logged hlogs (by rw [hevents]; exact hnone) _ (by simp [Sends]) _
  | hit =>
      obtain ⟨hlogs, -, hevents⟩ := hh
      exact answered_logged hlogs (fun e he => (hevents e he).2) _ (by simp [Sends]) _
  | unprepared hmissed =>
      obtain ⟨hlogs, hmetrics, hevents⟩ := hh
      exact complete_logged hlogs hmetrics (fun e he => (hevents e he).1) _ hmissed.quiet _
  | prepared hmissed =>
      obtain ⟨hlogs, hmetrics, hevents⟩ := hh
      refine ⟨by simp only [stepped, hlogs, List.append_nil], hmetrics, fun e he => ?_⟩
      exact (List.mem_append.mp he).elim (fun he => (hevents e he).1) (hmissed.quiet e)
  | again =>
      obtain ⟨hlogs, hmetrics, hquiet⟩ := hh
      refine ⟨by simp only [stepped, hlogs, List.append_nil], hmetrics, fun e he => ?_⟩
      exact (List.mem_append.mp he).elim (hquiet e) (not_settles_pause _ _ _ e)
  | concluded htried =>
      obtain ⟨hlogs, hmetrics, hquiet⟩ := hh
      exact complete_logged hlogs hmetrics hquiet _ htried.quiet _
  | answered => exact absurd hstage (hopen _)

/-- The same, of a connection. -/
def ConnLogged : Conn → Prop
  | .busy h => Logged h
  | .handshaking => True
  | .idle => True

theorem logged_keeps (tls : Bool) :
    Keeps (Server.system L g tls) (fun _ => True) fun _ => ConnLogged where
  moves {s c s' c'} _ hc hmove := by
    refine ⟨trivial, fun u hu => ?_, fun _ h => h⟩
    subst hu
    cases hmove with
    | secured => trivial
    | request req id =>
        exact ⟨rfl, ⟨stampRequestId_method g id req, stampRequestId_uri g id req⟩, rfl⟩
    | @advance h p hopen hp =>
        subst hp
        exact advance_logged hc hopen s.world
    | reply h => trivial
  starts _ hstart := by
    cases hstart
    refine ⟨trivial, ?_, fun _ h => h⟩
    cases tls <;> trivial
  changes _ _ := ⟨trivial, fun _ h => h⟩

/-- **The access log, in every interleaving.**  A request that is answered has at most one line:
with its own id, method and path and the status of the answer, a warning if that is an error.  It
has one if anything was sent for it, and none if it was answered out of the cache or refused by the
limiter. -/
theorem accessLog_interleaved {w : World lim κ υ δ} {tls : Bool}
    {pool : Pool (Server lim κ υ δ) Conn}
    (hr : Reachable (Server.system L g tls) (.init w) pool) {h : Handling}
    (hh : .busy h ∈ pool.tasks) {r : Response} (hanswer : h.stage = .answered (.ok r)) :
    h.logs.length ≤ 1 ∧
      (∀ line ∈ h.logs, line.requestId = h.requestId ∧ line.method = h.request.method.text ∧
        line.uri = h.request.uri.path ∧ line.status = some r.status.code ∧
        line.level = (if 400 ≤ r.status.code ∧ r.status.code < 600 then .warn else .info)) ∧
      ((∃ out, .send out ∈ h.events) → h.logs.length = 1) ∧
      ((∃ key, .lookup key true ∈ h.events) ∨ (∃ key, .tick key false ∈ h.events) →
        h.logs = []) := by
  have hlogged : Logged h := (Reachable.keeps (logged_keeps tls) trivial hr).2 _ hh
  rw [Logged, hanswer] at hlogged
  refine ⟨?_, fun line hline => ?_, ?_, ?_⟩
  · rcases hlogged with ⟨hlogs, -⟩ | ⟨hlogs, -⟩
    · rw [hlogs]
      exact Nat.zero_le 1
    · rw [hlogs]
      exact Nat.le_refl 1
  · rcases hlogged with ⟨hlogs, -⟩ | ⟨hlogs, -⟩
    · rw [hlogs] at hline
      cases hline
    · rw [hlogs] at hline
      cases List.mem_singleton.mp hline
      exact ⟨rfl, rfl, rfl, rfl, rfl⟩
  · rintro ⟨out, hout⟩
    rcases hlogged with ⟨-, hno⟩ | ⟨hlogs, -⟩
    · exact absurd trivial (hno _ hout)
    · rw [hlogs]
      rfl
  · rintro hsettled
    rcases hlogged with ⟨hlogs, -⟩ | ⟨-, hno⟩
    · exact hlogs
    · rcases hsettled with ⟨key, hkey⟩ | ⟨key, hkey⟩
      · exact absurd rfl (hno _ hkey)
      · exact absurd rfl (hno _ hkey)

/-- Of two requests that overlap, the one that is sent is logged, the one that is refused is not. -/
theorem accessLog_interleaved_overlapping : ∃ pool h₁ h₂ line,
    Reachable (Server.system sharedLibraries sharedGateway false) (.init (freshWorld 0)) pool ∧
      pool.tasks = [.busy h₂, .busy h₁] ∧ h₁.logs = [] ∧ h₂.logs = [line] ∧
      line.requestId = h₂.requestId ∧ line.method = "GET".toList ∧
      line.uri = "/api/users".toList ∧ line.status = some 200 ∧ line.level = .info := by
  obtain ⟨s, h₁, h₂, hr, hfirst, hsecond, -⟩ := shared_overlapping
  obtain ⟨r, hr₁⟩ : ∃ r, tooManyRequests = .ok r := ⟨_, rfl⟩
  obtain ⟨-, -, -, hnone⟩ := accessLog_interleaved hr (h := h₁) (by simp)
    (hfirst.stage.trans (congrArg _ hr₁))
  obtain ⟨-, hline, hone, -⟩ := accessLog_interleaved hr (h := h₂) (by simp) hsecond.stage
  obtain ⟨line, hlogs⟩ := List.length_eq_one_iff.mp (hone ⟨usersRequest, by simp [hsecond.events]⟩)
  obtain ⟨hid, hmethod, huri, hstatus, hlevel⟩ := hline line (by simp [hlogs])
  refine ⟨_, h₁, h₂, line, hr, rfl, hnone (Or.inr ⟨"global", by simp [hfirst.events]⟩), hlogs, hid,
    ?_, ?_, hstatus, hlevel⟩
  · rw [hmethod, hsecond.request]
    rfl
  · rw [huri, hsecond.request]
    rfl

end Gateway

end MiniGateway
