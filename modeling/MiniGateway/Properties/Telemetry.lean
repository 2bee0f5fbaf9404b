import MiniGateway.Properties.AccessLog
import MiniGateway.Properties.Server
import MiniGateway.Source.Services

/-!
# Properties — Telemetry

`LoggingService` around `MetricsService` around a service, with many calls at a time.

Under a legal header name the two are transparent: what they do is seen from inside as calls of the
wrapped service with the request ids, which give the same answers (`telemetry_transparent`); the log
has one line for each call that was answered, and the counters count the responses, where increments
add up (`metrics_complete`).  Under an illegal one `LoggingService` panics where `handle_request`
goes on without (`stamps_alike_iff`).
-/

namespace MiniGateway

open Http Tasks Gateway

variable {σ ε : Type}

/-! ### What calls write down -/

section Notes

variable {ι α : Type} {service : ι → AsyncService σ ε} (read : σ → List α)
  (notes : Call ι σ ε → List α)

theorem notes_balance (hpending : ∀ c, c.outcome = none → notes c = [])
    (hcall : ∀ i s req, read ((service i).call s req).2 = read s)
    (hawait : ∀ (c : Call ι σ ε) s, read (((service c.index).call c.called c.request).1 s).2 =
      read s ++
        notes { c with outcome := some (((service c.index).call c.called c.request).1 s).1 }) :
    Balances (AsyncService.system service) (fun _ => True) (fun _ _ => True)
      (fun s => (read s : Multiset α)) fun c => (notes c : Multiset α) where
  moves {s c s' c'} _ _ h := by
    cases h with
    | await h =>
        rw [hawait, hpending c h, Option.toList_some, weight_cons, weight_nil, add_zero,
          Multiset.coe_nil, add_zero, Multiset.coe_add]
    | dropped h =>
        rw [hpending c h, Multiset.coe_nil, Option.toList_none, weight_nil]
  starts {s s' c} _ h := by
    cases h with
    | call i req => rw [hcall, hpending ⟨i, req, s, none⟩ rfl, Multiset.coe_nil, add_zero]
  changes _ h := congrArg (fun s => (read s : Multiset α)) (Eq.symm h)

/-- **What calls write down when they are answered is there for each of them, once.** -/
theorem notes_perm (hpending : ∀ c, c.outcome = none → notes c = [])
    (hcall : ∀ i s req, read ((service i).call s req).2 = read s)
    (hawait : ∀ (c : Call ι σ ε) s, read (((service c.index).call c.called c.request).1 s).2 =
      read s ++
        notes { c with outcome := some (((service c.index).call c.called c.request).1 s).1 })
    {s : σ} {pool : Pool σ (Call ι σ ε)} (hr : Reachable (AsyncService.system service) s pool) :
    (read pool.shared).Perm (read s ++ pool.tasks.flatMap notes) := by
  have hsum := Reachable.balance .trivial (notes_balance read notes hpending hcall hawait) trivial
    hr
  rw [weight_coe, Multiset.coe_add] at hsum
  exact Multiset.coe_eq_coe.mp hsum

end Notes

/-! ### Request ids -/

/-- The text of a UUID: a legal header value. -/
def RequestId : Type := { id : Text // (HeaderValue.fromStr id).isSome = true }

def someId : RequestId := ⟨"67e55044-10b1-426f-9247-bb680e5fe0c8", by decide⟩
def otherId : RequestId := ⟨"b40e8c1a-3a2f-4a55-9d4e-0f1c2d3e4f50", by decide⟩

/-- The configured name, if there is one, is legal. -/
def LegalHeader (header : Option Text) : Prop :=
  ∀ name, header = some name → (HeaderName.parse name).isSome = true

/-- **A request with its id**: under the configured name there is the id and nothing else, and there
is no other difference. -/
structure CarriesId (header : Option Text) (id : Text) (req req' : Request) : Prop where
  method : req'.method = req.method
  uri : req'.uri = req.uri
  body : req'.body = req.body
  plain : header = none → req'.headers = req.headers
  own : ∀ name n, header = some name → HeaderName.parse name = some n →
    ∃ v, HeaderValue.fromStr id = some v ∧ req'.headers.getAll n = [v]
  others : ∀ n, header.bind HeaderName.parse ≠ some n →
    req'.headers.getAll n = req.headers.getAll n

namespace LoggingService

/-- The request with its id, if that can be. -/
def stamped (header : Option Text) (id : Text) (req : Request) : Request :=
  match header.bind HeaderName.parse, HeaderValue.fromStr id with
  | some name, some value => { req with headers := req.headers.insert name value }
  | _, _ => req

theorem stamp_legal {header : Option Text} (hlegal : LegalHeader header) (id : RequestId)
    (req : Request) : stamp header id.1 req = .ok (stamped header id.1 req) := by
  cases header with
  | none => rfl
  | some name =>
      obtain ⟨n, hn⟩ := Option.isSome_iff_exists.mp (hlegal name rfl)
      obtain ⟨v, hv⟩ := Option.isSome_iff_exists.mp id.2
      simp only [stamped, stamp, hn, hv, Option.bind_some]

theorem stamped_carriesId (header : Option Text) (id : RequestId) (req : Request) :
    CarriesId header id.1 req (stamped header id.1 req) := by
  obtain ⟨v, hv⟩ := Option.isSome_iff_exists.mp id.2
  simp only [stamped, hv]
  cases hn : header.bind HeaderName.parse with
  | none =>
      refine ⟨rfl, rfl, rfl, fun _ => rfl, fun name n hname hparse => ?_, fun _ _ => rfl⟩
      rw [hname, Option.bind_some, hparse] at hn
      cases hn
  | some n =>
      refine ⟨rfl, rfl, rfl, fun hnone => ?_, fun name n' hname hparse => ⟨v, hv, ?_⟩,
        fun n' hne => ?_⟩
      · rw [hnone] at hn
        cases hn
      · rw [hname, Option.bind_some, hparse] at hn
        cases hn
        rw [HeaderMap.getAll_insert, if_pos rfl]
      · rw [HeaderMap.getAll_insert, if_neg fun h => hne (hn.trans (congrArg some h))]

/-- Where the id can be stamped, the gateway stamps it too. -/
theorem stamped_gateway {ρ lim κ υ δ : Type} {g : Gateway ρ lim κ υ δ} {header : Option Text}
    (hheader : g.config.logging.requestIdHeader = header) (id : Text) (req : Request) :
    stamped header id req = g.stampRequestId id req := by
  rw [stampRequestId, hheader, stamped]
  cases header with
  | none => rfl
  | some name =>
      cases hn : HeaderName.parse name with
      | none => simp only [Option.bind_some, hn]
      | some n => cases HeaderValue.fromStr id <;> simp only [Option.bind_some, hn]

end LoggingService

/-! ### The two services -/

/-- `LoggingService` around `MetricsService` around a service. -/
def telemetry (inner : AsyncService σ ε) (routeId : Text) (header : Option Text) (id : RequestId) :
    AsyncService (List LogLine × List Sample × σ) ε :=
  (LoggingService.mk (MetricsService.mk inner routeId).service header).service id.1

/-- The lines a call leaves in the log. -/
def linesOf {σ : Type} (c : Call RequestId σ ε) : List LogLine :=
  match c.outcome with
  | some (.ok (.ok response)) =>
      [{ level := if 400 ≤ response.status.code ∧ response.status.code < 600 then .warn else .info
         requestId := c.index.1
         method := c.request.method.text
         uri := c.request.uri.toText
         status := some response.status.code
         message := if 400 ≤ response.status.code ∧ response.status.code < 600 then
           "Request completed with error status" else "Request completed" }]
  | some (.ok (.error _)) =>
      [{ level := .warn
         requestId := c.index.1
         method := c.request.method.text
         uri := c.request.uri.toText
         status := none
         message := "Request failed" }]
  | _ => []

/-- What is counted of a call. -/
def samplesOf {σ : Type} (routeId : Text) (c : Call RequestId σ ε) : List Sample :=
  match c.outcome with
  | some (.ok result) =>
      MetricsService.samples ⟨c.request.method.text, c.request.uri.path, routeId⟩ result
  | _ => []

section Telemetry

variable {inner : AsyncService σ ε} {routeId : Text} {header : Option Text}

/-- **What the two do with a call**: they call, and write down what comes of it. -/
theorem telemetry_call (inner : AsyncService σ ε) (routeId : Text) (hlegal : LegalHeader header)
    (id : RequestId) (st : List LogLine × List Sample × σ) (req : Request) :
    ((telemetry inner routeId header id).call st req).2 =
        (st.1, st.2.1, (inner.call st.2.2 (LoggingService.stamped header id.1 req)).2) ∧
      ∀ st' : List LogLine × List Sample × σ,
        ((telemetry inner routeId header id).call st req).1 st' =
          let answer := (inner.call st.2.2 (LoggingService.stamped header id.1 req)).1 st'.2.2
          let c : Call RequestId Unit ε := ⟨id, req, (), some answer.1⟩
          (answer.1, st'.1 ++ linesOf c, st'.2.1 ++ samplesOf routeId c, answer.2) := by
  have hcarries := LoggingService.stamped_carriesId header id req
  simp only [telemetry, LoggingService.service, LoggingService.call, MetricsService.service,
    MetricsService.call, LoggingService.stamp_legal hlegal]
  refine ⟨trivial, fun st' => ?_⟩
  rcases (inner.call st.2.2 (LoggingService.stamped header id.1 req)).1 st'.2.2 with
    ⟨_ | _ | response, s⟩
  · simp only [linesOf, samplesOf, List.append_nil]
  · simp only [linesOf, samplesOf, LoggingService.line, hcarries.method, hcarries.uri]
  · simp only [linesOf, samplesOf, LoggingService.line, LogLine.completed_eq, hcarries.method,
      hcarries.uri]

theorem samples_perm (hlegal : LegalHeader header) {s : σ}
    {pool : Pool (List LogLine × List Sample × σ) (Call RequestId _ ε)}
    (hr : Reachable (AsyncService.system (telemetry inner routeId header)) ([], [], s) pool) :
    pool.shared.2.1.Perm (pool.tasks.flatMap (samplesOf routeId)) := by
  refine notes_perm (fun st => st.2.1) (samplesOf routeId) (fun c h => by rw [samplesOf, h])
    (fun id st req => ?_) (fun c st => ?_) hr
  · rw [(telemetry_call inner routeId hlegal id st req).1]
  · rw [(telemetry_call inner routeId hlegal c.index c.called c.request).2 st]
    rfl

/-- A service that has users, and tells the headers it was sent. -/
def usersService : AsyncService Unit Empty :=
  ⟨fun s req => (fun s => (.ok (.ok ⟨if req.uri.path = "/users".toList then .ok else
    ⟨404, by decide⟩, req.headers, []⟩), s), s)⟩

theorem requestIdHeader_legal : LegalHeader (some "x-request-id".toList) := by
  rintro name h
  cases h
  decide

def someValue : HeaderValue := ⟨someId.1.utf8, by decide⟩
def otherValue : HeaderValue := ⟨otherId.1.utf8, by decide⟩

/-- A call of it that was answered. -/
def answeredCall (st : List LogLine × List Sample × Unit) (id : RequestId) (path : Text)
    (status : StatusCode) (value : HeaderValue) :
    Call RequestId (List LogLine × List Sample × Unit) Empty :=
  ⟨id, Router.plainGet path, st,
    some (.ok (.ok ⟨status, HeaderMap.empty.insert requestIdName value, []⟩))⟩

/-- Two calls that overlap: the second is there before the first is answered. -/
theorem users_overlapping : ∃ st : List LogLine × List Sample × Unit,
    Reachable (AsyncService.system (telemetry usersService "api" (some "x-request-id".toList)))
      ([], [], ()) ⟨st, [answeredCall ([], [], ()) otherId "/orders" ⟨404, by decide⟩ otherValue,
        answeredCall ([], [], ()) someId "/users" .ok someValue]⟩ := by
  have hfirst : Reachable
      (AsyncService.system (telemetry usersService "api" (some "x-request-id".toList)))
      ([], [], ()) ⟨([], [], ()), [⟨someId, Router.plainGet "/users", ([], [], ()), none⟩]⟩ :=
    .single (.start [] (AsyncService.Starts.call someId (Router.plainGet "/users")))
  have hsecond := hfirst.tail
    (.start _ (AsyncService.Starts.call otherId (Router.plainGet "/orders")))
  have hawaited := hsecond.tail (.move [_] [] (AsyncService.Moves.await rfl))
  obtain ⟨st, hanswered⟩ : ∃ st, Reachable
      (AsyncService.system (telemetry usersService "api" (some "x-request-id".toList)))
      ([], [], ()) ⟨st, [⟨otherId, Router.plainGet "/orders", ([], [], ()), none⟩,
        answeredCall ([], [], ()) someId "/users" .ok someValue]⟩ :=
    ⟨_, hawaited⟩
  have hall := hanswered.tail (.move [] [_] (AsyncService.Moves.await rfl))
  exact ⟨_, hall⟩

/-- The status of the response a call was answered with. -/
def statusOf {ι σ : Type} (c : Call ι σ ε) : Option Nat :=
  match c.outcome with
  | some (.ok (.ok response)) => some response.status.code
  | _ => none

theorem incrementsOf_samplesOf {σ : Type} (routeId : Text) (c : Call RequestId σ ε) :
    incrementsOf "gateway_requests_total" (samplesOf routeId c) = (statusOf c).isSome.toNat ∧
      incrementsOf "gateway_requests_error_total" (samplesOf routeId c) =
        ((statusOf c).any (400 ≤ ·)).toNat := by
  rw [samplesOf, statusOf]
  split
  · rename_i result hresult
    rw [hresult]
    cases result with
    | error e => exact ⟨rfl, rfl⟩
    | ok response =>
        obtain ⟨hall, herror, -⟩ := incrementsOf_recordSuccess
          ⟨c.request.method.text, c.request.uri.path, routeId⟩ response.status.code
        exact ⟨hall, herror⟩
  · rename_i hno
    split
    · rename_i response hresponse
      exact absurd hresponse (hno _)
    · exact ⟨rfl, rfl⟩

theorem incrementsOf_flatMap (counter : Text) {α : Type} (f : α → List Sample) (p : α → Bool)
    (h : ∀ a, incrementsOf counter (f a) = (p a).toNat) (l : List α) :
    incrementsOf counter (l.flatMap f) = l.countP p := by
  induction l with
  | nil => rfl
  | cons a l ih =>
      rw [List.flatMap_cons, incrementsOf_append, h, ih, List.countP_cons]
      cases p a <;> simp [Nat.add_comm]

/-- **The metrics are complete.**  Where increments add up: in every interleaving,
`gateway_requests_total` is the number of calls that were answered with a response, and
`gateway_requests_error_total` that of those with a status of 400 or more. -/
theorem metrics_complete {R : Recorder} (hR : R.CountsUp) (hlegal : LegalHeader header) {s : σ}
    {pool : Pool (List LogLine × List Sample × σ) (Call RequestId _ ε)}
    (hr : Reachable (AsyncService.system (telemetry inner routeId header)) ([], [], s) pool) :
    R.total "gateway_requests_total" pool.shared.2.1 =
        pool.tasks.countP (fun c => (statusOf c).isSome) ∧
      R.total "gateway_requests_error_total" pool.shared.2.1 =
        pool.tasks.countP fun c => (statusOf c).any (400 ≤ ·) := by
  have hperm := samples_perm hlegal hr
  refine ⟨?_, ?_⟩
  · rw [hR.total_eq, incrementsOf, hperm.countP_eq]
    exact incrementsOf_flatMap _ _ _ (fun c => (incrementsOf_samplesOf routeId c).1) pool.tasks
  · rw [hR.total_eq, incrementsOf, hperm.countP_eq]
    exact incrementsOf_flatMap _ _ _ (fun c => (incrementsOf_samplesOf routeId c).2) pool.tasks

/-- Two calls that overlap, answered with 200 and with 404. -/
theorem metrics_complete_overlapping : ∃ pool : Pool (List LogLine × List Sample × Unit) _,
    Reachable (AsyncService.system (telemetry usersService "api" (some "x-request-id".toList)))
      ([], [], ()) pool ∧ pool.tasks.length = 2 ∧
      Recorder.adding.total "gateway_requests_total" pool.shared.2.1 = 2 ∧
      Recorder.adding.total "gateway_requests_error_total" pool.shared.2.1 = 1 := by
  obtain ⟨st, hr⟩ := users_overlapping
  obtain ⟨hall, herror⟩ := metrics_complete Recorder.adding_countsUp requestIdHeader_legal hr
  exact ⟨_, hr, rfl, hall, herror⟩

end Telemetry

/-! ### Illegal names -/

/-- **Where `LoggingService` does as `handle_request` does**: in front of every service, exactly
under a header name that is legal.  Under an illegal one `handle_request` goes on with the request
as it is, and `LoggingService` panics, and neither calls the service nor logs. -/
theorem stamps_alike_iff {ρ lim κ υ δ : Type} {g : Gateway ρ lim κ υ δ} {header : Option Text}
    (hheader : g.config.logging.requestIdHeader = header) :
    ((∀ (σ ε : Type) (inner : AsyncService σ ε) (id : RequestId) (logs : List LogLine) (s s' : σ)
      (req : Request),
      (((LoggingService.mk inner header).call id.1 (logs, s) req).1 (logs, s')).1 =
        ((inner.call s (g.stampRequestId id.1 req)).1 s').1) ↔ LegalHeader header) ∧
    (¬ LegalHeader header → ∀ (σ ε : Type) (inner : AsyncService σ ε) (id : RequestId)
      (st st' : List LogLine × σ) (req : Request), g.stampRequestId id.1 req = req ∧
        ((LoggingService.mk inner header).call id.1 st req).2 = st ∧
        ((LoggingService.mk inner header).call id.1 st req).1 st' = (.error .unwrap, st')) := by
  have hillegal (hno : ¬ LegalHeader header) :
      ∃ name, header = some name ∧ HeaderName.parse name = none := by
    by_contra hall
    refine hno fun name hname => ?_
    by_contra hparse
    exact hall ⟨name, hname, Option.not_isSome_iff_eq_none.mp hparse⟩
  have hpanics : ¬ LegalHeader header → ∀ (σ ε : Type) (inner : AsyncService σ ε) (id : RequestId)
      (st st' : List LogLine × σ) (req : Request), g.stampRequestId id.1 req = req ∧
        ((LoggingService.mk inner header).call id.1 st req).2 = st ∧
        ((LoggingService.mk inner header).call id.1 st req).1 st' = (.error .unwrap, st') := by
    intro hno σ ε inner id st st' req
    obtain ⟨name, rfl, hnone⟩ := hillegal hno
    refine ⟨?_, ?_, ?_⟩
    · rw [stampRequestId, hheader]
      simp only [hnone]
    · simp only [LoggingService.call, LoggingService.stamp, hnone]
    · simp only [LoggingService.call, LoggingService.stamp, hnone]
  refine ⟨⟨fun h => ?_, fun hlegal σ ε inner id logs s s' req => ?_⟩, hpanics⟩
  · by_contra hno
    -- a service that answers tells a panic apart
    have hsame := h Unit Unit ⟨fun s _ => (fun s => (.ok (.error ()), s), s)⟩ someId [] () ()
      CacheMiddlewareService.newRequest
    obtain ⟨-, -, hpanic⟩ := hpanics hno Unit Unit
      ⟨fun s _ => (fun s => (.ok (.error ()), s), s)⟩ someId ([], ()) ([], ())
      CacheMiddlewareService.newRequest
    rw [hpanic] at hsame
    cases hsame
  · simp only [LoggingService.call, LoggingService.stamp_legal hlegal,
      LoggingService.stamped_gateway hheader]
    rcases (inner.call s (g.stampRequestId id.1 req)).1 s' with ⟨_ | result, s''⟩ <;> rfl

/-- The plain gateway, with a name that is no header name. -/
def blankGateway : Gateway Regex.Re (Text → Nat) (List (Text × CachedResponse)) Unit Unit :=
  { stampedGateway with config := { stampedConfig with logging := ⟨some "request id"⟩ } }

/-- Under a name with a dash both send the id; under one with a blank there is a panic. -/
theorem stamps_alike_dash :
    (((LoggingService.mk usersService (some "x-request-id".toList)).call someId.1 ([], ())
        (Router.plainGet "/users")).1 ([], ())).1 =
      .ok (.ok ⟨.ok, HeaderMap.empty.insert requestIdName someValue, []⟩) ∧
    blankGateway.stampRequestId someId.1 (Router.plainGet "/users") = Router.plainGet "/users" ∧
    ((LoggingService.mk usersService (some "request id".toList)).call someId.1 ([], ())
      (Router.plainGet "/users")).1 ([], ()) = (.error .unwrap, [], ()) := by
  have halike := (stamps_alike_iff (g := stampedGateway) rfl).1.mpr requestIdHeader_legal
    _ _ usersService someId [] () () (Router.plainGet "/users")
  obtain ⟨hplain, -, hpanic⟩ := (stamps_alike_iff (g := blankGateway) rfl).2
    (fun hlegal => by cases hlegal _ rfl) _ _ usersService someId ([], ()) ([], ())
    (Router.plainGet "/users")
  exact ⟨halike, hplain, hpanic⟩

end MiniGateway
