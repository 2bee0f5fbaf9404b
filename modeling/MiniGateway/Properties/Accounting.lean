import Mathlib.Algebra.BigOperators.Group.List.Lemmas
import MiniGateway.Properties.Balancing
import MiniGateway.Properties.Unwraps
import MiniGateway.Support.Runs

/-!
# Properties — Accounting

The counters against what the gateway did, along runs of requests.  A `Visit` brings the world it
finds along, but for the increments, which are the run's.  The recorder is one in which increments
of a series add up (`Recorder.CountsUp`).

Only the proxy counts a request, once the upstream's body is read; a lookup that misses is never
counted.  So the counters are complete exactly along the runs in which every request is forwarded
without a lookup to an upstream that answers (`accounts_iff`).
-/

namespace MiniGateway

open Http

/-! ### The proxy -/

namespace ProxyClient

variable {υ : Type}

/-- **What the proxy counts**: a request it has a response to, with the response's status. -/
theorem proxy_samples (p : ProxyClient υ) (req : Request) (route : RouteMatch)
    (metrics : RequestMetrics) (u : υ) :
    (∃ r, (p.proxy req route metrics u).1.result = .ok r ∧
      (p.proxy req route metrics u).2 = metrics.recordSuccess r.status.code) ∨
    ∃ e, (p.proxy req route metrics u).1.result = .error e ∧
      (p.proxy req route metrics u).2 = [] := by
  rw [proxy, Method.parse_text]
  cases req.body with
  | error e => exact Or.inr ⟨_, rfl, rfl⟩
  | ok body =>
      simp only
      split
      · exact Or.inr ⟨_, rfl, rfl⟩
      · rename_i resp _
        split
        · exact Or.inr ⟨_, rfl, rfl⟩
        · rename_i bytes _
          simp only [response_eq]
          exact Or.inl ⟨_, rfl, rfl⟩

end ProxyClient

/-! ### Counters -/

/-- How often a counter was incremented. -/
def incrementsOf (counter : Text) (calls : List Sample) : Nat :=
  calls.countP (·.counter == counter)

theorem incrementsOf_append (counter : Text) (c₁ c₂ : List Sample) :
    incrementsOf counter (c₁ ++ c₂) = incrementsOf counter c₁ + incrementsOf counter c₂ :=
  List.countP_append

namespace Recorder

/-- The value of a counter, over all the series that were incremented. -/
def total (R : Recorder) (counter : Text) (calls : List Sample) : Nat :=
  ((calls.dedup.filter (·.counter == counter)).map (R.counter calls)).sum

/-- A series shows how often it was incremented. -/
theorem CountsUp.counter_eq {R : Recorder} (hR : R.CountsUp) (calls : List Sample)
    (series : Sample) : R.counter calls series = calls.count series := by
  induction calls using List.reverseRecOn with
  | nil => exact hR.fresh series
  | append_singleton calls call ih =>
      rw [hR.increment, ih, List.count_append, List.count_singleton]
      simp only [beq_iff_eq]

/-- **A counter shows how often it was incremented.** -/
theorem CountsUp.total_eq {R : Recorder} (hR : R.CountsUp) (counter : Text)
    (calls : List Sample) : R.total counter calls = incrementsOf counter calls := by
  rw [total, funext (hR.counter_eq calls)]
  exact List.sum_map_count_dedup_filter_eq_countP _ _

/-- The gauge shows the sum of its deltas. -/
theorem GaugeAddsUp.gauge_eq {R : Recorder} (hR : R.GaugeAddsUp) (deltas : List Int) :
    R.gauge deltas = deltas.sum := by
  induction deltas using List.reverseRecOn with
  | nil => exact hR.fresh
  | append_singleton deltas delta ih => rw [hR.increment, ih, List.sum_append, List.sum_singleton]

/-- A recorder that adds up. -/
def adding : Recorder := ⟨fun calls series => calls.count series, List.sum⟩

theorem adding_countsUp : adding.CountsUp where
  fresh _ := rfl
  increment calls call series := by
    simp only [adding, List.count_append, List.count_singleton, beq_iff_eq]

theorem adding_gaugeAddsUp : adding.GaugeAddsUp where
  fresh := rfl
  increment deltas delta := by
    simp only [adding, List.sum_append, List.sum_singleton]

end Recorder

/-- The reply is a response. -/
def isAnswer : Except Panic Response → Bool
  | .ok _ => true
  | .error _ => false

/-- The reply is a response with an error status. -/
def isErrorAnswer : Except Panic Response → Bool
  | .ok r => decide (400 ≤ r.status.code)
  | .error _ => false

namespace Gateway

variable {ρ lim κ υ δ : Type} {L : Libraries ρ lim κ υ δ} {g : Gateway ρ lim κ υ δ}

/-- The increments of a run, and what the gateway did in it. -/
structure Tally where
  increments : List Sample
  answered : Nat
  errors : Nat
  lookups : Nat

/-- One more request, handled in the visit's world after the run's increments. -/
def Tally.after (L : Libraries ρ lim κ υ δ) (g : Gateway ρ lim κ υ δ) (t : Tally)
    (v : Visit lim κ υ δ) : Tally :=
  let h := g.handleRequest L v.request v.client v.requestId
    { v.world with increments := t.increments }
  { increments := h.world.increments
    answered := t.answered + (isAnswer h.reply).toNat
    errors := t.errors + (isErrorAnswer h.reply).toNat
    lookups := t.lookups + h.events.countP Event.isLookup }

/-- **The counters say what was done.** -/
structure Tally.Complete (R : Recorder) (t : Tally) : Prop where
  requests : R.total "gateway_requests_total" t.increments = t.answered
  errors : R.total "gateway_requests_error_total" t.increments = t.errors
  lookups : R.total "gateway_cache_hits_total" t.increments +
    R.total "gateway_cache_misses_total" t.increments = t.lookups

/-- The increments of an exit are those its reply and its lookups ask for. -/
structure Exit.Accounted (g : Gateway ρ lim κ υ δ) (u : υ) (e : Exit) : Prop where
  requests : incrementsOf "gateway_requests_total" (e.samples g u) = (isAnswer (e.reply g u)).toNat
  errors : incrementsOf "gateway_requests_error_total" (e.samples g u) =
    (isErrorAnswer (e.reply g u)).toNat
  lookups : incrementsOf "gateway_cache_hits_total" (e.samples g u) +
    incrementsOf "gateway_cache_misses_total" (e.samples g u) = e.lookups

/-- **One request keeps the counters complete exactly if its exit is accounted for.** -/
theorem after_complete_iff {R : Recorder} (hR : R.CountsUp) {t : Tally} (ht : t.Complete R)
    (v : Visit lim κ υ δ) : (t.after L g v).Complete R ↔
      (g.exit L v.request v.requestId v.world).Accounted g v.world.upstream := by
  obtain ⟨hreply, hincrements, hlookups⟩ := handleRequest_exit L g v.request v.client v.requestId
    { v.world with increments := t.increments }
  -- the increments so far do not decide where the request ends
  have hexit : g.exit L v.request v.requestId { v.world with increments := t.increments } =
      g.exit L v.request v.requestId v.world := rfl
  rw [hexit] at hreply hincrements hlookups
  obtain ⟨hrequests, herrors, hhits⟩ := ht
  rw [hR.total_eq] at hrequests herrors
  rw [hR.total_eq, hR.total_eq] at hhits
  refine ⟨fun ⟨h₁, h₂, h₃⟩ => ?_, fun ⟨h₁, h₂, h₃⟩ => ?_⟩
  · simp only [Tally.after, hreply, hincrements, hlookups, hR.total_eq, incrementsOf_append]
      at h₁ h₂ h₃
    exact ⟨by omega, by omega, by omega⟩
  · refine ⟨?_, ?_, ?_⟩ <;>
      simp only [Tally.after, hreply, hincrements, hlookups, hR.total_eq, incrementsOf_append] <;>
      omega

/-! ### Exits -/

/-- The CORS step keeps the status. -/
theorem withCors_status {response r : Response} (h : g.withCors response = .ok r) :
    r.status = response.status := by
  rw [withCors] at h
  split at h
  · rename_i cors _
    simp only at h
    split at h
    · rcases cors.addCorsHeaders_cases response response.headers with ⟨r', hr', hann, -⟩ |
          ⟨hpanic, -⟩
      · rw [hr'] at h
        cases h
        exact hann.status
      · rw [hpanic] at h
        cases h
    · cases h
      rfl
  · cases h
    rfl

/-- What `record_success` counts. -/
theorem incrementsOf_recordSuccess (metrics : RequestMetrics) (status : Nat) :
    incrementsOf "gateway_requests_total" (metrics.recordSuccess status) = 1 ∧
      incrementsOf "gateway_requests_error_total" (metrics.recordSuccess status) =
        (decide (400 ≤ status)).toNat ∧
      incrementsOf "gateway_cache_hits_total" (metrics.recordSuccess status) = 0 ∧
      incrementsOf "gateway_cache_misses_total" (metrics.recordSuccess status) = 0 := by
  rw [RequestMetrics.recordSuccess]
  by_cases h : 400 ≤ status
  · rw [if_pos h, decide_eq_true h]
    exact ⟨rfl, rfl, rfl, rfl⟩
  · rw [if_neg h, decide_eq_false h]
    exact ⟨rfl, rfl, rfl, rfl⟩

/-- The request is forwarded without a lookup to an upstream that answers, and the answer gets to
the client; or handling it panics before anything is counted. -/
def Exit.Counted (g : Gateway ρ lim κ υ δ) (u : υ) (e : Exit) : Prop :=
  match e with
  | .forwarded lookedUp route metrics req => lookedUp = false ∧
      (∃ response, (g.proxyClient.proxy req route metrics u).1.result = .ok response) ∧
      e.Unwraps g.corsLayer g u
  | .preflight _ | .hit .. => ¬ e.Unwraps g.corsLayer g u
  | .unrouted | .rejected .. | .limited _ => False

/-- With a response of the upstream's, the counters are right if nothing was looked up and the
response gets to the client. -/
theorem forwarded_accounted_iff {u : υ} {lookedUp : Bool} {route : RouteMatch}
    {metrics : RequestMetrics} {req : Request} {response : Response}
    (hresult : (g.proxyClient.proxy req route metrics u).1.result = .ok response)
    (hsamples : (g.proxyClient.proxy req route metrics u).2 =
      metrics.recordSuccess response.status.code) :
    (Exit.forwarded lookedUp route metrics req).Accounted g u ↔
      lookedUp = false ∧ (∃ response, (g.proxyClient.proxy req route metrics u).1.result =
        .ok response) ∧ ∃ r, (Exit.forwarded lookedUp route metrics req).reply g u = .ok r := by
  obtain ⟨hrequests, herrors, hhits, hmisses⟩ :=
    incrementsOf_recordSuccess metrics response.status.code
  have hreply : (Exit.forwarded lookedUp route metrics req).reply g u = g.withCors response := by
    simp only [Exit.reply, hresult]
  rw [hreply]
  refine ⟨fun h => ?_, ?_⟩
  · obtain ⟨h₁, -, h₃⟩ := h
    rw [hreply, Exit.samples, hsamples, hrequests] at h₁
    rw [Exit.samples, hsamples, hhits, hmisses] at h₃
    refine ⟨?_, ⟨response, hresult⟩, ?_⟩
    · cases lookedUp with
      | false => rfl
      | true => cases h₃
    · cases hr : g.withCors response with
      | ok r => exact ⟨r, rfl⟩
      | error panic =>
          rw [hr] at h₁
          cases h₁
  · rintro ⟨rfl, -, r, hr⟩
    have hstatus := withCors_status hr
    refine ⟨?_, ?_, ?_⟩
    · rw [hreply, hr, Exit.samples, hsamples, hrequests]
      rfl
    · rw [hreply, hr, Exit.samples, hsamples, herrors, ← hstatus]
      rfl
    · rw [Exit.samples, hsamples, hhits, hmisses]
      rfl

/-- Where no request is counted, the counters are right if none is answered. -/
theorem uncounted_accounted_iff {u : υ} {e : Exit}
    (hrequests : incrementsOf "gateway_requests_total" (e.samples g u) = 0)
    (herrors : incrementsOf "gateway_requests_error_total" (e.samples g u) = 0)
    (hlookups : incrementsOf "gateway_cache_hits_total" (e.samples g u) +
      incrementsOf "gateway_cache_misses_total" (e.samples g u) = e.lookups) :
    e.Accounted g u ↔ ¬ ∃ r, e.reply g u = .ok r := by
  cases hr : e.reply g u with
  | ok r =>
      refine iff_of_false (fun h => ?_) fun h => h ⟨r, rfl⟩
      have hanswered := h.requests
      rw [hrequests, hr] at hanswered
      cases hanswered
  | error panic =>
      refine iff_of_true ⟨?_, ?_, hlookups⟩ fun ⟨r, h⟩ => by cases h
      · rw [hrequests, hr]
        rfl
      · rw [herrors, hr]
        rfl

/-- An error of the proxy's is answered, and nothing is counted. -/
theorem failed_not_accounted {u : υ} {lookedUp : Bool} {route : RouteMatch}
    {metrics : RequestMetrics} {req : Request} {e : GatewayError}
    (hresult : (g.proxyClient.proxy req route metrics u).1.result = .error e)
    (hsamples : (g.proxyClient.proxy req route metrics u).2 = []) :
    ¬ (Exit.forwarded lookedUp route metrics req).Accounted g u := by
  intro h
  have hreply : (Exit.forwarded lookedUp route metrics req).reply g u = errorReply e := by
    simp only [Exit.reply, hresult]
  obtain ⟨r, hr, -⟩ := errorReply_status e
  have hanswered := h.requests
  rw [hreply, hr, Exit.samples, hsamples] at hanswered
  cases hanswered

/-- **Which exits are accounted for.** -/
theorem exit_accounted_iff (L : Libraries ρ lim κ υ δ) (g : Gateway ρ lim κ υ δ) (req : Request)
    (id : Text) (w : World lim κ υ δ) :
    (g.exit L req id w).Accounted g w.upstream ↔ (g.exit L req id w).Counted g w.upstream := by
  have hreplies := exit_reply_ok_iff L g req id w
  cases he : g.exit L req id w with
  | unrouted => exact iff_of_false (fun h => by cases h.requests) fun h => h
  | rejected metrics message => exact iff_of_false (fun h => by cases h.requests) fun h => h
  | limited metrics => exact iff_of_false (fun h => by cases h.requests) fun h => h
  | preflight reply =>
      rw [he] at hreplies
      exact (uncounted_accounted_iff rfl rfl rfl).trans (not_congr hreplies)
  | hit metrics cached =>
      rw [he] at hreplies
      exact (uncounted_accounted_iff rfl rfl rfl).trans (not_congr hreplies)
  | forwarded lookedUp route metrics req' =>
      rw [he] at hreplies
      have hcounted : (Exit.forwarded lookedUp route metrics req').Counted g w.upstream ↔
          lookedUp = false ∧ (∃ response,
            (g.proxyClient.proxy req' route metrics w.upstream).1.result = .ok response) ∧
          ∃ r, (Exit.forwarded lookedUp route metrics req').reply g w.upstream = .ok r := by
        rw [hreplies]
        exact Iff.rfl
      rw [hcounted]
      rcases ProxyClient.proxy_samples g.proxyClient req' route metrics w.upstream with
        ⟨response, hresult, hsamples⟩ | ⟨e, hresult, hsamples⟩
      · exact forwarded_accounted_iff hresult hsamples
      · refine iff_of_false (failed_not_accounted hresult hsamples) ?_
        rintro ⟨-, ⟨response, hok⟩, -⟩
        rw [hresult] at hok
        cases hok

/-- One more request. -/
theorem after_complete {R : Recorder} (hR : R.CountsUp) {t : Tally} (ht : t.Complete R)
    (v : Visit lim κ υ δ) : (t.after L g v).Complete R ↔
      (g.exit L v.request v.requestId v.world).Counted g v.world.upstream :=
  (after_complete_iff hR ht v).trans (exit_accounted_iff L g v.request v.requestId v.world)

/-- At the beginning nothing was done, and nothing is shown. -/
theorem start_complete {R : Recorder} (hR : R.CountsUp) :
    (⟨[], 0, 0, 0⟩ : Tally).Complete R := by
  refine ⟨?_, ?_, ?_⟩ <;> simp only [hR.total_eq] <;> rfl

/-! ### Runs -/

/-- **Accounting along a run.**  Where increments add up: after every request of a run the counters
of requests, errors and lookups say what was done, exactly if each request is forwarded without a
lookup and answered by its upstream, or panics before it is counted. -/
theorem accounts_iff {R : Recorder} (hR : R.CountsUp) (L : Libraries ρ lim κ υ δ)
    (g : Gateway ρ lim κ υ δ) (run : List (Visit lim κ υ δ)) :
    Runs.Along (Tally.after L g) (fun t v => (t.after L g v).Complete R) ⟨[], 0, 0, 0⟩ run ↔
      ∀ v ∈ run, (g.exit L v.request v.requestId v.world).Counted g v.world.upstream := by
  have hstep : ∀ (t : Tally) (v : Visit lim κ υ δ), t.Complete R →
      ((t.after L g v).Complete R ↔
        (g.exit L v.request v.requestId v.world).Counted g v.world.upstream) :=
    fun t v ht => after_complete hR ht v
  rw [Runs.along_congr hstep (fun t v _ h => h) (start_complete hR) run]
  exact Runs.along_const_iff _ _ _ run

/-- A `GET` of this path. -/
def visitOf (path : Text) : Visit (Text → Nat) (List (Text × CachedResponse)) Unit Unit :=
  ⟨peer, Router.plainGet path, "id", freshWorld 0⟩

/-- One request, sent upstream and answered, is counted. -/
theorem accounts_forwarded :
    Runs.Along (Tally.after tokenLibraries (plainGateway apiRoutes none none none))
      (fun t v => (t.after tokenLibraries (plainGateway apiRoutes none none none) v).Complete
        Recorder.adding) ⟨[], 0, 0, 0⟩ [visitOf "/api/users"] := by
  refine (accounts_iff Recorder.adding_countsUp _ _ _).mpr fun v hv => ?_
  rw [List.mem_singleton.mp hv]
  refine ⟨rfl, ⟨_, rfl⟩, fun response _ cors hcors => ?_⟩
  cases hcors

/-- A 404 is answered and not counted. -/
theorem lost_not_counted :
    isAnswer ((plainGateway apiRoutes none none none).visit tokenLibraries
      (visitOf "/nowhere")).reply = true ∧
      ¬ Runs.Along (Tally.after tokenLibraries (plainGateway apiRoutes none none none))
        (fun t v => (t.after tokenLibraries (plainGateway apiRoutes none none none) v).Complete
          Recorder.adding) ⟨[], 0, 0, 0⟩ [visitOf "/nowhere"] := by
  refine ⟨by decide, fun h => ?_⟩
  exact absurd h.1.requests (by decide)

end Gateway

end MiniGateway
