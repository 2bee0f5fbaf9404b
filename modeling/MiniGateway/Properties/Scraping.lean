import Mathlib.Data.List.Basic
import Mathlib.Logic.Function.Basic
import MiniGateway.Source.Exporter
import MiniGateway.Support.Runs
import MiniGateway.Support.Utf8

/-!
# Properties — Scraping

How fresh the answers of the metrics server are, over every interleaving of increments, accepts,
arriving requests and answers.

A connection answers out of what was rendered when it was accepted.  Its answer to a request shows
the registry as it was at some moment since the request arrived exactly when nothing was counted
between the accept and the arrival (`scrapes_fresh_iff`).
-/

namespace MiniGateway.MetricsExporter

open Http Runs

/-! ### Runs -/

/-- A request that arrived and waits for its answer, with the registry at its arrival. -/
structure Waiting where
  req : Request
  arrived : List Sample

/-- The server: the registry; for each accepted connection, the registry it was accepted with; and
the requests that wait on each connection. -/
structure Scrapes where
  registry : List Sample
  accepted : Nat → Option (List Sample)
  waiting : Nat → List Waiting

inductive Act where
  | count (sample : Sample)
  | accept (conn : Nat)
  | arrive (conn : Nat) (req : Request)
  | respond (conn : Nat)

/-- A request can arrive before its connection is accepted, and is answered after that.  The
requests of a connection are answered in order. -/
def step (s : Scrapes) : Act → Scrapes
  | .count sample => { s with registry := s.registry ++ [sample] }
  | .accept conn =>
      match s.accepted conn with
      | some _ => s
      | none => { s with accepted := Function.update s.accepted conn (some s.registry) }
  | .arrive conn req =>
      { s with waiting := Function.update s.waiting conn (s.waiting conn ++ [⟨req, s.registry⟩]) }
  | .respond conn =>
      match s.accepted conn with
      | some _ => { s with waiting := Function.update s.waiting conn (s.waiting conn).tail }
      | none => s

def idle : Scrapes := ⟨[], fun _ => none, fun _ => []⟩

/-- What `respond` answers: the request, and the response. -/
def reply (exporter : MetricsExporter) (s : Scrapes) (conn : Nat) :
    Option (Waiting × Except Panic Response) :=
  match s.accepted conn, s.waiting conn with
  | some registry, w :: _ => some (w, (exporter.accept registry).answer w.req)
  | _, _ => none

/-- An answer on the endpoint's path is what some registry between the arrival of its request and
now renders to. -/
def Fresh (exporter : MetricsExporter) (s : Scrapes) (act : Act) : Prop :=
  ∀ conn w response, act = .respond conn → exporter.reply s conn = some (w, response) →
    w.req.uri.path = exporter.endpoint → ∃ resp registry, response = .ok resp ∧
      w.arrived <+: registry ∧ registry <+: s.registry ∧
      resp.body = (exporter.render registry).utf8

/-- All that was counted when the answered request arrived had been counted when its connection
was accepted. -/
def Timely (exporter : MetricsExporter) (s : Scrapes) (act : Act) : Prop :=
  ∀ conn w rest registry, act = .respond conn → s.accepted conn = some registry →
    s.waiting conn = w :: rest → w.req.uri.path = exporter.endpoint → w.arrived <+: registry

/-! ### The invariant -/

/-- What a connection or a request remembers of the registry is how it once was. -/
structure Remembers (s : Scrapes) : Prop where
  accepted : ∀ conn registry, s.accepted conn = some registry → registry <+: s.registry
  waiting : ∀ conn, ∀ w ∈ s.waiting conn, w.arrived <+: s.registry

theorem remembers_idle : Remembers idle where
  accepted _ _ h := by cases h
  waiting _ _ h := by cases h

/-- **One step keeps it.** -/
theorem step_remembers {s : Scrapes} (act : Act) (h : Remembers s) : Remembers (step s act) := by
  cases act with
  | count sample =>
      have hgrow : s.registry <+: s.registry ++ [sample] := List.prefix_append _ _
      exact ⟨fun conn registry ha => (h.accepted conn registry ha).trans hgrow,
        fun conn w hw => (h.waiting conn w hw).trans hgrow⟩
  | accept conn =>
      simp only [step]
      split
      · exact h
      · refine ⟨(Function.forall_update_iff s.accepted fun _ a => ∀ registry, a = some registry →
          registry <+: s.registry).mpr ⟨?_, fun conn' _ => h.accepted conn'⟩, h.waiting⟩
        rintro registry ⟨⟩
        exact List.prefix_refl _
  | arrive conn req =>
      refine ⟨h.accepted, (Function.forall_update_iff s.waiting fun _ ws => ∀ w ∈ ws,
        w.arrived <+: s.registry).mpr ⟨fun w hw => ?_, fun conn' _ => h.waiting conn'⟩⟩
      rcases List.mem_append.mp hw with hw | hw
      · exact h.waiting conn w hw
      · cases List.mem_singleton.mp hw
        exact List.prefix_refl _
  | respond conn =>
      simp only [step]
      split
      · exact ⟨h.accepted, (Function.forall_update_iff s.waiting fun _ ws => ∀ w ∈ ws,
          w.arrived <+: s.registry).mpr
          ⟨fun w hw => h.waiting conn w (List.mem_of_mem_tail hw), fun conn' _ => h.waiting conn'⟩⟩
      · exact h

/-! ### Freshness -/

/-- The rendered text shows every increment. -/
def Shows (exporter : MetricsExporter) : Prop :=
  ∀ registry more, more ≠ [] →
    (exporter.render (registry ++ more)).utf8 ≠ (exporter.render registry).utf8

/-- An exporter that tells the number of the increments. -/
def numberExporter : MetricsExporter := ⟨fun registry => Text.ofNat registry.length, "/metrics"⟩

/-- It shows every increment. -/
theorem numberExporter_shows : numberExporter.Shows := by
  intro registry more hmore heq
  have hdigits : Text.ofNat (registry ++ more).length = Text.ofNat registry.length :=
    Utf8.utf8_inj heq
  have hlength := congrArg (Nat.ofDigitChars 10 · 0) hdigits
  simp only [Text.ofNat, Nat.ofDigitChars_ten_toDigits, List.length_append] at hlength
  exact hmore (List.length_eq_zero_iff.mp (by omega))

/-- On the endpoint's path a connection answers with what was rendered when it was accepted. -/
theorem answer_endpoint (exporter : MetricsExporter) (registry : List Sample) {req : Request}
    (hpath : req.uri.path = exporter.endpoint) :
    ∃ resp, (exporter.accept registry).answer req = .ok resp ∧
      resp.body = (exporter.render registry).utf8 := by
  have hlegal : ((Builder.new.status 200).header "Content-Type"
      (Text.utf8 "text/plain; charset=utf-8")).Legal :=
    (Builder.header_legal_iff _ _ _).mpr
      ⟨(Builder.status_legal_iff _ _).mpr ⟨Builder.new_legal, by decide, by decide⟩, by decide,
        by decide⟩
  obtain ⟨resp, hresp⟩ := (Builder.unwrap_body_iff _ (exporter.render registry).utf8).mpr hlegal
  exact ⟨resp, (if_pos hpath).trans hresp, Builder.body_of_unwrap hresp⟩

theorem reply_eq_some_iff (exporter : MetricsExporter) (s : Scrapes) (conn : Nat) (w : Waiting)
    (response : Except Panic Response) :
    exporter.reply s conn = some (w, response) ↔ ∃ registry rest, s.accepted conn = some registry ∧
      s.waiting conn = w :: rest ∧ response = (exporter.accept registry).answer w.req := by
  rw [reply]
  cases s.accepted conn with
  | none => simp
  | some registry =>
      cases s.waiting conn with
      | nil => simp
      | cons w' rest =>
          simp only [Option.some.injEq, Prod.mk.injEq, List.cons.injEq]
          refine ⟨fun ⟨hw, hr⟩ => ⟨registry, rest, rfl, ⟨hw, rfl⟩, ?_⟩, ?_⟩
          · rw [← hr, hw]
          · rintro ⟨_, _, rfl, ⟨rfl, -⟩, rfl⟩
            exact ⟨rfl, rfl⟩

/-- A timely answer is fresh: the registry of the accept is one since the arrival. -/
theorem Timely.fresh {exporter : MetricsExporter} {s : Scrapes} (hs : Remembers s) {act : Act}
    (h : exporter.Timely s act) : exporter.Fresh s act := by
  rintro conn w response rfl hreply hpath
  obtain ⟨registry, rest, hacc, hwait, rfl⟩ :=
    (reply_eq_some_iff exporter s conn w response).mp hreply
  obtain ⟨resp, hresp, hbody⟩ := answer_endpoint exporter registry hpath
  exact ⟨resp, registry, hresp, h conn w rest registry rfl hacc hwait hpath,
    hs.accepted conn registry hacc, hbody⟩

/-- A fresh answer is timely: a registry that has grown since the accept renders differently. -/
theorem Fresh.timely {exporter : MetricsExporter} (hshows : exporter.Shows) {s : Scrapes}
    (hs : Remembers s) {act : Act} (h : exporter.Fresh s act) : exporter.Timely s act := by
  rintro conn w rest registry rfl hacc hwait hpath
  obtain ⟨resp, hresp, hbody⟩ := answer_endpoint exporter registry hpath
  obtain ⟨resp', r, hresp', harrived, hr, hbody'⟩ := h conn w _ rfl
    ((reply_eq_some_iff exporter s conn w _).mpr ⟨registry, rest, hacc, hwait, rfl⟩) hpath
  cases hresp.symm.trans hresp'
  rcases List.prefix_or_prefix_of_prefix hr (hs.accepted conn registry hacc) with hle | ⟨more, rfl⟩
  · exact harrived.trans hle
  · cases more with
    | nil => rwa [List.append_nil] at harrived
    | cons sample more =>
        exact absurd (hbody'.symm.trans hbody) (hshows registry _ (List.cons_ne_nil _ _))

/-- **Freshness of the scrapes.**  Along every run in which nothing is counted between the accept
of a connection and the arrival of a request it answers, all answers are fresh; and if the text
shows every increment, along no other. -/
theorem scrapes_fresh_iff (exporter : MetricsExporter) (run : List Act) :
    (Along step exporter.Timely idle run → Along step exporter.Fresh idle run) ∧
      (exporter.Shows → Along step exporter.Fresh idle run → Along step exporter.Timely idle run) :=
  ⟨Along.mono (fun _ _ hs h => h.fresh hs) (fun _ act hs _ => step_remembers act hs)
      remembers_idle,
    fun hshows => Along.mono (fun _ _ hs h => h.timely hshows hs)
      (fun _ act hs _ => step_remembers act hs) remembers_idle⟩

/-- A line of the text format for each counter with its labels: how often it was counted. -/
def exposition (registry : List Sample) : Text :=
  registry.dedup.flatMap fun sample => sample.counter ++ '\x7b' :: Text.join
    (sample.labels.map fun l => l.1 ++ "=\"".toList ++ l.2 ++ "\"".toList) "," ++
    "\x7d ".toList ++ Text.ofNat (registry.count sample) ++ "\n".toList

/-- The exporter of the default endpoint. -/
def textExporter : MetricsExporter := ⟨exposition, "/metrics"⟩

/-- `GET /metrics`. -/
def scrape : Request := ⟨.get, ⟨none, none, "/metrics", none⟩, .empty, .ok []⟩

/-- A hit in the cache of one route. -/
def hit : Sample := RequestMetrics.recordCacheHit ⟨"GET", "/api", "api"⟩

/-- The second request of a connection, after an increment, is answered with the old value. -/
theorem scrapes_stale :
    ¬ Along step textExporter.Fresh idle [.accept 0, .arrive 0 scrape, .respond 0, .count hit,
      .arrive 0 scrape, .respond 0] := by
  intro h
  obtain ⟨resp, registry, hresp, harrived, hregistry, hbody⟩ :=
    h.2.2.2.2.2.1 0 ⟨scrape, [hit]⟩ _ rfl rfl rfl
  obtain ⟨resp', hresp', hbody'⟩ := answer_endpoint textExporter []
    (show scrape.uri.path = textExporter.endpoint from rfl)
  cases hresp'.symm.trans hresp
  obtain rfl : registry = [hit] := hregistry.eq_of_length_le harrived.length_le
  exact absurd (hbody'.symm.trans hbody) (by decide)

end MiniGateway.MetricsExporter
