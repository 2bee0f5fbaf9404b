import MiniGateway.Properties.CrossOrigin
import MiniGateway.Properties.Unwraps

/-!
# Properties — The CORS service

All that `CorsService` does to what it wraps (`CorsService.call_spec`): a preflight never gets
there, every other request does, once and as it came; and of the response three headers are
replaced, for an allowed origin, and nothing else.
-/

namespace MiniGateway

open Http

/-- What can be written into every header can be written into the last one. -/
theorem CorsLayer.Writable.exposable {cors : CorsLayer} (hw : cors.Writable) : cors.Exposable := by
  by_cases hex : cors.exposeHeaders = []
  · exact Or.inl hex
  · exact Or.inr (isValue_iff_fromStr.mp (hw.exposeHeaders hex))

namespace CorsService

variable {σ ε : Type}

/-- The service, with a list of the requests it was called with. -/
def recording (inner : Service σ ε) : Service (σ × List Request) ε where
  call st req := ((inner.call st.1 req).1, (inner.call st.1 req).2, st.2 ++ [req])

/-- The origin is there and allowed. -/
def Allowed (cors : CorsLayer) (req : Request) : Prop :=
  Gateway.originOf req.headers ≠ [] ∧ cors.isOriginAllowed (Gateway.originOf req.headers) = true

theorem allowed_iff (cors : CorsLayer) (req : Request) :
    (!(Gateway.originOf req.headers).isEmpty &&
        cors.isOriginAllowed (Gateway.originOf req.headers)) = true ↔ Allowed cors req := by
  simp [Allowed]

/-- An actual request: the wrapped service gets it as it is, once; its response is annotated for an
allowed origin, and its answer is handed on as it is in every other case. -/
structure Wraps (service : CorsService σ ε) (s : σ) (req : Request) : Prop where
  state : (service.call s req).2 = (service.inner.call s req).2
  once : ∀ log, (CorsService.call ⟨recording service.inner, service.config⟩ (s, log) req).2.2 =
    log ++ [req]
  allowed : Allowed service.config req → ∀ r, (service.inner.call s req).1 = .ok (.ok r) →
    ∃ r', (service.call s req).1 = .ok (.ok r') ∧
      service.config.Annotated (Gateway.originOf req.headers) r r'
  failed : (∀ r, (service.inner.call s req).1 ≠ .ok (.ok r)) →
    (service.call s req).1 = (service.inner.call s req).1
  unallowed : ¬ Allowed service.config req →
    (service.call s req).1 = (service.inner.call s req).1

/-- A preflight: the wrapped service is not called; the answer is the layer's for an allowed origin,
and a 403 for another. -/
structure Answers (service : CorsService σ ε) (s : σ) (req : Request) : Prop where
  state : (service.call s req).2 = s
  never : ∀ log,
    (CorsService.call ⟨recording service.inner, service.config⟩ (s, log) req).2.2 = log
  answer : ∃ r, (service.call s req).1 = .ok (.ok r) ∧
    if service.config.isOriginAllowed (Gateway.originOf req.headers) then
      r.status.code = 204 ∧
        service.config.buildPreflightResponse (Gateway.originOf req.headers) = .ok r
    else r.status.code = 403

theorem call_preflight {service : CorsService σ ε} (hw : service.config.Writable) (s : σ)
    {req : Request} (hm : req.method = .options) : service.Answers s req := by
  cases ho : service.config.isOriginAllowed (Gateway.originOf req.headers) with
  | true =>
      have hcall : ∀ {τ : Type} (inner : Service τ ε) (t : τ),
          CorsService.call ⟨inner, service.config⟩ t req =
            ((service.config.buildPreflightResponse (Gateway.originOf req.headers)).map .ok,
              t) := by
        intro τ inner t
        simp only [call, if_pos hm, ho, if_true]
      obtain ⟨r, hr⟩ := (service.config.buildPreflightResponse_ok_iff
        (isValue_originOf req.headers)).mpr hw
      refine ⟨by rw [hcall], fun log => by rw [hcall], r, by rw [hcall, hr]; rfl, ?_⟩
      rw [ho, if_pos rfl]
      exact ⟨(CorsLayer.buildPreflightResponse_spec hr).1, hr⟩
  | false =>
      obtain ⟨⟨r, hr, hcode⟩, hstate⟩ := call_forbidden service s hm ho
      refine ⟨hstate, fun log => ?_, r, hr, ?_⟩
      · have hlog := (call_forbidden ⟨recording service.inner, service.config⟩ (s, log) hm ho).2
        exact congrArg Prod.snd hlog
      · rw [ho, if_neg (by decide)]
        exact hcode

theorem call_actual {service : CorsService σ ε} (hw : service.config.Writable) (s : σ)
    {req : Request} (hm : req.method ≠ .options) : service.Wraps s req := by
  have hcall : ∀ {τ : Type} (inner : Service τ ε) (t : τ),
      CorsService.call ⟨inner, service.config⟩ t req =
        ((inner.call t req).1.bind (annotate service.config (Gateway.originOf req.headers)),
          (inner.call t req).2) := by
    intro τ inner t
    simp only [call, if_neg hm]
  have hreply := congrArg Prod.fst (hcall service.inner s)
  refine ⟨by rw [hcall], fun log => by rw [hcall]; rfl, fun hallowed r hr => ?_, fun hfail => ?_,
    fun hno => ?_⟩
  · exact call_annotated service s hm hallowed.1 hallowed.2 hw.exposable hr
  · rw [hreply]
    rcases hinner : (service.inner.call s req).1 with panic | e | r
    · rfl
    · rfl
    · exact absurd hinner (hfail r)
  · rw [hreply]
    rcases (service.inner.call s req).1 with panic | e | r
    · rfl
    · rfl
    · exact if_neg fun h => hno ((allowed_iff _ _).mp h)

/-- **The service.** -/
theorem call_spec (service : CorsService σ ε) (hw : service.config.Writable) (s : σ)
    (req : Request) :
    (req.method ≠ .options → service.Wraps s req) ∧
      (req.method = .options → service.Answers s req) :=
  ⟨call_actual hw s, call_preflight hw s⟩

/-- A service that names another origin by itself. -/
def otherOrigin : Service Nat Text where
  call n _ := (.ok (.ok ⟨.ok, ⟨[(CorsLayer.allowOrigin, Gateway.evilOrigin)]⟩, []⟩), n + 1)

/-- The origin of the request takes its place. -/
theorem other_origin_replaced :
    ∃ r, (CorsService.call ⟨otherOrigin, CorsLayer.new Gateway.openCors⟩ 0
        (Gateway.fromOrigin .get "/api/echo" Gateway.exampleOrigin)).1 = .ok (.ok r) ∧
      CarriesOrigin "https://example.com" r := by
  have hw : (CorsLayer.new Gateway.openCors).Writable :=
    ⟨by decide, by decide, fun _ => by decide⟩
  have hwraps := (call_spec ⟨otherOrigin, CorsLayer.new Gateway.openCors⟩ hw 0
    (Gateway.fromOrigin .get "/api/echo" Gateway.exampleOrigin)).1 (by decide)
  obtain ⟨r, hr, hannotated⟩ := hwraps.allowed ⟨by decide, by decide⟩ _ rfl
  exact ⟨r, hr, hannotated.origin⟩

end CorsService

end MiniGateway
