import MiniGateway.Source.Middleware

/-!
# Properties — Cors

The CORS layer and the service around it.

* The answer to a preflight is a 204 with the origin in one header (`buildPreflightResponse_spec`).
* `addCorsHeaders` sets three headers, the first of them the origin, and leaves the rest alone; it
  panics exactly if the list of exposed headers is no legal text (`addCorsHeaders_cases`).
* The service annotates whatever it wraps (`CorsService.call_annotated`) and refuses a preflight
  from an origin that is not allowed (`CorsService.call_forbidden`).
-/

namespace MiniGateway

open Http

/-! ### Origins -/

namespace Gateway

/-- An origin that is there was read from a header. -/
theorem toStr_of_originOf {headers : HeaderMap} (h : originOf headers ≠ []) :
    ∃ v : HeaderValue, v.toStr = some (originOf headers) := by
  rw [originOf] at h ⊢
  cases ho : (headers.get originName).bind HeaderValue.toStr with
  | none => rw [ho] at h; exact absurd rfl h
  | some o =>
      obtain ⟨v, -, hv⟩ := Option.bind_eq_some_iff.mp ho
      exact ⟨v, hv⟩

/-- The empty text is the text of the empty value. -/
theorem toStr_empty : HeaderValue.toStr ⟨[], rfl⟩ = some [] := rfl

/-- Every origin, there or not, is the text of a value. -/
theorem originOf_toStr (headers : HeaderMap) :
    ∃ v : HeaderValue, v.toStr = some (originOf headers) := by
  by_cases h : originOf headers = []
  · rw [h]
    exact ⟨_, toStr_empty⟩
  · exact toStr_of_originOf h

end Gateway

/-- The response carries exactly one `access-control-allow-origin`, and that is the origin. -/
def CarriesOrigin (origin : Text) (r : Response) : Prop :=
  ∃ v, r.headers.getAll CorsLayer.allowOrigin = [v] ∧ v.toStr = some origin

namespace CorsLayer

/-! ### The answer to a preflight -/

/-- A builder whose parts are those of a 204 for the origin. -/
def IsPreflightFor (origin : Text) (p : StatusCode × HeaderMap) : Prop :=
  p.1.code = 204 ∧ ∃ v : HeaderValue, v.bytes = origin.utf8 ∧ p.2.getAll allowOrigin = [v]

/-- A header of another name changes nothing about that. -/
theorem gives_header {b : Builder} {origin name : Text} {value : Bytes}
    (h : b.Gives (IsPreflightFor origin)) (hname : HeaderName.parse name ≠ some allowOrigin) :
    (b.header name value).Gives (IsPreflightFor origin) := by
  refine h.header fun p n v hp hn _ => ?_
  obtain ⟨hcode, u, hu, hall⟩ := hp
  have hne : n ≠ allowOrigin := fun h => hname (by rw [hn, h])
  refine ⟨hcode, u, hu, ?_⟩
  rw [HeaderMap.getAll_append, if_neg hne, List.append_nil]
  exact hall

/-- **The answer to a preflight**, unless building it panics: a 204 with the origin, once. -/
theorem buildPreflightResponse_spec {cors : CorsLayer} {origin : Text} {r : Response}
    (h : cors.buildPreflightResponse origin = .ok r) :
    IsPreflightFor origin (r.status, r.headers) := by
  have hfirst : ((Builder.new.status 204).header "Access-Control-Allow-Origin" origin.utf8).Gives
      (IsPreflightFor origin) := by
    have hnew : (Builder.new.status 204).Gives fun p => p.1.code = 204 ∧ p.2 = .empty := by
      intro p hp
      cases hp
      exact ⟨rfl, rfl⟩
    refine hnew.header fun p n v hp hn hv => ?_
    obtain ⟨hcode, hempty⟩ := hp
    have hname : HeaderName.parse "Access-Control-Allow-Origin" = some allowOrigin := by decide
    rw [hname] at hn
    cases hn
    rw [HeaderValue.fromBytes] at hv
    split at hv
    · rename_i hvalid
      cases hv
      refine ⟨hcode, ⟨_, hvalid⟩, rfl, ?_⟩
      rw [HeaderMap.getAll_append, hempty, if_pos rfl]
      rfl
    · cases hv
  -- each of the headers that follow has another name
  refine Builder.Gives.body (P := IsPreflightFor origin) ?_ h
  generalize Builder.header _ _ _ = b at hfirst ⊢
  have hcred : (if cors.allowCredentials then b.header "Access-Control-Allow-Credentials"
      (Text.utf8 "true") else b).Gives (IsPreflightFor origin) := by
    split
    · exact gives_header hfirst (by decide)
    · exact hfirst
  generalize (if cors.allowCredentials then _ else b) = b at hcred ⊢
  have hlists : ((b.header "Access-Control-Allow-Methods"
      (Text.join cors.allowMethods ", ").utf8).header "Access-Control-Allow-Headers"
      (Text.join cors.allowHeaders ", ").utf8).Gives (IsPreflightFor origin) :=
    gives_header (gives_header hcred (by decide)) (by decide)
  generalize Builder.header (Builder.header _ _ _) _ _ = b at hlists ⊢
  cases cors.maxAge with
  | none =>
      simp only
      split
      · exact hlists
      · exact gives_header hlists (by decide)
  | some age =>
      have hage : (b.header "Access-Control-Max-Age" (Text.ofNat age).utf8).Gives
          (IsPreflightFor origin) := gives_header hlists (by decide)
      simp only
      split
      · exact hage
      · exact gives_header hage (by decide)

/-- One answer, one origin. -/
theorem buildPreflightResponse_inj {cors : CorsLayer} {h h' : HeaderMap} {r : Response}
    (hr : cors.buildPreflightResponse (Gateway.originOf h) = .ok r)
    (hr' : cors.buildPreflightResponse (Gateway.originOf h') = .ok r) :
    Gateway.originOf h = Gateway.originOf h' := by
  obtain ⟨-, v, hv, hall⟩ := buildPreflightResponse_spec hr
  obtain ⟨-, v', hv', hall'⟩ := buildPreflightResponse_spec hr'
  obtain ⟨u, hu⟩ := Gateway.originOf_toStr h
  obtain ⟨u', hu'⟩ := Gateway.originOf_toStr h'
  rw [hall] at hall'
  cases hall'
  exact HeaderValue.toStr_inj hu hu' (hv.symm.trans hv')

/-! ### The headers of an actual response -/

/-- The list of exposed headers can be written into a header. -/
def Exposable (cors : CorsLayer) : Prop :=
  cors.exposeHeaders = [] ∨
    ∃ v, HeaderValue.fromStr (Text.join cors.exposeHeaders ", ") = some v

/-- `true`. -/
def trueValue : HeaderValue := ⟨Text.utf8 "true", by decide⟩

/-- `r` is `response` with the headers for an allowed origin, in the place of those it had. -/
structure Annotated (cors : CorsLayer) (origin : Text) (response r : Response) : Prop where
  status : r.status = response.status
  body : r.body = response.body
  origin : CarriesOrigin origin r
  credentials : r.headers.getAll allowCredentialsName =
    if cors.allowCredentials then [trueValue] else response.headers.getAll allowCredentialsName
  expose : if cors.exposeHeaders = [] then
      r.headers.getAll exposeHeadersName = response.headers.getAll exposeHeadersName
    else ∃ v, HeaderValue.fromStr (Text.join cors.exposeHeaders ", ") = some v ∧
      r.headers.getAll exposeHeadersName = [v]
  others : ∀ n, n ∉ [allowOrigin, allowCredentialsName, exposeHeadersName] →
    r.headers.getAll n = response.headers.getAll n

/-- `r` is `response` but for the values of one header. -/
structure DiffersAt (name : HeaderName) (response r : Response) : Prop where
  status : r.status = response.status
  body : r.body = response.body
  others : ∀ n, n ≠ name → r.headers.getAll n = response.headers.getAll n

theorem DiffersAt.refl (name : HeaderName) (response : Response) :
    DiffersAt name response response := ⟨rfl, rfl, fun _ _ => rfl⟩

/-- One header is set. -/
theorem insertStr_spec (name : HeaderName) {value : Text} {v : HeaderValue}
    (h : HeaderValue.fromStr value = some v) (response : Response) :
    ∃ r, insertStr response name value = .ok r ∧ DiffersAt name response r ∧
      r.headers.getAll name = [v] := by
  refine ⟨{ response with headers := response.headers.insert name v }, by rw [insertStr, h],
    ⟨rfl, rfl, fun n hn => ?_⟩, ?_⟩
  · rw [HeaderMap.getAll_insert, if_neg (Ne.symm hn)]
  · rw [HeaderMap.getAll_insert, if_pos rfl]

/-- The second header of `add_cors_headers`: it is set, or left as it is. -/
theorem credentials_spec (cors : CorsLayer) (response : Response) :
    ∃ r, (if cors.allowCredentials then insertStr response allowCredentialsName "true"
        else .ok response) = .ok r ∧
      DiffersAt allowCredentialsName response r ∧
      r.headers.getAll allowCredentialsName = if cors.allowCredentials then [trueValue]
        else response.headers.getAll allowCredentialsName := by
  have htrue : HeaderValue.fromStr "true" = some trueValue := rfl
  cases cors.allowCredentials with
  | false => exact ⟨response, rfl, .refl _ _, rfl⟩
  | true => exact insertStr_spec allowCredentialsName htrue response

/-- The last one: it is left as it is, set, or panics. -/
theorem expose_spec (cors : CorsLayer) (response : Response) :
    (∃ r, (if cors.exposeHeaders.isEmpty then .ok response else insertStr response
        exposeHeadersName (Text.join cors.exposeHeaders ", ")) = Except.ok r ∧
      DiffersAt exposeHeadersName response r ∧
      (if cors.exposeHeaders = [] then
        r.headers.getAll exposeHeadersName = response.headers.getAll exposeHeadersName
      else ∃ v, HeaderValue.fromStr (Text.join cors.exposeHeaders ", ") = some v ∧
        r.headers.getAll exposeHeadersName = [v]) ∧
      cors.Exposable) ∨
    ((if cors.exposeHeaders.isEmpty then .ok response else insertStr response
        exposeHeadersName (Text.join cors.exposeHeaders ", ")) = Except.error .unwrap ∧
      ¬ cors.Exposable) := by
  rw [Exposable]
  cases cors.exposeHeaders with
  | nil => exact Or.inl ⟨response, rfl, .refl _ _, rfl, Or.inl rfl⟩
  | cons name names =>
      simp only [List.isEmpty_cons, Bool.false_eq_true, if_false, reduceCtorEq, false_or]
      cases he : HeaderValue.fromStr (Text.join (name :: names) ", ") with
      | some e =>
          obtain ⟨r, hr, hdiffers, hall⟩ := insertStr_spec exposeHeadersName he response
          exact Or.inl ⟨r, hr, hdiffers, ⟨e, rfl, hall⟩, e, rfl⟩
      | none =>
          refine Or.inr ⟨by rw [insertStr, he], ?_⟩
          rintro ⟨e, h⟩
          cases h

/-- **What `add_cors_headers` does** for an origin that was read from a header: where the list of
exposed headers is legal, it replaces three headers and leaves the rest of the response alone;
otherwise it panics. -/
theorem addCorsHeaders_cases (cors : CorsLayer) (response : Response) (headers : HeaderMap) :
    (∃ r, cors.addCorsHeaders response (Gateway.originOf headers) = .ok r ∧
      cors.Annotated (Gateway.originOf headers) response r ∧ cors.Exposable) ∨
    (cors.addCorsHeaders response (Gateway.originOf headers) = .error .unwrap ∧
      ¬ cors.Exposable) := by
  obtain ⟨v, hv⟩ := Gateway.originOf_toStr headers
  obtain ⟨r₁, hr₁, hdiff₁, horigin⟩ :=
    insertStr_spec allowOrigin (HeaderValue.fromStr_of_toStr hv) response
  obtain ⟨r₂, hr₂, hdiff₂, hcredentials⟩ := cors.credentials_spec r₁
  have hsteps : cors.addCorsHeaders response (Gateway.originOf headers) =
      if cors.exposeHeaders.isEmpty then .ok r₂ else insertStr r₂ exposeHeadersName
        (Text.join cors.exposeHeaders ", ") := by
    rw [addCorsHeaders, hr₁]
    cases hc : cors.allowCredentials with
    | true =>
        rw [hc, if_pos rfl] at hr₂
        simp only [bind, Except.bind, if_true, hr₂]
    | false =>
        rw [hc, if_neg (by decide)] at hr₂
        cases hr₂
        rfl
  rw [hsteps]
  refine (cors.expose_spec r₂).imp_left ?_
  rintro ⟨r, hr, hdiff, hexpose, hex⟩
  refine ⟨r, hr, ?_, hex⟩
  have hne : allowOrigin ≠ allowCredentialsName ∧ allowOrigin ≠ exposeHeadersName ∧
      allowCredentialsName ≠ exposeHeadersName := by decide
  constructor
  case status => rw [hdiff.status, hdiff₂.status, hdiff₁.status]
  case body => rw [hdiff.body, hdiff₂.body, hdiff₁.body]
  case origin =>
    refine ⟨v, ?_, hv⟩
    rw [hdiff.others _ hne.2.1, hdiff₂.others _ hne.1, horigin]
  case credentials =>
    rw [hdiff.others _ hne.2.2, hcredentials, hdiff₁.others _ hne.1.symm]
  case expose =>
    rwa [hdiff₂.others _ hne.2.2.symm, hdiff₁.others _ hne.2.1.symm] at hexpose
  case others =>
    intro n hn
    simp only [List.mem_cons, List.not_mem_nil, or_false, not_or] at hn
    rw [hdiff.others n hn.2.2, hdiff₂.others n hn.2.1, hdiff₁.others n hn.1]

end CorsLayer

/-! ### The service -/

namespace CorsService

variable {σ ε : Type}

/-- **The service annotates what it wraps**: a response to a request from an allowed origin gets the
headers for that origin. -/
theorem call_annotated (service : CorsService σ ε) (s : σ) {req : Request} {r : Response}
    (hm : req.method ≠ .options) (hne : Gateway.originOf req.headers ≠ [])
    (ho : service.config.isOriginAllowed (Gateway.originOf req.headers) = true)
    (hex : service.config.Exposable) (hinner : (service.inner.call s req).1 = .ok (.ok r)) :
    ∃ r', (service.call s req).1 = .ok (.ok r') ∧
      service.config.Annotated (Gateway.originOf req.headers) r r' := by
  rcases service.config.addCorsHeaders_cases r req.headers with ⟨r', hr', hann, -⟩ | ⟨-, hno⟩
  · refine ⟨r', ?_, hann⟩
    have hempty : (Gateway.originOf req.headers).isEmpty = false := by
      cases h : Gateway.originOf req.headers with
      | nil => exact absurd h hne
      | cons c cs => rfl
    simp only [call, if_neg hm, hinner, Except.bind]
    simp only [annotate, hempty, ho, Bool.not_false, Bool.and_self, if_true, hr', Except.map]
  · exact absurd hex hno

/-- **The service refuses a preflight** from an origin that is not allowed, with a 403, and does not
call what it wraps. -/
theorem call_forbidden (service : CorsService σ ε) (s : σ) {req : Request}
    (hm : req.method = .options)
    (ho : service.config.isOriginAllowed (Gateway.originOf req.headers) = false) :
    (∃ r, (service.call s req).1 = .ok (.ok r) ∧ r.status.code = 403) ∧
      (service.call s req).2 = s := by
  have hcall : service.call s req = (forbidden.map .ok, s) := by
    simp only [call, if_pos hm, ho, Bool.false_eq_true, if_false]
  rw [hcall]
  exact ⟨⟨_, rfl, rfl⟩, rfl⟩

end CorsService

end MiniGateway
