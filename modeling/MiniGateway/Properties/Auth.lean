import MiniGateway.Source.Auth
import MiniGateway.Properties.Routing

/-!
# Properties — Auth

What the authentication layer decides.

* A wildcard in `excluded_paths` excludes every path that starts with its base, with no segment
  boundary (`excludes_wild`); a route with the same pattern asks for the boundary.  The two read
  a pattern alike exactly on the paths that respect the boundary (`exclusion_iff_routing`).
* `validate_jwt` sets the issuer and audience to compare with, but requires neither to be there:
  an accepted token carries the configured ones exactly when it carries any
  (`validateJwt_pins_iff`).
-/

namespace MiniGateway.TokenDecoder

open Http

/-- A decoder that knows the tokens of `signed`, each under its key, and no others. -/
def ofSigned (signed : List ((Text × Bytes) × Claims)) : TokenDecoder where
  verify token key := match signed.lookup (token, key) with
    | some c => .ok c
    | none => .error "InvalidSignature"
  decode now token key v := match signed.lookup (token, key) with
    | some c => if v.passes now c then .ok c else .error "InvalidToken"
    | none => .error "InvalidSignature"

theorem ofSigned_documented (signed : List ((Text × Bytes) × Claims)) :
    (ofSigned signed).Documented where
  decode_iff now token key v c := by
    simp only [ofSigned]
    rcases signed.lookup (token, key) with _ | c'
    · simp
    · by_cases hpass : v.passes now c' = true
      · simp only [hpass, if_true, Except.ok.injEq]
        exact ⟨fun h => ⟨h, h ▸ hpass⟩, fun h => h.1⟩
      · simp only [hpass, Except.ok.injEq]
        refine ⟨fun h => absurd h (by simp), fun h => absurd (h.1 ▸ h.2) hpass⟩

theorem ofSigned_verify (token : Text) (key : Bytes) (c : Claims) :
    (ofSigned [((token, key), c)]).verify token key = .ok c := by
  rw [ofSigned]
  simp only [List.lookup_cons_self]

end MiniGateway.TokenDecoder

namespace MiniGateway.AuthLayer

open Http Regex Router

variable {ρ δ : Type} {E : Engine ρ}

/-! ### Exclusion -/

theorem excludes_wild {p base : Text} (h : Glob.Wild p base) (x : Text) :
    excludes p x = true ↔ ∃ r, x = base ++ r := by
  unfold excludes
  rw [Glob.branch_wild (fun b => x.startsWith b) (fun p => x == p) h, Text.startsWith_iff]

theorem excludes_plain {p : Text} (h : ∀ base, ¬ Glob.Wild p base) (x : Text) :
    excludes p x = true ↔ x = p := by
  unfold excludes
  rw [Glob.branch_plain (fun b => x.startsWith b) (fun p => x == p) h, beq_iff_eq]

/-- `x` goes past the base of the wildcard `p`, if at all, at a segment boundary; and what
follows has no newline. -/
def RespectsBoundary (p x : Text) : Prop :=
  ∀ base r, Glob.Wild p base → x = base ++ r → r = [] ∨ ∃ t, r = '/' :: t ∧ '\n' ∉ t

/-- A router of one static route without a method filter matches what its pattern matches. -/
theorem single_route_isSome {route : RouteConfig} {url : Text} {router : Router ρ δ}
    (hnew : Router.new E [route] = .ok router) (hm : route.methods = none)
    (hu : route.upstream = .static url) (req : Request) (d : δ) :
    ∃ r, E.new (pattern E route.path) = .ok r ∧
      ((router.matchRoute E req d).1.isSome = true ↔ E.isMatch r req.uri.path = true) := by
  obtain ⟨hconfig, hentry⟩ := compile_spec (new_spec hnew)
  obtain ⟨e, hroutes, rfl⟩ : ∃ e, router.routes = [e] ∧ e.config = route := by
    rcases hr : router.routes with _ | ⟨e, _ | ⟨e', es⟩⟩
    · rw [hr] at hconfig; cases hconfig
    · rw [hr] at hconfig; exact ⟨e, rfl, List.singleton_inj.mp hconfig⟩
    · rw [hr] at hconfig; cases hconfig
  refine ⟨e.pathRegex, hentry e (by simp [hroutes]), ?_⟩
  rw [matchRoute_eq_find, hroutes]
  cases hp : E.isMatch e.pathRegex req.uri.path with
  | false => simp [entryAccepts, hp]
  | true => simp [entryAccepts, hp, methodAllowed, hm, answer_static router d hu]

/-- **Exclusion against routing.**  For one pattern `p`, the exclusion test and the router of a
static route with path `p` agree on a request exactly when its path respects the boundary after
`p`'s base. -/
theorem exclusion_iff_routing (hE : E.Documented) {auth : AuthLayer} {route : RouteConfig}
    {url : Text} {router : Router ρ δ} (hauth : auth.config.excludedPaths = [route.path])
    (hnew : Router.new E [route] = .ok router) (hm : route.methods = none)
    (hu : route.upstream = .static url) (req : Request) (d : δ) :
    (auth.isExcludedPath req.uri.path = true ↔ (router.matchRoute E req d).1.isSome = true) ↔
      RespectsBoundary route.path req.uri.path := by
  obtain ⟨r, hr, hmatch⟩ := single_route_isSome hnew hm hu req d
  have hex : auth.isExcludedPath req.uri.path = excludes route.path req.uri.path := by
    simp [isExcludedPath, hauth]
  rw [hmatch, hex]
  by_cases hw : ∃ base, Glob.Wild route.path base
  · obtain ⟨base, hw⟩ := hw
    rw [excludes_wild hw, isMatch_wild hE hw hr]
    refine ⟨fun h base' rest hw' hx => ?_, fun h => ⟨?_, ?_⟩⟩
    · obtain rfl := hw.functional hw'
      rcases h.mp ⟨rest, hx⟩ with he | ⟨t, ht, hn⟩
      · exact Or.inl (List.append_right_eq_self.mp (hx.symm.trans he))
      · exact Or.inr ⟨t, List.append_cancel_left (hx.symm.trans ht), hn⟩
    · rintro ⟨rest, hx⟩
      rcases h base rest hw hx with rfl | ⟨t, rfl, hn⟩
      · exact Or.inl (by rw [hx, List.append_nil])
      · exact Or.inr ⟨t, hx, hn⟩
    · rintro (hx | ⟨t, hx, -⟩)
      · exact ⟨[], by rw [hx, List.append_nil]⟩
      · exact ⟨'/' :: t, hx⟩
  · have hn : ∀ base, ¬ Glob.Wild route.path base := fun base h => hw ⟨base, h⟩
    rw [excludes_plain hn, isMatch_plain hE hn hr]
    exact ⟨fun _ base _ hb => absurd hb (hn base), fun _ => Iff.rfl⟩

/-- A layer for tokens signed with `secret`, open at `excludedPaths`. -/
def ofExcluded (secret : Text) (excludedPaths : List Text) : AuthLayer where
  config := { enabled := true, provider := .jwt secret none none, excludedPaths }
  decodingKey := some secret.utf8

theorem exclusion_iff_routing_health :
    (ofExcluded "test-secret" ["/health/**"]).isExcludedPath "/health/live" = true ∧
      ((ofRoutes [plainRoute "health" "/health/**" "http://b:1"] : Router Re Unit).matchRoute
        reference (plainGet "/health/live") ()).1.isSome = true := by
  have hauth : (ofExcluded "test-secret" ["/health/**"]).config.excludedPaths =
      [(plainRoute "health" "/health/**" "http://b:1").path] := rfl
  have hx : (ofExcluded "test-secret" ["/health/**"]).isExcludedPath "/health/live" = true := by
    decide
  have hboundary : RespectsBoundary "/health/**" "/health/live" := by
    intro base r hw hr
    have hbase : Glob.Wild "/health/**" "/health" := Or.inl rfl
    obtain rfl := hbase.functional hw
    have hr' : "/health".toList ++ "/live".toList = "/health".toList ++ r := hr
    exact Or.inr ⟨"live".toList, (List.append_cancel_left hr').symm, by decide⟩
  exact ⟨hx, ((exclusion_iff_routing reference_documented hauth (new_reference _) rfl rfl
    (plainGet "/health/live") ()).mpr hboundary).mp hx⟩

/-- `/health/**` excludes `/healthcheck`, which a route `/health/**` does not match. -/
theorem exclusion_without_boundary :
    ¬ ((ofExcluded "test-secret" ["/health/**"]).isExcludedPath "/healthcheck" = true ↔
      ((ofRoutes [plainRoute "health" "/health/**" "http://b:1"] : Router Re Unit).matchRoute
        reference (plainGet "/healthcheck") ()).1.isSome = true) := by
  decide

/-! ### Pinning -/

variable {J : TokenDecoder}

/-- The claims of a verified token that a layer with this issuer and audience lets pass: not
expired, and whatever `iss` and `aud` they carry are the configured ones. -/
structure Passable (now : Nat) (issuer audience : Option Text) (c : Claims) : Prop where
  unexpired : now ≤ c.exp + 60
  iss_eq : ∀ i x, issuer = some i → c.iss = some x → x = i
  aud_eq : ∀ x, c.aud = some x → audience = some x

theorem passes_iff (v : Validation) (now : Nat) (c : Claims) :
    v.passes now c = true ↔ (∀ r ∈ v.requiredSpecClaims, Validation.present c r = true) ∧
      now ≤ c.exp + v.leeway ∧ (∀ x items, c.iss = some x → v.iss = some items → x ∈ items) ∧
      ∀ x, c.aud = some x → ∃ items, v.aud = some items ∧ x ∈ items := by
  rw [Validation.passes]
  rcases c.iss with _ | x <;> rcases v.iss with _ | items <;> rcases c.aud with _ | y <;>
    rcases v.aud with _ | items' <;> simp [and_assoc]

/-- The validation a layer sets up: the configured issuer and audience, `exp` required. -/
theorem validation_eq {auth : AuthLayer} {secret : Text} {issuer audience : Option Text}
    (hp : auth.config.provider = .jwt secret issuer audience) :
    auth.validation = ⟨["exp".toList], 60, issuer.map fun i => [i], audience.map fun a => [a]⟩ := by
  rw [validation, hp]
  rcases issuer with _ | i <;> rcases audience with _ | a <;> rfl

theorem new_jwt {config : AuthConfig} {auth : AuthLayer} {secret : Text}
    {issuer audience : Option Text} (hp : config.provider = .jwt secret issuer audience)
    (hnew : AuthLayer.new config = .ok auth) : auth = ⟨config, some secret.utf8⟩ := by
  rw [new, hp] at hnew
  exact (Except.ok.inj hnew).symm

/-- **What `validate_jwt` accepts.** -/
theorem validateJwt_eq_ok_iff (hJ : J.Documented) {config : AuthConfig} {auth : AuthLayer}
    {secret : Text} {issuer audience : Option Text}
    (hp : config.provider = .jwt secret issuer audience) (hnew : AuthLayer.new config = .ok auth)
    (now : Nat) (token : Text) (c : Claims) :
    auth.validateJwt J now token = .ok c ↔
      J.verify token secret.utf8 = .ok c ∧ Passable now issuer audience c := by
  obtain rfl := new_jwt hp hnew
  have hdecode : validateJwt J now ⟨config, some secret.utf8⟩ token = .ok c ↔
      J.decode now token secret.utf8 (validation ⟨config, some secret.utf8⟩) = .ok c := by
    simp only [validateJwt]
    cases J.decode now token secret.utf8 (validation ⟨config, some secret.utf8⟩) <;> simp
  rw [hdecode, hJ.decode_iff, validation_eq hp, passes_iff]
  refine and_congr_right fun _ => ⟨fun h => ⟨h.2.1, ?_, ?_⟩, fun h => ⟨?_, h.unexpired, ?_, ?_⟩⟩
  · rintro i x rfl hx
    exact List.mem_singleton.mp (h.2.2.1 x [i] hx rfl)
  · intro x hx
    obtain ⟨items, hitems, hmem⟩ := h.2.2.2 x hx
    obtain ⟨a, ha, rfl⟩ := Option.map_eq_some_iff.mp hitems
    rw [ha, List.mem_singleton.mp hmem]
  · intro r hr
    obtain rfl := List.mem_singleton.mp hr
    rfl
  · intro x items hx hitems
    obtain ⟨i, hi, rfl⟩ := Option.map_eq_some_iff.mp hitems
    exact List.mem_singleton.mpr (h.iss_eq i x hi hx)
  · intro x hx
    exact ⟨[x], by rw [h.aud_eq x hx]; rfl, List.mem_singleton.mpr rfl⟩

/-- **Issuer and audience pinning.**  An accepted token has the configured issuer and audience
exactly when the token, if it verifies and its claims are passable, carries an `iss` where an
issuer is configured and an `aud` where an audience is. -/
theorem validateJwt_pins_iff (hJ : J.Documented) {config : AuthConfig} {auth : AuthLayer}
    {secret : Text} {issuer audience : Option Text}
    (hp : config.provider = .jwt secret issuer audience) (hnew : AuthLayer.new config = .ok auth)
    (now : Nat) (token : Text) :
    (∀ c, auth.validateJwt J now token = .ok c →
      (∀ i, issuer = some i → c.iss = some i) ∧ ∀ a, audience = some a → c.aud = some a) ↔
    ∀ c, J.verify token secret.utf8 = .ok c → Passable now issuer audience c →
      (issuer.isSome = true → c.iss.isSome = true) ∧
        (audience.isSome = true → c.aud.isSome = true) := by
  refine forall_congr' fun c => ?_
  rw [validateJwt_eq_ok_iff hJ hp hnew, and_imp]
  refine imp_congr_right fun _ => imp_congr_right fun hpass => and_congr ?_ ?_
  · refine ⟨fun h his => ?_, fun h i hi => ?_⟩
    · obtain ⟨i, hi⟩ := Option.isSome_iff_exists.mp his
      rw [h i hi]; rfl
    · obtain ⟨x, hx⟩ := Option.isSome_iff_exists.mp (h (by rw [hi]; rfl))
      rw [hx, hpass.iss_eq i x hi hx]
  · refine ⟨fun h hau => ?_, fun h a ha => ?_⟩
    · obtain ⟨a, ha⟩ := Option.isSome_iff_exists.mp hau
      rw [h a ha]; rfl
    · obtain ⟨x, hx⟩ := Option.isSome_iff_exists.mp (h (by rw [ha]; rfl))
      rw [hx, ← ha, hpass.aud_eq x hx]

/-- The secret of the examples. -/
def secret : Text := "test-secret"

/-- A configuration that names an issuer and an audience. -/
def pinned : AuthConfig where
  enabled := true
  provider := .jwt secret (some "test") (some "api")
  excludedPaths := []

/-- The layer of `pinned`. -/
def pinnedLayer : AuthLayer := ⟨pinned, some secret.utf8⟩

/-- Claims with a `sub`, an `exp` and an `iat`, but neither `iss` nor `aud`. -/
def bareClaims : Claims := ⟨"user123", 2000000000, 1700000000, none, none⟩

/-- `bareClaims`, signed with `secret`. -/
def bareToken : Text :=
  "eyJ0eXAiOiJKV1QiLCJhbGciOiJIUzI1NiJ9.".toList ++
    "eyJzdWIiOiJ1c2VyMTIzIiwiZXhwIjoyMDAwMDAwMDAwLCJpYXQiOjE3MDAwMDAwMDB9.".toList ++
    "vpnr_3e2fIGkhRRlwEAwxaBGCYasJWI0fHgAIo6VxMU".toList

/-- Claims that carry the configured issuer and audience. -/
def fullClaims : Claims := ⟨"user123", 2000000000, 1700000000, some "test", some "api"⟩

/-- `fullClaims`, signed with `secret`. -/
def fullToken : Text :=
  "eyJ0eXAiOiJKV1QiLCJhbGciOiJIUzI1NiJ9.".toList ++
    "eyJzdWIiOiJ1c2VyMTIzIiwiZXhwIjoyMDAwMDAwMDAwLCJpYXQiOjE3MDAwMDAwMDAs".toList ++
    "ImlzcyI6InRlc3QiLCJhdWQiOiJhcGkifQ.".toList ++
    "XSOeXWiEvhBWz2raNpbhJN1TACfJHNHpNms5FNO-Dh0".toList

/-- A decoder that knows `token`, signed with `secret`. -/
def decoderOf (token : Text) (c : Claims) : TokenDecoder :=
  TokenDecoder.ofSigned [((token, secret.utf8), c)]

/-- A token with the configured issuer and audience is accepted. -/
theorem pinnedLayer_accepts (token : Text) {c : Claims} {now : Nat} (hexp : now ≤ c.exp + 60)
    (hiss : c.iss = some "test".toList) (haud : c.aud = some "api".toList) :
    pinnedLayer.validateJwt (decoderOf token c) now token = .ok c := by
  have hJ := TokenDecoder.ofSigned_documented [((token, secret.utf8), c)]
  have hpass : Passable now (some "test".toList) (some "api".toList) c := by
    refine ⟨hexp, ?_, ?_⟩
    · rintro i x ⟨⟩ hx
      exact Option.some.inj (hx.symm.trans hiss)
    · intro x hx
      exact haud.symm.trans hx
  exact (validateJwt_eq_ok_iff hJ (rfl : pinned.provider = _) rfl _ _ _).mpr
    ⟨TokenDecoder.ofSigned_verify _ _ _, hpass⟩

theorem pinnedLayer_accepts_full :
    pinnedLayer.validateJwt (decoderOf fullToken fullClaims) 1700000000 fullToken =
      .ok fullClaims := by
  have hexp : fullClaims.exp = 2000000000 := rfl
  exact pinnedLayer_accepts fullToken (by omega) rfl rfl

theorem validateJwt_pins_full :
    pinnedLayer.validateJwt (decoderOf fullToken fullClaims) 1700000000 fullToken =
        .ok fullClaims ∧
      ∀ c, pinnedLayer.validateJwt (decoderOf fullToken fullClaims) 1700000000 fullToken = .ok c →
        c.iss = some "test".toList ∧ c.aud = some "api".toList := by
  have hJ := TokenDecoder.ofSigned_documented [((fullToken, secret.utf8), fullClaims)]
  have hv := TokenDecoder.ofSigned_verify fullToken secret.utf8 fullClaims
  have hpins := (validateJwt_pins_iff hJ (rfl : pinned.provider = _) rfl 1700000000 fullToken).mpr
    fun c hc _ => by
      obtain rfl : fullClaims = c := Except.ok.inj (hv.symm.trans hc)
      exact ⟨fun _ => rfl, fun _ => rfl⟩
  exact ⟨pinnedLayer_accepts_full, fun c hc => ⟨(hpins c hc).1 _ rfl, (hpins c hc).2 _ rfl⟩⟩

/-- The token without `iss` and `aud` is accepted by the layer that names both. -/
theorem validateJwt_accepts_bare :
    AuthLayer.new pinned = .ok pinnedLayer ∧
      ¬ ∀ c, pinnedLayer.validateJwt (decoderOf bareToken bareClaims) 1700000000 bareToken = .ok c →
        (∀ i, some "test".toList = some i → c.iss = some i) ∧
          ∀ a, some "api".toList = some a → c.aud = some a := by
  refine ⟨rfl, fun h => ?_⟩
  have hJ := TokenDecoder.ofSigned_documented [((bareToken, secret.utf8), bareClaims)]
  have hexp : bareClaims.exp = 2000000000 := rfl
  have hpass : Passable 1700000000 (some "test".toList) (some "api".toList) bareClaims :=
    ⟨by omega, by rintro i x ⟨⟩ ⟨⟩, by rintro x ⟨⟩⟩
  have hok := (validateJwt_eq_ok_iff hJ (rfl : pinned.provider = _) rfl 1700000000 bareToken _).mpr
    ⟨TokenDecoder.ofSigned_verify _ _ _, hpass⟩
  have hiss : bareClaims.iss = some "test".toList := (h bareClaims hok).1 _ rfl
  cases hiss

end MiniGateway.AuthLayer
