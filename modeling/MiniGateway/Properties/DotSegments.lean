import MiniGateway.Properties.Pipeline

/-!
# Properties — Dot segments

The gateway decides on the path as the client sent it; the HTTP client resolves the dot segments
of the URL it is given, after the decision.

* `Settled pat p` is what makes a decision survive that: `p` has no dot segment, or the pattern
  is a wildcard and the dot segments of `p` stay below its base.
* `decisions_survive_norm`: settled paths stay excluded and stay routed.  Every path with a dot
  segment is excluded, and routed, by a pattern that its normal form is not.
-/

namespace MiniGateway.Gateway

open Http Url

variable {ρ lim κ υ δ : Type} {L : Libraries ρ lim κ υ δ} {config : GatewayConfig}
  {g : Gateway ρ lim κ υ δ}

/-- The path goes on from the base, and its dot segments do not climb over the base; over the
empty base they cannot. -/
def StaysBelow (base p : Text) : Prop :=
  ∃ t, p = base ++ '/' :: t ∧ (base = [] ∨ ∃ b, base = '/' :: b ∧
    DotFree (Text.pieces b '/') ∧ stays 0 (Text.pieces t '/') = true)

/-- The path has no dot segment, or they stay below the base of the pattern. -/
def Settled (pat p : Text) : Prop :=
  DotFree (Text.pieces p '/') ∨ ∃ base, Glob.Wild pat base ∧ StaysBelow base p

/-- The normal form of a path that stays below a base goes on from the base, with no character
that was not behind it before, but slashes. -/
theorem norm_of_staysBelow {base p : Text} (h : StaysBelow base p) :
    ∃ t t', p = base ++ '/' :: t ∧ norm p = base ++ '/' :: t' ∧ ∀ c ∈ t', c = '/' ∨ c ∈ t := by
  obtain ⟨t, rfl, hbase⟩ := h
  obtain ⟨t', ht'⟩ := render_resolve_rooted t
  refine ⟨t, t', rfl, ?_, fun c hc => ?_⟩
  · rcases hbase with rfl | ⟨b, rfl, hfree, hstay⟩
    · exact ht'
    · rw [norm_stays hfree hstay, ht']
  · refine mem_render_resolve ?_
    rw [ht']
    exact List.mem_cons_of_mem _ hc

theorem excludes_norm {pat p : Text} (hx : AuthLayer.excludes pat p = true) (h : Settled pat p) :
    AuthLayer.excludes pat (norm p) = true := by
  rcases h with hfree | ⟨base, hw, hbelow⟩
  · rwa [norm_of_dotFree hfree]
  · obtain ⟨t, t', -, hnorm, -⟩ := norm_of_staysBelow hbelow
    exact (AuthLayer.excludes_wild hw _).mpr ⟨'/' :: t', hnorm⟩

theorem isMatch_norm {E : Regex.Engine ρ} (hE : E.Documented) {pat p : Text} {r : ρ}
    (hr : E.new (Router.pattern E pat) = .ok r) (hm : E.isMatch r p = true) (h : Settled pat p) :
    E.isMatch r (norm p) = true := by
  rcases h with hfree | ⟨base, hw, hbelow⟩
  · rwa [norm_of_dotFree hfree]
  · obtain ⟨t, t', hp, hnorm, hchars⟩ := norm_of_staysBelow hbelow
    rw [Router.isMatch_wild hE hw hr] at hm ⊢
    refine Or.inr ⟨t', hnorm, fun hn => ?_⟩
    rcases hm with hm | ⟨t₀, hm, hno⟩
    · rw [hp] at hm
      exact absurd (List.append_right_eq_self.mp hm) (by simp)
    · cases List.append_cancel_left (hp.symm.trans hm)
      exact (hchars _ hn).elim (by decide) hno

/-- What a wildcard over a path with a dot segment stands for does not hold the normal form. -/
theorem norm_not_append {r : Text} (h : ¬ DotFree (Text.pieces ('/' :: r) '/')) (t : Text) :
    norm ('/' :: r) ≠ '/' :: r ++ t := by
  intro he
  have hlt := norm_shorter h
  rw [he, List.length_append] at hlt
  omega

/-- **Decisions and normal forms.**  In every gateway, a path that a pattern of the auth layer
excludes stays excluded, and one that a route's pattern matches stays matched, if it is settled
under that pattern.  And for every path with a dot segment there is a pattern that excludes and
matches the path, but neither excludes nor matches its normal form. -/
theorem decisions_survive_norm (hE : L.regex.Documented) {d d' : δ}
    (hnew : new L config d = .ok (g, d')) (p : Text) :
    (∀ auth, g.authLayer = some auth → ∀ pat ∈ auth.config.excludedPaths,
      AuthLayer.excludes pat p = true → Settled pat p → auth.isExcludedPath (norm p) = true) ∧
    (∀ entry ∈ g.router.routes, L.regex.isMatch entry.pathRegex p = true →
      Settled entry.config.path p → L.regex.isMatch entry.pathRegex (norm p) = true) ∧
    ∀ t, p = '/' :: t → ¬ DotFree (Text.pieces p '/') → ∃ pat,
      (AuthLayer.excludes pat p = true ∧ AuthLayer.excludes pat (norm p) = false) ∧
      ∀ r, L.regex.new (Router.pattern L.regex pat) = .ok r →
        L.regex.isMatch r p = true ∧ L.regex.isMatch r (norm p) = false := by
  refine ⟨fun auth _ pat hpat hx hs => ?_, fun entry hentry hm hs => ?_, fun t hp hdots => ?_⟩
  · exact List.any_eq_true.mpr ⟨pat, hpat, excludes_norm hx hs⟩
  · obtain ⟨-, hregex⟩ := Router.compile_spec (new_built hnew).routes
    exact isMatch_norm hE (hregex entry hentry) hm hs
  -- the path itself, as the base of a wildcard: its normal form is too short to lie below
  · subst hp
    have hw : Glob.Wild ('/' :: t ++ "/**".toList) ('/' :: t) := Or.inl rfl
    refine ⟨'/' :: t ++ "/**".toList, ⟨(AuthLayer.excludes_wild hw _).mpr ⟨[], by simp⟩, ?_⟩,
      fun r hr => ⟨(Router.isMatch_wild hE hw hr _).mpr (Or.inl rfl), ?_⟩⟩
    · refine Bool.eq_false_iff.mpr fun h => ?_
      obtain ⟨rest, hrest⟩ := (AuthLayer.excludes_wild hw _).mp h
      exact norm_not_append hdots rest hrest
    · refine Bool.eq_false_iff.mpr fun h => ?_
      rcases (Router.isMatch_wild hE hw hr _).mp h with h | ⟨rest, h, -⟩
      · exact norm_not_append hdots [] (by rw [h, List.append_nil])
      · exact norm_not_append hdots _ h

/-- Everything below `/api` is routed, and everything below `/api/auth` excluded. -/
def loginAuth : AuthConfig := { AuthLayer.pinned with excludedPaths := ["/api/auth/**".toList] }

def loginLayer : AuthLayer := ⟨loginAuth, some AuthLayer.secret.utf8⟩

def loginGateway : Gateway Regex.Re (Text → Nat) (List (Text × CachedResponse)) Unit Unit :=
  plainGateway apiRoutes (some loginAuth) none (some loginLayer)

theorem decisions_survive_norm_login :
    norm "/api/auth/v1/%2e%2e/login" = "/api/auth/login".toList ∧
      loginLayer.isExcludedPath (norm "/api/auth/v1/%2e%2e/login") = true := by
  have hsettled : Settled "/api/auth/**" "/api/auth/v1/%2e%2e/login" :=
    Or.inr ⟨"/api/auth", Or.inl rfl, "v1/%2e%2e/login", rfl, Or.inr ⟨"api/auth", rfl, by decide,
      by decide⟩⟩
  exact ⟨by decide, (decisions_survive_norm Regex.reference_documented
    (new_plain tokenLibraries.tokens apiRoutes (some loginAuth) none rfl)
    "/api/auth/v1/%2e%2e/login").1 loginLayer rfl "/api/auth/**"
    List.mem_cons_self (by decide) hsettled⟩

/-- A request without a token goes upstream as `/api/auth/../admin`, an excluded path; its normal
form, `/api/admin`, is not excluded. -/
theorem excluded_climbs_out :
    new tokenLibraries (plainConfig apiRoutes (some loginAuth) none) () = .ok (loginGateway, ()) ∧
    (∃ out, .send out ∈ (loginGateway.handleRequest tokenLibraries
        (Router.plainGet "/api/auth/../admin") peer "id" (freshWorld 0)).events ∧
      out.url = "http://localhost:3000/api/auth/../admin".toList) ∧
    ¬ (loginLayer.isExcludedPath "/api/auth/../admin" = true →
      loginLayer.isExcludedPath (norm "/api/auth/../admin") = true) := by
  have hsends := plain_sends (J := tokenLibraries.tokens) peer "id" 0
    (show (Router.ofRoutes apiRoutes : Router Regex.Re Unit).matchRoute _
      (Router.plainGet "/api/auth/../admin") () = (some apiMatch, ()) by decide) rfl
    (show loginGateway.authenticate _ (0 / RateLimit.nanos)
      (Router.plainGet "/api/auth/../admin") = .ok (Router.plainGet "/api/auth/../admin") from rfl)
    (show _ = Except.ok [] from rfl) rfl
  exact ⟨new_plain _ _ _ _ rfl, ⟨_, hsends ▸ List.mem_singleton_self _, by decide⟩, by decide⟩

end MiniGateway.Gateway
