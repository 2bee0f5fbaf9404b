import MiniGateway.Properties.Enforcement
import MiniGateway.Source.Middleware

/-!
# Properties — Auth service

The auth stage of `handle_request` against `AuthService`.  Both are put in front of the same
service: they decide alike and hand on the same request — or give the same 401 — exactly where the
`sub` of a token that validates is a legal header value (`authStage_agrees_iff`).  Otherwise the
stage goes on without a user id, and the service panics.
-/

namespace MiniGateway.Gateway

open Http RateLimit

variable {ρ lim κ υ δ σ ε : Type} {g : Gateway ρ lim κ υ δ}

/-- The auth stage of `handle_request`, in front of a service. -/
def authStage (J : TokenDecoder) (now : Nat) (g : Gateway ρ lim κ υ δ) (next : Service σ ε) :
    Service σ ε where
  call s req :=
    match g.authenticate J now req with
    | .ok req' => next.call s req'
    | .error message => ((unauthorized message).map .ok, s)

/-- What follows the auth stage in `handle_request`. -/
def afterAuth (g : Gateway ρ lim κ υ δ) (route : RouteMatch) (metrics : RequestMetrics) :
    Service (World lim κ υ δ) Empty where
  call w req := ((g.limited route metrics req w).reply.map .ok,
    (g.limited route metrics req w).world)

/-- `handle_request` answers what the stage in front of the rest of the pipeline answers. -/
theorem routed_authStage (J : TokenDecoder) (route : RouteMatch) {req : Request}
    (w : World lim κ υ δ) (hp : g.preflight req = none) :
    (g.routed J route req w).reply.map .ok = ((g.authStage J (w.now / nanos) (g.afterAuth route
      ⟨req.method.text, req.uri.path, route.routeId⟩)).call w req).1 := by
  rw [routed, hp, authStage]
  simp only
  cases g.authenticate J (w.now / nanos) req <;> rfl

/-- The token of the request validates, under a layer that asks for one. -/
def Validates (J : TokenDecoder) (now : Nat) (auth : AuthLayer) (req : Request) (c : Claims) :
    Prop :=
  auth.config.enabled = true ∧ auth.isExcludedPath req.uri.path = false ∧
    ∃ token, AuthLayer.extractToken req = some token ∧ auth.validateJwt J now token = .ok c

/-- **What the two do with a request.**  They hand it on as it is; hand it on with a user id, where
that is legal — the stage as it is, and the service panics, where it is not; or reject it. -/
theorem authStage_cases {auth : AuthLayer} (hl : g.authLayer = some auth) (J : TokenDecoder)
    (now : Nat) (next : Service σ ε) (s : σ) (req : Request) :
    ((∀ c, ¬ Validates J now auth req c) ∧
      (g.authStage J now next).call s req = AuthService.call J now ⟨next, auth⟩ s req) ∨
    ∃ c, Validates J now auth req c ∧ (g.authStage J now next).call s req =
        next.call s (withUserId req c) ∧
      AuthService.call J now ⟨next, auth⟩ s req =
        (HeaderValue.fromStr c.sub).elim (.error .unwrap, s) fun value =>
          next.call s { req with headers := req.headers.insert userIdName value } := by
  simp only [authStage, AuthService.call, authenticate, hl]
  cases hen : auth.config.enabled with
  | false =>
      refine Or.inl ⟨?_, rfl⟩
      rintro c ⟨h, -⟩
      rw [hen] at h
      cases h
  | true =>
      cases hx : auth.isExcludedPath req.uri.path with
      | true =>
          refine Or.inl ⟨?_, rfl⟩
          rintro c ⟨-, h, -⟩
          rw [hx] at h
          cases h
      | false =>
          cases ht : AuthLayer.extractToken req with
          | none =>
              refine Or.inl ⟨?_, rfl⟩
              rintro c ⟨-, -, token, h, -⟩
              rw [ht] at h
              cases h
          | some token =>
              cases hv : auth.validateJwt J now token with
              | error e =>
                  refine Or.inl ⟨?_, by simp [hv]⟩
                  rintro c ⟨-, -, token', h, hv'⟩
                  cases ht.symm.trans h
                  rw [hv] at hv'
                  cases hv'
              | ok c =>
                  refine Or.inr ⟨c, ⟨hen, hx, token, ht, hv⟩, by simp [hv], ?_⟩
                  simp only [Bool.not_true, Bool.or_self, Bool.false_eq_true, if_false, hv]
                  cases HeaderValue.fromStr c.sub <;> rfl

/-- **Where the two implementations agree**: in front of every service, exactly if the `sub` of
the token, where it validates, is a legal header value. -/
theorem authStage_agrees_iff {auth : AuthLayer} (hl : g.authLayer = some auth) (J : TokenDecoder)
    (now : Nat) (req : Request) :
    (∀ (σ ε : Type) (next : Service σ ε) (s : σ),
      (g.authStage J now next).call s req = AuthService.call J now ⟨next, auth⟩ s req) ↔
    ∀ c, Validates J now auth req c → ∃ value, HeaderValue.fromStr c.sub = some value := by
  refine ⟨fun h c hc => ?_, fun h σ ε next s => ?_⟩
  · -- a service that only reports that it was reached tells the two apart
    have hsame := h Unit Unit ⟨fun s _ => (.ok (.error ()), s)⟩ ()
    rcases authStage_cases hl J now ⟨fun s _ => (.ok (.error ()), s)⟩ () req with ⟨hno, -⟩ |
        ⟨c', hc', hstage, hservice⟩
    · exact absurd hc (hno c)
    · obtain ⟨-, -, token, ht, hv⟩ := hc
      obtain ⟨-, -, token', ht', hv'⟩ := hc'
      cases ht.symm.trans ht'
      cases hv.symm.trans hv'
      rw [hstage, hservice] at hsame
      cases hsub : HeaderValue.fromStr c.sub with
      | some value => exact ⟨value, rfl⟩
      | none => rw [hsub] at hsame; cases hsame
  · rcases authStage_cases hl J now next s req with ⟨-, hsame⟩ | ⟨c, hc, hstage, hservice⟩
    · exact hsame
    · obtain ⟨value, hvalue⟩ := h c hc
      rw [hstage, hservice, withUserId, hvalue]
      rfl

/-- A service that answers with the headers it is given. -/
def headerService : Service Unit Text where
  call s req := (.ok (.ok ⟨.ok, req.headers, []⟩), s)

/-- The token of a plain user: both go on with `x-user-id: user123`. -/
theorem authStage_agrees_full :
    (guarded.authStage tokenLibraries.tokens 1700000000 headerService).call ()
        (tokenGet "/api/users" AuthLayer.fullToken) =
      AuthService.call tokenLibraries.tokens 1700000000 ⟨headerService, AuthLayer.pinnedLayer⟩ ()
        (tokenGet "/api/users" AuthLayer.fullToken) := by
  refine (authStage_agrees_iff rfl _ _ _).mpr ?_ Unit Text headerService ()
  rintro c ⟨-, -, token, ht, hv⟩
  cases (extractToken_fullToken "/api/users").symm.trans ht
  cases AuthLayer.pinnedLayer_accepts_full.symm.trans hv
  exact ⟨userValue, by decide⟩

/-- A subject with a line break in it. -/
def brokenClaims : Claims := { AuthLayer.fullClaims with sub := "user\n123" }

/-- `brokenClaims`, signed with `AuthLayer.secret`. -/
def brokenToken : Text :=
  "eyJ0eXAiOiJKV1QiLCJhbGciOiJIUzI1NiJ9.".toList ++
    "eyJzdWIiOiJ1c2VyXG4xMjMiLCJleHAiOjIwMDAwMDAwMDAsImlhdCI6MTcwMDAwMDAwMCwi".toList ++
    "aXNzIjoidGVzdCIsImF1ZCI6ImFwaSJ9.".toList ++
    "HSxbWEyJ1MKxwLJX5iUOlovdg-d7xdwNYPJKkY-5ogQ".toList

/-- The stage goes on, without a user id; the service panics. -/
theorem authStage_disagrees :
    ¬ ∀ (σ ε : Type) (next : Service σ ε) (s : σ),
      (guarded.authStage (AuthLayer.decoderOf brokenToken brokenClaims) 1700000000 next).call s
          (tokenGet "/api/users" brokenToken) =
        AuthService.call (AuthLayer.decoderOf brokenToken brokenClaims) 1700000000
          ⟨next, AuthLayer.pinnedLayer⟩ s (tokenGet "/api/users" brokenToken) := by
  intro h
  have hvalid : Validates (AuthLayer.decoderOf brokenToken brokenClaims) 1700000000
      AuthLayer.pinnedLayer (tokenGet "/api/users" brokenToken) brokenClaims := by
    have hexp : brokenClaims.exp = 2000000000 := rfl
    exact ⟨rfl, rfl, brokenToken, extractToken_tokenGet "/api/users" (by decide +kernel),
      AuthLayer.pinnedLayer_accepts brokenToken (by omega) rfl rfl⟩
  have hsame := h Unit Unit ⟨fun s _ => (.ok (.error ()), s)⟩ ()
  rcases authStage_cases (g := guarded) rfl (AuthLayer.decoderOf brokenToken brokenClaims)
    1700000000 ⟨fun s _ => (.ok (.error ()), s)⟩ () (tokenGet "/api/users" brokenToken) with
    ⟨hno, -⟩ | ⟨c, ⟨-, -, token, ht, hv⟩, hstage, hservice⟩
  · exact absurd hvalid (hno _)
  · obtain ⟨-, -, token', ht', hv'⟩ := hvalid
    cases ht.symm.trans ht'
    cases hv.symm.trans hv'
    rw [hstage, hservice, show HeaderValue.fromStr brokenClaims.sub = none by decide] at hsame
    cases hsame

end MiniGateway.Gateway
