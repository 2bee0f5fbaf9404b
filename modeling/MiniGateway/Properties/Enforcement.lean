import MiniGateway.Properties.Pipeline

/-!
# Properties — Enforcement

What the auth section makes of the requests that are served.

* `userId_of_sent`: with an auth layer, the user id that goes upstream is the `sub` of the token
  that validated, on a path that is not excluded; on an excluded path the gateway leaves the
  header as the client sent it, last value only.
* `flagEnforced_iff`: the `auth_required` flag of a route is read by no stage.  Its routes ask for
  a token exactly under an auth section that is enabled, as all other routes do.
-/

namespace MiniGateway.Gateway

open Http RateLimit

variable {ρ lim κ υ δ : Type} {L : Libraries ρ lim κ υ δ} {config : GatewayConfig}
  {g : Gateway ρ lim κ υ δ}

/-- A request that causes an event has a route. -/
theorem route_of_mem {req : Request} {client : SocketAddr} {id : Text} {w : World lim κ υ δ}
    {e : Event} (he : e ∈ (g.handleRequest L req client id w).events) :
    ∃ route d, g.router.matchRoute L.regex req w.discovery = (some route, d) ∧
      e ∈ (g.routed L.tokens route (g.stampRequestId id req) { w with discovery := d }).events := by
  rcases hm : g.router.matchRoute L.regex req w.discovery with ⟨_ | route, d⟩
  · rw [handleRequest] at he
    simp only [matchRoute_stamp, hm] at he
    exact absurd he List.not_mem_nil
  · rw [handleRequest_routed req client id hm] at he
    exact ⟨route, d, rfl, he⟩

/-! ### The user id -/

theorem getAll_userId_withUserId {req : Request} {c : Claims} {v : HeaderValue}
    (h : HeaderValue.fromStr c.sub = some v) :
    (withUserId req c).headers.getAll userIdName = [v] := by
  rw [withUserId, h]
  exact (HeaderMap.getAll_insert _ _ _ _).trans (if_pos rfl)

/-- Of the values of the user id the last one goes upstream. -/
theorem userId_of_relays {route : RouteMatch} {req : Request} {out : OutRequest}
    (h : ProxyClient.Relays route req out) :
    out.headers.getAll userIdName = (req.headers.getAll userIdName).getLast?.toList := by
  rw [h.headers, ProxyClient.getAll_copyHeaders, if_neg (by decide)]

/-- **The user id that goes upstream**, from a gateway with an enabled auth section: on a path
that is not excluded, the `sub` of the token validated for this request, if it is a legal header
value; on an excluded path, the last user id of the request itself, or none. -/
theorem userId_of_sent {a : AuthConfig} {auth : AuthLayer} {d d' : δ}
    (hnew : new L config d = .ok (g, d')) (ha : config.auth = some a) (hen : a.enabled = true)
    (hlayer : AuthLayer.new a = .ok auth) {req : Request} {client : SocketAddr} {id : Text}
    {w : World lim κ υ δ} {out : OutRequest}
    (hsend : .send out ∈ (g.handleRequest L req client id w).events) :
    (auth.isExcludedPath req.uri.path = false → ∃ token c,
      AuthLayer.extractToken (g.stampRequestId id req) = some token ∧
      auth.validateJwt L.tokens (w.now / nanos) token = .ok c ∧
      ∀ v, HeaderValue.fromStr c.sub = some v → out.headers.getAll userIdName = [v]) ∧
    (auth.isExcludedPath req.uri.path = true → out.headers.getAll userIdName =
      ((g.stampRequestId id req).headers.getAll userIdName).getLast?.toList) := by
  have hb := new_built hnew
  have hl : g.authLayer = some auth := hb.authLayer_eq_some_iff.mpr ⟨a, ha, hen, hlayer⟩
  obtain ⟨route, d'', -, hmem⟩ := route_of_mem hsend
  obtain ⟨-, req', hok, -, hrel⟩ := served_spec hmem trivial
  have hid := userId_of_relays (hrel out rfl)
  rcases authenticate_cases hb L.tokens (w.now / nanos) (g.stampRequestId id req) with
    ⟨hopen, h⟩ | ⟨auth', token, c, hl', hx, ht, hv, h⟩ | ⟨-, message, h⟩
  -- the request went on as it was
  · cases hok.symm.trans h
    refine ⟨fun hx => ?_, fun _ => hid⟩
    rcases hopen with hnone | ⟨auth', hl', hx'⟩
    · rw [hl] at hnone; cases hnone
    · rw [hl] at hl'
      cases hl'
      rw [stampRequestId_uri, hx] at hx'
      cases hx'
  -- the request went on with the user id of the token
  · rw [hl] at hl'
    cases hl'
    cases hok.symm.trans h
    refine ⟨fun _ => ⟨token, c, ht, hv, fun v hsub => ?_⟩, fun hx' => ?_⟩
    · rw [hid, getAll_userId_withUserId hsub]
      rfl
    · rw [stampRequestId_uri, hx'] at hx
      cases hx
  · cases hok.symm.trans h

/-- `user123` as a header value. -/
def userValue : HeaderValue := ⟨Text.utf8 "user123", by decide⟩

/-- A request with a token in its query. -/
def tokenGet (path token : Text) : Request :=
  { Router.plainGet path with uri := ⟨none, none, path, some ("token=".toList ++ token)⟩ }

theorem extractToken_tokenGet (path : Text) {token : Text} (h : '&' ∉ token) :
    AuthLayer.extractToken (tokenGet path token) = some token := by
  have hno : '&' ∉ "token=".toList ++ token := fun hm =>
    (List.mem_append.mp hm).elim (by decide) h
  have hpieces : Text.pieces ("token=".toList ++ token) '&' = ["token=".toList ++ token] :=
    List.splitOn_eq_singleton hno
  show ((Text.pieces ("token=".toList ++ token) '&').find? (Text.startsWith · "token=")).map
    (List.drop 6) = some token
  rw [hpieces]
  rfl

/-- The token is one query argument. -/
theorem extractToken_fullToken (path : Text) :
    AuthLayer.extractToken (tokenGet path AuthLayer.fullToken) = some AuthLayer.fullToken :=
  extractToken_tokenGet path (by decide +kernel)

theorem userId_of_sent_full :
    ∃ out, .send out ∈ ((plainGateway apiRoutes (some AuthLayer.pinned) none
        (some AuthLayer.pinnedLayer)).handleRequest tokenLibraries
        (tokenGet "/api/users" AuthLayer.fullToken) peer "id"
        (freshWorld (1700000000 * nanos))).events ∧
      out.headers.getAll userIdName = [userValue] := by
  have htoken := extractToken_fullToken "/api/users"
  have hsecs : 1700000000 * nanos / nanos = 1700000000 := by decide
  have hauth : (plainGateway apiRoutes (some AuthLayer.pinned) none
      (some AuthLayer.pinnedLayer)).authenticate tokenLibraries.tokens
        (1700000000 * nanos / nanos) (tokenGet "/api/users" AuthLayer.fullToken) =
      .ok (withUserId (tokenGet "/api/users" AuthLayer.fullToken) AuthLayer.fullClaims) := by
    rw [hsecs, authenticate]
    simp only [plainGateway, plainLibraries, htoken, AuthLayer.pinnedLayer_accepts_full]
    rfl
  have hsends := plain_sends peer "id" _ (show (Router.ofRoutes apiRoutes :
    Router Regex.Re Unit).matchRoute _ (tokenGet "/api/users" AuthLayer.fullToken) () =
      (some apiMatch, ()) by decide) rfl hauth (show _ = Except.ok [] from rfl) rfl
  have hmem := hsends ▸ List.mem_singleton_self _
  have hid := userId_of_sent (new_plain tokenLibraries.tokens apiRoutes (some AuthLayer.pinned)
    none rfl) rfl rfl (show AuthLayer.new AuthLayer.pinned = .ok AuthLayer.pinnedLayer from rfl)
    hmem
  obtain ⟨token, c, ht, hv, hsub⟩ := hid.1 rfl
  cases htoken.symm.trans ht
  cases AuthLayer.pinnedLayer_accepts_full.symm.trans (hsecs ▸ hv)
  exact ⟨_, hmem, hsub userValue (by decide)⟩

/-- `pinned`, with everything below `/api/public` excluded. -/
def openPinned : AuthConfig := { AuthLayer.pinned with excludedPaths := ["/api/public/**".toList] }

/-- The layer of `openPinned`. -/
def openLayer : AuthLayer := ⟨openPinned, some AuthLayer.secret.utf8⟩

def openGateway : Gateway Regex.Re (Text → Nat) (List (Text × CachedResponse)) Unit Unit :=
  plainGateway apiRoutes (some openPinned) none (some openLayer)

/-- `GET /api/public/docs` with a user id and no token. -/
def forgedGet : Request :=
  { Router.plainGet "/api/public/docs" with headers := ⟨[(userIdName, userValue)]⟩ }

/-- The user id of the client goes upstream on an excluded path. -/
theorem forged_userId_sent :
    new tokenLibraries (plainConfig apiRoutes (some openPinned) none) () = .ok (openGateway, ()) ∧
    ¬ ∀ out, .send out ∈ (openGateway.handleRequest tokenLibraries forgedGet peer "id"
        (freshWorld 0)).events →
      out.headers.getAll userIdName = [] ∨ ∃ token c v,
        AuthLayer.extractToken forgedGet = some token ∧
        openLayer.validateJwt tokenLibraries.tokens 0 token = .ok c ∧
        HeaderValue.fromStr c.sub = some v ∧ out.headers.getAll userIdName = [v] := by
  refine ⟨new_plain _ _ _ _ rfl, fun h => ?_⟩
  have hsends := plain_sends peer "id" 0 (show (Router.ofRoutes apiRoutes :
    Router Regex.Re Unit).matchRoute _ forgedGet () = (some apiMatch, ()) by decide) rfl
    (show openGateway.authenticate tokenLibraries.tokens (0 / nanos) forgedGet = .ok forgedGet
      from rfl) (show _ = Except.ok [] from rfl) rfl
  rcases h _ (hsends ▸ List.mem_singleton_self _) with h | ⟨token, c, v, ht, -⟩
  · exact absurd h (by decide)
  · cases ht

/-! ### The `auth_required` flag -/

/-- The path of a request: empty, `*`, or starting with a slash. -/
def IsRequestPath (p : Text) : Prop := p = [] ∨ p = "*".toList ∨ ∃ t, p = '/' :: t

/-- The patterns of an auth section exclude the path. -/
def excludedBy (a : AuthConfig) (path : Text) : Bool :=
  a.excludedPaths.any (AuthLayer.excludes · path)

/-- **The flag is enforced** under an auth section: whatever else the configuration says, a
request that a flagged route takes, and that is no preflight and not on an excluded path, is
served only with a token that validates. -/
def FlagEnforced (auth : Option AuthConfig) : Prop :=
  ∀ (ρ lim κ υ δ : Type) (L : Libraries ρ lim κ υ δ) (config : GatewayConfig)
    (g : Gateway ρ lim κ υ δ) (d d' : δ), config.auth = auth → new L config d = .ok (g, d') →
  ∀ (req : Request) (client : SocketAddr) (id : Text) (w : World lim κ υ δ) (route : RouteMatch)
    (d'' : δ), IsRequestPath req.uri.path →
    g.router.matchRoute L.regex req w.discovery = (some route, d'') → route.authRequired = true →
    ¬ g.IsPreflight (g.stampRequestId id req) →
    (∀ a, auth = some a → excludedBy a req.uri.path = false) →
    (∃ e ∈ (g.handleRequest L req client id w).events, e.Serves) →
    ∃ a layer token c, auth = some a ∧ AuthLayer.new a = .ok layer ∧
      AuthLayer.extractToken (g.stampRequestId id req) = some token ∧
      layer.validateJwt L.tokens (w.now / nanos) token = .ok c

/-- A route for one path, with the flag set. -/
def flaggedRoute (path : Text) : RouteConfig :=
  { Router.plainRoute "flagged" path "http://localhost:3000" with authRequired := some true }

/-- The reference engine's router takes a request for the path a route is written for. -/
theorem matchRoute_own_path (path : Text) :
    (Router.ofRoutes [flaggedRoute path] : Router Regex.Re Unit).matchRoute Regex.reference
        (Router.plainGet path) () =
      (some (Router.routeMatch (flaggedRoute path) "http://localhost:3000"), ()) := by
  obtain ⟨-, hentry⟩ := Router.compile_spec (Router.compile_reference [flaggedRoute path])
  have hnew := hentry ⟨flaggedRoute path, Router.pathRe path⟩
    (by simp [flaggedRoute, Router.plainRoute])
  have hmatch : Regex.reference.isMatch (Router.pathRe path) path = true := by
    by_cases hw : ∃ base, Glob.Wild path base
    · obtain ⟨base, hw⟩ := hw
      rw [Router.isMatch_wild Regex.reference_documented hw hnew]
      rcases hw with h | h
      · exact Or.inr ⟨['*', '*'], h, by decide⟩
      · exact Or.inr ⟨['*'], h, by decide⟩
    · exact (Router.isMatch_plain Regex.reference_documented (fun base h => hw ⟨base, h⟩) hnew
        path).mpr rfl
  rw [Router.matchRoute_eq_find]
  have hacc : Router.entryAccepts Regex.reference (Router.plainGet path)
      ⟨flaggedRoute path, Router.pathRe path⟩ = true := Bool.and_eq_true_iff.mpr ⟨hmatch, rfl⟩
  show ([(⟨flaggedRoute path, Router.pathRe path⟩ : RouteEntry Regex.Re)].find? _).elim _ _ = _
  rw [List.find?_cons_of_pos hacc]
  rfl

/-- Where no auth layer is built, a flagged route serves requests without a token. -/
theorem not_flagEnforced {auth : Option AuthConfig} {p : Text}
    (hlayer : authLayerOf (plainConfig [flaggedRoute p] auth none) = .ok none)
    (hp : IsRequestPath p) (hx : ∀ a, auth = some a → excludedBy a p = false) :
    ¬ FlagEnforced auth := by
  intro h
  have hsends := plain_sends (J := tokenLibraries.tokens) peer "id" 0 (matchRoute_own_path p) rfl
    (show (plainGateway [flaggedRoute p] auth none none).authenticate _ (0 / nanos)
      (Router.plainGet p) = .ok (Router.plainGet p) from rfl) (show _ = Except.ok [] from rfl) rfl
  have hmem := hsends ▸ List.mem_singleton_self _
  obtain ⟨a, layer, token, c, -, -, ht, -⟩ := h _ _ _ _ _ _ _ _ _ _ rfl
    (new_plain _ _ _ _ hlayer) (Router.plainGet p) peer "id" (freshWorld 0) _ _ hp
    (matchRoute_own_path p) rfl (fun ⟨cors, hc, _⟩ => nomatch hc) hx
    ⟨_, hmem, trivial⟩
  cases ht

/-- **Where the flag is enforced.**  Exactly under an auth section that is enabled — or that
excludes every request path, and leaves nothing to enforce. -/
theorem flagEnforced_iff (auth : Option AuthConfig) :
    FlagEnforced auth ↔ ∃ a, auth = some a ∧
      (a.enabled = true ∨ ∀ p, IsRequestPath p → excludedBy a p = true) := by
  refine ⟨fun h => ?_, fun h => ?_⟩
  · cases auth with
    | none =>
        refine absurd h (not_flagEnforced (p := "/".toList) rfl (Or.inr (Or.inr ⟨[], rfl⟩)) ?_)
        rintro a ⟨⟩
    | some a =>
        refine ⟨a, rfl, ?_⟩
        cases hen : a.enabled with
        | true => exact Or.inl rfl
        | false =>
            -- a path that is left would be served without a token
            refine Or.inr fun p hp => ?_
            by_contra hx
            have hlayer : authLayerOf (plainConfig [flaggedRoute p] (some a) none) = .ok none := by
              simp [authLayerOf, plainConfig, hen]
            refine not_flagEnforced hlayer hp (fun a' ha' => ?_) h
            cases ha'
            exact Bool.eq_false_iff.mpr hx
  · obtain ⟨a, rfl, hor⟩ := h
    intro ρ lim κ υ δ L config g d d' ha hnew req client id w route d'' hp _ _ _ hx hserved
    obtain ⟨e, he, hs⟩ := hserved
    have hno := hx a rfl
    have hen : a.enabled = true := hor.resolve_right fun hall => by
      rw [hall _ hp] at hno
      cases hno
    have hb := new_built hnew
    obtain ⟨layer, hlayer, hconfig⟩ : ∃ layer, AuthLayer.new a = .ok layer ∧ layer.config = a :=
      ⟨_, rfl, rfl⟩
    have hl : g.authLayer = some layer := hb.authLayer_eq_some_iff.mpr ⟨a, ha, hen, hlayer⟩
    obtain ⟨route', d₀, -, hmem⟩ := route_of_mem he
    obtain ⟨-, req', hok, -⟩ := served_spec hmem hs
    rcases (authorized_iff hb _ _ _).mpr ⟨req', hok⟩ layer hl with hexcl | ⟨token, c, ht, hv⟩
    · rw [stampRequestId_uri, AuthLayer.isExcludedPath, hconfig] at hexcl
      rw [excludedBy, hexcl] at hno
      cases hno
    · exact ⟨a, layer, token, c, rfl, hlayer, ht, hv⟩

/-- Without an auth section, a flagged route sends a request that carries no token. -/
theorem flagged_sent_without_token :
    new tokenLibraries (plainConfig [flaggedRoute "/api/users"] none none) () =
        .ok (plainGateway [flaggedRoute "/api/users"] none none none, ()) ∧
      (∃ out, .send out ∈ ((plainGateway [flaggedRoute "/api/users"] none none none).handleRequest
        tokenLibraries (Router.plainGet "/api/users") peer "id" (freshWorld 0)).events) ∧
      AuthLayer.extractToken (Router.plainGet "/api/users") = none ∧ ¬ FlagEnforced none := by
  have hsends := plain_sends (J := tokenLibraries.tokens) peer "id" 0
    (matchRoute_own_path "/api/users") rfl
    (show (plainGateway [flaggedRoute "/api/users"] none none none).authenticate _ (0 / nanos)
      (Router.plainGet "/api/users") = .ok (Router.plainGet "/api/users") from rfl)
    (show _ = Except.ok [] from rfl) rfl
  refine ⟨new_plain _ _ _ _ rfl, ⟨_, hsends ▸ List.mem_singleton_self _⟩, rfl,
    not_flagEnforced (p := "/api/users".toList) rfl (Or.inr (Or.inr ⟨_, rfl⟩)) ?_⟩
  rintro a ⟨⟩

end MiniGateway.Gateway
