import MiniGateway.Properties.Accounting
import MiniGateway.Properties.Enforcement
import MiniGateway.Properties.Interleaving
import MiniGateway.Properties.Limiting

/-!
# Properties — Server

The gateway at work, with all its connections, in every interleaving.

* `active_eq`: what the gauge of the connections shows, if deltas add up.
* `gates_interleaved`: what is served has passed every stage in front.
* `identity_interleaved`, `requestId_interleaved`: what is sent names its own user and its own
  request.
* `window_interleaved`: the limiter's bound, for each key.
* `upstream_load`: a limiter with one key for all bounds what the upstreams get.
-/

namespace MiniGateway

open Http RateLimit Tasks

/-- The sends among the events. -/
def sends (events : List Event) : Nat :=
  events.countP fun e => match e with
    | .send _ => true
    | _ => false

/-- The checks among the events that were passed. -/
def passes (events : List Event) : Nat := (ticks events).countP (·.2)

theorem sends_append (e₁ e₂ : List Event) : sends (e₁ ++ e₂) = sends e₁ + sends e₂ :=
  List.countP_append

theorem ticks_append (e₁ e₂ : List Event) : ticks (e₁ ++ e₂) = ticks e₁ ++ ticks e₂ :=
  List.filterMap_append

theorem passes_append (e₁ e₂ : List Event) : passes (e₁ ++ e₂) = passes e₁ + passes e₂ := by
  rw [passes, ticks_append, List.countP_append]
  rfl

namespace Server

variable {lim κ υ δ : Type}

/-- What the requests did, all of them, in the order it happened. -/
def events (s : Server lim κ υ δ) : List Event := s.trace.map (·.2)

/-- The checks of the limiter, with their times. -/
def calls (s : Server lim κ υ δ) : List (Text × Nat) :=
  s.trace.filterMap fun e => match e.2 with
    | .tick key _ => some (key, e.1)
    | _ => none

/-- The times at which a check of `key` was passed. -/
def passed (key : Text) (s : Server lim κ υ δ) : List Nat :=
  s.trace.filterMap fun e => match e.2 with
    | .tick k true => if k = key then some e.1 else none
    | _ => none

end Server

namespace Gateway

variable {ρ lim κ υ δ : Type} {L : Libraries ρ lim κ υ δ} {g : Gateway ρ lim κ υ δ}
  {w : World lim κ υ δ} {tls : Bool} {pool : Pool (Server lim κ υ δ) Conn}

/-! ### The gauge of the connections -/

/-- Every step keeps the balance of the deltas. -/
theorem active_balances (L : Libraries ρ lim κ υ δ) (g : Gateway ρ lim κ υ δ) (tls : Bool) :
    Balances (Server.system L g tls) (fun _ => True) (fun _ _ => True)
      (fun s => s.deltas.sum - s.panicked) (fun _ => 1) where
  moves _ _ h := by
    rw [weight_one]
    cases h <;> simp only [Server.recordActiveConnections, Server.after, Option.toList,
      List.length_cons, List.length_nil, List.sum_append, List.sum_singleton] <;> omega
  starts _ h := by
    cases h
    simp only [Server.recordActiveConnections, List.sum_append, List.sum_singleton]
    omega
  changes _ h := by
    cases h <;> rfl

/-- **What the deltas come to**: the connections there are, and one for each panic. -/
theorem deltas_sum (hr : Reachable (Server.system L g tls) (.init w) pool) :
    pool.shared.deltas.sum = pool.tasks.length + pool.shared.panicked := by
  have hsum := Reachable.balance .trivial (active_balances L g tls) trivial hr
  rw [weight_one] at hsum
  have hinit : (Server.init w).deltas.sum - (Server.init w).panicked = 0 := rfl
  omega

/-- **What the gauge of the connections shows**, where deltas add up: the connections there are, and
a panic for ever.  In every interleaving. -/
theorem active_eq {R : Recorder} (hR : R.GaugeAddsUp)
    (hr : Reachable (Server.system L g tls) (.init w) pool) :
    R.gauge pool.shared.deltas = pool.tasks.length + pool.shared.panicked := by
  rw [hR.gauge_eq, deltas_sum hr]

/-- One connection. -/
theorem active_eq_one : ∃ pool,
    Reachable (Server.system sharedLibraries sharedGateway false) (.init (freshWorld 0)) pool ∧
      pool.shared.deltas = [1] ∧ Recorder.adding.gauge pool.shared.deltas = 1 := by
  have haccept : Reachable (Server.system sharedLibraries sharedGateway false)
      (.init (freshWorld 0))
      ⟨(Server.init (freshWorld 0)).recordActiveConnections 1, [Conn.idle]⟩ :=
    .single (.start [] (Server.Accepts.accept rfl))
  exact ⟨_, haccept, rfl, active_eq Recorder.adding_gaugeAddsUp haccept⟩

/-! ### The gates -/

variable {config : GatewayConfig}

/-- What comes first is the check of the limiter. -/
theorem limited_head {rl : RateLimitLayer lim} (hr : g.rateLimitLayer = some rl)
    (route : RouteMatch) (metrics : RequestMetrics) (req : Request) (w : World lim κ υ δ)
    {e : Event} (he : e ∈ (g.limited route metrics req w).events) (hs : e.Serves) :
    (g.limited route metrics req w).events.head? =
      some (.tick (RateLimitLayer.requestKey rl.keyStrategy req) true) := by
  rcases limited_cases route metrics req w g with ⟨hnone, -⟩ | ⟨rl', l, hr', -, h⟩ |
      ⟨rl', l, -, -, h⟩
  · rw [hr] at hnone
    cases hnone
  · rw [hr] at hr'
    cases hr'
    rw [h]
    rfl
  · rw [h] at he
    rw [List.mem_singleton.mp he] at hs
    exact absurd hs id

/-- What is served, on any connection: it is no preflight, the auth stage let it pass at some time
since it came in, as `req'`, and what is sent is `req'`; a limiter was asked first. -/
theorem served_interleaved (hr : Reachable (Server.system L g tls) (.init w) pool) {h : Handling}
    (hh : .busy h ∈ pool.tasks) {e : Event} (he : e ∈ h.events) (hs : e.Serves) :
    g.preflight (g.stampRequestId h.requestId h.request) = none ∧
      ∃ now req', h.arrived ≤ now ∧ now ≤ pool.shared.world.now ∧
        g.authenticate L.tokens (now / nanos) (g.stampRequestId h.requestId h.request) =
          .ok req' ∧
        (∀ out, e = .send out → ∃ route, ProxyClient.Relays route req' out) ∧
        ∀ rl, g.rateLimitLayer = some rl →
          h.events.head? = some (.tick (RateLimitLayer.requestKey rl.keyStrategy req') true) := by
  obtain ⟨script, harrived, hnow, hprefix, -⟩ := (explained_of_reachable hr hh).serial peer
  have hfull := hprefix.subset he
  obtain ⟨route, d'', hroute, -⟩ := route_of_mem hfull
  rw [handleRequest_routed _ _ _ hroute] at hfull hprefix
  obtain ⟨hp, req', ha, hlim⟩ := routed_of_mem hfull
  rw [hlim] at hfull hprefix
  refine ⟨hp, script.now, req', harrived, hnow, ha, fun out hout => ⟨route, ?_⟩, fun rl hrl => ?_⟩
  · exact (limited_served route _ req' _ _ hfull hs).2 out hout
  · have hrl' : g.scripted.rateLimitLayer = some ⟨Script.limiter, rl.keyStrategy⟩ := by
      simp only [scripted, hrl, Option.map_some]
    have hhead := limited_head hrl' route _ req' _ hfull hs
    obtain ⟨rest, hrest⟩ := hprefix
    cases hev : h.events with
    | nil => rw [hev] at he; cases he
    | cons e' es =>
        rw [← hrest, hev] at hhead
        exact hhead

/-- **The gates hold in every interleaving.**  What is sent or answered out of the cache, for a
request on any connection, is no preflight from an allowed origin, was authorized at some time
since it came in, and was admitted by the limiter before anything else was done for it, under the
key of the request the auth stage let pass. -/
theorem gates_interleaved {d d' : δ} (hnew : new L config d = .ok (g, d'))
    (hr : Reachable (Server.system L g tls) (.init w) pool) {h : Handling}
    (hh : .busy h ∈ pool.tasks) {e : Event} (he : e ∈ h.events) (hs : e.Serves) :
    ¬ g.IsPreflight (g.stampRequestId h.requestId h.request) ∧
      ∃ now, h.arrived ≤ now ∧ now ≤ pool.shared.world.now ∧
        g.Authorized L.tokens (now / nanos) (g.stampRequestId h.requestId h.request) ∧
        ∃ req', g.authenticate L.tokens (now / nanos)
            (g.stampRequestId h.requestId h.request) = .ok req' ∧
          ∀ rl, g.rateLimitLayer = some rl →
            h.events.head? = some (.tick (RateLimitLayer.requestKey rl.keyStrategy req') true) := by
  obtain ⟨hp, now, req', harrived, hnow, ha, -, htick⟩ := served_interleaved hr hh he hs
  exact ⟨(preflight_eq_none_iff _ _).mp hp, now, harrived, hnow,
    (authorized_iff (new_built hnew) _ _ _).mpr ⟨req', ha⟩, req', ha, htick⟩

/-- Of two requests that overlap, the one that is sent was checked first, and admitted. -/
theorem gates_interleaved_overlapping : ∃ pool h₁ h₂,
    Reachable (Server.system sharedLibraries sharedGateway false) (.init (freshWorld 0)) pool ∧
      pool.tasks = [.busy h₂, .busy h₁] ∧ h₁.events = [.tick "global" false] ∧
      .send usersRequest ∈ h₂.events ∧
      ¬ sharedGateway.IsPreflight (sharedGateway.stampRequestId h₂.requestId h₂.request) ∧
      h₂.events.head? = some (.tick "global" true) := by
  obtain ⟨s, h₁, h₂, hr, hfirst, hsecond, -⟩ := shared_overlapping
  have hsend : .send usersRequest ∈ h₂.events := by rw [hsecond.events]; simp
  obtain ⟨hpre, now, -, -, -, req', -, htick⟩ := gates_interleaved (h := h₂)
    (new_plain (TokenDecoder.ofSigned []) apiRoutes none (some ⟨true, 1, 1, .global⟩) rfl) hr
    (by simp) hsend trivial
  exact ⟨_, h₁, h₂, hr, rfl, hfirst.events, hsend, hpre, htick _ rfl⟩

/-! ### Who a request is from -/

/-- **Who a request is from, in every interleaving.**  With tokens asked for, what is sent for a
request on a path that is not excluded was sent for a token of that very request, signed with the
secret and not run out when it was looked at; and the user id that goes upstream is the one of this
token, whatever the client or the requests beside it said. -/
theorem identity_interleaved (hJ : L.tokens.Documented) {d d' : δ}
    (hnew : new L config d = .ok (g, d')) {a : AuthConfig} {auth : AuthLayer}
    {secret : Text} {issuer audience : Option Text} (ha : config.auth = some a)
    (hen : a.enabled = true) (hp : a.provider = .jwt secret issuer audience)
    (hlayer : AuthLayer.new a = .ok auth) (hr : Reachable (Server.system L g tls) (.init w) pool)
    {h : Handling} (hh : .busy h ∈ pool.tasks) {out : OutRequest} (hsend : .send out ∈ h.events)
    (hpath : auth.isExcludedPath h.request.uri.path = false) :
    ∃ token c now, AuthLayer.extractToken (g.stampRequestId h.requestId h.request) = some token ∧
      h.arrived ≤ now ∧ now ≤ pool.shared.world.now ∧
      L.tokens.verify token secret.utf8 = .ok c ∧
      AuthLayer.Passable (now / nanos) issuer audience c ∧
      ∀ v, HeaderValue.fromStr c.sub = some v → out.headers.getAll userIdName = [v] := by
  have hb := new_built hnew
  have hl : g.authLayer = some auth := hb.authLayer_eq_some_iff.mpr ⟨a, ha, hen, hlayer⟩
  obtain ⟨-, now, req', harrived, hnow, hok, hrel, -⟩ := served_interleaved hr hh hsend trivial
  obtain ⟨route, hrelays⟩ := hrel out rfl
  rcases authenticate_cases hb L.tokens (now / nanos) (g.stampRequestId h.requestId h.request) with
    ⟨hopen, -⟩ | ⟨auth', token, c, hl', -, ht, hv, hpass⟩ | ⟨-, message, herr⟩
  -- nothing else lets the request pass without a token
  · rcases hopen with hnone | ⟨auth', hl', hx⟩
    · rw [hl] at hnone
      cases hnone
    · rw [hl] at hl'
      cases hl'
      rw [stampRequestId_uri, hpath] at hx
      cases hx
  · rw [hl] at hl'
    cases hl'
    obtain ⟨hverify, hpassable⟩ := (AuthLayer.validateJwt_eq_ok_iff hJ hp hlayer _ _ _).mp hv
    refine ⟨token, c, now, ht, harrived, hnow, hverify, hpassable, fun v hsub => ?_⟩
    cases hok.symm.trans hpass
    rw [userId_of_relays hrelays, getAll_userId_withUserId hsub]
    rfl
  · cases hok.symm.trans herr

/-- Tokens asked for, and no limiter. -/
def tokenGateway : Gateway Regex.Re (Text → Nat) (List (Text × CachedResponse)) Unit Unit :=
  plainGateway apiRoutes (some AuthLayer.pinned) none (some AuthLayer.pinnedLayer)

/-- The claims of another user. -/
def otherClaims : Claims := { AuthLayer.fullClaims with sub := "user456" }

/-- `otherClaims`, signed with `secret`. -/
def otherToken : Text :=
  "eyJ0eXAiOiJKV1QiLCJhbGciOiJIUzI1NiJ9.".toList ++
    "eyJzdWIiOiJ1c2VyNDU2IiwiZXhwIjoyMDAwMDAwMDAwLCJpYXQiOjE3MDAwMDAwMDAs".toList ++
    "ImlzcyI6InRlc3QiLCJhdWQiOiJhcGkifQ.".toList ++
    "FDwVVjlQM5xkAfdnA9IKQVA8ljsmzUTywtvvL2dP50Y".toList

def otherValue : HeaderValue := ⟨Text.utf8 "user456", by decide⟩

/-- Libraries that know the tokens of both. -/
def bothTokens : List ((Text × Bytes) × Claims) :=
  [((AuthLayer.fullToken, AuthLayer.secret.utf8), AuthLayer.fullClaims),
    ((otherToken, AuthLayer.secret.utf8), otherClaims)]
def bothLibraries : Libraries Regex.Re (Text → Nat) (List (Text × CachedResponse)) Unit Unit :=
  plainLibraries (TokenDecoder.ofSigned bothTokens)

theorem bothTokens_full : (TokenDecoder.ofSigned bothTokens).verify AuthLayer.fullToken
    AuthLayer.secret.utf8 = .ok AuthLayer.fullClaims := by
  rw [TokenDecoder.ofSigned, bothTokens]
  simp only [List.lookup_cons_self]

theorem bothTokens_other : (TokenDecoder.ofSigned bothTokens).verify otherToken
    AuthLayer.secret.utf8 = .ok otherClaims := by
  have hne : ((otherToken, AuthLayer.secret.utf8) == (AuthLayer.fullToken,
      AuthLayer.secret.utf8)) = false := by decide +kernel
  rw [TokenDecoder.ofSigned, bothTokens]
  simp only [List.lookup_cons, hne, BEq.rfl]

/-- A request with a signed token that has not run out is sent, once. -/
theorem token_sends {token : Text} {c : Claims} (htoken : '&' ∉ token)
    (hverify : (TokenDecoder.ofSigned bothTokens).verify token AuthLayer.secret.utf8 = .ok c)
    (hexp : 1700000000 ≤ c.exp + 60) (hiss : c.iss = some "test".toList)
    (haud : c.aud = some "api".toList) (id : Text)
    {w : World (Text → Nat) (List (Text × CachedResponse)) Unit Unit}
    (hnow : w.now = 1700000000 * nanos) :
    (∃ out, (tokenGateway.handleRequest bothLibraries (tokenGet "/api/users" token) peer id
      w).events = [.send out]) ∧
    (tokenGateway.handleRequest bothLibraries (tokenGet "/api/users" token) peer id w).world.now =
      w.now := by
  have hsecs : w.now / nanos = 1700000000 := by rw [hnow]; decide
  have hpass : AuthLayer.Passable 1700000000 (some "test".toList) (some "api".toList) c := by
    refine ⟨hexp, ?_, ?_⟩
    · rintro i x ⟨⟩ hx
      exact Option.some.inj (hx.symm.trans hiss)
    · intro x hx
      exact haud.symm.trans hx
  have haccepts : AuthLayer.pinnedLayer.validateJwt (TokenDecoder.ofSigned bothTokens) 1700000000
      token = .ok c :=
    (AuthLayer.validateJwt_eq_ok_iff (TokenDecoder.ofSigned_documented bothTokens)
      (rfl : AuthLayer.pinned.provider = _) rfl _ _ _).mpr ⟨hverify, hpass⟩
  have hauth : tokenGateway.authenticate bothLibraries.tokens (w.now / nanos)
      (tokenGet "/api/users" token) = .ok (withUserId (tokenGet "/api/users" token) c) := by
    rw [hsecs, authenticate]
    simp only [tokenGateway, plainGateway, bothLibraries, plainLibraries,
      extractToken_tokenGet "/api/users" htoken, haccepts]
    rfl
  have hroute : (Router.ofRoutes apiRoutes : Router Regex.Re Unit).matchRoute Regex.reference
      (tokenGet "/api/users" token) () = (some apiMatch, ()) := rfl
  have hforwards := plain_forwards (J := TokenDecoder.ofSigned bothTokens) peer id w hroute hauth
  have hbody : (withUserId (tokenGet "/api/users" token) c).body = .ok [] := by
    rw [withUserId]
    split <;> rfl
  rw [tokenGateway, bothLibraries, hforwards]
  exact ⟨⟨_, plain_forward_sends _ _ rfl hbody rfl⟩, rfl⟩

/-- Of two users whose requests overlap, each goes upstream under its own name. -/
theorem identity_interleaved_overlapping : ∃ pool h₁ h₂ out₁ out₂,
    Reachable (Server.system bothLibraries tokenGateway false)
      (.init (freshWorld (1700000000 * nanos))) pool ∧
    pool.tasks = [.busy h₂, .busy h₁] ∧ .send out₁ ∈ h₁.events ∧ .send out₂ ∈ h₂.events ∧
    out₁.headers.getAll userIdName = [userValue] ∧
    out₂.headers.getAll userIdName = [otherValue] := by
  have hfull : '&' ∉ AuthLayer.fullToken := by decide +kernel
  have hother : '&' ∉ otherToken := by decide +kernel
  have hroute : ∀ d, tokenGateway.router.matchRoute bothLibraries.regex
      (tokenGet "/api/users" AuthLayer.fullToken) d = (some apiMatch, d) := fun _ => rfl
  obtain ⟨s, h₁, h₂, hr, hsecond, hfirst, -⟩ := overlapping bothLibraries tokenGateway
    (tokenGet "/api/users" AuthLayer.fullToken) (tokenGet "/api/users" otherToken) peer "id-1"
    "id-2" (freshWorld (1700000000 * nanos)) hroute
  obtain ⟨⟨out₂, hsent₂⟩, hnow⟩ := token_sends hother bothTokens_other (by decide) rfl rfl "id-2"
    (w := freshWorld (1700000000 * nanos)) rfl
  obtain ⟨⟨out₁, hsent₁⟩, -⟩ := token_sends hfull bothTokens_full (by decide) rfl rfl "id-1" hnow
  have hsend₁ : .send out₁ ∈ h₁.events := by
    rw [hfirst.events, hsent₁]
    exact List.mem_singleton_self _
  have hsend₂ : .send out₂ ∈ h₂.events := by
    rw [hsecond.events, hsent₂]
    exact List.mem_singleton_self _
  have hlayer : AuthLayer.new AuthLayer.pinned = .ok AuthLayer.pinnedLayer := rfl
  have hnew : new bothLibraries (plainConfig apiRoutes (some AuthLayer.pinned) none) () =
      .ok (tokenGateway, ()) :=
    new_plain (TokenDecoder.ofSigned bothTokens) apiRoutes (some AuthLayer.pinned) none rfl
  obtain ⟨token₁, c₁, -, ht₁, -, -, hv₁, -, hid₁⟩ := identity_interleaved (h := h₁)
    (TokenDecoder.ofSigned_documented bothTokens) hnew rfl rfl rfl hlayer hr (by simp) hsend₁
    (by rw [hfirst.request]; rfl)
  obtain ⟨token₂, c₂, -, ht₂, -, -, hv₂, -, hid₂⟩ := identity_interleaved (h := h₂)
    (TokenDecoder.ofSigned_documented bothTokens) hnew rfl rfl rfl hlayer hr (by simp) hsend₂
    (by rw [hsecond.request]; rfl)
  -- each token is the one of its own request
  rw [hfirst.request] at ht₁
  cases (extractToken_tokenGet "/api/users" hfull).symm.trans ht₁
  cases bothTokens_full.symm.trans hv₁
  rw [hsecond.request] at ht₂
  cases (extractToken_tokenGet "/api/users" hother).symm.trans ht₂
  cases bothTokens_other.symm.trans hv₂
  exact ⟨_, h₁, h₂, out₁, out₂, hr, rfl, hsend₁, hsend₂, hid₁ userValue (by decide),
    hid₂ otherValue (by decide)⟩

/-- **Which request it is, in every interleaving.**  What is sent for a request carries its own id,
and nothing else, under the configured name, whatever the client put there and however often it is
sent — unless that name is not passed on at all. -/
theorem requestId_interleaved {d d' : δ} (hnew : new L config d = .ok (g, d')) {header : Text}
    {n : HeaderName} (hheader : config.logging.requestIdHeader = some header)
    (hn : HeaderName.parse header = some n) (huser : n ≠ userIdName)
    (hr : Reachable (Server.system L g tls) (.init w) pool) {h : Handling}
    (hh : .busy h ∈ pool.tasks) {v : HeaderValue} (hv : HeaderValue.fromStr h.requestId = some v)
    {out : OutRequest} (hsend : .send out ∈ h.events) :
    out.headers.getAll n = if n.text ∈ ProxyClient.filtered then [] else [v] := by
  have hb := new_built hnew
  obtain ⟨-, now, req', -, -, hok, hrel, -⟩ := served_interleaved hr hh hsend trivial
  obtain ⟨route, hrelays⟩ := hrel out rfl
  have hstamp : (g.stampRequestId h.requestId h.request).headers.getAll n = [v] := by
    rw [stampRequestId, hb.config_eq, hheader]
    simp only [hn, hv]
    rw [HeaderMap.getAll_insert, if_pos rfl]
  -- the auth stage writes the user id, and leaves other names alone
  have hkept : req'.headers.getAll n = [v] := by
    rcases authenticate_cases hb L.tokens (now / nanos)
        (g.stampRequestId h.requestId h.request) with
      ⟨-, hpass⟩ | ⟨auth', token, c, -, -, -, -, hpass⟩ | ⟨-, message, herr⟩
    · cases hok.symm.trans hpass
      exact hstamp
    · cases hok.symm.trans hpass
      rw [withUserId]
      split
      · rw [HeaderMap.getAll_insert, if_neg (Ne.symm huser)]
        exact hstamp
      · exact hstamp
    · cases hok.symm.trans herr
  rw [hrelays.headers, ProxyClient.getAll_copyHeaders, n.toLower_text, hkept]
  simp only [List.contains_eq_mem, decide_eq_true_eq]
  rfl

/-- One route, and a name for the request id. -/
def stampedConfig : GatewayConfig :=
  { plainConfig apiRoutes none none with logging := ⟨some "x-request-id"⟩ }

def stampedGateway : Gateway Regex.Re (Text → Nat) (List (Text × CachedResponse)) Unit Unit :=
  { plainGateway apiRoutes none none none with config := stampedConfig }

theorem new_stamped : new sharedLibraries stampedConfig () = .ok (stampedGateway, ()) := by
  have hrouter : Router.new sharedLibraries.regex stampedConfig.routes =
      .ok (Router.ofRoutes apiRoutes : Router Regex.Re Unit) := Router.new_reference apiRoutes
  rw [new, hrouter]
  rfl

def requestIdName : HeaderName := ⟨"x-request-id".toList, by decide⟩

/-- What is sent for a request of that id. -/
def stampedRequest (v : HeaderValue) : OutRequest :=
  ⟨.get, "http://localhost:3000/api/users", HeaderMap.empty.insert requestIdName v, [], none⟩

def firstId : HeaderValue := ⟨Text.utf8 "id-1", by decide⟩
def secondId : HeaderValue := ⟨Text.utf8 "id-2", by decide⟩

/-- Two requests that overlap are sent under their own ids. -/
theorem requestId_interleaved_overlapping : ∃ pool h₁ h₂ out₁ out₂,
    Reachable (Server.system sharedLibraries stampedGateway false) (.init (freshWorld 0)) pool ∧
      pool.tasks = [.busy h₂, .busy h₁] ∧ h₁.requestId = "id-1" ∧ h₂.requestId = "id-2" ∧
      .send out₁ ∈ h₁.events ∧ .send out₂ ∈ h₂.events ∧
      out₁.headers.getAll requestIdName = [firstId] ∧
      out₂.headers.getAll requestIdName = [secondId] := by
  have hroute : ∀ d, stampedGateway.router.matchRoute sharedLibraries.regex usersGet d =
      (some apiMatch, d) := shared_routes
  obtain ⟨s, h₁, h₂, hr, hsecond, hfirst, -⟩ := overlapping sharedLibraries stampedGateway usersGet
    usersGet peer "id-1" "id-2" (freshWorld 0) hroute
  have hsent : ∀ w, (stampedGateway.handleRequest sharedLibraries usersGet peer "id-1" w).events =
      [.send (stampedRequest firstId)] := fun _ => rfl
  have hsent' : ∀ w, (stampedGateway.handleRequest sharedLibraries usersGet peer "id-2" w).events =
      [.send (stampedRequest secondId)] := fun _ => rfl
  have hsend₁ : .send (stampedRequest firstId) ∈ h₁.events := by
    rw [hfirst.events, hsent]
    exact List.mem_singleton_self _
  have hsend₂ : .send (stampedRequest secondId) ∈ h₂.events := by
    rw [hsecond.events, hsent']
    exact List.mem_singleton_self _
  have hvalue₁ := requestId_interleaved (h := h₁) (n := requestIdName) (v := firstId) new_stamped
    rfl (by decide) (by decide) hr (by simp) (by rw [hfirst.requestId]; decide) hsend₁
  have hvalue₂ := requestId_interleaved (h := h₂) (n := requestIdName) (v := secondId) new_stamped
    rfl (by decide) (by decide) hr (by simp) (by rw [hsecond.requestId]; decide) hsend₂
  rw [if_neg (by decide)] at hvalue₁ hvalue₂
  exact ⟨_, h₁, h₂, _, _, hr, rfl, hfirst.requestId, hsecond.requestId, hsend₁, hsend₂, hvalue₁,
    hvalue₂⟩

/-! ### The limiter -/

theorem ticks_pause (request : OutRequest) (backoff : Option Nat) (attempt : Nat) :
    ticks (.send request :: ProxyClient.pause backoff attempt) = [] := by
  cases backoff <;> rfl

/-- **What a step does with the limiter**: nothing; or it asks, for a request it has let pass. -/
theorem advance_ticks (id : Text) (w : World lim κ υ δ) (stage : Stage) :
    ((g.advance L id w stage).world.limiter = w.limiter ∧
      ticks (g.advance L id w stage).events = []) ∨
    ∃ rl route metrics req, stage = .limiting route metrics req ∧ g.rateLimitLayer = some rl ∧
      (g.advance L id w stage).events = [.tick (RateLimitLayer.requestKey rl.keyStrategy req)
        (rl.limiter.checkKey w.limiter (RateLimitLayer.requestKey rl.keyStrategy req) w.now).1] ∧
      (g.advance L id w stage).world.limiter =
        (rl.limiter.checkKey w.limiter (RateLimitLayer.requestKey rl.keyStrategy req) w.now).2 := by
  have h := advance_advances (L := L) (g := g) id w stage
  generalize g.advance L id w stage = p at h ⊢
  cases h with
  | @admitted route metrics req rl l hr hl =>
      exact Or.inr ⟨rl, route, metrics, req, rfl, hr, by rw [hl], by rw [hl]⟩
  | @refused route metrics req rl l hr hl =>
      exact Or.inr ⟨rl, route, metrics, req, rfl, hr, by rw [hl], by rw [hl]; rfl⟩
  | unprepared h => cases h <;> exact Or.inl ⟨rfl, rfl⟩
  | prepared h => cases h <;> exact Or.inl ⟨rfl, rfl⟩
  | again => exact Or.inl ⟨rfl, ticks_pause _ _ _⟩
  | concluded h => cases h <;> exact Or.inl ⟨rfl, rfl⟩
  | _ => exact Or.inl ⟨rfl, rfl⟩

/-- **The invariant of the limiter**: it is as the checks so far left it, they came in order, and
each was answered by the verdict on those of its key before it. -/
structure Limited (limiter : KeyedLimiter lim) (verdict : List Nat → Nat → Bool) (start : Nat)
    (s : Server lim κ υ δ) : Prop where
  limiter_eq : s.world.limiter = limiter.after s.calls
  ordered : (s.calls.map (·.2)).Pairwise (· ≤ ·)
  start_le : start ≤ s.world.now
  between : ∀ c ∈ s.calls, start ≤ c.2 ∧ c.2 ≤ s.world.now
  passed_eq : ∀ key, s.passed key = admitted verdict [] (timesOf s.calls key)

theorem calls_after (s : Server lim κ υ δ) (p : Progress lim κ υ δ) :
    (s.after p).calls = s.calls ++ (ticks p.events).map fun t => (t.1, s.world.now) := by
  rw [Server.calls, Server.after, List.filterMap_append]
  refine congrArg (s.calls ++ ·) ?_
  simp only [ticks, List.filterMap_map, List.map_filterMap]
  refine List.filterMap_congr fun e _ => ?_
  cases e <;> rfl

theorem passed_after (key : Text) (s : Server lim κ υ δ) (p : Progress lim κ υ δ) :
    (s.after p).passed key = s.passed key ++ (ticks p.events).filterMap fun t =>
      if t.2 = true ∧ t.1 = key then some s.world.now else none := by
  rw [Server.passed, Server.after, List.filterMap_append]
  refine congrArg (s.passed key ++ ·) ?_
  simp only [ticks, List.filterMap_map, List.filterMap_filterMap]
  refine List.filterMap_congr fun e _ => ?_
  cases e with
  | tick k admitted => cases admitted <;> simp
  | lookup k hit => rfl
  | send out => rfl
  | sleep ms => rfl

section Limited

variable {rl : RateLimitLayer lim} {verdict : List Nat → Nat → Bool} {start : Nat}

theorem Limited.init (hw : w.limiter = rl.limiter.fresh) :
    Limited rl.limiter verdict w.now (.init w : Server lim κ υ δ) where
  limiter_eq := hw
  ordered := List.Pairwise.nil
  start_le := Nat.le_refl _
  between c hc := by cases hc
  passed_eq key := rfl

/-- What does not concern the limiter. -/
theorem Limited.congr {s s' : Server lim κ υ δ} (h : Limited rl.limiter verdict start s)
    (hlim : s'.world.limiter = s.world.limiter) (hnow : s.world.now ≤ s'.world.now)
    (hcalls : s'.calls = s.calls) (hpassed : ∀ key, s'.passed key = s.passed key) :
    Limited rl.limiter verdict start s' where
  limiter_eq := by rw [hlim, hcalls]; exact h.limiter_eq
  ordered := by rw [hcalls]; exact h.ordered
  start_le := Nat.le_trans h.start_le hnow
  between c hc := by
    rw [hcalls] at hc
    exact ⟨(h.between c hc).1, Nat.le_trans (h.between c hc).2 hnow⟩
  passed_eq key := by rw [hpassed, hcalls]; exact h.passed_eq key

/-- A check, answered by the verdict. -/
theorem Limited.check {s : Server lim κ υ δ} {p : Progress lim κ υ δ} {key : Text}
    (h : Limited rl.limiter verdict start s) (hv : rl.limiter.Independent verdict)
    (hevents : p.events = [.tick key (rl.limiter.checkKey s.world.limiter key s.world.now).1])
    (hlim : p.world.limiter = (rl.limiter.checkKey s.world.limiter key s.world.now).2)
    (hnow : p.world.now = s.world.now) : Limited rl.limiter verdict start (s.after p) := by
  have hcalls : (s.after p).calls = s.calls ++ [(key, s.world.now)] := by
    rw [calls_after, hevents]
    rfl
  have hanswer : (rl.limiter.checkKey s.world.limiter key s.world.now).1 =
      verdict (timesOf s.calls key) s.world.now := by
    rw [h.limiter_eq]
    exact hv s.calls key s.world.now
  refine ⟨?_, ?_, ?_, fun c hc => ?_, fun key' => ?_⟩
  · rw [hcalls, KeyedLimiter.after_append, ← h.limiter_eq]
    exact hlim
  · rw [hcalls, List.map_append, List.pairwise_append]
    refine ⟨h.ordered, List.pairwise_singleton _ _, fun t ht t' ht' => ?_⟩
    obtain ⟨c, hc, rfl⟩ := List.mem_map.mp ht
    rw [List.mem_singleton.mp ht']
    exact (h.between c hc).2
  · show start ≤ p.world.now
    rw [hnow]
    exact h.start_le
  · show start ≤ c.2 ∧ c.2 ≤ p.world.now
    rw [hnow]
    rw [hcalls] at hc
    rcases List.mem_append.mp hc with hc | hc
    · exact h.between c hc
    · rw [List.mem_singleton.mp hc]
      exact ⟨h.start_le, Nat.le_refl _⟩
  · rw [passed_after, hcalls, timesOf_append, admitted_append, h.passed_eq key', hevents]
    refine congrArg (admitted verdict [] (timesOf s.calls key') ++ ·) ?_
    by_cases hk : key = key'
    · subst hk
      have htimes : timesOf [(key, s.world.now)] key = [s.world.now] := by simp [timesOf]
      rw [htimes, hanswer]
      cases hverdict : verdict (timesOf s.calls key) s.world.now <;>
        simp [ticks, admitted, hverdict]
    · simp [ticks, timesOf, hk, admitted]

theorem limited_keeps (hr : g.rateLimitLayer = some rl) (hv : rl.limiter.Independent verdict) :
    Keeps (Server.system L g tls) (Limited rl.limiter verdict start) fun _ _ => True where
  moves {s c s' c'} hs _ hmove := by
    refine ⟨?_, fun _ _ => trivial, fun _ _ => trivial⟩
    cases hmove with
    | @advance h p hopen hp =>
        subst hp
        have hnow := (advance_late (L := L) (g := g) h.requestId s.world h.stage).2
        rcases advance_ticks (L := L) (g := g) h.requestId s.world h.stage with ⟨hlim, hquiet⟩ |
          ⟨rl', route, metrics, req, -, hr', hevents, hlim⟩
        · refine hs.congr hlim (Nat.le_of_eq hnow.symm) ?_ fun key => ?_
          · rw [calls_after, hquiet]
            exact List.append_nil _
          · rw [passed_after, hquiet]
            exact List.append_nil _
        · rw [hr] at hr'
          cases hr'
          exact hs.check hv hevents hlim hnow
    | secured => exact hs
    | refused => exact hs.congr rfl (Nat.le_refl _) rfl fun _ => rfl
    | request req id => exact hs
    | reply hr => exact hs
    | panic he => exact hs.congr rfl (Nat.le_refl _) rfl fun _ => rfl
    | closed => exact hs.congr rfl (Nat.le_refl _) rfl fun _ => rfl
    | dropped hno => exact hs.congr rfl (Nat.le_refl _) rfl fun _ => rfl
  starts hs hstart := by
    refine ⟨?_, trivial, fun _ _ => trivial⟩
    cases hstart
    exact hs.congr rfl (Nat.le_refl _) rfl fun _ => rfl
  changes hs hchange := by
    refine ⟨?_, fun _ _ => trivial⟩
    cases hchange with
    | world now k u d h => exact hs.congr rfl h rfl fun _ => rfl
    | failed => exact hs.congr rfl (Nat.le_refl _) rfl fun _ => rfl

end Limited

/-- The limiter of a section that is enabled, and what it documents. -/
theorem Built.limited (hb : Built L config g) (hkeyed : ∀ q, (L.keyed q).Documented q)
    {limits : RateLimitConfig} (hlimits : config.rateLimit = some limits)
    (hen : limits.enabled = true)
    (hw : w.limiter =
      (L.keyed (RateLimitLayer.quota limits.requestsPerSecond limits.burstSize)).fresh)
    (hr : Reachable (Server.system L g tls) (.init w) pool) :
    ∃ rl verdict, g.rateLimitLayer = some rl ∧ rl.keyStrategy = limits.keyStrategy ∧
      Limited rl.limiter verdict w.now pool.shared ∧
      Bounded (RateLimitLayer.quota limits.requestsPerSecond limits.burstSize) verdict := by
  have hrl := hb.rateLimitLayer_eq hlimits hen
  obtain ⟨verdict, hv, hbound⟩ :=
    hkeyed (RateLimitLayer.quota limits.requestsPerSecond limits.burstSize)
  exact ⟨_, verdict, hrl, rfl,
    (Reachable.keeps (limited_keeps hrl hv) (Limited.init hw) hr).1, hbound⟩

theorem Limited.pairwise_timesOf {limiter : KeyedLimiter lim} {verdict : List Nat → Nat → Bool}
    {start : Nat} {s : Server lim κ υ δ} (h : Limited limiter verdict start s) (key : Text) :
    (timesOf s.calls key).Pairwise (· ≤ ·) := by
  rw [timesOf, List.pairwise_filterMap]
  refine (List.pairwise_map.mp h.ordered).imp fun {c c'} hle t ht t' ht' => ?_
  split at ht
  · split at ht'
    · cases ht
      cases ht'
      exact hle
    · cases ht'
  · cases ht

/-- **The limiter's bound holds in every interleaving.**  However requests on any number of
connections overlap, of the checks of one key in a window of length `T` at most
`burst + rate · T` are passed. -/
theorem window_interleaved (hkeyed : ∀ q, (L.keyed q).Documented q) {d d' : δ}
    (hnew : new L config d = .ok (g, d')) {limits : RateLimitConfig}
    (hlimits : config.rateLimit = some limits) (hen : limits.enabled = true) {q : Quota}
    (hq : q = RateLimitLayer.quota limits.requestsPerSecond limits.burstSize)
    (hw : w.limiter = (L.keyed q).fresh)
    (hr : Reachable (Server.system L g tls) (.init w) pool) (key : Text) (s T : Nat) :
    inWindow s T (pool.shared.passed key) * nanos ≤ q.burst * nanos + q.rate * T := by
  subst hq
  obtain ⟨rl, verdict, -, -, hinv, hbound⟩ := (new_built hnew).limited hkeyed hlimits hen hw hr
  rw [hinv.passed_eq key]
  exact hbound _ (hinv.pairwise_timesOf key) s T

/-- Of the two checks of requests that overlap, one is passed. -/
theorem window_interleaved_overlapping : ∃ pool h₁ h₂,
    Reachable (Server.system sharedLibraries sharedGateway false) (.init (freshWorld 0)) pool ∧
      pool.tasks = [.busy h₂, .busy h₁] ∧
      pool.shared.calls = [("global".toList, 0), ("global".toList, 0)] ∧
      pool.shared.passed "global" = [0] ∧
      inWindow 0 0 (pool.shared.passed "global") * nanos ≤ 1 * nanos + 1 * 0 := by
  obtain ⟨s, h₁, h₂, hr, -, -, -, htrace⟩ := shared_overlapping
  refine ⟨_, h₁, h₂, hr, rfl, ?_, ?_, window_interleaved gcra_documented
    (new_plain (TokenDecoder.ofSigned []) apiRoutes none (some ⟨true, 1, 1, .global⟩) rfl) rfl rfl
    rfl rfl hr "global" 0 0⟩
  · rw [Server.calls, htrace]
    rfl
  · rw [Server.passed, htrace]
    rfl

/-! ### What the upstreams get -/

/-- The sends a stage behind the limiter can still make. -/
def sendsLeft : Stage → Nat
  | .lookingUp route _ _ => ProxyClient.attemptsOf route.retry
  | .sending s => s.left
  | _ => 0

/-- The route of a stage in front of the limiter has at most `most` attempts. -/
def Within (most : Nat) : Stage → Prop
  | .checking route _ => ProxyClient.attemptsOf route.retry ≤ most
  | .limiting route _ _ => ProxyClient.attemptsOf route.retry ≤ most
  | _ => True

theorem sends_pause (request : OutRequest) (backoff : Option Nat) (attempt : Nat) :
    sends (.send request :: ProxyClient.pause backoff attempt) = 1 := by
  cases backoff <;> rfl

/-- **A send is paid for**: by a check that was passed, which pays for as many as a route of the
gateway has attempts. -/
theorem advance_sends {rl : RateLimitLayer lim} (hr : g.rateLimitLayer = some rl) (id : Text)
    (w : World lim κ υ δ) {stage : Stage} (hw : Within g.maxAttempts stage) :
    sendsLeft (g.advance L id w stage).stage + sends (g.advance L id w stage).events ≤
        sendsLeft stage + g.maxAttempts * passes (g.advance L id w stage).events ∧
      Within g.maxAttempts (g.advance L id w stage).stage := by
  have h := advance_advances (L := L) (g := g) id w stage
  generalize g.advance L id w stage = p at h ⊢
  cases h with
  | matched h => exact ⟨Nat.zero_le _, attemptsOf_le h⟩
  | authenticated => exact ⟨Nat.zero_le _, hw⟩
  | unlimited hnone =>
      rw [hr] at hnone
      cases hnone
  | @admitted route metrics req rl l =>
      refine ⟨?_, trivial⟩
      have hpass : passes [.tick (RateLimitLayer.requestKey rl.keyStrategy req) true] = 1 := rfl
      rw [hpass, Nat.mul_one]
      exact Nat.le_trans hw (Nat.le_add_left _ _)
  | unprepared h => cases h <;> exact ⟨Nat.zero_le _, trivial⟩
  | prepared h => cases h <;> exact ⟨Nat.le_add_right _ _, trivial⟩
  | again hleft =>
      refine ⟨?_, trivial⟩
      rw [sends_pause]
      simp only [sendsLeft, hleft]
      exact Nat.le_add_right _ _
  | concluded h =>
      refine ⟨?_, trivial⟩
      cases h with
      | unsent => exact Nat.zero_le _
      | sent hleft =>
          simp only [sendsLeft, hleft]
          exact Nat.le_trans (Nat.succ_le_succ (Nat.zero_le _)) (Nat.le_add_right _ _)
  | _ => exact ⟨Nat.zero_le _, trivial⟩

/-- The same, of a connection. -/
def connSendsLeft : Conn → ℤ
  | .busy h => sendsLeft h.stage
  | .handshaking => 0
  | .idle => 0

def ConnWithin (most : Nat) : Conn → Prop
  | .busy h => Within most h.stage
  | .handshaking => True
  | .idle => True

theorem connSendsLeft_nonneg (c : Conn) : 0 ≤ connSendsLeft c := by
  cases c with
  | busy h => exact Int.natCast_nonneg _
  | handshaking => exact Int.le_refl _
  | idle => exact Int.le_refl _

theorem within_keeps {rl : RateLimitLayer lim} (hr : g.rateLimitLayer = some rl) :
    Keeps (Server.system L g tls) (fun _ => True) fun _ => ConnWithin g.maxAttempts where
  moves {s c s' c'} _ hc hmove := by
    refine ⟨trivial, fun u hu => ?_, fun _ h => h⟩
    subst hu
    cases hmove with
    | secured => trivial
    | request req id => trivial
    | @advance h p hopen hp =>
        subst hp
        exact (advance_sends hr h.requestId s.world hc).2
    | reply h => trivial
  starts _ hstart := by
    cases hstart
    refine ⟨trivial, ?_, fun _ h => h⟩
    cases tls <;> trivial
  changes _ _ := ⟨trivial, fun _ h => h⟩

theorem events_after (s : Server lim κ υ δ) (p : Progress lim κ υ δ) :
    (s.after p).events = s.events ++ p.events := by
  simp only [Server.events, Server.after, List.map_append, List.map_map, Function.comp_def,
    List.map_id']

/-- What the passed checks pay for, less what is spent. -/
def account (most : Nat) (s : Server lim κ υ δ) : ℤ :=
  most * passes s.events - sends s.events

theorem sends_covers {rl : RateLimitLayer lim} (hr : g.rateLimitLayer = some rl) :
    Covers (Server.system L g tls) (fun _ => True) (fun _ => ConnWithin g.maxAttempts)
      (account g.maxAttempts) connSendsLeft where
  moves {s c s' c'} _ hc hmove := by
    cases hmove with
    | secured => simp [connSendsLeft]
    | refused => simp [connSendsLeft, account, Server.events, Server.recordActiveConnections]
    | request req id => simp [connSendsLeft, sendsLeft]
    | @advance h p hopen hp =>
        subst hp
        have hpaid := (advance_sends (L := L) hr h.requestId s.world hc).1
        simp only [account, events_after, sends_append, passes_append, Option.toList_some,
          weight_cons, weight_nil, connSendsLeft]
        push_cast
        have hpaid' : (sendsLeft (g.advance L h.requestId s.world h.stage).stage : ℤ) +
            sends (g.advance L h.requestId s.world h.stage).events ≤ sendsLeft h.stage +
              g.maxAttempts * passes (g.advance L h.requestId s.world h.stage).events := by
          exact_mod_cast hpaid
        rw [Int.mul_add]
        omega
    | reply h => simp [connSendsLeft]
    | panic h => simp [connSendsLeft, account, Server.events]
    | closed => simp [connSendsLeft, account, Server.events, Server.recordActiveConnections]
    | dropped h => simp [connSendsLeft, account, Server.events, Server.recordActiveConnections]
  starts _ hstart := by
    cases hstart
    cases tls <;> exact Int.le_of_eq (Int.sub_self _).symm
  changes _ hchange := by
    cases hchange <;> exact Int.le_refl _

/-- **No more is sent than the checks passed pay for.** -/
theorem sends_le {rl : RateLimitLayer lim} (hrl : g.rateLimitLayer = some rl)
    (hr : Reachable (Server.system L g tls) (.init w) pool) :
    sends pool.shared.events ≤ g.maxAttempts * passes pool.shared.events := by
  have hle := Reachable.sum_le (within_keeps hrl) (sends_covers hrl) trivial hr
  have hnonneg := weight_nonneg connSendsLeft_nonneg pool.tasks
  have hinit : account g.maxAttempts (Server.init w) = 0 := by
    simp [account, Server.init, Server.events, passes, sends, ticks]
  rw [hinit, account] at hle
  have : (sends pool.shared.events : ℤ) ≤ g.maxAttempts * passes pool.shared.events := by omega
  exact_mod_cast this

/-- One key for all: every check is of that key. -/
theorem keyed_keeps {rl : RateLimitLayer lim} (hr : g.rateLimitLayer = some rl) {key : Text}
    (hkey : ∀ req, RateLimitLayer.requestKey rl.keyStrategy req = key) :
    Keeps (Server.system L g tls) (fun s => ∀ c ∈ s.calls, c.1 = key) fun _ _ => True where
  moves {s c s' c'} hs _ hmove := by
    refine ⟨?_, fun _ _ => trivial, fun _ _ => trivial⟩
    cases hmove with
    | @advance h p hopen hp =>
        subst hp
        intro c hc
        rw [calls_after] at hc
        rcases List.mem_append.mp hc with hc | hc
        · exact hs c hc
        · rcases advance_ticks (L := L) (g := g) h.requestId s.world h.stage with ⟨-, hquiet⟩ |
            ⟨rl', route, metrics, req, -, hr', hevents, -⟩
          · rw [hquiet] at hc
            cases hc
          · rw [hr] at hr'
            cases hr'
            rw [hevents] at hc
            rw [List.mem_singleton.mp hc]
            exact hkey req
    | secured => exact hs
    | refused => exact hs
    | request req id => exact hs
    | reply hr => exact hs
    | panic he => exact hs
    | closed => exact hs
    | dropped hno => exact hs
  starts hs hstart := by
    refine ⟨?_, trivial, fun _ _ => trivial⟩
    cases hstart
    exact hs
  changes hs hchange := by
    refine ⟨?_, fun _ _ => trivial⟩
    cases hchange <;> exact hs

/-- Every passed check is one of `key`, if there is no other. -/
theorem passes_eq_length {s : Server lim κ υ δ} {key : Text} (h : ∀ c ∈ s.calls, c.1 = key) :
    passes s.events = (s.passed key).length := by
  obtain ⟨world, deltas, listening, panicked, trace⟩ := s
  simp only [Server.events, Server.passed, Server.calls, passes] at h ⊢
  induction trace with
  | nil => rfl
  | cons e trace ih =>
      obtain ⟨t, e⟩ := e
      cases e with
      | tick k admitted =>
          have hk : k = key := h (k, t) (by simp)
          have hrest := ih fun c hc => h c (List.mem_cons_of_mem _ hc)
          cases admitted with
          | true => simpa [ticks, hk] using hrest
          | false => simpa [ticks] using hrest
      | lookup k hit => exact ih h
      | send out => exact ih h
      | sleep ms => exact ih h

/-- A check that is passed is one. -/
theorem mem_calls_of_passed {s : Server lim κ υ δ} {key : Text} {t : Nat}
    (h : t ∈ s.passed key) : (key, t) ∈ s.calls := by
  obtain ⟨⟨t', e⟩, he, h⟩ := List.mem_filterMap.mp h
  cases e with
  | tick k admitted =>
      cases admitted with
      | true =>
          simp only at h
          split at h
          · rename_i hk
            cases h
            exact List.mem_filterMap.mpr ⟨_, he, by rw [hk]⟩
          · cases h
      | false => cases h
  | lookup k hit => cases h
  | send out => cases h
  | sleep ms => cases h

/-- **The upstreams are protected.**  Where the limiter has one key for all, then however many
connections there are and however their requests overlap, what has been sent upstream — retries
and all — is at most the attempts of a route for each of the `burst + rate · t` checks that can
have been passed in the time `t` since the start. -/
theorem upstream_load (hkeyed : ∀ q, (L.keyed q).Documented q) {d d' : δ}
    (hnew : new L config d = .ok (g, d')) {limits : RateLimitConfig}
    (hlimits : config.rateLimit = some limits) (hen : limits.enabled = true)
    (hone : limits.keyStrategy = .global ∨ ∃ key, limits.keyStrategy = .custom key) {q : Quota}
    (hq : q = RateLimitLayer.quota limits.requestsPerSecond limits.burstSize)
    (hw : w.limiter = (L.keyed q).fresh)
    (hr : Reachable (Server.system L g tls) (.init w) pool) :
    sends pool.shared.events * nanos ≤
      g.maxAttempts * (q.burst * nanos + q.rate * (pool.shared.world.now - w.now)) := by
  subst hq
  obtain ⟨rl, verdict, hrl, hstrategy, hinv, hbound⟩ :=
    (new_built hnew).limited hkeyed hlimits hen hw hr
  obtain ⟨key, hkey⟩ : ∃ key, ∀ req, RateLimitLayer.requestKey rl.keyStrategy req = key := by
    rw [hstrategy]
    rcases hone with h | ⟨key, h⟩
    · exact ⟨"global".toList, fun req => by rw [h]; rfl⟩
    · exact ⟨key, fun req => by rw [h]; rfl⟩
  have hcalls := (Reachable.keeps (keyed_keeps hrl hkey) (fun c hc => by cases hc)
    hr).1
  have hwindow := hbound _ (hinv.pairwise_timesOf key) w.now (pool.shared.world.now - w.now)
  rw [← hinv.passed_eq key] at hwindow
  -- all the checks lie in the window from the start until now
  have hall : inWindow w.now (pool.shared.world.now - w.now) (pool.shared.passed key) =
      passes pool.shared.events := by
    rw [passes_eq_length hcalls, inWindow, List.countP_eq_length]
    intro t ht
    obtain ⟨hfrom, hto⟩ := hinv.between _ (mem_calls_of_passed ht)
    have hstart := hinv.start_le
    simp only at hfrom hto
    simp only [decide_eq_true_eq]
    omega
  rw [hall] at hwindow
  calc sends pool.shared.events * nanos
      ≤ g.maxAttempts * passes pool.shared.events * nanos :=
        Nat.mul_le_mul_right _ (sends_le hrl hr)
    _ = g.maxAttempts * (passes pool.shared.events * nanos) := Nat.mul_assoc _ _ _
    _ ≤ _ := Nat.mul_le_mul_left _ hwindow

/-- One route without retries, one request at once: of two that overlap one is sent. -/
theorem upstream_load_overlapping : ∃ pool,
    Reachable (Server.system sharedLibraries sharedGateway false) (.init (freshWorld 0)) pool ∧
      pool.tasks.length = 2 ∧ sends pool.shared.events = 1 ∧
      sends pool.shared.events * nanos ≤ 1 * (1 * nanos + 1 * (pool.shared.world.now - 0)) := by
  obtain ⟨s, h₁, h₂, hr, -, -, -, htrace⟩ := shared_overlapping
  have hload := upstream_load (g := sharedGateway) (q := RateLimitLayer.quota 1 1) gcra_documented
    (new_plain (TokenDecoder.ofSigned []) apiRoutes none (some ⟨true, 1, 1, .global⟩) rfl) rfl rfl
    (Or.inl rfl) rfl rfl hr
  have hmax : sharedGateway.maxAttempts = 1 := by decide
  rw [hmax] at hload
  refine ⟨_, hr, rfl, ?_, hload⟩
  rw [Server.events, htrace]
  rfl

end Gateway

end MiniGateway
