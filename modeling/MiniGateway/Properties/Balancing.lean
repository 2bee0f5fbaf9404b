import MiniGateway.Properties.Enforcement

/-!
# Properties — Balancing

Runs of requests along a route with several endpoints.  A `Visit` brings along the whole world it
finds, so a list of visits stands for every interleaving with other requests.

`resolve_upstream` leaves the choice of the endpoint to the proxy and hands on the first one; the
proxy asks for no other.  Every request of the route goes there (`sentTo_eq`), so the traffic is
spread only where there is nothing to spread (`balanced_iff`).
-/

namespace MiniGateway

open Http RateLimit

/-- A request, and the world it is handled in. -/
structure Visit (lim κ υ δ : Type) where
  client : SocketAddr
  request : Request
  requestId : Text
  world : World lim κ υ δ

/-- A send to a URL. -/
def Event.isSendTo (url : Text) : Event → Bool
  | .send out => out.url == url
  | _ => false

def Event.isSend : Event → Bool
  | .send _ => true
  | _ => false

namespace Gateway

variable {ρ lim κ υ δ : Type} (L : Libraries ρ lim κ υ δ) (g : Gateway ρ lim κ υ δ)

/-- What a visit leaves behind. -/
def visit (v : Visit lim κ υ δ) : Handled lim κ υ δ :=
  g.handleRequest L v.request v.client v.requestId v.world

/-- The request is taken by the route at place `i`. -/
def takenBy (i : Nat) (v : Visit lim κ υ δ) : Bool :=
  g.router.routes.findIdx? (Router.entryAccepts L.regex v.request) == some i

/-- The request is proxied on the route at place `i`. -/
def proxiedOn (i : Nat) (v : Visit lim κ υ δ) : Bool :=
  g.takenBy L i v && (g.visit L v).events.any Event.isSend

/-- The request is proxied on the route at place `i`, to an endpoint of it. -/
def sentTo (i : Nat) (route : RouteConfig) (endpoint : Text) (v : Visit lim κ υ δ) : Bool :=
  g.takenBy L i v && (g.visit L v).events.any (Event.isSendTo
    (ProxyClient.targetUrl (Router.routeMatch route endpoint) v.request.uri))

/-- **The run is balanced**: the numbers of requests sent to any two of the endpoints differ by one
at most. -/
def Balanced (i : Nat) (route : RouteConfig) (endpoints : List Text)
    (run : List (Visit lim κ υ δ)) : Prop :=
  ∀ x ∈ endpoints, ∀ y ∈ endpoints,
    run.countP (g.sentTo L i route x) ≤ run.countP (g.sentTo L i route y) + 1

variable {L g}

/-! ### One request -/

/-- What is sent goes to the upstream of the match. -/
theorem url_of_sent {req : Request} {client : SocketAddr} {id : Text} {w : World lim κ υ δ}
    {out : OutRequest} (h : .send out ∈ (g.handleRequest L req client id w).events) :
    ∃ route d, g.router.matchRoute L.regex req w.discovery = (some route, d) ∧
      out.url = ProxyClient.targetUrl route req.uri := by
  obtain ⟨route, d, hroute, hmem⟩ := route_of_mem h
  obtain ⟨-, req', ha, -, hrel⟩ := served_spec hmem trivial
  obtain ⟨headers, rfl⟩ := authenticate_headers ha
  refine ⟨route, d, hroute, ?_⟩
  rw [(hrel out rfl).url]
  exact congrArg _ (stampRequestId_uri g id req)

/-- Two endpoints make two targets. -/
theorem targetUrl_inj {route : RouteConfig} {x y : Text} {uri : Uri}
    (h : ProxyClient.targetUrl (Router.routeMatch route x) uri =
      ProxyClient.targetUrl (Router.routeMatch route y) uri) : x = y :=
  List.append_cancel_right (List.append_cancel_right h)

/-- The route at the place of the first entry that accepts is that entry. -/
theorem find_of_findIdx {entries : List (RouteEntry ρ)} {p : RouteEntry ρ → Bool} {i : Nat}
    {entry : RouteEntry ρ} (h : entries.findIdx? p = some i) (hi : entries[i]? = some entry) :
    entries.find? p = some entry := by
  obtain ⟨hlt, hp, hbefore⟩ := List.findIdx?_eq_some_iff_getElem.mp h
  obtain ⟨-, rfl⟩ := List.getElem?_eq_some_iff.mp hi
  refine List.find?_eq_some_iff_getElem.mpr ⟨hp, i, hlt, rfl, fun j hj => ?_⟩
  simpa using hbefore j hj

/-- **Every request of the route is sent to its first endpoint**, and to no other. -/
theorem sentTo_eq {i : Nat} {entry : RouteEntry ρ} {first : Text} {rest : List Text}
    {s : LoadBalanceStrategy} (hi : g.router.routes[i]? = some entry)
    (hup : entry.config.upstream = .loadBalance (first :: rest) s) (x : Text)
    (v : Visit lim κ υ δ) :
    g.sentTo L i entry.config x v = (g.proxiedOn L i v && decide (x = first)) := by
  rw [sentTo, proxiedOn, Bool.and_assoc]
  cases htaken : g.takenBy L i v with
  | false => rfl
  | true =>
      simp only [Bool.true_and]
      have hfind := find_of_findIdx (eq_of_beq htaken) hi
      -- the match of the request, whatever the state of the discovery
      have hmatch : g.router.matchRoute L.regex v.request v.world.discovery =
          (some (Router.routeMatch entry.config first), v.world.discovery) := by
        rw [Router.matchRoute_eq_find, hfind, Option.elim, Router.answer, hup,
          Router.resolveUpstream]
      have hurl : ∀ out, .send out ∈ (g.visit L v).events →
          out.url = ProxyClient.targetUrl (Router.routeMatch entry.config first) v.request.uri := by
        intro out hout
        obtain ⟨route, d, hroute, hurl⟩ := url_of_sent hout
        cases hmatch.symm.trans hroute
        exact hurl
      by_cases hx : x = first
      · subst hx
        rw [decide_eq_true rfl, Bool.and_true]
        rw [Bool.eq_iff_iff, List.any_eq_true, List.any_eq_true]
        refine exists_congr fun e => and_congr_right fun he => ?_
        cases e with
        | send out => exact iff_of_true (beq_iff_eq.mpr (hurl out he)) rfl
        | tick key admitted => exact Iff.rfl
        | lookup key hit => exact Iff.rfl
        | sleep ms => exact Iff.rfl
      · rw [decide_eq_false hx, Bool.and_false, List.any_eq_false]
        intro e he hsend
        cases e with
        | send out => exact hx (targetUrl_inj ((eq_of_beq hsend).symm.trans (hurl out he)))
        | tick key admitted => cases hsend
        | lookup key hit => cases hsend
        | sleep ms => cases hsend

/-! ### Runs -/

theorem countP_sentTo {i : Nat} {entry : RouteEntry ρ} {first : Text} {rest : List Text}
    {s : LoadBalanceStrategy} (hi : g.router.routes[i]? = some entry)
    (hup : entry.config.upstream = .loadBalance (first :: rest) s) (x : Text)
    (run : List (Visit lim κ υ δ)) :
    run.countP (g.sentTo L i entry.config x) =
      if x = first then run.countP (g.proxiedOn L i) else 0 := by
  have hfun : g.sentTo L i entry.config x =
      fun v => g.proxiedOn L i v && decide (x = first) := by
    funext v
    exact sentTo_eq hi hup x v
  rw [hfun]
  by_cases hx : x = first
  · simp [hx]
  · simp [hx]

/-- **When a run along a route with several endpoints is balanced**: exactly if at most one of its
requests is proxied on the route, or all the endpoints are the same. -/
theorem balanced_iff {i : Nat} {entry : RouteEntry ρ} {first : Text} {rest : List Text}
    {s : LoadBalanceStrategy} (hi : g.router.routes[i]? = some entry)
    (hup : entry.config.upstream = .loadBalance (first :: rest) s)
    (run : List (Visit lim κ υ δ)) :
    g.Balanced L i entry.config (first :: rest) run ↔
      run.countP (g.proxiedOn L i) ≤ 1 ∨ ∀ x ∈ rest, x = first := by
  rw [Balanced]
  simp only [countP_sentTo hi hup]
  refine ⟨fun h => ?_, fun h x hx y hy => ?_⟩
  · by_cases hsame : ∀ x ∈ rest, x = first
    · exact Or.inr hsame
    · -- an endpoint that gets nothing bounds what the first one gets
      simp only [not_forall] at hsame
      obtain ⟨y, hy, hne⟩ := hsame
      have hle := h first List.mem_cons_self y (List.mem_cons_of_mem _ hy)
      rw [if_pos rfl, if_neg hne] at hle
      exact Or.inl hle
  · rcases h with hone | hsame
    · split
      · split <;> omega
      · exact Nat.zero_le _
    · have hall : ∀ z ∈ first :: rest, z = first := by
        intro z hz
        rcases List.mem_cons.mp hz with rfl | hz
        · rfl
        · exact hsame z hz
      rw [if_pos (hall x hx), if_pos (hall y hy)]
      exact Nat.le_succ _

/-- The route of the documentation: two endpoints, in turn. -/
def lbRoute : RouteConfig :=
  { Router.plainRoute "lb_example" "/lb/**" "" with
    upstream := .loadBalance ["http://backend1:8080".toList, "http://backend2:8080".toList]
      .roundRobin }

/-- A request to it. -/
def lbVisit : Visit (Text → Nat) (List (Text × CachedResponse)) Unit Unit :=
  ⟨peer, Router.plainGet "/lb/a", "id", freshWorld 0⟩

/-- A single request is spread evenly. -/
theorem balanced_single :
    (plainGateway [lbRoute] none none none).Balanced tokenLibraries 0 lbRoute
      ["http://backend1:8080".toList, "http://backend2:8080".toList] [lbVisit] := by
  have hentry : (plainGateway [lbRoute] none none none).router.routes[0]? =
      some ⟨lbRoute, Router.pathRe lbRoute.path⟩ := rfl
  exact (balanced_iff hentry rfl [lbVisit]).mpr (Or.inl (by decide))

/-- Two requests are not: both go to the first endpoint. -/
theorem unbalanced_pair :
    new tokenLibraries (plainConfig [lbRoute] none none) () =
        .ok (plainGateway [lbRoute] none none none, ()) ∧
    ¬ (plainGateway [lbRoute] none none none).Balanced tokenLibraries 0 lbRoute
      ["http://backend1:8080".toList, "http://backend2:8080".toList] [lbVisit, lbVisit] := by
  refine ⟨new_plain _ _ _ _ rfl, fun h => ?_⟩
  have hle := h _ List.mem_cons_self _ (List.mem_cons_of_mem _ List.mem_cons_self)
  exact absurd hle (by decide)

end Gateway

end MiniGateway
