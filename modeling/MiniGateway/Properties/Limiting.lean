import MiniGateway.Properties.Pipeline

/-!
# Properties — Limiting

Runs of requests against one limiter.  An `Arrival` brings along everything a request finds but
the state of the limiter — cache, upstream and discovery may have been changed by anyone in the
meantime — so a run of arrivals, in the order of their checks, stands for every interleaving.

The limiter of a run sees the calls `callsOf`, in order (`limiterAfter_eq`).  The key of a call
comes from the `x-forwarded-for` header and not from the client's address: the limiter limits
each client for itself in the runs in which that header tells the clients apart and no client
goes by two of them (`per_client_of_keyedByClient`).
-/

namespace MiniGateway

open Http RateLimit

/-- A request as it comes in, with all it will find but the limiter's state. -/
structure Arrival (κ υ δ : Type) where
  client : SocketAddr
  request : Request
  requestId : Text
  now : Nat
  cache : κ
  upstream : υ
  discovery : δ
  increments : List Sample

def Arrival.world {lim κ υ δ : Type} (a : Arrival κ υ δ) (l : lim) : World lim κ υ δ :=
  ⟨a.now, l, a.cache, a.upstream, a.discovery, a.increments⟩

namespace Gateway

variable {ρ lim κ υ δ : Type} (L : Libraries ρ lim κ υ δ) (g : Gateway ρ lim κ υ δ)

/-- Handling an arrival, in a state of the limiter. -/
def arrive (l : lim) (a : Arrival κ υ δ) : Handled lim κ υ δ :=
  g.handleRequest L a.request a.client a.requestId (a.world l)

/-- The state of the limiter after a run. -/
def limiterAfter (l : lim) (run : List (Arrival κ υ δ)) : lim :=
  run.foldl (fun l a => (g.arrive L l a).world.limiter) l

/-- The request an arrival asks the limiter about, if it gets that far. -/
def checkedRequest (a : Arrival κ υ δ) : Option Request :=
  match g.router.matchRoute L.regex a.request a.discovery with
  | (some _, _) =>
      if (g.preflight (g.stampRequestId a.requestId a.request)).isSome then none
      else (g.authenticate L.tokens (a.now / nanos)
        (g.stampRequestId a.requestId a.request)).toOption
  | (none, _) => none

/-- The key of that request. -/
def checkedKey (strategy : RateLimitKeyStrategy) (a : Arrival κ υ δ) : Option Text :=
  (g.checkedRequest L a).map (RateLimitLayer.requestKey strategy)

/-- The calls of the limiter in a run. -/
def callsOf (strategy : RateLimitKeyStrategy) (run : List (Arrival κ υ δ)) : List (Text × Nat) :=
  run.filterMap fun a => (g.checkedKey L strategy a).map fun key => (key, a.now)

/-- The times at which the requests of a client are checked. -/
def ownTimes (ip : Text) (run : List (Arrival κ υ δ)) : List Nat :=
  (run.filter fun a => a.client.ip = ip ∧ (g.checkedRequest L a).isSome).map (·.now)

/-- Is the arrival admitted by the limiter? -/
def isAdmitted (l : lim) (a : Arrival κ υ δ) : Bool := (ticks (g.arrive L l a).events).any (·.2)

/-- The times at which the requests of a client are admitted, in a run from `l` on. -/
def admittedTimes (ip : Text) : lim → List (Arrival κ υ δ) → List Nat
  | _, [] => []
  | l, a :: run => (if a.client.ip = ip ∧ g.isAdmitted L l a then [a.now] else []) ++
      admittedTimes ip (g.arrive L l a).world.limiter run

/-- **The keys of the run are its clients**: of two arrivals that are checked, the keys are the
same exactly if the clients' addresses are. -/
def KeyedByClient (strategy : RateLimitKeyStrategy) (run : List (Arrival κ υ δ)) : Prop :=
  ∀ a ∈ run, ∀ b ∈ run, ∀ key key', g.checkedKey L strategy a = some key →
    g.checkedKey L strategy b = some key' → (key = key' ↔ a.client.ip = b.client.ip)

variable {L g}

/-! ### One arrival -/

/-- **What an arrival does to the limiter**: one check, if it gets that far. -/
theorem arrive_spec {rl : RateLimitLayer lim} (hr : g.rateLimitLayer = some rl) (l : lim)
    (a : Arrival κ υ δ) :
    (g.checkedRequest L a = none ∧ ticks (g.arrive L l a).events = [] ∧
      (g.arrive L l a).world.limiter = l) ∨
    ∃ req, g.checkedRequest L a = some req ∧
      ticks (g.arrive L l a).events = [(RateLimitLayer.requestKey rl.keyStrategy req,
        (rl.limiter.checkKey l (RateLimitLayer.requestKey rl.keyStrategy req) a.now).1)] ∧
      (g.arrive L l a).world.limiter =
        (rl.limiter.checkKey l (RateLimitLayer.requestKey rl.keyStrategy req) a.now).2 := by
  rw [checkedRequest]
  rcases hm : g.router.matchRoute L.regex a.request a.discovery with ⟨_ | route, d⟩
  · have harrive : g.arrive L l a = ⟨notFound, { a.world l with discovery := d }, []⟩ := by
      rw [arrive, handleRequest]
      simp only [matchRoute_stamp, Arrival.world, hm]
    rw [harrive]
    exact Or.inl ⟨rfl, rfl, rfl⟩
  · have harrive : g.arrive L l a = g.routed L.tokens route
        (g.stampRequestId a.requestId a.request) { a.world l with discovery := d } :=
      handleRequest_routed _ _ _ hm
    have hnow : (a.world l).now = a.now := rfl
    rw [harrive]
    rcases routed_cases route (g.stampRequestId a.requestId a.request)
      { a.world l with discovery := d } g L.tokens with ⟨reply, hp, h⟩ | ⟨hp, message, ha, h⟩ |
        ⟨hp, req, ha, h⟩
    · rw [h]
      exact Or.inl ⟨by simp [hp], rfl, rfl⟩
    · rw [hnow] at ha
      rw [h]
      exact Or.inl ⟨by simp [hp, ha, Except.toOption], rfl, rfl⟩
    · rw [hnow] at ha
      rw [h]
      refine Or.inr ⟨req, by simp [hp, ha, Except.toOption], ?_⟩
      -- the layer is there, so the request is checked
      rcases limited_ticks route _ req { a.world l with discovery := d } g with ⟨hnone, -⟩ |
          ⟨rl', hr', ht, hl⟩
      · rw [hr] at hnone; cases hnone
      · rw [hr] at hr'
        cases hr'
        exact ⟨ht, hl⟩

/-! ### The two keys -/

/-- **Where the two ways to derive a key differ**: under `ip`, and nowhere else. -/
theorem extractKey_eq_requestKey_iff (strategy : RateLimitKeyStrategy) :
    (∀ req client, RateLimitLayer.extractKey strategy req (some client) =
      RateLimitLayer.requestKey strategy req) ↔ strategy ≠ .ip := by
  cases strategy with
  | ip =>
      refine iff_of_false (fun h => ?_) fun h => h rfl
      -- without the header, every client goes by one key
      exact absurd (h (Router.plainGet "/") ⟨"10.0.0.1", 8080⟩) (by decide)
  | global => exact iff_of_true (fun _ _ => rfl) (by rintro ⟨⟩)
  | header name => exact iff_of_true (fun _ _ => rfl) (by rintro ⟨⟩)
  | custom key => exact iff_of_true (fun _ _ => rfl) (by rintro ⟨⟩)

/-- Where the key of each request is the one `extract_key` takes from the client's address, the keys
are the clients. -/
theorem keyedByClient_of_extractKey {strategy : RateLimitKeyStrategy} {run : List (Arrival κ υ δ)}
    (h : ∀ a ∈ run, ∀ req, g.checkedRequest L a = some req →
      RateLimitLayer.requestKey strategy req =
        RateLimitLayer.extractKey .ip req (some a.client)) :
    g.KeyedByClient L strategy run := by
  intro a ha b hb key key' hkey hkey'
  obtain ⟨req, hreq, rfl⟩ := Option.map_eq_some_iff.mp hkey
  obtain ⟨req', hreq', rfl⟩ := Option.map_eq_some_iff.mp hkey'
  rw [h a ha req hreq, h b hb req' hreq']
  exact Iff.rfl

/-! ### Runs -/

theorem limiterAfter_append (l : lim) (run : List (Arrival κ υ δ)) (a : Arrival κ υ δ) :
    g.limiterAfter L l (run ++ [a]) = (g.arrive L (g.limiterAfter L l run) a).world.limiter := by
  rw [limiterAfter, List.foldl_append]
  rfl

theorem checkedKey_eq_some {strategy : RateLimitKeyStrategy} {a : Arrival κ υ δ} {req : Request}
    (h : g.checkedRequest L a = some req) :
    g.checkedKey L strategy a = some (RateLimitLayer.requestKey strategy req) := by
  rw [checkedKey, h]
  rfl

theorem checkedKey_eq_none {strategy : RateLimitKeyStrategy} {a : Arrival κ υ δ}
    (h : g.checkedRequest L a = none) : g.checkedKey L strategy a = none := by
  rw [checkedKey, h]
  rfl

/-- **The limiter of a run has seen the calls of the run.** -/
theorem limiterAfter_eq {rl : RateLimitLayer lim} (hr : g.rateLimitLayer = some rl)
    (run : List (Arrival κ υ δ)) :
    g.limiterAfter L rl.limiter.fresh run = rl.limiter.after (g.callsOf L rl.keyStrategy run) := by
  induction run using List.reverseRecOn with
  | nil => rfl
  | append_singleton run a ih =>
      rw [limiterAfter_append, callsOf, List.filterMap_append, ← callsOf]
      rcases arrive_spec (L := L) hr (g.limiterAfter L rl.limiter.fresh run) a with
        ⟨hreq, -, hl⟩ | ⟨req, hreq, -, hl⟩
      · rw [hl, ih]
        simp [checkedKey_eq_none hreq]
      · rw [hl, ih]
        simp [checkedKey_eq_some hreq, KeyedLimiter.after_append]

/-- Where the keys are the clients, the checks of a key are those of its client. -/
theorem timesOf_callsOf {strategy : RateLimitKeyStrategy} {key ip : Text}
    (run : List (Arrival κ υ δ)) (h : ∀ b ∈ run, ∀ key', g.checkedKey L strategy b = some key' →
      (key' = key ↔ b.client.ip = ip)) :
    timesOf (g.callsOf L strategy run) key = g.ownTimes L ip run := by
  induction run with
  | nil => rfl
  | cons b run ih =>
      have htail := ih fun b' hb' => h b' (List.mem_cons_of_mem b hb')
      rw [callsOf, ownTimes] at htail
      rw [callsOf, ownTimes, List.filterMap_cons, List.filter_cons]
      cases hb : g.checkedRequest L b with
      | none =>
          simp only [checkedKey_eq_none hb, Option.map_none, Option.isSome_none,
            Bool.false_eq_true, and_false, decide_false, if_false]
          exact htail
      | some req =>
          have hiff := h b List.mem_cons_self _ (checkedKey_eq_some hb)
          simp only [checkedKey_eq_some hb, Option.map_some, Option.isSome_some, and_true]
          by_cases hip : b.client.ip = ip
          · rw [if_pos (decide_eq_true hip), timesOf, List.filterMap_cons, hiff.mpr hip, if_pos rfl,
              List.map_cons, ← htail]
            rfl
          · rw [if_neg (by simpa using hip), timesOf, List.filterMap_cons,
              if_neg (mt hiff.mp hip), ← htail]
            rfl

theorem KeyedByClient.take {strategy : RateLimitKeyStrategy} {before after : List (Arrival κ υ δ)}
    {a : Arrival κ υ δ} (h : g.KeyedByClient L strategy (before ++ a :: after)) :
    g.KeyedByClient L strategy (before ++ [a]) := by
  have hsub : ∀ b ∈ before ++ [a], b ∈ before ++ a :: after := fun b hb => by
    rcases List.mem_append.mp hb with hb | hb
    · exact List.mem_append_left _ hb
    · exact List.mem_append_right _ (List.mem_singleton.mp hb ▸ List.mem_cons_self)
  exact fun b hb b' hb' => h b (hsub b hb) b' (hsub b' hb')

/-- A check is answered by the verdict on the earlier checks of its key. -/
theorem ticks_checked {rl : RateLimitLayer lim} (hr : g.rateLimitLayer = some rl)
    {verdict : List Nat → Nat → Bool} (hv : rl.limiter.Independent verdict)
    (before : List (Arrival κ υ δ)) {a : Arrival κ υ δ} {key : Text}
    (hkey : g.checkedKey L rl.keyStrategy a = some key) :
    ticks (g.arrive L (g.limiterAfter L rl.limiter.fresh before) a).events =
      [(key, verdict (timesOf (g.callsOf L rl.keyStrategy before) key) a.now)] := by
  rcases arrive_spec (L := L) hr (g.limiterAfter L rl.limiter.fresh before) a with
    ⟨hreq, -⟩ | ⟨req, hreq, ht, -⟩
  · rw [checkedKey_eq_none hreq] at hkey
    cases hkey
  · rw [checkedKey_eq_some hreq] at hkey
    cases hkey
    rw [ht, limiterAfter_eq hr, hv]

/-- **A check is answered by the verdict on the client's own earlier checks**, where the keys are
the clients. -/
theorem ticks_arrive {rl : RateLimitLayer lim} (hr : g.rateLimitLayer = some rl)
    {verdict : List Nat → Nat → Bool} (hv : rl.limiter.Independent verdict)
    {before : List (Arrival κ υ δ)} {a : Arrival κ υ δ}
    (h : g.KeyedByClient L rl.keyStrategy (before ++ [a])) :
    (ticks (g.arrive L (g.limiterAfter L rl.limiter.fresh before) a).events).map (·.2) =
      if (g.checkedRequest L a).isSome then [verdict (g.ownTimes L a.client.ip before) a.now]
      else [] := by
  cases hreq : g.checkedRequest L a with
  | none =>
      rcases arrive_spec (L := L) hr (g.limiterAfter L rl.limiter.fresh before) a with
        ⟨-, ht, -⟩ | ⟨req, hreq', -⟩
      · rw [ht]; rfl
      · rw [hreq] at hreq'; cases hreq'
  | some req =>
      have hkey : g.checkedKey L rl.keyStrategy a = _ := checkedKey_eq_some hreq
      have htimes := timesOf_callsOf before fun b hb key' hkey' => h b (List.mem_append_left _ hb) a
        (List.mem_append_right _ (List.mem_singleton_self a)) key' _ hkey' hkey
      rw [ticks_checked hr hv before hkey, htimes]
      rfl

theorem ownTimes_append (ip : Text) (run run' : List (Arrival κ υ δ)) :
    g.ownTimes L ip (run ++ run') = g.ownTimes L ip run ++ g.ownTimes L ip run' := by
  rw [ownTimes, List.filter_append, List.map_append]
  rfl

/-- One arrival is a check of `ip`'s if it is `ip`'s and gets as far as the limiter. -/
theorem ownTimes_singleton (ip : Text) (a : Arrival κ υ δ) : g.ownTimes L ip [a] =
    if a.client.ip = ip ∧ (g.checkedRequest L a).isSome = true then [a.now] else [] := by
  rw [ownTimes, List.filter_cons, List.filter_nil]
  by_cases h : a.client.ip = ip ∧ (g.checkedRequest L a).isSome = true <;> simp [h]

/-- **The admitted requests of a client** are those the verdict admits, in the order of its own
checks. -/
theorem admittedTimes_eq {rl : RateLimitLayer lim} (hr : g.rateLimitLayer = some rl)
    {verdict : List Nat → Nat → Bool} (hv : rl.limiter.Independent verdict) (ip : Text)
    (run : List (Arrival κ υ δ)) : ∀ before : List (Arrival κ υ δ),
    g.KeyedByClient L rl.keyStrategy (before ++ run) →
    g.admittedTimes L ip (g.limiterAfter L rl.limiter.fresh before) run =
      admitted verdict (g.ownTimes L ip before) (g.ownTimes L ip run) := by
  -- on the rest of the run; what came before has left the limiter as it is
  induction run with
  | nil => intro before _; rfl
  | cons a run ih =>
      intro before h
      have hrest := ih (before ++ [a]) (by rwa [List.append_assoc, List.singleton_append])
      rw [limiterAfter_append, ownTimes_append, ownTimes_singleton] at hrest
      have hsplit : g.ownTimes L ip (a :: run) = g.ownTimes L ip [a] ++ g.ownTimes L ip run :=
        ownTimes_append ip [a] run
      have hticks := ticks_arrive hr hv h.take
      have hadm : g.isAdmitted L (g.limiterAfter L rl.limiter.fresh before) a =
          ((g.checkedRequest L a).isSome && verdict (g.ownTimes L a.client.ip before) a.now) := by
        have hany := congrArg (List.any · id) hticks
        rw [List.any_map] at hany
        rw [isAdmitted]
        refine hany.trans ?_
        cases (g.checkedRequest L a).isSome <;> simp
      rw [admittedTimes, hrest, hadm, hsplit, ownTimes_singleton]
      by_cases hip : a.client.ip = ip
      · subst hip
        cases (g.checkedRequest L a).isSome with
        | false => simp
        | true => simp [admitted]
      · simp [hip]

/-- The requests of a run are in the order of their times. -/
def InOrder (run : List (Arrival κ υ δ)) : Prop := (run.map (·.now)).Pairwise (· ≤ ·)

theorem InOrder.ownTimes {run : List (Arrival κ υ δ)} (h : InOrder run) (ip : Text) :
    (g.ownTimes L ip run).Pairwise (· ≤ ·) := by
  have hsub : (g.ownTimes L ip run).Sublist (run.map (·.now)) := List.filter_sublist.map _
  exact List.Pairwise.sublist hsub h

/-- The layer of a rate limit section that is enabled. -/
theorem Built.rateLimitLayer_eq {config : GatewayConfig} {rl : RateLimitConfig}
    (hb : Built L config g) (hrl : config.rateLimit = some rl) (hen : rl.enabled = true) :
    g.rateLimitLayer = some
      (RateLimitLayer.new L.keyed rl.requestsPerSecond rl.burstSize rl.keyStrategy) := by
  rw [hb.rateLimit, rateLimitLayerOf, hrl]
  simp [hen]

/-- **Rate limiting by client.**  In a run from a fresh limiter whose keys are its clients, each
check of a client is answered by a verdict on the times of its own earlier checks and of this
one, and in any window of length `T` at most `burst + rate · T` of its requests are admitted. -/
theorem per_client_of_keyedByClient {config : GatewayConfig} {d d' : δ} {rl : RateLimitConfig}
    (hkeyed : ∀ q, (L.keyed q).Documented q) (hnew : new L config d = .ok (g, d'))
    (hrl : config.rateLimit = some rl) (hen : rl.enabled = true) (hip : rl.keyStrategy = .ip)
    {l : lim} (hl : l = (L.keyed (RateLimitLayer.quota rl.requestsPerSecond rl.burstSize)).fresh) :
    ∃ verdict : List Nat → Nat → Bool, ∀ run : List (Arrival κ υ δ), InOrder run →
      g.KeyedByClient L .ip run →
      (∀ before a after, run = before ++ a :: after →
        (ticks (g.arrive L (g.limiterAfter L l before) a).events).map (·.2) =
          if (g.checkedRequest L a).isSome then [verdict (g.ownTimes L a.client.ip before) a.now]
          else []) ∧
      (0 < rl.requestsPerSecond → 0 < rl.burstSize → ∀ ip s T,
        inWindow s T (g.admittedTimes L ip l run) * nanos ≤
          rl.burstSize * nanos + rl.requestsPerSecond * T) := by
  have hr := (new_built hnew).rateLimitLayer_eq hrl hen
  obtain ⟨verdict, hv, hbound⟩ :=
    hkeyed (RateLimitLayer.quota rl.requestsPerSecond rl.burstSize)
  subst hl
  rw [hip] at hr
  refine ⟨verdict, fun run horder hkeys => ⟨fun before a after hsplit => ?_,
    fun hrate hburst ip s T => ?_⟩⟩
  · subst hsplit
    exact ticks_arrive hr hv hkeys.take
  · have hadm : g.admittedTimes L ip _ run = admitted verdict [] (g.ownTimes L ip run) :=
      admittedTimes_eq hr hv ip run [] hkeys
    have hwindow := hbound _ (horder.ownTimes (g := g) (L := L) ip) s T
    have hq : (RateLimitLayer.quota rl.requestsPerSecond rl.burstSize).burst = rl.burstSize ∧
        (RateLimitLayer.quota rl.requestsPerSecond rl.burstSize).rate = rl.requestsPerSecond := by
      refine ⟨if_neg (Nat.ne_of_gt hburst), if_neg (Nat.ne_of_gt hrate)⟩
    rw [← hadm, hq.1, hq.2] at hwindow
    exact hwindow

/-- One request a second, by address. -/
def byAddress : RateLimitConfig := ⟨true, 1, 1, .ip⟩

def limitedGateway : Gateway Regex.Re (Text → Nat) (List (Text × CachedResponse)) Unit Unit :=
  plainGateway apiRoutes none (some byAddress) none

/-- Its libraries; no token is ever looked at. -/
def limitedLibraries : Libraries Regex.Re (Text → Nat) (List (Text × CachedResponse)) Unit Unit :=
  plainLibraries (TokenDecoder.ofSigned [])

/-- `GET /api/users` from an address, with an `x-forwarded-for` or none. -/
def arrivalFrom (ip : Text) (forwarded : List HeaderValue) (now : Nat) :
    Arrival (List (Text × CachedResponse)) Unit Unit :=
  ⟨⟨ip, 4711⟩, { Router.plainGet "/api/users" with headers :=
    ⟨forwarded.map fun v => (⟨"x-forwarded-for".toList, by decide⟩, v)⟩ }, "id", now, [], (), (),
    []⟩

/-- The run of two clients at once, each of which goes by its own address. -/
def twoClients : List (Arrival (List (Text × CachedResponse)) Unit Unit) :=
  [arrivalFrom "10.0.0.1" [⟨Text.utf8 "10.0.0.1", by decide⟩] 0,
    arrivalFrom "10.0.0.2" [⟨Text.utf8 "10.0.0.2", by decide⟩] 0]

theorem per_client_of_two_clients :
    inWindow 0 0 (limitedGateway.admittedTimes limitedLibraries "10.0.0.2"
      (gcra (RateLimitLayer.quota 1 1)).fresh twoClients) * nanos ≤ 1 * nanos + 1 * 0 := by
  obtain ⟨verdict, h⟩ := per_client_of_keyedByClient (L := limitedLibraries) (g := limitedGateway)
    gcra_documented (new_plain (TokenDecoder.ofSigned []) apiRoutes none (some byAddress) rfl)
    rfl rfl rfl rfl
  have hkeys : limitedGateway.KeyedByClient limitedLibraries .ip twoClients := by
    have hall : ∀ a ∈ twoClients,
        limitedGateway.checkedKey limitedLibraries .ip a = some a.client.ip := by decide
    intro a ha b hb key key' hkey hkey'
    rw [hall a ha] at hkey
    rw [hall b hb] at hkey'
    rw [← Option.some.inj hkey, ← Option.some.inj hkey']
  exact (h twoClients (by simp [InOrder, twoClients, arrivalFrom]) hkeys).2 Nat.one_pos Nat.one_pos
    "10.0.0.2" 0 0

/-- Two clients without the header share a key: the second one's first check is refused after a
check of the first one, and admitted without. -/
theorem clients_share_a_key :
    new limitedLibraries (plainConfig apiRoutes none (some byAddress)) () =
        .ok (limitedGateway, ()) ∧
    ¬ ∃ verdict : List Nat → Nat → Bool,
      ∀ before (a : Arrival (List (Text × CachedResponse)) Unit Unit), InOrder (before ++ [a]) →
        (ticks (limitedGateway.arrive limitedLibraries (limitedGateway.limiterAfter
          limitedLibraries (gcra (RateLimitLayer.quota 1 1)).fresh before) a).events).map (·.2) =
          if (limitedGateway.checkedRequest limitedLibraries a).isSome then
            [verdict (limitedGateway.ownTimes limitedLibraries a.client.ip before) a.now]
          else [] := by
  refine ⟨new_plain _ _ _ _ rfl, fun hverdict => ?_⟩
  obtain ⟨verdict, h⟩ := hverdict
  have halone := h [] (arrivalFrom "10.0.0.2" [] 0) (by simp [InOrder])
  have hafter := h [arrivalFrom "10.0.0.1" [] 0] (arrivalFrom "10.0.0.2" [] 0)
    (by simp [InOrder, arrivalFrom])
  have hown : limitedGateway.ownTimes limitedLibraries (arrivalFrom "10.0.0.2" [] 0).client.ip
      [arrivalFrom "10.0.0.1" [] 0] = [] := by decide
  have htrue : (ticks (limitedGateway.arrive limitedLibraries
      (gcra (RateLimitLayer.quota 1 1)).fresh (arrivalFrom "10.0.0.2" [] 0)).events).map (·.2) =
      [true] := by decide
  have hfalse : (ticks (limitedGateway.arrive limitedLibraries (limitedGateway.limiterAfter
      limitedLibraries (gcra (RateLimitLayer.quota 1 1)).fresh [arrivalFrom "10.0.0.1" [] 0])
      (arrivalFrom "10.0.0.2" [] 0)).events).map (·.2) = [false] := by
    have hkey : limitedGateway.checkedKey limitedLibraries .ip (arrivalFrom "10.0.0.2" [] 0) =
        some "unknown".toList := by decide
    have hlayer : limitedGateway.rateLimitLayer = some (RateLimitLayer.new gcra 1 1 .ip) := rfl
    have hfresh : (gcra (RateLimitLayer.quota 1 1)).fresh =
        (RateLimitLayer.new gcra 1 1 .ip).limiter.fresh := rfl
    rw [hfresh, ticks_checked hlayer (gcra_independent _) _ hkey]
    decide
  rw [hown] at hafter
  have hsame : [false] = [true] := hfalse.symm.trans (hafter.trans (halone.symm.trans htrue))
  exact absurd hsame (by decide)

end Gateway

end MiniGateway
