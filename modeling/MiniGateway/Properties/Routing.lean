import MiniGateway.Source.Router
import MiniGateway.Support.Glob

/-!
# Properties — Routing

What a route table answers.  A compiled path matches the paths its pattern covers
(`isMatch_wild`, `isMatch_plain`, `isMatch_iff_covers`), and `match_route` answers with the
first route that accepts the request's path and method (`matchRoute_first_accepting`), where
`FirstAccepting` is stated on the configuration alone, with no regular expression in it.
-/

namespace MiniGateway.Router

open Http Regex

variable {ρ δ : Type} {E : Engine ρ}

/-! ### One route -/

/-- The compiled pattern of a wildcard over `base`: `base`, or `base/` and newline-free text. -/
theorem isMatch_wild (hE : E.Documented) {path base : Text} {r : ρ} (hw : Glob.Wild path base)
    (hr : E.new (pattern E path) = .ok r) (x : Text) :
    E.isMatch r x = true ↔ x = base ∨ ∃ t, x = base ++ '/' :: t ∧ '\n' ∉ t := by
  have hp : pattern E path = subtree base := by
    unfold pattern
    rw [Glob.branch_wild (fun b => "^".toList ++ E.escape b ++ "(/.*)?$".toList)
      (fun b => "^".toList ++ E.escape b ++ "$".toList) hw, hE.escape_eq]
    rfl
  rw [hp] at hr
  rw [hE.isMatch_iff (parse_subtree base) hr, search_subtree]

/-- The compiled pattern of a plain path: that path. -/
theorem isMatch_plain (hE : E.Documented) {path : Text} {r : ρ} (hn : ∀ base, ¬ Glob.Wild path base)
    (hr : E.new (pattern E path) = .ok r) (x : Text) : E.isMatch r x = true ↔ x = path := by
  have hp : pattern E path = Regex.exact path := by
    unfold pattern
    rw [Glob.branch_plain (fun b => "^".toList ++ E.escape b ++ "(/.*)?$".toList)
      (fun b => "^".toList ++ E.escape b ++ "$".toList) hn, hE.escape_eq]
    rfl
  rw [hp] at hr
  rw [hE.isMatch_iff (parse_exact path) hr, search_exact]

/-- On newline-free paths a compiled pattern matches what the path pattern covers. -/
theorem isMatch_iff_covers (hE : E.Documented) {path : Text} {r : ρ}
    (hr : E.new (pattern E path) = .ok r) {x : Text} (hx : '\n' ∉ x) :
    E.isMatch r x = true ↔ Glob.Covers path x := by
  by_cases hw : ∃ base, Glob.Wild path base
  · obtain ⟨base, hw⟩ := hw
    rw [isMatch_wild hE hw hr, Glob.covers_wild hw, Glob.Below]
    refine or_congr Iff.rfl (exists_congr fun t => and_iff_left_of_imp fun h hm => hx ?_)
    rw [h]
    simp [hm]
  · have hn : ∀ base, ¬ Glob.Wild path base := fun base h => hw ⟨base, h⟩
    rw [isMatch_plain hE hn hr, Glob.covers_plain hn]

/-- **A compiled table keeps the routes in order**, each with the expression of its own path. -/
theorem compile_spec {routes : List RouteConfig} : ∀ {entries : List (RouteEntry ρ)},
    compile E routes = .ok entries → entries.map (·.config) = routes ∧
      ∀ e ∈ entries, E.new (pattern E e.config.path) = .ok e.pathRegex := by
  induction routes with
  | nil =>
      intro entries h
      cases h
      exact ⟨rfl, fun _ he => absurd he List.not_mem_nil⟩
  | cons route routes ih =>
      intro entries h
      rw [compile] at h
      split at h
      · cases h
      · rename_i regex hregex
        split at h
        · cases h
        · rename_i rest hrest
          cases h
          obtain ⟨hmap, hall⟩ := ih hrest
          refine ⟨by rw [List.map_cons, hmap], fun e he => ?_⟩
          rcases List.mem_cons.mp he with rfl | he
          · exact hregex
          · exact hall e he

theorem new_spec {routes : List RouteConfig} {router : Router ρ δ}
    (h : Router.new E routes = .ok router) : compile E routes = .ok router.routes := by
  rw [new] at h
  split at h
  · cases h
  · rename_i entries hc
    cases h
    exact hc

/-! ### The first route that accepts -/

/-- `entry` passes both tests of the loop. -/
def entryAccepts (E : Engine ρ) (req : Request) (entry : RouteEntry ρ) : Bool :=
  E.isMatch entry.pathRegex req.uri.path && methodAllowed entry.config.methods req.method

/-- **The loop stops at the first entry that accepts.** -/
theorem matchRoute_eq_find (r : Router ρ δ) (req : Request) (d : δ) :
    r.matchRoute E req d =
      (r.routes.find? (entryAccepts E req)).elim (none, d) (r.answer d) := by
  unfold matchRoute
  induction r.routes with
  | nil => rfl
  | cons entry entries ih =>
      rw [matchLoop]
      by_cases hp : E.isMatch entry.pathRegex req.uri.path = true
      · by_cases hm : methodAllowed entry.config.methods req.method = true
        · have hacc : entryAccepts E req entry = true := by simp [entryAccepts, hp, hm]
          rw [List.find?_cons_of_pos hacc]
          simp [hp, hm]
        · have hacc : ¬ entryAccepts E req entry = true := by simp [entryAccepts, hm]
          rw [List.find?_cons_of_neg hacc, ← ih]
          simp [hp, hm]
      · have hacc : ¬ entryAccepts E req entry = true := by simp [entryAccepts, hp]
        rw [List.find?_cons_of_neg hacc, ← ih]
        simp [hp]

/-- A route accepts a request: its pattern covers the path, and it has no `methods` list or the
list holds the method up to ASCII case. -/
def Accepts (route : RouteConfig) (req : Request) : Prop :=
  Glob.Covers route.path req.uri.path ∧
    (route.methods = none ∨ ∃ ms m, route.methods = some ms ∧ m ∈ ms ∧
      m.map Char.toLower = req.method.text.map Char.toLower)

theorem methodAllowed_iff {methods : Option (List Text)} {method : Method} :
    methodAllowed methods method = true ↔ methods = none ∨ ∃ ms m, methods = some ms ∧ m ∈ ms ∧
      m.map Char.toLower = method.text.map Char.toLower := by
  cases methods with
  | none => simp [methodAllowed]
  | some ms => simp [methodAllowed, Text.eqIgnoreAsciiCase]

theorem entryAccepts_iff (hE : E.Documented) {entry : RouteEntry ρ}
    (hr : E.new (pattern E entry.config.path) = .ok entry.pathRegex) {req : Request}
    (hx : '\n' ∉ req.uri.path) : entryAccepts E req entry = true ↔ Accepts entry.config req := by
  rw [entryAccepts, Bool.and_eq_true, isMatch_iff_covers hE hr hx, methodAllowed_iff, Accepts]

/-- `route` accepts the request, and no route before it does. -/
def FirstAccepting (routes : List RouteConfig) (req : Request) (route : RouteConfig) : Prop :=
  ∃ i : Nat, routes[i]? = some route ∧ Accepts route req ∧
    ∀ j < i, ∀ route', routes[j]? = some route' → ¬ Accepts route' req

/-- The entry the loop stops at is the entry of the first accepting route. -/
theorem find_iff_firstAccepting {entries : List (RouteEntry ρ)} {req : Request}
    (hacc : ∀ e ∈ entries, entryAccepts E req e = true ↔ Accepts e.config req)
    {route : RouteConfig} :
    (∃ e, entries.find? (entryAccepts E req) = some e ∧ e.config = route) ↔
      FirstAccepting (entries.map (·.config)) req route := by
  refine ⟨fun h => ?_, fun h => ?_⟩
  · obtain ⟨e, hf, rfl⟩ := h
    obtain ⟨he, i, hi, rfl, hbefore⟩ := List.find?_eq_some_iff_getElem.mp hf
    refine ⟨i, by simp [hi], (hacc _ (List.getElem_mem hi)).mp he, fun j hj route' hr hA => ?_⟩
    have hj' : j < entries.length := Nat.lt_trans hj hi
    obtain rfl : entries[j].config = route' := by simpa [hj'] using hr
    have hb := hbefore j hj
    rw [(hacc _ (List.getElem_mem hj')).mpr hA] at hb
    cases hb
  · obtain ⟨i, hi, hA, hbefore⟩ := h
    obtain ⟨e, he, rfl⟩ : ∃ e, entries[i]? = some e ∧ e.config = route := by simpa using hi
    obtain ⟨hlt, rfl⟩ := List.getElem?_eq_some_iff.mp he
    refine ⟨entries[i], List.find?_eq_some_iff_getElem.mpr
      ⟨(hacc _ (List.getElem_mem hlt)).mpr hA, i, hlt, rfl, fun j hj => ?_⟩, rfl⟩
    have hj' : j < entries.length := Nat.lt_trans hj hlt
    have hno := hbefore j hj entries[j].config (by simp [hj'])
    rw [← hacc _ (List.getElem_mem hj')] at hno
    simpa using hno

theorem answer_static (r : Router ρ δ) (d : δ) {entry : RouteEntry ρ} {url : Text}
    (h : entry.config.upstream = .static url) :
    r.answer d entry = (some (routeMatch entry.config url), d) := by
  rw [answer, h, resolveUpstream]

/-- **The router of a table of static routes**, on a newline-free path:

* it answers with a match exactly when that is the id, url, prefix, timeout, flags and retry of the
  first route that accepts the request, a flag that is not set being off;
* it answers with nothing exactly when no route accepts the request;
* the query does not matter. -/
theorem matchRoute_first_accepting (hE : E.Documented) {routes : List RouteConfig}
    {router : Router ρ δ} (hnew : Router.new E routes = .ok router)
    (hstatic : ∀ route ∈ routes, ∃ url, route.upstream = .static url) (req : Request)
    (hx : '\n' ∉ req.uri.path) (d : δ) :
    (∀ m, router.matchRoute E req d = (some m, d) ↔ ∃ route url,
      FirstAccepting routes req route ∧ route.upstream = .static url ∧
      m = { routeId := route.id
            upstreamUrl := url
            stripPrefix := route.stripPrefix
            timeoutMs := route.timeoutMs
            cacheEnabled := route.cacheEnabled.getD false
            authRequired := route.authRequired.getD false
            retry := route.retry }) ∧
    (router.matchRoute E req d = (none, d) ↔ ∀ route ∈ routes, ¬ Accepts route req) ∧
    ∀ q, router.matchRoute E { req with uri := { req.uri with query := q } } d =
      router.matchRoute E req d := by
  obtain ⟨rfl, hentry⟩ := compile_spec (new_spec hnew)
  have hacc : ∀ e ∈ router.routes, (entryAccepts E req e = true ↔ Accepts e.config req) :=
    fun e he => entryAccepts_iff hE (hentry e he) hx
  have hurl : ∀ e ∈ router.routes, ∃ url, e.config.upstream = .static url :=
    fun e he => hstatic _ (List.mem_map_of_mem he)
  rw [matchRoute_eq_find]
  refine ⟨fun m => ⟨fun h => ?_, fun h => ?_⟩, ⟨fun h route hroute => ?_, fun h => ?_⟩, fun q => ?_⟩
  -- every upstream is static, so the entry the loop stops at answers
  · cases hf : router.routes.find? (entryAccepts E req) with
    | none => rw [hf] at h; cases h
    | some e =>
        obtain ⟨url, hu⟩ := hurl e (List.mem_of_find?_eq_some hf)
        rw [hf, Option.elim, answer_static router d hu] at h
        cases h
        exact ⟨e.config, url, (find_iff_firstAccepting hacc).mp ⟨e, hf, rfl⟩, hu, rfl⟩
  · obtain ⟨route, url, hfirst, hu, rfl⟩ := h
    obtain ⟨e, hf, rfl⟩ := (find_iff_firstAccepting hacc).mpr hfirst
    rw [hf, Option.elim, answer_static router d hu, routeMatch]
  · obtain ⟨e, he, rfl⟩ := List.mem_map.mp hroute
    cases hf : router.routes.find? (entryAccepts E req) with
    | none => rw [← hacc e he]; exact List.find?_eq_none.mp hf e he
    | some e' =>
        obtain ⟨url, hu⟩ := hurl e' (List.mem_of_find?_eq_some hf)
        rw [hf, Option.elim, answer_static router d hu] at h
        cases h
  · have hf : router.routes.find? (entryAccepts E req) = none :=
      List.find?_eq_none.mpr fun e he hA => h _ (List.mem_map_of_mem he) ((hacc e he).mp hA)
    rw [hf, Option.elim]
  · rw [matchRoute_eq_find]
    rfl

/-! ### The reference engine's routers -/

/-- The expression of a route's path. -/
def pathRe (path : Text) : Re :=
  if path.endsWith "/**" then subtreeRe (path.take (path.length - 3))
  else if path.endsWith "/*" then subtreeRe (path.take (path.length - 2))
  else exactRe path

/-- The reference engine compiles every table. -/
theorem compile_reference (routes : List RouteConfig) :
    compile reference routes = .ok (routes.map fun route => ⟨route, pathRe route.path⟩) := by
  have hone : ∀ path, reference.new (pattern reference path) = .ok (pathRe path) := by
    intro path
    have hp : parse (pattern reference path) = some (pathRe path) := by
      unfold pattern pathRe
      split
      · exact parse_subtree _
      · split
        · exact parse_subtree _
        · exact parse_exact path
    simp only [reference] at hp ⊢
    rw [hp]
  induction routes with
  | nil => rfl
  | cons route routes ih => rw [compile, hone, ih]; rfl

/-- The reference engine's router for a table. -/
def ofRoutes (routes : List RouteConfig) : Router Re δ :=
  ⟨routes.map fun route => ⟨route, pathRe route.path⟩, none⟩

theorem new_reference (routes : List RouteConfig) :
    Router.new reference routes = .ok (ofRoutes routes : Router Re δ) := by
  rw [new, compile_reference]
  rfl

/-- A static route for every method, with no prefix, retry, timeout or flag. -/
def plainRoute (id path url : Text) : RouteConfig where
  id := id
  path := path
  methods := none
  upstream := .static url
  stripPrefix := none
  retry := none
  timeoutMs := none
  cacheEnabled := none
  authRequired := none

/-- `GET path`, with no header and an empty body. -/
def plainGet (path : Text) : Request where
  method := .get
  uri := ⟨none, none, path, none⟩
  headers := .empty
  body := .ok []

/-- A route with a prefix, a timeout, a cache and a retry of its own. -/
def healthRoute : RouteConfig :=
  { plainRoute "specific" "/api/health" "http://health:8080" with
      stripPrefix := some "/api"
      timeoutMs := some 500
      cacheEnabled := some true
      retry := some ⟨2, 100⟩ }

/-- Two overlapping routes: the specific one stands first and wins, with all its settings. -/
theorem matchRoute_specific_wins :
    (ofRoutes [healthRoute, plainRoute "general" "/api/**" "http://api:8080"] :
        Router Re Unit).matchRoute reference (plainGet "/api/health") () =
      (some { routeId := "specific"
              upstreamUrl := "http://health:8080"
              stripPrefix := some "/api"
              timeoutMs := some 500
              cacheEnabled := true
              authRequired := false
              retry := some ⟨2, 100⟩ }, ()) := by
  refine ((matchRoute_first_accepting reference_documented (new_reference _) ?_ _
    (by decide) ()).1 _).mpr ?_
  · intro route hroute
    rcases List.mem_cons.mp hroute with rfl | hroute
    · exact ⟨_, rfl⟩
    · obtain rfl := List.mem_singleton.mp hroute
      exact ⟨_, rfl⟩
  · exact ⟨_, _, ⟨0, rfl, ⟨Or.inl rfl, Or.inl rfl⟩, fun j hj => absurd hj (Nat.not_lt_zero j)⟩,
      rfl, rfl⟩

end MiniGateway.Router
