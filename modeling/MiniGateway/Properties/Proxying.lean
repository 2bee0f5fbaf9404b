import Mathlib.Data.List.Induction
import MiniGateway.Properties.Routing
import MiniGateway.Source.Proxy
import MiniGateway.Support.Url

/-!
# Properties — Proxying

What `proxy` sends upstream.

* Every request it sends is the client's, with the target URL, the copied headers and the route's
  timeout (`proxy_events`), however often it is retried.
* Of the values of a header the copy keeps the last, and none of a hop-by-hop header
  (`getAll_copyHeaders`).
* A response is handed on with its status, its body and all its headers but two (`response_eq`).
* The target URL is a concatenation.  It stays at the upstream's authority exactly when what is
  left of the path behind the prefix is empty or starts with a slash (`targetUrl_confined_iff`).
-/

namespace MiniGateway.ProxyClient

open Http Url

variable {υ : Type}

/-! ### Sends -/

/-- `out` is what is sent for `req` along `route`. -/
structure Relays (route : RouteMatch) (req : Request) (out : OutRequest) : Prop where
  method : out.method = req.method
  url : out.url = targetUrl route req.uri
  headers : out.headers = copyHeaders req.headers
  body : req.body = .ok out.body
  timeout : out.timeoutMs = route.timeoutMs

theorem outRequest_url {C : Client υ} {route : RouteMatch} {req : Request} {method : Method}
    {body : Bytes} {out : OutRequest} (h : outRequest C route req method body = some out) :
    out.url = targetUrl route req.uri := by
  rw [outRequest] at h
  split at h
  · cases h
    rfl
  · cases h

/-- The loop sends the one request it was given, and pauses in between. -/
theorem attempts_events (C : Client υ) (req : Option OutRequest) (maxAttempts : Nat)
    (backoff : Option Nat) {e : Event} (left : Nat) : ∀ (attempt : Nat) (u : υ),
    e ∈ (attempts C req maxAttempts backoff left attempt u).events →
      (∃ ms, e = .sleep ms) ∨ ∃ out, req = some out ∧ e = .send out := by
  induction left with
  | zero => exact fun _ _ he => absurd he List.not_mem_nil
  | succ left ih =>
      intro attempt u he
      cases req with
      | none => exact absurd he List.not_mem_nil
      | some request =>
          have hagain : ∀ u', e ∈ Event.send request :: pause backoff attempt ++
                (attempts C (some request) maxAttempts backoff left (attempt + 1) u').events →
              (∃ ms, e = .sleep ms) ∨ ∃ out, some request = some out ∧ e = .send out := by
            intro u' he
            rcases List.mem_append.mp he with he | he
            · rcases List.mem_cons.mp he with rfl | he
              · exact Or.inr ⟨request, rfl, rfl⟩
              · cases backoff with
                | none => exact absurd he List.not_mem_nil
                | some b => exact Or.inl ⟨_, List.mem_singleton.mp he⟩
            · exact ih _ _ he
          have hlast : e ∈ [Event.send request] →
              (∃ ms, e = .sleep ms) ∨ ∃ out, some request = some out ∧ e = .send out :=
            fun he => Or.inr ⟨request, rfl, List.mem_singleton.mp he⟩
          -- retried or not, each answer of the client has one of the two shapes
          simp only [attempts] at he
          split at he
          · split at he
            · exact hagain _ he
            · exact hlast he
          · split at he
            · exact hagain _ he
            · exact hlast he

/-- **What `proxy` does with a body it could read**: it runs the attempts, and a response of its
own is the last attempt's. -/
theorem proxy_spec (p : ProxyClient υ) {req : Request} (route : RouteMatch)
    (metrics : RequestMetrics) (u : υ) {body : Bytes} (hbody : req.body = .ok body) :
    (p.proxy req route metrics u).1.events = (executeWithRetry p.client
        (outRequest p.client route req req.method body) route.retry route.timeoutMs u).events ∧
    ∀ r, (p.proxy req route metrics u).1.result = .ok r → ∃ resp bytes,
      (executeWithRetry p.client (outRequest p.client route req req.method body) route.retry
        route.timeoutMs u).result = .ok resp ∧ resp.body = .ok bytes ∧
      response resp bytes = .ok r := by
  rw [proxy, Method.parse_text]
  simp only [hbody]
  split
  · exact ⟨rfl, fun r h => by cases h⟩
  · rename_i resp hresp
    split
    · exact ⟨rfl, fun r h => by cases h⟩
    · rename_i bytes hbytes
      split
      · rename_i r₀ hr₀
        refine ⟨rfl, fun r h => ?_⟩
        cases h
        exact ⟨resp, bytes, hresp, hbytes, hr₀⟩
      · exact ⟨rfl, fun r h => by cases h⟩

theorem proxy_upstream (p : ProxyClient υ) {req : Request} (route : RouteMatch)
    (metrics : RequestMetrics) (u : υ) {body : Bytes} (hbody : req.body = .ok body) :
    (p.proxy req route metrics u).1.upstream = (executeWithRetry p.client
      (outRequest p.client route req req.method body) route.retry route.timeoutMs u).upstream := by
  rw [proxy, Method.parse_text]
  simp only [hbody]
  split
  · rfl
  · split
    · rfl
    · split
      · rfl
      · rfl

/-- Without a body nothing is sent. -/
theorem proxy_of_error (p : ProxyClient υ) {req : Request} (route : RouteMatch)
    (metrics : RequestMetrics) (u : υ) {e : Text} (hbody : req.body = .error e) :
    p.proxy req route metrics u =
      (⟨.error (.proxy ("Body read error: ".toList ++ e)), u, []⟩, []) := by
  rw [proxy, Method.parse_text]
  simp only [hbody]

/-- **Every request `proxy` sends relays the client's.** -/
theorem proxy_events (p : ProxyClient υ) (req : Request) (route : RouteMatch)
    (metrics : RequestMetrics) (u : υ) {e : Event}
    (he : e ∈ (p.proxy req route metrics u).1.events) :
    (∃ ms, e = .sleep ms) ∨ ∃ out, Relays route req out ∧ e = .send out := by
  cases hbody : req.body with
  | error text =>
      rw [proxy_of_error p route metrics u hbody] at he
      exact absurd he List.not_mem_nil
  | ok body =>
      rw [(proxy_spec p route metrics u hbody).1] at he
      rcases attempts_events _ _ _ _ _ _ _ he with hs | ⟨out, hout, rfl⟩
      · exact Or.inl hs
      · refine Or.inr ⟨out, ?_, rfl⟩
        obtain ⟨out₀, hout₀, rfl⟩ := Option.map_eq_some_iff.mp hout
        rw [outRequest] at hout₀
        split at hout₀
        · cases hout₀
          cases ht : route.timeoutMs with
          | none => exact ⟨rfl, rfl, rfl, hbody, ht.symm⟩
          | some t => exact ⟨rfl, rfl, rfl, hbody, ht.symm⟩
        · cases hout₀

/-- A response of the upstream is the answer to a send. -/
theorem attempts_ok_sends (C : Client υ) (req : Option OutRequest) (maxAttempts : Nat)
    (backoff : Option Nat) {resp : UpstreamResponse} {left attempt : Nat} {u : υ}
    (h : (attempts C req maxAttempts backoff left attempt u).result = .ok resp) :
    ∃ out, .send out ∈ (attempts C req maxAttempts backoff left attempt u).events := by
  cases left with
  | zero => cases h
  | succ left =>
      cases req with
      | none => cases h
      | some request =>
          -- the first event of every attempt is its send
          refine ⟨request, ?_⟩
          simp only [attempts]
          split
          · split <;> exact List.mem_cons_self
          · split <;> exact List.mem_cons_self

/-- **A response of `proxy` is the answer to a send.** -/
theorem proxy_ok_sends (p : ProxyClient υ) (req : Request) (route : RouteMatch)
    (metrics : RequestMetrics) (u : υ) {r : Response}
    (h : (p.proxy req route metrics u).1.result = .ok r) :
    ∃ out, .send out ∈ (p.proxy req route metrics u).1.events := by
  cases hbody : req.body with
  | error text =>
      rw [proxy_of_error p route metrics u hbody] at h
      cases h
  | ok body =>
      obtain ⟨hevents, hresult⟩ := proxy_spec p route metrics u hbody
      obtain ⟨resp, bytes, hresp, -⟩ := hresult r h
      rw [hevents]
      exact attempts_ok_sends _ _ _ _ hresp

/-! ### Headers -/

/-- **The copy keeps the last value of a header**, and nothing of a filtered one. -/
theorem getAll_copyHeaders (h : HeaderMap) (n : HeaderName) :
    (copyHeaders h).getAll n =
      if filtered.contains (n.text.map Char.toLower) then []
      else (h.getAll n).getLast?.toList := by
  obtain ⟨entries⟩ := h
  induction entries using List.reverseRecOn with
  | nil => simp [copyHeaders, HeaderMap.getAll, HeaderMap.empty]
  | append_singleton entries e ih =>
      have hall : HeaderMap.getAll ⟨entries ++ [e]⟩ n =
          HeaderMap.getAll ⟨entries⟩ n ++ if e.1 = n then [e.2] else [] :=
        HeaderMap.getAll_append ⟨entries⟩ e.1 n e.2
      have hcopy : copyHeaders ⟨entries ++ [e]⟩ =
          if filtered.contains (e.1.text.map Char.toLower) then copyHeaders ⟨entries⟩
          else (copyHeaders ⟨entries⟩).insert e.1 e.2 := by
        simp only [copyHeaders, List.foldl_append, List.foldl_cons, List.foldl_nil]
      -- a later value replaces the earlier ones; a value of another name changes nothing
      rw [hcopy, hall]
      by_cases hn : e.1 = n
      · subst hn
        split
        · rename_i hf
          rw [ih, if_pos hf]
        · rw [HeaderMap.getAll_insert, if_pos rfl, if_pos rfl, List.getLast?_concat]
          rfl
      · rw [if_neg hn, List.append_nil, ← ih]
        split
        · rfl
        · rw [HeaderMap.getAll_insert, if_neg hn]

/-! ### The response -/

/-- The names the loop over the response leaves out. -/
def dropped (n : HeaderName) : Bool :=
  n.text = "transfer-encoding".toList ∨ n.text = "content-encoding".toList

/-- **An upstream's response can always be handed on**, with its status and its body and without
the dropped headers. -/
theorem response_eq (resp : UpstreamResponse) (body : Bytes) :
    response resp body =
      .ok ⟨resp.status, ⟨resp.headers.entries.filter fun e => !dropped e.1⟩, body⟩ := by
  have hloop : resp.headers.entries.foldl (fun b e =>
        let key := e.1.text.map Char.toLower
        if key = "transfer-encoding".toList ∨ key = "content-encoding".toList then b
        else b.header e.1.text e.2.bytes) (Builder.new.status resp.status.code) =
      (resp.headers.entries.filter fun e => !dropped e.1).foldl
        (fun b e => b.header e.1.text e.2.bytes) (Builder.new.status resp.status.code) := by
    rw [List.foldl_filter]
    refine List.foldl_ext _ _ _ fun b e _ => ?_
    simp only [e.1.toLower_text]
    by_cases h : e.1.text = "transfer-encoding".toList ∨ e.1.text = "content-encoding".toList
    · rw [if_pos h, show dropped e.1 = true from decide_eq_true h]
      rfl
    · rw [if_neg h, show dropped e.1 = false from decide_eq_false h]
      rfl
  rw [response, hloop, Builder.body, Builder.header_foldl _ (Builder.status_code resp.status)]
  rfl

/-- **A last answer whose body can be read is handed on.** -/
theorem proxy_answered (p : ProxyClient υ) {req : Request} (route : RouteMatch)
    (metrics : RequestMetrics) (u : υ) {body : Bytes} (hbody : req.body = .ok body)
    {resp : UpstreamResponse} {bytes : Bytes}
    (hresp : (executeWithRetry p.client (outRequest p.client route req req.method body) route.retry
      route.timeoutMs u).result = .ok resp) (hbytes : resp.body = .ok bytes) :
    (p.proxy req route metrics u).1.result =
      .ok ⟨resp.status, ⟨resp.headers.entries.filter fun e => !dropped e.1⟩, bytes⟩ := by
  rw [proxy, Method.parse_text]
  simp only [hbody, hresp, hbytes, response_eq]

/-! ### The target -/

/-- The target is the upstream's URL, a path or nothing, and the query; and if the upstream's URL
is a scheme and an authority, that is the target's authority. -/
def Confined (route : RouteMatch) (uri : Uri) (url : Text) : Prop :=
  (∃ t, Rooted t ∧ url = route.upstreamUrl ++ t ++ querySuffix uri) ∧
    ∀ scheme authority, IsOrigin route.upstreamUrl scheme authority → authorityOf url = authority

/-- The path starts with the prefix, and something else than a slash follows it; or it is not
stripped, and starts with something else than a slash itself. -/
def Unrooted (stripPrefix : Option Text) (path : Text) : Prop :=
  (∃ p rest, stripPrefix = some p ∧ path = p ++ rest ∧ ¬ Rooted rest) ∨
    (∀ p rest, stripPrefix = some p → path ≠ p ++ rest) ∧ ¬ Rooted path

theorem targetPath_rooted_iff (route : RouteMatch) (path : Text) :
    Rooted (targetPath route path) ↔ ¬ Unrooted route.stripPrefix path := by
  rw [targetPath]
  cases hp : route.stripPrefix with
  | none => simp [Unrooted]
  | some p =>
      by_cases hstrip : ∃ rest, path = p ++ rest
      · obtain ⟨rest, rfl⟩ := hstrip
        have hsome : ¬ ∀ q r, some p = some q → p ++ rest ≠ q ++ r :=
          fun h => h p rest rfl rfl
        have hrest : (∃ q r, some p = some q ∧ p ++ rest = q ++ r ∧ ¬ Rooted r) ↔
            ¬ Rooted rest := by
          refine ⟨fun ⟨q, r, hq, hr, hn⟩ => ?_, fun h => ⟨p, rest, rfl, rfl, h⟩⟩
          cases hq
          rwa [List.append_cancel_left hr]
        show Rooted ((Text.stripPrefix (p ++ rest) p).getD (p ++ rest)) ↔ _
        rw [Text.stripPrefix_append, Option.getD_some, Unrooted, hrest,
          or_iff_left fun h => hsome h.1, not_not]
      · have hnone : ∀ q r, some p = some q → path ≠ q ++ r := by
          rintro q r ⟨⟩ h
          exact hstrip ⟨r, h⟩
        show Rooted ((path.stripPrefix p).getD path) ↔ _
        rw [Text.stripPrefix_eq_none hstrip, Option.getD_none, Unrooted]
        refine ⟨fun h hn => ?_, fun h => ?_⟩
        · rcases hn with ⟨q, r, hq, hr, -⟩ | ⟨-, hn⟩
          · exact hnone q r hq hr
          · exact hn h
        · by_contra hn
          exact h (Or.inr ⟨hnone, hn⟩)

/-- **Confinement of the target.**  `proxy` sends to `targetUrl`, and that is confined to the
upstream exactly when the prefix is stripped at a segment boundary. -/
theorem targetUrl_confined_iff (p : ProxyClient υ) (req : Request) (route : RouteMatch)
    (metrics : RequestMetrics) (u : υ) :
    (∀ out, .send out ∈ (p.proxy req route metrics u).1.events →
      out.url = targetUrl route req.uri) ∧
    (Confined route req.uri (targetUrl route req.uri) ↔
      ¬ Unrooted route.stripPrefix req.uri.path) := by
  refine ⟨fun out hout => ?_, ?_⟩
  · rcases proxy_events p req route metrics u hout with ⟨ms, h⟩ | ⟨out', hrel, h⟩
    · cases h
    · cases h
      exact hrel.url
  rw [← targetPath_rooted_iff]
  refine ⟨fun h => ?_, fun h => ⟨⟨_, h, rfl⟩, fun scheme authority ho => ?_⟩⟩
  · obtain ⟨⟨t, ht, hurl⟩, -⟩ := h
    have := List.append_cancel_right hurl
    rwa [List.append_cancel_left this]
  · exact authorityOf_append ho h req.uri.query

/-- `/api/**` with the prefix `/api/`, slash included. -/
def slashPrefixRoute : RouteConfig :=
  { Router.plainRoute "api" "/api/**" "http://localhost:3000" with stripPrefix := some "/api/" }

/-- What follows the prefix becomes part of the authority: the upstream is the user name of a
request to another host. -/
theorem targetUrl_escapes :
    ∃ route, (Router.ofRoutes [slashPrefixRoute] : Router Regex.Re Unit).matchRoute
        Regex.reference (Router.plainGet "/api/@evil.com") () = (some route, ()) ∧
      authorityOf (targetUrl route (Router.plainGet "/api/@evil.com").uri) =
        "localhost:3000@evil.com".toList ∧
      ¬ Confined route (Router.plainGet "/api/@evil.com").uri
        (targetUrl route (Router.plainGet "/api/@evil.com").uri) := by
  refine ⟨Router.routeMatch slashPrefixRoute "http://localhost:3000", by decide, by decide,
    fun h => ?_⟩
  have ho : IsOrigin "http://localhost:3000" "http" "localhost:3000" :=
    ⟨by decide, by decide, by decide⟩
  exact absurd (h.2 _ _ ho) (by decide)

end MiniGateway.ProxyClient
