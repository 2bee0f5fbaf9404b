import MiniGateway.Properties.Pipeline

/-!
# Properties — Forwarding

What passes through the proxy, in both directions.

* The loop over the request's headers inserts, so only the last of several values is sent
  (`headers_forwarded_iff`).
* It filters names by a fixed list, which has `trailers` for `trailer` and leaves out what the
  request's own `Connection` header lists (`hop_by_hop_dropped_iff`).
* The loop over the response's headers drops `content-encoding` and keeps the encoded body
  (`representation_kept_iff`).
-/

namespace MiniGateway.ProxyClient

open Http

variable {υ : Type}

/-- Every request the proxy sends has the copied headers. -/
theorem sent_headers {p : ProxyClient υ} {req : Request} {route : RouteMatch}
    {metrics : RequestMetrics} {u : υ} {out : OutRequest}
    (hsent : .send out ∈ (p.proxy req route metrics u).1.events) (n : HeaderName) :
    out.headers.getAll n =
      if n.text ∈ filtered then [] else (req.headers.getAll n).getLast?.toList := by
  rcases proxy_events p req route metrics u hsent with ⟨ms, h⟩ | ⟨out', hrel, h⟩
  · cases h
  · cases h
    rw [hrel.headers, getAll_copyHeaders, n.toLower_text]
    simp only [List.contains_eq_mem, decide_eq_true_eq]

/-! ### The values of a header -/

/-- Of every name that is not filtered the values are sent as they are, and of no other name. -/
structure Forwards (headers out : HeaderMap) : Prop where
  values : ∀ n : HeaderName, n.text ∉ filtered → out.getAll n = headers.getAll n
  names : ∀ n : HeaderName, out.getAll n ≠ [] → n.text ∉ filtered ∧ headers.getAll n ≠ []

/-- The last element alone is the list exactly if there is at most one. -/
theorem getLast_toList_iff {α : Type} (l : List α) : l.getLast?.toList = l ↔ l.length ≤ 1 := by
  refine ⟨fun h => ?_, fun h => ?_⟩
  · rw [← h]
    cases l.getLast? with
    | none => exact Nat.zero_le 1
    | some a => exact Nat.le_refl 1
  · match l, h with
    | [], _ => rfl
    | [a], _ => rfl

/-- **The request's headers are forwarded exactly if none is repeated**, the filtered ones
apart. -/
theorem headers_forwarded_iff {p : ProxyClient υ} {req : Request} {route : RouteMatch}
    {metrics : RequestMetrics} {u : υ} {out : OutRequest}
    (hsent : .send out ∈ (p.proxy req route metrics u).1.events) :
    Forwards req.headers out.headers ↔
      ∀ n : HeaderName, n.text ∉ filtered → (req.headers.getAll n).length ≤ 1 := by
  have hvalue : ∀ n : HeaderName, n.text ∉ filtered →
      out.headers.getAll n = (req.headers.getAll n).getLast?.toList := by
    intro n hn
    rw [sent_headers hsent, if_neg hn]
  refine ⟨fun h n hn => ?_, fun h => ⟨fun n hn => ?_, fun n hn => ?_⟩⟩
  · rw [← getLast_toList_iff, ← hvalue n hn]
    exact h.values n hn
  · rw [hvalue n hn]
    exact (getLast_toList_iff _).mpr (h n hn)
  · rw [sent_headers hsent] at hn
    split at hn
    · exact absurd rfl hn
    · rename_i hfree
      refine ⟨hfree, fun hnone => hn ?_⟩
      rw [hnone]
      rfl

def cookie : HeaderName := ⟨"cookie", by decide⟩

/-- A request with these headers to a plain upstream. -/
def withHeaders (entries : List (HeaderName × HeaderValue)) : Request :=
  { Router.plainGet "/api/echo" with headers := ⟨entries⟩ }

/-- What is sent for it. -/
def sentFor (entries : List (HeaderName × HeaderValue)) : OutRequest :=
  ⟨.get, "http://localhost:3000/api/echo", copyHeaders ⟨entries⟩, [], none⟩

theorem sentFor_mem (entries : List (HeaderName × HeaderValue)) (metrics : RequestMetrics) :
    .send (sentFor entries) ∈ ((⟨Gateway.okClient⟩ : ProxyClient Unit).proxy (withHeaders entries)
      Gateway.apiMatch metrics ()).1.events := List.mem_cons_self

def sessionCookie : HeaderValue := ⟨Text.utf8 "session=31d4", by decide⟩
def themeCookie : HeaderValue := ⟨Text.utf8 "theme=dark", by decide⟩

/-- Two cookies, in a header each. -/
def twoCookies : List (HeaderName × HeaderValue) :=
  [(cookie, sessionCookie), (cookie, themeCookie)]

theorem single_forwarded :
    Forwards (withHeaders [(cookie, sessionCookie)]).headers
      (sentFor [(cookie, sessionCookie)]).headers := by
  refine (headers_forwarded_iff (sentFor_mem [(cookie, sessionCookie)] ⟨[], [], []⟩)).mpr ?_
  intro n _
  exact List.length_filterMap_le _ _

/-- Of two values one is lost. -/
theorem repeated_lost :
    .send (sentFor twoCookies) ∈ ((⟨Gateway.okClient⟩ : ProxyClient Unit).proxy
        (withHeaders twoCookies) Gateway.apiMatch ⟨[], [], []⟩ ()).1.events ∧
      (sentFor twoCookies).headers.getAll cookie = [themeCookie] ∧
      ¬ Forwards (withHeaders twoCookies).headers (sentFor twoCookies).headers := by
  refine ⟨sentFor_mem _ _, by decide, fun h => ?_⟩
  exact absurd (h.values cookie (by decide)) (by decide)

/-! ### Hop-by-hop headers -/

/-- The names that are always about one connection. -/
def hopByHop : List Text :=
  ["connection".toList, "keep-alive".toList, "proxy-authenticate".toList,
    "proxy-authorization".toList, "te".toList, "trailer".toList, "transfer-encoding".toList,
    "upgrade".toList]

def connection : HeaderName := ⟨"connection", by decide⟩
def trailer : HeaderName := ⟨"trailer", by decide⟩

/-- A `Connection` header lists the name. -/
def Nominates (headers : HeaderMap) (n : HeaderName) : Prop :=
  ∃ v ∈ headers.getAll connection, n.text.utf8 ∈ v.items

/-- The header is about the connection to the gateway. -/
def ConnectionSpecific (headers : HeaderMap) (n : HeaderName) : Prop :=
  n.text ∈ hopByHop ∨ Nominates headers n

/-- Of the fixed names only `trailer` is not filtered. -/
theorem hopByHop_filtered {s : Text} (h : s ∈ hopByHop) : s ∈ filtered ∨ s = "trailer".toList := by
  have hall : ∀ t ∈ hopByHop, t ∈ filtered ∨ t = "trailer".toList := by decide
  exact hall s h

/-- **The connection's headers stay behind exactly if** there is no `Trailer` header, and every
header of the request that `Connection` lists is in the filter list anyway. -/
theorem hop_by_hop_dropped_iff {p : ProxyClient υ} {req : Request} {route : RouteMatch}
    {metrics : RequestMetrics} {u : υ} {out : OutRequest}
    (hsent : .send out ∈ (p.proxy req route metrics u).1.events) :
    (∀ n, ConnectionSpecific req.headers n → out.headers.getAll n = []) ↔
      req.headers.getAll trailer = [] ∧
        ∀ n, Nominates req.headers n → req.headers.getAll n ≠ [] → n.text ∈ filtered := by
  have hgone : ∀ n : HeaderName, out.headers.getAll n = [] ↔
      n.text ∈ filtered ∨ req.headers.getAll n = [] := by
    intro n
    rw [sent_headers hsent]
    by_cases hn : n.text ∈ filtered
    · simp [hn]
    · simp [hn, Option.toList_eq_nil_iff]
  refine ⟨fun h => ⟨?_, fun n hn hthere => ?_⟩, fun ⟨htrailer, hlisted⟩ n hn => ?_⟩
  · exact ((hgone trailer).mp (h trailer (Or.inl (by decide)))).resolve_left (by decide)
  · exact ((hgone n).mp (h n (Or.inr hn))).resolve_right hthere
  · rw [hgone]
    rcases hn with hfixed | hnominated
    · refine (hopByHop_filtered hfixed).imp_right fun heq => ?_
      rwa [show n = trailer from HeaderName.ext_text heq]
    · by_contra hno
      rw [not_or] at hno
      exact hno.1 (hlisted n hnominated hno.2)

def close : HeaderValue := ⟨Text.utf8 "close", by decide⟩
def closeAndToken : HeaderValue := ⟨Text.utf8 "close, X-Hop-Token", by decide⟩
def hopToken : HeaderName := ⟨"x-hop-token", by decide⟩
def secret : HeaderValue := ⟨Text.utf8 "s3cr3t", by decide⟩
def checksum : HeaderValue := ⟨Text.utf8 "x-checksum", by decide⟩

/-- A request that lists a header in `Connection`, and announces a trailer. -/
def nominating : List (HeaderName × HeaderValue) :=
  [(connection, closeAndToken), (hopToken, secret), (trailer, checksum)]

/-- `Connection: close` lists a name no header has. -/
theorem close_dropped :
    (withHeaders [(connection, close)]).headers.getAll connection = [close] ∧
      ∀ n, ConnectionSpecific (withHeaders [(connection, close)]).headers n →
        (sentFor [(connection, close)]).headers.getAll n = [] := by
  refine ⟨by decide, (hop_by_hop_dropped_iff
    (sentFor_mem [(connection, close)] ⟨[], [], []⟩)).mpr ⟨by decide, ?_⟩⟩
  intro n _ hthere
  by_cases hn : connection = n
  · rw [← hn]
    decide
  · exact absurd (by simp [withHeaders, HeaderMap.getAll, hn]) hthere

/-- A listed header is sent, and so is `Trailer`. -/
theorem nominated_sent :
    .send (sentFor nominating) ∈ ((⟨Gateway.okClient⟩ : ProxyClient Unit).proxy
        (withHeaders nominating) Gateway.apiMatch ⟨[], [], []⟩ ()).1.events ∧
      (sentFor nominating).headers.getAll hopToken = [secret] ∧
      (sentFor nominating).headers.getAll trailer = [checksum] ∧
      ¬ ∀ n, ConnectionSpecific (withHeaders nominating).headers n →
        (sentFor nominating).headers.getAll n = [] := by
  refine ⟨sentFor_mem _ _, by decide, by decide, fun h => ?_⟩
  have hlisted : Nominates (withHeaders nominating).headers hopToken :=
    ⟨closeAndToken, by decide, by decide⟩
  exact absurd (h hopToken (Or.inr hlisted)) (by decide)

/-! ### The representation -/

def contentEncoding : HeaderName := ⟨"content-encoding", by decide⟩
def transferEncoding : HeaderName := ⟨"transfer-encoding", by decide⟩

/-- The body with the codings undone that the values list, the last applied first; `codec` decodes
by the name of a coding. -/
def decoded (codec : Bytes → Bytes → Option Bytes) (values : List HeaderValue) (body : Bytes) :
    Option Bytes :=
  (values.flatMap HeaderValue.items).reverse.foldlM (fun b coding => codec coding b) body

/-- The response has the upstream's status, decodes to what the upstream's decodes to, and has
the upstream's values of every other header that is not about the transfer. -/
structure Represents (codec : Bytes → Bytes → Option Bytes) (upstream r : Response) : Prop where
  status : r.status = upstream.status
  body : decoded codec (r.headers.getAll contentEncoding) r.body =
    decoded codec (upstream.headers.getAll contentEncoding) upstream.body
  headers : ∀ n, n ≠ contentEncoding → n ≠ transferEncoding →
    r.headers.getAll n = upstream.headers.getAll n

/-- **The representation is kept exactly if the body is not encoded**: undoing the upstream's
codings, if there are any, leaves it as it is. -/
theorem representation_kept_iff (codec : Bytes → Bytes → Option Bytes) (p : ProxyClient υ)
    {req : Request} (route : RouteMatch) (metrics : RequestMetrics) (u : υ) {body : Bytes}
    (hbody : req.body = .ok body) {resp : UpstreamResponse} {bytes : Bytes}
    (hresp : (executeWithRetry p.client (outRequest p.client route req req.method body) route.retry
      route.timeoutMs u).result = .ok resp) (hbytes : resp.body = .ok bytes) :
    ∃ r, (p.proxy req route metrics u).1.result = .ok r ∧
      (Represents codec ⟨resp.status, resp.headers, bytes⟩ r ↔
        decoded codec (resp.headers.getAll contentEncoding) bytes = some bytes) := by
  refine ⟨_, proxy_answered p route metrics u hbody hresp hbytes, ?_⟩
  have hvalues := resp.headers.getAll_filter fun n => !dropped n
  have hplain : (⟨resp.headers.entries.filter fun e => !dropped e.1⟩ : HeaderMap).getAll
      contentEncoding = [] := by
    rw [hvalues]
    rfl
  refine ⟨fun h => ?_, fun h => ⟨rfl, ?_, fun n hc ht => ?_⟩⟩
  · rw [← h.body, hplain]
    rfl
  · rw [hplain, h]
    rfl
  · have hkept : dropped n = false := by
      refine decide_eq_false ?_
      rintro (heq | heq)
      · exact ht (HeaderName.ext_text heq)
      · exact hc (HeaderName.ext_text heq)
    rw [hvalues, hkept]
    rfl

/-- An upstream that answers with these headers and this body. -/
def answering (headers : HeaderMap) (body : Bytes) : Client Unit where
  isUrl url := url.startsWith "http://"
  send u _ := (.ok ⟨.ok, headers, .ok body⟩, u)

/-- `hi`, compressed. -/
def gzipped : Bytes :=
  [31, 139, 8, 0, 0, 0, 0, 0, 2, 3, 203, 200, 4, 0, 172, 42, 147, 216, 2, 0, 0, 0]

/-- A decoder that knows it. -/
def gunzip (coding body : Bytes) : Option Bytes :=
  if coding = Text.utf8 "gzip" ∧ body = gzipped then some (Text.utf8 "hi") else none

def gzipHeader : HeaderMap := ⟨[(contentEncoding, ⟨Text.utf8 "gzip", by decide⟩)]⟩

theorem plain_represented :
    ∃ r, ((⟨answering .empty (Text.utf8 "hi")⟩ : ProxyClient Unit).proxy (withHeaders [])
        Gateway.apiMatch ⟨[], [], []⟩ ()).1.result = .ok r ∧
      Represents gunzip ⟨.ok, .empty, Text.utf8 "hi"⟩ r := by
  obtain ⟨r, hr, hiff⟩ := representation_kept_iff gunzip ⟨answering .empty (Text.utf8 "hi")⟩
    Gateway.apiMatch ⟨[], [], []⟩ () (show (withHeaders []).body = .ok [] from rfl) rfl rfl
  exact ⟨r, hr, hiff.mpr rfl⟩

/-- The compressed body is handed on as if it were plain. -/
theorem encoding_lost :
    ∃ r, ((⟨answering gzipHeader gzipped⟩ : ProxyClient Unit).proxy (withHeaders [])
        Gateway.apiMatch ⟨[], [], []⟩ ()).1.result = .ok r ∧
      decoded gunzip (gzipHeader.getAll contentEncoding) gzipped = some (Text.utf8 "hi") ∧
      decoded gunzip (r.headers.getAll contentEncoding) r.body = some gzipped ∧
      ¬ Represents gunzip ⟨.ok, gzipHeader, gzipped⟩ r := by
  refine ⟨⟨.ok, .empty, gzipped⟩, rfl, by decide, by decide, fun h => ?_⟩
  exact absurd h.body (by decide)

end MiniGateway.ProxyClient
