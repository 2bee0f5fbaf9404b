import Mathlib.Tactic.IntervalCases
import MiniGateway.Properties.Exits

/-!
# Properties — Unwraps

When handling a request panics.  Three of the exits unwrap a header or a builder that was given
text from outside: the answer to a preflight, which joins configured lists; the answer out of the
cache, which repeats what is stored; and the CORS headers of an upstream's answer.  Nothing checks
that text beforehand.

`handle_request` replies exactly when the text its exit uses is legal (`replies_iff`).
-/

namespace MiniGateway

open Http

/-! ### Legal text -/

/-- A text that can stand in a header. -/
def IsValue (s : Text) : Prop := s.utf8.all isValueByte = true

instance (s : Text) : Decidable (IsValue s) := inferInstanceAs (Decidable (_ = true))

theorem isValue_iff_fromStr {s : Text} : IsValue s ↔ ∃ v, HeaderValue.fromStr s = some v := by
  rw [IsValue, HeaderValue.fromStr, HeaderValue.fromBytes]
  by_cases h : s.utf8.all isValueByte = true
  · rw [dif_pos h]
    exact iff_of_true h ⟨_, rfl⟩
  · rw [dif_neg h]
    refine iff_of_false h ?_
    rintro ⟨v, hv⟩
    cases hv

/-- A digit is encoded as a legal byte. -/
theorem utf8_digit {c : Char} (h : c.isDigit = true) :
    (String.utf8EncodeChar c).all isValueByte = true := by
  rw [Char.isDigit, Bool.and_eq_true, decide_eq_true_eq, decide_eq_true_eq] at h
  have hlo : 48 ≤ c.toNat := h.1
  have hhi : c.toNat ≤ 57 := h.2
  rw [← Char.ofNat_toNat c]
  generalize c.toNat = n at hlo hhi
  interval_cases n <;> decide

/-- The decimal digits of a number can stand in a header. -/
theorem isValue_ofNat (n : Nat) : IsValue (Text.ofNat n) := by
  rw [IsValue, Text.utf8, List.all_flatMap, List.all_eq_true]
  intro c hc
  exact utf8_digit (Nat.isDigit_of_mem_toDigits (by decide) (by decide) hc)

/-- The origin of a request comes from a header. -/
theorem isValue_originOf (headers : HeaderMap) : IsValue (Gateway.originOf headers) := by
  obtain ⟨v, hv⟩ := Gateway.originOf_toStr headers
  exact isValue_iff_fromStr.mpr ⟨v, HeaderValue.fromStr_of_toStr hv⟩

/-- The configured lists of a preflight's answer, joined, can stand in headers. -/
structure CorsLayer.Writable (cors : CorsLayer) : Prop where
  allowMethods : IsValue (Text.join cors.allowMethods ", ")
  allowHeaders : IsValue (Text.join cors.allowHeaders ", ")
  exposeHeaders : cors.exposeHeaders ≠ [] → IsValue (Text.join cors.exposeHeaders ", ")

/-! ### Replies -/

section Preflight

variable (cors : CorsLayer) (b : Builder)

theorem credentials_legal_iff : (if cors.allowCredentials then
    b.header "Access-Control-Allow-Credentials" (Text.utf8 "true") else b).Legal ↔ b.Legal := by
  cases cors.allowCredentials with
  | false => exact Iff.rfl
  | true => exact (Builder.header_legal_iff b _ _).trans (and_iff_left ⟨by decide, by decide⟩)

theorem lists_legal_iff : ((b.header "Access-Control-Allow-Methods"
    (Text.join cors.allowMethods ", ").utf8).header "Access-Control-Allow-Headers"
    (Text.join cors.allowHeaders ", ").utf8).Legal ↔ b.Legal ∧
      IsValue (Text.join cors.allowMethods ", ") ∧ IsValue (Text.join cors.allowHeaders ", ") := by
  have hmethods : IsName ("Access-Control-Allow-Methods".toList.map Char.toLower) := by decide
  have hheaders : IsName ("Access-Control-Allow-Headers".toList.map Char.toLower) := by decide
  rw [Builder.header_legal_iff, Builder.header_legal_iff, and_iff_right hmethods,
    and_iff_right hheaders, and_assoc]
  exact Iff.rfl

theorem expose_legal_iff : (if cors.exposeHeaders.isEmpty then b else
    b.header "Access-Control-Expose-Headers" (Text.join cors.exposeHeaders ", ").utf8).Legal ↔
    b.Legal ∧ (cors.exposeHeaders ≠ [] → IsValue (Text.join cors.exposeHeaders ", ")) := by
  cases cors.exposeHeaders with
  | nil => exact (and_iff_left fun h => absurd rfl h).symm
  | cons name names =>
      refine (Builder.header_legal_iff b _ _).trans (and_congr_right fun _ => ?_)
      exact ⟨fun h _ => h.2, fun h => ⟨by decide, h (List.cons_ne_nil _ _)⟩⟩

end Preflight

/-- **A preflight is answered exactly if the configured lists are legal.** -/
theorem CorsLayer.buildPreflightResponse_ok_iff (cors : CorsLayer) {origin : Text}
    (horigin : IsValue origin) :
    (∃ r, cors.buildPreflightResponse origin = .ok r) ↔ cors.Writable := by
  have hfirst : ((Builder.new.status 204).header "Access-Control-Allow-Origin"
      origin.utf8).Legal :=
    (Builder.header_legal_iff _ _ _).mpr
      ⟨(Builder.status_legal_iff _ _).mpr ⟨Builder.new_legal, by decide, by decide⟩, by decide,
        horigin⟩
  have hage : IsName ("Access-Control-Max-Age".toList.map Char.toLower) := by decide
  rw [buildPreflightResponse, Builder.unwrap_body_iff]
  refine (expose_legal_iff cors _).trans ?_
  have hlists := (lists_legal_iff cors _).trans
    (and_iff_right ((credentials_legal_iff cors _).mpr hfirst))
  cases cors.maxAge with
  | none =>
      simp only
      rw [hlists]
      exact ⟨fun h => ⟨h.1.1, h.1.2, h.2⟩, fun h => ⟨⟨h.1, h.2⟩, h.3⟩⟩
  | some age =>
      simp only
      rw [Builder.header_legal_iff, hlists]
      exact ⟨fun h => ⟨h.1.1.1, h.1.1.2, h.2⟩,
        fun h => ⟨⟨⟨h.1, h.2⟩, hage, isValue_ofNat age⟩, h.3⟩⟩

namespace Gateway

variable {ρ lim κ υ δ : Type} {L : Libraries ρ lim κ υ δ} {g : Gateway ρ lim κ υ δ}

/-- The layer's answer to a preflight: with the configured lists. -/
theorem preflight_ok_iff {req : Request} {reply : Except Panic Response}
    (h : g.preflight req = some reply) :
    (∃ r, reply = .ok r) ↔ ∀ cors, g.corsLayer = some cors → cors.Writable := by
  rw [preflight] at h
  split at h
  · rename_i cors hc
    split at h
    · split at h
      · cases h
        rw [hc, CorsLayer.buildPreflightResponse_ok_iff cors (isValue_originOf req.headers)]
        exact ⟨fun hw cors' hc' => by cases hc'; exact hw, fun hw => hw cors rfl⟩
      · cases h
    · cases h
  · cases h

/-- The CORS headers are put on the response. -/
def Annotates (cors : CorsLayer) (response : Response) : Prop :=
  originOf response.headers ≠ [] ∧ cors.isOriginAllowed (originOf response.headers) = true

/-- **The in-line CORS step** panics exactly on a list of exposed headers that is not legal. -/
theorem withCors_ok_iff (response : Response) :
    (∃ r, g.withCors response = .ok r) ↔
      ∀ cors, g.corsLayer = some cors → Annotates cors response → cors.Exposable := by
  rw [withCors]
  cases hc : g.corsLayer with
  | none => exact iff_of_true ⟨response, rfl⟩ fun cors h => by cases h
  | some cors =>
      simp only [Bool.and_eq_true, Bool.not_eq_true', List.isEmpty_eq_false_iff, Option.some.injEq,
        forall_eq', Annotates]
      split
      · rename_i hann
        rcases cors.addCorsHeaders_cases response response.headers with ⟨r, hr, -, hex⟩ |
            ⟨hpanic, hno⟩
        · exact iff_of_true ⟨r, hr⟩ fun _ => hex
        · rw [hpanic]
          refine iff_of_false ?_ fun h => hno (h hann)
          rintro ⟨r, h⟩
          cases h
      · rename_i hann
        exact iff_of_true ⟨response, rfl⟩ fun h => absurd h hann

/-! ### Every request -/

/-- The text from outside that the exit unwraps is legal, under this CORS layer. -/
def Exit.Unwraps (cors : Option CorsLayer) (g : Gateway ρ lim κ υ δ) (u : υ) : Exit → Prop
  | .preflight _ => ∀ c, cors = some c → c.Writable
  | .hit _ cached => cached.Legal
  | .forwarded _ route metrics req => ∀ response,
      (g.proxyClient.proxy req route metrics u).1.result = .ok response →
      ∀ c, cors = some c → Annotates c response → c.Exposable
  | .unrouted | .rejected .. | .limited _ => True

/-- An exit with the answer to a preflight has that of the layer. -/
theorem preflight_of_exit {req : Request} {id : Text} {w : World lim κ υ δ}
    {reply : Except Panic Response} (he : g.exit L req id w = .preflight reply) :
    g.preflight (g.stampRequestId id req) = some reply := by
  rw [exit] at he
  split at he
  · cases he
  · simp only at he
    split at he
    · rename_i hp
      cases he
      exact hp
    · split at he
      · cases he
      · rw [letIn] at he
        split at he
        · split at he
          · cases he
          · cases he
        · cases he

/-- **An exit replies exactly if its text is legal.** -/
theorem exit_reply_ok_iff (L : Libraries ρ lim κ υ δ) (g : Gateway ρ lim κ υ δ) (req : Request)
    (id : Text) (w : World lim κ υ δ) :
    (∃ r, (g.exit L req id w).reply g w.upstream = .ok r) ↔
      (g.exit L req id w).Unwraps g.corsLayer g w.upstream := by
  cases he : g.exit L req id w with
  | unrouted => exact iff_of_true ⟨_, rfl⟩ trivial
  | preflight reply => exact preflight_ok_iff (preflight_of_exit he)
  | rejected metrics message =>
      obtain ⟨r, hr, -⟩ := unauthorized_status message
      exact iff_of_true ⟨r, hr⟩ trivial
  | limited metrics => exact iff_of_true ⟨_, rfl⟩ trivial
  | hit metrics cached => exact hitReply_ok_iff cached
  | forwarded lookedUp route metrics req' =>
      simp only [Exit.reply, Exit.Unwraps]
      cases (g.proxyClient.proxy req' route metrics w.upstream).1.result with
      | ok response => simp only [withCors_ok_iff, Except.ok.injEq, forall_eq']
      | error e =>
          obtain ⟨r, hr, -⟩ := errorReply_status e
          exact iff_of_true ⟨r, hr⟩ fun response h => by cases h

/-- **When handling a request replies.**  Under any configuration that is admitted, a request
reaches a response exactly when the configured or stored text that its exit unwraps is legal. -/
theorem replies_iff {config : GatewayConfig} {d₀ d₁ : δ} (hnew : new L config d₀ = .ok (g, d₁))
    (req : Request) (client : SocketAddr) (id : Text) (w : World lim κ υ δ) :
    (∃ r, (g.handleRequest L req client id w).reply = .ok r) ↔
      (g.exit L req id w).Unwraps (corsLayerOf config) g w.upstream := by
  rw [(handleRequest_exit L g req client id w).reply, ← (new_built hnew).cors]
  exact exit_reply_ok_iff L g req id w

/-- A CORS section with a line break in a method. -/
def brokenCors : CorsConfig := { openCors with allowMethods := ["GET\n".toList] }

/-- With the lists of the demo configuration, a preflight is answered. -/
theorem replies_to_preflight :
    ∃ r, ((crossGateway apiRoutes openCors).handleRequest tokenLibraries
      (fromOrigin .options "/api/echo" exampleOrigin) peer "id" (freshWorld 0)).reply = .ok r := by
  refine (replies_iff (new_cross _ apiRoutes rfl) _ peer "id" (freshWorld 0)).mpr ?_
  rintro cors ⟨⟩
  exact ⟨by decide, by decide, fun _ => by decide⟩

/-- The broken section is admitted, and a preflight panics. -/
theorem preflight_panics :
    new tokenLibraries (crossConfig apiRoutes brokenCors) () =
        .ok (crossGateway apiRoutes brokenCors, ()) ∧
      ((crossGateway apiRoutes brokenCors).handleRequest tokenLibraries
        (fromOrigin .options "/api/echo" exampleOrigin) peer "id" (freshWorld 0)).reply =
        .error .unwrap ∧
      hitReply ⟨1000, [], []⟩ = .error .unwrap :=
  ⟨new_cross _ apiRoutes rfl, by decide, by decide⟩

end Gateway

end MiniGateway
