import MiniGateway.Properties.Answers
import MiniGateway.Properties.AuthService
import MiniGateway.Properties.Exits
import MiniGateway.Support.JsonText

/-!
# Properties — Error bodies

The bodies of the 401 answers and of the answers to an error of the proxy.  They are put together
from the text of the error as it is, and so are the JSON they are meant to be exactly if that text
has nothing in it that a JSON string has to escape (`error_bodies_json_iff`).
-/

namespace MiniGateway

open Http Json

/-! ### The object -/

/-- The bytes are JSON: an object with the two members `error` and `message`, both strings, the
second of them `message`. -/
def IsErrorObject (message : Text) (bytes : Bytes) : Prop :=
  ∃ text : Text, text.utf8 = bytes ∧ ∃ error members,
    members.Perm [("error".toList, .str error), ("message".toList, .str message)] ∧
      IsDocument text (.obj members)

namespace Gateway

variable {error message : Text}

theorem errorBody_eq (error message : Text) :
    errorBody error message = twoMembers "error" error "message" message := by
  have hopen : "\x7b\"error\":\"".toList = '{' :: '"' :: ("error".toList ++ ['"', ':', '"']) := by
    decide
  have hnext : "\",\"message\":\"".toList =
      '"' :: ',' :: '"' :: ("message".toList ++ ['"', ':', '"']) := by decide
  have hclose : "\"\x7d".toList = ['"', '}'] := by decide
  have htokens : ∀ k₁ k₂ : Text, ('{' :: '"' :: (k₁ ++ ['"', ':', '"'])) ++ error ++
      ('"' :: ',' :: '"' :: (k₂ ++ ['"', ':', '"'])) ++ message ++ ['"', '}'] =
        twoMembers k₁ error k₂ message := by
    intro k₁ k₂
    simp only [twoMembers, List.append_assoc, List.cons_append, List.nil_append]
  exact (congrArg₂ (· ++ ·) (congrArg (· ++ message) (congrArg₂ (· ++ ·)
    (congrArg (· ++ error) hopen) hnext)) hclose).trans (htokens _ _)

/-- **A body is the object it is meant to be exactly if the message is plain.** -/
theorem errorBody_iff (he : error.all isPlain = true) :
    IsErrorObject message (errorBody error message).utf8 ↔ message.all isPlain = true := by
  have hne : "error".toList ≠ "message".toList := by decide
  rw [← twoMembers_iff (by decide) he (by decide) hne, ← errorBody_eq]
  refine ⟨?_, fun h => ⟨_, rfl, h⟩⟩
  rintro ⟨text, hbytes, h⟩
  rwa [Utf8.utf8_inj hbytes] at h

/-- The body of a reply is the one it was made with. -/
theorem plainReply_body {status : Nat} {name value body : Text} {r : Response}
    (h : plainReply status name value body = .ok r) : r.body = body.utf8 :=
  Builder.body_of_unwrap h

/-- A 401 is a response whose body is the object exactly if the message is plain. -/
theorem unauthorized_json_iff (message : Text) :
    ∃ r, unauthorized message = .ok r ∧
      (IsErrorObject message r.body ↔ message.all isPlain = true) := by
  obtain ⟨r, hr, -⟩ := unauthorized_status message
  refine ⟨r, hr, ?_⟩
  rw [plainReply_body hr]
  exact errorBody_iff (by decide)

/-- The same of the answer to an error, whose `error` member is its status. -/
theorem errorReply_json_iff (e : GatewayError) :
    ∃ r, errorReply e = .ok r ∧
      (IsErrorObject e.toText r.body ↔ e.toText.all isPlain = true) := by
  obtain ⟨r, hr, -⟩ := errorReply_status e
  refine ⟨r, hr, ?_⟩
  rw [plainReply_body hr]
  exact errorBody_iff (isPlain_ofNat _)

end Gateway

/-! ### The answers -/

/-- The service refuses the request, and this is what it says about it. -/
def AuthService.Refuses (J : TokenDecoder) (now : Nat) (auth : AuthLayer) (req : Request)
    (message : Text) : Prop :=
  auth.config.enabled = true ∧ auth.isExcludedPath req.uri.path = false ∧
    (AuthLayer.extractToken req = none ∧ message = "Missing or invalid token".toList ∨
      ∃ token e, AuthLayer.extractToken req = some token ∧
        auth.validateJwt J now token = .error e ∧ message = e.toText)

theorem AuthService.call_refused {J : TokenDecoder} {now : Nat} {σ ε : Type}
    (service : AuthService σ ε) (s : σ) {req : Request} {message : Text}
    (h : AuthService.Refuses J now service.config req message) :
    (service.call J now s req).1 = (Gateway.unauthorized message).map .ok := by
  obtain ⟨hen, hx, ⟨htoken, rfl⟩ | ⟨token, e, htoken, herror, rfl⟩⟩ := h
  · simp only [call, hen, hx, htoken, Bool.not_true, Bool.or_self, Bool.false_eq_true, if_false]
  · simp only [call, hen, hx, htoken, herror, Bool.not_true, Bool.or_self, Bool.false_eq_true,
      if_false]

/-- **Error bodies.**  What `handle_request` answers to a request it rejects or to an error of the
proxy, and what `AuthService` answers to a request it refuses, is JSON with the text of the error
exactly if that text has no quote, no backslash and no control character in it. -/
theorem error_bodies_json_iff {ρ lim κ υ δ σ ε : Type} (L : Libraries ρ lim κ υ δ)
    (g : Gateway ρ lim κ υ δ) (req : Request) (client : SocketAddr) (id : Text)
    (w : World lim κ υ δ) (J : TokenDecoder) (now : Nat) (service : AuthService σ ε) (s : σ) :
    (∀ metrics message, g.exit L req id w = .rejected metrics message →
      ∃ r, (g.handleRequest L req client id w).reply = .ok r ∧
        (IsErrorObject message r.body ↔ message.all isPlain = true)) ∧
    (∀ lookedUp route metrics req' e,
      g.exit L req id w = .forwarded lookedUp route metrics req' →
      (g.proxyClient.proxy req' route metrics w.upstream).1.result = .error e →
      ∃ r, (g.handleRequest L req client id w).reply = .ok r ∧
        (IsErrorObject e.toText r.body ↔ e.toText.all isPlain = true)) ∧
    ∀ message, AuthService.Refuses J now service.config req message →
      ∃ r, (service.call J now s req).1 = .ok (.ok r) ∧
        (IsErrorObject message r.body ↔ message.all isPlain = true) := by
  refine ⟨fun metrics message hexit => ?_, fun lookedUp route metrics req' e hexit he => ?_,
    fun message hrefuses => ?_⟩
  · rw [(Gateway.handleRequest_exit L g req client id w).reply, hexit]
    exact Gateway.unauthorized_json_iff message
  · rw [(Gateway.handleRequest_exit L g req client id w).reply, hexit, Gateway.Exit.reply, he]
    exact Gateway.errorReply_json_iff e
  · obtain ⟨r, hr, hiff⟩ := Gateway.unauthorized_json_iff message
    refine ⟨r, ?_, hiff⟩
    rw [AuthService.call_refused service s hrefuses, hr]
    rfl

/-- A token whose header asks for the algorithm `a"b`. -/
def quotedToken : Text := "eyJhbGciOiJhXCJiIn0.e30.c2ln"

/-- What the decoder has to say about it. -/
def quotedError : Text :=
  "JSON error: unknown variant `a".toList ++
    '"' :: "b`, expected one of `HS256`, `HS384`, ".toList ++
    "`HS512`, `ES256`, `ES384`, `RS256`, `RS384`, `RS512`, `PS256`, `PS384`, `PS512`, ".toList ++
    "`EdDSA` at line 1 column 13".toList

theorem quote_mem_quotedError : '"' ∈ quotedError :=
  List.mem_append_left _ (List.mem_append_left _ (List.mem_append_right _ List.mem_cons_self))

/-- A decoder that knows no other token. -/
def quotedDecoder : TokenDecoder where
  verify token _ := .error (if token = quotedToken then quotedError else "InvalidSignature")
  decode _ token _ _ := .error (if token = quotedToken then quotedError else "InvalidSignature")

theorem refuses_unsigned : AuthService.Refuses quotedDecoder 0 AuthLayer.pinnedLayer
    (Gateway.tokenGet "/api/users" "e30.e30.c2ln") "Invalid token: InvalidSignature" := by
  refine ⟨by decide, by decide, Or.inr ⟨"e30.e30.c2ln", .invalidToken "InvalidSignature",
    Gateway.extractToken_tokenGet _ (by decide), by decide, by decide⟩⟩

theorem refuses_quoted : AuthService.Refuses quotedDecoder 0 AuthLayer.pinnedLayer
    (Gateway.tokenGet "/api/users" quotedToken) ("Invalid token: ".toList ++ quotedError) := by
  refine ⟨by decide, by decide, Or.inr ⟨quotedToken, .invalidToken quotedError,
    Gateway.extractToken_tokenGet _ (by decide), rfl, rfl⟩⟩

/-- An ordinary message is fine. -/
theorem unsigned_json :
    ∃ r, (AuthService.call quotedDecoder 0 ⟨Gateway.headerService, AuthLayer.pinnedLayer⟩ ()
        (Gateway.tokenGet "/api/users" "e30.e30.c2ln")).1 = .ok (.ok r) ∧
      IsErrorObject "Invalid token: InvalidSignature" r.body := by
  obtain ⟨r, hr, hiff⟩ := (error_bodies_json_iff Gateway.tokenLibraries Gateway.guarded _
    Gateway.peer "id" (Gateway.freshWorld 0) quotedDecoder 0
    ⟨Gateway.headerService, AuthLayer.pinnedLayer⟩ ()).2.2 _ refuses_unsigned
  exact ⟨r, hr, hiff.mpr (by decide)⟩

/-- One with a quote in it, which anyone can bring about, is not. -/
theorem quoted_not_json :
    AuthService.Refuses quotedDecoder 0 AuthLayer.pinnedLayer
        (Gateway.tokenGet "/api/users" quotedToken) ("Invalid token: ".toList ++ quotedError) ∧
      ∃ r, (AuthService.call quotedDecoder 0 ⟨Gateway.headerService, AuthLayer.pinnedLayer⟩ ()
          (Gateway.tokenGet "/api/users" quotedToken)).1 = .ok (.ok r) ∧
        ¬ IsErrorObject ("Invalid token: ".toList ++ quotedError) r.body := by
  obtain ⟨r, hr, hiff⟩ := Gateway.unauthorized_json_iff ("Invalid token: ".toList ++ quotedError)
  refine ⟨refuses_quoted, r, ?_, fun h => ?_⟩
  · rw [AuthService.call_refused ⟨Gateway.headerService, AuthLayer.pinnedLayer⟩ () refuses_quoted,
      hr]
    rfl
  · have hquote := List.all_eq_true.mp (hiff.mp h) '"'
      (List.mem_append_right _ quote_mem_quotedError)
    exact absurd hquote (by decide)

end MiniGateway
