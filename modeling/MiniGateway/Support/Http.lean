import MiniGateway.Support.Text

/-!
# Support — Http

The values of an HTTP library: methods, header names and values, header maps, URIs, requests,
statuses, responses, the response builder and services.  Each type that the library refuses to
build from bad input carries its check as a field, so a value of the type is a legal one.

* `HeaderMap` is a multimap: `insert` replaces every value of a name, `append` adds one, `get`
  reads the first.  Iteration keeps the order of the values of each name; the order between
  names is not relied on.
* `Builder` remembers the first illegal status, name or value it was given and fails at `body`;
  an `unwrap` of that failure is a `Panic`.
-/

namespace MiniGateway.Http

/-- A byte string. -/
abbrev Bytes := List UInt8

/-! ### Tokens and methods -/

/-- The characters of an HTTP token. -/
def isTchar (c : Char) : Bool := c.isAlphanum || c ∈ "!#$%&'*+-.^_`|~".toList

/-- A token: one token character or more. -/
def IsToken (s : Text) : Prop := s ≠ [] ∧ s.all isTchar = true

instance (s : Text) : Decidable (IsToken s) := inferInstanceAs (Decidable (s ≠ [] ∧ _ = true))

/-- A token holds no character that is no token character; `:` is one. -/
theorem IsToken.not_mem {s : Text} (h : IsToken s) {c : Char} (hc : isTchar c = false) : c ∉ s :=
  fun hm => by rw [List.all_eq_true.mp h.2 c hm] at hc; cases hc

/-- A request method; `as_str` gives back its token. -/
structure Method where
  text : Text
  isToken : IsToken text
  deriving DecidableEq

namespace Method

/-- `Method::from_bytes`. -/
def parse (s : Text) : Option Method := if h : IsToken s then some ⟨s, h⟩ else none

def get : Method := ⟨"GET".toList, by decide⟩
def options : Method := ⟨"OPTIONS".toList, by decide⟩

@[simp] theorem parse_text (m : Method) : parse m.text = some m := dif_pos m.isToken

end Method

/-! ### Header names and values -/

/-- A name in its stored form: a token without capitals. -/
def IsName (s : Text) : Prop := IsToken s ∧ s.any Char.isUpper = false

instance (s : Text) : Decidable (IsName s) := inferInstanceAs (Decidable (IsToken s ∧ _ = false))

/-- A header name. -/
structure HeaderName where
  text : Text
  isName : IsName text
  deriving DecidableEq

/-- A name is its text. -/
theorem HeaderName.ext_text {n k : HeaderName} (h : n.text = k.text) : n = k := by
  cases n
  cases k
  cases h
  rfl

/-- `HeaderName::from_bytes`: fold the case, then check. -/
def HeaderName.parse (s : Text) : Option HeaderName :=
  if h : IsName (s.map Char.toLower) then some ⟨s.map Char.toLower, h⟩ else none

/-- A name has no capitals to fold. -/
@[simp] theorem HeaderName.toLower_text (n : HeaderName) : n.text.map Char.toLower = n.text := by
  have hfix : ∀ c ∈ n.text, c.toLower = c := fun c hc =>
    dif_neg (of_decide_eq_false (Bool.eq_false_iff.mpr (List.any_eq_false.mp n.isName.2 c hc)))
  exact (List.map_congr_left hfix).trans (List.map_id n.text)

/-- A name is read back from its text. -/
theorem HeaderName.parse_text (n : HeaderName) : parse n.text = some n := by
  have hname : IsName (n.text.map Char.toLower) := by
    rw [n.toLower_text]
    exact n.isName
  rw [parse, dif_pos hname]
  simp only [n.toLower_text]

/-- The bytes a header value may hold: no control character but the tab. -/
def isValueByte (b : UInt8) : Bool := (32 ≤ b && b != 127) || b == 9

/-- The bytes `to_str` reads: the printable ASCII characters and the tab. -/
def isVisible (b : UInt8) : Bool := (32 ≤ b && b < 127) || b == 9

/-- A header value. -/
structure HeaderValue where
  bytes : Bytes
  valid : bytes.all isValueByte = true
  deriving DecidableEq

namespace HeaderValue

/-- `HeaderValue::from_bytes`. -/
def fromBytes (bs : Bytes) : Option HeaderValue :=
  if h : bs.all isValueByte = true then some ⟨bs, h⟩ else none

/-- `HeaderValue::from_str`. -/
def fromStr (s : Text) : Option HeaderValue := fromBytes s.utf8

/-- `to_str().ok()`. -/
def toStr (v : HeaderValue) : Option Text :=
  if v.bytes.all isVisible then some (v.bytes.map fun b => Char.ofNat b.toNat) else none

/-- The items of a value that is a comma-separated list: without the blanks and tabs around them,
and in lower case. -/
def items (v : HeaderValue) : List Bytes :=
  let trimmed (item : Bytes) : Bytes :=
    ((item.dropWhile (· ∈ [32, 9])).reverse.dropWhile (· ∈ [32, 9])).reverse
  let lower (b : UInt8) : UInt8 := if 65 ≤ b ∧ b ≤ 90 then b + 32 else b
  ((v.bytes.splitOn 44).map fun item => (trimmed item).map lower).filter (· ≠ [])

/-- A visible byte is the encoding of its character. -/
theorem utf8_visible {b : UInt8} (h : isVisible b = true) :
    String.utf8EncodeChar (Char.ofNat b.toNat) = [b] := by
  have hlt : b.toNat < 128 := by
    rw [isVisible, Bool.or_eq_true, Bool.and_eq_true] at h
    rcases h with ⟨-, h⟩ | h
    · have hb := UInt8.lt_iff_toNat_lt.mp (of_decide_eq_true h)
      exact Nat.lt_trans hb (by decide)
    · rw [eq_of_beq h]
      decide
  have hv : (Char.ofNat b.toNat).val.toNat = b.toNat := by
    rw [Char.ofNat, dif_pos (Or.inl (by omega))]
    rfl
  rw [String.utf8EncodeChar]
  simp only [hv]
  rw [if_pos (by omega), UInt8.ofNat_toNat]

/-- The text of a value is encoded as the value's bytes. -/
theorem utf8_of_toStr {v : HeaderValue} {s : Text} (h : v.toStr = some s) : s.utf8 = v.bytes := by
  rw [toStr] at h
  split at h
  · rename_i hall
    cases h
    obtain ⟨bytes, _⟩ := v
    simp only at hall ⊢
    induction bytes with
    | nil => rfl
    | cons b bytes ih =>
        rw [List.all_cons, Bool.and_eq_true] at hall
        rw [List.map_cons, Text.utf8, List.flatMap_cons, utf8_visible hall.1]
        rename_i hvalid
        rw [List.all_cons, Bool.and_eq_true] at hvalid
        exact congrArg (b :: ·) (ih hvalid.2 hall.2)
  · cases h

/-- **A value is read back from its own text.** -/
theorem fromStr_of_toStr {v : HeaderValue} {s : Text} (h : v.toStr = some s) :
    fromStr s = some v := by
  rw [fromStr, utf8_of_toStr h, fromBytes, dif_pos v.valid]

/-- Two texts of values that are encoded alike are the same. -/
theorem toStr_inj {v v' : HeaderValue} {s s' : Text} (h : v.toStr = some s)
    (h' : v'.toStr = some s') (hbytes : s.utf8 = s'.utf8) : s = s' := by
  have hv : some v = some v' := by
    rw [← fromStr_of_toStr h, ← fromStr_of_toStr h', fromStr, fromStr, hbytes]
  cases hv
  rw [h] at h'
  exact Option.some.inj h'

end HeaderValue

/-! ### Header maps -/

/-- A header multimap, in iteration order. -/
structure HeaderMap where
  entries : List (HeaderName × HeaderValue)
  deriving DecidableEq

namespace HeaderMap

def empty : HeaderMap := ⟨[]⟩

/-- `get_all(name)`. -/
def getAll (m : HeaderMap) (n : HeaderName) : List HeaderValue :=
  m.entries.filterMap fun e => if e.1 = n then some e.2 else none

/-- `get(name)`: the first value. -/
def get (m : HeaderMap) (n : HeaderName) : Option HeaderValue := (m.getAll n).head?

/-- `get(s)` for a text `s`, which need not be a legal name. -/
def getStr (m : HeaderMap) (s : Text) : Option HeaderValue := (HeaderName.parse s).bind m.get

/-- `insert(name, value)`. -/
def insert (m : HeaderMap) (n : HeaderName) (v : HeaderValue) : HeaderMap :=
  ⟨m.entries.filter (fun e => e.1 ≠ n) ++ [(n, v)]⟩

/-- `append(name, value)`. -/
def append (m : HeaderMap) (n : HeaderName) (v : HeaderValue) : HeaderMap := ⟨m.entries ++ [(n, v)]⟩

theorem getAll_append (m : HeaderMap) (n k : HeaderName) (v : HeaderValue) :
    (m.append n v).getAll k = m.getAll k ++ if n = k then [v] else [] := by
  by_cases h : n = k <;> simp [append, getAll, h]

/-- A filter on the names leaves the values of a name, or takes them all. -/
theorem getAll_filter (m : HeaderMap) (p : HeaderName → Bool) (n : HeaderName) :
    (⟨m.entries.filter fun e => p e.1⟩ : HeaderMap).getAll n = if p n then m.getAll n else [] := by
  unfold getAll
  rw [List.filterMap_filter]
  cases hp : p n with
  | true =>
      refine List.filterMap_congr fun e _ => ?_
      by_cases he : e.1 = n <;> simp [he, hp]
  | false =>
      refine List.filterMap_eq_nil_iff.mpr fun e _ => ?_
      by_cases he : e.1 = n <;> simp [he, hp]

/-- The values of a name among header lines, where both parse. -/
def valuesIn (lines : List (Text × Bytes)) (n : HeaderName) : List HeaderValue :=
  lines.filterMap fun e =>
    if HeaderName.parse e.1 = some n then HeaderValue.fromBytes e.2 else none

/-- The values of the inserted name are the inserted one; every other name keeps its values. -/
theorem getAll_insert (m : HeaderMap) (n k : HeaderName) (v : HeaderValue) :
    (m.insert n v).getAll k = if n = k then [v] else m.getAll k := by
  -- an insert is a filter on the names and an append
  have happend := getAll_append ⟨m.entries.filter fun e => decide (e.1 ≠ n)⟩ n k v
  rw [getAll_filter m fun e => decide (e ≠ n)] at happend
  refine happend.trans ?_
  by_cases h : n = k
  · simp [h]
  · simp [h, Ne.symm h]

end HeaderMap

/-! ### Requests -/

/-- A request target: `path()` is empty, `*`, or starts with a slash, as the client sent it. -/
structure Uri where
  scheme : Option Text
  authority : Option Text
  path : Text
  query : Option Text
  deriving DecidableEq

/-- `uri.to_string()`. -/
def Uri.toText (u : Uri) : Text :=
  (u.scheme.elim [] (· ++ "://".toList)) ++ u.authority.getD [] ++ u.path ++
    u.query.elim [] ('?' :: ·)

/-- A request; reading its body can fail, with a message. -/
structure Request where
  method : Method
  uri : Uri
  headers : HeaderMap
  body : Except Text Bytes

/-- A peer address: the text of its IP and its port. -/
structure SocketAddr where
  ip : Text
  port : Nat
  deriving DecidableEq

/-! ### Responses -/

/-- A status code. -/
structure StatusCode where
  code : Nat
  valid : 100 ≤ code ∧ code < 1000
  deriving DecidableEq

namespace StatusCode

/-- `StatusCode::from_u16`. -/
def fromU16 (n : Nat) : Option StatusCode :=
  if h : 100 ≤ n ∧ n < 1000 then some ⟨n, h⟩ else none

/-- `StatusCode::OK`. -/
def ok : StatusCode := ⟨200, by decide⟩

def isSuccess (s : StatusCode) : Bool := 200 ≤ s.code && s.code < 300

def isServerError (s : StatusCode) : Bool := 500 ≤ s.code && s.code < 600

end StatusCode

/-- A response. -/
structure Response where
  status : StatusCode
  headers : HeaderMap
  body : Bytes
  deriving DecidableEq

/-- A panic: `unwrap` on an error. -/
inductive Panic where
  | unwrap
  deriving DecidableEq, Repr

/-- `result.unwrap()`. -/
def unwrap {ε α : Type} : Except ε α → Except Panic α
  | .ok a => .ok a
  | .error _ => .error .unwrap

/-- The first step of a computation that succeeds does. -/
theorem ok_of_bind {ε α β : Type} {f : α → Except ε β} {b : β} : ∀ {x : Except ε α},
    x >>= f = .ok b → ∃ a, x = .ok a ∧ f a = .ok b
  | .ok a, h => ⟨a, rfl, h⟩
  | .error _, h => nomatch h

/-- `Response::builder()`: the parts so far, or the text of the first error. -/
structure Builder where
  parts : Except Text (StatusCode × HeaderMap)

namespace Builder

def new : Builder := ⟨.ok (.ok, .empty)⟩

def status (b : Builder) (n : Nat) : Builder :=
  match b.parts, StatusCode.fromU16 n with
  | .ok p, some s => ⟨.ok (s, p.2)⟩
  | .ok _, none => ⟨.error "invalid status code"⟩
  | .error e, _ => ⟨.error e⟩

/-- `header(name, value)` appends. -/
def header (b : Builder) (name : Text) (value : Bytes) : Builder :=
  match b.parts, HeaderName.parse name, HeaderValue.fromBytes value with
  | .ok p, some n, some v => ⟨.ok (p.1, p.2.append n v)⟩
  | .ok _, none, _ => ⟨.error "invalid HTTP header name"⟩
  | .ok _, some _, none => ⟨.error "failed to parse header value"⟩
  | .error e, _, _ => ⟨.error e⟩

def body (b : Builder) (bs : Bytes) : Except Text Response :=
  match b.parts with
  | .ok p => .ok ⟨p.1, p.2, bs⟩
  | .error e => .error e

/-- A status is read back from its code. -/
theorem status_code (s : StatusCode) : (new.status s.code).parts = .ok (s, .empty) := by
  simp only [new, status, StatusCode.fromU16, s.valid, and_self, dite_true]

/-- A legal header can be added. -/
theorem header_parts {b : Builder} {s : StatusCode} {h : HeaderMap} (hb : b.parts = .ok (s, h))
    {name : Text} {n : HeaderName} (hn : HeaderName.parse name = some n) (v : HeaderValue) :
    (b.header name v.bytes).parts = .ok (s, h.append n v) := by
  have hvalue : HeaderValue.fromBytes v.bytes = some v := dif_pos v.valid
  simp only [header, hb, hn, hvalue]

/-- The headers of a map can be added, in their order. -/
theorem header_foldl (entries : List (HeaderName × HeaderValue)) {b : Builder} {s : StatusCode}
    {h : HeaderMap} (hb : b.parts = .ok (s, h)) :
    (entries.foldl (fun b e => b.header e.1.text e.2.bytes) b).parts =
      .ok (s, ⟨h.entries ++ entries⟩) := by
  induction entries generalizing b h with
  | nil => rw [List.append_nil]; exact hb
  | cons e entries ih =>
      rw [List.foldl_cons, ih (header_parts hb e.1.parse_text e.2), HeaderMap.append]
      simp only [List.append_assoc, List.singleton_append]

/-- Nothing illegal was given so far. -/
def Legal (b : Builder) : Prop := ∃ p, b.parts = .ok p

theorem new_legal : new.Legal := ⟨_, rfl⟩

theorem status_legal_iff (b : Builder) (n : Nat) :
    (b.status n).Legal ↔ b.Legal ∧ 100 ≤ n ∧ n < 1000 := by
  rw [Legal, Legal, status]
  rcases b.parts with e | p
  · simp
  · by_cases h : 100 ≤ n ∧ n < 1000
    · simp [StatusCode.fromU16, h]
    · simp only [StatusCode.fromU16, h, and_false, iff_false]
      exact fun ⟨p, hp⟩ => by cases hp

theorem header_legal_iff (b : Builder) (name : Text) (value : Bytes) :
    (b.header name value).Legal ↔
      b.Legal ∧ IsName (name.map Char.toLower) ∧ value.all isValueByte = true := by
  rw [Legal, Legal, header]
  rcases b.parts with e | p
  · simp
  · by_cases hn : IsName (name.map Char.toLower)
    · by_cases hv : value.all isValueByte = true
      · simp only [HeaderName.parse, dif_pos hn, HeaderValue.fromBytes, dif_pos hv]
        exact iff_of_true ⟨_, rfl⟩ ⟨⟨p, rfl⟩, hn, hv⟩
      · simp only [HeaderName.parse, dif_pos hn, HeaderValue.fromBytes, dif_neg hv]
        exact iff_of_false (fun ⟨p, hp⟩ => by cases hp) fun h => hv h.2.2
    · simp only [HeaderName.parse, dif_neg hn]
      exact iff_of_false (fun ⟨p, hp⟩ => by cases hp) fun h => hn h.2.1

/-- `body` fails exactly on a builder that was given something illegal. -/
theorem unwrap_body_iff (b : Builder) (bs : Bytes) :
    (∃ r, unwrap (b.body bs) = .ok r) ↔ b.Legal := by
  rw [Legal, body]
  rcases b.parts with e | p
  · exact iff_of_false (fun ⟨r, h⟩ => by cases h) fun ⟨q, h⟩ => by cases h
  · exact iff_of_true ⟨_, rfl⟩ ⟨p, rfl⟩

theorem body_of_unwrap {b : Builder} {bs : Bytes} {r : Response}
    (h : unwrap (b.body bs) = .ok r) : r.body = bs := by
  rw [body] at h
  rcases hp : b.parts with e | p
  · rw [hp] at h
    cases h
  · rw [hp] at h
    cases h
    rfl

/-- Whatever the builder can still give satisfies `P`. -/
def Gives (b : Builder) (P : StatusCode × HeaderMap → Prop) : Prop := ∀ p, b.parts = .ok p → P p

/-- One more header: what holds of the parts with it, whenever it can be added. -/
theorem Gives.header {b : Builder} {P Q : StatusCode × HeaderMap → Prop} (h : b.Gives P)
    {name : Text} {value : Bytes}
    (hstep : ∀ p n v, P p → HeaderName.parse name = some n → HeaderValue.fromBytes value = some v →
      Q (p.1, p.2.append n v)) : (b.header name value).Gives Q := by
  intro p hp
  rw [Builder.header] at hp
  split at hp
  · rename_i q n v hq hn hv
    cases hp
    exact hstep q n v (h q hq) hn hv
  · cases hp
  · cases hp
  · cases hp

/-- More header lines: each name has its values among them, whenever they can all be added. -/
theorem Gives.header_foldl (lines : List (Text × Bytes)) {b : Builder} {s : StatusCode}
    {before : HeaderName → List HeaderValue}
    (h : b.Gives fun p => p.1 = s ∧ ∀ n, p.2.getAll n = before n) :
    (lines.foldl (fun b e => b.header e.1 e.2) b).Gives fun p =>
      p.1 = s ∧ ∀ n, p.2.getAll n = before n ++ HeaderMap.valuesIn lines n := by
  induction lines generalizing b before with
  | nil =>
      simpa only [List.foldl_nil, HeaderMap.valuesIn, List.filterMap_nil, List.append_nil] using h
  | cons e lines ih =>
      have hstep : (b.header e.1 e.2).Gives fun p =>
          p.1 = s ∧ ∀ n, p.2.getAll n = before n ++ HeaderMap.valuesIn [e] n := by
        refine h.header fun p k v ⟨hs, hall⟩ hk hv => ⟨hs, fun n => ?_⟩
        rw [HeaderMap.getAll_append, hall]
        by_cases hn : k = n
        · simp [HeaderMap.valuesIn, hk, hv, hn]
        · simp [HeaderMap.valuesIn, hk, hn]
      intro p hp
      obtain ⟨hs, hall⟩ := ih hstep p hp
      refine ⟨hs, fun n => ?_⟩
      rw [hall, List.append_assoc]
      refine congrArg (before n ++ ·) ?_
      rw [HeaderMap.valuesIn, HeaderMap.valuesIn, HeaderMap.valuesIn, ← List.filterMap_append]
      rfl

theorem Gives.body {b : Builder} {P : StatusCode × HeaderMap → Prop} (h : b.Gives P) {bs : Bytes}
    {r : Response} (hr : unwrap (b.body bs) = .ok r) : P (r.status, r.headers) := by
  rw [Builder.body] at hr
  split at hr
  · rename_i p hp
    cases hr
    exact h p hp
  · cases hr

end Builder

/-! ### Services -/

/-- A service: `call` answers a request, fails with an `ε` or panics, over the state `σ` it acts
on. -/
structure Service (σ ε : Type) where
  call : σ → Request → Except Panic (Except ε Response) × σ

/-- The same, with the call and its future apart: `call` acts on the state at once, the future
when it is awaited. -/
structure AsyncService (σ ε : Type) where
  call : σ → Request → (σ → Except Panic (Except ε Response) × σ) × σ

end MiniGateway.Http
