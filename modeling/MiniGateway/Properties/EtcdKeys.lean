import MiniGateway.Properties.Discovery
import MiniGateway.Support.Base64

/-!
# Properties — EtcdKeys

Whose values the Etcd client returns.  `health_check` asks for the keys from `/services/s` up to
the end that `range_end` makes of it.  That range has no end of a name in it: it takes in every
service whose name starts with `s`, and more where the last byte of `s` cannot be incremented.
`Reaches s t` says it of the names, and the services `s` and `t` are kept apart exactly if it does
not hold (`etcd_isolated_iff`).

Of the byte strings, the range has the ones in it that start with the key, exactly if the last
character of the name does not take a carry (`range_end_successor_iff`).
-/

namespace MiniGateway

open Http Concurrent

namespace EtcdDiscovery

/-! ### What etcd holds -/

/-- A key and its value. -/
abbrev Entry := Bytes × Bytes

/-- A key of the service `n`: `/services/n`, or one that starts with `/services/n/`. -/
def KeyOf (n : Text) (k : Bytes) : Prop :=
  k = Text.utf8 ("/services/".toList ++ n) ∨
    ∃ x, k = Text.utf8 ("/services/".toList ++ n) ++ 0x2F :: x

/-- `key ≤ k < last`, in the order of the bytes. -/
def InRange (key last k : Bytes) : Prop := key ≤ k ∧ k < last

instance (key last k : Bytes) : Decidable (InRange key last k) :=
  inferInstanceAs (Decidable (_ ∧ _))

/-- An entry as it stands in a response. -/
def encoded (W : WebLibraries) (e : Entry) : EtcdKeyValue := ⟨W.encode e.1, W.encode e.2⟩

/-- A registry that holds `content`: a range request that it answers gives the entries of the
range. -/
def Serves (W : WebLibraries) (content : List Entry) (answer : EtcdQuery → RegistryReply) : Prop :=
  ∀ q key last response, W.decode q.request.key = some key →
    q.request.rangeEnd.bind W.decode = some last →
    QueryGives W EtcdRangeResponse.fromJson (answer q) response →
    response.kvs = (content.filter fun e => InRange key last e.1).map (encoded W)

/-- The endpoint an entry stands for: its value, trimmed, unless that is empty. -/
def storedEndpoint (e : Entry) : Option Text :=
  let endpoint := (Utf8.fromUtf8Lossy e.2).trimUnicode
  if endpoint.isEmpty then none else some endpoint

/-- **`s` is isolated from `t`**: the endpoints `health_check(s)` returns are those of entries that
have no key of `t`. -/
def Isolated (s t : Text) : Prop :=
  ∀ (W : WebLibraries) (config : DiscoveryConfig) (c : EtcdDiscovery),
    (∀ bytes, W.decode (W.encode bytes) = some bytes) → new W config = .ok c →
    ∀ content answer entries endpoints, Serves W content answer →
      ((c.programs W).service.healthCheck (entries, answer) s).1 = .ok endpoints →
      ∃ kept : List Entry, kept.Sublist content ∧ (∀ e ∈ kept, ¬ KeyOf t e.1) ∧
        endpoints = kept.filterMap storedEndpoint

/-! ### The range of a service -/

/-- The range that is asked for. -/
def Asked (s : Text) (k : Bytes) : Prop :=
  InRange (Text.utf8 ("/services/".toList ++ s))
    (Text.utf8 (rangeEnd ("/services/".toList ++ s))) k

instance (s : Text) (k : Bytes) : Decidable (Asked s k) := inferInstanceAs (Decidable (InRange ..))

theorem new_keyPrefix {W : WebLibraries} {config : DiscoveryConfig} {c : EtcdDiscovery}
    (h : new W config = .ok c) : c.keyPrefix = "/services/".toList := by
  rw [new] at h
  cases hp : config.provider with
  | consul address dc =>
      rw [hp] at h
      cases h
  | etcd endpoints =>
      simp only [hp] at h
      obtain ⟨_, -, hc⟩ := ok_of_bind h
      cases hc
      rfl

theorem healthCheck_fst (W : WebLibraries) (c : EtcdDiscovery) (s : Text)
    (entries : Text → Option (List Text)) (answer : EtcdQuery → RegistryReply) :
    ((c.programs W).service.healthCheck (entries, answer) s).1 =
      extract W (answer (c.query W s)) := by
  have hrun : (c.programs W).service.healthCheck (entries, answer) s =
      (((c.healthCheck W s).run answer entries).1,
        ((c.healthCheck W s).run answer entries).2, answer) := rfl
  rw [hrun, healthCheck, Prog.send]
  simp only [bind, Prog.bind, Prog.run]
  cases extract W (answer (c.query W s)) <;> rfl

theorem endpointOf_encoded {W : WebLibraries}
    (hround : ∀ bytes, W.decode (W.encode bytes) = some bytes) (e : Entry) :
    endpointOf W (encoded W e) = storedEndpoint e := by
  rw [endpointOf, encoded, hround]
  rfl

/-- **What `health_check` returns**: the endpoints of the entries in the range. -/
theorem healthCheck_asked {W : WebLibraries} {config : DiscoveryConfig} {c : EtcdDiscovery}
    (hround : ∀ bytes, W.decode (W.encode bytes) = some bytes) (hnew : new W config = .ok c)
    {content : List Entry} {answer : EtcdQuery → RegistryReply} (hserves : Serves W content answer)
    {entries : Text → Option (List Text)} {s : Text} {endpoints : List Text}
    (hcheck : ((c.programs W).service.healthCheck (entries, answer) s).1 = .ok endpoints) :
    endpoints = (content.filter fun e => Asked s e.1).filterMap storedEndpoint := by
  rw [healthCheck_fst, extract_eq_ok_iff] at hcheck
  obtain ⟨response, hgives, rfl⟩ := hcheck
  have hkey : c.serviceKey s = "/services/".toList ++ s := by rw [serviceKey, new_keyPrefix hnew]
  have hkvs := hserves (c.query W s) _ _ response (hround _) (hround _) hgives
  rw [← filterMap_endpointOf, hkvs, List.filterMap_map, hkey]
  exact List.filterMap_congr fun e _ => endpointOf_encoded hround e

theorem rangeEnd_concat (u : Text) (c : Char) : rangeEnd (u ++ [c]) = u ++ Utf8.nextOf c := by
  obtain ⟨i, b, hbytes, hread⟩ := Utf8.fromUtf8Lossy_increment u c
  simp only [rangeEnd, hbytes, List.getLast?_concat, List.dropLast_concat, hread]

/-- **The range of `s` has the key of `t` in it**, said of the names: `t` starts with `s`.  Where
the last byte of `s` takes a carry, the range goes up to the character that stands for invalid
bytes.  The empty name has every key in its range. -/
def Reaches (s t : Text) : Prop :=
  match s.getLast? with
  | none => True
  | some c =>
      if Utf8.Carries c then ¬ t < s ∧ t < s.dropLast ++ Utf8.nextOf c
      else s <+: t

theorem reaches_concat_iff {u t : Text} {c : Char} :
    Reaches (u ++ [c]) t ↔ ¬ t < u ++ [c] ∧ t < u ++ Utf8.nextOf c := by
  rw [Reaches, List.getLast?_concat]
  by_cases hcar : Utf8.Carries c
  · simp only [if_pos hcar, List.dropLast_concat]
  · simp only [if_neg hcar, Utf8.nextOf]
    rw [← Utf8.utf8_prefix_iff, ← Utf8.between_next_iff hcar, Utf8.utf8_lt_iff, Utf8.utf8_lt_iff]

/-- The key of `t` itself is in the range exactly if `s` reaches it. -/
theorem asked_serviceKey_iff {s t : Text} :
    Asked s (Text.utf8 ("/services/".toList ++ t)) ↔ Reaches s t := by
  have hle : ∀ {a b : Bytes}, a ≤ b ↔ ¬ b < a := Iff.rfl
  rw [Asked, InRange, hle, Utf8.utf8_lt_iff, Utf8.utf8_lt_iff, Utf8.append_lt_append_iff]
  rcases List.eq_nil_or_concat s with rfl | ⟨u, c, rfl⟩
  · refine iff_of_true ⟨List.not_lt_nil t, ?_⟩ trivial
    have hkey : "/services/".toList ++ t = "/services".toList ++ '/' :: t := rfl
    have hend : rangeEnd ("/services/".toList ++ []) = "/services".toList ++ ['0'] := by decide
    rw [hkey, hend, Utf8.append_lt_append_iff]
    exact List.cons_lt_cons_iff.mpr (.inl (by decide))
  · rw [List.concat_eq_append, ← List.append_assoc, rangeEnd_concat, List.append_assoc,
      Utf8.append_lt_append_iff, reaches_concat_iff]

/-- A name whose key lies between that of `t` and one below it goes on from `t`, with a character
before the slash. -/
theorem name_of_between {s t : Text} (hs : '/' ∉ s) {x : Bytes}
    (hbelow : Text.utf8 ("/services/".toList ++ t) < Text.utf8 ("/services/".toList ++ s))
    (hlow : Text.utf8 ("/services/".toList ++ s) ≤
      Text.utf8 ("/services/".toList ++ t) ++ 0x2F :: x) :
    ∃ c w, s = t ++ c :: w ∧ c.toNat < 0x2F := by
  have hleft : ¬ Text.utf8 ("/services/".toList ++ s) <
      Text.utf8 ("/services/".toList ++ t) ++ [] := by
    rw [List.append_nil]
    exact List.lt_asymm hbelow
  obtain ⟨z, hz⟩ := Utf8.append_of_between hleft hlow
  rw [hz] at hbelow hlow
  cases z with
  | nil =>
      rw [List.append_nil] at hbelow
      exact absurd hbelow (List.lt_irrefl _)
  | cons b r =>
      -- the bytes read as the name of `t`, then as what they go on with
      have hread := congrArg Utf8.fromUtf8Lossy hz
      rw [← List.append_nil (Text.utf8 (_ ++ s)), Utf8.fromUtf8Lossy_utf8_append,
        Utf8.fromUtf8Lossy_utf8_append, List.append_assoc, List.append_assoc,
        List.append_cancel_left_eq] at hread
      have hb : b.toNat ≤ 0x2F := by
        have h : ¬ (0x2F : UInt8) :: x < b :: r := fun h => hlow (Utf8.append_lt_append_iff.mpr h)
        rw [List.cons_lt_cons_iff, UInt8.lt_iff_toNat_lt] at h
        exact Nat.le_of_not_lt fun h' => h (.inl h')
      have hname : s = t ++ Char.ofNat b.toNat :: Utf8.fromUtf8Lossy r := by
        rw [← Utf8.fromUtf8Lossy_ascii_cons (by omega), ← hread]
        exact (List.append_nil s).symm
      refine ⟨_, _, hname, ?_⟩
      have hne : b.toNat ≠ 0x2F := by
        intro h
        rw [h] at hname
        exact hs (hname ▸ List.mem_append_right t List.mem_cons_self)
      rw [Utf8.toNat_ofNat (.inl (by omega))]
      omega

theorem rangeEnd_before_slash {c : Char} (hc : c.toNat < 0x2F) (u w : Text) (x : Bytes) :
    ¬ u.utf8 ++ 0x2F :: x < Text.utf8 (rangeEnd (u ++ c :: w)) := by
  have hend : ∃ (d : Char) (v : Text), rangeEnd (u ++ c :: w) = u ++ d :: v ∧
      (d.toNat < 0x2F ∨ d.toNat = 0x2F ∧ v = []) := by
    rcases List.eq_nil_or_concat w with rfl | ⟨w, e, rfl⟩
    · have hcar : ¬ Utf8.Carries c := by
        rw [Utf8.Carries]
        omega
      refine ⟨Char.ofNat (c.toNat + 1), [], ?_, ?_⟩
      · rw [rangeEnd_concat, Utf8.nextOf, if_neg hcar]
      · rw [Utf8.toNat_next hcar]
        exact (Nat.lt_or_eq_of_le hc).imp id fun h => ⟨h, rfl⟩
    · refine ⟨c, w ++ Utf8.nextOf e, ?_, .inl hc⟩
      have hassoc : u ++ c :: w.concat e = (u ++ c :: w) ++ [e] := by
        rw [List.concat_eq_append, List.append_assoc]
        rfl
      rw [hassoc, rangeEnd_concat, List.append_assoc]
      rfl
  obtain ⟨d, v, heq, hd⟩ := hend
  have hbytes : Text.utf8 (d :: v) = UInt8.ofNat d.toNat :: v.utf8 := by
    rw [Text.utf8, List.flatMap_cons, Utf8.encode_one (by omega)]
    rfl
  have hslash : (0x2F : UInt8) = UInt8.ofNat 0x2F := rfl
  rw [heq, Text.utf8_append, Utf8.append_lt_append_iff, hbytes, hslash,
    Utf8.ofNat_cons_lt_iff (by omega) (by omega)]
  rintro (h | ⟨h, hx⟩)
  · omega
  · rcases hd with hd | ⟨-, rfl⟩
    · omega
    · exact List.not_lt_nil x hx

/-- No key of `t` is in the range of `s` unless the first of them is. -/
theorem asked_of_keyOf {s t : Text} (hs : '/' ∉ s) {k : Bytes} (hk : KeyOf t k)
    (hasked : Asked s k) : Asked s (Text.utf8 ("/services/".toList ++ t)) := by
  rcases hk with rfl | ⟨x, rfl⟩
  · exact hasked
  · obtain ⟨hlow, hhigh⟩ := hasked
    refine ⟨fun hbelow => ?_, List.lt_of_le_of_lt List.le_append_left hhigh⟩
    obtain ⟨c, w, rfl, hc⟩ := name_of_between hs hbelow hlow
    rw [← List.append_assoc] at hhigh
    exact rangeEnd_before_slash hc _ w x hhigh

/-! ### A registry with one entry -/

/-- The body of a response with one entry. -/
def entryBody (kv : EtcdKeyValue) : Bytes :=
  Text.utf8 ("\x7b\"kvs\":[\x7b\"key\":\"".toList ++ kv.key ++ "\",\"value\":\"".toList ++
    kv.value ++ "\"\x7d]\x7d".toList)

def entryJson (kv : EtcdKeyValue) : Json :=
  .obj [("kvs".toList, .arr [.obj [("key".toList, .str kv.key), ("value".toList, .str kv.value)]])]

/-- The body of a response without entries. -/
def noBody : Bytes := Text.utf8 "\x7b\x7d"

def base64Entry (e : Entry) : EtcdKeyValue := ⟨Base64.encode e.1, Base64.encode e.2⟩

/-- Base64, and a parser that knows the two bodies. -/
def entryLibraries (e : Entry) : WebLibraries :=
  { knownBodies with
    encode := Base64.encode
    decode := Base64.decode
    parse := fun body => if body = noBody then some (.obj [])
      else if body = entryBody (base64Entry e) then some (entryJson (base64Entry e)) else none }

/-- The registry that holds `e` alone. -/
def entryRegistry (e : Entry) (q : EtcdQuery) : RegistryReply :=
  let range := do
    let key ← Base64.decode q.request.key
    let last ← q.request.rangeEnd.bind Base64.decode
    return (key, last)
  range.elim (.error "connection closed".toList) fun r =>
    .ok ⟨.ok, .ok (if InRange r.1 r.2 e.1 then entryBody (base64Entry e) else noBody)⟩

theorem parse_entryBody (e : Entry) :
    (entryLibraries e).parse (entryBody (base64Entry e)) = some (entryJson (base64Entry e)) := by
  have hne : entryBody (base64Entry e) ≠ noBody := by
    intro h
    have hsecond : some (0x22 : UInt8) = some 0x7D := congrArg (fun body => body[1]?) h
    exact absurd hsecond (by decide)
  simp only [entryLibraries, hne, if_false, if_true]

theorem parse_noBody (e : Entry) : (entryLibraries e).parse noBody = some (.obj []) := by
  simp only [entryLibraries, if_true]

theorem entryRegistry_gives (e : Entry) {q : EtcdQuery} {key last : Bytes}
    (hkey : Base64.decode q.request.key = some key)
    (hlast : q.request.rangeEnd.bind Base64.decode = some last) :
    QueryGives (entryLibraries e) EtcdRangeResponse.fromJson (entryRegistry e q)
      ⟨([e].filter fun e => InRange key last e.1).map (encoded (entryLibraries e))⟩ := by
  by_cases hin : InRange key last e.1
  · refine ⟨⟨.ok, .ok (entryBody (base64Entry e))⟩, _, ?_, rfl, rfl, ?_⟩
    · simp only [entryRegistry, hkey, hlast, bind, Option.bind_some, pure, Option.elim_some,
        if_pos hin]
    · have hfilter : ([e].filter fun e => InRange key last e.1) = [e] := by simp [hin]
      rw [parse_entryBody, hfilter]
      rfl
  · refine ⟨⟨.ok, .ok noBody⟩, _, ?_, rfl, rfl, ?_⟩
    · simp only [entryRegistry, hkey, hlast, bind, Option.bind_some, pure, Option.elim_some,
        if_neg hin]
    · have hfilter : ([e].filter fun e => InRange key last e.1) = [] := by simp [hin]
      rw [parse_noBody, hfilter]
      rfl

theorem entryRegistry_serves (e : Entry) : Serves (entryLibraries e) [e] (entryRegistry e) := by
  intro q key last response hkey hlast hgives
  have hread := (readReply_eq_ok_iff "Etcd".toList).mpr hgives
  rw [(readReply_eq_ok_iff "Etcd".toList).mpr (entryRegistry_gives e hkey hlast)] at hread
  exact congrArg EtcdRangeResponse.kvs (Except.ok.inj hread).symm

def etcdConfig : DiscoveryConfig := ⟨true, .etcd ["http://127.0.0.1:2379".toList], 30⟩

/-- The service `n` at `http://other:1`. -/
def entryOf (n : Text) : Entry :=
  (Text.utf8 ("/services/".toList ++ n), Text.utf8 "http://other:1")

theorem storedEndpoint_entryOf (n : Text) :
    storedEndpoint (entryOf n) = some "http://other:1".toList := by
  have hvalue : storedEndpoint ([], Text.utf8 "http://other:1") = some "http://other:1".toList := by
    decide
  exact hvalue

/-- An entry in the range is returned. -/
theorem healthCheck_entry {s : Text} {e : Entry} (hasked : Asked s e.1)
    (entries : Text → Option (List Text)) :
    ((localEtcd.programs (entryLibraries e)).service.healthCheck (entries, entryRegistry e) s).1 =
      .ok ([e].filterMap storedEndpoint) := by
  have hround : ∀ bytes, (entryLibraries e).decode ((entryLibraries e).encode bytes) =
      some bytes := Base64.decode_encode
  have hgives := entryRegistry_gives e (q := localEtcd.query (entryLibraries e) s)
    (Base64.decode_encode _) (Base64.decode_encode _)
  obtain ⟨endpoints, hcheck⟩ : ∃ endpoints,
      ((localEtcd.programs (entryLibraries e)).service.healthCheck
        (entries, entryRegistry e) s).1 = .ok endpoints := by
    rw [healthCheck_fst]
    exact ⟨_, extract_eq_ok_iff.mpr ⟨_, hgives, rfl⟩⟩
  have hfilter : ([e].filter fun e => Asked s e.1) = [e] := by simp [hasked]
  have hnew : new (entryLibraries e) etcdConfig = .ok localEtcd := rfl
  rw [hcheck, healthCheck_asked hround hnew (entryRegistry_serves e) hcheck, hfilter]

/-! ### When services are kept apart -/

/-- A service that `s` reaches is returned for it, if etcd holds nothing else. -/
theorem not_isolated_of_reaches {s t : Text} (hreach : Reaches s t) : ¬ Isolated s t := by
  intro hiso
  obtain ⟨kept, hsub, hkept, heq⟩ := hiso (entryLibraries (entryOf t)) etcdConfig localEtcd
    Base64.decode_encode rfl [entryOf t] (entryRegistry (entryOf t)) (fun _ => none) _
    (entryRegistry_serves _) (healthCheck_entry (asked_serviceKey_iff.mpr hreach) _)
  have hnil : kept = [] := by
    rw [List.eq_nil_iff_forall_not_mem]
    intro e he
    have h : e = entryOf t := List.mem_singleton.mp (hsub.subset he)
    exact hkept e he (.inl (h ▸ rfl))
  rw [hnil] at heq
  exact absurd heq (by simp [storedEndpoint_entryOf])

/-- **When Etcd's services are isolated.**  For a name `s` without a slash, `health_check(s)` never
returns a value stored under a key of `t`, whatever etcd holds, exactly if `s` does not reach
`t`. -/
theorem etcd_isolated_iff {s t : Text} (hs : '/' ∉ s) : Isolated s t ↔ ¬ Reaches s t := by
  refine ⟨fun hiso hreach => not_isolated_of_reaches hreach hiso, fun hreach => ?_⟩
  intro W config c hround hnew content answer entries endpoints hserves hcheck
  refine ⟨content.filter fun e => Asked s e.1, List.filter_sublist, ?_,
    healthCheck_asked hround hnew hserves hcheck⟩
  intro e he hkey
  have hasked : Asked s e.1 := by simpa using (List.mem_filter.mp he).2
  exact hreach (asked_serviceKey_iff.mp (asked_of_keyOf hs hkey hasked))

/-- Names that do not go on from each other are kept apart. -/
theorem etcd_isolated_api_web : Isolated "api" "web" := by
  refine (etcd_isolated_iff (by decide)).mpr fun h => ?_
  have hprefix : "api".toList <+: "web".toList := h
  exact absurd hprefix (by decide)

/-- `health_check("api")` returns an endpoint of `api2`, the only service that etcd holds. -/
theorem etcd_not_isolated :
    '/' ∉ "api".toList ∧ '/' ∉ "api2".toList ∧
      Serves (entryLibraries (entryOf "api2")) [entryOf "api2"] (entryRegistry (entryOf "api2")) ∧
      KeyOf "api2" (entryOf "api2").1 ∧
      ((localEtcd.programs (entryLibraries (entryOf "api2"))).service.healthCheck
        (fun _ => none, entryRegistry (entryOf "api2")) "api").1 =
          .ok ["http://other:1".toList] ∧
      ¬ Isolated "api" "api2" := by
  have hreach : Reaches "api" "api2" := ⟨['2'], rfl⟩
  refine ⟨by decide, by decide, entryRegistry_serves _, .inl rfl, ?_,
    not_isolated_of_reaches hreach⟩
  rw [healthCheck_entry (asked_serviceKey_iff.mpr hreach)]
  exact congrArg Except.ok (List.filterMap_cons_some (storedEndpoint_entryOf "api2"))

/-! ### The range of a key -/

/-- **The range of the key is its prefix range**: it has the byte strings in it that start with the
key, and no others. -/
def IsPrefixRange (key : Text) : Prop :=
  ∀ k : Bytes, InRange key.utf8 (rangeEnd key).utf8 k ↔ key.utf8 <+: k

/-- Where the last byte takes a carry, some text tells the range from that of the prefix. -/
theorem exists_not_between {c : Char} (hcar : Utf8.Carries c) :
    ∃ t : Text, ¬ ((¬ t < [c] ∧ t < Utf8.nextOf c) ↔ [c] <+: t) := by
  by_cases h : c.toNat = 0x7F
  · -- U+0080 lies below the replacement character
    obtain rfl : c = Char.ofNat 0x7F := Char.toNat_inj.mp h
    exact ⟨[Char.ofNat 0x80], by decide⟩
  · have hend : Utf8.nextOf c = [Utf8.replacement, Utf8.replacement] := by
      rw [Utf8.nextOf, if_pos hcar, if_neg h]
    have hlast := (hcar.resolve_left h).2
    rw [hend]
    by_cases hlow : c < Utf8.replacement
    · refine ⟨[Utf8.replacement], fun hiff => ?_⟩
      have hbetween : ¬ [Utf8.replacement] < [c] ∧
          [Utf8.replacement] < [Utf8.replacement, Utf8.replacement] := by
        refine ⟨fun hlt => ?_, by decide⟩
        rcases List.cons_lt_cons_iff.mp hlt with hlt | ⟨-, hlt⟩
        · exact Char.lt_asymm hlow hlt
        · exact List.lt_irrefl _ hlt
      have heq : c = Utf8.replacement := by simpa using hiff.mp hbetween
      exact Char.lt_irrefl _ (heq ▸ hlow)
    · -- the end of the range comes before the key
      refine ⟨[c], fun hiff => ?_⟩
      rcases List.cons_lt_cons_iff.mp (hiff.mpr (List.prefix_refl _)).2 with hlt | ⟨rfl, -⟩
      · exact hlow hlt
      · exact absurd hlast (by decide)

theorem isPrefixRange_concat_iff (u : Text) (c : Char) :
    IsPrefixRange (u ++ [c]) ↔ ¬ Utf8.Carries c := by
  constructor
  · intro h hcar
    obtain ⟨t, ht⟩ := exists_not_between hcar
    have hle : ∀ {a b : Bytes}, a ≤ b ↔ ¬ b < a := Iff.rfl
    have hk := h (Text.utf8 (u ++ t))
    rw [InRange, rangeEnd_concat, hle, Utf8.utf8_lt_iff, Utf8.utf8_lt_iff,
      Utf8.append_lt_append_iff, Utf8.append_lt_append_iff, Utf8.utf8_prefix_iff,
      List.prefix_append_right_inj] at hk
    exact ht hk
  · intro hcar k
    rw [rangeEnd_concat, Utf8.nextOf, if_neg hcar]
    exact Utf8.between_next_iff hcar u

/-- **When `range_end` is the successor of the prefix**: exactly if the last character of the name
does not take a carry. -/
theorem range_end_successor_iff {W : WebLibraries} {config : DiscoveryConfig} {c : EtcdDiscovery}
    (hnew : new W config = .ok c) (name : Text) :
    IsPrefixRange (c.serviceKey name) ↔
      ∀ last, name.getLast? = some last → ¬ Utf8.Carries last := by
  rw [serviceKey, new_keyPrefix hnew]
  rcases List.eq_nil_or_concat name with rfl | ⟨u, last, rfl⟩
  · refine iff_of_true ?_ fun last h => by cases h
    exact (isPrefixRange_concat_iff "/services".toList '/').mpr (by decide)
  · rw [List.concat_eq_append, ← List.append_assoc, isPrefixRange_concat_iff,
      List.getLast?_concat]
    simp only [Option.some.injEq, forall_eq']

theorem range_end_successor_api : IsPrefixRange (localEtcd.serviceKey "api") := by
  have hnew : new (entryLibraries (entryOf "api")) etcdConfig = .ok localEtcd := rfl
  refine (range_end_successor_iff hnew "api").mpr fun last hlast => ?_
  cases hlast
  decide

/-- The service U+1F63F: the end of the range comes before the key, which is not even in it. -/
theorem range_end_not_successor :
    ¬ InRange (localEtcd.serviceKey "😿").utf8 (rangeEnd (localEtcd.serviceKey "😿")).utf8
        (localEtcd.serviceKey "😿").utf8 ∧
      ¬ IsPrefixRange (localEtcd.serviceKey "😿") := by
  refine ⟨by decide, fun h => ?_⟩
  exact absurd (h (localEtcd.serviceKey "😿").utf8) (by decide)

end EtcdDiscovery

end MiniGateway
