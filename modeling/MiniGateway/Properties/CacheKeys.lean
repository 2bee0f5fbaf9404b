import MiniGateway.Source.Cache

/-!
# Properties — Cache keys

When two requests share a cache key.  The `uri` and `uri_with_method` keys determine what they
are built from (`methodKey_inj`).  A `uri_with_headers` key does not: an absent header adds
nothing, a value may hold the separator, and so may the URI the values are appended to.  The
strategy keeps requests apart exactly when none of its header names is a legal one, and then no
header ever enters the key (`buildKey_separates_iff`).
-/

namespace MiniGateway.CacheLayer

open Http

variable {κ : Type}

/-- What a strategy selects of a request is the same in both. -/
def Agree (strategy : CacheKeyStrategy) (r₁ r₂ : Request) : Prop :=
  match strategy with
  | .uri => r₁.uri.toText = r₂.uri.toText
  | .uriWithMethod => r₁.method = r₂.method ∧ r₁.uri.toText = r₂.uri.toText
  | .uriWithHeaders names => r₁.method = r₂.method ∧ r₁.uri.toText = r₂.uri.toText ∧
      ∀ name ∈ names, r₁.headers.getStr name = r₂.headers.getStr name

/-- The headers' part of the key stands behind the rest. -/
theorem keyOf_uriWithHeaders (names : List Text) (req : Request) :
    keyOf (.uriWithHeaders names) req = methodKey req ++ names.flatMap (headerPart req) := by
  show names.foldl (fun key name => key ++ headerPart req name) (methodKey req) = _
  generalize methodKey req = key
  induction names generalizing key with
  | nil => simp
  | cons name names ih => rw [List.foldl_cons, ih, List.flatMap_cons, List.append_assoc]

/-- A method holds no separator, so the key of a method and a URI gives back both. -/
theorem methodKey_inj {r₁ r₂ : Request} (h : methodKey r₁ = methodKey r₂) :
    r₁.method = r₂.method ∧ r₁.uri.toText = r₂.uri.toText := by
  have hno : ∀ m : Method, ':' ∉ m.text := fun m => m.isToken.not_mem (by decide)
  obtain ⟨hm, hu⟩ := Text.cut_unique (hno r₁.method) (hno r₂.method) (List.append_cancel_left h)
  obtain ⟨⟨t₁, i₁⟩, u₁, hs₁, b₁⟩ := r₁
  obtain ⟨⟨t₂, i₂⟩, u₂, hs₂, b₂⟩ := r₂
  obtain rfl : t₁ = t₂ := hm
  exact ⟨rfl, hu⟩

/-- `GET path` with the given headers. -/
def getWith (path : Text) (headers : HeaderMap) : Request :=
  ⟨.get, ⟨none, none, path, none⟩, headers, .ok []⟩

theorem methodKey_getWith (path : Text) (headers : HeaderMap) :
    methodKey (getWith path headers) = "cache:".toList ++ (Method.get.text ++ ':' :: path) := by
  show _ ++ (_ ++ ':' :: ([] ++ [] ++ path ++ [])) = _
  rw [List.append_nil]
  rfl

/-- An absent header adds nothing. -/
theorem headerParts_empty (names : List Text) (path : Text) :
    names.flatMap (headerPart (getWith path .empty)) = [] := by
  refine List.flatMap_eq_nil_iff.mpr fun name _ => ?_
  have hnone : (getWith path .empty).headers.getStr name = none := by
    rw [HeaderMap.getStr]
    cases HeaderName.parse name <;> rfl
  rw [headerPart, hnone]

/-- **What the headers add can as well be written into the path.** -/
theorem keyOf_headers_in_path (names : List Text) (path : Text) (headers : HeaderMap) :
    keyOf (.uriWithHeaders names) (getWith path headers) = keyOf (.uriWithHeaders names)
      (getWith (path ++ names.flatMap (headerPart (getWith path headers))) .empty) := by
  generalize hparts : names.flatMap (headerPart (getWith path headers)) = parts
  rw [keyOf_uriWithHeaders, keyOf_uriWithHeaders, hparts, headerParts_empty, methodKey_getWith,
    methodKey_getWith, List.append_nil]
  simp only [List.append_assoc, List.cons_append]

/-- **Where keys keep requests apart.**  Requests with one key agree on everything the strategy
selects, for every two requests, exactly when the strategy lists no legal header name. -/
theorem buildKey_separates_iff (cache : CacheLayer κ) :
    (∀ r₁ r₂, cache.buildKey r₁ = cache.buildKey r₂ → Agree cache.config.keyStrategy r₁ r₂) ↔
      ∀ names, cache.config.keyStrategy = .uriWithHeaders names →
        ∀ name ∈ names, HeaderName.parse name = none := by
  unfold buildKey
  generalize cache.config.keyStrategy = strategy
  refine ⟨fun h names hs name hname => ?_, fun h r₁ r₂ hkey => ?_⟩
  · subst hs
    cases hn : HeaderName.parse name with
    | none => rfl
    | some n =>
        -- the value of the header, moved from the header into the path
        have hget := (h _ _ (keyOf_headers_in_path names "/a" ⟨[(n, ⟨[98], by decide⟩)]⟩)).2.2
          name hname
        simp [getWith, HeaderMap.getStr, hn, HeaderMap.get, HeaderMap.getAll,
          HeaderMap.empty] at hget
  · cases strategy with
    | uri => exact List.append_cancel_left hkey
    | uriWithMethod => exact methodKey_inj hkey
    | uriWithHeaders names =>
        have hnone : ∀ (r : Request), ∀ name ∈ names, r.headers.getStr name = none := by
          intro r name hname
          rw [HeaderMap.getStr, h names rfl name hname]; rfl
        have hempty : ∀ r : Request, names.flatMap (headerPart r) = [] := fun r =>
          List.flatMap_eq_nil_iff.mpr fun name hname => by rw [headerPart, hnone r name hname]
        rw [keyOf_uriWithHeaders, keyOf_uriWithHeaders, hempty, hempty, List.append_nil,
          List.append_nil] at hkey
        obtain ⟨hm, hu⟩ := methodKey_inj hkey
        exact ⟨hm, hu, fun name hname => by rw [hnone r₁ name hname, hnone r₂ name hname]⟩

/-- A cache that is a list of what it holds; nothing expires. -/
def listCache : CacheBackendTrait (List (Text × CachedResponse)) where
  get k key := (.ok (k.lookup key), k)
  set k key value _ := (.ok (), (key, value) :: k)
  delete k key := (.ok (), k.filter fun e => e.1 ≠ key)
  clear _ := (.ok (), [])

/-- A cache that keeps apart what two headers ask for. -/
def languageCache : CacheLayer (List (Text × CachedResponse)) where
  backend := listCache
  config :=
    { enabled := true
      backend := .memory
      defaultTtlSecs := 60
      maxCapacity := none
      cacheableMethods := ["GET".toList]
      cacheableStatuses := [200]
      keyStrategy := .uriWithHeaders ["accept".toList, "accept-language".toList]
      excludedPaths := [] }

/-- `accept: fr` and `accept-language: fr` give one key, when both names are listed. -/
theorem buildKey_collides :
    ¬ ∀ r₁ r₂, languageCache.buildKey r₁ = languageCache.buildKey r₂ →
      Agree languageCache.config.keyStrategy r₁ r₂ := by
  intro h
  have hkey := h (getWith "/news" ⟨[(⟨"accept", by decide⟩, ⟨[102, 114], by decide⟩)]⟩)
    (getWith "/news" ⟨[(⟨"accept-language", by decide⟩, ⟨[102, 114], by decide⟩)]⟩) (by decide)
  exact absurd (hkey.2.2 "accept" List.mem_cons_self) (by decide)

end MiniGateway.CacheLayer
