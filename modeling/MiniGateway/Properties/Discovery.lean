import MiniGateway.Source.Discovery

/-!
# Properties — Discovery

The two registries under every interleaving of `resolve`, `health_check` and the tasks that `watch`
starts.

* What either client makes of a reply: `readReply_cases`, `readReply_eq_ok_iff`.
* Each program writes only what it has just been told (`Honest`), so what is cached for a service
  is what was extracted from one reply to a query for it, whatever the interleaving
  (`discovery_provenance`), and so is what the router gets (`Provenance.resolveUpstream`).
* Nothing tells an old list from a new one.  The list of a service stays as recent as it is only
  while no task writes past another that asked earlier (`discovery_in_order`).
-/

namespace MiniGateway

open Http Concurrent

/-! ### Replies -/

/-- The query came to nothing: the send failed, the status is no success, or the body cannot be
read. -/
def QueryFails {α : Type} (W : WebLibraries) (read : Json → Option α) (reply : RegistryReply) :
    Prop :=
  (∃ e, reply = .error e) ∨
  ∃ response, reply = .ok response ∧ (response.status.isSuccess = false ∨
    (∃ e, response.body = .error e) ∨
    ∃ body, response.body = .ok body ∧ (W.parse body).bind read = none)

/-- The query gave a value: the body of a success reads as it. -/
def QueryGives {α : Type} (W : WebLibraries) (read : Json → Option α) (reply : RegistryReply)
    (value : α) : Prop :=
  ∃ response body, reply = .ok response ∧ response.status.isSuccess = true ∧
    response.body = .ok body ∧ (W.parse body).bind read = some value

section Replies

variable {α : Type} {W : WebLibraries} {read : Json → Option α}
  {reply : RegistryReply}

/-- **A reply is one or the other**, and that decides what either client makes of it. -/
theorem readReply_cases (W : WebLibraries) (registry : Text) (read : Json → Option α)
    (reply : RegistryReply) :
    (QueryFails W read reply ∧ ∃ e, readReply W registry read reply = .error e) ∨
    ∃ value, QueryGives W read reply value ∧ readReply W registry read reply = .ok value := by
  rcases reply with e | response
  · exact Or.inl ⟨Or.inl ⟨e, rfl⟩, _, rfl⟩
  · rw [readReply]
    cases hs : response.status.isSuccess with
    | false => exact Or.inl ⟨Or.inr ⟨response, rfl, Or.inl hs⟩, _, rfl⟩
    | true =>
        simp only [Bool.not_true, Bool.false_eq_true, if_false]
        rcases hb : response.body with e | body
        · exact Or.inl ⟨Or.inr ⟨response, rfl, Or.inr (Or.inl ⟨e, hb⟩)⟩, _, rfl⟩
        · cases hv : (W.parse body).bind read with
          | none =>
              refine Or.inl ⟨Or.inr ⟨response, rfl, Or.inr (Or.inr ⟨body, hb, hv⟩)⟩, ?_⟩
              simp only [hv]
              exact ⟨_, rfl⟩
          | some value =>
              refine Or.inr ⟨value, ⟨response, body, rfl, hs, hb, hv⟩, ?_⟩
              simp only [hv]

theorem QueryGives.not_fails {value : α} (h : QueryGives W read reply value) :
    ¬ QueryFails W read reply := by
  obtain ⟨response, body, rfl, hs, hb, hv⟩ := h
  rintro (⟨e, h⟩ | ⟨response', h, hs' | ⟨e, hb'⟩ | ⟨body', hb', hv'⟩⟩)
  · cases h
  · cases h
    rw [hs] at hs'
    cases hs'
  · cases h
    cases hb.symm.trans hb'
  · cases h
    cases hb.symm.trans hb'
    rw [hv] at hv'
    cases hv'

theorem readReply_eq_ok_iff (registry : Text) {value : α} :
    readReply W registry read reply = .ok value ↔ QueryGives W read reply value := by
  rcases readReply_cases W registry read reply with ⟨hf, e, he⟩ | ⟨value', hg, hv⟩
  · rw [he]
    exact iff_of_false (fun h => by cases h) fun h => h.not_fails hf
  · rw [hv]
    refine ⟨fun h => Except.ok.inj h ▸ hg, fun h => ?_⟩
    obtain ⟨response, body, rfl, -, hb, hval⟩ := h
    obtain ⟨response', body', hreply, -, hb', hval'⟩ := hg
    cases hreply
    cases hb.symm.trans hb'
    rw [hval] at hval'
    cases hval'
    rfl

/-- A computation that goes on with a function of its value. -/
theorem bind_pure_eq_ok_iff {ε α β : Type} {f : α → β} {b : β} : ∀ {x : Except ε α},
    (x >>= fun a => pure (f a)) = .ok b ↔ ∃ a, x = .ok a ∧ b = f a
  | .error _ => iff_of_false (fun h => by cases h) fun ⟨_, h, _⟩ => by cases h
  | .ok a => ⟨fun h => ⟨a, rfl, (Except.ok.inj h).symm⟩, fun ⟨_, h, hb⟩ => by cases h; rw [hb]; rfl⟩

end Replies

/-- **What Consul yields**: the endpoints, in order, of the services that have an address and whose
checks are all passing. -/
def ConsulDiscovery.Yields (W : WebLibraries) (reply : RegistryReply) (endpoints : List Text) :
    Prop :=
  ∃ services, QueryGives W (Json.asVec ConsulService.fromJson) reply services ∧
    endpoints = (services.filter fun svc => svc.checks.all (·.status == "passing".toList) &&
      !svc.serviceAddress.isEmpty).map fun svc =>
        "http://".toList ++ svc.serviceAddress ++ ':' :: Text.ofNat svc.servicePort

theorem ConsulDiscovery.filterMap_endpointOf (services : List ConsulService) :
    services.filterMap endpointOf =
      (services.filter fun svc => svc.checks.all (·.status == "passing".toList) &&
        !svc.serviceAddress.isEmpty).map fun svc =>
          "http://".toList ++ svc.serviceAddress ++ ':' :: Text.ofNat svc.servicePort := by
  induction services with
  | nil => rfl
  | cons svc services ih =>
      rw [List.filterMap_cons, List.filter_cons, ih, endpointOf]
      cases svc.checks.all (·.status == "passing".toList) with
      | false => rfl
      | true => cases svc.serviceAddress.isEmpty <;> rfl

theorem ConsulDiscovery.extract_eq_ok_iff {W : WebLibraries} {reply : RegistryReply}
    {endpoints : List Text} : extract W reply = .ok endpoints ↔ Yields W reply endpoints := by
  rw [extract, Yields, bind_pure_eq_ok_iff]
  simp only [readReply_eq_ok_iff, filterMap_endpointOf]

/-- **What Etcd yields**: the values, decoded and trimmed, that are not empty then. -/
def EtcdDiscovery.Yields (W : WebLibraries) (reply : RegistryReply) (endpoints : List Text) :
    Prop :=
  ∃ response, QueryGives W EtcdRangeResponse.fromJson reply response ∧
    endpoints = (response.kvs.map fun kv => (Utf8.fromUtf8Lossy
      ((W.decode kv.value).getD [])).trimUnicode).filter fun endpoint => !endpoint.isEmpty

theorem EtcdDiscovery.filterMap_endpointOf (W : WebLibraries) (kvs : List EtcdKeyValue) :
    kvs.filterMap (endpointOf W) = (kvs.map fun kv => (Utf8.fromUtf8Lossy
      ((W.decode kv.value).getD [])).trimUnicode).filter fun endpoint => !endpoint.isEmpty := by
  induction kvs with
  | nil => rfl
  | cons kv kvs ih =>
      rw [List.filterMap_cons, List.map_cons, List.filter_cons, ih, endpointOf]
      cases (Utf8.fromUtf8Lossy ((W.decode kv.value).getD [])).trimUnicode.isEmpty <;> rfl

theorem EtcdDiscovery.extract_eq_ok_iff {W : WebLibraries} {reply : RegistryReply}
    {endpoints : List Text} : extract W reply = .ok endpoints ↔ Yields W reply endpoints := by
  rw [extract, Yields, bind_pure_eq_ok_iff]
  simp only [readReply_eq_ok_iff, filterMap_endpointOf]

/-! ### What the programs keep to -/

section Honest

variable {Q : Type}

/-- The list is what is made of the reply to a query for the service. -/
def Extracted (request : Text → Q) (extract : RegistryReply → Except GatewayError (List Text))
    (x : Seen Q RegistryReply) (name : Text) (endpoints : List Text) : Prop :=
  x.request = request name ∧ extract x.reply = .ok endpoints

variable (request : Text → Q) (extract : RegistryReply → Except GatewayError (List Text))

/-- A list that `health_check` returns was extracted from its own reply. -/
def Checked (name : Text) (history : List (Seen Q RegistryReply))
    (seen : Option (Seen Q RegistryReply)) (r : Except GatewayError (List Text)) : Prop :=
  ∀ endpoints, r = .ok endpoints →
    ∃ x, seen = some x ∧ x ∈ history ∧ Extracted request extract x name endpoints

/-- An endpoint that `resolve` returns is one of a list that was extracted. -/
def Resolved (name : Text) (history : List (Seen Q RegistryReply))
    (r : Except GatewayError Text) : Prop :=
  ∀ endpoint, r = .ok endpoint →
    ∃ x ∈ history, ∃ endpoints, Extracted request extract x name endpoints ∧ endpoint ∈ endpoints

/-- What a thread comes to. -/
def Answers (call : DiscoveryCall) (history : List (Seen Q RegistryReply))
    (_seen : Option (Seen Q RegistryReply)) (result : DiscoveryResult) : Prop :=
  ∀ name r, call = .resolve name → result = .endpoint r → Resolved request extract name history r

/-- **An honest client** writes only what it has just been told, and gives out only what some
client was told; it asks before it writes, and `resolve` looks into the table first. -/
structure Honest (P : DiscoveryPrograms Q) : Prop where
  resolve : ∀ name history seen, (P.resolve name).Meets (Extracted request extract)
    (fun history _ => Resolved request extract name history) history seen
  healthCheck : ∀ name history seen, (P.healthCheck name).Meets (Extracted request extract)
    (Checked request extract name) history seen
  tick : ∀ name history seen, (P.tick name).Meets (Extracted request extract)
    (fun _ _ _ => True) history seen
  asks : ∀ Replies call name, ¬ ((P.machine Replies).program call).Pending name
  looks : ∀ name, ∃ next, P.resolve name = .read name next ∧
    ∀ endpoint rest, next (some (endpoint :: rest)) = .done (.ok endpoint)

variable {request extract}

/-- What both clients' `resolve` has in common: it answers out of the table, or it goes on with the
result of `health_check`, and what it does with a list that is not empty is `store`. -/
theorem meets_resolve {name : Text} {check : DiscoveryProg Q (Except GatewayError (List Text))}
    (hcheck : ∀ history seen, check.Meets (Extracted request extract)
      (Checked request extract name) history seen)
    (store : Text → List Text → DiscoveryProg Q (Except GatewayError Text))
    (hstore : ∀ history seen x endpoint rest, seen = some x → x ∈ history →
      Extracted request extract x name (endpoint :: rest) →
      (store endpoint rest).Meets (Extracted request extract)
        (fun history _ => Resolved request extract name history) history seen)
    {next : Option (List Text) → DiscoveryProg Q (Except GatewayError Text)}
    (hhit : ∀ endpoint rest, next (some (endpoint :: rest)) = .done (.ok endpoint))
    (hmiss : ∀ v, v = none ∨ v = some [] →
      next v = check.bind fun r => match r with
        | .error e => .done (.error e)
        | .ok [] => .done (.error .upstreamUnavailable)
        | .ok (endpoint :: rest) => store endpoint rest)
    (history : List (Seen Q RegistryReply)) (seen : Option (Seen Q RegistryReply)) :
    (Prog.read name next).Meets (Extracted request extract)
      (fun history _ => Resolved request extract name history) history seen := by
  intro history' _ v hv
  have hcases : (v = none ∨ v = some []) ∨ ∃ endpoint rest, v = some (endpoint :: rest) := by
    rcases v with _ | _ | ⟨endpoint, rest⟩
    · exact .inl (.inl rfl)
    · exact .inl (.inr rfl)
    · exact .inr ⟨endpoint, rest, rfl⟩
  rcases hcases with hempty | ⟨endpoint, rest, rfl⟩
  · rw [hmiss v hempty]
    refine (hcheck history' seen).bind fun history'' seen' r hr => ?_
    rcases r with e | _ | ⟨endpoint, rest⟩
    · rintro endpoint ⟨⟩
    · rintro endpoint ⟨⟩
    · obtain ⟨x, hx, hmem, hex⟩ := hr _ rfl
      exact hstore _ _ x endpoint rest hx hmem hex
  · rw [hhit]
    rintro endpoint' ⟨⟩
    obtain ⟨x, hx, hex⟩ := hv _ rfl
    exact ⟨x, hx, _, hex, List.mem_cons_self⟩

/-- A turn of a task, on either client: what `health_check` gives is written, and nothing if it
fails. -/
theorem meets_tick {name : Text} {check : DiscoveryProg Q (Except GatewayError (List Text))}
    (hcheck : ∀ history seen, check.Meets (Extracted request extract)
      (Checked request extract name) history seen)
    {next : Except GatewayError (List Text) → DiscoveryProg Q Unit}
    (hok : ∀ endpoints, next (.ok endpoints) = .write name endpoints (.done ()))
    (herror : ∀ e, next (.error e) = .done ())
    (history : List (Seen Q RegistryReply)) (seen : Option (Seen Q RegistryReply)) :
    (check.bind next).Meets (Extracted request extract) (fun _ _ _ => True) history seen := by
  refine (hcheck history seen).bind fun history' seen' r hr => ?_
  rcases r with e | endpoints
  · rw [herror]
    trivial
  · rw [hok]
    obtain ⟨x, hx, -, hex⟩ := hr _ rfl
    exact ⟨⟨x, hx, hex⟩, trivial⟩

/-- The programs of an honest client, as the machine runs them. -/
theorem Honest.program {P : DiscoveryPrograms Q} (h : Honest request extract P)
    (Replies : Nat → Q → RegistryReply → Prop) (call : DiscoveryCall) :
    ((P.machine Replies).program call).Meets (Extracted request extract)
      (Answers request extract call) [] none := by
  cases call with
  | resolve name =>
      refine (h.resolve name [] none).bind fun history seen r hr => ?_
      rintro name' r' ⟨⟩ ⟨⟩
      exact hr
  | healthCheck name =>
      refine (h.healthCheck name [] none).bind fun history seen r _ => ?_
      rintro name' r' ⟨⟩
  | watch name =>
      refine (h.tick name [] none).bind fun history seen r _ => ?_
      rintro name' r' ⟨⟩

theorem answers_mono (call : DiscoveryCall) (history history' : List (Seen Q RegistryReply))
    (seen : Option (Seen Q RegistryReply)) (result : DiscoveryResult) (hsub : history ⊆ history')
    (h : Answers request extract call history seen result) :
    Answers request extract call history' seen result := by
  intro name r hcall hresult endpoint hr
  obtain ⟨x, hx, hex⟩ := h name r hcall hresult endpoint hr
  exact ⟨x, hsub hx, hex⟩

/-- **Every reachable state of an honest client is sound.** -/
theorem Honest.sound {I : Type} [DecidableEq I] {P : DiscoveryPrograms Q}
    (h : Honest request extract P) {Replies : Nat → Q → RegistryReply → Prop}
    {s : State I DiscoveryCall Text (List Text) Q RegistryReply DiscoveryResult}
    (hs : Reachable (P.machine Replies) s) :
    Sound (P.machine Replies) (Extracted request extract) (Answers request extract) s :=
  hs.sound answers_mono (h.program Replies)

end Honest

namespace ConsulDiscovery

variable (W : WebLibraries) (c : ConsulDiscovery)

theorem healthCheck_meets (name : Text) (history : List (Seen Text RegistryReply))
    (seen : Option (Seen Text RegistryReply)) :
    (c.healthCheck W name).Meets (Extracted c.buildUrl (extract W))
      (Checked c.buildUrl (extract W) name) history seen := by
  intro history' _ x hx hq endpoints h
  exact ⟨x, rfl, hx, hq, h⟩

theorem programs_honest : Honest c.buildUrl (extract W) (c.programs W) where
  healthCheck := c.healthCheck_meets W
  resolve name := by
    refine meets_resolve (c.healthCheck_meets W name)
      (fun endpoint rest => .write name (endpoint :: rest) (.done (.ok endpoint)))
      (fun history seen x endpoint rest hx hmem hex => ⟨⟨x, hx, hex⟩, ?_⟩) (fun _ _ => rfl)
      fun v hv => ?_
    · rintro endpoint' ⟨⟩
      exact ⟨x, hmem, _, hex, List.mem_cons_self⟩
    · rcases hv with rfl | rfl <;> rfl
  tick name := meets_tick (c.healthCheck_meets W name) (fun _ => rfl) fun _ => rfl
  asks Replies call name hpending := by
    cases call with
    | resolve name' =>
        obtain ⟨_ | _ | ⟨endpoint, rest⟩, h⟩ := hpending <;> exact h
    | healthCheck name' => exact hpending
    | watch name' => exact hpending
  looks name := ⟨_, rfl, fun _ _ => rfl⟩

end ConsulDiscovery

namespace EtcdDiscovery

variable (W : WebLibraries) (c : EtcdDiscovery)

theorem healthCheck_meets (name : Text) (history : List (Seen EtcdQuery RegistryReply))
    (seen : Option (Seen EtcdQuery RegistryReply)) :
    (c.healthCheck W name).Meets (Extracted (c.query W) (extract W))
      (Checked (c.query W) (extract W) name) history seen := by
  intro history' _ x hx hq
  cases hex : extract W x.reply with
  | error e =>
      simp only [Prog.bind, hex]
      rintro endpoints ⟨⟩
  | ok endpoints =>
      simp only [Prog.bind, hex]
      refine ⟨⟨x, rfl, hq, hex⟩, ?_⟩
      rintro endpoints' ⟨⟩
      exact ⟨x, rfl, hx, hq, hex⟩

theorem programs_honest : Honest (c.query W) (extract W) (c.programs W) where
  healthCheck := c.healthCheck_meets W
  resolve name := by
    refine meets_resolve (c.healthCheck_meets W name)
      (fun endpoint _ => .done (.ok endpoint))
      (fun history seen x endpoint rest hx hmem hex => ?_) (fun _ _ => rfl) fun v hv => ?_
    · rintro endpoint' ⟨⟩
      exact ⟨x, hmem, _, hex, List.mem_cons_self⟩
    · rcases hv with rfl | rfl <;> rfl
  tick name := meets_tick (c.healthCheck_meets W name) (fun _ => rfl) fun _ => rfl
  asks Replies call name hpending := by
    cases call with
    | resolve name' =>
        obtain ⟨_ | _ | ⟨endpoint, rest⟩, h⟩ := hpending <;> exact h
    | healthCheck name' => exact hpending
    | watch name' => exact hpending
  looks name := ⟨_, rfl, fun _ _ => rfl⟩

end EtcdDiscovery

/-! ### Where the cached lists come from -/

/-- The states of a client's calls and tasks, under names `I`. -/
abbrev DiscoveryState (I Q : Type) :=
  State I DiscoveryCall Text (List Text) Q RegistryReply DiscoveryResult

/-- **Provenance and failure atomicity** of a client, in every state that any interleaving reaches:

* a cached list is what one reply to a query for the service yields;
* while the last reply a call or a task got is a failure, it changes no entry;
* a `resolve` that finds a list that is not empty has one step, and that gives the head;
* an endpoint that `resolve` has returned belongs to the list that some reply to a query for the
  service yields. -/
structure Provenance {Q : Type} (I : Type) [DecidableEq I] (P : DiscoveryPrograms Q)
    (request : Text → Q) (Yields : RegistryReply → List Text → Prop)
    (Fails : RegistryReply → Prop) : Prop where
  cached : ∀ Replies (s : DiscoveryState I Q), Reachable (P.machine Replies) s →
    ∀ name endpoints, s.entries name = some endpoints → ∃ x ∈ s.history,
      Replies x.version x.request x.reply ∧ x.request = request name ∧ Yields x.reply endpoints
  failed : ∀ Replies (s s' : DiscoveryState I Q), Reachable (P.machine Replies) s →
    ∀ i th x, Moves (P.machine Replies) i s s' → s'.threads i = some th → th.seen = some x →
      Fails x.reply → s'.entries = s.entries
  hit : ∀ Replies (s s' : DiscoveryState I Q) i th name endpoint rest, s.threads i = some th →
    th.rest = (P.machine Replies).program (.resolve name) →
    s.entries name = some (endpoint :: rest) →
    (Moves (P.machine Replies) i s s' ↔
      s' = s.put i { th with rest := .done (.endpoint (.ok endpoint)) })
  returned : ∀ Replies (s : DiscoveryState I Q), Reachable (P.machine Replies) s →
    ∀ i th name endpoint, s.threads i = some th → th.job = .resolve name →
      th.rest = .done (.endpoint (.ok endpoint)) → ∃ x ∈ s.history,
        Replies x.version x.request x.reply ∧ x.request = request name ∧
        ∃ endpoints, Yields x.reply endpoints ∧ endpoint ∈ endpoints

theorem Honest.provenance {I Q : Type} [DecidableEq I] {P : DiscoveryPrograms Q}
    {request : Text → Q} {extract : RegistryReply → Except GatewayError (List Text)}
    (h : Honest request extract P) {Yields : RegistryReply → List Text → Prop}
    {Fails : RegistryReply → Prop}
    (hok : ∀ reply endpoints, extract reply = .ok endpoints ↔ Yields reply endpoints)
    (hfail : ∀ reply endpoints, Yields reply endpoints → ¬ Fails reply) :
    Provenance I P request Yields Fails where
  cached Replies s hs name endpoints he := by
    have hsound := h.sound hs
    obtain ⟨x, -, hx, hreq, hex⟩ := hsound.entries name endpoints he
    exact ⟨x, hx, hsound.history x hx, hreq, (hok _ _).mp hex⟩
  failed Replies s s' hs i th x hmove hi hx hf := by
    funext name
    rcases hmove.entry_cases name with ⟨hsame, -⟩ | ⟨th', endpoints, next, hi', hr, -, -, hth⟩
    · exact hsame
    · -- a thread that writes has been told
      obtain ⟨-, hmeets⟩ := (h.sound hs).threads i th' hi'
      rw [hr] at hmeets
      obtain ⟨⟨y, hy, -, hex⟩, -⟩ := hmeets
      cases hth.symm.trans hi
      cases hx.symm.trans hy
      exact absurd hf (hfail _ _ ((hok _ _).mp hex))
  hit Replies s s' i th name endpoint rest hi hr he := by
    obtain ⟨next, hresolve, hnext⟩ := h.looks name
    have hprogram : (P.machine Replies).program (.resolve name) =
        .read name fun v => (next v).bind fun r => .done (.endpoint r) := by
      show (P.resolve name).bind (fun r => .done (DiscoveryResult.endpoint r)) = _
      rw [hresolve]
      rfl
    rw [Moves.read_iff hi (hr.trans hprogram), he, hnext]
    rfl
  returned Replies s hs i th name endpoint hi hjob hr := by
    have hsound := h.sound hs
    obtain ⟨-, hmeets⟩ := hsound.threads i th hi
    rw [hr] at hmeets
    obtain ⟨x, hx, endpoints, ⟨hreq, hex⟩, hmem⟩ := hmeets name _ hjob rfl endpoint rfl
    exact ⟨x, hx, hsound.history x hx, hreq, endpoints, (hok _ _).mp hex, hmem⟩

/-- **What is cached comes from one reply, and failures change nothing**, for Consul and for
Etcd. -/
theorem discovery_provenance (W : WebLibraries) (I : Type) [DecidableEq I] :
    (∀ c : ConsulDiscovery, Provenance I (c.programs W) c.buildUrl (ConsulDiscovery.Yields W)
      (QueryFails W (Json.asVec ConsulService.fromJson))) ∧
    ∀ c : EtcdDiscovery, Provenance I (c.programs W) (c.query W) (EtcdDiscovery.Yields W)
      (QueryFails W EtcdRangeResponse.fromJson) :=
  ⟨fun c => (c.programs_honest W).provenance (fun _ _ => ConsulDiscovery.extract_eq_ok_iff)
      fun _ _ ⟨_, hgives, _⟩ => hgives.not_fails,
    fun c => (c.programs_honest W).provenance (fun _ _ => EtcdDiscovery.extract_eq_ok_iff)
      fun _ _ ⟨_, hgives, _⟩ => hgives.not_fails⟩

/-- What the router asks of a client is one of the interleavings: a `resolve` that is started and
left to run. -/
theorem service_resolve_reachable {I Q : Type} [DecidableEq I] {P : DiscoveryPrograms Q}
    {Replies : Nat → Q → RegistryReply → Prop} {s : DiscoveryState I Q}
    (hs : Reachable (P.machine Replies) s) {i : I} (hi : s.threads i = none)
    {answer : Q → RegistryReply} (hans : ∀ q, Replies s.version q (answer q)) (name : Text) :
    ∃ s' th, Reachable (P.machine Replies) s' ∧ s'.threads i = some th ∧
      th.job = .resolve name ∧
      th.rest = .done (.endpoint (P.service.resolve (s.entries, answer) name).1) ∧
      s'.entries = (P.service.resolve (s.entries, answer) name).2.1 := by
  have hstart : Reachable (P.machine Replies)
      (s.put i ⟨.resolve name, (P.machine Replies).program (.resolve name), none⟩) :=
    .tail hs (Or.inr (.start (.resolve name) hi))
  obtain ⟨s', th, hrun, hi', hjob, hr, he⟩ := Prog.run_moves answer
    (M := P.machine Replies) hans ((P.machine Replies).program (.resolve name))
    (s := s.put i ⟨.resolve name, (P.machine Replies).program (.resolve name), none⟩) rfl
    (Function.update_self ..) rfl
  have hsplit : ((P.machine Replies).program (.resolve name)).run answer s.entries =
      (.endpoint (P.service.resolve (s.entries, answer) name).1,
        (P.service.resolve (s.entries, answer) name).2.1) :=
    Prog.run_bind answer _ (P.resolve name) s.entries
  refine ⟨s', th, ?_, hi', hjob, ?_, ?_⟩
  · exact hstart.trans (Relation.ReflTransGen.mono (fun _ _ h => Or.inl ⟨i, h⟩) _ _ hrun)
  · rw [hr]
    exact congrArg (fun r => Prog.done r.1) hsplit
  · rw [he]
    exact congrArg Prod.snd hsplit

/-- **Where the router sends a service's requests**: to an endpoint that some reply to a query for
the service yields. -/
theorem Provenance.resolveUpstream {I Q ρ : Type} [DecidableEq I] {P : DiscoveryPrograms Q}
    {request : Text → Q} {Yields : RegistryReply → List Text → Prop}
    {Fails : RegistryReply → Prop} (h : Provenance I P request Yields Fails)
    {r : Router ρ ((Text → Option (List Text)) × (Q → RegistryReply))}
    (hr : r.discovery = some P.service) {Replies : Nat → Q → RegistryReply → Prop}
    {s : DiscoveryState I Q} (hs : Reachable (P.machine Replies) s) {i : I}
    (hi : s.threads i = none) {answer : Q → RegistryReply}
    (hans : ∀ q, Replies s.version q (answer q)) {name discovery url : Text}
    (hurl : (r.resolveUpstream (s.entries, answer) (.service name discovery)).1 = .ok url) :
    ∃ x : Seen Q RegistryReply, Replies x.version x.request x.reply ∧ x.request = request name ∧
      ∃ endpoints, Yields x.reply endpoints ∧ url ∈ endpoints := by
  simp only [Router.resolveUpstream, hr] at hurl
  obtain ⟨s', th, hs', hi', hjob, hrest, -⟩ := service_resolve_reachable hs hi hans name
  rw [hurl] at hrest
  obtain ⟨x, -, hreply, hx⟩ := h.returned Replies s' hs' i th name url hi' hjob hrest
  exact ⟨x, hreply, hx⟩

/-! ### Old lists and new ones -/

/-- **A client keeps its lists in order**: the source of an entry is the reply its list comes from,
and after a run in which no call or task writes past another that asked earlier, no list is
replaced by one from an older state of the registry. -/
structure KeepsOrder {Q : Type} (I : Type) [DecidableEq I] (P : DiscoveryPrograms Q)
    (request : Text → Q) (Yields : RegistryReply → List Text → Prop) : Prop where
  source : ∀ Replies (s : DiscoveryState I Q), Reachable (P.machine Replies) s →
    ∀ name endpoints, s.entries name = some endpoints → ∃ x, s.source name = some x ∧
      Replies x.version x.request x.reply ∧ x.request = request name ∧ Yields x.reply endpoints
  ordered : ∀ Replies (s s' : DiscoveryState I Q), OrderedRun (P.machine Replies) s →
    Step (P.machine Replies) s s' → ¬ GoesBack s s'

theorem Honest.keepsOrder {I Q : Type} [DecidableEq I] {P : DiscoveryPrograms Q}
    {request : Text → Q} {extract : RegistryReply → Except GatewayError (List Text)}
    (h : Honest request extract P) {Yields : RegistryReply → List Text → Prop}
    (hok : ∀ reply endpoints, extract reply = .ok endpoints ↔ Yields reply endpoints) :
    KeepsOrder I P request Yields where
  source Replies s hs name endpoints he := by
    have hsound := h.sound hs
    obtain ⟨x, hsrc, hx, hreq, hex⟩ := hsound.entries name endpoints he
    exact ⟨x, hsrc, hsound.history x hx, hreq, (hok _ _).mp hex⟩
  ordered Replies s s' hs hstep := (hs.ordered (h.asks Replies)).not_goesBack hstep

/-- **Without overtaking, endpoints do not go back in time**, for Consul and for Etcd. -/
theorem discovery_in_order (W : WebLibraries) (I : Type) [DecidableEq I] :
    (∀ c : ConsulDiscovery, KeepsOrder I (c.programs W) c.buildUrl (ConsulDiscovery.Yields W)) ∧
    ∀ c : EtcdDiscovery, KeepsOrder I (c.programs W) (c.query W) (EtcdDiscovery.Yields W) :=
  ⟨fun c => (c.programs_honest W).keepsOrder fun _ _ => ConsulDiscovery.extract_eq_ok_iff,
    fun c => (c.programs_honest W).keepsOrder fun _ _ => EtcdDiscovery.extract_eq_ok_iff⟩

/-! ### A registry that changes -/

/-- What the two registries reply: one instance, before and after it moved. -/
def consulOld : Bytes := Text.utf8 "[\x7b\"ServiceAddress\":\"old\",\"ServicePort\":80\x7d]"
def consulNew : Bytes := Text.utf8 "[\x7b\"ServiceAddress\":\"new\",\"ServicePort\":80\x7d]"
def etcdOld : Bytes := Text.utf8
  "\x7b\"kvs\":[\x7b\"key\":\"L3NlcnZpY2VzL2FwaQ==\",\"value\":\"aHR0cDovL29sZA==\"\x7d]\x7d"
def etcdNew : Bytes := Text.utf8
  "\x7b\"kvs\":[\x7b\"key\":\"L3NlcnZpY2VzL2FwaQ==\",\"value\":\"aHR0cDovL25ldw==\"\x7d]\x7d"

def consulJson (address : Text) : Json :=
  .arr [.obj [("ServiceAddress".toList, .str address), ("ServicePort".toList, .int 80)]]

def etcdJson (value : Text) : Json :=
  .obj [("kvs".toList, .arr [.obj [("key".toList, .str "L3NlcnZpY2VzL2FwaQ=="),
    ("value".toList, .str value)]])]

/-- Libraries that know these bodies, and the texts in them. -/
def knownBodies : WebLibraries where
  buildClient := .ok ()
  statusText status := Text.ofNat status.code
  parse body := [(consulOld, consulJson "old"), (consulNew, consulJson "new"),
    (etcdOld, etcdJson "aHR0cDovL29sZA=="), (etcdNew, etcdJson "aHR0cDovL25ldw==")].lookup body
  decodeError _ := "error decoding response body".toList
  encode bytes := if bytes = Text.utf8 "/services/api" then "L3NlcnZpY2VzL2FwaQ==".toList
    else "L3NlcnZpY2VzL2Fwag==".toList
  decode text := [("aHR0cDovL29sZA==".toList, Text.utf8 "http://old"),
    ("aHR0cDovL25ldw==".toList, Text.utf8 "http://new")].lookup text

/-- A registry with one body at first, and another ever after. -/
def movingRegistry {Q : Type} (old new : Bytes) (version : Nat) (_query : Q)
    (reply : RegistryReply) : Prop :=
  reply = .ok ⟨.ok, .ok (if version = 0 then old else new)⟩

def localConsul : ConsulDiscovery := ⟨"http://127.0.0.1:8500", none⟩
def localEtcd : EtcdDiscovery := ⟨["http://127.0.0.1:2379".toList], "/services/".toList⟩

abbrev movingConsul :=
  (localConsul.programs knownBodies).machine (movingRegistry consulOld consulNew)
abbrev movingEtcd := (localEtcd.programs knownBodies).machine (movingRegistry etcdOld etcdNew)

/-- Two calls that overlap, with the registry changed between their questions: the one that asked
first writes first. -/
theorem discovery_in_order_overlapping : ∃ s s' : DiscoveryState Nat Text,
    OrderedRun movingConsul s ∧ Step movingConsul s s' ∧
    (∃ th₀ th₁, s.threads 0 = some th₀ ∧ s.threads 1 = some th₁ ∧
      th₀.job = .resolve "api" ∧ th₁.job = .resolve "api") ∧
    s.entries "api" = some ["http://old:80".toList] ∧
    s'.entries "api" = some ["http://new:80".toList] ∧ ¬ GoesBack s s' := by
  have hrun : ∃ s s' : DiscoveryState Nat Text, OrderedRun movingConsul s ∧
      Step movingConsul s s' ∧ (∃ th₀ th₁, s.threads 0 = some th₀ ∧ s.threads 1 = some th₁ ∧
        th₀.job = .resolve "api" ∧ th₁.job = .resolve "api") ∧
      s.entries "api" = some ["http://old:80".toList] ∧
      s'.entries "api" = some ["http://new:80".toList] :=
    ⟨_, _, .tail (.tail (.tail (.tail (.tail (.tail (.tail (.tail .refl
      (Or.inr (.start (i := 0) (.resolve "api") rfl)))
      (Or.inl ⟨0, .read rfl rfl, State.not_overtakes_of_rest rfl fun _ _ _ h => by cases h⟩))
      (Or.inl ⟨0, .ask rfl rfl rfl, State.not_overtakes_of_rest rfl fun _ _ _ h => by cases h⟩))
      (Or.inr .change))
      (Or.inr (.start (i := 1) (.resolve "api") rfl)))
      (Or.inl ⟨1, .read rfl rfl, State.not_overtakes_of_rest rfl fun _ _ _ h => by cases h⟩))
      (Or.inl ⟨1, .ask rfl rfl rfl, State.not_overtakes_of_rest rfl fun _ _ _ h => by cases h⟩))
      (Or.inl ⟨0, .write rfl rfl, State.not_overtakes_of_first rfl rfl rfl⟩),
      Or.inl ⟨1, .write rfl rfl⟩, ⟨_, _, rfl, rfl, rfl, rfl⟩, rfl, rfl⟩
  obtain ⟨s, s', hs, hstep, hcalls, hold, hnew⟩ := hrun
  exact ⟨s, s', hs, hstep, hcalls, hold, hnew,
    ((discovery_in_order knownBodies Nat).1 localConsul).ordered _ s s' hs hstep⟩

/-- **Old lists can take the place of new ones.**  On Consul, a call asks, a second one asks later
and writes, and then the first one writes.  On Etcd, a call asks and writes between the two writes
of one turn of a task. -/
theorem old_over_new :
    (∃ s s' : DiscoveryState Nat Text, Reachable movingConsul s ∧ Step movingConsul s s' ∧
      s.entries "api" = some ["http://new:80".toList] ∧
      s'.entries "api" = some ["http://old:80".toList] ∧ GoesBack s s') ∧
    ∃ s s' : DiscoveryState Nat EtcdQuery, Reachable movingEtcd s ∧ Step movingEtcd s s' ∧
      s.entries "api" = some ["http://new".toList] ∧
      s'.entries "api" = some ["http://old".toList] ∧ GoesBack s s' := by
  refine ⟨⟨_, _, .tail (.tail (.tail (.tail (.tail (.tail (.tail (.tail .refl
      (Or.inr (.start (i := 0) (.resolve "api") rfl)))
      (Or.inl ⟨0, .read rfl rfl⟩))
      (Or.inl ⟨0, .ask rfl rfl rfl⟩))
      (Or.inr .change))
      (Or.inr (.start (i := 1) (.resolve "api") rfl)))
      (Or.inl ⟨1, .read rfl rfl⟩))
      (Or.inl ⟨1, .ask rfl rfl rfl⟩))
      (Or.inl ⟨1, .write rfl rfl⟩),
    Or.inl ⟨0, .write rfl rfl⟩, rfl, rfl, "api", _, _, rfl, rfl, Nat.zero_lt_one⟩,
    ⟨_, _, .tail (.tail (.tail (.tail (.tail (.tail (.tail .refl
      (Or.inr (.start (i := 0) (.watch "api") rfl)))
      (Or.inl ⟨0, .ask rfl rfl rfl⟩))
      (Or.inl ⟨0, .write rfl rfl⟩))
      (Or.inr .change))
      (Or.inr (.start (i := 1) (.healthCheck "api") rfl)))
      (Or.inl ⟨1, .ask rfl rfl rfl⟩))
      (Or.inl ⟨1, .write rfl rfl⟩),
    Or.inl ⟨0, .write rfl rfl⟩, rfl, rfl, "api", _, _, rfl, rfl, Nat.zero_lt_one⟩⟩

end MiniGateway
