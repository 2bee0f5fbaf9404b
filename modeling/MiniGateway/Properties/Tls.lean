import MiniGateway.Source.Tls

/-!
# Properties — TLS

Which protocol a TLS handshake agrees on.  There is an acceptor only in a process that has a crypto
provider (`installed_of_acceptor`).  It offers HTTP/2 and HTTP/1.1, unless client certificates are
asked for: then it is built anew and offers nothing (`createTlsAcceptor_alpn`).  What is agreed on
is spoken afterwards exactly when HTTP/2 cannot be agreed on (`agreed_spoken_iff`).
-/

namespace MiniGateway.TlsLibraries

open Http

variable {χ π : Type}

/-- Of the protocols the client offers too, the server takes the first of its own. -/
def Documented (T : TlsLibraries χ π) : Prop :=
  ∀ server offers agreed, T.accept server offers = .ok agreed →
    agreed = server.alpnProtocols.find? (offers.contains ·)

/-- The process has a crypto provider, so configurations can be built. -/
def Installed (T : TlsLibraries χ π) : Prop := T.builder = .ok ()

/-- The section asks for client certificates. -/
def asksClients (config : TlsConfig) : Bool := config.clientAuth.any (·.enabled)

/-! ### The acceptor -/

/-- The first step of what is built without error or panic is. -/
theorem built_of_bind {α β : Type} {f : α → Building β} {b : β} : ∀ {x : Building α},
    (x >>= f).run = .ok (.ok b) → ∃ a, x.run = .ok (.ok a) ∧ (f a).run = .ok (.ok b)
  | .ok (.ok a), h => ⟨a, rfl, h⟩
  | .ok (.error _), h => nomatch h
  | .error _, h => nomatch h

theorem orTls_eq_ok {α : Type} {context : Text} {result : Except Text α} {a : α}
    (h : orTls context result = .ok a) : result = .ok a := by
  cases result with
  | error e => cases h
  | ok b => exact congrArg _ (Except.ok.inj h)

/-- Whatever it is built from, a configuration starts without protocols. -/
theorem withSingleCert_alpn {T : TlsLibraries χ π} {roots : Option (List χ)} {certs : List χ}
    {key : π} {server : ServerConfig χ π} (h : T.withSingleCert roots certs key = .ok server) :
    server.alpnProtocols = [] := by
  rw [withSingleCert] at h
  cases hcheck : T.checkCert certs key with
  | error e => rw [hcheck] at h; cases h
  | ok u => rw [hcheck] at h; cases h; rfl

theorem withClientAuth_alpn {T : TlsLibraries χ π} {config : TlsConfig} {caPath : Text}
    {server : ServerConfig χ π} (h : (T.withClientAuth config caPath).run = .ok (.ok server)) :
    server.alpnProtocols = [] := by
  rw [withClientAuth] at h
  obtain ⟨caCerts, -, h⟩ := built_of_bind h
  obtain ⟨rootStore, -, h⟩ := built_of_bind h
  obtain ⟨-, -, h⟩ := built_of_bind h
  obtain ⟨-, -, h⟩ := built_of_bind h
  obtain ⟨certs, -, h⟩ := built_of_bind h
  obtain ⟨key, -, h⟩ := built_of_bind h
  exact withSingleCert_alpn (orTls_eq_ok (Except.ok.inj h))

/-- **There is no acceptor without a provider**: whatever the section says, it is an error or a
panic. -/
theorem installed_of_acceptor {T : TlsLibraries χ π} {config : TlsConfig}
    {server : ServerConfig χ π} (h : T.createTlsAcceptor config = .ok (.ok server)) :
    T.Installed := by
  rw [createTlsAcceptor] at h
  split at h
  · cases h
  obtain ⟨certs, -, h⟩ := built_of_bind h
  obtain ⟨key, -, h⟩ := built_of_bind h
  obtain ⟨⟨⟩, hbuilder, -⟩ := built_of_bind h
  rw [Installed]
  cases hb : T.builder with
  | ok u => rfl
  | error panic =>
      rw [hb] at hbuilder
      cases hbuilder

/-- **The protocols of the acceptor**, where there can be one. -/
theorem createTlsAcceptor_alpn {T : TlsLibraries χ π} (hprovider : T.Installed)
    {config : TlsConfig} {server : ServerConfig χ π}
    (h : T.createTlsAcceptor config = .ok (.ok server)) :
    server.alpnProtocols = if asksClients config then [] else [h2, http11] := by
  rw [createTlsAcceptor, hprovider] at h
  split at h
  · cases h
  obtain ⟨certs, -, h⟩ := built_of_bind h
  obtain ⟨key, -, h⟩ := built_of_bind h
  obtain ⟨-, -, h⟩ := built_of_bind h
  obtain ⟨built, -, h⟩ := built_of_bind h
  rw [asksClients]
  cases hauth : config.clientAuth with
  | none =>
      rw [hauth] at h
      cases h
      rfl
  | some clientAuth =>
      rw [hauth] at h
      cases hen : clientAuth.enabled with
      | false =>
          simp only [hen] at h
          cases h
          simp [hen]
      | true =>
          simp only [hen, if_true] at h
          rw [withClientAuth_alpn h]
          simp [hen]

/-! ### The connection -/

/-- **What is agreed on is spoken.**  In a process with a crypto provider, on every handshake that
succeeds, the protocol agreed on is one that is spoken on the connection afterwards exactly when
client certificates are asked for or the client does not offer HTTP/2. -/
theorem agreed_spoken_iff {T : TlsLibraries χ π} (hT : T.Documented) (hprovider : T.Installed)
    {config : TlsConfig} {server : ServerConfig χ π}
    (hserver : T.createTlsAcceptor config = .ok (.ok server)) {offers : List Bytes}
    {agreed : Option Bytes} (haccept : T.accept server offers = .ok agreed) :
    (∀ protocol, T.serve (some server) offers = .http1 (some protocol) → protocol ∈ spoken) ↔
      asksClients config = true ∨ h2 ∉ offers := by
  have hserve : T.serve (some server) offers = .http1 agreed := by
    simp only [serve, haccept]
  rw [hserve, hT server offers agreed haccept, createTlsAcceptor_alpn hprovider hserver]
  cases asksClients config with
  | true => simp
  | false =>
      rw [if_neg Bool.false_ne_true, or_iff_right Bool.false_ne_true]
      by_cases hh2 : h2 ∈ offers
      · -- the first of the two protocols is taken, and it is not spoken
        have hfind : [h2, http11].find? (offers.contains ·) = some h2 := by
          simp [hh2]
        rw [hfind]
        exact iff_of_false (fun h => absurd (h h2 rfl) (by decide)) (not_not.mpr hh2)
      · refine iff_of_true (fun protocol hp => ?_) hh2
        have hfind := Connection.http1.inj hp
        rcases List.mem_cons.mp (List.mem_of_find?_eq_some hfind) with rfl | hmem
        · exact absurd (by simpa using List.find?_some hfind) hh2
        · rw [List.mem_singleton.mp hmem]
          decide

/-- A library over named certificates and keys: one file, a crypto provider, and handshakes as
documented. -/
def namedTls : TlsLibraries Text Text where
  openFile _ := .ok []
  certs _ := [.ok "CERT".toList]
  pkcs8PrivateKeys _ := [.ok "KEY".toList]
  rsaPrivateKeys _ := []
  builder := .ok ()
  addRoot roots cert := .ok (roots ++ [cert])
  checkVerifier _ := .ok ()
  checkCert _ _ := .ok ()
  accept server offers := .ok (server.alpnProtocols.find? (offers.contains ·))

theorem namedTls_documented : namedTls.Documented :=
  fun _ _ _ h => (Except.ok.inj h).symm

/-- The TLS section of the README. -/
def readmeTls : TlsConfig where
  enabled := true
  certPath := "./certs/cert.pem"
  keyPath := "./certs/key.pem"
  clientAuth := some ⟨false, "./certs/ca.pem"⟩

/-- Its acceptor. -/
def readmeServer : ServerConfig Text Text := ⟨["CERT".toList], "KEY".toList, none, [h2, http11]⟩

/-- In a process without a crypto provider, the section of the README ends in a panic. -/
example : { namedTls with builder := .error .unwrap }.createTlsAcceptor readmeTls =
    .error .unwrap := rfl

/-- A client that offers HTTP/1.1 alone gets it. -/
theorem agreed_spoken_http11 :
    namedTls.serve (some readmeServer) [http11] = .http1 (some http11) ∧ http11 ∈ spoken := by
  have hserve : namedTls.serve (some readmeServer) [http11] = .http1 (some http11) := by decide
  refine ⟨hserve, (agreed_spoken_iff namedTls_documented (show namedTls.Installed from rfl)
    (show namedTls.createTlsAcceptor readmeTls = .ok (.ok readmeServer) from rfl)
    (show namedTls.accept readmeServer [http11] = .ok (some http11) from by decide)).mpr
      (Or.inr (by decide)) http11 hserve⟩

/-- A client that offers both gets HTTP/2 agreed on and HTTP/1 spoken. -/
theorem agreed_not_spoken :
    namedTls.createTlsAcceptor readmeTls = .ok (.ok readmeServer) ∧
      namedTls.serve (some readmeServer) [h2, http11] = .http1 (some h2) ∧ h2 ∉ spoken :=
  ⟨rfl, by decide, by decide⟩

end MiniGateway.TlsLibraries
