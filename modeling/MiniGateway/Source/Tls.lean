import MiniGateway.Source.Config

/-!
# Source — TLS

`tls.rs`: the acceptor a TLS section asks for; and what `run` makes of a connection it accepts.

Files, the PEM reader and the TLS library are parameters.  A file reads the same each time it is
opened.  Building a configuration panics in a process that has no crypto provider, so the acceptor
is there, or there is an error, or a panic.
-/

namespace MiniGateway

open Http

/-- `rustls::ServerConfig`, over certificates `χ` and keys `π`: of its fields, the ones `tls.rs`
sets. -/
structure ServerConfig (χ π : Type) where
  certs : List χ
  key : π
  clientRoots : Option (List χ)
  alpnProtocols : List Bytes
  deriving DecidableEq

/-- What `tls.rs` is linked against; each failure is the text it displays. -/
structure TlsLibraries (χ π : Type) where
  openFile : Text → Except Text Bytes
  certs : Bytes → List (Except Text χ)
  pkcs8PrivateKeys : Bytes → List (Except Text π)
  rsaPrivateKeys : Bytes → List (Except Text π)
  /-- `ServerConfig::builder`, which looks for the crypto provider of the process. -/
  builder : Except Panic Unit
  addRoot : List χ → χ → Except Text (List χ)
  checkVerifier : List χ → Except Text Unit
  checkCert : List χ → π → Except Text Unit
  /-- The handshake with a client that offers these protocols; it tells the one agreed on. -/
  accept : ServerConfig χ π → List Bytes → Except Text (Option Bytes)

namespace TlsLibraries

variable {χ π : Type}

/-- The result, with an error as `GatewayError::Tls` behind a text. -/
def orTls {α : Type} (context : Text) (result : Except Text α) : Except GatewayError α :=
  result.mapError fun e => .tls (context ++ e)

/-- `with_single_cert`: a server that offers no protocol. -/
def withSingleCert (T : TlsLibraries χ π) (clientRoots : Option (List χ)) (certs : List χ)
    (key : π) : Except Text (ServerConfig χ π) :=
  (T.checkCert certs key).map fun _ => ⟨certs, key, clientRoots, []⟩

def loadCerts (T : TlsLibraries χ π) (path : Text) : Except GatewayError (List χ) := do
  let file ← orTls "Failed to open cert file: " (T.openFile path)
  let certs ← orTls "Failed to parse certs: " ((T.certs file).mapM id)
  if certs.isEmpty then .error (.tls "No certificates found") else .ok certs

/-- The first key, or the error in its place. -/
def firstKey (context : Text) (keys : List (Except Text π)) : Except GatewayError (Option π) :=
  match keys.head? with
  | some key => (orTls context key).map some
  | none => .ok none

def loadKey (T : TlsLibraries χ π) (path : Text) : Except GatewayError π := do
  let file ← orTls "Failed to open key file: " (T.openFile path)
  match ← firstKey "Failed to parse PKCS8 key: " (T.pkcs8PrivateKeys file) with
  | some key => .ok key
  | none =>
      let file ← orTls "Failed to reopen key file: " (T.openFile path)
      match ← firstKey "Failed to parse RSA key: " (T.rsaPrivateKeys file) with
      | some key => .ok key
      | none => .error (.tls "No valid private key found")

/-- What can fail or panic. -/
abbrev Building (α : Type) : Type := ExceptT GatewayError (Except Panic) α

/-- What can fail, but does not panic. -/
def orFail {α : Type} (result : Except GatewayError α) : Building α := ExceptT.mk (.ok result)

/-- The configuration again, for clients with a certificate. -/
def withClientAuth (T : TlsLibraries χ π) (config : TlsConfig) (caPath : Text) :
    Building (ServerConfig χ π) := do
  let caCerts ← orFail (T.loadCerts caPath)
  let rootStore ← orFail (orTls "Failed to add CA cert: " (caCerts.foldlM T.addRoot []))
  orFail (orTls "Failed to build client verifier: " (T.checkVerifier rootStore))
  T.builder
  let certs ← orFail (T.loadCerts config.certPath)
  let key ← orFail (T.loadKey config.keyPath)
  orFail (orTls "Failed to rebuild TLS config: " (T.withSingleCert (some rootStore) certs key))

def h2 : Bytes := Text.utf8 "h2"
def http11 : Bytes := Text.utf8 "http/1.1"
def http10 : Bytes := Text.utf8 "http/1.0"

def createTlsAcceptor (T : TlsLibraries χ π) (config : TlsConfig) :
    Except Panic (Except GatewayError (ServerConfig χ π)) :=
  if !config.enabled then .ok (.error (.tls "TLS not enabled"))
  else ExceptT.run do
    let certs ← orFail (T.loadCerts config.certPath)
    let key ← orFail (T.loadKey config.keyPath)
    T.builder
    let serverConfig ← orFail
      (orTls "Failed to build TLS config: " (T.withSingleCert none certs key))
    let serverConfig := { serverConfig with alpnProtocols := [h2, http11] }
    match config.clientAuth with
    | some clientAuth =>
        -- the rebuilt configuration takes the place of the one with the protocols
        if clientAuth.enabled then T.withClientAuth config clientAuth.caPath
        else pure serverConfig
    | none => pure serverConfig

/-! ### `Gateway::run` -/

/-- What becomes of an accepted connection: the handshake fails, or `serve_connection` speaks
HTTP/1 on it, whatever was agreed on. -/
inductive Connection where
  | failed (e : Text)
  | http1 (agreed : Option Bytes)
  deriving DecidableEq

def serve (T : TlsLibraries χ π) (acceptor : Option (ServerConfig χ π)) (offers : List Bytes) :
    Connection :=
  match acceptor with
  | some acceptor =>
      match T.accept acceptor offers with
      | .ok agreed => .http1 agreed
      | .error e => .failed e
  | none => .http1 none

/-- The protocols hyper's `http1::Builder` speaks. -/
def spoken : List Bytes := [http10, http11]

end TlsLibraries

end MiniGateway
