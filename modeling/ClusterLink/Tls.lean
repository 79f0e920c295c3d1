import ClusterLink.Access
import ClusterLink.Datum
import ClusterLink.Options.Basic
import ClusterLink.Text.Quoted

/-!
# TLS

How connections are secured: how strictly the server is verified, what this side shows of itself,
and what it trusts. Options that belong together have to be given together, and options that
exclude each other must not. Without a trust store of its own, the filter relies on the one of the
system.
-/

namespace ClusterLink

inductive VerificationMode where
  | full
  | certificate
  | none
deriving DecidableEq, Repr, Inhabited

namespace VerificationMode

def name : VerificationMode → String
  | full => "full"
  | certificate => "certificate"
  | none => "none"

def ofText (text : String) : Except Violation VerificationMode :=
  let lower := text.toList.map Char.toLower
  if lower = "full".toList then .ok full
  else if lower = "certificate".toList then .ok certificate
  else if lower = "none".toList then .ok none
  else .error (.invalidVerificationMode text)

def requiresTrust : VerificationMode → Bool
  | none => false
  | _ => true

end VerificationMode

/-- What this side shows of itself. -/
inductive Identity where
  | certificateKey (certificate key : String) (passphrase : Secret)
  | keystore (path : String) (password : Secret)
deriving DecidableEq, Inhabited

inductive Trust where
  | system
  | truststore (path : String) (password : Secret)
  | certificateAuthorities (paths : List String)
  | unverified
deriving DecidableEq, Inhabited

def Trust.name : Trust → String
  | system => "system"
  | truststore _ _ => "truststore"
  | certificateAuthorities _ => "certificate_authorities"
  | unverified => "unverified"

inductive Tls where
  | disabled
  | enabled (mode : VerificationMode) (identity : Option Identity) (trust : Trust)
deriving DecidableEq, Inhabited

namespace Tls

def isEnabled : Tls → Bool
  | disabled => false
  | enabled _ _ _ => true

def mode? : Tls → Option VerificationMode
  | disabled => none
  | enabled mode _ _ => some mode

end Tls

inductive SystemTrust where
  | available (path : String)
  | unavailable
deriving DecidableEq, Repr, Inhabited

def SystemTrust.isAvailable : SystemTrust → Bool
  | available _ => true
  | unavailable => false

def SystemTrust.inspect : SystemTrust → String
  | available path => Text.shownCall "Available" [Text.quoted path]
  | unavailable => "Unavailable"

def Options.files (options : Options) : List String :=
  options.sslCertificate.toList ++ options.sslKey.toList ++ options.sslKeystorePath.toList ++
    options.sslTruststorePath.toList ++ options.sslCertificateAuthorities.getD []

/-! ## Identity -/

namespace Identity

/-- The certificate, the key and the passphrase are given together. -/
def checkCertificate (options : Options) (probe : Probe) : Traced Unit :=
  match options.sslCertificate, options.sslKey with
  | none, _ => pure ()
  | some _, none => Traced.refuse (.missingCompanion "ssl_certificate" "ssl_key")
  | some certificate, some _ => probe.ensureSealed "ssl_certificate" certificate

def checkKey (options : Options) (probe : Probe) : Traced Unit :=
  match options.sslKey, options.sslCertificate, options.sslKeyPassphrase with
  | none, _, _ => pure ()
  | some _, none, _ => Traced.refuse (.orphanOption "ssl_key" "ssl_certificate")
  | some _, some _, none => Traced.refuse (.missingCompanion "ssl_key" "ssl_key_passphrase")
  | some key, some _, some _ => probe.ensureSealed "ssl_key" key

/-- A passphrase needs a key, and is not empty. -/
def checkPassphrase (options : Options) : Except Violation Unit :=
  match options.sslKeyPassphrase, options.sslKey with
  | none, _ => .ok ()
  | some _, none => .error (.orphanOption "ssl_key_passphrase" "ssl_key")
  | some passphrase, some _ =>
      if passphrase.isEmpty then .error (.emptyPassphrase "ssl_key_passphrase") else .ok ()

/-- A keystore and its password are given together, and the password is not empty. -/
def checkKeystorePassword (options : Options) : Except Violation Unit :=
  match options.sslKeystorePath, options.sslKeystorePassword with
  | none, none => .ok ()
  | some _, none => .error (.missingCompanion "ssl_keystore_path" "ssl_keystore_password")
  | none, some _ => .error (.orphanOption "ssl_keystore_password" "ssl_keystore_path")
  | some _, some password =>
      if password.isEmpty then .error (.emptyPassphrase "ssl_keystore_password") else .ok ()

def checkKeystore (options : Options) (probe : Probe) : Traced Unit :=
  match options.sslKeystorePath with
  | none => pure ()
  | some path => probe.ensureSealed "ssl_keystore_path" path

def ofOptions? (options : Options) : Option Identity :=
  match options.sslCertificate, options.sslKey, options.sslKeyPassphrase with
  | some certificate, some key, some passphrase =>
      some (.certificateKey certificate key passphrase)
  | _, _, _ =>
      match options.sslKeystorePath, options.sslKeystorePassword with
      | some path, some password => some (.keystore path password)
      | _, _ => none

def resolve (options : Options) (probe : Probe) : Traced (Option Identity) := do
  if options.sslCertificate.isSome && options.sslKeystorePath.isSome then
    Traced.refuse (.conflictingOptions "ssl_certificate" "ssl_keystore_path")
  else
    checkCertificate options probe
    checkKey options probe
    Traced.lift (checkPassphrase options)
    Traced.lift (checkKeystorePassword options)
    checkKeystore options probe
    pure (ofOptions? options)

end Identity

/-! ## Trust -/

namespace Trust

def resolveUnverified (options : Options) : Except Violation Trust :=
  if options.sslTruststorePath.isSome then
    .error (.verificationModeForbids "ssl_truststore_path")
  else if options.sslTruststorePassword.isSome then
    .error .truststorePasswordWithoutVerification
  else if options.sslCertificateAuthorities.isSome then
    .error (.verificationModeForbids "ssl_certificate_authorities")
  else .ok .unverified

def checkTruststore (options : Options) (probe : Probe) : Traced Unit :=
  match options.sslTruststorePath, options.sslTruststorePassword with
  | none, _ => pure ()
  | some _, none =>
      Traced.refuse (.missingCompanion "ssl_truststore_path" "ssl_truststore_password")
  | some path, some _ => probe.ensureSealed "ssl_truststore_path" path

/-- The password of a truststore needs a truststore, and is not empty. -/
def checkTruststorePassword (options : Options) : Except Violation Unit :=
  match options.sslTruststorePassword, options.sslTruststorePath with
  | none, _ => .ok ()
  | some _, none => .error (.orphanOption "ssl_truststore_password" "ssl_truststore_path")
  | some password, some _ =>
      if password.isEmpty then .error (.emptyPassphrase "ssl_truststore_password") else .ok ()

/-- A list of authorities is not empty, and each of them is sealed. -/
def checkAuthorities (options : Options) (probe : Probe) : Traced Unit :=
  match options.sslCertificateAuthorities with
  | none => pure ()
  | some [] => Traced.refuse .emptyCertificateAuthorities
  | some paths => probe.ensureAllSealed "ssl_certificate_authorities" paths

/-- The trust that complete options give; without any it is the one of the system. -/
def ofOptions (options : Options) (mode : VerificationMode) (systemTrust : SystemTrust) :
    Except Violation Trust :=
  match options.sslTruststorePath, options.sslTruststorePassword,
    options.sslCertificateAuthorities with
  | some path, some password, _ => .ok (.truststore path password)
  | _, _, some paths => .ok (.certificateAuthorities paths)
  | _, _, none =>
      if systemTrust.isAvailable then .ok .system else .error (.missingTrustMaterial mode.name)

def resolve (options : Options) (mode : VerificationMode) (probe : Probe)
    (systemTrust : SystemTrust) : Traced Trust := do
  if !mode.requiresTrust then Traced.lift (resolveUnverified options)
  else if options.sslTruststorePath.isSome && options.sslCertificateAuthorities.isSome then
    Traced.refuse (.conflictingOptions "ssl_truststore_path" "ssl_certificate_authorities")
  else
    checkTruststore options probe
    Traced.lift (checkTruststorePassword options)
    checkAuthorities options probe
    Traced.lift (ofOptions options mode systemTrust)

end Trust

/-! ## Both -/

namespace Tls

/-- The verification mode that options give; it is the strictest one if they give none. -/
def modeOf (options : Options) : Except Violation VerificationMode :=
  match options.sslVerificationMode with
  | some text => VerificationMode.ofText text
  | none => .ok .full

def tlsOnlySupplied (options : Options) : List String := options.supplied.filter isTlsOnly

def resolveDisabled (options : Options) : Except Violation Tls :=
  if (tlsOnlySupplied options).isEmpty then .ok .disabled
  else .error (.disallowedOptions (tlsOnlySupplied options))

def resolve (options : Options) (tlsEnabled : Bool) (probe : Probe)
    (systemTrust : SystemTrust) : Traced Tls := do
  if tlsEnabled then
    let mode ← Traced.lift (modeOf options)
    let identity ← Identity.resolve options probe
    let trust ← Trust.resolve options mode probe systemTrust
    Traced.note (.resolvedTls mode.name identity.isSome trust.name)
    pure (.enabled mode identity trust)
  else Traced.lift (resolveDisabled options)

end Tls

/-! ## Written forms -/

def Identity.members : Identity → List (String × Datum)
  | .certificateKey certificate key passphrase =>
      [("type", .text "certificate_key"), ("certificate", .text certificate),
        ("key", .text key), ("passphrase", .text passphrase.text)]
  | .keystore path password =>
      [("type", .text "keystore"), ("path", .text path), ("password", .text password.text)]

def Identity.inspect : Identity → String
  | .certificateKey certificate key passphrase =>
      Text.shownRecord "CertificateKey"
        [("certificate", Text.quoted certificate), ("key", Text.quoted key),
          ("passphrase", passphrase.inspect)] false
  | .keystore path password =>
      Text.shownRecord "Keystore"
        [("path", Text.quoted path), ("password", password.inspect)] false

def Trust.members : Trust → List (String × Datum)
  | .system => [("type", .text "system")]
  | .truststore path password =>
      [("type", .text "truststore"), ("path", .text path), ("password", .text password.text)]
  | .certificateAuthorities paths =>
      [("type", .text "certificate_authorities"), ("paths", .list (paths.map .text))]
  | .unverified => [("type", .text "unverified")]

def Trust.inspect : Trust → String
  | .system => "System"
  | .truststore path password =>
      Text.shownRecord "Truststore"
        [("path", Text.quoted path), ("password", password.inspect)] false
  | .certificateAuthorities paths =>
      Text.shownRecord "CertificateAuthorities"
        [("paths", Text.shownList (paths.map Text.quoted))] false
  | .unverified => "Unverified"

def VerificationMode.inspect : VerificationMode → String
  | .full => "Full"
  | .certificate => "Certificate"
  | .none => "None"

namespace Tls

def members : Tls → List (String × Datum)
  | disabled => [("status", .text "disabled")]
  | enabled mode identity trust =>
      [("status", .text "enabled"), ("verification_mode", .text mode.name)] ++
        Datum.optional "identity" (identity.map fun found => .record found.members) ++
        [("trust", .record trust.members)]

def inspect : Tls → String
  | disabled => "Disabled"
  | enabled mode identity trust =>
      Text.shownRecord "Enabled"
        [("verification_mode", mode.inspect),
          ("identity", Text.shownOption (identity.map Identity.inspect)),
          ("trust", trust.inspect)] false

end Tls

end ClusterLink
