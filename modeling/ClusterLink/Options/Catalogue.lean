import ClusterLink.Options.Key

/-!
# The option catalogue

What every option holds, whether it needs TLS, whether it is secret, and a line of description.
A default that stands here never counts as given.
-/

namespace ClusterLink

inductive OptionKind where
  | text
  | boolean
  | path
  | password
  | uriList
  | pathList
  | choice (values : List String)
deriving DecidableEq, Repr

def OptionKind.label : OptionKind → String
  | .text => "string"
  | .boolean => "boolean"
  | .path => "path"
  | .password => "password"
  | .uriList => "uri list"
  | .pathList => "path list"
  | .choice values => "one of " ++ "|".intercalate values

structure OptionSpec where
  key : OptionKey
  kind : OptionKind
  default? : Option String := none
  tlsOnly : Bool
  description : String
deriving DecidableEq, Repr

def OptionSpec.name (spec : OptionSpec) : String := spec.key.name

/-- Exactly the passwords are secret. -/
def OptionSpec.secret (spec : OptionSpec) : Bool := spec.kind == .password

/-- The ways to verify a server certificate, strictest first. -/
def verificationModeNames : List String := ["full", "certificate", "none"]

def OptionKey.spec (key : OptionKey) : OptionSpec :=
  match key with
  | .id => ⟨key, .text, none, false, "component identity; generated when omitted"⟩
  | .hosts => ⟨key, .uriList, none, false, "cluster endpoints; exclusive with `cloud_id`"⟩
  | .cloudId =>
      ⟨key, .text, none, true, "managed cluster identifier; exclusive with `hosts`"⟩
  | .sslEnabled =>
      ⟨key, .boolean, none, false, "inferred from `hosts`/`cloud_id` when omitted"⟩
  | .sslVerificationMode =>
      ⟨key, .choice verificationModeNames, some "full", true,
        "how strictly the server certificate is verified (default applies only with TLS)"⟩
  | .sslCertificate => ⟨key, .path, none, true, "client certificate; requires `ssl_key`"⟩
  | .sslKey => ⟨key, .path, none, true, "client key; requires `ssl_key_passphrase`"⟩
  | .sslKeyPassphrase => ⟨key, .password, none, true, "passphrase for `ssl_key`"⟩
  | .sslKeystorePath =>
      ⟨key, .path, none, true, "client keystore; exclusive with `ssl_certificate`"⟩
  | .sslKeystorePassword => ⟨key, .password, none, true, "password for `ssl_keystore_path`"⟩
  | .sslTruststorePath => ⟨key, .path, none, true, "truststore overriding the system trust"⟩
  | .sslTruststorePassword =>
      ⟨key, .password, none, true, "password for `ssl_truststore_path`"⟩
  | .sslCertificateAuthorities =>
      ⟨key, .pathList, none, true,
        "CA certificates overriding the system trust; exclusive with `ssl_truststore_path`"⟩
  | .username => ⟨key, .text, none, false, "basic auth username; requires `password`"⟩
  | .password => ⟨key, .password, none, false, "basic auth password"⟩
  | .cloudAuth => ⟨key, .password, none, false, "`<username>:<password>` for managed clusters"⟩
  | .apiKey => ⟨key, .password, none, false, "API key, encoded or `id:key`"⟩
  | .geoipDatabaseDirectory =>
      ⟨key, .path, none, false, "directory of *.mmdb files handed to the GeoIP provider"⟩
  | .pipelineName =>
      ⟨key, .text, none, false, "template resolving the ingest pipeline name"⟩

def catalogue : List OptionSpec := OptionKey.all.map OptionKey.spec

def OptionSpec.ofName? (name : String) : Option OptionSpec :=
  (OptionKey.ofName? name).map OptionKey.spec

theorem tlsOnly_spec (key : OptionKey) : key.spec.tlsOnly = isTlsOnly key.name := by
  cases key <;> decide

end ClusterLink
