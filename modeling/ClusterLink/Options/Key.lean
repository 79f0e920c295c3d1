/-!
# Option keys

The options of a filter, one key each, with the names under which they are written. The order of
declaration is the order of every listing; the order of names is the order of every report.
-/

namespace ClusterLink

inductive OptionKey where
  | id
  | hosts
  | cloudId
  | sslEnabled
  | sslVerificationMode
  | sslCertificate
  | sslKey
  | sslKeyPassphrase
  | sslKeystorePath
  | sslKeystorePassword
  | sslTruststorePath
  | sslTruststorePassword
  | sslCertificateAuthorities
  | username
  | password
  | cloudAuth
  | apiKey
  | geoipDatabaseDirectory
  | pipelineName
deriving DecidableEq, Repr

namespace OptionKey

def name : OptionKey → String
  | id => "id"
  | hosts => "hosts"
  | cloudId => "cloud_id"
  | sslEnabled => "ssl_enabled"
  | sslVerificationMode => "ssl_verification_mode"
  | sslCertificate => "ssl_certificate"
  | sslKey => "ssl_key"
  | sslKeyPassphrase => "ssl_key_passphrase"
  | sslKeystorePath => "ssl_keystore_path"
  | sslKeystorePassword => "ssl_keystore_password"
  | sslTruststorePath => "ssl_truststore_path"
  | sslTruststorePassword => "ssl_truststore_password"
  | sslCertificateAuthorities => "ssl_certificate_authorities"
  | username => "username"
  | password => "password"
  | cloudAuth => "cloud_auth"
  | apiKey => "api_key"
  | geoipDatabaseDirectory => "geoip_database_directory"
  | pipelineName => "pipeline_name"

def all : List OptionKey :=
  [id, hosts, cloudId, sslEnabled, sslVerificationMode, sslCertificate, sslKey, sslKeyPassphrase,
    sslKeystorePath, sslKeystorePassword, sslTruststorePath, sslTruststorePassword,
    sslCertificateAuthorities, username, password, cloudAuth, apiKey, geoipDatabaseDirectory,
    pipelineName]

def byName : List OptionKey :=
  [apiKey, cloudAuth, cloudId, geoipDatabaseDirectory, hosts, id, password, pipelineName,
    sslCertificate, sslCertificateAuthorities, sslEnabled, sslKey, sslKeyPassphrase,
    sslKeystorePassword, sslKeystorePath, sslTruststorePassword, sslTruststorePath,
    sslVerificationMode, username]

def ofName? (name : String) : Option OptionKey := all.find? fun key => key.name == name

theorem mem_all (key : OptionKey) : key ∈ all := by cases key <;> decide

theorem mem_byName (key : OptionKey) : key ∈ byName := by cases key <;> decide

theorem name_injective {a b : OptionKey} (h : a.name = b.name) : a = b := by
  revert h; cases a <;> cases b <;> decide

@[simp] theorem ofName?_name (key : OptionKey) : ofName? key.name = some key := by
  cases key <;> decide

theorem name_of_ofName? {name : String} {key : OptionKey} (h : ofName? name = some key) :
    key.name = name := by
  have h := List.find?_some h
  simpa using h

end OptionKey

/--
Whether an option of this name may be given only when TLS is on: every name that starts with
`ssl_`, the switch itself excepted, and every name that starts with `cloud_id`.
-/
def isTlsOnly (name : String) : Bool :=
  name != "ssl_enabled" &&
    ("ssl_".toList.isPrefixOf name.toList || "cloud_id".toList.isPrefixOf name.toList)

end ClusterLink
