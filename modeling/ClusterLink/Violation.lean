import ClusterLink.Text.Quoted

/-!
# Violations

Why the settings of a connection are refused. A violation names the options that are at fault; its
message is what the operator reads, and its kind is the class of the fault in reports.
-/

namespace ClusterLink

/-- The class of a violation. -/
inductive ViolationKind where
  | bothConnectionModes
  | noConnectionMode
  | emptyCloudIdentifier
  | emptyHostList
  | mixedProtocols
  | schemeMismatch
  | pathMismatch
  | prematureNormalization
  | disallowedOption
  | mutualExclusion
  | incompleteDependency
  | emptyCredential
  | emptyPassphrase
  | unreadablePath
  | writablePath
  | missingTrustMaterial
  | invalidValue
deriving DecidableEq, Repr

namespace ViolationKind

def code : ViolationKind → String
  | bothConnectionModes => "both_connection_modes"
  | noConnectionMode => "no_connection_mode"
  | emptyCloudIdentifier => "empty_cloud_identifier"
  | emptyHostList => "empty_host_list"
  | mixedProtocols => "mixed_protocols"
  | schemeMismatch => "scheme_mismatch"
  | pathMismatch => "path_mismatch"
  | prematureNormalization => "premature_normalization"
  | disallowedOption => "disallowed_option"
  | mutualExclusion => "mutual_exclusion"
  | incompleteDependency => "incomplete_dependency"
  | emptyCredential => "empty_credential"
  | emptyPassphrase => "empty_passphrase"
  | unreadablePath => "unreadable_path"
  | writablePath => "writable_path"
  | missingTrustMaterial => "missing_trust_material"
  | invalidValue => "invalid_value"

def all : List ViolationKind :=
  [bothConnectionModes, noConnectionMode, emptyCloudIdentifier, emptyHostList, mixedProtocols,
    schemeMismatch, pathMismatch, prematureNormalization, disallowedOption, mutualExclusion,
    incompleteDependency, emptyCredential, emptyPassphrase, unreadablePath, writablePath,
    missingTrustMaterial, invalidValue]

def ofCode? (code : String) : Option ViolationKind := all.find? fun kind => kind.code == code

@[simp] theorem ofCode?_code (kind : ViolationKind) : ofCode? kind.code = some kind := by
  cases kind <;> decide

end ViolationKind

/-- Why settings are refused. Options are given by their names, files by their paths. -/
inductive Violation where
  | bothConnectionModes
  | noConnectionMode
  | emptyCloudIdentifier
  | emptyHostList
  | invalidHost (host reason : String)
  | mixedProtocols
  | schemeMismatch (scheme : String) (sslEnabled : Bool)
  | pathMismatch
  | prematureNormalization
  | disallowedOptions (options : List String)
  | verificationModeForbids (option : String)
  | truststorePasswordWithoutVerification
  | conflictingOptions (first second : String)
  | multipleAuthMechanisms (options : List String)
  | missingCompanion (option requires : String)
  | orphanOption (option requires : String)
  | emptyBasicCredential
  | emptyCredential (option : String)
  | emptyPassphrase (option : String)
  | invalidCloudAuth
  | invalidVerificationMode (value : String)
  | emptyIdentity
  | emptyCertificateAuthorities
  | missingTrustMaterial (mode : String)
  | unreadablePath (label path : String)
  | writablePath (label path : String)
deriving DecidableEq, Repr

namespace Violation

def nameList (options : List String) : String := Text.shownList (options.map Text.quoted)

def message : Violation → String
  | bothConnectionModes => "`hosts` and `cloud_id` cannot be used together."
  | noConnectionMode => "Either `hosts` or `cloud_id` is required"
  | emptyCloudIdentifier => "Empty `cloud_id` is not allowed"
  | emptyHostList => "Empty `hosts` is not allowed"
  | invalidHost host reason => "Invalid `hosts` entry `" ++ host ++ "`: " ++ reason
  | mixedProtocols =>
      "`hosts` contains entries with mixed protocols, which are unsupported; when any entry " ++
        "includes a protocol, the protocols of all must match each other"
  | schemeMismatch scheme sslEnabled =>
      "All hosts must agree with " ++ scheme ++ " schema when" ++
        (if sslEnabled then "" else " NOT") ++ " using `ssl_enabled`."
  | pathMismatch => "All hosts must use same path."
  | prematureNormalization => "`hosts` cannot be normalized with `ssl_enabled => nil`"
  | disallowedOptions options =>
      "When SSL is disabled, the following provided parameters are not allowed: " ++
        nameList options
  | verificationModeForbids option =>
      "`" ++ option ++ "` requires `ssl_verification_mode` to be either `full` or `certificate`"
  | truststorePasswordWithoutVerification =>
      "`ssl_truststore_password` requires `ssl_truststore_path` and `ssl_verification_mode` " ++
        "(either `full` or `certificate`)"
  | conflictingOptions first second =>
      "`" ++ first ++ "` and `" ++ second ++ "` cannot be used together."
  | multipleAuthMechanisms options =>
      "Multiple authentication " ++ nameList options ++
        " options cannot be used together. Please provide ONLY one."
  | missingCompanion option requires => "`" ++ option ++ "` requires `" ++ requires ++ "`"
  | orphanOption option requires =>
      "`" ++ option ++ "` is not allowed unless `" ++ requires ++ "` is specified"
  | emptyBasicCredential => "Empty `username` or `password` is not allowed"
  | emptyCredential option => "Empty `" ++ option ++ "` is not allowed"
  | emptyPassphrase option => "`" ++ option ++ "` cannot be empty"
  | invalidCloudAuth =>
      "`cloud_auth` must be in the form `<username>:<password>` with a non-empty username and " ++
        "password"
  | invalidVerificationMode value =>
      "Invalid `ssl_verification_mode` value `" ++ value ++
        "`; expected one of `full`, `certificate`, `none`"
  | emptyIdentity => "Empty `id` is not allowed"
  | emptyCertificateAuthorities => "`ssl_certificate_authorities` cannot be empty"
  | missingTrustMaterial mode =>
      "`ssl_verification_mode => " ++ mode ++ "` requires `ssl_truststore_path` or " ++
        "`ssl_certificate_authorities` because no system trust store is available"
  | unreadablePath label path =>
      "Specified " ++ label ++ " " ++ path ++ " path must be readable."
  | writablePath label path =>
      "Specified " ++ label ++ " " ++ path ++ " path must not be writable."

def kind : Violation → ViolationKind
  | bothConnectionModes => .bothConnectionModes
  | noConnectionMode => .noConnectionMode
  | emptyCloudIdentifier => .emptyCloudIdentifier
  | emptyHostList => .emptyHostList
  | mixedProtocols => .mixedProtocols
  | schemeMismatch _ _ => .schemeMismatch
  | pathMismatch => .pathMismatch
  | prematureNormalization => .prematureNormalization
  | disallowedOptions _ => .disallowedOption
  | verificationModeForbids _ => .disallowedOption
  | truststorePasswordWithoutVerification => .disallowedOption
  | conflictingOptions _ _ => .mutualExclusion
  | multipleAuthMechanisms _ => .mutualExclusion
  | missingCompanion _ _ => .incompleteDependency
  | orphanOption _ _ => .incompleteDependency
  | emptyBasicCredential => .emptyCredential
  | emptyCredential _ => .emptyCredential
  | emptyPassphrase _ => .emptyPassphrase
  | missingTrustMaterial _ => .missingTrustMaterial
  | emptyCertificateAuthorities => .missingTrustMaterial
  | unreadablePath _ _ => .unreadablePath
  | writablePath _ _ => .writablePath
  | invalidHost _ _ => .invalidValue
  | invalidCloudAuth => .invalidValue
  | invalidVerificationMode _ => .invalidValue
  | emptyIdentity => .invalidValue

end Violation

end ClusterLink
