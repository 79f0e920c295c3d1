import ClusterLink.Proofs.Credentials.Rules
import ClusterLink.Proofs.Hosts
import ClusterLink.Proofs.Tls.Rules

/-!
# Truth of violations

What a violation says of the options and of the surroundings that they are validated in, stated
without the checks that find it, and the stage of validation that it belongs to.
-/

namespace ClusterLink

namespace OptionValue

def Holds (text : String) : OptionValue → Prop
  | .text value => text = value
  | .texts values => text ∈ values
  | .flag _ => False
  | .secret _ => False

def IsEmpty : OptionValue → Prop
  | .text value => value = ""
  | .secret value => value.expose = ""
  | .texts values => values = []
  | .flag _ => False

@[simp] theorem isEmpty_secret {value : Secret} :
    (secret value).IsEmpty ↔ value.isEmpty = true := by
  simp [IsEmpty, Secret.isEmpty]

end OptionValue

namespace Options

variable {options : Options}

def GivesEmpty (options : Options) (name : String) : Prop :=
  ∃ (key : OptionKey) (value : OptionValue),
    key.name = name ∧ options.value? key = some value ∧ value.IsEmpty

def GivesText (options : Options) (name text : String) : Prop :=
  ∃ (key : OptionKey) (value : OptionValue),
    key.name = name ∧ options.value? key = some value ∧ value.Holds text

def SettlesTls (options : Options) (tlsEnabled : Bool) : Prop :=
  ∃ target, Target.Follows options target ∧ options.UsesTls target tlsEnabled

def NamesHosts (options : Options) (endpoints : List Endpoint) : Prop :=
  Target.Follows options (.hosts endpoints)

variable {key : OptionKey} {value : OptionValue}

theorem isSupplied_of_isSome (h : (options.value? key).isSome = true) :
    options.isSupplied key.name = true := by
  rw [options.isSupplied_name, gives, h]

theorem isSupplied_of_value? (h : options.value? key = some value) :
    options.isSupplied key.name = true := isSupplied_of_isSome (by rw [h]; rfl)

theorem not_isSupplied_of_value? (h : options.value? key = none) :
    options.isSupplied key.name = false :=
  (options.isSupplied_eq_false_iff key).2 h

theorem lacks_of_value? {required : OptionKey} (h : options.value? key = some value)
    (hmissing : options.value? required = none) :
    options.isSupplied key.name = true ∧ options.isSupplied required.name = false :=
  ⟨isSupplied_of_value? h, not_isSupplied_of_value? hmissing⟩

theorem givesEmpty_of_value? (h : options.value? key = some value) (hempty : value.IsEmpty) :
    options.GivesEmpty key.name := ⟨key, value, rfl, h, hempty⟩

/-- A secret that is refused if it is empty is refused for nothing else. -/
theorem givesEmpty_of_refused {α : Type} {a : α} {secret : Secret} {violation fault : Violation}
    (h : options.value? key = some (.secret secret))
    (hrefused : (if secret.isEmpty then .error fault else .ok a) = Except.error violation) :
    options.GivesEmpty key.name ∧ violation = fault := by
  by_cases hempty : secret.isEmpty = true
  · rw [if_pos hempty] at hrefused
    cases hrefused
    exact ⟨givesEmpty_of_value? h (OptionValue.isEmpty_secret.2 hempty), rfl⟩
  · rw [if_neg hempty] at hrefused
    cases hrefused

theorem givesText_of_value? {text : String} (h : options.value? key = some value)
    (hholds : value.Holds text) : options.GivesText key.name text := ⟨key, value, rfl, h, hholds⟩

end Options

/-! ## Stages -/

inductive ValidationStage where
  | target
  | id
  | tlsUse
  | tlsMode
  | tlsIdentity
  | tlsTrust
  | credentials
  | agreement
deriving DecidableEq, Repr

namespace ValidationStage

def rank : ValidationStage → Nat
  | target => 0
  | id => 1
  | tlsUse => 2
  | tlsMode => 3
  | tlsIdentity => 4
  | tlsTrust => 5
  | credentials => 6
  | agreement => 7

def ofOption (name : String) : ValidationStage :=
  if name ∈ ["ssl_certificate", "ssl_key", "ssl_key_passphrase", "ssl_keystore_path",
      "ssl_keystore_password"] then tlsIdentity
  else if name ∈ ["ssl_truststore_path", "ssl_truststore_password",
      "ssl_certificate_authorities"] then tlsTrust
  else credentials

/-- The rules of the stage, which depends on no later stage, are followed. -/
def Passes (validator : Validator) (options : Options) : ValidationStage → Prop
  | target => ∃ target, Target.Follows options target
  | id => options.id ≠ some ""
  | tlsUse => ∃ tlsEnabled, options.SettlesTls tlsEnabled
  | tlsMode =>
      (options.SettlesTls true → ∃ mode, options.Verifies mode) ∧
        (options.SettlesTls false →
          ∀ key : OptionKey, isTlsOnly key.name = true → options.value? key = none)
  | tlsIdentity => options.SettlesTls true →
      (∃ identity, Identity.Follows options identity) ∧
        ∀ path ∈ Identity.filesOf options, validator.probe.Seals path
  | tlsTrust => options.SettlesTls true →
      (∃ mode trust, options.Verifies mode ∧
        Trust.Follows options validator.systemTrust mode trust) ∧
        ∀ path ∈ Trust.filesOf options, validator.probe.Seals path
  | credentials => ∃ credentials, Credentials.Follows options credentials
  | agreement => ∀ target tlsEnabled, Target.Follows options target →
      options.UsesTls target tlsEnabled → target.InAgreement tlsEnabled

def EarlierPass (validator : Validator) (options : Options) (stage : ValidationStage) : Prop :=
  ∀ other : ValidationStage, other.rank < stage.rank → other.Passes validator options

/-- The rules of the stage are broken, and those of all stages before it are followed. -/
structure FirstBroken (validator : Validator) (options : Options) (stage : ValidationStage) :
    Prop where
  broken : ¬ stage.Passes validator options
  earlier : stage.EarlierPass validator options

end ValidationStage

namespace Violation

def stage : Violation → ValidationStage
  | bothConnectionModes | noConnectionMode | emptyCloudIdentifier | emptyHostList
  | invalidHost _ _ => .target
  | emptyIdentity => .id
  | mixedProtocols => .tlsUse
  | disallowedOptions _ | invalidVerificationMode _ => .tlsMode
  | conflictingOptions option _ | missingCompanion option _ | orphanOption option _
  | emptyPassphrase option | unreadablePath option _ | writablePath option _ => .ofOption option
  | verificationModeForbids _ | truststorePasswordWithoutVerification
  | emptyCertificateAuthorities | missingTrustMaterial _ => .tlsTrust
  | multipleAuthMechanisms _ | emptyBasicCredential | emptyCredential _
  | invalidCloudAuth => .credentials
  | schemeMismatch _ _ | pathMismatch | prematureNormalization => .agreement

/-- What a violation says. -/
def HoldsOf (validator : Validator) (options : Options) : Violation → Prop
  | bothConnectionModes =>
      options.isSupplied "hosts" = true ∧ options.isSupplied "cloud_id" = true
  | noConnectionMode =>
      options.isSupplied "hosts" = false ∧ options.isSupplied "cloud_id" = false
  | emptyCloudIdentifier => options.GivesEmpty "cloud_id"
  | emptyHostList => options.GivesEmpty "hosts"
  | invalidHost host reason =>
      options.GivesText "hosts" host ∧
        ∃ fault, Endpoint.read host = .error fault ∧ reason = fault.reason
  | emptyIdentity => options.GivesEmpty "id"
  | mixedProtocols =>
      options.isSupplied "ssl_enabled" = false ∧
        ∃ endpoints, options.NamesHosts endpoints ∧
          (¬ ∀ endpoint ∈ endpoints, endpoint.scheme = none) ∧
          (¬ ∀ endpoint ∈ endpoints, endpoint.scheme = some "https") ∧
          ¬ ∀ endpoint ∈ endpoints, endpoint.scheme = some "http"
  | disallowedOptions names =>
      options.SettlesTls false ∧ names ≠ [] ∧ names.Pairwise (· < ·) ∧
        ∀ name, name ∈ names ↔ options.isSupplied name = true ∧ isTlsOnly name = true
  | invalidVerificationMode value =>
      options.sslVerificationMode = some value ∧ ∀ mode : VerificationMode, ¬ mode.Spells value
  | conflictingOptions first second =>
      first ≠ second ∧ options.isSupplied first = true ∧ options.isSupplied second = true
  | missingCompanion option requires | orphanOption option requires =>
      options.isSupplied option = true ∧ options.isSupplied requires = false
  | emptyPassphrase option | emptyCredential option => options.GivesEmpty option
  | unreadablePath label path =>
      options.GivesText label path ∧ validator.probe.readable path = false
  | writablePath label path =>
      options.GivesText label path ∧ validator.probe.writable path = true
  | verificationModeForbids option =>
      options.Verifies .none ∧ options.isSupplied option = true
  | truststorePasswordWithoutVerification =>
      options.Verifies .none ∧ options.isSupplied "ssl_truststore_password" = true
  | emptyCertificateAuthorities => options.GivesEmpty "ssl_certificate_authorities"
  | missingTrustMaterial name =>
      ∃ mode : VerificationMode, options.Verifies mode ∧ mode.name = name ∧ mode ≠ .none ∧
        options.isSupplied "ssl_truststore_path" = false ∧
        options.isSupplied "ssl_certificate_authorities" = false ∧
        validator.systemTrust.isAvailable = false
  | multipleAuthMechanisms names =>
      2 ≤ names.length ∧ names.Nodup ∧ ∀ name ∈ names, options.isSupplied name = true
  | emptyBasicCredential => options.GivesEmpty "username" ∨ options.GivesEmpty "password"
  | invalidCloudAuth =>
      ∃ value, options.cloudAuth = some value ∧
        ∀ credentials : CloudAuth, ¬ credentials.Spells value.expose
  | schemeMismatch scheme tlsEnabled =>
      scheme = (if tlsEnabled then "https" else "http") ∧
        ∃ endpoints, options.NamesHosts endpoints ∧
          options.UsesTls (.hosts endpoints) tlsEnabled ∧
          ∃ endpoint ∈ endpoints, ∃ other ∈ endpoint.scheme, other ≠ scheme
  | pathMismatch =>
      ∃ endpoints, options.NamesHosts endpoints ∧
        ∃ first ∈ endpoints, ∃ second ∈ endpoints, first.pathOrRoot ≠ second.pathOrRoot
  | prematureNormalization => False

/-- The violation holds of the options, and it belongs to this stage. -/
structure Explains (validator : Validator) (options : Options) (stage : ValidationStage)
    (violation : Violation) : Prop where
  holds : violation.HoldsOf validator options
  stage_eq : violation.stage = stage

end Violation

end ClusterLink
