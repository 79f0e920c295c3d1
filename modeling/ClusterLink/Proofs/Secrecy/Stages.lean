import ClusterLink.Proofs.Secrecy.Masking
import ClusterLink.Proofs.Tls.Rules
import ClusterLink.Validation

/-!
# Validation of masked options

Every stage of validation asks of a secret only whether it is given and whether it is empty, and of
the credentials of a managed cluster also what stands before their first colon. A mask keeps that, so
each stage leaves the same trail on masked options and gives what it gives without the mask, masked.
-/

namespace ClusterLink

def Options.masked (options : Options) : Options :=
  { options with
    sslKeyPassphrase := options.sslKeyPassphrase.map Secret.masked
    sslKeystorePassword := options.sslKeystorePassword.map Secret.masked
    sslTruststorePassword := options.sslTruststorePassword.map Secret.masked
    password := options.password.map Secret.masked
    cloudAuth := options.cloudAuth.map Secret.maskedAfterColon
    apiKey := options.apiKey.map Secret.masked }

@[simp] theorem Options.gives_masked (options : Options) (key : OptionKey) :
    options.masked.gives key = options.gives key := by
  cases key <;> simp [gives, value?, masked]

theorem Options.value?_masked (options : Options) {key : OptionKey}
    (hplain : key.spec.secret = false) : options.masked.value? key = options.value? key := by
  cases key <;> first | rfl | exact absurd hplain (by decide)

/-! ## Identity -/

namespace Identity

theorem checkKey_masked (options : Options) (probe : Probe) :
    checkKey options.masked probe = checkKey options probe := by
  unfold checkKey Options.masked
  cases options.sslKey with
  | none => rfl
  | some key =>
      cases options.sslCertificate with
      | none => rfl
      | some certificate => cases options.sslKeyPassphrase <;> rfl

theorem checkPassphrase_masked (options : Options) :
    checkPassphrase options.masked = checkPassphrase options := by
  unfold checkPassphrase Options.masked
  cases options.sslKeyPassphrase with
  | none => rfl
  | some passphrase => cases options.sslKey <;> simp

theorem checkKeystorePassword_masked (options : Options) :
    checkKeystorePassword options.masked = checkKeystorePassword options := by
  unfold checkKeystorePassword Options.masked
  cases options.sslKeystorePassword with
  | none => rfl
  | some password => cases options.sslKeystorePath <;> simp

theorem ofOptions?_masked (options : Options) :
    ofOptions? options.masked = (ofOptions? options).map masked := by
  unfold ofOptions? Options.masked
  cases options.sslCertificate <;> cases options.sslKey <;> cases options.sslKeyPassphrase <;>
    cases options.sslKeystorePath <;> cases options.sslKeystorePassword <;> rfl

theorem resolve_masked (options : Options) (probe : Probe) :
    resolve options.masked probe = Option.map masked <$> resolve options probe := by
  have hcertificate : checkCertificate options.masked probe = checkCertificate options probe := rfl
  have hkeystore : checkKeystore options.masked probe = checkKeystore options probe := rfl
  have hboth : (options.masked.sslCertificate.isSome && options.masked.sslKeystorePath.isSome) =
      (options.sslCertificate.isSome && options.sslKeystorePath.isSome) := rfl
  rw [resolve, resolve, hboth]
  split
  · rfl
  · simp only [hcertificate, hkeystore, checkKey_masked, checkPassphrase_masked,
      checkKeystorePassword_masked, ofOptions?_masked, map_bind, map_pure]

end Identity

/-! ## Trust -/

namespace Trust

theorem resolveUnverified_masked (options : Options) :
    resolveUnverified options.masked = masked <$> resolveUnverified options := by
  unfold resolveUnverified Options.masked
  cases options.sslTruststorePath with
  | some path => rfl
  | none =>
      cases options.sslTruststorePassword with
      | some password => rfl
      | none => cases options.sslCertificateAuthorities <;> rfl

theorem checkTruststore_masked (options : Options) (probe : Probe) :
    checkTruststore options.masked probe = checkTruststore options probe := by
  unfold checkTruststore Options.masked
  cases options.sslTruststorePath with
  | none => rfl
  | some path => cases options.sslTruststorePassword <;> rfl

theorem checkTruststorePassword_masked (options : Options) :
    checkTruststorePassword options.masked = checkTruststorePassword options := by
  unfold checkTruststorePassword Options.masked
  cases options.sslTruststorePassword with
  | none => rfl
  | some password => cases options.sslTruststorePath <;> simp

theorem ofOptions_masked (options : Options) (mode : VerificationMode) (systemTrust : SystemTrust) :
    ofOptions options.masked mode systemTrust = masked <$> ofOptions options mode systemTrust := by
  unfold ofOptions Options.masked
  cases options.sslTruststorePath <;> cases options.sslTruststorePassword <;>
    cases options.sslCertificateAuthorities <;> try rfl
  all_goals cases systemTrust <;> rfl

theorem resolve_masked (options : Options) (mode : VerificationMode) (probe : Probe)
    (systemTrust : SystemTrust) :
    resolve options.masked mode probe systemTrust =
      masked <$> resolve options mode probe systemTrust := by
  have hauthorities : checkAuthorities options.masked probe = checkAuthorities options probe := rfl
  have hboth : (options.masked.sslTruststorePath.isSome &&
      options.masked.sslCertificateAuthorities.isSome) =
        (options.sslTruststorePath.isSome && options.sslCertificateAuthorities.isSome) := rfl
  rw [resolve, resolve, hboth]
  split
  · rw [resolveUnverified_masked, Traced.map_lift]
  · split
    · rfl
    · simp only [hauthorities, checkTruststore_masked, checkTruststorePassword_masked,
        ofOptions_masked, map_bind, Traced.map_lift]

end Trust

/-! ## TLS -/

namespace Tls

theorem resolveDisabled_masked (options : Options) :
    resolveDisabled options.masked = masked <$> resolveDisabled options := by
  have hsupplied : tlsOnlySupplied options.masked = tlsOnlySupplied options :=
    tlsOnlySupplied_congr fun key _ => options.gives_masked key
  rw [resolveDisabled, resolveDisabled, hsupplied]
  split <;> rfl

theorem resolve_masked (options : Options) (tlsEnabled : Bool) (probe : Probe)
    (systemTrust : SystemTrust) :
    resolve options.masked tlsEnabled probe systemTrust =
      masked <$> resolve options tlsEnabled probe systemTrust := by
  have hmode : modeOf options.masked = modeOf options := rfl
  unfold resolve
  split
  · simp only [hmode, Identity.resolve_masked, Trust.resolve_masked, map_bind, bind_map_left,
      map_pure, Option.isSome_map, Trust.name_masked, masked]
  · rw [resolveDisabled_masked, Traced.map_lift]

@[simp] theorem advisories_masked (tls : Tls) :
    Validator.tlsAdvisories tls.masked = Validator.tlsAdvisories tls := by
  rw [Validator.tlsAdvisories, Validator.tlsAdvisories, mode?_masked]

end Tls

/-! ## Credentials -/

namespace Credentials

theorem mechanisms_masked (options : Options) : mechanisms options.masked = mechanisms options := by
  simp [mechanisms_eq, Options.masked]

theorem readBasic_masked (username : String) (password : Secret) :
    readBasic username password.masked = masked <$> readBasic username password := by
  rw [readBasic, readBasic, Secret.isEmpty_masked]
  split <;> rfl

theorem readApiKey_masked (value : Secret) :
    readApiKey value.masked = masked <$> readApiKey value := by
  rw [readApiKey, readApiKey, Secret.isEmpty_masked]
  split <;> rfl

theorem readCloudAuth_masked (value : Secret) :
    readCloudAuth value.maskedAfterColon = masked <$> readCloudAuth value := by
  rw [readCloudAuth, readCloudAuth, Secret.isEmpty_maskedAfterColon, CloudAuth.read_maskedAfterColon]
  split
  · rfl
  · cases CloudAuth.read value <;> rfl

theorem ofOptions_masked (options : Options) :
    ofOptions options.masked = masked <$> ofOptions options := by
  rw [ofOptions, ofOptions, mechanisms_masked]
  split
  · rfl
  · unfold Options.masked
    cases options.username with
    | some username =>
        cases options.password with
        | none => rfl
        | some password => exact readBasic_masked username password
    | none =>
        cases options.password with
        | some password => rfl
        | none =>
            cases options.apiKey with
            | some key => exact readApiKey_masked key
            | none =>
                cases options.cloudAuth with
                | some value => exact readCloudAuth_masked value
                | none => rfl

@[simp] theorem advisories_masked (credentials : Credentials) (tlsEnabled : Bool) :
    credentials.masked.advisories tlsEnabled = credentials.advisories tlsEnabled := by
  unfold advisories
  rw [isConfigured_masked]

end Credentials

/-! ## Validation -/

def Validated.masked (validated : Validated) : Validated :=
  { validated with connection := validated.connection.masked }

namespace Validator

theorem completion_masked (connection : Connection) :
    completion connection.masked = completion connection := by
  rw [completion, completion, Connection.masked, Tls.isEnabled_masked]

/-- On masked options validation does what it does without the mask. -/
theorem validate_masked (validator : Validator) (random : Uuid) (options : Options) :
    validator.validate random options.masked =
      Validated.masked <$> validator.validate random options := by
  have htarget : Target.ofOptions options.masked = Target.ofOptions options := rfl
  have hid : resolveId options.masked random = resolveId options random := rfl
  have huse : resolveTlsEnabled options.masked = resolveTlsEnabled options := rfl
  have hconnection : ∀ (id : String) (target : Target) (tls : Tls) (credentials : Credentials),
      (⟨id, target, tls.masked, credentials.masked, options.masked.pipelineName,
        options.masked.geoipDatabaseDirectory⟩ : Connection) =
          Connection.masked ⟨id, target, tls, credentials, options.pipelineName,
            options.geoipDatabaseDirectory⟩ := fun _ _ _ _ => rfl
  simp only [validate, htarget, hid, huse, Tls.resolve_masked, Credentials.ofOptions_masked,
    ← Traced.map_lift, map_bind, bind_map_left, map_pure, Tls.advisories_masked,
    Credentials.advisories_masked, hconnection, completion_masked, Validated.masked]

end Validator

end ClusterLink
