import ClusterLink.Proofs.Violation.Truth

/-!
# Refusals of TLS options

Every violation that a check of TLS options ends with holds of the options, and it belongs to the
stage of the check.
-/

namespace ClusterLink

variable {options : Options} {probe : Probe} {systemTrust : SystemTrust} {validator : Validator}
  {violation : Violation}

/-! ## Files -/

theorem Probe.explains_of_ensureSealed {key : OptionKey} {value : OptionValue} {path : String}
    (hvalue : options.value? key = some value)
    (hholds : value.Holds path)
    (h : (probe.ensureSealed key.name path).outcome = .error violation) :
    violation.Explains ⟨probe, systemTrust⟩ options (.ofOption key.name) := by
  have hgives := Options.givesText_of_value? hvalue hholds
  rcases Probe.ensureSealed_eq_error.1 h with ⟨hunreadable, rfl⟩ | ⟨-, hwritable, rfl⟩
  · exact ⟨⟨hgives, hunreadable⟩, rfl⟩
  · exact ⟨⟨hgives, hwritable⟩, rfl⟩

/-! ## Identity -/

namespace Identity

theorem explains_of_checkCertificate
    (h : (checkCertificate options probe).outcome = .error violation) :
    violation.Explains ⟨probe, systemTrust⟩ options .tlsIdentity := by
  unfold checkCertificate at h
  split at h
  · cases h
  · rename_i certificate hcertificate hkey
    have hvalue : options.value? .sslCertificate = some (.text certificate) := by
      simp [Options.value?, hcertificate]
    have hmissing : options.value? .sslKey = none := by simp [Options.value?, hkey]
    cases h
    exact ⟨Options.lacks_of_value? hvalue hmissing, rfl⟩
  · rename_i certificate key hcertificate hkey
    have hvalue : options.value? .sslCertificate = some (.text certificate) := by
      simp [Options.value?, hcertificate]
    exact Probe.explains_of_ensureSealed hvalue rfl h

theorem explains_of_checkKey (h : (checkKey options probe).outcome = .error violation) :
    violation.Explains ⟨probe, systemTrust⟩ options .tlsIdentity := by
  unfold checkKey at h
  split at h
  · cases h
  · rename_i key hkey hcertificate
    have hvalue : options.value? .sslKey = some (.text key) := by simp [Options.value?, hkey]
    have hmissing : options.value? .sslCertificate = none := by
      simp [Options.value?, hcertificate]
    cases h
    exact ⟨Options.lacks_of_value? hvalue hmissing, rfl⟩
  · rename_i key certificate hkey hcertificate hpassphrase
    have hvalue : options.value? .sslKey = some (.text key) := by simp [Options.value?, hkey]
    have hmissing : options.value? .sslKeyPassphrase = none := by
      simp [Options.value?, hpassphrase]
    cases h
    exact ⟨Options.lacks_of_value? hvalue hmissing, rfl⟩
  · rename_i key certificate passphrase hkey hcertificate hpassphrase
    have hvalue : options.value? .sslKey = some (.text key) := by simp [Options.value?, hkey]
    exact Probe.explains_of_ensureSealed hvalue rfl h

theorem explains_of_checkPassphrase (h : checkPassphrase options = .error violation) :
    violation.Explains validator options .tlsIdentity := by
  unfold checkPassphrase at h
  split at h
  · cases h
  · rename_i passphrase hpassphrase hkey
    have hvalue : options.value? .sslKeyPassphrase = some (.secret passphrase) := by
      simp [Options.value?, hpassphrase]
    have hmissing : options.value? .sslKey = none := by simp [Options.value?, hkey]
    cases h
    exact ⟨Options.lacks_of_value? hvalue hmissing, rfl⟩
  · rename_i passphrase key hpassphrase hkey
    have hvalue : options.value? .sslKeyPassphrase = some (.secret passphrase) := by
      simp [Options.value?, hpassphrase]
    obtain ⟨hempty, rfl⟩ := Options.givesEmpty_of_refused hvalue h
    exact ⟨hempty, rfl⟩

theorem explains_of_checkKeystorePassword (h : checkKeystorePassword options = .error violation) :
    violation.Explains validator options .tlsIdentity := by
  unfold checkKeystorePassword at h
  split at h
  · cases h
  · rename_i path hkeystore hpassword
    have hvalue : options.value? .sslKeystorePath = some (.text path) := by
      simp [Options.value?, hkeystore]
    have hmissing : options.value? .sslKeystorePassword = none := by
      simp [Options.value?, hpassword]
    cases h
    exact ⟨Options.lacks_of_value? hvalue hmissing, rfl⟩
  · rename_i password hkeystore hpassword
    have hvalue : options.value? .sslKeystorePassword = some (.secret password) := by
      simp [Options.value?, hpassword]
    have hmissing : options.value? .sslKeystorePath = none := by
      simp [Options.value?, hkeystore]
    cases h
    exact ⟨Options.lacks_of_value? hvalue hmissing, rfl⟩
  · rename_i path password hkeystore hpassword
    have hvalue : options.value? .sslKeystorePassword = some (.secret password) := by
      simp [Options.value?, hpassword]
    obtain ⟨hempty, rfl⟩ := Options.givesEmpty_of_refused hvalue h
    exact ⟨hempty, rfl⟩

theorem explains_of_checkKeystore (h : (checkKeystore options probe).outcome = .error violation) :
    violation.Explains ⟨probe, systemTrust⟩ options .tlsIdentity := by
  unfold checkKeystore at h
  split at h
  · cases h
  · rename_i path hkeystore
    have hvalue : options.value? .sslKeystorePath = some (.text path) := by
      simp [Options.value?, hkeystore]
    exact Probe.explains_of_ensureSealed hvalue rfl h

theorem explains_of_error (h : (resolve options probe).outcome = .error violation) :
    violation.Explains ⟨probe, systemTrust⟩ options .tlsIdentity := by
  unfold resolve at h
  split at h
  · rename_i hboth
    rw [Bool.and_eq_true, Option.isSome_iff_exists, Option.isSome_iff_exists] at hboth
    obtain ⟨⟨certificate, hcertificate⟩, path, hkeystore⟩ := hboth
    have hvalue : options.value? .sslCertificate = some (.text certificate) := by
      simp [Options.value?, hcertificate]
    have hother : options.value? .sslKeystorePath = some (.text path) := by
      simp [Options.value?, hkeystore]
    cases h
    exact ⟨⟨by decide, Options.isSupplied_of_value? hvalue,
      Options.isSupplied_of_value? hother⟩, rfl⟩
  · simp only [Traced.bind_eq, Traced.outcome_andThen_eq_error, Traced.outcome_lift,
      Traced.pure_eq, reduceCtorEq, and_false, exists_false, or_false] at h
    rcases h with h | ⟨_, -, h | ⟨_, -, h | ⟨_, -, h | ⟨_, -, h⟩⟩⟩⟩
    · exact explains_of_checkCertificate h
    · exact explains_of_checkKey h
    · exact explains_of_checkPassphrase h
    · exact explains_of_checkKeystorePassword h
    · exact explains_of_checkKeystore h

end Identity

/-! ## Trust -/

namespace Trust

theorem explains_of_resolveUnverified (hmode : options.Verifies .none)
    (h : resolveUnverified options = .error violation) :
    violation.Explains validator options .tlsTrust := by
  unfold resolveUnverified at h
  split at h
  · rename_i htruststore
    have hgives : (options.value? .sslTruststorePath).isSome = true := by
      simpa [Options.value?] using htruststore
    cases h
    exact ⟨⟨hmode, Options.isSupplied_of_isSome hgives⟩, rfl⟩
  split at h
  · rename_i hpassword
    have hgives : (options.value? .sslTruststorePassword).isSome = true := by
      simpa [Options.value?] using hpassword
    cases h
    exact ⟨⟨hmode, Options.isSupplied_of_isSome hgives⟩, rfl⟩
  split at h
  · rename_i hauthorities
    have hgives : (options.value? .sslCertificateAuthorities).isSome = true := by
      simpa [Options.value?] using hauthorities
    cases h
    exact ⟨⟨hmode, Options.isSupplied_of_isSome hgives⟩, rfl⟩
  · cases h

theorem explains_of_checkTruststore
    (h : (checkTruststore options probe).outcome = .error violation) :
    violation.Explains ⟨probe, systemTrust⟩ options .tlsTrust := by
  unfold checkTruststore at h
  split at h
  · cases h
  · rename_i path htruststore hpassword
    have hvalue : options.value? .sslTruststorePath = some (.text path) := by
      simp [Options.value?, htruststore]
    have hmissing : options.value? .sslTruststorePassword = none := by
      simp [Options.value?, hpassword]
    cases h
    exact ⟨Options.lacks_of_value? hvalue hmissing, rfl⟩
  · rename_i path password htruststore hpassword
    have hvalue : options.value? .sslTruststorePath = some (.text path) := by
      simp [Options.value?, htruststore]
    exact Probe.explains_of_ensureSealed hvalue rfl h

theorem explains_of_checkTruststorePassword
    (h : checkTruststorePassword options = .error violation) :
    violation.Explains validator options .tlsTrust := by
  unfold checkTruststorePassword at h
  split at h
  · cases h
  · rename_i password hpassword htruststore
    have hvalue : options.value? .sslTruststorePassword = some (.secret password) := by
      simp [Options.value?, hpassword]
    have hmissing : options.value? .sslTruststorePath = none := by
      simp [Options.value?, htruststore]
    cases h
    exact ⟨Options.lacks_of_value? hvalue hmissing, rfl⟩
  · rename_i password path hpassword htruststore
    have hvalue : options.value? .sslTruststorePassword = some (.secret password) := by
      simp [Options.value?, hpassword]
    obtain ⟨hempty, rfl⟩ := Options.givesEmpty_of_refused hvalue h
    exact ⟨hempty, rfl⟩

theorem explains_of_checkAuthorities
    (h : (checkAuthorities options probe).outcome = .error violation) :
    violation.Explains ⟨probe, systemTrust⟩ options .tlsTrust := by
  unfold checkAuthorities at h
  split at h
  · cases h
  · rename_i hauthorities
    have hvalue : options.value? .sslCertificateAuthorities = some (.texts []) := by
      simp [Options.value?, hauthorities]
    cases h
    exact ⟨Options.givesEmpty_of_value? hvalue rfl, rfl⟩
  · rename_i paths _ hauthorities
    have hvalue : options.value? .sslCertificateAuthorities = some (.texts paths) := by
      simp [Options.value?, hauthorities]
    obtain ⟨path, hmem, hpath⟩ := Probe.ensureAllSealed_eq_error h
    exact Probe.explains_of_ensureSealed hvalue hmem hpath

/-- Nothing is left to trust once the checks of what is given have passed. -/
theorem explains_of_ofOptions {mode : VerificationMode} (hmode : options.Verifies mode)
    (hrequires : mode ≠ .none) (htruststore : (checkTruststore options probe).outcome = .ok ())
    (h : ofOptions options mode systemTrust = .error violation) :
    violation.Explains ⟨probe, systemTrust⟩ options .tlsTrust := by
  unfold ofOptions at h
  split at h
  · cases h
  · cases h
  · rename_i hauthorities hincomplete
    split at h
    · cases h
    · rename_i hunavailable
      have hpath : options.sslTruststorePath = none := by
        cases hgiven : options.sslTruststorePath with
        | none => rfl
        | some path =>
            obtain ⟨hpassword, -⟩ := checkTruststore_eq_ok.1 htruststore path hgiven
            obtain ⟨password, hsome⟩ := Option.isSome_iff_exists.1 hpassword
            exact absurd hsome (hincomplete path password hgiven)
      have hnoTruststore : options.value? .sslTruststorePath = none := by
        simp [Options.value?, hpath]
      have hnoAuthorities : options.value? .sslCertificateAuthorities = none := by
        simp [Options.value?, hauthorities]
      cases h
      exact ⟨⟨mode, hmode, rfl, hrequires, Options.not_isSupplied_of_value? hnoTruststore,
        Options.not_isSupplied_of_value? hnoAuthorities, by simpa using hunavailable⟩, rfl⟩

theorem explains_of_error {mode : VerificationMode} (hmode : options.Verifies mode)
    (h : (resolve options mode probe systemTrust).outcome = .error violation) :
    violation.Explains ⟨probe, systemTrust⟩ options .tlsTrust := by
  unfold resolve at h
  split at h
  · rename_i hfree
    have hnone : mode = .none := by
      by_contra hne
      simp [requiresTrust_iff.2 hne] at hfree
    subst hnone
    exact explains_of_resolveUnverified hmode h
  rename_i hrequires
  have hne : mode ≠ .none := requiresTrust_iff.1 (by simpa using hrequires)
  split at h
  · rename_i hboth
    rw [Bool.and_eq_true, Option.isSome_iff_exists, Option.isSome_iff_exists] at hboth
    obtain ⟨⟨path, htruststore⟩, paths, hauthorities⟩ := hboth
    have hvalue : options.value? .sslTruststorePath = some (.text path) := by
      simp [Options.value?, htruststore]
    have hother : options.value? .sslCertificateAuthorities = some (.texts paths) := by
      simp [Options.value?, hauthorities]
    cases h
    exact ⟨⟨by decide, Options.isSupplied_of_value? hvalue,
      Options.isSupplied_of_value? hother⟩, rfl⟩
  · simp only [Traced.bind_eq, Traced.outcome_andThen_eq_error, Traced.outcome_lift] at h
    rcases h with h | ⟨_, htruststore, h | ⟨_, -, h | ⟨_, -, h⟩⟩⟩
    · exact explains_of_checkTruststore h
    · exact explains_of_checkTruststorePassword h
    · exact explains_of_checkAuthorities h
    · exact explains_of_ofOptions hmode hne htruststore h

end Trust

/-! ## Use of TLS and verification mode -/

namespace Tls

theorem explains_of_modeOf (h : modeOf options = .error violation) :
    violation.Explains validator options .tlsMode := by
  unfold modeOf at h
  split at h
  · rename_i text htext
    cases VerificationMode.ofText_eq_error h
    refine ⟨⟨htext, fun mode hspells => ?_⟩, rfl⟩
    rw [VerificationMode.ofText_eq_ok_iff.2 hspells] at h
    cases h
  · cases h

theorem explains_of_resolveDisabled (hoff : options.SettlesTls false)
    (h : resolveDisabled options = .error violation) :
    violation.Explains validator options .tlsMode := by
  unfold resolveDisabled at h
  split at h
  · cases h
  · rename_i hgiven
    have hne : tlsOnlySupplied options ≠ [] := by simpa using hgiven
    have hascending : (tlsOnlySupplied options).Pairwise (· < ·) :=
      (Options.supplied_ascending options).sublist List.filter_sublist
    cases h
    exact ⟨⟨hoff, hne, hascending, fun name => mem_tlsOnlySupplied⟩, rfl⟩

end Tls

end ClusterLink
