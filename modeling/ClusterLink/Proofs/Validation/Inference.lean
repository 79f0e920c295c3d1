import ClusterLink.Proofs.Validation.Rejection

/-!
# Inferred use of TLS

Options that leave the switch for TLS open are validated as the same options with the switch set to
what their target implies; only the trail says that it was inferred. The schemes that imply a use of
TLS are the schemes that go with it, so hosts never disagree with a use that they imply.
-/

namespace ClusterLink

variable {options : Options} {random : Uuid} {validator : Validator} {violation : Violation}
  {target : Target} {tlsEnabled : Bool}

def Options.switched (options : Options) (tlsEnabled : Bool) : Options :=
  { options with sslEnabled := some tlsEnabled }

/-! ## The switch -/

/-- The switch is no option that needs TLS. -/
theorem Tls.resolve_switched (options : Options) (switch tlsEnabled : Bool) (probe : Probe)
    (systemTrust : SystemTrust) :
    resolve (options.switched switch) tlsEnabled probe systemTrust =
      resolve options tlsEnabled probe systemTrust := by
  have hgives : ∀ key : OptionKey, isTlsOnly key.name = true →
      (options.switched switch).gives key = options.gives key := by
    intro key honly
    cases key <;> first | rfl | exact absurd honly (by decide)
  cases tlsEnabled with
  | true => rfl
  | false =>
      have hoff : resolveDisabled (options.switched switch) = resolveDisabled options := by
        rw [resolveDisabled, resolveDisabled, tlsOnlySupplied_congr hgives]
      simp only [resolve, Bool.false_eq_true, ↓reduceIte, hoff]

namespace Validator

theorem validate_of_inferred {id : String} (hopen : options.sslEnabled = none)
    (htarget : Target.ofOptions options = .ok target) (hid : resolveId options random = .ok id)
    (hinfers : target.inferTls = .ok tlsEnabled) :
    validator.validate random options =
      (Traced.note (.inferredTls tlsEnabled)).andThen fun _ =>
        validator.validate random (options.switched tlsEnabled) := by
  have hswitched : Target.ofOptions (options.switched tlsEnabled) = .ok target := htarget
  have hnamed : resolveId (options.switched tlsEnabled) random = .ok id := hid
  have huse : resolveTlsEnabled options target =
      (Traced.note (.inferredTls tlsEnabled)).andThen fun _ => pure tlsEnabled := by
    simp only [resolveTlsEnabled, hopen, hinfers, Traced.bind_eq, Traced.lift_ok_andThen]
  have hset : resolveTlsEnabled (options.switched tlsEnabled) target = pure tlsEnabled := rfl
  have hcredentials : Credentials.ofOptions (options.switched tlsEnabled) =
      Credentials.ofOptions options := Credentials.ofOptions_congr rfl rfl rfl rfl
  simp only [validate, htarget, hid, hswitched, hnamed, huse, hset, hcredentials, Traced.bind_eq,
    Traced.lift_ok_andThen, Tls.resolve_switched]
  rfl

end Validator

/-! ## Violations -/

/-- Where a use of TLS is implied, no host has another scheme than the one that goes with it. -/
theorem Target.Implies.scheme_eq {endpoints : List Endpoint}
    (h : (Target.hosts endpoints).Implies tlsEnabled) :
    ∀ endpoint ∈ endpoints, ∀ scheme ∈ endpoint.scheme, scheme = schemeFor tlsEnabled := by
  intro endpoint hmem scheme hscheme
  cases h with
  | openHosts hschemes =>
      rw [hschemes endpoint hmem] at hscheme
      cases hscheme
  | secure hschemes =>
      rw [hschemes endpoint hmem] at hscheme
      cases hscheme
      rfl
  | plain hnonempty hschemes =>
      rw [hschemes endpoint hmem] at hscheme
      cases hscheme
      rfl

theorem Options.not_schemeMismatch {scheme : String} (hopen : options.sslEnabled = none) :
    ¬ (Violation.schemeMismatch scheme tlsEnabled).HoldsOf validator options := by
  rintro ⟨hscheme, endpoints, -, huses, endpoint, hmem, other, hother, hne⟩
  rcases huses with hgiven | ⟨-, himplies⟩
  · rw [hopen] at hgiven
    cases hgiven
  · have hsame := himplies.scheme_eq endpoint hmem other hother
    refine hne (hsame.trans ?_)
    rw [hscheme]
    rfl

theorem Tls.explains_of_error (hsettles : options.SettlesTls tlsEnabled)
    (h : (resolve options tlsEnabled validator.probe validator.systemTrust).outcome =
      .error violation) : ∃ stage, violation.Explains validator options stage := by
  unfold resolve at h
  cases tlsEnabled with
  | false => exact ⟨_, explains_of_resolveDisabled hsettles (by simpa using h)⟩
  | true =>
      simp only [↓reduceIte, Traced.bind_eq, Traced.outcome_andThen_eq_error, Traced.outcome_lift,
        Traced.outcome_note, Traced.pure_eq, reduceCtorEq, and_false, exists_false, or_false] at h
      rcases h with hmode | ⟨mode, hmode, hidentity | ⟨identity, -, htrust⟩⟩
      · exact ⟨_, explains_of_modeOf hmode⟩
      · exact ⟨_, Identity.explains_of_error hidentity⟩
      · exact ⟨_, Trust.explains_of_error (modeOf_eq_ok_iff.1 hmode) htrust⟩

/-- Whatever validation ends with holds of the options. -/
theorem Validator.holds_of_error
    (h : (validator.validate random options).outcome = .error violation) :
    violation.HoldsOf validator options := by
  simp only [validate, Traced.bind_eq, Traced.outcome_andThen_eq_error, Traced.outcome_lift,
    outcome_warnAll, Traced.outcome_note, Traced.pure_eq, reduceCtorEq, and_false, exists_false,
    or_false] at h
  rcases h with htarget | ⟨target, htarget, h⟩
  · exact (Target.explains_of_error htarget).holds
  have htarget := Target.ofOptions_eq_ok_iff.1 htarget
  rcases h with hid | ⟨id, -, h⟩
  · exact (explains_of_resolveId_error hid).1.holds
  rcases h with huse | ⟨tlsEnabled, huses, h⟩
  · exact (explains_of_resolveTlsEnabled htarget huse).holds
  have huses := resolveTlsEnabled_eq_ok_iff.1 huses
  rcases h with htls | ⟨tls, -, h⟩
  · obtain ⟨stage, hexplains⟩ := Tls.explains_of_error ⟨target, htarget, huses⟩ htls
    exact hexplains.holds
  rcases h with hcredentials | ⟨credentials, -, h⟩
  · exact (Credentials.explains_of_error hcredentials).holds
  · exact (explains_of_settleTarget htarget huses h).holds

/-! ## Both ways to say it -/

/--
Leaving the switch for TLS open is the same as setting it to what is inferred. Hosts are then never
refused for their schemes, and hosts are never settled before the use of TLS is known.
-/
theorem validate_switched (validator : Validator) :
    (∀ random otherRandom options target id tlsEnabled, options.id = some id →
      options.sslEnabled = none → Target.ofOptions options = .ok target →
        Validator.resolveId options random = .ok id → target.inferTls = .ok tlsEnabled →
          (validator.validate random options).outcome =
              (validator.validate otherRandom (options.switched tlsEnabled)).outcome ∧
            (validator.validate random options).trail = .inferredTls tlsEnabled ::
              (validator.validate otherRandom (options.switched tlsEnabled)).trail) ∧
      (∀ random options scheme tlsEnabled, options.sslEnabled = none →
        (validator.validate random options).outcome ≠
          .error (.schemeMismatch scheme tlsEnabled)) ∧
      ∀ random options,
        (validator.validate random options).outcome ≠ .error .prematureNormalization := by
  refine ⟨?_, ?_, ?_⟩
  · intro random otherRandom options target id tlsEnabled hgiven hopen htarget hid hinfers
    have hnamed : (options.switched tlsEnabled).id.isSome = true := by
      simp [Options.switched, hgiven]
    rw [Validator.validate_of_inferred hopen htarget hid hinfers,
      Validator.validate_of_named hnamed random otherRandom]
    exact ⟨rfl, rfl⟩
  · intro random options scheme tlsEnabled hopen h
    exact Options.not_schemeMismatch hopen (Validator.holds_of_error h)
  · intro random options h
    exact Validator.holds_of_error h

def Options.plainCertificate : Options where
  id := some "filter"
  hosts := some ["HTTP://es1", "http://es2:9201"]
  sslCertificate := some "/tls/node.crt"

theorem validate_plainCertificate :
    (Validator.validate ⟨.sealing, .unavailable⟩ ⟨[]⟩ .plainCertificate).outcome =
        .error (.disallowedOptions ["ssl_certificate"]) ∧
      (Validator.validate ⟨.sealing, .unavailable⟩ ⟨[1]⟩
        (Options.plainCertificate.switched false)).outcome =
          .error (.disallowedOptions ["ssl_certificate"]) ∧
      ∀ scheme tlsEnabled,
        (Validator.validate ⟨.sealing, .unavailable⟩ ⟨[]⟩ .plainCertificate).outcome ≠
          .error (.schemeMismatch scheme tlsEnabled) := by
  have hrefused : (Validator.validate ⟨.sealing, .unavailable⟩ ⟨[]⟩ .plainCertificate).outcome =
      .error (.disallowedOptions ["ssl_certificate"]) := by decide +kernel
  have htarget : Target.ofOptions .plainCertificate =
      .ok (.hosts [⟨some "http", "es1", none, none⟩, ⟨some "http", "es2", some 9201, none⟩]) := by
    decide +kernel
  obtain ⟨hsame, hnever, -⟩ := validate_switched ⟨.sealing, .unavailable⟩
  obtain ⟨houtcome, -⟩ := hsame ⟨[]⟩ ⟨[1]⟩ .plainCertificate _ "filter" false rfl rfl htarget
    (by decide) (by decide)
  exact ⟨hrefused, houtcome.symm.trans hrefused, fun scheme tlsEnabled =>
    hnever ⟨[]⟩ .plainCertificate scheme tlsEnabled rfl⟩

end ClusterLink
