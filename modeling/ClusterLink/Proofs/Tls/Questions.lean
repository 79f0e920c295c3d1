import ClusterLink.Proofs.Access.Answers
import ClusterLink.Proofs.Tls.Rules

/-!
# Questions about TLS files

With TLS, questions are asked about the files for the identity and then, if the server is verified,
about those for the trust. A file that is refused is the last one that is asked about, and answers
about other files make no difference.
-/

namespace ClusterLink

variable {options : Options} {systemTrust : SystemTrust}

/-- The files that are asked about if all of them are sealed, in the order of asking. -/
def Options.consulted (options : Options) : List String :=
  options.sslCertificate.toList ++ options.sslKey.toList ++ options.sslKeystorePath.toList ++
    match Tls.modeOf options with
    | .ok .none => []
    | _ => options.sslTruststorePath.toList ++ options.sslCertificateAuthorities.getD []

/-! ## Identity -/

namespace Identity

theorem unasked_checkPassphrase (options : Options) : Unasked (checkPassphrase options) := by
  unfold checkPassphrase
  split
  · exact Unasked.ok ()
  · exact Unasked.error rfl
  · exact Unasked.error_or rfl ()

theorem unasked_checkKeystorePassword (options : Options) :
    Unasked (checkKeystorePassword options) := by
  unfold checkKeystorePassword
  split
  · exact Unasked.ok ()
  · exact Unasked.error rfl
  · exact Unasked.error rfl
  · exact Unasked.error_or rfl ()

theorem heeds_checkCertificate (options : Options) :
    Probe.Heeds (checkCertificate options) options.sslCertificate.toList := by
  unfold checkCertificate
  cases options.sslCertificate with
  | none => exact Probe.Heeds.value ()
  | some certificate =>
      cases options.sslKey with
      | none => exact (Probe.Heeds.refuse rfl).mono (List.nil_subset _)
      | some key => exact Probe.heeds_ensureSealed _ _

theorem heeds_checkKey (options : Options) :
    Probe.Heeds (checkKey options) options.sslKey.toList := by
  unfold checkKey
  cases options.sslKey with
  | none => exact Probe.Heeds.value ()
  | some key =>
      cases options.sslCertificate with
      | none => exact (Probe.Heeds.refuse rfl).mono (List.nil_subset _)
      | some certificate =>
          cases options.sslKeyPassphrase with
          | none => exact (Probe.Heeds.refuse rfl).mono (List.nil_subset _)
          | some passphrase => exact Probe.heeds_ensureSealed _ _

theorem heeds_checkKeystore (options : Options) :
    Probe.Heeds (checkKeystore options) options.sslKeystorePath.toList := by
  unfold checkKeystore
  cases options.sslKeystorePath with
  | none => exact Probe.Heeds.value ()
  | some path => exact Probe.heeds_ensureSealed _ _

theorem heeds_resolve (options : Options) :
    Probe.Heeds (resolve options) (filesOf options) := by
  unfold resolve
  split
  · exact (Probe.Heeds.refuse rfl).mono (List.nil_subset _)
  · have h := (heeds_checkCertificate options).andThen fun _ =>
      (heeds_checkKey options).andThen fun _ =>
        (Probe.Heeds.lift (unasked_checkPassphrase options)).andThen fun _ =>
          (Probe.Heeds.lift (unasked_checkKeystorePassword options)).andThen fun _ =>
            (heeds_checkKeystore options).andThen fun _ =>
              Probe.Heeds.value (ofOptions? options)
    simpa [filesOf] using h

end Identity

/-! ## Trust -/

namespace Trust

def consulted (options : Options) (mode : VerificationMode) : List String :=
  if mode.requiresTrust then filesOf options else []

theorem unasked_resolveUnverified (options : Options) : Unasked (resolveUnverified options) := by
  unfold resolveUnverified
  split
  · exact Unasked.error rfl
  split
  · exact Unasked.error rfl
  · exact Unasked.error_or rfl _

theorem unasked_checkTruststorePassword (options : Options) :
    Unasked (checkTruststorePassword options) := by
  unfold checkTruststorePassword
  split
  · exact Unasked.ok ()
  · exact Unasked.error rfl
  · exact Unasked.error_or rfl ()

theorem unasked_ofOptions (options : Options) (mode : VerificationMode)
    (systemTrust : SystemTrust) : Unasked (ofOptions options mode systemTrust) := by
  unfold ofOptions
  split
  · exact Unasked.ok _
  · exact Unasked.ok _
  · split
    · exact Unasked.ok _
    · exact Unasked.error rfl

theorem heeds_checkTruststore (options : Options) :
    Probe.Heeds (checkTruststore options) options.sslTruststorePath.toList := by
  unfold checkTruststore
  cases options.sslTruststorePath with
  | none => exact Probe.Heeds.value ()
  | some path =>
      cases options.sslTruststorePassword with
      | none => exact (Probe.Heeds.refuse rfl).mono (List.nil_subset _)
      | some password => exact Probe.heeds_ensureSealed _ _

theorem heeds_checkAuthorities (options : Options) :
    Probe.Heeds (checkAuthorities options) (options.sslCertificateAuthorities.getD []) := by
  unfold checkAuthorities
  cases options.sslCertificateAuthorities with
  | none => exact Probe.Heeds.value ()
  | some paths =>
      cases paths with
      | nil => exact Probe.Heeds.refuse rfl
      | cons path rest => exact Probe.heeds_ensureAllSealed _ _

theorem heeds_resolve (options : Options) (mode : VerificationMode) (systemTrust : SystemTrust) :
    Probe.Heeds (fun probe => resolve options mode probe systemTrust)
      (consulted options mode) := by
  unfold resolve consulted
  cases mode.requiresTrust with
  | false => exact Probe.Heeds.lift (unasked_resolveUnverified options)
  | true =>
      simp only [Bool.not_true, Bool.false_eq_true, ↓reduceIte]
      split
      · exact (Probe.Heeds.refuse rfl).mono (List.nil_subset _)
      · have h := (heeds_checkTruststore options).andThen fun _ =>
          (Probe.Heeds.lift (unasked_checkTruststorePassword options)).andThen fun _ =>
            (heeds_checkAuthorities options).andThen fun _ =>
              Probe.Heeds.lift (unasked_ofOptions options mode systemTrust)
        simpa [filesOf] using h

theorem asks_consulted (options : Options) (mode : VerificationMode) (probe : Probe)
    (systemTrust : SystemTrust) :
    (resolve options mode probe systemTrust).Asks (consulted options mode) := by
  cases hmode : mode.requiresTrust with
  | false =>
      rw [consulted, hmode, resolve, hmode]
      exact Traced.Asks.lift _
  | true =>
      rw [consulted, hmode]
      exact asks_resolve options mode probe systemTrust

end Trust

/-! ## Both -/

theorem Options.consulted_eq {mode : VerificationMode} (h : Tls.modeOf options = .ok mode) :
    options.consulted = Identity.filesOf options ++ Trust.consulted options mode := by
  rw [consulted, h]
  cases mode <;> rfl

namespace Tls

theorem unasked_modeOf (options : Options) : Unasked (modeOf options) := by
  intro violation h
  unfold modeOf at h
  split at h
  · cases VerificationMode.ofText_eq_error h
    rfl
  · cases h

theorem unasked_resolveDisabled (options : Options) : Unasked (resolveDisabled options) := by
  unfold resolveDisabled
  split
  · exact Unasked.ok _
  · exact Unasked.error rfl

theorem resolve_of_modeOf_error {violation : Violation} (h : modeOf options = .error violation)
    (probe : Probe) (systemTrust : SystemTrust) :
    resolve options true probe systemTrust = Traced.refuse violation := by
  rw [resolve, h]
  rfl

theorem resolve_of_modeOf_ok {mode : VerificationMode} (h : modeOf options = .ok mode)
    (probe : Probe) (systemTrust : SystemTrust) :
    resolve options true probe systemTrust =
      (Identity.resolve options probe).andThen fun identity =>
        (Trust.resolve options mode probe systemTrust).andThen fun trust =>
          (Traced.note (.resolvedTls mode.name identity.isSome trust.name)).andThen fun _ =>
            pure (Tls.enabled mode identity trust) := by
  rw [resolve, h]
  rfl

/-- With TLS, no file is asked about that is not consulted. -/
theorem asks_consulted (options : Options) (probe : Probe) (systemTrust : SystemTrust) :
    (resolve options true probe systemTrust).Asks options.consulted := by
  cases hmode : modeOf options with
  | error violation =>
      rw [resolve_of_modeOf_error hmode]
      exact Traced.Asks.refuse violation _
  | ok mode =>
      have h := (Identity.asks_resolve options probe).andThen fun identity _ =>
        (Trust.asks_consulted options mode probe systemTrust).andThen fun trust _ =>
          (Traced.Asks.note (.resolvedTls mode.name identity.isSome trust.name) rfl).andThen
            fun _ _ => Traced.Asks.value (Tls.enabled mode identity trust)
      rw [Options.consulted_eq hmode, resolve_of_modeOf_ok hmode]
      simpa only [List.append_nil] using h

theorem probes_resolve_disabled (options : Options) (probe : Probe) (systemTrust : SystemTrust) :
    (resolve options false probe systemTrust).probes = [] := rfl

theorem heeds_resolve (options : Options) (tlsEnabled : Bool) (systemTrust : SystemTrust) :
    Probe.Heeds (fun probe => resolve options tlsEnabled probe systemTrust) options.consulted := by
  cases tlsEnabled with
  | false =>
      have h := Probe.Heeds.lift (unasked_resolveDisabled options)
      exact h.mono (List.nil_subset _)
  | true =>
      cases hmode : modeOf options with
      | error violation =>
          have h : violation.question? = none := unasked_modeOf options violation hmode
          simp only [resolve_of_modeOf_error hmode]
          exact (Probe.Heeds.refuse h).mono (List.nil_subset _)
      | ok mode =>
          have h := (Identity.heeds_resolve options).andThen fun identity =>
            (Trust.heeds_resolve options mode systemTrust).andThen fun trust =>
              (Probe.Heeds.note (.resolvedTls mode.name identity.isSome trust.name)).andThen
                fun _ => Probe.Heeds.value (Tls.enabled mode identity trust)
          rw [Options.consulted_eq hmode]
          simp only [resolve_of_modeOf_ok hmode]
          simpa only [List.append_nil] using h

end Tls

end ClusterLink
