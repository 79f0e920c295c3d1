import ClusterLink.Proofs.Tls.Questions
import ClusterLink.Proofs.Validation.Acceptance

/-!
# Questions of validation

Only the stage of TLS asks about files. What validation asks is what this stage asks, if it is
reached, and nothing else is asked before it or after it; no other stage refuses options for an
answer of the probe.
-/

namespace ClusterLink

variable {options : Options} {random : Uuid} {validator : Validator} {tlsEnabled : Bool}

/-! ## Refusals without a question -/

theorem Target.unasked_readHost (text : String) : Unasked (readHost text) := by
  intro violation h
  obtain ⟨fault, -, rfl⟩ := readHost_eq_error_iff.1 h
  rfl

theorem Target.unasked_ofOptions (options : Options) : Unasked (ofOptions options) := by
  unfold ofOptions
  split
  · apply Unasked.error
    split <;> rfl
  · apply Unasked.error
    split <;> rfl
  · exact Unasked.error_or rfl _
  · exact Unasked.error rfl
  · intro violation h
    obtain ⟨text, -, hread⟩ := mapM_eq_error (map_eq_error_iff.1 h)
    exact unasked_readHost text violation hread
  · exact Unasked.error rfl

theorem Target.unasked_inferTls (target : Target) : Unasked target.inferTls := by
  cases target with
  | cloudId identifier => exact Unasked.ok true
  | hosts endpoints =>
      rw [inferTls_hosts]
      split_ifs
      · exact Unasked.ok true
      · exact Unasked.ok true
      · exact Unasked.ok false
      · exact Unasked.error rfl

theorem Endpoint.unasked_agree (path : String) (tlsEnabled : Bool) (endpoint : Endpoint) :
    Unasked (endpoint.agree path tlsEnabled) := by
  intro violation h
  rcases agree_eq_error_iff.1 h with ⟨-, rfl⟩ | ⟨-, -, rfl⟩
  · rfl
  · rfl

theorem unasked_normalizeHosts (endpoints : List Endpoint) (tlsEnabled : Bool) :
    Unasked (normalizeHosts endpoints (some tlsEnabled)) := by
  intro violation h
  cases endpoints with
  | nil => cases h
  | cons first rest =>
      obtain ⟨endpoint, -, hagree⟩ := mapM_eq_error h
      exact endpoint.unasked_agree _ tlsEnabled violation hagree

namespace Credentials

theorem unasked_readBasic (username : String) (password : Secret) :
    Unasked (readBasic username password) := by
  exact Unasked.error_or rfl _

theorem unasked_readApiKey (value : Secret) : Unasked (readApiKey value) := by
  exact Unasked.error_or rfl _

theorem unasked_readCloudAuth (value : Secret) : Unasked (readCloudAuth value) := by
  intro violation h
  unfold readCloudAuth at h
  split at h
  · cases h
    rfl
  · cases CloudAuth.eq_of_read_eq_error (map_eq_error_iff.1 h)
    rfl

theorem unasked_ofOptions (options : Options) : Unasked (ofOptions options) := by
  unfold ofOptions
  split
  · exact Unasked.error rfl
  split
  · exact Unasked.error rfl
  · exact Unasked.error rfl
  · exact unasked_readBasic _ _
  · exact unasked_readApiKey _
  · exact unasked_readCloudAuth _
  · exact Unasked.ok _

end Credentials

namespace Validator

theorem unasked_resolveId (options : Options) (random : Uuid) :
    Unasked (resolveId options random) := by
  unfold resolveId
  split
  · exact Unasked.error_or rfl _
  · exact Unasked.ok _

theorem unasked_resolveTlsEnabled (options : Options) (target : Target) :
    Unasked (resolveTlsEnabled options target).outcome := by
  unfold resolveTlsEnabled
  split
  · exact Unasked.ok _
  · exact Unasked.andThen target.unasked_inferTls fun _ => Unasked.ok _

theorem unasked_settleTarget (target : Target) (tlsEnabled : Bool) :
    Unasked (settleTarget target tlsEnabled).outcome := by
  unfold settleTarget
  split
  · exact Unasked.ok _
  · refine Unasked.andThen (unasked_normalizeHosts _ tlsEnabled) fun _ => ?_
    split <;> exact Unasked.ok _

/-! ## The stages around TLS -/

/-- The stages before the one of TLS have values, and TLS is used or not. -/
def ReachesTls (options : Options) (random : Uuid) (tlsEnabled : Bool) : Prop :=
  ∃ target id, Target.ofOptions options = .ok target ∧ resolveId options random = .ok id ∧
    (resolveTlsEnabled options target).outcome = .ok tlsEnabled

theorem unasked_finish (options : Options) (target : Target) (id : String) (tlsEnabled : Bool)
    (tls : Tls) : Unasked (finish options target id tlsEnabled tls).outcome :=
  Unasked.andThen (Credentials.unasked_ofOptions options) fun _ =>
    Unasked.andThen (unasked_settleTarget target tlsEnabled) fun _ => Unasked.ok _

/-- Where the stage of TLS is reached, validation asks what this stage asks. -/
theorem probes_validate_of_reaches (h : ReachesTls options random tlsEnabled) :
    (validator.validate random options).probes =
      (Tls.resolve options tlsEnabled validator.probe validator.systemTrust).probes := by
  obtain ⟨target, id, htarget, hid, huses⟩ := h
  have hbefore := (asks_resolveTlsEnabled options target).probes_eq_nil
  have hafter : ∀ tls, (finish options target id tlsEnabled tls).probes = [] := fun tls =>
    (asks_finish options target id tlsEnabled tls).probes_eq_nil
  rw [validate_eq, htarget, hid, Traced.lift_ok_andThen, Traced.lift_ok_andThen,
    Traced.probes_andThen_of_ok huses, hbefore, List.nil_append]
  exact Traced.probes_andThen_of_silent hafter

theorem probes_validate_of_unreached (h : ∀ tlsEnabled, ¬ ReachesTls options random tlsEnabled) :
    (validator.validate random options).probes = [] := by
  rw [validate_eq]
  cases htarget : Target.ofOptions options with
  | error violation => rfl
  | ok target =>
      cases hid : resolveId options random with
      | error violation => rfl
      | ok id =>
          rw [Traced.lift_ok_andThen, Traced.lift_ok_andThen]
          cases huses : (resolveTlsEnabled options target).outcome with
          | error violation =>
              rw [Traced.probes_andThen_of_error huses]
              exact (asks_resolveTlsEnabled options target).probes_eq_nil
          | ok tlsEnabled => exact absurd ⟨target, id, htarget, hid, huses⟩ (h tlsEnabled)

theorem heeds_validate (systemTrust : SystemTrust) (random : Uuid) (options : Options) :
    Probe.Heeds (fun probe => (Validator.mk probe systemTrust).validate random options)
      options.consulted := by
  have h := (Probe.Heeds.lift (Target.unasked_ofOptions options)).andThen fun target =>
    (Probe.Heeds.lift (unasked_resolveId options random)).andThen fun id =>
      (Probe.Heeds.const (unasked_resolveTlsEnabled options target)).andThen fun tlsEnabled =>
        (Tls.heeds_resolve options tlsEnabled systemTrust).andThen fun tls =>
          Probe.Heeds.const (unasked_finish options target id tlsEnabled tls)
  simpa only [validate_eq, List.nil_append, List.append_nil] using h

/-! ## What is asked, and what is made of the answers -/

/-- The questions of validation about the files that are consulted, and what its answers mean. -/
structure ConsultsInOrder (validator : Validator) (random : Uuid) (options : Options) : Prop where
  in_order : (validator.validate random options).probes <+: Probe.questions options.consulted
  /-- All questions are asked before TLS is settled, whatever is found out after that. -/
  complete : ReachesTls options random true → ∀ tls,
    (Tls.resolve options true validator.probe validator.systemTrust).outcome = .ok tls →
      (validator.validate random options).probes = Probe.questions options.consulted
  /-- Nothing is asked without TLS, and nothing if an earlier stage fails. -/
  silent : ¬ ReachesTls options random true → (validator.validate random options).probes = []
  unreadable : ∀ label path,
    (validator.validate random options).outcome = .error (.unreadablePath label path) →
      (validator.validate random options).probes.getLast? = some (.readable path) ∧
        validator.probe.readable path = false
  writable : ∀ label path,
    (validator.validate random options).outcome = .error (.writablePath label path) →
      (validator.validate random options).probes.getLast? = some (.writable path) ∧
        validator.probe.writable path = true
  /-- Answers about other files change neither the outcome nor what happens on the way to it. -/
  framed : ∀ other, validator.probe.AgreesOn other options.consulted →
    (Validator.mk other validator.systemTrust).validate random options =
      validator.validate random options

/--
Validation asks about the files that are consulted, once about each and in order: up to the first
one that is refused, and about none of them unless TLS is used.
-/
theorem consults_in_order (validator : Validator) (random : Uuid) (options : Options) :
    validator.ConsultsInOrder random options := by
  have hheeds := heeds_validate validator.systemTrust random options
  have hasks := Tls.asks_consulted options validator.probe validator.systemTrust
  have hsilent (hoff : ¬ ReachesTls options random true) :
      (validator.validate random options).probes = [] := by
    by_cases hplain : ReachesTls options random false
    · rw [probes_validate_of_reaches hplain]
      exact Tls.probes_resolve_disabled options _ _
    · refine probes_validate_of_unreached fun tlsEnabled => ?_
      cases tlsEnabled with
      | false => exact hplain
      | true => exact hoff
  constructor
  case in_order =>
    by_cases hon : ReachesTls options random true
    · rw [probes_validate_of_reaches hon]
      exact hasks.inOrder
    · rw [hsilent hon]
      exact List.nil_prefix
  case complete =>
    intro hon tls htls
    rw [probes_validate_of_reaches hon]
    exact hasks.complete tls htls
  case silent => exact hsilent
  case unreadable =>
    intro label path h
    exact hheeds.reports validator.probe _ _ h rfl
  case writable =>
    intro label path h
    exact hheeds.reports validator.probe _ _ h rfl
  case framed =>
    intro other hagrees
    exact hheeds.congr validator.probe other hagrees

-- The first of two authorities can be written, so nothing is asked about the second.
example :
    ((Validator.mk ⟨fun _ => true, fun path => path == "/tls/root.pem"⟩ .unavailable).validate ⟨[]⟩
      { cloudId := some "cluster"
        sslCertificateAuthorities := some ["/tls/root.pem", "/tls/issuing.pem"] }).probes =
      [.readable "/tls/root.pem", .writable "/tls/root.pem"] := by decide +kernel

end Validator

end ClusterLink
