import ClusterLink.Proofs.Credentials.Rules
import ClusterLink.Proofs.Hosts
import ClusterLink.Proofs.Tls.Rules

/-!
# Acceptance

Options are accepted exactly when they follow the rules of every stage, and the rules determine the
connection. The questions that validation asks about files are those about the files that the
options name.
-/

namespace ClusterLink

variable {options : Options} {random : Uuid} {validator : Validator} {validated : Validated}

/-- The identity of a filter: the one that is given, if it is not empty, or one that is made. -/
def Options.Names (options : Options) (random : Uuid) (id : String) : Prop :=
  options.id = some id ∧ id ≠ "" ∨
    options.id = none ∧ id = Validator.generatedLead ++ random.simple

/--
The rules that options follow on the way to a connection; `target` is the cluster as it is named,
before its hosts are brought into agreement.
-/
structure Accepts (validator : Validator) (random : Uuid) (options : Options) (target : Target)
    (tlsEnabled : Bool) (connection : Connection) : Prop where
  target_follows : Target.Follows options target
  names : options.Names random connection.id
  uses_tls : options.UsesTls target tlsEnabled
  tls_follows : Tls.Follows options validator.systemTrust tlsEnabled connection.tls
  files_sealed : ∀ path ∈ options.files, validator.probe.Seals path
  credentials_follow : Credentials.Follows options connection.credentials
  in_agreement : target.InAgreement tlsEnabled
  target_eq : connection.target = target.settled tlsEnabled
  pipelineName_eq : connection.pipelineName = options.pipelineName
  geoip_eq : connection.geoipDatabaseDirectory = options.geoipDatabaseDirectory

def Validated.unnamed (validated : Validated) : Validated :=
  { validated with connection := { validated.connection with id := "" } }

theorem Options.Names.ne_empty {id : String} (h : options.Names random id) : id ≠ "" := by
  rcases h with ⟨_, hne⟩ | ⟨_, rfl⟩
  · exact hne
  · simp [Validator.generatedLead, String.append_eq_empty_iff]

namespace Validator

theorem resolveId_eq_ok_iff {id : String} :
    resolveId options random = .ok id ↔ options.Names random id := by
  unfold resolveId Options.Names
  cases hid : options.id with
  | none => simp [eq_comm]
  | some given =>
      dsimp only
      constructor
      · intro h
        split at h
        · cases h
        · rename_i hnonempty
          cases h
          exact .inl ⟨rfl, by simpa using hnonempty⟩
      · rintro (⟨h, hne⟩ | ⟨h, -⟩)
        · cases h
          simp [hne]
        · cases h

@[simp] theorem outcome_warnAll (id : String) (advisories : List Advisory) :
    (warnAll id advisories).outcome = .ok () := rfl

/-- Options are accepted exactly when they follow the rules of every stage. -/
theorem validate_eq_ok_iff :
    (validator.validate random options).outcome = .ok validated ↔
      ∃ target tlsEnabled,
        Accepts validator random options target tlsEnabled validated.connection ∧
          validated.advisories = tlsAdvisories validated.connection.tls ++
            validated.connection.credentials.advisories tlsEnabled := by
  simp only [validate, Traced.bind_eq, Traced.outcome_andThen_eq_ok, Traced.outcome_lift,
    Target.ofOptions_eq_ok_iff, resolveId_eq_ok_iff, resolveTlsEnabled_eq_ok_iff,
    Tls.resolve_eq_ok_iff, Credentials.ofOptions_eq_ok_iff, settleTarget_eq_ok_iff,
    outcome_warnAll, Traced.outcome_note, Traced.pure_eq, Except.ok.injEq]
  constructor
  · rintro ⟨target, htarget, id, hid, tlsEnabled, huses, tls, ⟨htls, hsealed⟩, credentials,
      hcredentials, _, ⟨hagree, rfl⟩, -, -, -, -, rfl⟩
    exact ⟨target, tlsEnabled,
      ⟨htarget, hid, huses, htls, hsealed, hcredentials, hagree, rfl, rfl, rfl⟩, rfl⟩
  · rintro ⟨target, tlsEnabled, haccepts, hadvisories⟩
    obtain ⟨⟨id, settled, tls, credentials, pipelineName, geoip⟩, advisories⟩ := validated
    dsimp only at hadvisories
    subst hadvisories
    obtain ⟨htarget, hid, huses, htls, hsealed, hcredentials, hagree, rfl, rfl, rfl⟩ := haccepts
    exact ⟨target, htarget, id, hid, tlsEnabled, huses, tls, ⟨htls, hsealed⟩, credentials,
      hcredentials, _, ⟨hagree, rfl⟩, (), trivial, (), trivial, rfl⟩

/-- Nothing is made from random bytes for a filter that has a name. -/
theorem validate_of_named (hid : options.id.isSome = true) (random otherRandom : Uuid) :
    validator.validate random options = validator.validate otherRandom options := by
  obtain ⟨id, hgiven⟩ := Option.isSome_iff_exists.1 hid
  have hresolve : resolveId options random = resolveId options otherRandom := by
    simp [resolveId, hgiven]
  rw [validate, validate, hresolve]

/-- Whatever name is made for a filter, the rest of the outcome is the same. -/
theorem unnamed_validate (validator : Validator) (options : Options) (random otherRandom : Uuid) :
    Validated.unnamed <$> (validator.validate random options).outcome =
      Validated.unnamed <$> (validator.validate otherRandom options).outcome := by
  by_cases hid : options.id.isSome = true
  · rw [validate_of_named hid random otherRandom]
  · have hnone : options.id = none := by simpa using hid
    simp only [validate, resolveId, hnone, Traced.bind_eq]
    -- No later stage knows the name, so the outcomes part only in the last one.
    cases Target.ofOptions options with
    | error violation => simp only [Traced.lift, Traced.andThen_error]
    | ok target =>
        simp only [Traced.lift_ok_andThen]
        rcases resolveTlsEnabled options target with ⟨_, violation | tlsEnabled⟩
        · simp only [Traced.andThen_error]
        simp only [Traced.andThen_ok]
        rcases Tls.resolve options tlsEnabled validator.probe validator.systemTrust with
          ⟨_, violation | tls⟩
        · simp only [Traced.andThen_error]
        simp only [Traced.andThen_ok]
        cases Credentials.ofOptions options with
        | error violation => simp only [Traced.lift, Traced.andThen_error]
        | ok credentials =>
            simp only [Traced.lift_ok_andThen]
            rcases settleTarget target tlsEnabled with ⟨_, violation | settled⟩
            · simp only [Traced.andThen_error]
            simp only [Traced.andThen_ok, warnAll, Traced.note, Traced.pure_eq, Functor.map,
              Except.map, Validated.unnamed]

/-! ## The stage of TLS, and what comes after it -/

def finish (options : Options) (target : Target) (id : String) (tlsEnabled : Bool) (tls : Tls) :
    Traced Validated := do
  let credentials ← Traced.lift (Credentials.ofOptions options)
  let target ← settleTarget target tlsEnabled
  let advisories := tlsAdvisories tls ++ credentials.advisories tlsEnabled
  warnAll id advisories
  let connection : Connection := {
    id, target, tls, credentials
    pipelineName := options.pipelineName
    geoipDatabaseDirectory := options.geoipDatabaseDirectory }
  Traced.note (completion connection)
  pure ⟨connection, advisories⟩

theorem validate_eq (validator : Validator) (random : Uuid) (options : Options) :
    validator.validate random options =
      (Traced.lift (Target.ofOptions options)).andThen fun target =>
        (Traced.lift (resolveId options random)).andThen fun id =>
          (resolveTlsEnabled options target).andThen fun tlsEnabled =>
            (Tls.resolve options tlsEnabled validator.probe validator.systemTrust).andThen
              (finish options target id tlsEnabled) := rfl

/-! ## Questions about files -/

theorem asks_resolveTlsEnabled (options : Options) (target : Target) :
    (resolveTlsEnabled options target).Asks [] := by
  unfold resolveTlsEnabled
  split
  · exact Traced.Asks.value _
  · exact (Traced.Asks.lift _).andThen fun enabled _ =>
      (Traced.Asks.note (.inferredTls enabled) rfl).andThen fun _ _ => Traced.Asks.value enabled

theorem asks_settleTarget (target : Target) (tlsEnabled : Bool) :
    (settleTarget target tlsEnabled).Asks [] := by
  unfold settleTarget
  split
  · exact Traced.Asks.value _
  · refine (Traced.Asks.lift _).andThen fun settled _ => ?_
    split
    · exact Traced.Asks.value _
    · exact (Traced.Asks.note _ rfl).andThen fun _ _ => Traced.Asks.value _

theorem asks_warnAll (id : String) (advisories : List Advisory) :
    (warnAll id advisories).Asks [] := by
  have hprobes : (warnAll id advisories).probes = [] := by
    rw [Traced.probes, probesOf, List.filterMap_eq_nil_iff]
    intro occurrence hmem
    obtain ⟨advisory, -, rfl⟩ := List.mem_map.1 hmem
    rfl
  exact ⟨hprobes ▸ List.prefix_rfl, fun _ _ => hprobes⟩

theorem asks_finish (options : Options) (target : Target) (id : String) (tlsEnabled : Bool)
    (tls : Tls) : (finish options target id tlsEnabled tls).Asks [] :=
  (Traced.Asks.lift (Credentials.ofOptions options)).andThen fun credentials _ =>
    (asks_settleTarget target tlsEnabled).andThen fun _ _ =>
      (asks_warnAll id (tlsAdvisories tls ++ credentials.advisories tlsEnabled)).andThen fun _ _ =>
        (Traced.Asks.note (completion _) rfl).andThen fun _ _ => Traced.Asks.value _

/-- Validation asks about the files that options name, and about nothing else. -/
theorem asks_validate (validator : Validator) (random : Uuid) (options : Options) :
    (validator.validate random options).Asks options.files := by
  have h := (Traced.Asks.lift (Target.ofOptions options)).andThen fun target _ =>
    (Traced.Asks.lift (resolveId options random)).andThen fun id _ =>
      (asks_resolveTlsEnabled options target).andThen fun tlsEnabled _ =>
        (Tls.asks_resolve options tlsEnabled validator.probe validator.systemTrust).andThen
          fun tls _ => asks_finish options target id tlsEnabled tls
  simpa only [validate_eq, List.nil_append, List.append_nil] using h

end Validator

end ClusterLink
