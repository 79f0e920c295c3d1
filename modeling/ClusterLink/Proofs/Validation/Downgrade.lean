import ClusterLink.Proofs.Endpoint.Reading
import ClusterLink.Proofs.Validation.Warnings

/-!
# Security that is given up

An accepted connection goes without TLS, or without verification of the server, only where the
options say so: by the switch for TLS, by the plain scheme of every host, or by the verification
mode. Whatever of it the operator should know is reported, and written to the log once.
-/

namespace ClusterLink

variable {options : Options} {random : Uuid} {validator : Validator} {validated : Validated}
  {target : Target} {tlsEnabled : Bool} {connection : Connection}

def Options.NamesPlainHosts (options : Options) : Prop :=
  ∃ texts, options.hosts = some texts ∧ texts ≠ [] ∧ ∀ text ∈ texts, Endpoint.Carries "http" text

/-- Nothing of the security of a connection is given up unless the options ask for it. -/
structure Connection.Guarded (options : Options) (connection : Connection) : Prop where
  unsecured : connection.tls = .disabled →
    options.sslEnabled = some false ∨
      options.sslEnabled = none ∧ connection.target.hosts?.isSome = true ∧ options.NamesPlainHosts
  unverified : ∀ mode identity, connection.tls = .enabled mode identity .unverified →
    ∃ text, options.sslVerificationMode = some text ∧ VerificationMode.none.Spells text

/-- What each advisory says of a connection. -/
def Advisory.Concerns (connection : Connection) : Advisory → Prop
  | .verificationDisabled => ∃ identity trust, connection.tls = .enabled .none identity trust
  | .credentialsOverHttp => connection.credentials ≠ .none ∧ connection.tls = .disabled
  | .noCredentials => connection.credentials = .none ∧ connection.tls ≠ .disabled

/-- The advisories that concern a connection, each of them once and in the order of reports. -/
structure Connection.Advised (connection : Connection) (advisories : List Advisory) : Prop where
  inOrder : advisories.Sublist [.verificationDisabled, .credentialsOverHttp, .noCredentials]
  mem_iff : ∀ advisory, advisory ∈ advisories ↔ advisory.Concerns connection

/-! ## Options that ask for less security -/

theorem Target.Implies.carries_http {texts : List String} {endpoints : List Endpoint}
    (h : (Target.hosts endpoints).Implies false)
    (hread :
      List.Forall₂ (fun text endpoint => Endpoint.read text = .ok endpoint) texts endpoints) :
    ∀ text ∈ texts, Endpoint.Carries "http" text := by
  cases h with
  | plain hnonempty hschemes =>
      intro text hmem
      obtain ⟨endpoint, hendpoint, htext⟩ := exists_mem_of_forall₂ hread.flip hmem
      exact Endpoint.carries_of_read htext (hschemes endpoint hendpoint)

/-- A connection without TLS comes from options that ask for it. -/
theorem Accepts.unsecured (h : Accepts validator random options target false connection) :
    options.sslEnabled = some false ∨
      options.sslEnabled = none ∧ connection.target.hosts?.isSome = true ∧
        options.NamesPlainHosts := by
  rcases h.uses_tls with hgiven | ⟨hopen, himplies⟩
  · exact .inl hgiven
  · refine .inr ⟨hopen, ?_⟩
    have htarget := h.target_follows
    have hsettled := h.target_eq
    cases htarget with
    | hosts hhosts hcloudId hnonempty hread =>
        have hplain := himplies.carries_http hread
        exact ⟨by rw [hsettled]; rfl, _, hhosts, hnonempty, hplain⟩
    | cloudId hhosts hcloudId hnonempty => cases himplies

theorem Tls.Follows.mode_of_unverified {systemTrust : SystemTrust} {mode : VerificationMode}
    {identity : Option Identity}
    (h : Tls.Follows options systemTrust tlsEnabled (.enabled mode identity .unverified)) :
    ∃ text, options.sslVerificationMode = some text ∧ VerificationMode.none.Spells text := by
  cases h with
  | enabled hmode hidentity htrust =>
      cases htrust with
      | unverified =>
          rcases hmode with hgiven | ⟨-, hfull⟩
          · exact hgiven
          · cases hfull

theorem Accepts.guarded (h : Accepts validator random options target tlsEnabled connection) :
    connection.Guarded options where
  unsecured hdisabled := by
    have henabled := h.tls_follows.isEnabled_eq
    rw [hdisabled] at henabled
    subst henabled
    exact h.unsecured
  unverified mode identity htls := by
    have hfollows := h.tls_follows
    rw [htls] at hfollows
    exact hfollows.mode_of_unverified

/-! ## Advisories -/

theorem Validator.mem_tlsAdvisories {tls : Tls} {advisory : Advisory} :
    advisory ∈ tlsAdvisories tls ↔
      advisory = .verificationDisabled ∧ ∃ identity trust, tls = .enabled .none identity trust := by
  unfold tlsAdvisories
  rcases tls with _ | ⟨_ | _ | _, identity, trust⟩ <;> simp [Tls.mode?]

theorem Credentials.mem_advisories {credentials : Credentials} {advisory : Advisory} :
    advisory ∈ credentials.advisories tlsEnabled ↔
      advisory = .credentialsOverHttp ∧ credentials ≠ .none ∧ tlsEnabled = false ∨
        advisory = .noCredentials ∧ credentials = .none ∧ tlsEnabled = true := by
  unfold advisories
  cases credentials <;> cases tlsEnabled <;> simp [isConfigured]

theorem Tls.isEnabled_eq_true_iff {tls : Tls} : tls.isEnabled = true ↔ tls ≠ .disabled := by
  cases tls <;> simp [isEnabled]

theorem Tls.isEnabled_eq_false_iff {tls : Tls} : tls.isEnabled = false ↔ tls = .disabled := by
  cases tls <;> simp [isEnabled]

theorem sublist_advisories (tls : Tls) (credentials : Credentials) :
    (Validator.tlsAdvisories tls ++ credentials.advisories tlsEnabled).Sublist
      [.verificationDisabled, .credentialsOverHttp, .noCredentials] := by
  have htls : (Validator.tlsAdvisories tls).Sublist [.verificationDisabled] := by
    unfold Validator.tlsAdvisories
    split <;> simp
  have hcredentials : (credentials.advisories tlsEnabled).Sublist
      [.credentialsOverHttp, .noCredentials] := by
    unfold Credentials.advisories
    split <;> simp
  exact htls.append hcredentials

theorem Accepts.advised (h : Accepts validator random options target tlsEnabled connection) :
    connection.Advised (Validator.tlsAdvisories connection.tls ++
      connection.credentials.advisories tlsEnabled) where
  inOrder := sublist_advisories connection.tls connection.credentials
  mem_iff advisory := by
    rw [List.mem_append, Validator.mem_tlsAdvisories, Credentials.mem_advisories,
      ← h.tls_follows.isEnabled_eq, Tls.isEnabled_eq_true_iff, Tls.isEnabled_eq_false_iff]
    cases advisory <;> simp [Advisory.Concerns]

/--
Accepted options give up nothing that they do not ask for, their advisories are those that concern
the connection, and each is written to the log once. A validation that fails writes no warning.
-/
theorem guards_validate (validator : Validator) (random : Uuid) (options : Options) :
    (∀ validated, (validator.validate random options).outcome = .ok validated →
      validated.connection.Guarded options ∧
        validated.connection.Advised validated.advisories ∧
        (validator.validate random options).warnings =
          validated.advisories.map (Advisory.record validated.connection.id)) ∧
    ∀ violation, (validator.validate random options).outcome = .error violation →
      (validator.validate random options).warnings = [] := by
  have hwarns := Validator.warns_validate validator random options
  refine ⟨fun validated h => ?_, hwarns.of_error⟩
  obtain ⟨target, tlsEnabled, haccepts, hadvisories⟩ := Validator.validate_eq_ok_iff.1 h
  refine ⟨haccepts.guarded, ?_, hwarns.of_ok validated h⟩
  rw [hadvisories]
  exact haccepts.advised

def Options.plainHosts : Options where
  id := some "filter"
  hosts := some ["HTTP://es1", "http://es2:9201/"]
  username := some "elastic"
  password := some ⟨"changeme"⟩

def Connection.plainHosts : Connection where
  id := "filter"
  target := .hosts [⟨some "http", "es1", some 9200, some "/"⟩,
    ⟨some "http", "es2", some 9201, some "/"⟩]
  credentials := .basic "elastic" ⟨"changeme"⟩

theorem guarded_plainHosts :
    (Validator.validate ⟨.sealing, .unavailable⟩ ⟨[]⟩ .plainHosts).outcome =
        .ok ⟨.plainHosts, [.credentialsOverHttp]⟩ ∧
      Connection.plainHosts.Guarded .plainHosts ∧
      Connection.plainHosts.Advised [.credentialsOverHttp] ∧
      (Validator.validate ⟨.sealing, .unavailable⟩ ⟨[]⟩ .plainHosts).warnings =
        [Advisory.credentialsOverHttp.record "filter"] := by
  have haccepted : (Validator.validate ⟨.sealing, .unavailable⟩ ⟨[]⟩ .plainHosts).outcome =
      .ok ⟨.plainHosts, [.credentialsOverHttp]⟩ := by decide +kernel
  exact ⟨haccepted, (guards_validate _ _ _).1 _ haccepted⟩

end ClusterLink
