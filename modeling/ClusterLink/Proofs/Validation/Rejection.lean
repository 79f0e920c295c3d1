import ClusterLink.Proofs.Tls.Refusals
import ClusterLink.Proofs.Validation.Acceptance

/-!
# Rejection

Every violation that validation ends with holds of the options, and the stage that it belongs to is
the first one whose rules are broken. Each check is looked at on its own; the chain of stages is
then followed once.
-/

namespace ClusterLink

variable {options : Options} {random : Uuid} {validator : Validator} {violation : Violation}

/-! ## Target -/

theorem Target.explains_of_error (h : Target.ofOptions options = .error violation) :
    violation.Explains validator options .target := by
  have hhosts (texts : List String) (hgiven : options.hosts = some texts) :
      options.value? .hosts = some (.texts texts) := by simp [Options.value?, hgiven]
  have hcloudId (identifier : String) (hgiven : options.cloudId = some identifier) :
      options.value? .cloudId = some (.text identifier) := by simp [Options.value?, hgiven]
  unfold Target.ofOptions at h
  split at h
  · rename_i first rest identifier hlist hname
    cases h
    split
    · rename_i hempty
      have hblank := String.isEmpty_iff.1 hempty
      exact ⟨Options.givesEmpty_of_value? (hcloudId _ hname) hblank, rfl⟩
    · exact ⟨⟨Options.isSupplied_of_value? (hhosts _ hlist),
        Options.isSupplied_of_value? (hcloudId _ hname)⟩, rfl⟩
  · rename_i identifier hlist hname
    cases h
    split
    · rename_i hempty
      have hblank := String.isEmpty_iff.1 hempty
      exact ⟨Options.givesEmpty_of_value? (hcloudId _ hname) hblank, rfl⟩
    · exact ⟨Options.givesEmpty_of_value? (hhosts _ hlist) rfl, rfl⟩
  · rename_i identifier hlist hname
    split at h
    · rename_i hempty
      have hblank := String.isEmpty_iff.1 hempty
      cases h
      exact ⟨Options.givesEmpty_of_value? (hcloudId _ hname) hblank, rfl⟩
    · cases h
  · rename_i hlist hname
    cases h
    exact ⟨Options.givesEmpty_of_value? (hhosts _ hlist) rfl, rfl⟩
  · rename_i texts _ hlist hname
    obtain ⟨text, hmem, hread⟩ := mapM_eq_error (map_eq_error_iff.1 h)
    obtain ⟨fault, hfault, rfl⟩ := Target.readHost_eq_error_iff.1 hread
    exact ⟨⟨Options.givesText_of_value? (hhosts _ hlist) hmem, fault, hfault, rfl⟩, rfl⟩
  · rename_i hlist hname
    cases h
    have hnoHosts : options.value? .hosts = none := by simp [Options.value?, hlist]
    have hnoCloudId : options.value? .cloudId = none := by simp [Options.value?, hname]
    exact ⟨⟨Options.not_isSupplied_of_value? hnoHosts,
      Options.not_isSupplied_of_value? hnoCloudId⟩, rfl⟩

theorem Validator.explains_of_resolveId_error (h : resolveId options random = .error violation) :
    violation.Explains validator options .id ∧ options.id = some "" := by
  unfold resolveId at h
  split at h
  · rename_i id hid
    split at h
    · rename_i hempty
      have hblank := String.isEmpty_iff.1 hempty
      have hvalue : options.value? .id = some (.text id) := by simp [Options.value?, hid]
      cases h
      exact ⟨⟨Options.givesEmpty_of_value? hvalue hblank, rfl⟩, hblank ▸ hid⟩
    · cases h
  · cases h

/-! ## Credentials -/

namespace Credentials

theorem mechanisms_nodup (options : Options) : (mechanisms options).Nodup := by
  unfold mechanisms
  generalize options.isSupplied "username" = username
  generalize options.isSupplied "password" = password
  generalize options.isSupplied "api_key" = apiKey
  generalize options.isSupplied "cloud_auth" = cloudAuth
  revert username password apiKey cloudAuth
  decide

theorem isSupplied_of_mem_mechanisms {name : String} (h : name ∈ mechanisms options) :
    options.isSupplied name = true := by
  unfold mechanisms at h
  rw [List.mem_append, List.mem_append] at h
  rcases h with (h | h) | h
  · split at h
    · rw [List.mem_singleton] at h
      exact h ▸ ‹_›
    · split at h
      · rw [List.mem_singleton] at h
        exact h ▸ ‹_›
      · cases h
  · split at h
    · rw [List.mem_singleton] at h
      exact h ▸ ‹_›
    · cases h
  · split at h
    · rw [List.mem_singleton] at h
      exact h ▸ ‹_›
    · cases h

theorem explains_of_readBasic {username : String} {password : Secret}
    (husername : options.username = some username) (hpassword : options.password = some password)
    (h : readBasic username password = .error violation) :
    violation.Explains validator options .credentials := by
  have huser : options.value? .username = some (.text username) := by
    simp [Options.value?, husername]
  have hsecret : options.value? .password = some (.secret password) := by
    simp [Options.value?, hpassword]
  unfold readBasic at h
  split at h
  · rename_i hempty
    rw [Bool.or_eq_true] at hempty
    cases h
    refine ⟨?_, rfl⟩
    rcases hempty with hempty | hempty
    · exact .inl (Options.givesEmpty_of_value? huser (String.isEmpty_iff.1 hempty))
    · exact .inr (Options.givesEmpty_of_value? hsecret (OptionValue.isEmpty_secret.2 hempty))
  · cases h

theorem explains_of_readApiKey {key : Secret} (hapiKey : options.apiKey = some key)
    (h : readApiKey key = .error violation) :
    violation.Explains validator options .credentials := by
  have hvalue : options.value? .apiKey = some (.secret key) := by simp [Options.value?, hapiKey]
  unfold readApiKey at h
  obtain ⟨hempty, rfl⟩ := Options.givesEmpty_of_refused hvalue h
  exact ⟨hempty, rfl⟩

theorem explains_of_readCloudAuth {value : Secret} (hcloudAuth : options.cloudAuth = some value)
    (h : readCloudAuth value = .error violation) :
    violation.Explains validator options .credentials := by
  have hvalue : options.value? .cloudAuth = some (.secret value) := by
    simp [Options.value?, hcloudAuth]
  unfold readCloudAuth at h
  split at h
  · rename_i hempty
    cases h
    exact ⟨Options.givesEmpty_of_value? hvalue (OptionValue.isEmpty_secret.2 hempty), rfl⟩
  · have hread := map_eq_error_iff.1 h
    cases CloudAuth.eq_of_read_eq_error hread
    refine ⟨⟨value, hcloudAuth, fun credentials hspells => ?_⟩, rfl⟩
    rw [CloudAuth.read_eq_ok_iff.2 hspells] at hread
    cases hread

theorem explains_of_error (h : ofOptions options = .error violation) :
    violation.Explains validator options .credentials := by
  unfold ofOptions at h
  split at h
  · rename_i hmany
    cases h
    exact ⟨⟨hmany, mechanisms_nodup options, fun name => isSupplied_of_mem_mechanisms⟩, rfl⟩
  split at h
  · rename_i username husername hpassword
    have hvalue : options.value? .username = some (.text username) := by
      simp [Options.value?, husername]
    have hmissing : options.value? .password = .none := by simp [Options.value?, hpassword]
    cases h
    exact ⟨Options.lacks_of_value? hvalue hmissing, rfl⟩
  · rename_i password husername hpassword
    have hvalue : options.value? .password = some (.secret password) := by
      simp [Options.value?, hpassword]
    have hmissing : options.value? .username = .none := by simp [Options.value?, husername]
    cases h
    exact ⟨Options.lacks_of_value? hvalue hmissing, rfl⟩
  · rename_i username password husername hpassword
    exact explains_of_readBasic husername hpassword h
  · rename_i key _ _ hapiKey
    exact explains_of_readApiKey hapiKey h
  · rename_i value _ _ _ hcloudAuth
    exact explains_of_readCloudAuth hcloudAuth h
  · cases h

end Credentials

/-! ## Hosts -/

theorem Validator.explains_of_resolveTlsEnabled {target : Target}
    (htarget : Target.Follows options target)
    (h : (resolveTlsEnabled options target).outcome = .error violation) :
    violation.Explains validator options .tlsUse := by
  unfold resolveTlsEnabled at h
  split at h
  · cases h
  · rename_i hunset
    have hmissing : options.value? .sslEnabled = none := by simp [Options.value?, hunset]
    simp only [Traced.bind_eq, Traced.outcome_andThen_eq_error, Traced.outcome_lift,
      Traced.outcome_note, Traced.pure_eq, reduceCtorEq, and_false, exists_false, or_false] at h
    cases target with
    | cloudId identifier => cases h
    | hosts endpoints =>
        rw [Target.inferTls_hosts] at h
        split_ifs at h with hopen hsecure hplain
        cases h
        exact ⟨⟨Options.not_isSupplied_of_value? hmissing, endpoints, htarget, hopen, hsecure,
          hplain⟩, rfl⟩

theorem Validator.explains_of_settleTarget {target : Target} {tlsEnabled : Bool}
    (htarget : Target.Follows options target) (huses : options.UsesTls target tlsEnabled)
    (h : (settleTarget target tlsEnabled).outcome = .error violation) :
    violation.Explains validator options .agreement := by
  unfold settleTarget at h
  cases target with
  | cloudId identifier => cases h
  | hosts endpoints =>
      cases endpoints with
      | nil => exact absurd rfl htarget.endpoints_ne_nil
      | cons first rest =>
          simp only [normalizeHosts, Traced.bind_eq, Traced.outcome_andThen_eq_error,
            Traced.outcome_lift, Traced.outcome_note, Traced.pure_eq, reduceCtorEq, and_false,
            exists_false, or_false] at h
          obtain ⟨endpoint, hmem, hagree⟩ := mapM_eq_error h
          rcases Endpoint.agree_eq_error_iff.1 hagree with
            ⟨hpath, rfl⟩ | ⟨-, ⟨other, hother, hne⟩, rfl⟩
          · exact ⟨⟨_, htarget, endpoint, hmem, first, List.mem_cons_self, hpath⟩, rfl⟩
          · exact ⟨⟨rfl, _, htarget, huses, endpoint, hmem, other, hother, hne⟩, rfl⟩

/-! ## The chain of stages -/

namespace ValidationStage

variable {stage : ValidationStage} {target : Target} {tlsEnabled : Bool}

theorem rank_injective {first second : ValidationStage} (h : first.rank = second.rank) :
    first = second := by
  revert h
  cases first <;> cases second <;> decide

theorem EarlierPass.next (h : stage.EarlierPass validator options)
    (hpasses : stage.Passes validator options) (next : ValidationStage)
    (hnext : next.rank = stage.rank + 1) : next.EarlierPass validator options := by
  intro other hrank
  by_cases hsame : other.rank = stage.rank
  · rw [rank_injective hsame]
    exact hpasses
  · exact h other (by omega)

theorem firstBroken_of_explains (h : violation.Explains validator options stage)
    (hbroken : ¬ stage.Passes validator options)
    (hearlier : stage.EarlierPass validator options) :
    violation.HoldsOf validator options ∧ violation.stage.FirstBroken validator options := by
  obtain ⟨hholds, hstage⟩ := h
  rw [hstage]
  exact ⟨hholds, hbroken, hearlier⟩

end ValidationStage

theorem Options.SettlesTls.unique {tlsEnabled other : Bool} (h : options.SettlesTls tlsEnabled)
    (hother : options.SettlesTls other) : tlsEnabled = other := by
  obtain ⟨target, htarget, huses⟩ := h
  obtain ⟨target', htarget', huses'⟩ := hother
  cases htarget.unique htarget'
  exact huses.unique huses'

theorem Options.Names.id_ne {id : String} (h : options.Names random id) :
    options.id ≠ some "" := by
  rcases h with ⟨hid, hne⟩ | ⟨hid, -⟩
  · rw [hid]
    simpa using hne
  · simp [hid]

open ValidationStage

theorem passes_of_tls_follows {tlsEnabled : Bool} {tls : Tls}
    (hsettles : options.SettlesTls tlsEnabled)
    (h : Tls.Follows options validator.systemTrust tlsEnabled tls)
    (hsealed : ∀ path ∈ options.files, validator.probe.Seals path) :
    tlsMode.Passes validator options ∧ tlsIdentity.Passes validator options ∧
      tlsTrust.Passes validator options := by
  rw [Tls.files_eq, List.forall_mem_append] at hsealed
  cases h with
  | disabled hnone =>
      have hoff : ¬ options.SettlesTls true := fun hon => by cases hon.unique hsettles
      exact ⟨⟨fun hon => absurd hon hoff, fun _ => hnone⟩, fun hon => absurd hon hoff,
        fun hon => absurd hon hoff⟩
  | enabled hmode hidentity htrust =>
      have hon : ¬ options.SettlesTls false := fun hoff => by cases hoff.unique hsettles
      exact ⟨⟨fun _ => ⟨_, hmode⟩, fun hoff => absurd hoff hon⟩,
        fun _ => ⟨⟨_, hidentity⟩, hsealed.1⟩, fun _ => ⟨⟨_, _, hmode, htrust⟩, hsealed.2⟩⟩

theorem firstBroken_of_tls_error {tlsEnabled : Bool}
    (hbefore : tlsMode.EarlierPass validator options)
    (hsettles : options.SettlesTls tlsEnabled)
    (h : (Tls.resolve options tlsEnabled validator.probe validator.systemTrust).outcome =
      .error violation) :
    violation.HoldsOf validator options ∧ violation.stage.FirstBroken validator options := by
  unfold Tls.resolve at h
  cases tlsEnabled with
  | false =>
      have hoff : Tls.resolveDisabled options = .error violation := by simpa using h
      refine firstBroken_of_explains (Tls.explains_of_resolveDisabled hsettles hoff) ?_ hbefore
      rintro ⟨-, hnone⟩
      rw [Tls.resolveDisabled, Tls.tlsOnlySupplied_eq_nil_iff.2 (hnone hsettles)] at hoff
      cases hoff
  | true =>
      have hoff : ¬ options.SettlesTls false := fun hoff => by cases hoff.unique hsettles
      simp only [↓reduceIte, Traced.bind_eq, Traced.outcome_andThen_eq_error, Traced.outcome_lift,
        Traced.outcome_note, Traced.pure_eq, reduceCtorEq, and_false, exists_false, or_false] at h
      rcases h with h | ⟨mode, hmode, h | ⟨identity, hidentity, h⟩⟩
      · refine firstBroken_of_explains (Tls.explains_of_modeOf h) ?_ hbefore
        rintro ⟨hverifies, -⟩
        obtain ⟨mode, hmode⟩ := hverifies hsettles
        rw [Tls.modeOf_eq_ok_iff.2 hmode] at h
        cases h
      all_goals have hverifies := Tls.modeOf_eq_ok_iff.1 hmode
      all_goals have hmodePasses : tlsMode.Passes validator options :=
        ⟨fun _ => ⟨mode, hverifies⟩, fun hfalse => absurd hfalse hoff⟩
      all_goals have hbefore := hbefore.next hmodePasses .tlsIdentity rfl
      · refine firstBroken_of_explains (Identity.explains_of_error h) ?_ hbefore
        intro hpasses
        obtain ⟨⟨identity, hfollows⟩, hsealed⟩ := hpasses hsettles
        rw [Identity.resolve_eq_ok_iff.2 ⟨hfollows, hsealed⟩] at h
        cases h
      · have hidentityPasses : tlsIdentity.Passes validator options := fun _ => by
          obtain ⟨hfollows, hsealed⟩ := Identity.resolve_eq_ok_iff.1 hidentity
          exact ⟨⟨identity, hfollows⟩, hsealed⟩
        have hbefore := hbefore.next hidentityPasses .tlsTrust rfl
        refine firstBroken_of_explains (Trust.explains_of_error hverifies h) ?_ hbefore
        intro hpasses
        obtain ⟨⟨other, trust, hother, hfollows⟩, hsealed⟩ := hpasses hsettles
        cases hother.unique hverifies
        rw [Trust.resolve_eq_ok_iff.2 ⟨hfollows, hsealed⟩] at h
        cases h

/--
A violation that validation ends with holds of the options, and it belongs to the first stage whose
rules are broken.
-/
theorem truthful_of_validate_error
    (h : (validator.validate random options).outcome = .error violation) :
    violation.HoldsOf validator options ∧ violation.stage.FirstBroken validator options := by
  have hstart : ValidationStage.target.EarlierPass validator options :=
    fun other hrank => absurd hrank (Nat.not_lt_zero _)
  simp only [Validator.validate, Traced.bind_eq, Traced.outcome_andThen_eq_error,
    Traced.outcome_lift, Validator.outcome_warnAll, Traced.outcome_note, Traced.pure_eq,
    reduceCtorEq, and_false, exists_false, or_false] at h
  -- A stage that has a value follows its rules, so `EarlierPass` grows by one stage at each step.
  rcases h with h | ⟨target, htarget, h⟩
  · refine firstBroken_of_explains (Target.explains_of_error h) ?_ hstart
    rintro ⟨target, hfollows⟩
    rw [Target.ofOptions_eq_ok_iff.2 hfollows] at h
    cases h
  have htarget := Target.ofOptions_eq_ok_iff.1 htarget
  have hbefore := hstart.next ⟨target, htarget⟩ .id rfl
  rcases h with h | ⟨id, hid, h⟩
  · obtain ⟨hexplains, hid⟩ := Validator.explains_of_resolveId_error h
    exact firstBroken_of_explains hexplains (fun hne => hne hid) hbefore
  have hidPasses : ValidationStage.id.Passes validator options :=
    (Validator.resolveId_eq_ok_iff.1 hid).id_ne
  have hbefore := hbefore.next hidPasses .tlsUse rfl
  rcases h with h | ⟨tlsEnabled, huses, h⟩
  · refine firstBroken_of_explains (Validator.explains_of_resolveTlsEnabled htarget h) ?_ hbefore
    rintro ⟨tlsEnabled, other, hother, huses⟩
    cases hother.unique htarget
    rw [Validator.resolveTlsEnabled_eq_ok_iff.2 huses] at h
    cases h
  have huses := Validator.resolveTlsEnabled_eq_ok_iff.1 huses
  have hsettles : options.SettlesTls tlsEnabled := ⟨target, htarget, huses⟩
  have hbefore := hbefore.next ⟨tlsEnabled, hsettles⟩ .tlsMode rfl
  rcases h with h | ⟨tls, htls, h⟩
  · exact firstBroken_of_tls_error hbefore hsettles h
  obtain ⟨hfollows, hsealed⟩ := Tls.resolve_eq_ok_iff.1 htls
  obtain ⟨hmode, hidentity, htrust⟩ := passes_of_tls_follows hsettles hfollows hsealed
  have hbefore := ((hbefore.next hmode .tlsIdentity rfl).next hidentity .tlsTrust rfl).next htrust
    .credentials rfl
  rcases h with h | ⟨credentials, hcredentials, h⟩
  · refine firstBroken_of_explains (Credentials.explains_of_error h) ?_ hbefore
    rintro ⟨credentials, hfollows⟩
    rw [Credentials.ofOptions_eq_ok_iff.2 hfollows] at h
    cases h
  have hbefore := hbefore.next ⟨_, Credentials.ofOptions_eq_ok_iff.1 hcredentials⟩ .agreement rfl
  refine firstBroken_of_explains (Validator.explains_of_settleTarget htarget huses h) ?_ hbefore
  intro hagree
  rw [Validator.settleTarget_eq_ok_iff.2 ⟨hagree target tlsEnabled htarget huses, rfl⟩] at h
  cases h

def Options.lockedKey : Options where
  hosts := some ["https://es1:9200", "es2"]
  sslCertificate := some "/tls/node.crt"
  sslEnabled := some true
  sslKey := some "/tls/node.key"
  sslKeyPassphrase := some ⟨""⟩
  sslTruststorePath := some "/tls/trust.jks"
  username := some "elastic"

def Validator.lockedKey : Validator where
  probe := ⟨fun path => path != "/tls/node.key", fun _ => false⟩
  systemTrust := .unavailable

theorem truthful_lockedKey :
    (Validator.lockedKey.validate ⟨[]⟩ .lockedKey).outcome =
        .error (.unreadablePath "ssl_key" "/tls/node.key") ∧
      (Violation.unreadablePath "ssl_key" "/tls/node.key").HoldsOf .lockedKey .lockedKey ∧
      (Violation.unreadablePath "ssl_key" "/tls/node.key").stage.FirstBroken .lockedKey
        .lockedKey := by
  have hrefused : (Validator.lockedKey.validate ⟨[]⟩ .lockedKey).outcome =
      .error (.unreadablePath "ssl_key" "/tls/node.key") := by decide +kernel
  exact ⟨hrefused, truthful_of_validate_error hrefused⟩

end ClusterLink
