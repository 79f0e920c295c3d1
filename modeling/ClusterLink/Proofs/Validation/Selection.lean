import ClusterLink.Proofs.Validation.OtherHosts

/-!
# Hosts that are selected

What becomes of a host in an accepted connection depends on its text alone. Any of the hosts, in any
order and any number, can stand for all of them: the use of TLS, the credentials and the advisories
stay the same, and each host is settled as it was before. So the order of hosts decides nothing.
-/

namespace ClusterLink

variable {options : Options} {random : Uuid} {validator : Validator} {tlsEnabled : Bool}
  {connection : Connection} {texts selected : List String} {endpoints chosen : List Endpoint}

def Options.Accepted (options : Options) (validator : Validator) (random : Uuid) : Prop :=
  ∃ validated, (validator.validate random options).outcome = .ok validated

def Options.Infers (options : Options) (tlsEnabled : Bool) : Prop :=
  ∃ target, Target.ofOptions options = .ok target ∧ target.inferTls = .ok tlsEnabled

/-! ## Some of the hosts -/

theorem Endpoint.InAgreement.mono (h : Endpoint.InAgreement tlsEnabled endpoints)
    (hsubset : chosen ⊆ endpoints) : Endpoint.InAgreement tlsEnabled chosen := by
  obtain ⟨path, hpath⟩ := h
  exact ⟨path, fun endpoint hmem => hpath endpoint (hsubset hmem)⟩

theorem Target.Implies.mono (h : (Target.hosts endpoints).Implies tlsEnabled)
    (hsubset : chosen ⊆ endpoints) (hnonempty : chosen ≠ []) :
    (Target.hosts chosen).Implies tlsEnabled := by
  cases h with
  | openHosts hschemes => exact .openHosts fun endpoint hmem => hschemes endpoint (hsubset hmem)
  | secure hschemes => exact .secure fun endpoint hmem => hschemes endpoint (hsubset hmem)
  | plain _ hschemes => exact .plain hnonempty fun endpoint hmem => hschemes endpoint (hsubset hmem)

theorem Options.UsesTls.mono (h : options.UsesTls (.hosts endpoints) tlsEnabled)
    (hsubset : chosen ⊆ endpoints) (hnonempty : chosen ≠ []) :
    (options.naming selected).UsesTls (.hosts chosen) tlsEnabled := by
  rcases h with hgiven | ⟨hopen, himplies⟩
  · exact .inl hgiven
  · exact .inr ⟨hopen, himplies.mono hsubset hnonempty⟩

/-- Options that name hosts have read all of them. -/
theorem Target.Follows.hosts_of_given {target : Target} (h : Target.Follows options target)
    (hhosts : options.hosts = some texts) :
    ∃ endpoints, target = .hosts endpoints ∧ texts ≠ [] ∧
      List.Forall₂ (fun text endpoint => Endpoint.read text = .ok endpoint) texts endpoints := by
  cases h with
  | hosts hgiven hcloudId hnonempty hread =>
      rw [hhosts] at hgiven
      cases hgiven
      exact ⟨_, rfl, hnonempty, hread⟩
  | cloudId hmissing hcloudId hnonempty =>
      rw [hhosts] at hmissing
      cases hmissing

theorem ne_nil_of_forall₂_read
    (h : List.Forall₂ (fun text endpoint => Endpoint.read text = .ok endpoint) selected chosen)
    (hnonempty : selected ≠ []) : chosen ≠ [] := by
  rintro rfl
  cases h
  exact hnonempty rfl

/-- Accepted options are accepted with some of their hosts in the place of all. -/
theorem Accepts.select (otherRandom : Uuid)
    (h : Accepts validator random options (.hosts endpoints) tlsEnabled connection)
    (hid : options.id.isSome = true)
    (hread : List.Forall₂ (fun text endpoint => Endpoint.read text = .ok endpoint) texts endpoints)
    (hsubset : selected ⊆ texts) (hnonempty : selected ≠ []) :
    ∃ chosen,
      List.Forall₂ (fun text endpoint => Endpoint.read text = .ok endpoint) selected chosen ∧
        Accepts validator otherRandom (options.naming selected) (.hosts chosen) tlsEnabled
          { connection with target := (Target.hosts chosen).settled tlsEnabled } := by
  obtain ⟨chosen, hchosen, hmono⟩ := exists_forall₂_of_subset hread hsubset
  have hsome := ne_nil_of_forall₂_read hchosen hnonempty
  exact ⟨chosen, hchosen, h.naming otherRandom hid hnonempty hchosen (h.uses_tls.mono hmono hsome)
    (Endpoint.InAgreement.mono h.in_agreement hmono)⟩

/-- Every selection of the hosts of accepted options is accepted, and settled with the same TLS. -/
theorem Validator.validate_selected {validated : Validated}
    (h : (validator.validate random options).outcome = .ok validated)
    (hid : options.id.isSome = true) (hhosts : options.hosts = some texts) :
    ∃ tlsEnabled endpoints,
      List.Forall₂ (fun text endpoint => Endpoint.read text = .ok endpoint) texts endpoints ∧
        validated.connection.target = .hosts (endpoints.map (Endpoint.settled tlsEnabled)) ∧
        ∀ otherRandom selected, selected ⊆ texts → selected ≠ [] → ∃ chosen,
          List.Forall₂ (fun text endpoint => Endpoint.read text = .ok endpoint) selected chosen ∧
            (validator.validate otherRandom (options.naming selected)).outcome =
              .ok ⟨{ validated.connection with
                target := .hosts (chosen.map (Endpoint.settled tlsEnabled)) },
                validated.advisories⟩ := by
  obtain ⟨target, tlsEnabled, haccepts, hadvisories⟩ := validate_eq_ok_iff.1 h
  obtain ⟨endpoints, rfl, -, hread⟩ := haccepts.target_follows.hosts_of_given hhosts
  refine ⟨tlsEnabled, endpoints, hread, haccepts.target_eq, ?_⟩
  intro otherRandom selected hsubset hnonempty
  obtain ⟨chosen, hchosen, hagain⟩ := haccepts.select otherRandom hid hread hsubset hnonempty
  exact ⟨chosen, hchosen, validate_eq_ok_iff.2 ⟨_, tlsEnabled, hagain, hadvisories⟩⟩

theorem Options.Accepted.select {otherRandom : Uuid} (h : options.Accepted validator random)
    (hid : options.id.isSome = true) (hhosts : options.hosts = some texts)
    (hsubset : selected ⊆ texts) (hnonempty : selected ≠ []) :
    (options.naming selected).Accepted validator otherRandom := by
  obtain ⟨validated, hvalidated⟩ := h
  obtain ⟨tlsEnabled, endpoints, -, -, hselect⟩ :=
    Validator.validate_selected hvalidated hid hhosts
  obtain ⟨chosen, -, hagain⟩ := hselect otherRandom selected hsubset hnonempty
  exact ⟨_, hagain⟩

theorem Options.Infers.select (h : options.Infers tlsEnabled) (hhosts : options.hosts = some texts)
    (hsubset : selected ⊆ texts) (hnonempty : selected ≠ []) :
    (options.naming selected).Infers tlsEnabled := by
  obtain ⟨target, htarget, hinfers⟩ := h
  have hfollows := Target.ofOptions_eq_ok_iff.1 htarget
  obtain ⟨endpoints, rfl, -, hread⟩ := hfollows.hosts_of_given hhosts
  obtain ⟨chosen, hchosen, hmono⟩ := exists_forall₂_of_subset hread hsubset
  have himplies := (Target.inferTls_eq_ok_iff.1 hinfers).mono hmono
    (ne_nil_of_forall₂_read hchosen hnonempty)
  refine ⟨.hosts chosen, Target.ofOptions_eq_ok_iff.2 ?_, Target.inferTls_eq_ok_iff.2 himplies⟩
  cases hfollows with
  | hosts _ hcloudId _ _ => exact .hosts rfl hcloudId hnonempty hchosen

/-! ## Hosts in another order -/

theorem Options.naming_naming (hhosts : options.hosts = some texts) :
    (options.naming selected).naming texts = options := by
  obtain ⟨⟩ := options
  cases hhosts
  rfl

theorem Options.Infers.texts_ne_nil (h : options.Infers tlsEnabled)
    (hhosts : options.hosts = some texts) : texts ≠ [] := by
  obtain ⟨target, htarget, -⟩ := h
  obtain ⟨-, -, hnonempty, -⟩ := (Target.ofOptions_eq_ok_iff.1 htarget).hosts_of_given hhosts
  exact hnonempty

theorem Options.Accepted.texts_ne_nil (h : options.Accepted validator random)
    (hhosts : options.hosts = some texts) : texts ≠ [] := by
  obtain ⟨validated, hvalidated⟩ := h
  obtain ⟨target, tlsEnabled, haccepts, -⟩ := Validator.validate_eq_ok_iff.1 hvalidated
  obtain ⟨-, -, hnonempty, -⟩ := haccepts.target_follows.hosts_of_given hhosts
  exact hnonempty

theorem Options.Accepted.reorder {otherRandom : Uuid} (h : options.Accepted validator random)
    (hid : options.id.isSome = true) (hhosts : options.hosts = some texts)
    (hperm : texts.Perm selected) : (options.naming selected).Accepted validator otherRandom :=
  h.select hid hhosts hperm.symm.subset fun hnil => h.texts_ne_nil hhosts (by simpa [hnil] using hperm)

theorem Options.Infers.reorder (h : options.Infers tlsEnabled) (hhosts : options.hosts = some texts)
    (hperm : texts.Perm selected) : (options.naming selected).Infers tlsEnabled :=
  h.select hhosts hperm.symm.subset fun hnil => h.texts_ne_nil hhosts (by simpa [hnil] using hperm)

/--
Any of the hosts of accepted options may stand for all of them, and each is settled as it was among
the others. In another order the same hosts are accepted and imply the same use of TLS.
-/
theorem validate_naming (validator : Validator) (hid : options.id.isSome = true)
    (hhosts : options.hosts = some texts) :
    (∀ random validated, (validator.validate random options).outcome = .ok validated →
      ∃ frozen, validated.connection.target = .hosts frozen ∧ frozen.length = texts.length ∧
        ∀ otherRandom selected, selected ≠ [] → (∀ text ∈ selected, text ∈ texts) →
          ∃ chosen, chosen.length = selected.length ∧
            (∀ k i : Nat, selected[k]? = texts[i]? → chosen[k]? = frozen[i]?) ∧
            (validator.validate otherRandom (options.naming selected)).outcome =
              .ok ⟨{ validated.connection with target := .hosts chosen },
                validated.advisories⟩) ∧
      ∀ reordered, texts.Perm reordered →
        (∀ random otherRandom, options.Accepted validator random ↔
          (options.naming reordered).Accepted validator otherRandom) ∧
        ∀ tlsEnabled, options.Infers tlsEnabled ↔ (options.naming reordered).Infers tlsEnabled := by
  constructor
  · intro random validated h
    obtain ⟨tlsEnabled, endpoints, hread, htarget, hselect⟩ :=
      Validator.validate_selected h hid hhosts
    refine ⟨_, htarget, by simp [hread.length_eq], ?_⟩
    intro otherRandom selected hnonempty hsubset
    obtain ⟨chosen, hchosen, hagain⟩ := hselect otherRandom selected hsubset hnonempty
    refine ⟨chosen.map (Endpoint.settled tlsEnabled), by simp [hchosen.length_eq], ?_, hagain⟩
    intro k i hsame
    rw [List.getElem?_map, List.getElem?_map, getElem?_eq_of_forall₂ hread hchosen hsame]
  · intro reordered hperm
    have hback : (options.naming reordered).naming texts = options := Options.naming_naming hhosts
    refine ⟨fun random otherRandom => ⟨fun h => h.reorder hid hhosts hperm, fun h => ?_⟩,
      fun tlsEnabled => ⟨fun h => h.reorder hhosts hperm, fun h => ?_⟩⟩
    · have hagain : ((options.naming reordered).naming texts).Accepted validator random :=
        h.reorder hid rfl hperm.symm
      rwa [hback] at hagain
    · have hagain : ((options.naming reordered).naming texts).Infers tlsEnabled :=
        h.reorder rfl hperm.symm
      rwa [hback] at hagain

def Options.unevenHosts : Options where
  id := some "filter"
  hosts := some ["HTTP://es1:9201/base", "es2/./base"]
  sslEnabled := some false
  username := some "elastic"
  password := some ⟨"changeme"⟩

def Connection.unevenHosts : Connection where
  id := "filter"
  target := .hosts [⟨some "http", "es1", some 9201, some "/base"⟩,
    ⟨some "http", "es2", some 9200, some "/base"⟩]
  credentials := .basic "elastic" ⟨"changeme"⟩

theorem validate_unevenHosts :
    (Validator.validate ⟨.sealing, .unavailable⟩ ⟨[]⟩ .unevenHosts).outcome =
        .ok ⟨.unevenHosts, [.credentialsOverHttp]⟩ ∧
      (∃ chosen, chosen[0]? = some ⟨some "http", "es2", some 9200, some "/base"⟩ ∧
        (Validator.validate ⟨.sealing, .unavailable⟩ ⟨[]⟩
          (Options.unevenHosts.naming ["es2/./base", "HTTP://es1:9201/base", "es2/./base"])).outcome =
            .ok ⟨{ Connection.unevenHosts with target := .hosts chosen },
              [.credentialsOverHttp]⟩) ∧
      (Options.unevenHosts.naming ["es2/./base", "HTTP://es1:9201/base"]).Accepted
        ⟨.sealing, .unavailable⟩ ⟨[]⟩ := by
  have haccepted : (Validator.validate ⟨.sealing, .unavailable⟩ ⟨[]⟩ .unevenHosts).outcome =
      .ok ⟨.unevenHosts, [.credentialsOverHttp]⟩ := by decide +kernel
  obtain ⟨hselect, hreorder⟩ :=
    @validate_naming .unevenHosts _ ⟨.sealing, .unavailable⟩ rfl rfl
  obtain ⟨frozen, hfrozen, -, hselected⟩ := hselect _ _ haccepted
  cases hfrozen
  obtain ⟨chosen, -, hindex, hagain⟩ := hselected ⟨[]⟩
    ["es2/./base", "HTTP://es1:9201/base", "es2/./base"] (by simp) (by decide)
  refine ⟨haccepted, ⟨chosen, hindex 0 1 rfl, hagain⟩, ?_⟩
  exact ((hreorder _ (List.Perm.swap _ _ [])).1 ⟨[]⟩ ⟨[]⟩).1 ⟨_, haccepted⟩

end ClusterLink
