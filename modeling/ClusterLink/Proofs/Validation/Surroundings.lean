import ClusterLink.Proofs.Validation.Acceptance

/-!
# Validation in other surroundings

What a validator knows of files and of the trust store of the system decides whether options are
accepted, and nothing else: the rules determine the connection from the options alone. Options that
are accepted stay so under every validator that finds sealed what was found sealed.
-/

namespace ClusterLink

variable {options : Options} {random otherRandom : Uuid} {here there : Validator}
  {tlsEnabled otherEnabled : Bool} {target otherTarget : Target}
  {connection otherConnection : Connection}

/-! ## What the rules determine -/

theorem Identity.Follows.unique {identity other : Option Identity}
    (h : Identity.Follows options identity) (hother : Identity.Follows options other) :
    identity = other := by
  cases h <;> cases hother <;> simp_all

/-- No trust store of the system is chosen where options give something to trust. -/
theorem Trust.Follows.unique {systemTrust otherTrust : SystemTrust} {mode : VerificationMode}
    {trust other : Trust} (h : Trust.Follows options systemTrust mode trust)
    (hother : Trust.Follows options otherTrust mode other) : trust = other := by
  cases h <;> cases hother <;> simp_all

theorem Tls.Follows.unique {systemTrust otherTrust : SystemTrust} {tls other : Tls}
    (h : Tls.Follows options systemTrust tlsEnabled tls)
    (hother : Tls.Follows options otherTrust tlsEnabled other) : tls = other := by
  cases h with
  | disabled _ =>
      cases hother
      rfl
  | enabled hmode hidentity htrust =>
      cases hother with
      | enabled hmode' hidentity' htrust' =>
          cases hmode.unique hmode'
          rw [hidentity.unique hidentity', htrust.unique htrust']

theorem Credentials.Follows.unique {credentials other : Credentials}
    (h : Credentials.Follows options credentials) (hother : Credentials.Follows options other) :
    credentials = other := by
  rw [← Credentials.ofOptions_eq_ok_iff] at h hother
  simpa [h] using hother

theorem Options.Names.unique {id other : String} (h : options.Names random id)
    (hother : options.Names otherRandom other) (hid : options.id.isSome = true) : id = other := by
  rcases h with ⟨hgiven, -⟩ | ⟨hmissing, -⟩
  · rcases hother with ⟨hgiven', -⟩ | ⟨hmissing, -⟩
    · exact Option.some.inj (hgiven.symm.trans hgiven')
    · rw [hmissing] at hid
      cases hid
  · rw [hmissing] at hid
    cases hid

/-- Wherever options with a name are accepted, they are accepted on the way to one connection. -/
theorem Accepts.unique (h : Accepts here random options target tlsEnabled connection)
    (hother : Accepts there otherRandom options otherTarget otherEnabled otherConnection)
    (hid : options.id.isSome = true) :
    otherConnection = connection ∧ otherEnabled = tlsEnabled := by
  cases h.target_follows.unique hother.target_follows
  cases h.uses_tls.unique hother.uses_tls
  refine ⟨?_, rfl⟩
  have hname := hother.names.unique h.names hid
  have htls := hother.tls_follows.unique h.tls_follows
  have hcredentials := hother.credentials_follow.unique h.credentials_follow
  have htarget := hother.target_eq.trans h.target_eq.symm
  have hpipeline := hother.pipelineName_eq.trans h.pipelineName_eq.symm
  have hgeoip := hother.geoip_eq.trans h.geoip_eq.symm
  cases connection
  cases otherConnection
  simp_all

/-! ## Other surroundings -/

/--
Of the files that options name, `there` finds sealed what `here` finds sealed, and it has a trust
store of the system if `here` has one.
-/
structure Validator.NoStricter (there here : Validator) (options : Options) : Prop where
  seals : ∀ path ∈ options.files, here.probe.Seals path → there.probe.Seals path
  trusts : here.systemTrust.isAvailable = true → there.systemTrust.isAvailable = true

theorem Trust.Follows.elsewhere {systemTrust otherTrust : SystemTrust} {mode : VerificationMode}
    {trust : Trust} (h : Trust.Follows options systemTrust mode trust)
    (htrusts : systemTrust.isAvailable = true → otherTrust.isAvailable = true) :
    Trust.Follows options otherTrust mode trust := by
  cases h with
  | unverified htruststore hpassword hauthorities =>
      exact .unverified htruststore hpassword hauthorities
  | truststore hmode htruststore hpassword hnonempty hauthorities =>
      exact .truststore hmode htruststore hpassword hnonempty hauthorities
  | certificateAuthorities hmode htruststore hpassword hauthorities hnonempty =>
      exact .certificateAuthorities hmode htruststore hpassword hauthorities hnonempty
  | system hmode htruststore hpassword hauthorities havailable =>
      exact .system hmode htruststore hpassword hauthorities (htrusts havailable)

theorem Tls.Follows.elsewhere {systemTrust otherTrust : SystemTrust} {tls : Tls}
    (h : Tls.Follows options systemTrust tlsEnabled tls)
    (htrusts : systemTrust.isAvailable = true → otherTrust.isAvailable = true) :
    Tls.Follows options otherTrust tlsEnabled tls := by
  cases h with
  | disabled hnone => exact .disabled hnone
  | enabled hmode hidentity htrust => exact .enabled hmode hidentity (htrust.elsewhere htrusts)

theorem Accepts.elsewhere (h : Accepts here random options target tlsEnabled connection)
    (hthere : there.NoStricter here options) :
    Accepts there random options target tlsEnabled connection where
  target_follows := h.target_follows
  names := h.names
  uses_tls := h.uses_tls
  tls_follows := h.tls_follows.elsewhere hthere.trusts
  files_sealed := fun path hmem => hthere.seals path hmem (h.files_sealed path hmem)
  credentials_follow := h.credentials_follow
  in_agreement := h.in_agreement
  target_eq := h.target_eq
  pipelineName_eq := h.pipelineName_eq
  geoip_eq := h.geoip_eq

/--
Surroundings decide whether options are accepted, and not what becomes of them: options with a name
give one connection with one list of advisories wherever they are accepted, and what is accepted
under one validator is accepted, with the same outcome, under every validator that is no stricter.
-/
theorem validate_elsewhere (options : Options) (here there : Validator) :
    (options.id.isSome = true → ∀ random otherRandom validated other,
      (here.validate random options).outcome = .ok validated →
        (there.validate otherRandom options).outcome = .ok other → other = validated) ∧
      (there.NoStricter here options → ∀ random validated,
        (here.validate random options).outcome = .ok validated →
          (there.validate random options).outcome = .ok validated) := by
  constructor
  · intro hid random otherRandom validated other h hother
    obtain ⟨target, tlsEnabled, haccepts, hadvisories⟩ := Validator.validate_eq_ok_iff.1 h
    obtain ⟨otherTarget, otherEnabled, haccepts', hadvisories'⟩ :=
      Validator.validate_eq_ok_iff.1 hother
    obtain ⟨hconnection, rfl⟩ := haccepts.unique haccepts' hid
    have hsame : other.advisories = validated.advisories := by
      rw [hadvisories', hconnection, hadvisories]
    cases validated
    cases other
    cases hconnection
    cases hsame
    rfl
  · intro hthere random validated h
    obtain ⟨target, tlsEnabled, haccepts, hadvisories⟩ := Validator.validate_eq_ok_iff.1 h
    exact Validator.validate_eq_ok_iff.2
      ⟨target, tlsEnabled, haccepts.elsewhere hthere, hadvisories⟩

def Options.ownAuthorities : Options where
  id := some "filter"
  hosts := some ["es1", "https://es2:9201"]
  sslEnabled := some true
  sslCertificateAuthorities := some ["/tls/root.pem", "/tls/issuing.pem"]
  apiKey := some ⟨"id:key"⟩

def Validator.ownAuthorities : Validator where
  probe := ⟨fun path => path == "/tls/root.pem" || path == "/tls/issuing.pem", fun _ => false⟩
  systemTrust := .unavailable

def Connection.ownAuthorities : Connection where
  id := "filter"
  target := .hosts [⟨some "https", "es1", some 9200, some "/"⟩,
    ⟨some "https", "es2", some 9201, some "/"⟩]
  tls := .enabled .full none (.certificateAuthorities ["/tls/root.pem", "/tls/issuing.pem"])
  credentials := .apiKey ⟨⟨"id:key"⟩⟩

theorem validate_ownAuthorities :
    (Validator.ownAuthorities.validate ⟨[]⟩ .ownAuthorities).outcome =
        .ok ⟨.ownAuthorities, []⟩ ∧
      Validator.NoStricter ⟨.sealing, .available "/etc/ssl/cert.pem"⟩ .ownAuthorities
        .ownAuthorities ∧
      (Validator.validate ⟨.sealing, .available "/etc/ssl/cert.pem"⟩ ⟨[]⟩
        .ownAuthorities).outcome = .ok ⟨.ownAuthorities, []⟩ ∧
      ∀ other, (Validator.validate ⟨.sealing, .available "/etc/ssl/cert.pem"⟩ ⟨[7]⟩
        .ownAuthorities).outcome = .ok other → other = ⟨.ownAuthorities, []⟩ := by
  have haccepted : (Validator.ownAuthorities.validate ⟨[]⟩ .ownAuthorities).outcome =
      .ok ⟨.ownAuthorities, []⟩ := by decide +kernel
  have hthere : Validator.NoStricter ⟨.sealing, .available "/etc/ssl/cert.pem"⟩ .ownAuthorities
      .ownAuthorities := ⟨by decide, by decide⟩
  obtain ⟨hsame, haccepts⟩ := validate_elsewhere .ownAuthorities .ownAuthorities
    ⟨.sealing, .available "/etc/ssl/cert.pem"⟩
  exact ⟨haccepted, hthere, haccepts hthere ⟨[]⟩ _ haccepted,
    fun other => hsame rfl ⟨[]⟩ ⟨[7]⟩ _ other haccepted⟩

end ClusterLink
