import ClusterLink.Proofs.Endpoint.Path
import ClusterLink.Proofs.Validation.Acceptance

/-!
# Preservation of options

A connection keeps every option that it is made from: each part of it is the value of one option,
and is missing where the option is not given. Only hosts, the switch for TLS and the verification
mode may be written in several ways, so options that give one connection differ at most in these.
-/

namespace ClusterLink

variable {options other : Options} {random : Uuid} {validator : Validator} {validated : Validated}
  {tlsEnabled : Bool}

/-! ## Parts of a connection -/

namespace Identity

def certificate? : Identity → Option String
  | .certificateKey certificate _ _ => some certificate
  | .keystore _ _ => none

def key? : Identity → Option String
  | .certificateKey _ key _ => some key
  | .keystore _ _ => none

def passphrase? : Identity → Option Secret
  | .certificateKey _ _ passphrase => some passphrase
  | .keystore _ _ => none

def keystorePath? : Identity → Option String
  | .certificateKey _ _ _ => none
  | .keystore path _ => some path

def keystorePassword? : Identity → Option Secret
  | .certificateKey _ _ _ => none
  | .keystore _ password => some password

end Identity

namespace Trust

def truststorePath? : Trust → Option String
  | .truststore path _ => some path
  | .certificateAuthorities _ | .system | .unverified => none

def truststorePassword? : Trust → Option Secret
  | .truststore _ password => some password
  | .certificateAuthorities _ | .system | .unverified => none

def authorities? : Trust → Option (List String)
  | .certificateAuthorities paths => some paths
  | .truststore _ _ | .system | .unverified => none

end Trust

namespace Tls

def identity? : Tls → Option Identity
  | .disabled => none
  | .enabled _ identity _ => identity

def trust? : Tls → Option Trust
  | .disabled => none
  | .enabled _ _ trust => some trust

end Tls

namespace Credentials

def username? : Credentials → Option String
  | .basic username _ => some username
  | .none | .apiKey _ | .cloudAuth _ => Option.none

def password? : Credentials → Option Secret
  | .basic _ password => some password
  | .none | .apiKey _ | .cloudAuth _ => Option.none

def apiKey? : Credentials → Option Secret
  | .apiKey key => some key.value
  | .none | .basic _ _ | .cloudAuth _ => Option.none

def cloudAuth? : Credentials → Option Secret
  | .cloudAuth found => some ⟨found.username ++ ":" ++ found.password.expose⟩
  | .none | .basic _ _ | .apiKey _ => Option.none

end Credentials

/-- The part of a connection that keeps the value of an option. -/
def Connection.part? (connection : Connection) : OptionKey → Option OptionValue
  | .id => some (.text connection.id)
  | .hosts => connection.target.hosts?.map fun endpoints => .texts (endpoints.map Endpoint.text)
  | .cloudId => connection.target.cloudId?.map .text
  | .sslEnabled => some (.flag connection.tls.isEnabled)
  | .sslVerificationMode => connection.tls.mode?.map fun mode => .text mode.name
  | .sslCertificate => (connection.tls.identity?.bind Identity.certificate?).map .text
  | .sslKey => (connection.tls.identity?.bind Identity.key?).map .text
  | .sslKeyPassphrase => (connection.tls.identity?.bind Identity.passphrase?).map .secret
  | .sslKeystorePath => (connection.tls.identity?.bind Identity.keystorePath?).map .text
  | .sslKeystorePassword => (connection.tls.identity?.bind Identity.keystorePassword?).map .secret
  | .sslTruststorePath => (connection.tls.trust?.bind Trust.truststorePath?).map .text
  | .sslTruststorePassword => (connection.tls.trust?.bind Trust.truststorePassword?).map .secret
  | .sslCertificateAuthorities => (connection.tls.trust?.bind Trust.authorities?).map .texts
  | .username => connection.credentials.username?.map .text
  | .password => connection.credentials.password?.map .secret
  | .cloudAuth => connection.credentials.cloudAuth?.map .secret
  | .apiKey => connection.credentials.apiKey?.map .secret
  | .geoipDatabaseDirectory => connection.geoipDatabaseDirectory.map .text
  | .pipelineName => connection.pipelineName.map .text

/-- The options that may be written in several ways with one meaning. -/
def OptionKey.respelled : List OptionKey := [.hosts, .sslEnabled, .sslVerificationMode]

/-- The endpoint is what this text says of a host, and defaults for what it does not say. -/
def Endpoint.Keeps (tlsEnabled : Bool) (text : String) (endpoint : Endpoint) : Prop :=
  ∃ parsed, Endpoint.read text = .ok parsed ∧ endpoint.host = parsed.host ∧
    endpoint.port = some (parsed.port.getD 9200) ∧ endpoint.path = some (parsed.path.getD "/") ∧
    endpoint.scheme = some (if tlsEnabled then "https" else "http") ∧
    ∀ scheme ∈ parsed.scheme, endpoint.scheme = some scheme

/-- The connection keeps every option, and has nothing that no option gives but defaults. -/
structure Connection.Keeps (connection : Connection) (options : Options) : Prop where
  verbatim : ∀ key ∉ OptionKey.respelled, connection.part? key = options.value? key
  hosts : Option.Rel (List.Forall₂ (Endpoint.Keeps connection.tls.isEnabled)) options.hosts
    connection.target.hosts?
  sslEnabled : ∀ enabled ∈ options.sslEnabled, connection.tls.isEnabled = enabled
  mode : ∀ text ∈ options.sslVerificationMode,
    ∃ mode, connection.tls.mode? = some mode ∧ mode.Spells text
  mode_default : options.sslVerificationMode = none → ∀ mode ∈ connection.tls.mode?, mode = .full

/-- Two texts that name the same host, port and path, and no different schemes. -/
def Endpoint.SameHost (text other : String) : Prop :=
  ∃ first second, Endpoint.read text = .ok first ∧ Endpoint.read other = .ok second ∧
    first.host = second.host ∧ first.port.getD 9200 = second.port.getD 9200 ∧
    first.path.getD "/" = second.path.getD "/" ∧
    ∀ scheme ∈ first.scheme, ∀ otherScheme ∈ second.scheme, scheme = otherScheme

/-- Options that differ in nothing but the way in which they are written. -/
structure Options.SameMeaning (options other : Options) : Prop where
  verbatim : ∀ key ∉ OptionKey.respelled, options.value? key = other.value? key
  hosts : Option.Rel (List.Forall₂ Endpoint.SameHost) options.hosts other.hosts
  sslEnabled : ∀ enabled ∈ options.sslEnabled, ∀ otherEnabled ∈ other.sslEnabled,
    enabled = otherEnabled
  mode : ∀ mode : VerificationMode, options.Verifies mode ↔ other.Verifies mode

/-! ## What the rules keep -/

theorem Identity.Follows.parts {identity : Option Identity}
    (h : Identity.Follows options identity) :
    identity.bind certificate? = options.sslCertificate ∧
      identity.bind key? = options.sslKey ∧
      identity.bind passphrase? = options.sslKeyPassphrase ∧
      identity.bind keystorePath? = options.sslKeystorePath ∧
      identity.bind keystorePassword? = options.sslKeystorePassword := by
  cases h <;>
    simp [certificate?, key?, passphrase?, keystorePath?, keystorePassword?, *]

theorem Trust.Follows.parts {systemTrust : SystemTrust} {mode : VerificationMode} {trust : Trust}
    (h : Trust.Follows options systemTrust mode trust) :
    trust.truststorePath? = options.sslTruststorePath ∧
      trust.truststorePassword? = options.sslTruststorePassword ∧
      trust.authorities? = options.sslCertificateAuthorities := by
  cases h <;> simp [truststorePath?, truststorePassword?, authorities?, *]

theorem Credentials.Follows.parts {credentials : Credentials}
    (h : Credentials.Follows options credentials) :
    credentials.username? = options.username ∧ credentials.password? = options.password ∧
      credentials.apiKey? = options.apiKey ∧ credentials.cloudAuth? = options.cloudAuth := by
  cases h with
  | none => simp [username?, password?, apiKey?, cloudAuth?, *]
  | basic => simp [username?, password?, apiKey?, cloudAuth?, *]
  | apiKey => simp [username?, password?, apiKey?, cloudAuth?, *]
  | cloudAuth husername hpassword hapiKey hcloudAuth hspells =>
      refine ⟨husername.symm, hpassword.symm, hapiKey.symm, ?_⟩
      rw [hcloudAuth, cloudAuth?, ← hspells.1]

theorem Tls.Follows.identity_parts {systemTrust : SystemTrust} {tls : Tls}
    (h : Tls.Follows options systemTrust tlsEnabled tls) :
    tls.identity?.bind Identity.certificate? = options.sslCertificate ∧
      tls.identity?.bind Identity.key? = options.sslKey ∧
      tls.identity?.bind Identity.passphrase? = options.sslKeyPassphrase ∧
      tls.identity?.bind Identity.keystorePath? = options.sslKeystorePath ∧
      tls.identity?.bind Identity.keystorePassword? = options.sslKeystorePassword := by
  cases h with
  | disabled hnone =>
      have hcertificate := hnone .sslCertificate (by decide)
      have hkey := hnone .sslKey (by decide)
      have hpassphrase := hnone .sslKeyPassphrase (by decide)
      have hkeystore := hnone .sslKeystorePath (by decide)
      have hpassword := hnone .sslKeystorePassword (by decide)
      simp only [Options.value?, Option.map_eq_none_iff] at *
      simp [identity?, *]
  | enabled hmode hidentity htrust => exact hidentity.parts

theorem Tls.Follows.trust_parts {systemTrust : SystemTrust} {tls : Tls}
    (h : Tls.Follows options systemTrust tlsEnabled tls) :
    tls.trust?.bind Trust.truststorePath? = options.sslTruststorePath ∧
      tls.trust?.bind Trust.truststorePassword? = options.sslTruststorePassword ∧
      tls.trust?.bind Trust.authorities? = options.sslCertificateAuthorities := by
  cases h with
  | disabled hnone =>
      have htruststore := hnone .sslTruststorePath (by decide)
      have hpassword := hnone .sslTruststorePassword (by decide)
      have hauthorities := hnone .sslCertificateAuthorities (by decide)
      simp only [Options.value?, Option.map_eq_none_iff] at *
      simp [trust?, *]
  | enabled hmode hidentity htrust => exact htrust.parts

theorem Tls.Follows.mode_spelled {systemTrust : SystemTrust} {tls : Tls} {text : String}
    (h : Tls.Follows options systemTrust tlsEnabled tls)
    (htext : options.sslVerificationMode = some text) :
    ∃ mode, tls.mode? = some mode ∧ mode.Spells text := by
  cases h with
  | disabled hnone =>
      have hmode := hnone .sslVerificationMode (by decide)
      simp [Options.value?, htext] at hmode
  | enabled hmode hidentity htrust =>
      rcases hmode with ⟨given, hgiven, hspells⟩ | ⟨hmissing, -⟩
      · rw [htext] at hgiven
        cases hgiven
        exact ⟨_, rfl, hspells⟩
      · rw [htext] at hmissing
        cases hmissing

theorem Tls.Follows.mode_default {systemTrust : SystemTrust} {tls : Tls}
    (h : Tls.Follows options systemTrust tlsEnabled tls)
    (hmissing : options.sslVerificationMode = none) : ∀ mode ∈ tls.mode?, mode = .full := by
  intro mode hmode
  cases h with
  | disabled hnone => cases hmode
  | enabled hverifies hidentity htrust =>
      cases hmode
      rcases hverifies with ⟨text, htext, -⟩ | ⟨-, hfull⟩
      · rw [hmissing] at htext
        cases htext
      · exact hfull

theorem Target.Follows.cloudId_eq {target : Target} (h : Target.Follows options target) :
    (target.settled tlsEnabled).cloudId? = options.cloudId := by
  cases h <;> simp [settled, cloudId?, *]

/-- A host in agreement keeps what its text says. -/
theorem Endpoint.Agrees.keeps {text path : String} {endpoint : Endpoint}
    (hread : Endpoint.read text = .ok endpoint) (h : endpoint.Agrees tlsEnabled path) :
    Endpoint.Keeps tlsEnabled text (endpoint.settled tlsEnabled) := by
  refine ⟨endpoint, hread, rfl, rfl, ?_, rfl, ?_⟩
  · exact congrArg some (pathOrRoot_of_read hread)
  · intro scheme hscheme
    rw [h.scheme_eq scheme hscheme]
    rfl

theorem keeps_of_read {texts : List String} {endpoints : List Endpoint}
    (hread : List.Forall₂ (fun text endpoint => Endpoint.read text = .ok endpoint) texts endpoints)
    (hagree : Endpoint.InAgreement tlsEnabled endpoints) :
    List.Forall₂ (Endpoint.Keeps tlsEnabled) texts
      (endpoints.map (Endpoint.settled tlsEnabled)) := by
  -- All hosts share one path, so it is fixed before the induction.
  obtain ⟨path, hpath⟩ := hagree
  induction hread with
  | nil => exact .nil
  | cons hfirst _ ih =>
      rw [List.forall_mem_cons] at hpath
      exact .cons (hpath.1.keeps hfirst) (ih hpath.2)

theorem Target.Follows.hosts_kept {target : Target} (h : Target.Follows options target)
    (hagree : target.InAgreement tlsEnabled) :
    Option.Rel (List.Forall₂ (Endpoint.Keeps tlsEnabled)) options.hosts
      (target.settled tlsEnabled).hosts? := by
  cases h with
  | hosts hhosts hcloudId hnonempty hread =>
      rw [hhosts]
      exact .some (keeps_of_read hread hagree)
  | cloudId hhosts hcloudId hnonempty =>
      rw [hhosts]
      exact .none

/-! ## What a connection keeps -/

variable {target : Target} {connection : Connection}

theorem Accepts.part_eq (h : Accepts validator random options target tlsEnabled connection)
    (hid : options.id.isSome = true) :
    ∀ key ∉ OptionKey.respelled, connection.part? key = options.value? key := by
  have hname : options.id = some connection.id := by
    rcases h.names with ⟨hgiven, -⟩ | ⟨hmissing, -⟩
    · exact hgiven
    · rw [hmissing] at hid
      cases hid
  have hcloudId : connection.target.cloudId? = options.cloudId := by
    rw [h.target_eq]
    exact h.target_follows.cloudId_eq
  obtain ⟨hcertificate, hkey, hpassphrase, hkeystore, hkeystorePassword⟩ :=
    h.tls_follows.identity_parts
  obtain ⟨htruststore, htruststorePassword, hauthorities⟩ := h.tls_follows.trust_parts
  obtain ⟨husername, hpassword, hapiKey, hcloudAuth⟩ := h.credentials_follow.parts
  have hpipeline := h.pipelineName_eq
  have hgeoip := h.geoip_eq
  intro key hplain
  cases key <;> first
    | exact absurd (by decide) hplain
    | simp only [Connection.part?, Options.value?, Option.map_some, *]

theorem Accepts.keeps (h : Accepts validator random options target tlsEnabled connection)
    (hid : options.id.isSome = true) : connection.Keeps options := by
  have henabled := h.tls_follows.isEnabled_eq
  refine ⟨h.part_eq hid, ?_, ?_, fun text htext => h.tls_follows.mode_spelled htext,
    h.tls_follows.mode_default⟩
  · rw [h.target_eq, henabled]
    exact h.target_follows.hosts_kept h.in_agreement
  · intro enabled hgiven
    rw [henabled]
    rcases h.uses_tls with hsome | ⟨hnone, -⟩
    · rw [hgiven] at hsome
      cases hsome
      rfl
    · rw [hgiven] at hnone
      cases hnone

theorem Connection.Keeps.verifies (h : connection.Keeps options) :
    options.Verifies (connection.tls.mode?.getD .full) := by
  cases htext : options.sslVerificationMode with
  | none =>
      refine .inr ⟨htext, ?_⟩
      cases hmode : connection.tls.mode? with
      | none => rfl
      | some mode => exact h.mode_default htext mode hmode
  | some text =>
      obtain ⟨mode, hmode, hspells⟩ := h.mode text htext
      rw [hmode]
      exact .inl ⟨text, htext, hspells⟩

/-- Two texts that one endpoint keeps name one host. -/
theorem Endpoint.Keeps.sameHost {text otherText : String} {endpoint : Endpoint}
    (h : endpoint.Keeps tlsEnabled text) (hother : endpoint.Keeps tlsEnabled otherText) :
    Endpoint.SameHost text otherText := by
  obtain ⟨first, hfirst, hhost, hport, hpath, -, hscheme⟩ := h
  obtain ⟨second, hsecond, hhost', hport', hpath', -, hscheme'⟩ := hother
  refine ⟨first, second, hfirst, hsecond, hhost.symm.trans hhost', ?_, ?_, ?_⟩
  · exact Option.some.inj (hport.symm.trans hport')
  · exact Option.some.inj (hpath.symm.trans hpath')
  · intro scheme hmem otherScheme hmem'
    exact Option.some.inj ((hscheme scheme hmem).symm.trans (hscheme' otherScheme hmem'))

theorem sameHost_of_keeps {texts otherTexts : List String} {endpoints : List Endpoint}
    (h : List.Forall₂ (Endpoint.Keeps tlsEnabled) texts endpoints)
    (hother : List.Forall₂ (Endpoint.Keeps tlsEnabled) otherTexts endpoints) :
    List.Forall₂ Endpoint.SameHost texts otherTexts := by
  induction h generalizing otherTexts with
  | nil =>
      cases hother
      exact .nil
  | cons hfirst _ ih =>
      cases hother with
      | cons hfirst' hrest => exact .cons (hfirst.sameHost hfirst') (ih hrest)

/-- Options that one connection keeps mean the same. -/
theorem Connection.Keeps.sameMeaning (h : connection.Keeps options)
    (hother : connection.Keeps other) : options.SameMeaning other where
  verbatim key hplain := (h.verbatim key hplain).symm.trans (hother.verbatim key hplain)
  hosts := by
    have hhosts := h.hosts
    have hotherHosts := hother.hosts
    generalize options.hosts = texts, other.hosts = otherTexts,
      connection.target.hosts? = endpoints at hhosts hotherHosts
    cases hhosts with
    | none =>
        cases hotherHosts
        exact .none
    | some hkept =>
        cases hotherHosts with
        | some hotherKept => exact .some (sameHost_of_keeps hkept hotherKept)
  sslEnabled enabled hgiven otherEnabled hotherGiven :=
    (h.sslEnabled enabled hgiven).symm.trans (hother.sslEnabled otherEnabled hotherGiven)
  mode mode := by
    constructor
    · intro hverifies
      rw [hverifies.unique h.verifies]
      exact hother.verifies
    · intro hverifies
      rw [hverifies.unique hother.verifies]
      exact h.verifies

/--
A connection keeps every option of a named filter and has nothing else but defaults, so options that
give the same connection differ only in the way in which they are written.
-/
theorem keeps_of_validate (hid : options.id.isSome = true)
    (h : (validator.validate random options).outcome = .ok validated) :
    validated.connection.Keeps options ∧
      ∀ (otherValidator : Validator) (otherRandom : Uuid) (other : Options)
        (otherValidated : Validated), other.id.isSome = true →
        (otherValidator.validate otherRandom other).outcome = .ok otherValidated →
        otherValidated.connection = validated.connection → options.SameMeaning other := by
  obtain ⟨target, tlsEnabled, haccepts, -⟩ := Validator.validate_eq_ok_iff.1 h
  have hkeeps := haccepts.keeps hid
  refine ⟨hkeeps, ?_⟩
  intro otherValidator otherRandom other otherValidated hotherId hother hsame
  obtain ⟨otherTarget, otherTls, hotherAccepts, -⟩ := Validator.validate_eq_ok_iff.1 hother
  have hotherKeeps := hotherAccepts.keeps hotherId
  rw [hsame] at hotherKeeps
  exact hkeeps.sameMeaning hotherKeeps

def Options.namedFilter : Options where
  id := some "filter"
  hosts := some ["HTTPS://es1/base", "https://es2:9201/base"]
  sslVerificationMode := some "Certificate"
  sslKeystorePath := some "/tls/node.p12"
  sslKeystorePassword := some ⟨"open"⟩
  sslCertificateAuthorities := some ["/tls/second.pem", "/tls/first.pem"]
  cloudAuth := some ⟨"elastic:change:me"⟩
  geoipDatabaseDirectory := some "/geoip"
  pipelineName := some "main"

def Connection.namedFilter : Connection where
  id := "filter"
  target := .hosts [⟨some "https", "es1", some 9200, some "/base"⟩,
    ⟨some "https", "es2", some 9201, some "/base"⟩]
  tls := .enabled .certificate (some (.keystore "/tls/node.p12" ⟨"open"⟩))
    (.certificateAuthorities ["/tls/second.pem", "/tls/first.pem"])
  credentials := .cloudAuth ⟨"elastic", ⟨"change:me"⟩⟩
  pipelineName := some "main"
  geoipDatabaseDirectory := some "/geoip"

theorem keeps_namedFilter :
    Options.namedFilter.id.isSome = true ∧
      (Validator.validate ⟨.sealing, .unavailable⟩ ⟨[]⟩ .namedFilter).outcome =
        .ok ⟨.namedFilter, []⟩ ∧
      Connection.namedFilter.Keeps .namedFilter := by
  have haccepted : (Validator.validate ⟨.sealing, .unavailable⟩ ⟨[]⟩ .namedFilter).outcome =
      .ok ⟨.namedFilter, []⟩ := by decide +kernel
  exact ⟨rfl, haccepted, (keeps_of_validate rfl haccepted).1⟩

end ClusterLink
