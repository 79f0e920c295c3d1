import ClusterLink.Proofs.Endpoint.Path
import ClusterLink.Proofs.Validation.Acceptance

/-!
# Consistent connections

What holds of every accepted connection, across the stages that its parts come from: the scheme of
its hosts goes with its state of TLS, its trust with its verification mode, and its files with what
was asked about them.
-/

namespace ClusterLink

variable {options : Options} {random : Uuid} {validator : Validator} {validated : Validated}
  {asked : List ProbeCall} {tlsEnabled : Bool}

/-! ## Parts -/

/-- Nothing of the endpoint is left open, its scheme goes with TLS, and its path is this one. -/
structure Endpoint.Complete (tlsEnabled : Bool) (path : String) (endpoint : Endpoint) : Prop where
  host_ne_empty : endpoint.host ≠ ""
  scheme_eq : endpoint.scheme = some (if tlsEnabled then "https" else "http")
  port_isSome : endpoint.port.isSome = true
  path_eq : endpoint.path = some path

/-- The target is hosts with one path, or a managed cluster that is reached with TLS. -/
inductive Target.Consistent (tlsEnabled : Bool) : Target → Prop
  | hosts {endpoints : List Endpoint} {path : String} (hnonempty : endpoints ≠ [])
      (hrooted : Endpoint.Rooted path)
      (hcomplete : ∀ endpoint ∈ endpoints, endpoint.Complete tlsEnabled path) :
      Target.Consistent tlsEnabled (.hosts endpoints)
  | cloudId {identifier : String} (hnonempty : identifier ≠ "") (htls : tlsEnabled = true) :
      Target.Consistent tlsEnabled (.cloudId identifier)

/-- The file was asked about, and it was found readable and not writable. -/
def Probe.Cleared (probe : Probe) (asked : List ProbeCall) (path : String) : Prop :=
  .readable path ∈ asked ∧ .writable path ∈ asked ∧
    probe.readable path = true ∧ probe.writable path = false

def Identity.files : Identity → List String
  | .certificateKey certificate key _ => [certificate, key]
  | .keystore path _ => [path]

def Identity.password : Identity → Secret
  | .certificateKey _ _ passphrase => passphrase
  | .keystore _ password => password

def Trust.files : Trust → List String
  | .truststore path _ => [path]
  | .certificateAuthorities paths => paths
  | .system => []
  | .unverified => []

/-- The identity can be used: its files are cleared and its password is not empty. -/
structure Identity.Usable (probe : Probe) (asked : List ProbeCall) (identity : Identity) :
    Prop where
  password_nonempty : identity.password.isEmpty = false
  files_cleared : ∀ path ∈ identity.files, probe.Cleared asked path

/-- The trust goes with the verification mode and with the trust that the system has. -/
structure Trust.Consistent (validator : Validator) (asked : List ProbeCall)
    (mode : VerificationMode) (trust : Trust) : Prop where
  unverified_iff : trust = .unverified ↔ mode = .none
  system_available : trust = .system → validator.systemTrust.isAvailable = true
  authorities_nonempty : ∀ paths, trust = .certificateAuthorities paths → paths ≠ []
  password_nonempty : ∀ path password, trust = .truststore path password →
    password.isEmpty = false
  files_cleared : ∀ path ∈ trust.files, validator.probe.Cleared asked path

/-- The state of TLS is consistent if there is none, or if identity and trust are. -/
inductive Tls.Consistent (validator : Validator) (asked : List ProbeCall) : Tls → Prop
  | disabled : Tls.Consistent validator asked .disabled
  | enabled {mode : VerificationMode} {identity : Option Identity} {trust : Trust}
      (hidentity : ∀ found ∈ identity, found.Usable validator.probe asked)
      (htrust : trust.Consistent validator asked mode) :
      Tls.Consistent validator asked (.enabled mode identity trust)

def Credentials.Complete : Credentials → Prop
  | .none => True
  | .basic username password => username ≠ "" ∧ password.isEmpty = false
  | .apiKey key => key.value.isEmpty = false
  | .cloudAuth credentials => credentials.username ≠ "" ∧ credentials.password.isEmpty = false

structure Connection.Consistent (validator : Validator) (asked : List ProbeCall)
    (connection : Connection) : Prop where
  id_ne_empty : connection.id ≠ ""
  target : connection.target.Consistent connection.tls.isEnabled
  tls : connection.tls.Consistent validator asked
  credentials : connection.credentials.Complete

/-! ## Consistency of accepted parts -/

/-- Without TLS no managed cluster can be named. -/
theorem Tls.Follows.cloudId_eq_none {systemTrust : SystemTrust} {tls : Tls}
    (h : Tls.Follows options systemTrust false tls) : options.cloudId = none := by
  cases h with
  | disabled hnone =>
      have hcloudId := hnone .cloudId (by decide)
      simpa [Options.value?] using hcloudId

theorem Endpoint.Agrees.complete {text path : String} {endpoint : Endpoint}
    (hread : Endpoint.read text = .ok endpoint) (h : endpoint.Agrees tlsEnabled path) :
    (endpoint.settled tlsEnabled).Complete tlsEnabled path where
  host_ne_empty := show endpoint.host ≠ "" from Endpoint.host_ne_empty_of_read hread
  scheme_eq := rfl
  port_isSome := rfl
  path_eq := congrArg some h.path_eq

theorem Target.Follows.consistent {systemTrust : SystemTrust} {target : Target} {tls : Tls}
    (htarget : Target.Follows options target)
    (htls : Tls.Follows options systemTrust tlsEnabled tls)
    (hagree : target.InAgreement tlsEnabled) :
    (target.settled tlsEnabled).Consistent tlsEnabled := by
  cases htarget with
  | @hosts texts endpoints hhosts hcloudId hnonempty hread =>
      obtain ⟨path, hpath⟩ := hagree
      have hsource : ∀ endpoint ∈ endpoints, ∃ text, Endpoint.read text = .ok endpoint := by
        intro endpoint hmem
        obtain ⟨text, -, htext⟩ := exists_mem_of_forall₂ hread hmem
        exact ⟨text, htext⟩
      cases endpoints with
      | nil =>
          cases hread
          exact absurd rfl hnonempty
      | cons first rest =>
          obtain ⟨text, htext⟩ := hsource first List.mem_cons_self
          have hrooted : Endpoint.Rooted path := by
            rw [← (hpath first List.mem_cons_self).path_eq]
            exact Endpoint.rooted_pathOrRoot htext
          refine .hosts (List.cons_ne_nil _ _) hrooted ?_
          intro settled hmem
          obtain ⟨endpoint, hendpoint, rfl⟩ := List.mem_map.1 hmem
          obtain ⟨text, htext⟩ := hsource endpoint hendpoint
          exact (hpath endpoint hendpoint).complete htext
  | cloudId hhosts hcloudId hnonempty =>
      refine .cloudId hnonempty ?_
      cases tlsEnabled with
      | true => rfl
      | false =>
          -- `cloud_id` is itself an option that needs TLS.
          have habsent := htls.cloudId_eq_none
          rw [hcloudId] at habsent
          cases habsent

theorem Identity.Follows.usable {probe : Probe} {identity : Option Identity}
    (h : Identity.Follows options identity)
    (hcleared : ∀ path ∈ Identity.filesOf options, probe.Cleared asked path) :
    ∀ found ∈ identity, found.Usable probe asked := by
  cases h with
  | absent => simp
  | certificateKey hcertificate hkey hpassphrase hnonempty hkeystore hpassword =>
      rintro _ ⟨⟩
      refine ⟨hnonempty, fun path hmem => hcleared path ?_⟩
      simpa [Identity.filesOf, Identity.files, hcertificate, hkey, hkeystore] using hmem
  | keystore hcertificate hkey hpassphrase hkeystore hpassword hnonempty =>
      rintro _ ⟨⟩
      refine ⟨hnonempty, fun path hmem => hcleared path ?_⟩
      simpa [Identity.filesOf, Identity.files, hcertificate, hkey, hkeystore] using hmem

theorem Trust.Follows.consistent {mode : VerificationMode} {trust : Trust}
    (h : Trust.Follows options validator.systemTrust mode trust)
    (hcleared : ∀ path ∈ Trust.filesOf options, validator.probe.Cleared asked path) :
    trust.Consistent validator asked mode := by
  have hfiles : ∀ path ∈ trust.files, validator.probe.Cleared asked path := by
    intro path hmem
    apply hcleared path
    cases h <;> simp_all [Trust.files, Trust.filesOf]
  cases h with
  | unverified => exact ⟨by simp, by simp, by simp, by simp, hfiles⟩
  | truststore hmode _ _ hnonempty =>
      refine ⟨by simp [hmode], by simp, by simp, ?_, hfiles⟩
      rintro _ _ ⟨⟩
      exact hnonempty
  | certificateAuthorities hmode _ _ _ hnonempty =>
      refine ⟨by simp [hmode], by simp, ?_, by simp, hfiles⟩
      rintro _ ⟨⟩
      exact hnonempty
  | system hmode _ _ _ havailable =>
      exact ⟨by simp [hmode], fun _ => havailable, by simp, by simp, hfiles⟩

theorem Credentials.Follows.complete {credentials : Credentials}
    (h : Credentials.Follows options credentials) : credentials.Complete := by
  cases h with
  | none => trivial
  | basic _ _ hnamed hnonempty => exact ⟨hnamed, hnonempty⟩
  | apiKey _ _ _ hnonempty => exact hnonempty
  | cloudAuth _ _ _ _ hspells => exact ⟨hspells.2.2.1, hspells.2.2.2⟩

/-! ## Consistency of accepted connections -/

/-- The files that accepted options name were asked about and found sealed. -/
theorem cleared_of_validate
    (h : (validator.validate random options).outcome = .ok validated) :
    ∀ path ∈ options.files,
      validator.probe.Cleared (validator.validate random options).probes path := by
  obtain ⟨target, tlsEnabled, haccepts, -⟩ := Validator.validate_eq_ok_iff.1 h
  have hasked := (Validator.asks_validate validator random options).complete _ h
  intro path hmem
  rw [hasked]
  have hreadable : ProbeCall.readable path ∈ Probe.questions options.files :=
    List.mem_flatMap.2 ⟨path, hmem, by simp⟩
  have hwritable : ProbeCall.writable path ∈ Probe.questions options.files :=
    List.mem_flatMap.2 ⟨path, hmem, by simp⟩
  exact ⟨hreadable, hwritable, haccepts.files_sealed path hmem⟩

/-- Whatever is asked of the surroundings, an accepted connection is consistent. -/
theorem consistent_of_validate
    (h : (validator.validate random options).outcome = .ok validated) :
    validated.connection.Consistent validator (validator.validate random options).probes := by
  have hcleared := cleared_of_validate h
  obtain ⟨target, tlsEnabled, haccepts, -⟩ := Validator.validate_eq_ok_iff.1 h
  have henabled := haccepts.tls_follows.isEnabled_eq
  refine ⟨haccepts.names.ne_empty, ?_, ?_, haccepts.credentials_follow.complete⟩
  · rw [haccepts.target_eq, henabled]
    exact haccepts.target_follows.consistent haccepts.tls_follows haccepts.in_agreement
  · rw [Tls.files_eq, List.forall_mem_append] at hcleared
    have htls := haccepts.tls_follows
    cases tlsEnabled with
    | false =>
        generalize validated.connection.tls = tls at htls
        cases htls
        exact .disabled
    | true =>
        generalize validated.connection.tls = tls at htls
        cases htls with
        | enabled hmode hidentity htrust =>
            exact .enabled (hidentity.usable hcleared.1) (htrust.consistent hcleared.2)

def Options.sealedHosts : Options where
  id := some "filter"
  hosts := some ["es1", "HTTPS://es2:9201/"]
  sslEnabled := some true
  sslCertificate := some "/tls/node.crt"
  sslKey := some "/tls/node.key"
  sslKeyPassphrase := some ⟨"open"⟩
  sslTruststorePath := some "/tls/trust.jks"
  sslTruststorePassword := some ⟨"trusted"⟩
  username := some "elastic"
  password := some ⟨"changeme"⟩

def Connection.sealedHosts : Connection where
  id := "filter"
  target := .hosts [⟨some "https", "es1", some 9200, some "/"⟩,
    ⟨some "https", "es2", some 9201, some "/"⟩]
  tls := .enabled .full (some (.certificateKey "/tls/node.crt" "/tls/node.key" ⟨"open"⟩))
    (.truststore "/tls/trust.jks" ⟨"trusted"⟩)
  credentials := .basic "elastic" ⟨"changeme"⟩

theorem consistent_sealedHosts :
    (Validator.validate ⟨.sealing, .unavailable⟩ ⟨[]⟩ .sealedHosts).outcome =
        .ok ⟨.sealedHosts, []⟩ ∧
      Connection.sealedHosts.Consistent ⟨.sealing, .unavailable⟩
        (Validator.validate ⟨.sealing, .unavailable⟩ ⟨[]⟩ .sealedHosts).probes := by
  have haccepted : (Validator.validate ⟨.sealing, .unavailable⟩ ⟨[]⟩ .sealedHosts).outcome =
      .ok ⟨.sealedHosts, []⟩ := by decide +kernel
  exact ⟨haccepted, consistent_of_validate haccepted⟩

end ClusterLink
