import ClusterLink.Proofs.Access
import ClusterLink.Proofs.Options
import ClusterLink.Tls

/-!
# Rules of TLS options

Which combinations of options are complete, and what each of them gives. TLS is settled exactly
when the options follow the rules and every file that they name is sealed; then both questions have
been asked about each of these files, in order, and nothing else has been asked.
-/

namespace ClusterLink

variable {options : Options} {probe : Probe} {systemTrust : SystemTrust} {done : Unit}

/-! ## Verification mode -/

namespace VerificationMode

variable {mode : VerificationMode} {text : String}

def Spells (mode : VerificationMode) (text : String) : Prop :=
  text.toList.map Char.toLower = mode.name.toList

theorem ofText_eq_ok_iff : ofText text = .ok mode ↔ mode.Spells text := by
  unfold ofText Spells
  generalize text.toList.map Char.toLower = lower
  by_cases hfull : lower = "full".toList
  · rw [if_pos hfull, hfull]
    cases mode <;> decide
  by_cases hcertificate : lower = "certificate".toList
  · rw [if_neg hfull, if_pos hcertificate, hcertificate]
    cases mode <;> decide
  by_cases hnone : lower = "none".toList
  · rw [if_neg hfull, if_neg hcertificate, if_pos hnone, hnone]
    cases mode <;> decide
  · rw [if_neg hfull, if_neg hcertificate, if_neg hnone]
    cases mode <;> simp only [reduceCtorEq, name, hfull, hcertificate, hnone]

theorem ofText_eq_error {violation : Violation} (h : ofText text = .error violation) :
    violation = .invalidVerificationMode text := by
  unfold ofText at h
  dsimp only at h
  split at h
  · cases h
  split at h
  · cases h
  split at h
  · cases h
  · cases h
    rfl

end VerificationMode

/-- How strictly options have the server verified: as they spell it, or else in full. -/
def Options.Verifies (options : Options) (mode : VerificationMode) : Prop :=
  (∃ text, options.sslVerificationMode = some text ∧ mode.Spells text) ∨
    options.sslVerificationMode = none ∧ mode = .full

theorem Tls.modeOf_eq_ok_iff {mode : VerificationMode} :
    Tls.modeOf options = .ok mode ↔ options.Verifies mode := by
  unfold Tls.modeOf Options.Verifies
  cases options.sslVerificationMode with
  | none => simp [eq_comm]
  | some text => simp [VerificationMode.ofText_eq_ok_iff]

theorem Options.Verifies.unique {mode other : VerificationMode} (h : options.Verifies mode)
    (hother : options.Verifies other) : mode = other := by
  rw [← Tls.modeOf_eq_ok_iff] at h hother
  simpa [h] using hother

/-! ## Identity -/

namespace Identity

/-- The combinations of options for the identity, each with the identity that it gives. -/
inductive Follows (options : Options) : Option Identity → Prop
  | absent (hcertificate : options.sslCertificate = none) (hkey : options.sslKey = none)
      (hpassphrase : options.sslKeyPassphrase = none) (hkeystore : options.sslKeystorePath = none)
      (hpassword : options.sslKeystorePassword = none) : Follows options none
  | certificateKey {certificate key : String} {passphrase : Secret}
      (hcertificate : options.sslCertificate = some certificate)
      (hkey : options.sslKey = some key) (hpassphrase : options.sslKeyPassphrase = some passphrase)
      (hnonempty : passphrase.isEmpty = false) (hkeystore : options.sslKeystorePath = none)
      (hpassword : options.sslKeystorePassword = none) :
      Follows options (some (.certificateKey certificate key passphrase))
  | keystore {path : String} {password : Secret}
      (hcertificate : options.sslCertificate = none) (hkey : options.sslKey = none)
      (hpassphrase : options.sslKeyPassphrase = none)
      (hkeystore : options.sslKeystorePath = some path)
      (hpassword : options.sslKeystorePassword = some password)
      (hnonempty : password.isEmpty = false) : Follows options (some (.keystore path password))

def filesOf (options : Options) : List String :=
  options.sslCertificate.toList ++ options.sslKey.toList ++ options.sslKeystorePath.toList

theorem checkCertificate_eq_ok :
    (checkCertificate options probe).outcome = .ok done ↔
      ∀ certificate ∈ options.sslCertificate, options.sslKey.isSome ∧ probe.Seals certificate := by
  unfold checkCertificate
  cases options.sslCertificate <;> cases options.sslKey <;> simp

theorem checkKey_eq_ok :
    (checkKey options probe).outcome = .ok done ↔
      ∀ key ∈ options.sslKey, options.sslCertificate.isSome ∧ options.sslKeyPassphrase.isSome ∧
        probe.Seals key := by
  unfold checkKey
  cases options.sslKey <;> cases options.sslCertificate <;> cases options.sslKeyPassphrase <;> simp

theorem checkPassphrase_eq_ok :
    checkPassphrase options = .ok done ↔
      ∀ passphrase ∈ options.sslKeyPassphrase,
        options.sslKey.isSome ∧ passphrase.isEmpty = false := by
  unfold checkPassphrase
  cases options.sslKeyPassphrase <;> cases options.sslKey <;> simp

theorem checkKeystorePassword_eq_ok :
    checkKeystorePassword options = .ok done ↔
      options.sslKeystorePath.isSome = options.sslKeystorePassword.isSome ∧
        ∀ password ∈ options.sslKeystorePassword, password.isEmpty = false := by
  unfold checkKeystorePassword
  cases options.sslKeystorePath <;> cases options.sslKeystorePassword <;> simp

theorem checkKeystore_eq_ok :
    (checkKeystore options probe).outcome = .ok done ↔
      ∀ path ∈ options.sslKeystorePath, probe.Seals path := by
  unfold checkKeystore
  cases options.sslKeystorePath <;> simp

/-- Options that pass all checks follow a rule, since no check lets a part stand without the rest. -/
theorem follows_of_checked
    (hboth : ¬ (options.sslCertificate.isSome && options.sslKeystorePath.isSome) = true)
    (hcertificate : ∀ certificate ∈ options.sslCertificate, options.sslKey.isSome = true)
    (hkey : ∀ key ∈ options.sslKey,
      options.sslCertificate.isSome = true ∧ options.sslKeyPassphrase.isSome = true)
    (hpassphrase : ∀ passphrase ∈ options.sslKeyPassphrase,
      options.sslKey.isSome = true ∧ passphrase.isEmpty = false)
    (hkeystore : options.sslKeystorePath.isSome = options.sslKeystorePassword.isSome)
    (hpassword : ∀ password ∈ options.sslKeystorePassword, password.isEmpty = false) :
    Follows options (ofOptions? options) := by
  cases hc : options.sslCertificate with
  | none =>
      -- No key can stand without a certificate, and no passphrase without a key.
      have hk : options.sslKey = none := by cases hk : options.sslKey <;> simp_all
      have hp : options.sslKeyPassphrase = none := by
        cases hp : options.sslKeyPassphrase <;> simp_all
      cases hs : options.sslKeystorePath with
      | none =>
          have hw : options.sslKeystorePassword = none := by simpa [hs] using hkeystore
          simpa [ofOptions?, hc, hk, hs] using Follows.absent hc hk hp hs hw
      | some path =>
          have hgiven : options.sslKeystorePassword.isSome = true := by simp [← hkeystore, hs]
          obtain ⟨password, hw⟩ := Option.isSome_iff_exists.1 hgiven
          have hnonempty := hpassword password hw
          simpa [ofOptions?, hc, hk, hs, hw] using Follows.keystore hc hk hp hs hw hnonempty
  | some certificate =>
      obtain ⟨key, hk⟩ := Option.isSome_iff_exists.1 (hcertificate certificate hc)
      obtain ⟨passphrase, hp⟩ := Option.isSome_iff_exists.1 (hkey key hk).2
      have hs : options.sslKeystorePath = none := by simpa [hc] using hboth
      have hw : options.sslKeystorePassword = none := by simpa [hs] using hkeystore
      have hnonempty := (hpassphrase passphrase hp).2
      simpa [ofOptions?, hc, hk, hp] using Follows.certificateKey hc hk hp hnonempty hs hw

theorem resolve_eq_ok_iff {identity : Option Identity} :
    (resolve options probe).outcome = .ok identity ↔
      Follows options identity ∧ ∀ path ∈ filesOf options, probe.Seals path := by
  unfold resolve
  by_cases hboth : (options.sslCertificate.isSome && options.sslKeystorePath.isSome) = true
  · rw [if_pos hboth]
    simp only [Traced.outcome_refuse, reduceCtorEq, false_iff, not_and]
    intro hfollows
    cases hfollows <;> simp_all
  · rw [if_neg hboth]
    simp only [Traced.bind_eq, Traced.outcome_andThen_eq_ok, checkCertificate_eq_ok, checkKey_eq_ok,
      Traced.outcome_lift, checkPassphrase_eq_ok, checkKeystorePassword_eq_ok,
      checkKeystore_eq_ok, Traced.pure_eq, Except.ok.injEq, exists_const]
    constructor
    · rintro ⟨hcertificate, hkey, hpassphrase, hpassword, hkeystore, rfl⟩
      constructor
      · exact follows_of_checked hboth (fun certificate hc => (hcertificate certificate hc).1)
          (fun key hk => ⟨(hkey key hk).1, (hkey key hk).2.1⟩) hpassphrase hpassword.1 hpassword.2
      · simp only [filesOf, List.forall_mem_append, Option.mem_toList]
        exact ⟨⟨fun path hc => (hcertificate path hc).2, fun path hk => (hkey path hk).2.2⟩,
          hkeystore⟩
    · rintro ⟨hfollows, hsealed⟩
      cases hfollows <;> simp_all [ofOptions?, filesOf]

theorem asks_checkCertificate (options : Options) (probe : Probe) :
    (checkCertificate options probe).Asks options.sslCertificate.toList := by
  unfold checkCertificate
  split <;> simp only [*, Option.toList]
  · exact Traced.Asks.value ()
  · exact Traced.Asks.refuse _ _
  · exact probe.asks_ensureSealed _ _

theorem asks_checkKey (options : Options) (probe : Probe) :
    (checkKey options probe).Asks options.sslKey.toList := by
  unfold checkKey
  split <;> simp only [*, Option.toList]
  · exact Traced.Asks.value ()
  · exact Traced.Asks.refuse _ _
  · exact Traced.Asks.refuse _ _
  · exact probe.asks_ensureSealed _ _

theorem asks_checkKeystore (options : Options) (probe : Probe) :
    (checkKeystore options probe).Asks options.sslKeystorePath.toList := by
  unfold checkKeystore
  split <;> simp only [*, Option.toList]
  · exact Traced.Asks.value ()
  · exact probe.asks_ensureSealed _ _

theorem asks_resolve (options : Options) (probe : Probe) :
    (resolve options probe).Asks (filesOf options) := by
  unfold resolve
  split
  · exact Traced.Asks.refuse _ _
  · have h := (asks_checkCertificate options probe).andThen fun _ _ =>
      (asks_checkKey options probe).andThen fun _ _ =>
        (Traced.Asks.lift (checkPassphrase options)).andThen fun _ _ =>
          (Traced.Asks.lift (checkKeystorePassword options)).andThen fun _ _ =>
            (asks_checkKeystore options probe).andThen fun _ _ =>
              Traced.Asks.value (ofOptions? options)
    simpa [filesOf] using h

end Identity

/-! ## Trust -/

namespace Trust

/-- The combinations of options for the trust under a mode, each with the trust that it gives. -/
inductive Follows (options : Options) (systemTrust : SystemTrust) :
    VerificationMode → Trust → Prop
  | unverified (htruststore : options.sslTruststorePath = none)
      (hpassword : options.sslTruststorePassword = none)
      (hauthorities : options.sslCertificateAuthorities = none) :
      Follows options systemTrust .none .unverified
  | truststore {mode : VerificationMode} {path : String} {password : Secret} (hmode : mode ≠ .none)
      (htruststore : options.sslTruststorePath = some path)
      (hpassword : options.sslTruststorePassword = some password)
      (hnonempty : password.isEmpty = false)
      (hauthorities : options.sslCertificateAuthorities = none) :
      Follows options systemTrust mode (.truststore path password)
  | certificateAuthorities {mode : VerificationMode} {paths : List String} (hmode : mode ≠ .none)
      (htruststore : options.sslTruststorePath = none)
      (hpassword : options.sslTruststorePassword = none)
      (hauthorities : options.sslCertificateAuthorities = some paths) (hnonempty : paths ≠ []) :
      Follows options systemTrust mode (.certificateAuthorities paths)
  | system {mode : VerificationMode} (hmode : mode ≠ .none)
      (htruststore : options.sslTruststorePath = none)
      (hpassword : options.sslTruststorePassword = none)
      (hauthorities : options.sslCertificateAuthorities = none)
      (havailable : systemTrust.isAvailable = true) : Follows options systemTrust mode .system

def filesOf (options : Options) : List String :=
  options.sslTruststorePath.toList ++ options.sslCertificateAuthorities.getD []

theorem requiresTrust_iff {mode : VerificationMode} : mode.requiresTrust = true ↔ mode ≠ .none := by
  cases mode <;> decide

theorem resolveUnverified_eq_ok {trust : Trust} :
    resolveUnverified options = .ok trust ↔
      options.sslTruststorePath = none ∧ options.sslTruststorePassword = none ∧
        options.sslCertificateAuthorities = none ∧ trust = .unverified := by
  unfold resolveUnverified
  cases options.sslTruststorePath <;> cases options.sslTruststorePassword <;>
    cases options.sslCertificateAuthorities <;> simp [eq_comm]

theorem checkTruststore_eq_ok :
    (checkTruststore options probe).outcome = .ok done ↔
      ∀ path ∈ options.sslTruststorePath,
        options.sslTruststorePassword.isSome ∧ probe.Seals path := by
  unfold checkTruststore
  cases options.sslTruststorePath <;> cases options.sslTruststorePassword <;> simp

theorem checkTruststorePassword_eq_ok :
    checkTruststorePassword options = .ok done ↔
      ∀ password ∈ options.sslTruststorePassword,
        options.sslTruststorePath.isSome ∧ password.isEmpty = false := by
  unfold checkTruststorePassword
  cases options.sslTruststorePassword <;> cases options.sslTruststorePath <;> simp

theorem checkAuthorities_eq_ok :
    (checkAuthorities options probe).outcome = .ok done ↔
      ∀ paths ∈ options.sslCertificateAuthorities,
        paths ≠ [] ∧ ∀ path ∈ paths, probe.Seals path := by
  unfold checkAuthorities
  rcases options.sslCertificateAuthorities with _ | _ | _ <;> simp

/-- What is trusted after all checks follows a rule. -/
theorem follows_of_checked {mode : VerificationMode} {trust : Trust} (hmode : mode ≠ .none)
    (hboth : ¬ (options.sslTruststorePath.isSome && options.sslCertificateAuthorities.isSome) = true)
    (htruststore : ∀ path ∈ options.sslTruststorePath, options.sslTruststorePassword.isSome = true)
    (hpassword : ∀ password ∈ options.sslTruststorePassword,
      options.sslTruststorePath.isSome = true ∧ password.isEmpty = false)
    (hauthorities : ∀ paths ∈ options.sslCertificateAuthorities, paths ≠ [])
    (h : ofOptions options mode systemTrust = .ok trust) :
    Follows options systemTrust mode trust := by
  cases ht : options.sslTruststorePath with
  | some path =>
      obtain ⟨password, hp⟩ := Option.isSome_iff_exists.1 (htruststore path ht)
      have ha : options.sslCertificateAuthorities = none := by simpa [ht] using hboth
      simp only [ofOptions, ht, hp, Except.ok.injEq] at h
      subst h
      exact .truststore hmode ht hp (hpassword password hp).2 ha
  | none =>
      have hp : options.sslTruststorePassword = none := by
        cases hp : options.sslTruststorePassword <;> simp_all
      cases ha : options.sslCertificateAuthorities with
      | some paths =>
          simp only [ofOptions, ht, ha, Except.ok.injEq] at h
          subst h
          exact .certificateAuthorities hmode ht hp ha (hauthorities paths ha)
      | none =>
          cases havailable : systemTrust.isAvailable with
          | false => simp [ofOptions, ht, ha, havailable] at h
          | true =>
              simp only [ofOptions, ht, ha, havailable, ↓reduceIte, Except.ok.injEq] at h
              subst h
              exact .system hmode ht hp ha havailable

theorem mem_filesOf {path : String} :
    path ∈ filesOf options ↔ options.sslTruststorePath = some path ∨
      ∃ paths, options.sslCertificateAuthorities = some paths ∧ path ∈ paths := by
  cases ha : options.sslCertificateAuthorities <;> simp [filesOf, ha]

theorem resolve_eq_ok_iff {mode : VerificationMode} {trust : Trust} :
    (resolve options mode probe systemTrust).outcome = .ok trust ↔
      Follows options systemTrust mode trust ∧ ∀ path ∈ filesOf options, probe.Seals path := by
  unfold resolve
  by_cases hmode : mode = .none
  · subst hmode
    simp only [VerificationMode.requiresTrust, Bool.not_false, ↓reduceIte, Traced.outcome_lift,
      resolveUnverified_eq_ok]
    constructor
    · rintro ⟨ht, hp, ha, rfl⟩
      exact ⟨.unverified ht hp ha, by simp [filesOf, ht, ha]⟩
    · rintro ⟨hfollows, -⟩
      cases hfollows <;> simp_all
  rw [if_neg (by simpa using requiresTrust_iff.2 hmode)]
  by_cases hboth :
      (options.sslTruststorePath.isSome && options.sslCertificateAuthorities.isSome) = true
  · rw [if_pos hboth]
    simp only [Traced.outcome_refuse, reduceCtorEq, false_iff, not_and]
    intro hfollows
    cases hfollows <;> simp_all
  · rw [if_neg hboth]
    simp only [Traced.bind_eq, Traced.outcome_andThen_eq_ok, checkTruststore_eq_ok,
      Traced.outcome_lift, checkTruststorePassword_eq_ok, checkAuthorities_eq_ok, exists_const]
    constructor
    · rintro ⟨htruststore, hpassword, hauthorities, hgiven⟩
      constructor
      · exact follows_of_checked hmode hboth (fun path ht => (htruststore path ht).1) hpassword
          (fun paths ha => (hauthorities paths ha).1) hgiven
      · intro path hmem
        rcases mem_filesOf.1 hmem with ht | ⟨paths, ha, hpath⟩
        · exact (htruststore path ht).2
        · exact (hauthorities paths ha).2 path hpath
    · rintro ⟨hfollows, hsealed⟩
      cases hfollows <;> simp_all [ofOptions, filesOf]

theorem asks_checkTruststore (options : Options) (probe : Probe) :
    (checkTruststore options probe).Asks options.sslTruststorePath.toList := by
  unfold checkTruststore
  split <;> simp only [*, Option.toList]
  · exact Traced.Asks.value ()
  · exact Traced.Asks.refuse _ _
  · exact probe.asks_ensureSealed _ _

theorem asks_checkAuthorities (options : Options) (probe : Probe) :
    (checkAuthorities options probe).Asks (options.sslCertificateAuthorities.getD []) := by
  unfold checkAuthorities
  split <;> simp only [*, Option.getD]
  · exact Traced.Asks.value ()
  · exact Traced.Asks.refuse _ _
  · exact probe.asks_ensureAllSealed _ _

theorem asks_resolve (options : Options) (mode : VerificationMode) (probe : Probe)
    (systemTrust : SystemTrust) :
    (resolve options mode probe systemTrust).Asks (filesOf options) := by
  unfold resolve
  split
  · refine ⟨List.nil_prefix, fun trust h => ?_⟩
    obtain ⟨htruststore, -, hauthorities, -⟩ := resolveUnverified_eq_ok.1 h
    simp [filesOf, htruststore, hauthorities, Probe.questions]
  split
  · exact Traced.Asks.refuse _ _
  · have h := (asks_checkTruststore options probe).andThen fun _ _ =>
      (Traced.Asks.lift (checkTruststorePassword options)).andThen fun _ _ =>
        (asks_checkAuthorities options probe).andThen fun _ _ =>
          Traced.Asks.lift (ofOptions options mode systemTrust)
    simpa [filesOf] using h

end Trust

/-! ## Both -/

namespace Tls

/-- What options give for TLS, once it is known whether TLS is used. -/
inductive Follows (options : Options) (systemTrust : SystemTrust) : Bool → Tls → Prop
  | disabled (hnone : ∀ key : OptionKey, isTlsOnly key.name = true → options.value? key = none) :
      Follows options systemTrust false .disabled
  | enabled {mode : VerificationMode} {identity : Option Identity} {trust : Trust}
      (hmode : options.Verifies mode) (hidentity : Identity.Follows options identity)
      (htrust : Trust.Follows options systemTrust mode trust) :
      Follows options systemTrust true (.enabled mode identity trust)

theorem Follows.isEnabled_eq {tlsEnabled : Bool} {tls : Tls}
    (h : Follows options systemTrust tlsEnabled tls) : tls.isEnabled = tlsEnabled := by
  cases h <;> rfl

theorem mem_tlsOnlySupplied {name : String} :
    name ∈ tlsOnlySupplied options ↔ options.isSupplied name = true ∧ isTlsOnly name = true := by
  simp [tlsOnlySupplied, Options.isSupplied]

theorem tlsOnlySupplied_eq_nil_iff :
    tlsOnlySupplied options = [] ↔
      ∀ key : OptionKey, isTlsOnly key.name = true → options.value? key = none := by
  rw [List.eq_nil_iff_forall_not_mem]
  simp only [mem_tlsOnlySupplied, not_and]
  constructor
  · intro h key honly
    have habsent := mt (h key.name) (not_not_intro honly)
    exact (options.isSupplied_eq_false_iff key).1 (Bool.eq_false_iff.2 habsent)
  · intro h name hsupplied honly
    obtain ⟨key, rfl, hgives⟩ := Options.isSupplied_iff.1 hsupplied
    simp [Options.gives, h key honly] at hgives

/-- Only what is given of the options that need TLS counts without it. -/
theorem tlsOnlySupplied_congr {other : Options}
    (h : ∀ key : OptionKey, isTlsOnly key.name = true → other.gives key = options.gives key) :
    tlsOnlySupplied other = tlsOnlySupplied options := by
  unfold tlsOnlySupplied Options.supplied
  rw [List.filter_map, List.filter_map, List.filter_filter, List.filter_filter]
  congr 1
  refine List.filter_congr fun key _ => ?_
  by_cases honly : isTlsOnly key.name = true
  · simp [h key honly]
  · simp [honly]

theorem files_eq (options : Options) :
    options.files = Identity.filesOf options ++ Trust.filesOf options := by
  simp [Options.files, Identity.filesOf, Trust.filesOf]

/-- Options that give nothing that needs TLS name no file. -/
theorem files_eq_nil (hnone : ∀ key : OptionKey, isTlsOnly key.name = true →
    options.value? key = none) : options.files = [] := by
  have hcertificate := hnone .sslCertificate (by decide)
  have hkey := hnone .sslKey (by decide)
  have hkeystore := hnone .sslKeystorePath (by decide)
  have htruststore := hnone .sslTruststorePath (by decide)
  have hauthorities := hnone .sslCertificateAuthorities (by decide)
  simp only [Options.value?, Option.map_eq_none_iff] at *
  simp [Options.files, *]

theorem resolve_eq_ok_iff {tlsEnabled : Bool} {tls : Tls} :
    (resolve options tlsEnabled probe systemTrust).outcome = .ok tls ↔
      Follows options systemTrust tlsEnabled tls ∧ ∀ path ∈ options.files, probe.Seals path := by
  unfold resolve
  cases tlsEnabled with
  | false =>
      simp only [Bool.false_eq_true, ↓reduceIte, Traced.outcome_lift, resolveDisabled,
        List.isEmpty_iff]
      constructor
      · intro h
        split at h
        · cases h
          have hnone := tlsOnlySupplied_eq_nil_iff.1 ‹_›
          exact ⟨.disabled hnone, by simp [files_eq_nil hnone]⟩
        · cases h
      · rintro ⟨⟨hnone⟩, -⟩
        rw [if_pos (tlsOnlySupplied_eq_nil_iff.2 hnone)]
  | true =>
      simp only [↓reduceIte, Traced.bind_eq, Traced.outcome_andThen_eq_ok, Traced.outcome_lift,
        modeOf_eq_ok_iff, Identity.resolve_eq_ok_iff, Trust.resolve_eq_ok_iff,
        Traced.outcome_note, Traced.pure_eq, Except.ok.injEq, files_eq, List.forall_mem_append]
      constructor
      · rintro ⟨mode, hmode, identity, ⟨hidentity, hfiles⟩, trust, ⟨htrust, hothers⟩, -, -, rfl⟩
        exact ⟨.enabled hmode hidentity htrust, hfiles, hothers⟩
      · rintro ⟨⟨⟩ | ⟨hmode, hidentity, htrust⟩, hfiles, hothers⟩
        exact ⟨_, hmode, _, ⟨hidentity, hfiles⟩, _, ⟨htrust, hothers⟩, (), trivial, rfl⟩

theorem asks_resolve (options : Options) (tlsEnabled : Bool) (probe : Probe)
    (systemTrust : SystemTrust) :
    (resolve options tlsEnabled probe systemTrust).Asks options.files := by
  unfold resolve
  split
  · have h := (Traced.Asks.lift (modeOf options)).andThen fun mode _ =>
      (Identity.asks_resolve options probe).andThen fun identity _ =>
        (Trust.asks_resolve options mode probe systemTrust).andThen fun trust _ =>
          (Traced.Asks.note (.resolvedTls mode.name identity.isSome trust.name) rfl).andThen
            fun _ _ => Traced.Asks.value (Tls.enabled mode identity trust)
    simpa [files_eq] using h
  · refine ⟨List.nil_prefix, fun tls h => ?_⟩
    have hsettled : (resolve options false probe systemTrust).outcome = .ok tls := by
      simpa [resolve] using h
    obtain ⟨⟨hnone⟩, -⟩ := resolve_eq_ok_iff.1 hsettled
    rw [files_eq_nil hnone]
    rfl

end Tls

end ClusterLink
