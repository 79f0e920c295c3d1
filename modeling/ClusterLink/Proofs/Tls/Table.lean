import ClusterLink.Proofs.Tls.Rules

/-!
# The table of TLS options

Which options may be given together, as a table of their keys. The checks accept exactly the rows of
the table: nothing that is given is empty, every file that is named is sealed, and the state that is
settled is the one of the row.
-/

namespace ClusterLink

variable {options : Options} {probe : Probe} {systemTrust : SystemTrust}

def OptionValue.isEmpty : OptionValue → Bool
  | .text value => value.isEmpty
  | .flag _ => false
  | .secret value => value.isEmpty
  | .texts values => values.isEmpty

namespace Options

def given (options : Options) (keys : List OptionKey) : List OptionKey := keys.filter options.gives

/-- If the options that are given are a row, each key tells whether it is in the row. -/
theorem gives_of_row {keys row : List OptionKey} (h : options.given keys = row) :
    ∀ key ∈ keys, options.gives key = decide (key ∈ row) := by
  intro key hkey
  rw [← h, given, Bool.eq_iff_iff, decide_eq_true_iff, List.mem_filter]
  exact (and_iff_right hkey).symm

end Options

open Options

/-! ## Identity -/

namespace Identity

def keys : List OptionKey :=
  [.sslCertificate, .sslKey, .sslKeyPassphrase, .sslKeystorePath, .sslKeystorePassword]

def table : List (List OptionKey) :=
  [[], [.sslCertificate, .sslKey, .sslKeyPassphrase], [.sslKeystorePath, .sslKeystorePassword]]

def nonemptyKeys : List OptionKey := [.sslKeyPassphrase, .sslKeystorePassword]

/-- Options give an identity, or none, exactly if they are a row of the table. -/
theorem exists_follows_iff :
    (∃ identity, Follows options identity) ↔ options.given keys ∈ table ∧
      ∀ key ∈ nonemptyKeys, ∀ value ∈ options.value? key, value.isEmpty = false := by
  constructor
  · rintro ⟨identity, hfollows⟩
    cases hfollows <;>
      simp [given, keys, table, nonemptyKeys, gives, value?, OptionValue.isEmpty, *]
  · rintro ⟨hrow, hnonempty⟩
    simp only [table, List.mem_cons, List.not_mem_nil, or_false] at hrow
    rcases hrow with h | h | h
    · obtain ⟨hc, hk, hp, hs, hw⟩ : options.sslCertificate = none ∧ options.sslKey = none ∧
          options.sslKeyPassphrase = none ∧ options.sslKeystorePath = none ∧
          options.sslKeystorePassword = none := by
        simpa [keys, gives, value?] using gives_of_row h
      exact ⟨none, .absent hc hk hp hs hw⟩
    · obtain ⟨⟨certificate, hc⟩, ⟨key, hk⟩, ⟨passphrase, hp⟩, hs, hw⟩ :
          (∃ certificate, options.sslCertificate = some certificate) ∧
            (∃ key, options.sslKey = some key) ∧
            (∃ passphrase, options.sslKeyPassphrase = some passphrase) ∧
            options.sslKeystorePath = none ∧ options.sslKeystorePassword = none := by
        simpa [keys, gives, value?, Option.isSome_iff_exists] using gives_of_row h
      have hfilled : passphrase.isEmpty = false :=
        hnonempty .sslKeyPassphrase (by decide) (.secret passphrase) (by simp [value?, hp])
      exact ⟨_, .certificateKey hc hk hp hfilled hs hw⟩
    · obtain ⟨hc, hk, hp, ⟨path, hs⟩, ⟨password, hw⟩⟩ :
          options.sslCertificate = none ∧ options.sslKey = none ∧
            options.sslKeyPassphrase = none ∧ (∃ path, options.sslKeystorePath = some path) ∧
            ∃ password, options.sslKeystorePassword = some password := by
        simpa [keys, gives, value?, Option.isSome_iff_exists] using gives_of_row h
      have hfilled : password.isEmpty = false :=
        hnonempty .sslKeystorePassword (by decide) (.secret password) (by simp [value?, hw])
      exact ⟨_, .keystore hc hk hp hs hw hfilled⟩

end Identity

/-! ## Trust -/

namespace Trust

def keys : List OptionKey :=
  [.sslTruststorePath, .sslTruststorePassword, .sslCertificateAuthorities]

/--
What may be given for the trust: without verification nothing, and otherwise a truststore or
authorities; nothing is enough if there is a trust store of the system.
-/
def table (systemTrust : SystemTrust) : VerificationMode → List (List OptionKey)
  | .none => [[]]
  | _ => [[.sslTruststorePath, .sslTruststorePassword], [.sslCertificateAuthorities]] ++
      if systemTrust.isAvailable then [[]] else []

def nonemptyKeys : List OptionKey := [.sslTruststorePassword, .sslCertificateAuthorities]

theorem table_of_verified {mode : VerificationMode} (hmode : mode ≠ .none) :
    table systemTrust mode = [[.sslTruststorePath, .sslTruststorePassword],
      [.sslCertificateAuthorities]] ++ if systemTrust.isAvailable then [[]] else [] := by
  cases mode with
  | none => exact absurd rfl hmode
  | full | certificate => rfl

/-- Options give something to trust exactly if they are a row of the table of the mode. -/
theorem exists_follows_iff {mode : VerificationMode} :
    (∃ trust, Follows options systemTrust mode trust) ↔
      options.given keys ∈ table systemTrust mode ∧
        ∀ key ∈ nonemptyKeys, ∀ value ∈ options.value? key, value.isEmpty = false := by
  have hnothing (h : options.given keys = []) : options.sslTruststorePath = none ∧
      options.sslTruststorePassword = none ∧ options.sslCertificateAuthorities = none := by
    simpa [keys, gives, value?] using gives_of_row h
  constructor
  · rintro ⟨trust, hfollows⟩
    cases hfollows with
    | unverified => simp [given, keys, table, nonemptyKeys, gives, value?, *]
    | truststore hmode | certificateAuthorities hmode | system hmode =>
        simp [given, keys, table_of_verified hmode, nonemptyKeys, gives, value?,
          OptionValue.isEmpty, *]
  · rintro ⟨hrow, hnonempty⟩
    by_cases hmode : mode = .none
    · subst hmode
      obtain ⟨ht, hp, ha⟩ := hnothing (List.mem_singleton.1 hrow)
      exact ⟨_, .unverified ht hp ha⟩
    · rw [table_of_verified hmode] at hrow
      rcases List.mem_append.1 hrow with hrow | hrow
      · rcases List.mem_pair.1 hrow with h | h
        · obtain ⟨⟨path, ht⟩, ⟨password, hp⟩, ha⟩ :
              (∃ path, options.sslTruststorePath = some path) ∧
                (∃ password, options.sslTruststorePassword = some password) ∧
                options.sslCertificateAuthorities = none := by
            simpa [keys, gives, value?, Option.isSome_iff_exists] using gives_of_row h
          have hfilled : password.isEmpty = false :=
            hnonempty .sslTruststorePassword (by decide) (.secret password) (by simp [value?, hp])
          exact ⟨_, .truststore hmode ht hp hfilled ha⟩
        · obtain ⟨ht, hp, ⟨paths, ha⟩⟩ : options.sslTruststorePath = none ∧
              options.sslTruststorePassword = none ∧
                ∃ paths, options.sslCertificateAuthorities = some paths := by
            simpa [keys, gives, value?, Option.isSome_iff_exists] using gives_of_row h
          have hfilled : paths.isEmpty = false :=
            hnonempty .sslCertificateAuthorities (by decide) (.texts paths) (by simp [value?, ha])
          exact ⟨_, .certificateAuthorities hmode ht hp ha (List.isEmpty_eq_false_iff.1 hfilled)⟩
      · split at hrow
        next havailable =>
          obtain ⟨ht, hp, ha⟩ := hnothing (List.mem_singleton.1 hrow)
          exact ⟨_, .system hmode ht hp ha havailable⟩
        next => cases hrow

end Trust

/-! ## Both -/

/-- What is asked of options with TLS: that they are rows of the tables, and of sealed files. -/
structure Options.FitTable (options : Options) (probe : Probe) (systemTrust : SystemTrust) :
    Prop where
  identity : options.given Identity.keys ∈ Identity.table
  trust : ∃ mode, options.Verifies mode ∧ options.given Trust.keys ∈ Trust.table systemTrust mode
  nonempty : ∀ key ∈ Identity.nonemptyKeys ++ Trust.nonemptyKeys,
    ∀ value ∈ options.value? key, value.isEmpty = false
  sealed : ∀ path ∈ options.files, probe.readable path = true ∧ probe.writable path = false

namespace Tls

theorem exists_follows_iff :
    (∃ tls, Follows options systemTrust true tls) ↔
      (∃ identity, Identity.Follows options identity) ∧
        ∃ mode, options.Verifies mode ∧ ∃ trust, Trust.Follows options systemTrust mode trust := by
  constructor
  · rintro ⟨tls, hfollows⟩
    cases hfollows with
    | enabled hmode hidentity htrust => exact ⟨⟨_, hidentity⟩, _, hmode, _, htrust⟩
  · rintro ⟨⟨_, hidentity⟩, _, hmode, _, htrust⟩
    exact ⟨_, .enabled hmode hidentity htrust⟩

theorem exists_resolve_iff :
    (∃ tls, (resolve options true probe systemTrust).outcome = .ok tls) ↔
      options.FitTable probe systemTrust := by
  simp only [resolve_eq_ok_iff, exists_and_right, exists_follows_iff, Identity.exists_follows_iff,
    Trust.exists_follows_iff]
  constructor
  · rintro ⟨⟨⟨hidentity, hfirst⟩, mode, hmode, htrust, hsecond⟩, hsealed⟩
    exact ⟨hidentity, ⟨mode, hmode, htrust⟩, List.forall_mem_append.2 ⟨hfirst, hsecond⟩, hsealed⟩
  · rintro ⟨hidentity, ⟨mode, hmode, htrust⟩, hnonempty, hsealed⟩
    obtain ⟨hfirst, hsecond⟩ := List.forall_mem_append.1 hnonempty
    exact ⟨⟨⟨hidentity, hfirst⟩, mode, hmode, htrust, hsecond⟩, hsealed⟩

/--
Without TLS, nothing that needs it may be given, and the connection is not secured. With TLS, the
options have to be rows of the tables; the state has the mode that they spell, and the identity and
the trust of their rows.
-/
theorem resolve_fits_table (options : Options) (probe : Probe) (systemTrust : SystemTrust) :
    (∀ tls, (resolve options false probe systemTrust).outcome = .ok tls ↔
        tls = .disabled ∧ ∀ name ∈ options.supplied, isTlsOnly name = false) ∧
      ((∃ tls, (resolve options true probe systemTrust).outcome = .ok tls) ↔
        options.FitTable probe systemTrust) ∧
      ∀ tls, (resolve options true probe systemTrust).outcome = .ok tls →
        ∃ mode identity trust, tls = .enabled mode identity trust ∧ options.Verifies mode ∧
          Identity.Follows options identity ∧ Trust.Follows options systemTrust mode trust := by
  refine ⟨fun tls => ?_, exists_resolve_iff, fun tls h => ?_⟩
  · have hnone : (tlsOnlySupplied options).isEmpty = true ↔
        ∀ name ∈ options.supplied, isTlsOnly name = false := by
      rw [List.isEmpty_iff, tlsOnlySupplied, List.filter_eq_nil_iff]
      simp only [Bool.not_eq_true]
    rw [← hnone, resolve, if_neg Bool.false_ne_true, Traced.outcome_lift, resolveDisabled]
    split
    next hempty => simp [hempty, eq_comm]
    next hgiven => simp [hgiven]
  · obtain ⟨hfollows, -⟩ := resolve_eq_ok_iff.1 h
    cases hfollows with
    | enabled hmode hidentity htrust => exact ⟨_, _, _, rfl, hmode, hidentity, htrust⟩

end Tls

end ClusterLink
