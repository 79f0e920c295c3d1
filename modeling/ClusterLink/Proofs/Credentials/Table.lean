import ClusterLink.Proofs.Validation.Acceptance

/-!
# The table of credential options

The ways of authentication, each with the options that it takes. Options of more than one way are
refused whatever they hold, with the name of one option for each way. Otherwise credentials are
settled exactly if the options of one way are complete, or if there are none, and they are made of
the values that are given. Whether TLS is used makes a difference only to the advisories.
-/

namespace ClusterLink

variable {options : Options} {tlsEnabled : Bool} {credentials : Credentials}

namespace Credentials

def settle (options : Options) (tlsEnabled : Bool) :
    Except Violation (Credentials × List Advisory) :=
  (fun credentials => (credentials, credentials.advisories tlsEnabled)) <$> ofOptions options

inductive Mechanism where
  | basic
  | apiKey
  | cloudAuth
deriving DecidableEq, Repr

namespace Mechanism

def all : List Mechanism := [basic, apiKey, cloudAuth]

/-- The options that a way of authentication takes, in the order in which messages look for one. -/
def keys : Mechanism → List OptionKey
  | basic => [.username, .password]
  | apiKey => [.apiKey]
  | cloudAuth => [.cloudAuth]

def name? (options : Options) (mechanism : Mechanism) : Option String :=
  (mechanism.keys.map OptionKey.name).find? options.isSupplied

def named (options : Options) : List String := all.filterMap (name? options)

end Mechanism

open Mechanism

/-! ## Mechanisms -/

theorem mechanisms_eq_named (options : Options) : mechanisms options = named options := by
  simp only [mechanisms, named, all, name?, keys, List.map_cons, List.map_nil, OptionKey.name,
    List.filterMap_cons, List.filterMap_nil, List.find?_cons, List.find?_nil]
  cases options.isSupplied "username" <;> cases options.isSupplied "password" <;>
    cases options.isSupplied "api_key" <;> cases options.isSupplied "cloud_auth" <;> rfl

/-- Nothing but the number of mechanisms is at fault where their names are reported. -/
theorem ofOptions_eq_multiple_iff {names : List String} :
    ofOptions options = .error (.multipleAuthMechanisms names) ↔
      1 < (mechanisms options).length ∧ names = mechanisms options := by
  unfold ofOptions
  by_cases hmany : (mechanisms options).length > 1
  · simp [hmany, eq_comm]
  · rw [if_neg hmany]
    simp only [gt_iff_lt] at hmany
    simp only [hmany, false_and, iff_false]
    intro h
    split at h
    · cases h
    · cases h
    · unfold readBasic at h
      split at h <;> cases h
    · unfold readApiKey at h
      split at h <;> cases h
    · unfold readCloudAuth at h
      split at h
      · cases h
      · cases CloudAuth.eq_of_read_eq_error (map_eq_error_iff.1 h)
    · cases h

/-! ## The table -/

theorem settle_eq_ok_iff {advisories : List Advisory} :
    settle options tlsEnabled = .ok (credentials, advisories) ↔
      Follows options credentials ∧ advisories = credentials.advisories tlsEnabled := by
  rw [settle, map_eq_ok_iff]
  simp only [ofOptions_eq_ok_iff, Prod.mk.injEq]
  constructor
  · rintro ⟨found, hfollows, rfl, rfl⟩
    exact ⟨hfollows, rfl⟩
  · rintro ⟨hfollows, rfl⟩
    exact ⟨credentials, hfollows, rfl, rfl⟩

/-- After TLS, validation goes on with what is settled: the credentials and their advisories. -/
theorem finish_eq_settle (options : Options) (target : Target) (id : String) (tlsEnabled : Bool)
    (tls : Tls) :
    Validator.finish options target id tlsEnabled tls =
      (do
        let (credentials, warned) ← Traced.lift (settle options tlsEnabled)
        let target ← Validator.settleTarget target tlsEnabled
        let advisories := Validator.tlsAdvisories tls ++ warned
        Validator.warnAll id advisories
        let connection : Connection := {
          id, target, tls, credentials
          pipelineName := options.pipelineName
          geoipDatabaseDirectory := options.geoipDatabaseDirectory }
        Traced.note (Validator.completion connection)
        pure ⟨connection, advisories⟩) := by
  rw [Validator.finish, settle]
  cases ofOptions options <;> rfl

/--
Options for more than one mechanism are refused, whatever they hold, with the names of the
mechanisms. Otherwise there are credentials exactly if the options for one mechanism are complete
or none is given, and they hold what is given. TLS makes a difference to the advisories alone.
-/
theorem settle_fits_table (options : Options) :
    (∀ tlsEnabled names,
      settle options tlsEnabled = .error (.multipleAuthMechanisms names) ↔
        1 < (named options).length ∧ names = named options) ∧
      (∀ tlsEnabled credentials advisories,
        settle options tlsEnabled = .ok (credentials, advisories) ↔
          Follows options credentials ∧ advisories = credentials.advisories tlsEnabled) ∧
      Prod.fst <$> settle options true = Prod.fst <$> settle options false := by
  refine ⟨fun tlsEnabled names => ?_, fun _ _ _ => settle_eq_ok_iff, ?_⟩
  · rw [settle, map_eq_error_iff, ofOptions_eq_multiple_iff, mechanisms_eq_named]
  · unfold settle
    cases ofOptions options <;> rfl

-- Options that hold nothing count as options.
example :
    settle { password := some ⟨""⟩, apiKey := some ⟨""⟩ } true =
      .error (.multipleAuthMechanisms ["password", "api_key"]) := by decide

-- Later colons belong to the password.
example :
    settle { cloudAuth := some ⟨"elastic:se:cret"⟩ } false =
      .ok (.cloudAuth ⟨"elastic", ⟨"se:cret"⟩⟩, [.credentialsOverHttp]) := by decide

end Credentials

end ClusterLink
