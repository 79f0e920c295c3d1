import ClusterLink.Credentials
import ClusterLink.Proofs.Text.Split
import ClusterLink.Proofs.Traced

/-!
# Rules of credential options

Which combinations of options are complete, and what each of them gives. Credentials are accepted
exactly when the options name at most one way of authentication and follow its rule.
-/

namespace ClusterLink

theorem Secret.isEmpty_eq_false_iff {secret : Secret} :
    secret.isEmpty = false ↔ secret.expose ≠ "" := by
  simp [Secret.isEmpty]

/-- The text is a user name and a password, neither empty, around its first colon. -/
def CloudAuth.Spells (credentials : CloudAuth) (text : String) : Prop :=
  text = credentials.username ++ ":" ++ credentials.password.expose ∧
    ':' ∉ credentials.username.toList ∧ credentials.username ≠ "" ∧
    credentials.password.isEmpty = false

theorem CloudAuth.read_eq_ok_iff {value : Secret} {credentials : CloudAuth} :
    CloudAuth.read value = .ok credentials ↔ credentials.Spells value.expose := by
  unfold CloudAuth.read Spells
  constructor
  · intro h
    split at h
    · rename_i username password hsplit
      split at h
      · cases h
      · rename_i hparts
        cases h
        obtain ⟨htext, hfree⟩ := Text.splitFirst_eq_some_iff.1 hsplit
        have hexpose : value.expose = String.ofList (username ++ ':' :: password) := by
          rw [← htext, String.ofList_toList]
        simp_all [Secret.isEmpty, String.ofList_append, String.append_assoc]
    · cases h
  · rintro ⟨htext, hfree, hnamed, hnonempty⟩
    have hsplit : Text.splitFirst [':'] value.expose.toList =
        some (credentials.username.toList, credentials.password.expose.toList) := by
      rw [htext]
      simpa using Text.splitFirst_append hfree
    simp_all [Secret.isEmpty]

theorem CloudAuth.eq_of_read_eq_error {value : Secret} {violation : Violation}
    (h : CloudAuth.read value = .error violation) : violation = .invalidCloudAuth := by
  unfold CloudAuth.read at h
  split at h
  · split at h <;> simp_all
  · simp_all

theorem CloudAuth.Spells.isEmpty_eq_false {value : Secret} {credentials : CloudAuth}
    (h : credentials.Spells value.expose) : value.isEmpty = false := by
  rw [Secret.isEmpty_eq_false_iff, h.1]
  simp [String.append_eq_empty_iff]

namespace Credentials

variable {options : Options} {credentials : Credentials}

/-- The combinations of options for credentials, each with the credentials that it gives. -/
inductive Follows (options : Options) : Credentials → Prop
  | none (husername : options.username = .none) (hpassword : options.password = .none)
      (hapiKey : options.apiKey = .none) (hcloudAuth : options.cloudAuth = .none) :
      Follows options .none
  | basic {username : String} {password : Secret} (husername : options.username = some username)
      (hpassword : options.password = some password) (hnamed : username ≠ "")
      (hnonempty : password.isEmpty = false) (hapiKey : options.apiKey = .none)
      (hcloudAuth : options.cloudAuth = .none) : Follows options (.basic username password)
  | apiKey {value : Secret} (husername : options.username = .none)
      (hpassword : options.password = .none) (hapiKey : options.apiKey = some value)
      (hnonempty : value.isEmpty = false) (hcloudAuth : options.cloudAuth = .none) :
      Follows options (.apiKey ⟨value⟩)
  | cloudAuth {value : Secret} {found : CloudAuth} (husername : options.username = .none)
      (hpassword : options.password = .none) (hapiKey : options.apiKey = .none)
      (hcloudAuth : options.cloudAuth = some value) (hspells : found.Spells value.expose) :
      Follows options (.cloudAuth found)

theorem readBasic_eq_ok_iff {username : String} {password : Secret} :
    readBasic username password = .ok credentials ↔
      username ≠ "" ∧ password.isEmpty = false ∧ .basic username password = credentials := by
  unfold readBasic
  by_cases husername : username = "" <;> cases hpassword : password.isEmpty <;> simp [husername]

theorem readApiKey_eq_ok_iff {value : Secret} :
    readApiKey value = .ok credentials ↔ value.isEmpty = false ∧ .apiKey ⟨value⟩ = credentials := by
  unfold readApiKey
  cases value.isEmpty <;> simp

theorem readCloudAuth_eq_ok_iff {value : Secret} :
    readCloudAuth value = .ok credentials ↔
      ∃ found : CloudAuth, found.Spells value.expose ∧ .cloudAuth found = credentials := by
  unfold readCloudAuth
  cases hempty : value.isEmpty with
  | false => simp [map_eq_ok_iff, CloudAuth.read_eq_ok_iff]
  | true =>
      simp only [↓reduceIte, reduceCtorEq, false_iff, not_exists, not_and]
      intro found hspells
      rw [hspells.isEmpty_eq_false] at hempty
      cases hempty

/-- With a user name and a password, no other way of authentication may be named. -/
theorem mechanisms_length_of_username {username : String} (h : options.username = some username) :
    (mechanisms options).length ≤ 1 ↔ options.apiKey = .none ∧ options.cloudAuth = .none := by
  rw [mechanisms_eq, h]
  cases options.apiKey <;> cases options.cloudAuth <;> simp

theorem mechanisms_length_of_apiKey {value : Secret} (husername : options.username = .none)
    (hpassword : options.password = .none) (h : options.apiKey = some value) :
    (mechanisms options).length ≤ 1 ↔ options.cloudAuth = .none := by
  rw [mechanisms_eq, husername, hpassword, h]
  cases options.cloudAuth <;> simp

theorem mechanisms_length_of_cloudAuth (husername : options.username = .none)
    (hpassword : options.password = .none) (hapiKey : options.apiKey = .none) :
    (mechanisms options).length ≤ 1 := by
  rw [mechanisms_eq, husername, hpassword, hapiKey]
  cases options.cloudAuth <;> simp

/-- Nothing else that options give makes a difference to their credentials. -/
theorem ofOptions_congr {other : Options} (husername : other.username = options.username)
    (hpassword : other.password = options.password) (hapiKey : other.apiKey = options.apiKey)
    (hcloudAuth : other.cloudAuth = options.cloudAuth) : ofOptions other = ofOptions options := by
  simp only [ofOptions, mechanisms_eq, husername, hpassword, hapiKey, hcloudAuth]

/-- Credentials are accepted exactly when options follow the rule of one way of authentication. -/
theorem ofOptions_eq_ok_iff :
    ofOptions options = .ok credentials ↔ Follows options credentials := by
  unfold ofOptions
  constructor
  · intro h
    split at h
    · cases h
    · rename_i hmany
      have hone : (mechanisms options).length ≤ 1 := by omega
      split at h
      · cases h
      · cases h
      · rename_i husername hpassword
        obtain ⟨hnamed, hnonempty, rfl⟩ := readBasic_eq_ok_iff.1 h
        obtain ⟨hapiKey, hcloudAuth⟩ := (mechanisms_length_of_username husername).1 hone
        exact .basic husername hpassword hnamed hnonempty hapiKey hcloudAuth
      · rename_i husername hpassword hapiKey
        obtain ⟨hnonempty, rfl⟩ := readApiKey_eq_ok_iff.1 h
        have hcloudAuth := (mechanisms_length_of_apiKey husername hpassword hapiKey).1 hone
        exact .apiKey husername hpassword hapiKey hnonempty hcloudAuth
      · rename_i husername hpassword hapiKey hcloudAuth
        obtain ⟨found, hspells, rfl⟩ := readCloudAuth_eq_ok_iff.1 h
        exact .cloudAuth husername hpassword hapiKey hcloudAuth hspells
      · rename_i husername hpassword hapiKey hcloudAuth
        cases h
        exact .none husername hpassword hapiKey hcloudAuth
  · intro h
    cases h with
    | none husername hpassword hapiKey hcloudAuth =>
        have hone := mechanisms_length_of_cloudAuth husername hpassword hapiKey
        rw [if_neg (by omega), husername, hpassword, hapiKey, hcloudAuth]
    | basic husername hpassword hnamed hnonempty hapiKey hcloudAuth =>
        have hone := (mechanisms_length_of_username husername).2 ⟨hapiKey, hcloudAuth⟩
        rw [if_neg (by omega), husername, hpassword]
        exact readBasic_eq_ok_iff.2 ⟨hnamed, hnonempty, rfl⟩
    | apiKey husername hpassword hapiKey hnonempty hcloudAuth =>
        have hone := (mechanisms_length_of_apiKey husername hpassword hapiKey).2 hcloudAuth
        rw [if_neg (by omega), husername, hpassword, hapiKey]
        exact readApiKey_eq_ok_iff.2 ⟨hnonempty, rfl⟩
    | cloudAuth husername hpassword hapiKey hcloudAuth hspells =>
        have hone := mechanisms_length_of_cloudAuth husername hpassword hapiKey
        rw [if_neg (by omega), husername, hpassword, hapiKey, hcloudAuth]
        exact readCloudAuth_eq_ok_iff.2 ⟨_, hspells, rfl⟩

end Credentials

end ClusterLink
