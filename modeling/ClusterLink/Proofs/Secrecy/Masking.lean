import ClusterLink.Connection
import ClusterLink.Proofs.Text.Split

/-!
# Masked secrets

A masked secret tells no more than whether it is empty; masked credentials of a managed cluster keep
their user name. A connection looks the same when its secrets are masked, however it is shown.
-/

namespace ClusterLink

/-! ## Secrets -/

namespace Secret

variable {secret other : Secret} {username password : List Char}

def masked (secret : Secret) : Secret := if secret.isEmpty then ⟨""⟩ else ⟨mask⟩

def maskedAfterColon (secret : Secret) : Secret :=
  match Text.splitFirst [':'] secret.expose.toList with
  | some (username, password) =>
      ⟨String.ofList username ++ ":" ++ (masked ⟨String.ofList password⟩).expose⟩
  | none => secret.masked

theorem isEmpty_eq_toList (secret : Secret) : secret.isEmpty = secret.expose.toList.isEmpty := by
  rw [Bool.eq_iff_iff]
  simp [isEmpty]

@[simp] theorem isEmpty_masked (secret : Secret) : secret.masked.isEmpty = secret.isEmpty := by
  unfold masked
  by_cases h : secret.isEmpty = true
  · rw [if_pos h, h]
    rfl
  · rw [if_neg h, Bool.eq_false_iff.2 h]
    rfl

theorem masked_eq_masked (h : secret.isEmpty = other.isEmpty) : secret.masked = other.masked := by
  rw [masked, masked, h]

theorem not_mem_expose_masked (secret : Secret) : ':' ∉ secret.masked.expose.toList := by
  unfold masked
  split <;> decide

theorem maskedAfterColon_of_free (h : ':' ∉ secret.expose.toList) :
    secret.maskedAfterColon = secret.masked := by
  rw [maskedAfterColon, Text.splitFirst_eq_none h]

theorem maskedAfterColon_of_split (h : ':' ∉ username)
    (htext : secret.expose.toList = username ++ ':' :: password) :
    secret.maskedAfterColon =
      ⟨String.ofList username ++ ":" ++ (masked ⟨String.ofList password⟩).expose⟩ := by
  rw [maskedAfterColon, htext, Text.splitFirst_append h]

@[simp] theorem isEmpty_maskedAfterColon (secret : Secret) :
    secret.maskedAfterColon.isEmpty = secret.isEmpty := by
  cases hsplit : Text.splitFirst [':'] secret.expose.toList with
  | none => rw [maskedAfterColon, hsplit, isEmpty_masked]
  | some halves =>
      obtain ⟨htext, hfree⟩ := Text.splitFirst_eq_some_iff.1 hsplit
      rw [maskedAfterColon_of_split hfree htext]
      have hcolon : ∀ rest, (halves.1 ++ ':' :: rest).isEmpty = false := by
        intro rest
        cases halves.1 <;> rfl
      rw [isEmpty_eq_toList, isEmpty_eq_toList, htext, hcolon, String.toList_append,
        String.toList_append, String.toList_ofList, List.append_assoc]
      exact hcolon _

end Secret

/-! ## Parts of a connection -/

namespace CloudAuth

def masked (credentials : CloudAuth) : CloudAuth :=
  { credentials with password := credentials.password.masked }

theorem read_maskedAfterColon (value : Secret) :
    read value.maskedAfterColon = masked <$> read value := by
  cases hsplit : Text.splitFirst [':'] value.expose.toList with
  | none =>
      have hfree : Text.splitFirst [':'] value.masked.expose.toList = none :=
        Text.splitFirst_eq_none value.not_mem_expose_masked
      rw [Secret.maskedAfterColon, hsplit]
      simp only [read, hsplit, hfree]
      rfl
  | some halves =>
      obtain ⟨username, password⟩ := halves
      obtain ⟨htext, hfree⟩ := Text.splitFirst_eq_some_iff.1 hsplit
      have hmasked : Text.splitFirst [':'] value.maskedAfterColon.expose.toList =
          some (username, (Secret.masked ⟨String.ofList password⟩).expose.toList) := by
        rw [Secret.maskedAfterColon_of_split hfree htext]
        simpa using Text.splitFirst_append hfree
      have hempty : (Secret.masked ⟨String.ofList password⟩).expose.toList.isEmpty =
          password.isEmpty := by
        rw [← Secret.isEmpty_eq_toList, Secret.isEmpty_masked, Secret.isEmpty_eq_toList,
          String.toList_ofList]
      simp only [read, hsplit, hmasked, hempty]
      split
      · rfl
      · rw [String.ofList_toList]
        rfl

end CloudAuth

def Identity.masked : Identity → Identity
  | .certificateKey certificate key passphrase => .certificateKey certificate key passphrase.masked
  | .keystore path password => .keystore path password.masked

def Trust.masked : Trust → Trust
  | .truststore path password => .truststore path password.masked
  | trust => trust

def Tls.masked : Tls → Tls
  | .disabled => .disabled
  | .enabled mode identity trust => .enabled mode (identity.map Identity.masked) trust.masked

def Credentials.masked : Credentials → Credentials
  | .none => .none
  | .basic username password => .basic username password.masked
  | .apiKey key => .apiKey ⟨key.value.masked⟩
  | .cloudAuth credentials => .cloudAuth credentials.masked

def Connection.masked (connection : Connection) : Connection :=
  { connection with tls := connection.tls.masked, credentials := connection.credentials.masked }

/-! ## What is shown -/

@[simp] theorem Identity.members_masked (identity : Identity) :
    identity.masked.members = identity.members := by
  cases identity <;> rfl

@[simp] theorem Identity.inspect_masked (identity : Identity) :
    identity.masked.inspect = identity.inspect := by
  cases identity <;> rfl

@[simp] theorem Trust.members_masked (trust : Trust) : trust.masked.members = trust.members := by
  cases trust <;> rfl

@[simp] theorem Trust.inspect_masked (trust : Trust) : trust.masked.inspect = trust.inspect := by
  cases trust <;> rfl

@[simp] theorem Trust.name_masked (trust : Trust) : trust.masked.name = trust.name := by
  cases trust <;> rfl

namespace Tls

@[simp] theorem isEnabled_masked (tls : Tls) : tls.masked.isEnabled = tls.isEnabled := by
  cases tls <;> rfl

@[simp] theorem mode?_masked (tls : Tls) : tls.masked.mode? = tls.mode? := by
  cases tls <;> rfl

@[simp] theorem members_masked (tls : Tls) : tls.masked.members = tls.members := by
  cases tls with
  | disabled => rfl
  | enabled mode identity trust => cases identity <;> simp [masked, members]

@[simp] theorem inspect_masked (tls : Tls) : tls.masked.inspect = tls.inspect := by
  cases tls with
  | disabled => rfl
  | enabled mode identity trust => cases identity <;> simp [masked, inspect]

end Tls

namespace Credentials

@[simp] theorem isConfigured_masked (credentials : Credentials) :
    credentials.masked.isConfigured = credentials.isConfigured := by
  cases credentials <;> rfl

@[simp] theorem members_masked (credentials : Credentials) :
    credentials.masked.members = credentials.members := by
  cases credentials <;> rfl

@[simp] theorem inspect_masked (credentials : Credentials) :
    credentials.masked.inspect = credentials.inspect := by
  cases credentials <;> rfl

end Credentials

namespace Connection

/-- What is written of a connection is written of it with masked secrets. -/
@[simp] theorem members_masked (connection : Connection) :
    connection.masked.members = connection.members := by
  simp [masked, members]

@[simp] theorem inspect_masked (connection : Connection) :
    connection.masked.inspect = connection.inspect := by
  simp [masked, inspect]

end Connection

end ClusterLink
