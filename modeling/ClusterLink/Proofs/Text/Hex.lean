import ClusterLink.Text.Percent
import Mathlib.Algebra.Group.Nat.Defs
import Mathlib.Data.List.Induction

/-!
# Digits that are read back

A number is read back from its hexadecimal digits, and what is read from digits is bounded by their
count. Percent encoding writes nothing but characters that it keeps, so it changes no text twice.
-/

namespace ClusterLink.Text

variable {digits text : List Char} {c : Char} {n value : Nat}

theorem hexDigit?_digitChar (h : n < 16) : hexDigit? (Nat.digitChar n) = some n := by
  revert n
  decide

/-- Digits lie between `0` and `f`, and each says a number below sixteen. -/
theorem bounds_of_hexDigit? (h : hexDigit? c = some n) :
    48 ≤ c.val.toNat ∧ c.val.toNat ≤ 102 ∧ n < 16 := by
  unfold hexDigit? at h
  simp only [Char.le_def, UInt32.le_iff_toNat_le] at h
  split at h
  · rename_i hdecimal
    change 48 ≤ c.val.toNat ∧ c.val.toNat ≤ 57 at hdecimal
    have hn : c.val.toNat - 48 = n := Option.some.inj h
    omega
  split at h
  · rename_i hlower
    change 97 ≤ c.val.toNat ∧ c.val.toNat ≤ 102 at hlower
    have hn : c.val.toNat - 97 + 10 = n := Option.some.inj h
    omega
  split at h
  · rename_i hupper
    change 65 ≤ c.val.toNat ∧ c.val.toNat ≤ 70 at hupper
    have hn : c.val.toNat - 65 + 10 = n := Option.some.inj h
    omega
  · cases h

theorem hexValue?_concat_eq_some_iff :
    hexValue? (digits ++ [c]) = some value ↔
      ∃ high low, hexValue? digits = some high ∧ hexDigit? c = some low ∧
        value = 16 * high + low := by
  unfold hexValue?
  simp only [List.foldlM_append, List.foldlM_cons, List.foldlM_nil]
  cases List.foldlM (fun value c => (hexDigit? c).map (16 * value + ·)) 0 digits <;>
    cases hexDigit? c <;> simp [eq_comm]

theorem hexValue?_toDigits (n : Nat) : hexValue? (Nat.toDigits 16 n) = some n := by
  induction n using Nat.strongRecOn with
  | ind n ih =>
      by_cases hsmall : n < 16
      · rw [Nat.toDigits_of_lt_base hsmall]
        change hexValue? ([] ++ [Nat.digitChar n]) = some n
        have hvalue : n = 16 * 0 + n := by omega
        exact hexValue?_concat_eq_some_iff.2 ⟨0, n, rfl, hexDigit?_digitChar hsmall, hvalue⟩
      · have hlast : n % 16 < 16 := Nat.mod_lt n (by omega)
        rw [Nat.toDigits_of_base_le (by omega) (by omega)]
        exact hexValue?_concat_eq_some_iff.2
          ⟨n / 16, n % 16, ih (n / 16) (by omega), hexDigit?_digitChar hlast, by omega⟩

theorem lt_of_hexValue? (h : hexValue? digits = some value) : value < 16 ^ digits.length := by
  induction digits using List.reverseRecOn generalizing value with
  | nil =>
      cases h
      decide
  | append_singleton digits c ih =>
      obtain ⟨high, low, hhigh, hlow, rfl⟩ := hexValue?_concat_eq_some_iff.1 h
      have hhead := ih hhigh
      obtain ⟨-, -, hdigit⟩ := bounds_of_hexDigit? hlow
      rw [List.length_append, List.length_singleton, Nat.pow_succ]
      omega

theorem isSome_hexDigit?_of_hexValue? (h : hexValue? digits = some value) :
    ∀ c ∈ digits, (hexDigit? c).isSome = true := by
  induction digits using List.reverseRecOn generalizing value with
  | nil => simp
  | append_singleton digits c ih =>
      obtain ⟨high, low, hhigh, hlow, -⟩ := hexValue?_concat_eq_some_iff.1 h
      intro d hmem
      rcases List.mem_append.1 hmem with hfront | hlast
      · exact ih hhigh d hfront
      · rw [List.mem_singleton] at hlast
        rw [hlast, hlow]
        rfl

theorem isSome_hexDigit?_of_mem_toDigits (h : c ∈ Nat.toDigits 16 n) :
    (hexDigit? c).isSome = true :=
  isSome_hexDigit?_of_hexValue? (hexValue?_toDigits n) c h

/-! ## Percent encoding -/

/-- A text that is encoded holds characters that it keeps, and the ones that encode others. -/
theorem mem_percentEncode {keep : Char → Bool} (h : c ∈ percentEncode keep text) :
    c ∈ text ∧ keep c = true ∨ c = '%' ∨ ∃ n < 16, c = upperHexDigit n := by
  obtain ⟨source, hsource, hmem⟩ := List.mem_flatMap.1 h
  unfold percentChar at hmem
  split at hmem
  · rename_i hkeep
    rw [List.mem_singleton] at hmem
    subst hmem
    exact .inl ⟨hsource, hkeep⟩
  · obtain ⟨byte, -, hbyte⟩ := List.mem_flatMap.1 hmem
    have hbound : byte.toNat < 256 := byte.toNat_lt
    have hdigits : c = '%' ∨ c = upperHexDigit (byte.toNat / 16) ∨
        c = upperHexDigit (byte.toNat % 16) := by simpa [percentByte] using hbyte
    rcases hdigits with hmark | hhigh | hlow
    · exact .inr (.inl hmark)
    · exact .inr (.inr ⟨_, by omega, hhigh⟩)
    · exact .inr (.inr ⟨_, by omega, hlow⟩)

/-- What is kept is kept by an encoding that keeps its own marks. -/
theorem forall_mem_percentEncode {keep property : Char → Bool}
    (htext : ∀ c ∈ text, keep c = true → property c = true) (hmark : property '%' = true)
    (hdigits : ∀ n < 16, property (upperHexDigit n) = true) :
    ∀ c ∈ percentEncode keep text, property c = true := by
  intro c hmem
  rcases mem_percentEncode hmem with ⟨hsource, hkeep⟩ | rfl | ⟨n, hn, rfl⟩
  · exact htext c hsource hkeep
  · exact hmark
  · exact hdigits n hn

end ClusterLink.Text
