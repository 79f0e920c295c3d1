/-!
# Letters in two cases

The letters of ASCII by their numbers, and what becomes of a character in lower case.
-/

namespace ClusterLink.Text

variable {c : Char}

theorem isUpper_iff : c.isUpper = true ↔ 65 ≤ c.toNat ∧ c.toNat ≤ 90 := decide_eq_true_iff

theorem isLower_iff : c.isLower = true ↔ 97 ≤ c.toNat ∧ c.toNat ≤ 122 :=
  Bool.and_eq_true_iff.trans (and_congr decide_eq_true_iff decide_eq_true_iff)

theorem isDigit_iff : c.isDigit = true ↔ 48 ≤ c.toNat ∧ c.toNat ≤ 57 := Char.isDigit_iff_toNat

theorem isAlpha_iff : c.isAlpha = true ↔ c.isUpper = true ∨ c.isLower = true :=
  Bool.or_eq_true_iff

theorem isAlphanum_iff : c.isAlphanum = true ↔ c.isAlpha = true ∨ c.isDigit = true :=
  Bool.or_eq_true_iff

theorem toLower_eq_self (h : ¬c.isUpper = true) : c.toLower = c :=
  dif_neg fun hupper => h (decide_eq_true hupper)

theorem toNat_toLower (h : c.isUpper = true) : c.toLower.toNat = c.toNat + 32 := by
  obtain ⟨hlow, hhigh⟩ := isUpper_iff.1 h
  have hlower : c.toLower = ⟨c.val + 32, _⟩ := dif_pos (of_decide_eq_true h)
  have hsum : (c.val + 32).toNat = (c.toNat + 32) % 4294967296 := UInt32.toNat_add c.val 32
  rw [hlower]
  exact hsum.trans (Nat.mod_eq_of_lt (by omega))

theorem not_isUpper_toLower (c : Char) : ¬c.toLower.isUpper = true := by
  by_cases hupper : c.isUpper = true
  · have hlow := (isUpper_iff.1 hupper).1
    rw [isUpper_iff, toNat_toLower hupper]
    omega
  · rwa [toLower_eq_self hupper]

theorem toLower_toLower (c : Char) : c.toLower.toLower = c.toLower :=
  toLower_eq_self (not_isUpper_toLower c)

theorem isLower_toLower_iff : c.toLower.isLower = true ↔ c.isAlpha = true := by
  rw [isAlpha_iff]
  by_cases hupper : c.isUpper = true
  · obtain ⟨hlow, hhigh⟩ := isUpper_iff.1 hupper
    rw [isLower_iff, toNat_toLower hupper]
    exact iff_of_true (by omega) (.inl hupper)
  · rw [toLower_eq_self hupper]
    exact (or_iff_right hupper).symm

theorem isAlpha_toLower (h : c.isAlpha = true) : c.toLower.isAlpha = true :=
  isAlpha_iff.2 (.inr (isLower_toLower_iff.2 h))

theorem isAlphanum_toLower (h : c.isAlphanum = true) : c.toLower.isAlphanum = true := by
  rcases isAlphanum_iff.1 h with halpha | hdigit
  · exact isAlphanum_iff.2 (.inl (isAlpha_toLower halpha))
  · have hupper : ¬c.isUpper = true := by
      rw [isUpper_iff]
      have hhigh := (isDigit_iff.1 hdigit).2
      omega
    rwa [toLower_eq_self hupper]

end ClusterLink.Text
