/-!
# Cutting text

A text is cut at the first occurrence of a mark, at the last occurrence of a character, or at
every occurrence of a character. What is cut off and what is left always make up the text again.
-/

namespace ClusterLink.Text

def dropLead? : List Char → List Char → Option (List Char)
  | [], text => some text
  | _ :: _, [] => none
  | l :: lead, c :: text => if l = c then dropLead? lead text else none

def splitFirst (mark : List Char) : List Char → Option (List Char × List Char)
  | [] => (dropLead? mark []).map fun rest => ([], rest)
  | c :: text =>
      match dropLead? mark (c :: text) with
      | some rest => some ([], rest)
      | none => (splitFirst mark text).map fun halves => (c :: halves.1, halves.2)

def splitLast (mark : Char) : List Char → Option (List Char × List Char)
  | [] => none
  | c :: text =>
      match splitLast mark text with
      | some halves => some (c :: halves.1, halves.2)
      | none => if c = mark then some ([], text) else none

/-- The pieces between the occurrences of `mark`; there is one more piece than occurrences. -/
def pieces (mark : Char) : List Char → List (List Char)
  | [] => [[]]
  | c :: text =>
      if c = mark then [] :: pieces mark text
      else
        match pieces mark text with
        | [] => [[c]]
        | first :: others => (c :: first) :: others

theorem dropLead?_eq_some_iff {lead text rest : List Char} :
    dropLead? lead text = some rest ↔ text = lead ++ rest := by
  induction lead generalizing text with
  | nil => simp [dropLead?]
  | cons l lead ih =>
      cases text with
      | nil => simp [dropLead?]
      | cons c text =>
          by_cases h : l = c
          · simp [dropLead?, h, ih]
          · simp [dropLead?, h, Ne.symm h]

theorem append_of_splitFirst {mark text before after : List Char}
    (h : splitFirst mark text = some (before, after)) : text = before ++ mark ++ after := by
  induction text generalizing before with
  | nil =>
      simp only [splitFirst, Option.map_eq_some_iff, Prod.mk.injEq] at h
      obtain ⟨rest, hrest, rfl, rfl⟩ := h
      simpa using dropLead?_eq_some_iff.1 hrest
  | cons c text ih =>
      unfold splitFirst at h
      split at h
      · rename_i rest hrest
        cases h
        simpa using dropLead?_eq_some_iff.1 hrest
      · simp only [Option.map_eq_some_iff, Prod.mk.injEq] at h
        obtain ⟨halves, hhalves, rfl, rfl⟩ := h
        simp [ih hhalves]

theorem append_of_splitLast {mark : Char} {text before after : List Char}
    (h : splitLast mark text = some (before, after)) : text = before ++ mark :: after := by
  induction text generalizing before with
  | nil => simp [splitLast] at h
  | cons c text ih =>
      unfold splitLast at h
      split at h
      · rename_i halves hhalves
        cases h
        simp [ih hhalves]
      · split at h
        · cases h; simp_all
        · simp at h

theorem pieces_ne_nil (mark : Char) (text : List Char) : pieces mark text ≠ [] := by
  cases text with
  | nil => simp [pieces]
  | cons c text =>
      unfold pieces
      split
      · simp
      · split <;> simp

end ClusterLink.Text
