import ClusterLink.Text.Split

/-!
# Cutting at one character

A text is cut at the first occurrence of a character exactly into a part without the character,
the character, and the rest; it is not cut exactly if the character does not occur. The pieces
between all occurrences are those of the library, so text that is joined from pieces without the
character falls into them again.
-/

namespace ClusterLink.Text

variable {mark : Char} {others text before after : List Char}

/-- A part without the first character of a mark is passed over. -/
theorem splitFirst_append_left (h : mark ∉ before) :
    splitFirst (mark :: others) (before ++ text) =
      (splitFirst (mark :: others) text).map fun halves => (before ++ halves.1, halves.2) := by
  induction before with
  | nil => simp
  | cons c before ih =>
      rw [List.mem_cons, not_or] at h
      have hlead : dropLead? (mark :: others) (c :: (before ++ text)) = none := by
        simp [dropLead?, h.1]
      rw [List.cons_append, splitFirst, hlead, ih h.2, Option.map_map]
      rfl

theorem splitFirst_of_dropLead? (h : dropLead? (mark :: others) text = some after) :
    splitFirst (mark :: others) text = some ([], after) := by
  cases text with
  | nil => cases h
  | cons c text => rw [splitFirst, h]

theorem splitFirst_append_mark (h : mark ∉ before) :
    splitFirst (mark :: others) (before ++ (mark :: others ++ after)) = some (before, after) := by
  have hlead : dropLead? (mark :: others) (mark :: others ++ after) = some after :=
    dropLead?_eq_some_iff.2 rfl
  rw [splitFirst_append_left h, splitFirst_of_dropLead? hlead, Option.map_some, List.append_nil]

theorem dropLead?_eq_none_iff {lead : List Char} : dropLead? lead text = none ↔ ¬ lead <+: text := by
  rw [Option.eq_none_iff_forall_ne_some]
  constructor
  · rintro h ⟨rest, hrest⟩
    exact h rest (dropLead?_eq_some_iff.2 hrest.symm)
  · intro h rest hrest
    exact h ⟨rest, (dropLead?_eq_some_iff.1 hrest).symm⟩

/-- A text is cut at a mark unless it holds none. -/
theorem splitFirst_eq_none_iff {lead : List Char} :
    splitFirst lead text = none ↔ ¬ lead <:+: text := by
  induction text with
  | nil => rw [splitFirst, Option.map_eq_none_iff, dropLead?_eq_none_iff, List.infix_nil,
      List.prefix_nil]
  | cons c text ih =>
      rw [splitFirst, List.infix_cons_iff, not_or, ← dropLead?_eq_none_iff, ← ih]
      cases dropLead? lead (c :: text) <;> simp

/-- Where a text is cut does not depend on what follows the mark. -/
theorem splitFirst_append_other (h : splitFirst (mark :: others) text = some (before, after))
    (other : List Char) :
    splitFirst (mark :: others) (before ++ (mark :: others ++ other)) = some (before, other) := by
  induction text generalizing before with
  | nil => cases h
  | cons c text ih =>
      rw [splitFirst] at h
      split at h
      · cases h
        exact splitFirst_of_dropLead? (dropLead?_eq_some_iff.2 rfl)
      · rename_i hlead
        obtain ⟨⟨front, back⟩, hcut, hhalves⟩ := Option.map_eq_some_iff.1 h
        cases hhalves
        have htext : text = front ++ (mark :: others) ++ back := append_of_splitFirst hcut
        have hsame :
            dropLead? (mark :: others) (c :: (front ++ (mark :: others ++ other))) = none := by
          rw [dropLead?_eq_none_iff] at hlead ⊢
          intro hprefix
          have hfront : c :: (front ++ (mark :: others)) <+:
              c :: (front ++ (mark :: others ++ other)) := ⟨other, by simp⟩
          have hshort : mark :: others <+: c :: (front ++ (mark :: others)) :=
            List.prefix_of_prefix_length_le hprefix hfront (by simp; omega)
          exact hlead (hshort.trans ⟨back, by simp [htext]⟩)
        rw [List.cons_append, splitFirst, hsame, ih hcut]
        rfl

/-- A mark that does not start in the front of a text stands in the rest of it. -/
theorem infix_append_left_iff (h : mark ∉ before) :
    mark :: others <:+: before ++ text ↔ mark :: others <:+: text := by
  have hcut : splitFirst (mark :: others) (before ++ text) = none ↔
      splitFirst (mark :: others) text = none := by
    rw [splitFirst_append_left h, Option.map_eq_none_iff]
  rw [splitFirst_eq_none_iff, splitFirst_eq_none_iff] at hcut
  simpa using not_congr hcut

theorem splitFirst_eq_none (h : mark ∉ text) : splitFirst (mark :: others) text = none := by
  rw [splitFirst_eq_none_iff]
  intro hmark
  exact h (hmark.subset List.mem_cons_self)

theorem splitFirst_append (h : mark ∉ before) :
    splitFirst [mark] (before ++ mark :: after) = some (before, after) :=
  splitFirst_append_mark h

theorem mem_of_splitFirst (h : splitFirst [mark] text = some (before, after)) : mark ∈ text := by
  rw [append_of_splitFirst h]
  simp

theorem splitFirst_eq_some_iff :
    splitFirst [mark] text = some (before, after) ↔
      text = before ++ mark :: after ∧ mark ∉ before := by
  constructor
  · intro h
    obtain ⟨front, back, rfl, hfree⟩ := List.eq_append_cons_of_mem (mem_of_splitFirst h)
    rw [splitFirst_append hfree] at h
    cases h
    exact ⟨rfl, hfree⟩
  · rintro ⟨rfl, hfree⟩
    exact splitFirst_append hfree

theorem splitLast_eq_none (h : mark ∉ text) : splitLast mark text = none := by
  cases hsplit : splitLast mark text with
  | none => rfl
  | some halves =>
      have htext : text = halves.1 ++ mark :: halves.2 := append_of_splitLast hsplit
      exact absurd (by simp [htext]) h

theorem splitLast_append_mark (h : mark ∉ after) :
    splitLast mark (before ++ mark :: after) = some (before, after) := by
  induction before with
  | nil => rw [List.nil_append, splitLast, splitLast_eq_none h, if_pos rfl]
  | cons c before ih => rw [List.cons_append, splitLast, ih]

/-- A text that holds a mark is cut at the last one. -/
theorem exists_splitLast (h : mark ∈ text) :
    ∃ before after, text = before ++ mark :: after ∧ mark ∉ after ∧
      splitLast mark text = some (before, after) := by
  obtain ⟨back, front, hreverse, hfree⟩ := List.eq_append_cons_of_mem (List.mem_reverse.2 h)
  have htext : text = front.reverse ++ mark :: back.reverse := by
    rw [← List.reverse_reverse text, hreverse]
    simp
  have hback : mark ∉ back.reverse := fun hmem => hfree (List.mem_reverse.1 hmem)
  exact ⟨front.reverse, back.reverse, htext, hback, by rw [htext, splitLast_append_mark hback]⟩

/-- What follows the last mark, or all of a text without one, ends the text. -/
theorem splitLast_suffix (mark : Char) (text : List Char) :
    ((splitLast mark text).map (·.2)).getD text <:+ text := by
  cases hsplit : splitLast mark text with
  | none => exact List.suffix_rfl
  | some halves =>
      have hcut : text = halves.1 ++ mark :: halves.2 := append_of_splitLast hsplit
      exact ⟨halves.1 ++ [mark], by simp [hcut]⟩

/-! ## Pieces -/

theorem pieces_eq_splitOn (mark : Char) (text : List Char) :
    pieces mark text = text.splitOn mark := by
  induction text with
  | nil => rfl
  | cons c text ih =>
      rw [pieces, List.splitOn_cons_eq_if_modifyHead, ih]
      by_cases hmark : c = mark
      · rw [if_pos hmark, if_pos (by simpa using hmark)]
      · rw [if_neg hmark, if_neg (by simpa using hmark)]
        obtain ⟨first, rest, hpieces⟩ := List.exists_cons_of_ne_nil (List.splitOn_ne_nil mark text)
        rw [hpieces]
        rfl

theorem pieces_intercalate {parts : List (List Char)} (h : ∀ part ∈ parts, mark ∉ part)
    (hnonempty : parts ≠ []) : pieces mark ([mark].intercalate parts) = parts := by
  rw [pieces_eq_splitOn, List.splitOn_intercalate mark h hnonempty]

theorem not_mem_of_mem_pieces {part : List Char} (h : part ∈ pieces mark text) : mark ∉ part := by
  induction text generalizing part with
  | nil => simp_all [pieces]
  | cons c text ih =>
      obtain ⟨first, rest, hpieces⟩ := List.exists_cons_of_ne_nil (pieces_ne_nil mark text)
      rw [pieces, hpieces] at h
      by_cases hmark : c = mark
      · rw [if_pos hmark, ← hpieces] at h
        rcases List.mem_cons.1 h with rfl | hpart
        · simp
        · exact ih hpart
      · rw [if_neg hmark] at h
        rcases List.mem_cons.1 h with rfl | hpart
        · rw [List.mem_cons, not_or]
          exact ⟨Ne.symm hmark, ih (by simp [hpieces])⟩
        · exact ih (by simp [hpieces, hpart])

end ClusterLink.Text
