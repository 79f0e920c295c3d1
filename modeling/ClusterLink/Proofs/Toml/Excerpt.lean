import ClusterLink.Proofs.Text.Split
import ClusterLink.Toml.Excerpt

/-!
# Excerpts of texts that differ in one word

Two texts differ in one word, which is on one line. Every span is on the same line and in the same
column of both. The excerpts show the word if the line is the one with the word, and are the same
otherwise.
-/

namespace ClusterLink

namespace Text

variable {mark : Char}

/-- The pieces around a word without the mark do not depend on the word. -/
theorem pieces_around (mark : Char) (before after : List Char) :
    ∃ first last lead trail, first.length = before.count mark ∧
      ∀ word, mark ∉ word → pieces mark (before ++ (word ++ after)) =
        first ++ (lead ++ (word ++ trail)) :: last := by
  induction before with
  | nil =>
      obtain ⟨trail, last, hafter⟩ := List.exists_cons_of_ne_nil (pieces_ne_nil mark after)
      refine ⟨[], last, [], trail, rfl, fun word hword => ?_⟩
      simp only [List.nil_append]
      induction word with
      | nil => exact hafter
      | cons c rest ih =>
          rw [List.mem_cons, not_or] at hword
          rw [List.cons_append, pieces, if_neg (Ne.symm hword.1), ih hword.2]
          rfl
  | cons c before ih =>
      obtain ⟨first, last, lead, trail, hcount, hpieces⟩ := ih
      by_cases hc : c = mark
      · refine ⟨[] :: first, last, lead, trail, ?_, fun word hword => ?_⟩
        · rw [hc, List.count_cons_self, List.length_cons, hcount]
        · rw [List.cons_append, pieces, if_pos hc, hpieces word hword]
          rfl
      · rw [List.count_cons_of_ne hc]
        cases first with
        | nil =>
            refine ⟨[], last, c :: lead, trail, hcount, fun word hword => ?_⟩
            rw [List.cons_append, pieces, if_neg hc, hpieces word hword]
            rfl
        | cons piece first =>
            refine ⟨(c :: piece) :: first, last, lead, trail, hcount, fun word hword => ?_⟩
            rw [List.cons_append, pieces, if_neg hc, hpieces word hword]
            rfl

end Text

namespace Toml.Excerpt

variable {text other : List Char} {span : Span} {message : String}

def breaks (text : List Char) : List Bool := text.map (· == '\n')

def sizes (text : List Char) : List Nat := text.map Char.utf8Size

theorem count_eq_of_breaks (h : breaks text = breaks other) :
    text.count '\n' = other.count '\n' := by
  have hcount (text : List Char) : text.count '\n' = (breaks text).countP id := by
    rw [breaks, List.countP_map]
    rfl
  rw [hcount, hcount, h]

theorem run_eq_of_breaks (h : breaks text = breaks other) :
    (text.takeWhile (· != '\n')).length = (other.takeWhile (· != '\n')).length := by
  have hrun (text : List Char) :
      (text.takeWhile (· != '\n')).length = ((breaks text).takeWhile (!·)).length := by
    rw [breaks, List.takeWhile_map, List.length_map]
    rfl
  rw [hrun, hrun, h]

theorem byteCount_eq_of_sizes (h : sizes text = sizes other) :
    byteCount text = byteCount other := by
  have hcount (text : List Char) : byteCount text = (sizes text).foldr (· + ·) 0 := by
    rw [sizes, List.foldr_map]
    rfl
  rw [hcount, hcount, h]

theorem place_eq_of_breaks (h : breaks text = breaks other) (span : Span) :
    (ofSpan text span).lineNumber = (ofSpan other span).lineNumber ∧
      (ofSpan text span).column = (ofSpan other span).column := by
  have hlength : text.length = other.length := by
    simpa only [breaks, List.length_map] using congrArg List.length h
  have hbefore : breaks (text.take (text.length - span.start)) =
      breaks (other.take (other.length - span.start)) := by
    rw [breaks, breaks, List.map_take, List.map_take, hlength]
    exact congrArg _ h
  have hreversed : breaks (text.take (text.length - span.start)).reverse =
      breaks (other.take (other.length - span.start)).reverse := by
    rw [breaks, breaks, List.map_reverse, List.map_reverse]
    exact congrArg _ hbefore
  exact ⟨congrArg (· + 1) (count_eq_of_breaks hbefore),
    congrArg (· + 1) (run_eq_of_breaks hreversed)⟩

/-! ## One word -/

section Word

variable {before after word letters : List Char}

theorem breaks_word (hword : '\n' ∉ word) (hletters : '\n' ∉ letters)
    (hlength : word.length = letters.length) :
    breaks (before ++ (word ++ after)) = breaks (before ++ (letters ++ after)) := by
  have hnone {word : List Char} (h : '\n' ∉ word) :
      breaks word = List.replicate word.length false :=
    List.map_eq_replicate_iff.2 fun c hc => beq_false_of_ne fun hbreak => h (hbreak ▸ hc)
  have hsame : breaks word = breaks letters := by rw [hnone hword, hnone hletters, hlength]
  simp only [breaks, List.map_append] at hsame ⊢
  rw [hsame]

theorem sizes_covered (before after : List Char) (h : sizes word = sizes letters)
    (skipped covered : Nat) :
    sizes (((before ++ (word ++ after)).drop skipped).take covered) =
      sizes (((before ++ (letters ++ after)).drop skipped).take covered) := by
  simp only [sizes, List.map_take, List.map_drop, List.map_append] at h ⊢
  rw [h]

theorem getD_of_ne {first last : List (List Char)} {line otherLine : List Char} {index : Nat}
    (h : index ≠ first.length) :
    (first ++ line :: last).getD index [] = (first ++ otherLine :: last).getD index [] := by
  simp only [List.getD_eq_getElem?_getD, List.getElem?_append]
  split
  · rfl
  · obtain ⟨more, hmore⟩ := Nat.exists_eq_add_one_of_ne_zero (by omega : index - first.length ≠ 0)
    rw [hmore, List.getElem?_cons_succ, List.getElem?_cons_succ]

/-- The line with the word shows the word between what stands before and after it. -/
theorem line_of_word (hword : '\n' ∉ word) (hletters : '\n' ∉ letters)
    (hlength : word.length = letters.length)
    (hline : (ofSpan (before ++ (word ++ after)) span).lineNumber = before.count '\n' + 1) :
    ∃ lead trail, (ofSpan (before ++ (word ++ after)) span).line = lead ++ (word ++ trail) ∧
      (ofSpan (before ++ (letters ++ after)) span).line = lead ++ (letters ++ trail) := by
  obtain ⟨first, last, lead, trail, hcount, hpieces⟩ := Text.pieces_around '\n' before after
  have hother := (place_eq_of_breaks (breaks_word hword hletters hlength) span).1.symm.trans hline
  refine ⟨lead, trail, ?_, ?_⟩
  · simp only [ofSpan] at hline ⊢
    rw [Nat.add_right_cancel hline, hpieces word hword]
    simp [← hcount]
  · simp only [ofSpan] at hother ⊢
    rw [Nat.add_right_cancel hother, hpieces letters hletters]
    simp [← hcount]

/-- The other lines do not depend on the word. -/
theorem ofSpan_eq_of_word (hword : '\n' ∉ word) (hletters : '\n' ∉ letters)
    (hsizes : sizes word = sizes letters)
    (hline : (ofSpan (before ++ (word ++ after)) span).lineNumber ≠ before.count '\n' + 1) :
    ofSpan (before ++ (word ++ after)) span = ofSpan (before ++ (letters ++ after)) span := by
  have hlength : word.length = letters.length := by
    simpa only [sizes, List.length_map] using congrArg List.length hsizes
  obtain ⟨first, last, lead, trail, hcount, hpieces⟩ := Text.pieces_around '\n' before after
  obtain ⟨hnumber, hcolumn⟩ := place_eq_of_breaks (breaks_word hword hletters hlength) span
  have hsame : (ofSpan (before ++ (word ++ after)) span).line =
      (ofSpan (before ++ (letters ++ after)) span).line := by
    simp only [ofSpan] at hline hnumber ⊢
    rw [← Nat.add_right_cancel hnumber, hpieces word hword, hpieces letters hletters]
    exact getD_of_ne fun h => hline (congrArg (· + 1) (h.trans hcount))
  have hcovered := byteCount_eq_of_sizes (sizes_covered before after hsizes
    ((before ++ (word ++ after)).length - span.start) (span.start - span.stop))
  have htotal : (before ++ (word ++ after)).length = (before ++ (letters ++ after)).length := by
    simp only [List.length_append, hlength]
  refine mk.injEq .. |>.mpr ⟨hnumber, hcolumn, hsame, ?_⟩
  have hoffset := Nat.add_right_cancel hcolumn
  simp only [ofSpan] at hsame
  rw [hcovered, hoffset, hsame, htotal]

end Word

/-! ## Reports -/

def heading (number column : Nat) : String :=
  "TOML parse error at line " ++ toString number ++ ", column " ++ toString column ++ "\n" ++
    String.ofList (List.replicate ((toString number).length + 1) ' ') ++ "|\n" ++
    toString number ++ " | "

theorem report_eq (excerpt : Excerpt) (message : String) :
    ∃ trail, excerpt.report message =
      heading excerpt.lineNumber excerpt.column ++ String.ofList excerpt.line ++ trail := by
  let pad := String.ofList (List.replicate ((toString excerpt.lineNumber).length + 1) ' ')
  let lead := String.ofList (List.replicate excerpt.column ' ')
  let mark := String.ofList (List.replicate excerpt.width '^')
  refine ⟨"\n" ++ pad ++ "|" ++ lead ++ mark ++ "\n" ++ message ++ "\n", ?_⟩
  unfold report heading
  simp only [String.append_assoc, pad, lead, mark]

theorem toList_report (excerpt : Excerpt) (message : String) :
    ∃ trail, (excerpt.report message).toList =
      (heading excerpt.lineNumber excerpt.column).toList ++ (excerpt.line ++ trail) := by
  obtain ⟨trail, htrail⟩ := report_eq excerpt message
  refine ⟨trail.toList, ?_⟩
  rw [htrail, String.toList_append, String.toList_append, String.toList_ofList, List.append_assoc]

theorem infix_report (excerpt : Excerpt) (message : String) :
    excerpt.line <:+: (excerpt.report message).toList := by
  obtain ⟨trail, htrail⟩ := toList_report excerpt message
  exact ⟨_, trail, by rw [htrail, List.append_assoc]⟩

/-- A report shows the line that it is about. -/
theorem line_eq_of_report_eq {excerpt other : Excerpt}
    (hnumber : excerpt.lineNumber = other.lineNumber) (hcolumn : excerpt.column = other.column)
    (hlength : excerpt.line.length = other.line.length)
    (h : excerpt.report message = other.report message) : excerpt.line = other.line := by
  obtain ⟨trail, htrail⟩ := toList_report excerpt message
  obtain ⟨otherTrail, hother⟩ := toList_report other message
  rw [h, hother, hnumber, hcolumn] at htrail
  exact (List.append_inj (List.append_cancel_left htrail.symm) hlength).1

end Toml.Excerpt

end ClusterLink
