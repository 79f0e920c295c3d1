import ClusterLink.Proofs.Toml.Steadiness.Values

/-!
# Delimited values

Characters that stand for themselves are read between delimiters as they are, in every written form
of a string. What is left does not depend on them.
-/

namespace ClusterLink.Toml

/-- A character that stands for itself in every string: no control, quote or backslash. -/
def IsPlain (c : Char) : Prop := isControl c = false ∧ c ≠ '"' ∧ c ≠ '\'' ∧ c ≠ '\\'

instance : DecidablePred IsPlain := fun c =>
  inferInstanceAs (Decidable (isControl c = false ∧ c ≠ '"' ∧ c ≠ '\'' ∧ c ≠ '\\'))

def delimiter (quote : Char) (isLong : Bool) : List Char :=
  List.replicate (if isLong then 3 else 1) quote

variable {letters after : List Char}

theorem readBasicFrom_plain {fuel : Nat} (hplain : ∀ c ∈ letters, IsPlain c)
    (hfuel : letters.length < fuel) :
    readBasicFrom fuel (letters ++ '"' :: after) = some (letters, after) := by
  induction letters generalizing fuel with
  | nil =>
      obtain ⟨fuel, rfl⟩ := Nat.exists_eq_add_one_of_ne_zero (Nat.ne_zero_of_lt hfuel)
      rfl
  | cons c rest ih =>
      obtain ⟨fuel, rfl⟩ := Nat.exists_eq_add_one_of_ne_zero (Nat.ne_zero_of_lt hfuel)
      obtain ⟨⟨hcontrol, hbasic, _, hescape⟩, hrest⟩ := List.forall_mem_cons.1 hplain
      have hread := ih hrest (Nat.lt_of_succ_lt_succ hfuel)
      simp [readBasicFrom, hcontrol, hbasic, hescape, hread, prepend]

theorem readLiteral_plain (hplain : ∀ c ∈ letters, IsPlain c) :
    readLiteral (letters ++ '\'' :: after) = some (letters, after) := by
  induction letters with
  | nil => rfl
  | cons c rest ih =>
      obtain ⟨⟨hcontrol, _, hliteral, _⟩, hrest⟩ := List.forall_mem_cons.1 hplain
      simp [readLiteral, hcontrol, hliteral, ih hrest, prepend]

theorem closing?_plain {quote c : Char} {text : List Char} (h : c ≠ quote) :
    closing? quote (c :: text) = none := by
  simp [closing?, h]

theorem readLongBasicFrom_plain {fuel : Nat} {tail extra rest : List Char}
    (hplain : ∀ c ∈ letters, IsPlain c) (hclosing : closing? '"' tail = some (extra, rest))
    (hfuel : letters.length < fuel) :
    readLongBasicFrom fuel (letters ++ tail) = some (letters ++ extra, rest) := by
  induction letters generalizing fuel with
  | nil =>
      obtain ⟨fuel, rfl⟩ := Nat.exists_eq_add_one_of_ne_zero (Nat.ne_zero_of_lt hfuel)
      cases tail with
      | nil => cases hclosing
      | cons c tail => simp [readLongBasicFrom, hclosing]
  | cons c letters ih =>
      obtain ⟨fuel, rfl⟩ := Nat.exists_eq_add_one_of_ne_zero (Nat.ne_zero_of_lt hfuel)
      obtain ⟨⟨hcontrol, hbasic, _, hescape⟩, hrest⟩ := List.forall_mem_cons.1 hplain
      have hread := ih hrest (Nat.lt_of_succ_lt_succ hfuel)
      simp [readLongBasicFrom, closing?_plain hbasic, hcontrol, hescape, hread, prepend]

theorem readLongLiteralFrom_plain {tail extra rest : List Char}
    (hplain : ∀ c ∈ letters, IsPlain c) (hclosing : closing? '\'' tail = some (extra, rest)) :
    readLongLiteralFrom (letters ++ tail) = some (letters ++ extra, rest) := by
  induction letters with
  | nil =>
      cases tail with
      | nil => cases hclosing
      | cons c tail => simp [readLongLiteralFrom, hclosing]
  | cons c letters ih =>
      obtain ⟨⟨hcontrol, _, hliteral, _⟩, hrest⟩ := List.forall_mem_cons.1 hplain
      simp [readLongLiteralFrom, closing?_plain hliteral, hcontrol, ih hrest, prepend]

theorem closing?_delimiter (quote : Char) (after : List Char) :
    ∃ extra rest, closing? quote (delimiter quote true ++ after) = some (extra, rest) ∧
      extra.length + rest.length = after.length := by
  have hrun : ((delimiter quote true ++ after).takeWhile (· == quote)).length =
      3 + (after.takeWhile (· == quote)).length :=
    run_append (fun c hc => by simp [List.eq_of_mem_replicate hc]) after
  have hshort := (List.takeWhile_prefix (l := after) (· == quote)).length_le
  have hquotes : ¬ 3 + (after.takeWhile (· == quote)).length < 3 := by omega
  simp only [closing?, hrun, if_neg hquotes]
  refine ⟨_, _, rfl, ?_⟩
  simp only [delimiter, List.length_replicate, List.length_drop, List.length_append, if_true]
  omega

/-- Letters keep the quotes of a short delimiter from being taken for those of a long one. -/
theorem readString_short {quote : Char} (hquote : quote = '"' ∨ quote = '\'')
    (hwritten : letters ≠ []) (hplain : ∀ c ∈ letters, IsPlain c) (tail : List Char) :
    readString (quote :: (letters ++ tail)) =
      if quote = '"' then readBasic (letters ++ tail) else readLiteral (letters ++ tail) := by
  obtain ⟨c, letters, rfl⟩ := List.exists_cons_of_ne_nil hwritten
  obtain ⟨_, hbasic, hliteral, _⟩ := hplain c List.mem_cons_self
  rcases hquote with rfl | rfl
  · rw [List.cons_append, readString, if_pos rfl]
    intro rest h
    exact hbasic (List.cons.inj h).1
  · rw [List.cons_append, readString, if_neg (by decide)]
    intro rest h
    exact hliteral (List.cons.inj h).1

theorem dropLineBreak_plain (hwritten : letters ≠ []) (hplain : ∀ c ∈ letters, IsPlain c)
    (tail : List Char) : dropLineBreak (letters ++ tail) = letters ++ tail := by
  obtain ⟨c, letters, rfl⟩ := List.exists_cons_of_ne_nil hwritten
  have hcontrol := (hplain c List.mem_cons_self).1
  have hbreak : lineBreak? (c :: (letters ++ tail)) = none := by
    refine lineBreak?_cons_eq_none ?_ ?_
    · rintro rfl
      exact absurd hcontrol (by decide)
    · rintro left rfl
      exact absurd hcontrol (by decide)
  rw [dropLineBreak, List.cons_append, hbreak]
  rfl

/-- A string on several lines may start with a line break, which does not belong to it. -/
def Leads (isLong : Bool) (lead : List Char) : Prop :=
  lead = [] ∨ isLong = true ∧ (lead = ['\n'] ∨ lead = ['\r', '\n'])

theorem dropLineBreak_lead {lead : List Char} (hlead : Leads true lead) (hwritten : letters ≠ [])
    (hplain : ∀ c ∈ letters, IsPlain c) (tail : List Char) :
    dropLineBreak (lead ++ (letters ++ tail)) = letters ++ tail := by
  rcases hlead with rfl | ⟨-, rfl | rfl⟩
  · exact dropLineBreak_plain hwritten hplain tail
  · rfl
  · rfl

/--
What is read between delimiters: the letters and what belongs to them of the quotes after them. It
is the same for all letters.
-/
theorem readString_delimited {quote : Char} (hquote : quote = '"' ∨ quote = '\'') {isLong : Bool}
    {lead : List Char} (hlead : Leads isLong lead) (after : List Char) :
    ∃ extra rest, extra.length + rest.length = after.length ∧
      ∀ letters, letters ≠ [] → (∀ c ∈ letters, IsPlain c) →
        readString (delimiter quote isLong ++
            (lead ++ (letters ++ (delimiter quote isLong ++ after)))) =
          some (letters ++ extra, rest) := by
  cases isLong with
  | false =>
      obtain rfl : lead = [] := hlead.resolve_right fun h => Bool.false_ne_true h.1
      refine ⟨[], after, Nat.zero_add _, fun letters hwritten hplain => ?_⟩
      refine (readString_short hquote hwritten hplain _).trans ?_
      rw [List.append_nil]
      rcases hquote with rfl | rfl
      · rw [if_pos rfl]
        exact readBasicFrom_plain hplain (by simp only [List.length_append]; omega)
      · rw [if_neg (by decide)]
        exact readLiteral_plain hplain
  | true =>
      obtain ⟨extra, rest, hclosing, hlength⟩ := closing?_delimiter quote after
      refine ⟨extra, rest, hlength, fun letters hwritten hplain => ?_⟩
      rcases hquote with rfl | rfl
      · have hfuel : letters.length < (letters ++ (delimiter '"' true ++ after)).length + 1 := by
          simp only [List.length_append]
          omega
        have hread := readLongBasicFrom_plain hplain hclosing hfuel
        rw [← dropLineBreak_lead hlead hwritten hplain] at hread
        exact hread
      · have hread := readLongLiteralFrom_plain hplain hclosing
        rw [← dropLineBreak_lead hlead hwritten hplain] at hread
        exact hread

end ClusterLink.Toml
