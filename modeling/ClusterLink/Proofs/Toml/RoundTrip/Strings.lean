import ClusterLink.Proofs.Toml.Delimited
import ClusterLink.Toml.Writing
import Mathlib.Data.List.TakeWhile
import Mathlib.Tactic.SplitIfs

/-!
# Strings that are read back

Whatever a text holds, it is read back from the string that is written for it. Escapes are read as
the characters that they stand for, and quotes that are kept never end a string before its end.
-/

namespace ClusterLink.Toml

open Text

variable {text rest after written : List Char} {c mark quote : Char}
  {fuel run other allowed quotes : Nat} {keepBreaks : Bool}

/-! ## Escapes -/

structure Escapes (c : Char) (escape : List Char) : Prop where
  read : ∀ after, readEscape (escape ++ after) = some (c, after)
  unbroken : ∀ after, lineBreak? (dropGap (escape ++ after)) = none

theorem escapes_quote : Escapes '"' ['"'] := ⟨fun _ => rfl, fun _ => rfl⟩

theorem escapes_backslash : Escapes '\\' ['\\'] := ⟨fun _ => rfl, fun _ => rfl⟩

theorem scalarChar?_toNat (c : Char) : scalarChar? c.toNat = some c := by
  have hvalid : c.toNat.isValidChar := c.valid
  rw [scalarChar?, dif_pos hvalid]
  rfl

theorem hexValue?_upperHexDigits (h : c.toNat < 256) :
    hexValue? ['0', '0', upperHexDigit (c.toNat / 16), upperHexDigit (c.toNat % 16)] =
      some c.toNat := by
  have hhigh := hexDigit?_upperHexDigit (by omega : c.toNat / 16 < 16)
  have hlow := hexDigit?_upperHexDigit (by omega : c.toNat % 16 < 16)
  have hzero : hexDigit? '0' = some 0 := by decide
  simp only [hexValue?, List.foldlM_cons, List.foldlM_nil, hzero, hhigh, hlow, Option.map_some,
    Option.bind_eq_bind, Option.bind_some, Option.pure_def, Option.some.injEq]
  omega

theorem escapes_control (h : c.toNat < 0x20 ∨ c.toNat = 0x7F) :
    ∃ escape, controlEscape c = '\\' :: escape ∧ Escapes c escape := by
  have hsmall : c.toNat < 256 := by omega
  unfold controlEscape
  split_ifs with hb ht hn hf hr
  · exact ⟨_, rfl, fun _ => hb ▸ rfl, fun _ => rfl⟩
  · exact ⟨_, rfl, fun _ => ht ▸ rfl, fun _ => rfl⟩
  · exact ⟨_, rfl, fun _ => hn ▸ rfl, fun _ => rfl⟩
  · exact ⟨_, rfl, fun _ => hf ▸ rfl, fun _ => rfl⟩
  · exact ⟨_, rfl, fun _ => hr ▸ rfl, fun _ => rfl⟩
  · refine ⟨_, rfl, fun after => ?_, fun _ => rfl⟩
    simp [readEscape, readCodePoint, hexValue?_upperHexDigits hsmall, scalarChar?_toNat]

/-- The ways in which a basic string goes on with a character. -/
inductive EscapedWay (allowed : Nat) (keepBreaks : Bool) (quotes : Nat) (c : Char)
    (rest : List Char) : List Char → Prop
  | quote (isQuote : c = '"') (room : quotes < allowed) :
      EscapedWay allowed keepBreaks quotes c rest
        (c :: escaped allowed keepBreaks (quotes + 1) rest)
  | kept (noQuote : c ≠ '"') (noBackslash : c ≠ '\\')
      (noControl : isControl c = false ∨ c = '\n' ∧ keepBreaks = true) :
      EscapedWay allowed keepBreaks quotes c rest (c :: escaped allowed keepBreaks 0 rest)
  | escape {escape : List Char} (escapes : Escapes c escape) :
      EscapedWay allowed keepBreaks quotes c rest
        ('\\' :: (escape ++ escaped allowed keepBreaks 0 rest))

theorem escaped_cons (allowed : Nat) (keepBreaks : Bool) (quotes : Nat) (c : Char)
    (rest : List Char) :
    EscapedWay allowed keepBreaks quotes c rest
      (escaped allowed keepBreaks quotes (c :: rest)) := by
  rw [escaped]
  split_ifs with hquote hroom hbackslash hbreak hcontrol
  · exact .quote hquote hroom
  · subst hquote
    exact .escape escapes_quote
  · subst hbackslash
    exact .escape escapes_backslash
  · exact .kept hquote hbackslash (.inr hbreak)
  · obtain ⟨escape, hwritten, hescapes⟩ := escapes_control hcontrol
    rw [hwritten]
    exact .escape hescapes
  · refine .kept hquote hbackslash (.inl ?_)
    simp only [not_or] at hcontrol
    simp [isControl, hcontrol]

/-! ## Strings on one line -/

theorem readBasicFrom_escaped (hfuel : (escaped 0 false quotes text).length < fuel) :
    readBasicFrom fuel (escaped 0 false quotes text ++ '"' :: after) = some (text, after) := by
  induction text generalizing quotes fuel with
  | nil =>
      obtain ⟨fuel, rfl⟩ := Nat.exists_eq_add_one_of_ne_zero (Nat.ne_zero_of_lt hfuel)
      rfl
  | cons c rest ih =>
      obtain ⟨fuel, rfl⟩ := Nat.exists_eq_add_one_of_ne_zero (Nat.ne_zero_of_lt hfuel)
      have hway := escaped_cons 0 false quotes c rest
      generalize escaped 0 false quotes (c :: rest) = written at hway hfuel
      cases hway with
      | quote _ hroom => exact absurd hroom (Nat.not_lt_zero _)
      | kept hquote hbackslash hcontrol =>
          have hplain : isControl c = false := hcontrol.resolve_right fun h => Bool.noConfusion h.2
          have hread := ih (Nat.lt_of_succ_lt_succ hfuel)
          simp [readBasicFrom, hquote, hbackslash, hplain, hread, prepend]
      | @escape escape hescapes =>
          have hread : readBasicFrom fuel (escaped 0 false 0 rest ++ '"' :: after) =
              some (rest, after) := ih (by simp only [List.length_cons, List.length_append] at hfuel
                                           omega)
          simp [readBasicFrom, hescapes.read, hread, prepend]

theorem readLiteral_kept (hkept : ∀ c ∈ text, isControl c = false ∧ c ≠ '\'') :
    readLiteral (text ++ '\'' :: after) = some (text, after) := by
  induction text with
  | nil => rfl
  | cons c rest ih =>
      obtain ⟨⟨hcontrol, hquote⟩, hrest⟩ := List.forall_mem_cons.1 hkept
      simp [readLiteral, hcontrol, hquote, ih hrest, prepend]

/-! ## Runs of quotes -/

theorem longestRun_mono (h : run ≤ other) (text : List Char) :
    longestRun mark run text ≤ longestRun mark other text := by
  induction text generalizing run other with
  | nil => exact h
  | cons c rest ih =>
      rw [longestRun, longestRun]
      split
      · exact ih (Nat.succ_le_succ h)
      · omega

theorem run_add_le_longestRun (mark : Char) (run : Nat) (text : List Char) :
    run + (text.takeWhile (· == mark)).length ≤ longestRun mark run text := by
  induction text generalizing run with
  | nil => exact Nat.le_refl run
  | cons c rest ih =>
      rw [longestRun]
      split
      next hmark =>
        have hrest := ih (run + 1)
        simp only [hmark, List.takeWhile_cons, beq_self_eq_true, if_true, List.length_cons]
        omega
      next hmark =>
        have hnone : (c :: rest).takeWhile (· == mark) = [] := by simp [hmark]
        rw [hnone]
        exact Nat.le_max_left _ _

theorem longestRun_tail (mark c : Char) (rest : List Char) :
    longestRun mark 0 rest ≤ longestRun mark 0 (c :: rest) := by
  rw [longestRun]
  split
  · exact longestRun_mono (Nat.zero_le _) rest
  · exact Nat.le_max_right _ _

/-- Quotes that a string ends with stand in front of the closing ones and are told from them. -/
theorem closing?_replicate (hrun : run < 3) (hafter : after.head? ≠ some quote) :
    closing? quote (List.replicate run quote ++ (delimiter quote true ++ after)) =
      some (List.replicate run quote, after) := by
  have hstop : after.takeWhile (· == quote) = [] := by
    cases after with
    | nil => rfl
    | cons c after =>
        have hc : c ≠ quote := fun h => hafter (h ▸ rfl)
        simp [hc]
  have hquotes : List.replicate run quote ++ delimiter quote true =
      List.replicate (run + 3) quote := List.replicate_append_replicate
  have hmatch : ∀ c ∈ List.replicate (run + 3) quote, (c == quote) = true := fun c hc =>
    beq_iff_eq.2 (List.eq_of_mem_replicate hc)
  have hcount := run_append hmatch after
  rw [hstop, List.length_nil, List.length_replicate] at hcount
  have hdrop : (List.replicate (run + 3) quote ++ after).drop (run + 3) = after :=
    List.drop_left' List.length_replicate
  have hkept : min (run + 3 + 0 - 3) 2 = run := by omega
  have hlong : ¬ run + 3 + 0 < 3 := by omega
  rw [← List.append_assoc, hquotes]
  simp only [closing?, hcount, if_neg hlong, hkept, hdrop]

/--
A text with few quotes at its start, in front of the closing ones: if it is nothing but quotes the
string ends with it, and otherwise the string stays open.
-/
theorem closing?_cases (hlead : (text.takeWhile (· == quote)).length < 3)
    (hafter : after.head? ≠ some quote) :
    (∀ c ∈ text, c = quote) ∧
        closing? quote (text ++ (delimiter quote true ++ after)) = some (text, after) ∨
      text ≠ [] ∧ closing? quote (text ++ (delimiter quote true ++ after)) = none := by
  by_cases hall : text.takeWhile (· == quote) = text
  · have hquotes : ∀ c ∈ text, c = quote := fun c hc =>
      beq_iff_eq.1 (List.takeWhile_eq_self_iff.1 hall c hc)
    have htext : text = List.replicate text.length quote := List.eq_replicate_iff.2 ⟨rfl, hquotes⟩
    rw [hall] at hlead
    refine .inl ⟨hquotes, ?_⟩
    rw [htext]
    exact closing?_replicate hlead hafter
  · have hopen : (text.takeWhile (· == quote)).length ≠ text.length := fun h =>
      hall ((List.takeWhile_prefix (· == quote)).eq_of_length h)
    refine .inr ⟨?_, ?_⟩
    · rintro rfl
      exact hopen rfl
    · rw [closing?, List.takeWhile_append, if_neg hopen, if_pos hlead]

/-! ## Strings on several lines -/

theorem eq_of_escaped_quotes (h : ∀ c ∈ escaped allowed keepBreaks quotes text, c = '"') :
    escaped allowed keepBreaks quotes text = text := by
  induction text generalizing quotes with
  | nil => rfl
  | cons c rest ih =>
      have hway := escaped_cons allowed keepBreaks quotes c rest
      generalize escaped allowed keepBreaks quotes (c :: rest) = written at hway h
      cases hway with
      | quote => rw [ih fun d hd => h d (List.mem_cons_of_mem _ hd)]
      | kept hquote => exact absurd (h c List.mem_cons_self) hquote
      | escape => exact absurd (h '\\' List.mem_cons_self) (by decide)

/-- No more quotes than are allowed are kept in a row. -/
theorem lead_escaped_le (h : quotes ≤ allowed) (keepBreaks : Bool) (text : List Char) :
    quotes + ((escaped allowed keepBreaks quotes text).takeWhile (· == '"')).length ≤ allowed := by
  induction text generalizing quotes with
  | nil => exact h
  | cons c rest ih =>
      have hway := escaped_cons allowed keepBreaks quotes c rest
      generalize escaped allowed keepBreaks quotes (c :: rest) = written at hway
      cases hway with
      | quote hquote hroom =>
          have hrest : quotes + 1 + _ ≤ allowed := ih hroom
          simp only [hquote, List.takeWhile_cons, beq_self_eq_true, if_true, List.length_cons]
          omega
      | kept hquote => simpa [hquote] using h
      | escape => simpa using h

/-- A character that is kept in a string on several lines is none that ends the string early. -/
theorem plain_of_kept (h : isControl c = false ∨ c = '\n') :
    c ≠ '\r' ∧ (isControl c && c != '\n') = false := by
  constructor
  · rintro rfl
    exact absurd h (by decide)
  · rcases h with h | rfl
    · rw [h, Bool.false_and]
    · rfl

theorem readLongBasicFrom_kept {left : List Char} (hopen : closing? '"' (c :: left) = none)
    (hbackslash : c ≠ '\\') (hcontrol : isControl c = false ∨ c = '\n') :
    readLongBasicFrom (fuel + 1) (c :: left) = prepend c (readLongBasicFrom fuel left) := by
  obtain ⟨hreturn, hplain⟩ := plain_of_kept hcontrol
  simp [readLongBasicFrom, hopen, hbackslash, hreturn, hplain]

theorem readLongBasicFrom_escape {escape left : List Char} (hescapes : Escapes c escape) :
    readLongBasicFrom (fuel + 1) ('\\' :: (escape ++ left)) =
      prepend c (readLongBasicFrom fuel left) := by
  have hopen : closing? '"' ('\\' :: (escape ++ left)) = none := closing?_plain (by decide)
  simp [readLongBasicFrom, hopen, hescapes.unbroken, hescapes.read]

theorem readLongBasicFrom_escaped (hquotes : quotes ≤ 2)
    (hfuel : (escaped 2 true quotes text).length < fuel) (hafter : after.head? ≠ some '"') :
    readLongBasicFrom fuel (escaped 2 true quotes text ++ (delimiter '"' true ++ after)) =
      some (text, after) := by
  induction text generalizing quotes fuel with
  | nil =>
      have hclosing := closing?_replicate (Nat.zero_lt_succ 2) hafter
      exact readLongBasicFrom_plain (List.forall_mem_nil _) hclosing hfuel
  | cons c rest ih =>
      obtain ⟨fuel, rfl⟩ := Nat.exists_eq_add_one_of_ne_zero (Nat.ne_zero_of_lt hfuel)
      have hlead := lead_escaped_le hquotes true (c :: rest)
      have hshort : ((escaped 2 true quotes (c :: rest)).takeWhile (· == '"')).length < 3 := by
        omega
      have hway := escaped_cons 2 true quotes c rest
      rcases closing?_cases hshort hafter with ⟨hall, hclosing⟩ | ⟨-, hclosing⟩
      · -- only quotes are left of the text, and they stand in front of the closing ones
        rw [eq_of_escaped_quotes hall] at hclosing ⊢
        simp only [List.cons_append] at hclosing ⊢
        rw [readLongBasicFrom, hclosing]
      · generalize escaped 2 true quotes (c :: rest) = written at hway hfuel hclosing
        cases hway with
        | quote hquote hroom =>
            have hplain : isControl c = false := hquote ▸ rfl
            have hbackslash : c ≠ '\\' := hquote ▸ by decide
            have hread := ih hroom (Nat.lt_of_succ_lt_succ hfuel)
            exact (readLongBasicFrom_kept hclosing hbackslash (.inl hplain)).trans
              (congrArg (prepend c) hread)
        | kept hquote hbackslash hcontrol =>
            have hread := ih (Nat.zero_le _) (Nat.lt_of_succ_lt_succ hfuel)
            exact (readLongBasicFrom_kept hclosing hbackslash (hcontrol.imp_right And.left)).trans
              (congrArg (prepend c) hread)
        | @escape escape hescapes =>
            rw [List.length_cons, List.length_append] at hfuel
            rw [List.cons_append, List.append_assoc, readLongBasicFrom_escape hescapes,
              ih (Nat.zero_le _) (by omega)]
            rfl

theorem readLongLiteralFrom_kept (hkept : ∀ c ∈ text, isControl c = false ∨ c = '\n')
    (hrun : longestRun '\'' 0 text < 3) (hafter : after.head? ≠ some '\'') :
    readLongLiteralFrom (text ++ (delimiter '\'' true ++ after)) = some (text, after) := by
  induction text with
  | nil =>
      have hclosing := closing?_replicate (Nat.zero_lt_succ 2) hafter
      exact readLongLiteralFrom_plain (List.forall_mem_nil _) hclosing
  | cons c rest ih =>
      obtain ⟨hcontrol, hrest⟩ := List.forall_mem_cons.1 hkept
      have hlead := run_add_le_longestRun '\'' 0 (c :: rest)
      have hshort : ((c :: rest).takeWhile (· == '\'')).length < 3 := by omega
      rcases closing?_cases hshort hafter with ⟨-, hclosing⟩ | ⟨-, hclosing⟩
      · rw [List.cons_append] at hclosing ⊢
        rw [readLongLiteralFrom, hclosing]
      · obtain ⟨hreturn, hplain⟩ := plain_of_kept hcontrol
        have htail := longestRun_tail '\'' c rest
        rw [List.cons_append] at hclosing ⊢
        rw [readLongLiteralFrom, hclosing]
        simp [hreturn, hplain, ih hrest (by omega), prepend]

/-! ## Written strings -/

/-- A string that needs no escapes holds no control but tabs and line breaks. -/
theorem noControl_of_hasControl (h : (StringTraits.ofText text).hasControl = false) :
    ∀ c ∈ text, isControl c = false ∨ c = '\n' := by
  intro c hc
  have hfree : needsEscape c = false := by
    have hall := List.any_eq_false.1 h c hc
    simpa using hall
  by_cases hbreak : c = '\n'
  · exact .inr hbreak
  · refine .inl ?_
    simpa [needsEscape, isControl, hbreak] using hfree

theorem hasBreak_iff : (StringTraits.ofText text).hasBreak = true ↔ '\n' ∈ text :=
  List.contains_iff_mem

theorem form_eq_literal {traits : StringTraits} (h : traits.form = .literal) :
    traits.hasControl = false ∧ traits.singleRun = 0 ∧ traits.hasBreak = false := by
  unfold StringTraits.form at h
  split_ifs at h with hbasic hliteral
  simpa [and_assoc] using hliteral

theorem form_eq_longLiteral {traits : StringTraits} (h : traits.form = .longLiteral) :
    traits.hasControl = false ∧ traits.singleRun < 3 := by
  unfold StringTraits.form at h
  split_ifs at h with hbasic hliteral hlongBasic hlongLiteral
  simpa using hlongLiteral

theorem not_mem_of_longestRun_eq_zero (h : longestRun mark 0 text = 0) : mark ∉ text := by
  induction text with
  | nil => exact List.not_mem_nil
  | cons c rest ih =>
      have hlead := run_add_le_longestRun mark 0 (c :: rest)
      have htail := longestRun_tail mark c rest
      have hne : c ≠ mark := by
        rintro rfl
        simp only [List.takeWhile_cons, beq_self_eq_true, if_true, List.length_cons] at hlead
        omega
      exact List.not_mem_cons_of_ne_of_not_mem (Ne.symm hne) (ih (by omega))

theorem head_escaped (h : (escaped allowed keepBreaks quotes text).head? = some c) :
    c = '\\' ∨ c ∈ text ∧ (c = '"' → quotes < allowed) ∧ (isControl c = false ∨ c = '\n') := by
  cases text with
  | nil => cases h
  | cons first rest =>
      have hway := escaped_cons allowed keepBreaks quotes first rest
      generalize escaped allowed keepBreaks quotes (first :: rest) = written at hway h
      cases hway with
      | quote hquote hroom =>
          cases h
          exact .inr ⟨List.mem_cons_self, fun _ => hroom, .inl (hquote ▸ rfl)⟩
      | kept hquote _ hcontrol =>
          cases h
          exact .inr ⟨List.mem_cons_self, fun h => absurd h hquote, hcontrol.imp_right And.left⟩
      | escape =>
          cases h
          exact .inl rfl

theorem readString_basic (hafter : after.head? ≠ some '"') :
    readString ('"' :: (escaped 0 false 0 text ++ '"' :: after)) = some (text, after) := by
  have hshort : ∀ more, escaped 0 false 0 text ++ '"' :: after ≠ '"' :: '"' :: more := by
    intro more h
    cases hwritten : escaped 0 false 0 text with
    | nil =>
        rw [hwritten] at h
        exact hafter (congrArg List.head? (List.cons.inj h).2)
    | cons c rest =>
        rw [hwritten] at h
        have hhead : (escaped 0 false 0 text).head? = some '"' := by
          rw [hwritten, (List.cons.inj h).1]
          rfl
        rcases head_escaped hhead with h | ⟨-, hroom, -⟩
        · exact absurd h (by decide)
        · exact Nat.not_lt_zero _ (hroom rfl)
  rw [readString]
  · exact readBasicFrom_escaped (by rw [List.length_append]; omega)
  · exact hshort

/-- A literal string is written on one line only if it is not empty. -/
theorem readString_literal (hform : (StringTraits.ofText text).form = .literal) :
    readString ('\'' :: (text ++ '\'' :: after)) = some (text, after) := by
  obtain ⟨hcontrol, hrun, hbreak⟩ := form_eq_literal hform
  have hquote : '\'' ∉ text := not_mem_of_longestRun_eq_zero hrun
  have hkept : ∀ c ∈ text, isControl c = false ∧ c ≠ '\'' := by
    intro c hc
    refine ⟨(noControl_of_hasControl hcontrol c hc).resolve_right ?_, fun h => hquote (h ▸ hc)⟩
    rintro rfl
    exact absurd (hasBreak_iff.2 hc) (by simp [hbreak])
  have hshort : ∀ more, text ++ '\'' :: after ≠ '\'' :: '\'' :: more := by
    intro more h
    cases text with
    | nil => cases hform
    | cons c rest => exact (hkept c List.mem_cons_self).2 (List.cons.inj h).1
  rw [readString]
  · exact readLiteral_kept hkept
  · exact hshort

/--
The line break in front of a written text is dropped. Without one the text has no line break, and
what is written starts with none.
-/
theorem dropLineBreak_append (hquote : quote = '"' ∨ quote = '\'')
    (hhead : ∀ c ∈ written.head?, c = '\\' ∨ c ∈ text ∧ (isControl c = false ∨ c = '\n')) :
    dropLineBreak ((if (StringTraits.ofText text).hasBreak then ['\n'] else []) ++
        (written ++ quote :: after)) = written ++ quote :: after := by
  have hstart : ∀ c ∈ (written ++ quote :: after).head?, c ≠ '\r' ∧ (c = '\n' → '\n' ∈ text) := by
    intro c hc
    cases written with
    | nil =>
        cases hc
        rcases hquote with rfl | rfl <;> exact ⟨by decide, fun h => absurd h (by decide)⟩
    | cons first more =>
        cases hc
        rcases hhead c rfl with rfl | ⟨hmem, hcontrol⟩
        · exact ⟨by decide, fun h => absurd h (by decide)⟩
        · exact ⟨fun h => absurd (h ▸ hcontrol) (by decide), fun h => h ▸ hmem⟩
  generalize written ++ quote :: after = tail at hstart
  split
  next => rfl
  next hunbroken =>
    rw [hasBreak_iff] at hunbroken
    cases tail with
    | nil => rfl
    | cons c tail =>
        obtain ⟨hreturn, hline⟩ := hstart c rfl
        have hnone : lineBreak? (c :: tail) = none :=
          lineBreak?_cons_eq_none (fun h => hunbroken (hline h)) fun _ hc _ => hreturn hc
        rw [List.nil_append, dropLineBreak, hnone]
        rfl

theorem readString_longBasic (hafter : after.head? ≠ some '"') :
    readString ('"' :: '"' :: '"' ::
        ((if (StringTraits.ofText text).hasBreak then ['\n'] else []) ++
          (escaped 2 true 0 text ++ '"' :: '"' :: '"' :: after))) = some (text, after) := by
  have hhead : ∀ c ∈ (escaped 2 true 0 text).head?,
      c = '\\' ∨ c ∈ text ∧ (isControl c = false ∨ c = '\n') := fun c hc =>
    (head_escaped hc).imp_right fun h => ⟨h.1, h.2.2⟩
  rw [readString, readLongBasic, dropLineBreak_append (.inl rfl) hhead]
  exact readLongBasicFrom_escaped (Nat.zero_le _) (by rw [List.length_append]; omega) hafter

theorem readString_longLiteral (hform : (StringTraits.ofText text).form = .longLiteral)
    (hafter : after.head? ≠ some '\'') :
    readString ('\'' :: '\'' :: '\'' ::
        ((if (StringTraits.ofText text).hasBreak then ['\n'] else []) ++
          (text ++ '\'' :: '\'' :: '\'' :: after))) = some (text, after) := by
  obtain ⟨hcontrol, hrun⟩ := form_eq_longLiteral hform
  have hkept := noControl_of_hasControl hcontrol
  have hhead : ∀ c ∈ text.head?, c = '\\' ∨ c ∈ text ∧ (isControl c = false ∨ c = '\n') :=
    fun c hc => .inr ⟨List.mem_of_head? hc, hkept c (List.mem_of_head? hc)⟩
  rw [readString, readLongLiteral, dropLineBreak_append (.inr rfl) hhead]
  exact readLongLiteralFrom_kept hkept hrun hafter

/-- A text is read back from the string that is written for it, whatever form the string has. -/
theorem readString_writeString (text : List Char)
    (hafter : ∀ c ∈ after.head?, c ≠ '"' ∧ c ≠ '\'') :
    readString (writeString text ++ after) = some (text, after) := by
  have hbasic : after.head? ≠ some '"' := fun h => (hafter _ h).1 rfl
  have hliteral : after.head? ≠ some '\'' := fun h => (hafter _ h).2 rfl
  cases hform : (StringTraits.ofText text).form with
  | basic => simpa [writeString, hform] using readString_basic hbasic
  | literal => simpa [writeString, hform] using readString_literal hform
  | longBasic => simpa [writeString, hform] using readString_longBasic hbasic
  | longLiteral => simpa [writeString, hform] using readString_longLiteral hform hliteral

end ClusterLink.Toml
