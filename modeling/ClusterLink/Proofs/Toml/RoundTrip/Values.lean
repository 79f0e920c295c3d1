import ClusterLink.Proofs.Toml.Inversion
import ClusterLink.Proofs.Toml.RoundTrip.Keys
import Mathlib.Data.List.Forall2

/-!
# Values that are read back

Texts, booleans and lists of them are read back from what is written for them, in both layouts of
lists. A tree holds a datum if it says the same, wherever it is written.
-/

namespace ClusterLink

open Toml

/-- A tree holds a datum; the entries of a table stand in the order of the members. -/
inductive Tree.Holds : Tree → Datum → Prop
  | text {span : Span} {value : String} : Holds (.scalar span (.text value)) (.text value)
  | boolean {span : Span} {value : Bool} :
      Holds (.scalar span (.boolean value)) (.boolean value)
  | list {span : Span} {items : List Tree} {data : List Datum}
      (hold : List.Forall₂ Holds items data) : Holds (.list span items) (.list data)
  | table {span : Span} {entries : List (Key × Tree)} {members : List (String × Datum)}
      (names : entries.map (·.1.name) = members.map Prod.fst)
      (hold : List.Forall₂ Holds (entries.map Prod.snd) (members.map Prod.snd)) :
      Holds (.table span entries) (.record members)

/-- Texts, booleans and lists of them, with at most `depth` levels of lists. -/
inductive Datum.Plain : Nat → Datum → Prop
  | text {depth : Nat} {value : String} : Plain depth (.text value)
  | boolean {depth : Nat} {value : Bool} : Plain depth (.boolean value)
  | list {depth : Nat} {items : List Datum} (each : ∀ item ∈ items, Plain depth item) :
      Plain (depth + 1) (.list items)

theorem Datum.Plain.texts {α : Type} {depth : Nat} (text : α → String) (items : List α) :
    (Datum.list (items.map fun item => .text (text item))).Plain (depth + 1) := by
  refine .list fun item hitem => ?_
  obtain ⟨found, -, rfl⟩ := List.mem_map.1 hitem
  exact .text

namespace Toml

variable {element : Reader Tree} {written rest after lead : List Char} {datum : Datum}
  {items : List Datum} {trees : List Tree} {depth fuel : Nat} {layout : ListLayout}

/-- What stands after a value: a comma, the end of a list or the end of a line. -/
def EndsValue (after : List Char) : Prop := ∃ c ∈ after.head?, c ∈ [',', ']', '\n']

theorem endsValue_comma (rest : List Char) : EndsValue (',' :: rest) := ⟨',', rfl, by decide⟩

theorem endsValue_closing (rest : List Char) : EndsValue (']' :: rest) := ⟨']', rfl, by decide⟩

theorem endsValue_line (rest : List Char) : EndsValue ('\n' :: rest) := ⟨'\n', rfl, by decide⟩

/-- A written value starts as one and is read back in front of all that may stand after a value. -/
structure ReadsBack (element : Reader Tree) (written : List Char) (datum : Datum) : Prop where
  starts : ∃ c ∈ written.head?, c ∈ ['"', '\'', '[', 't', 'f']
  read : ∀ after, EndsValue after →
    ∃ tree, tree.Holds datum ∧ element (written ++ after) = some (tree, after)

theorem ReadsBack.head (h : ReadsBack element written datum) (after : List Char) :
    ∃ c rest, written ++ after = c :: rest ∧ c ∈ ['"', '\'', '[', 't', 'f'] := by
  obtain ⟨c, hc, hstart⟩ := h.starts
  obtain ⟨rest, rfl⟩ := List.head?_eq_some_iff.1 hc
  exact ⟨c, rest ++ after, rfl, hstart⟩

theorem ReadsBack.unfilled (h : ReadsBack element written datum) (after : List Char) :
    Unfilled (written ++ after) := by
  obtain ⟨c, rest, hhead, hstart⟩ := h.head after
  rw [hhead]
  intro d hd
  cases hd
  have hplain : ∀ d ∈ ['"', '\'', '[', 't', 'f'], d ∉ [' ', '\t', '\n', '\r', '#'] := by simp
  exact hplain c hstart

/-! ## Texts and booleans -/

theorem writeString_eq_cons (text : List Char) :
    ∃ quote rest, (quote = '"' ∨ quote = '\'') ∧ writeString text = quote :: rest := by
  rw [writeString]
  cases (StringTraits.ofText text).form with
  | basic | longBasic => exact ⟨'"', _, .inl rfl, rfl⟩
  | literal | longLiteral => exact ⟨'\'', _, .inr rfl, rfl⟩

theorem readsBack_text (depth : Nat) (layout : ListLayout) (value : String) :
    ReadsBack (readValue depth) (writeValue layout (.text value)) (.text value) := by
  obtain ⟨quote, rest, hquote, hwritten⟩ := writeString_eq_cons value.toList
  refine ⟨⟨quote, by rw [writeValue, hwritten]; rfl, by rcases hquote with rfl | rfl <;> decide⟩,
    fun after hafter => ?_⟩
  have hends : ∀ c ∈ after.head?, c ≠ '"' ∧ c ≠ '\'' := by
    obtain ⟨c, hc, hend⟩ := hafter
    have hplain : ∀ c ∈ [',', ']', '\n'], c ≠ '"' ∧ c ≠ '\'' := by simp
    intro d hd
    cases Option.mem_unique hc hd
    exact hplain c hend
  have hread := readString_writeString value.toList hends
  rw [writeValue, hwritten, List.cons_append] at *
  refine ⟨_, ?_, readValue_eq_some_iff.2 (.quoted hquote hread)⟩
  rw [String.ofList_toList]
  exact .text

/-- A run of characters that are no marks ends where a value ends. -/
theorem splitToken_append {token : List Char} (htoken : ∀ c ∈ token, isTokenChar c = true)
    (hafter : EndsValue after) : splitToken (token ++ after) = (token, after) := by
  obtain ⟨c, hc, hend⟩ := hafter
  obtain ⟨left, rfl⟩ := List.head?_eq_some_iff.1 hc
  have hmarks : ∀ c ∈ [',', ']', '\n'], isTokenChar c = false ∧ c ≠ ' ' := by
    simp [isTokenChar]
  obtain ⟨hstop, hspace⟩ := hmarks c hend
  have htaken : (token ++ c :: left).takeWhile isTokenChar = token := by
    rw [List.takeWhile_append_of_pos htoken, List.takeWhile_cons_of_neg (by simp [hstop]),
      List.append_nil]
  have hleft : (token ++ c :: left).dropWhile isTokenChar = c :: left := by
    rw [List.dropWhile_append_of_pos htoken, List.dropWhile_cons_of_neg (by simp [hstop])]
  have hends : ¬ GoesOn ((token ++ c :: left).takeWhile isTokenChar)
      ((token ++ c :: left).dropWhile isTokenChar) := by
    rintro ⟨d, more, hrest, -⟩
    exact hspace (List.cons.inj (hleft.symm.trans hrest)).1
  rw [splitToken_of_ends hends, htaken, hleft]

theorem readsBack_boolean (depth : Nat) (layout : ListLayout) (value : Bool) :
    ReadsBack (readValue depth) (writeValue layout (.boolean value)) (.boolean value) := by
  have hwritten : ∃ word, writeValue layout (.boolean value) = word ∧
      (∀ c ∈ word, isTokenChar c = true) ∧ (∃ c ∈ word.head?, c = 't' ∨ c = 'f') ∧
      unquoted? word = some (.scalar (.boolean value)) := by
    cases value
    · exact ⟨['f', 'a', 'l', 's', 'e'], rfl, List.all_eq_true.1 rfl, ⟨'f', rfl, .inr rfl⟩, rfl⟩
    · exact ⟨['t', 'r', 'u', 'e'], rfl, List.all_eq_true.1 rfl, ⟨'t', rfl, .inl rfl⟩, rfl⟩
  obtain ⟨word, hword, hletters, ⟨c, hc, hstart⟩, hvalue⟩ := hwritten
  rw [hword]
  refine ⟨⟨c, hc, by rcases hstart with rfl | rfl <;> decide⟩, fun after hafter => ?_⟩
  have hread : readUnquoted (word ++ after) = some (.scalar (.boolean value), after) := by
    simp only [readUnquoted, splitToken_append hletters hafter, hvalue, Option.map_some]
  have hstarts : StartsUnquoted (word ++ after) := by
    obtain ⟨rest, rfl⟩ := List.head?_eq_some_iff.1 hc
    intro d hd
    cases hd
    rcases hstart with rfl | rfl <;> decide
  exact ⟨_, .boolean, readValue_eq_some_iff.2 (.unquoted hstarts hread)⟩

/-! ## Lists -/

/-- Nothing but spaces and line breaks, which are dropped in front of a text. -/
def IsFiller (lead : List Char) : Prop :=
  ∀ text, dropFiller false (lead ++ text) = dropFiller false text

theorem isFiller_nil : IsFiller [] := fun _ => rfl

theorem ReadsBack.dropFiller_eq (h : ReadsBack element written datum) (hlead : IsFiller lead)
    (after : List Char) : dropFiller false (lead ++ (written ++ after)) = some (written ++ after) :=
  (hlead _).trans (h.unfilled after).dropFiller_eq

theorem ReadsBack.readMark_eq_none (h : ReadsBack element written datum) (after : List Char) :
    readMark ']' (written ++ after) = none := by
  obtain ⟨c, rest, hhead, hstart⟩ := h.head after
  have hplain : ∀ c ∈ ['"', '\'', '[', 't', 'f'], c ≠ ']' := by simp
  rw [hhead, readMark, if_neg (hplain c hstart)]

theorem readListed_closed (hlead : IsFiller lead) (after : List Char) :
    readListed ']' element (fuel + 1) (lead ++ ']' :: after) = some ([], after) :=
  readListed_eq_some_iff.2 (.closed ((hlead _).trans rfl) rfl)

theorem ReadsBack.readListed_last (h : ReadsBack element written datum) (hlead : IsFiller lead)
    (after : List Char) :
    ∃ tree, tree.Holds datum ∧
      readListed ']' element (fuel + 1) (lead ++ (written ++ ']' :: after)) =
        some ([tree], after) := by
  obtain ⟨tree, hholds, hread⟩ := h.read _ (endsValue_closing after)
  exact ⟨tree, hholds, readListed_eq_some_iff.2
    (.last (h.dropFiller_eq hlead _) (h.readMark_eq_none _) hread rfl rfl rfl)⟩

theorem ReadsBack.readListed_more (h : ReadsBack element written datum) (hlead : IsFiller lead)
    (hrest : readListed ']' element fuel rest = some (trees, after)) :
    ∃ tree, tree.Holds datum ∧
      readListed ']' element (fuel + 1) (lead ++ (written ++ ',' :: rest)) =
        some (tree :: trees, after) := by
  obtain ⟨tree, hholds, hread⟩ := h.read _ (endsValue_comma rest)
  exact ⟨tree, hholds, readListed_eq_some_iff.2
    (.more (h.dropFiller_eq hlead _) (h.readMark_eq_none _) hread rfl rfl hrest)⟩

/-- Values on one line, with commas and spaces between them. -/
theorem readListed_oneLine (write : Datum → List Char) {first : Datum}
    (heach : ∀ item ∈ first :: items, ReadsBack element (write item) item)
    (hlead : IsFiller lead) (hfuel : items.length < fuel) :
    ∃ trees, List.Forall₂ Tree.Holds trees (first :: items) ∧
      readListed ']' element fuel
          (lead ++ (write first ++
            (items.flatMap (fun item => [',', ' '] ++ write item) ++ ']' :: after))) =
        some (trees, after) := by
  induction items generalizing first lead fuel with
  | nil =>
      obtain ⟨fuel, rfl⟩ := Nat.exists_eq_add_one_of_ne_zero (Nat.ne_zero_of_lt hfuel)
      obtain ⟨tree, hholds, hread⟩ := (heach first List.mem_cons_self).readListed_last hlead after
      exact ⟨[tree], .cons hholds .nil, hread⟩
  | cons next items ih =>
      obtain ⟨fuel, rfl⟩ := Nat.exists_eq_add_one_of_ne_zero (Nat.ne_zero_of_lt hfuel)
      obtain ⟨hfirst, hrest⟩ := List.forall_mem_cons.1 heach
      have hspace : IsFiller [' '] := fun _ => rfl
      obtain ⟨trees, hholds, hread⟩ := ih hrest hspace (Nat.lt_of_succ_lt_succ hfuel)
      obtain ⟨tree, hfirst, hread⟩ := hfirst.readListed_more hlead hread
      refine ⟨tree :: trees, .cons hfirst hholds, ?_⟩
      rw [List.flatMap_cons, List.append_assoc]
      exact hread

/-- Values on lines of their own, with a comma after each of them. -/
theorem readListed_onePerLine (write : Datum → List Char)
    (heach : ∀ item ∈ items, ReadsBack element (write item) item) (hlead : IsFiller lead)
    (hfuel : items.length < fuel) :
    ∃ trees, List.Forall₂ Tree.Holds trees items ∧
      readListed ']' element fuel
          (lead ++ (items.flatMap (fun item => [' ', ' ', ' ', ' '] ++ write item ++ [',', '\n']) ++
            ']' :: after)) =
        some (trees, after) := by
  induction items generalizing lead fuel with
  | nil =>
      obtain ⟨fuel, rfl⟩ := Nat.exists_eq_add_one_of_ne_zero (Nat.ne_zero_of_lt hfuel)
      exact ⟨[], .nil, readListed_closed hlead after⟩
  | cons item items ih =>
      obtain ⟨fuel, rfl⟩ := Nat.exists_eq_add_one_of_ne_zero (Nat.ne_zero_of_lt hfuel)
      obtain ⟨hitem, hrest⟩ := List.forall_mem_cons.1 heach
      have hbreak : IsFiller ['\n'] := fun _ => rfl
      have hindented : IsFiller (lead ++ [' ', ' ', ' ', ' ']) := fun text => by
        rw [List.append_assoc, hlead]
        rfl
      obtain ⟨trees, hholds, hread⟩ := ih hrest hbreak (Nat.lt_of_succ_lt_succ hfuel)
      obtain ⟨tree, hitem, hread⟩ := hitem.readListed_more hindented hread
      refine ⟨tree :: trees, .cons hitem hholds, ?_⟩
      rw [← hread]
      simp only [List.flatMap_cons, List.append_assoc, List.cons_append, List.nil_append]

theorem writeItems_eq_map (layout : ListLayout) (items : List Datum) :
    writeItems layout items = items.map (writeValue layout) := by
  induction items with
  | nil => rfl
  | cons item rest ih => rw [writeItems, ih, List.map_cons]

theorem length_le_flatMap {α : Type} {write : α → List Char} (h : ∀ item, write item ≠ [])
    (items : List α) : items.length ≤ (items.flatMap write).length := by
  induction items with
  | nil => exact Nat.le_refl 0
  | cons item items ih =>
      have hwritten := List.length_pos_iff.2 (h item)
      rw [List.flatMap_cons, List.length_append, List.length_cons]
      omega

/-- Between the brackets of a list, the values are read one after the other. -/
theorem readListed_writeList (layout : ListLayout) (write : Datum → List Char)
    (heach : ∀ item ∈ items, ReadsBack element (write item) item) (after : List Char) :
    ∃ inner, writeList layout (items.map write) ++ after = '[' :: inner ∧
      ∃ trees, List.Forall₂ Tree.Holds trees items ∧
        readListed ']' element (inner.length + 1) inner = some (trees, after) := by
  rw [writeList]
  split
  next =>
    have hlength := length_le_flatMap
      (fun item : Datum => (by simp : [' ', ' ', ' ', ' '] ++ write item ++ [',', '\n'] ≠ [])) items
    have hbreak : IsFiller ['\n'] := fun _ => rfl
    have hfuel : items.length < (['\n'] ++
        (items.flatMap (fun item => [' ', ' ', ' ', ' '] ++ write item ++ [',', '\n']) ++
          ']' :: after)).length + 1 := by
      rw [List.length_append, List.length_append]
      omega
    obtain ⟨trees, hholds, hread⟩ := readListed_onePerLine write heach hbreak hfuel
    exact ⟨_, by simp [List.flatMap_map], trees, hholds, hread⟩
  next =>
    cases items with
    | nil => exact ⟨']' :: after, rfl, [], .nil, readListed_closed isFiller_nil after⟩
    | cons first items =>
        have hlength := length_le_flatMap
          (fun item : Datum => (by simp : [',', ' '] ++ write item ≠ [])) items
        have hfuel : items.length < ([] ++ (write first ++
            (items.flatMap (fun item => [',', ' '] ++ write item) ++ ']' :: after))).length + 1 := by
          rw [List.length_append, List.length_append, List.length_append]
          omega
        obtain ⟨trees, hholds, hread⟩ := readListed_oneLine write heach isFiller_nil hfuel
        refine ⟨_, ?_, trees, hholds, hread⟩
        simp [joined_cons, List.flatMap_map]

theorem readsBack_list
    (heach : ∀ item ∈ items, ReadsBack (readValue depth) (writeValue layout item) item) :
    ReadsBack (readValue (depth + 1)) (writeValue layout (.list items)) (.list items) := by
  rw [writeValue, writeItems_eq_map]
  constructor
  · rw [writeList]
    split <;> exact ⟨'[', rfl, by decide⟩
  · intro after _
    obtain ⟨inner, hwritten, trees, hholds, hread⟩ :=
      readListed_writeList layout (writeValue layout) heach after
    rw [hwritten]
    exact ⟨_, .list hholds, readValue_eq_some_iff.2 (.list hread)⟩

/-- A plain value is read back from what is written for it. -/
theorem readsBack_writeValue (layout : ListLayout) (h : datum.Plain depth) :
    ReadsBack (readValue depth) (writeValue layout datum) datum := by
  induction h with
  | text => exact readsBack_text _ layout _
  | boolean => exact readsBack_boolean _ layout _
  | list _ ih => exact readsBack_list ih

end Toml

end ClusterLink
