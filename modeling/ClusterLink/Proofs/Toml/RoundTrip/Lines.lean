import ClusterLink.Proofs.Toml.RoundTrip.Values

/-!
# Lines that are read back

The line of a member and the header of a table are read back whatever follows them, and a blank line
changes nothing. What follows is read on its own: the settings under a header are those of the lines
up to the next header.
-/

namespace ClusterLink

open Toml

/-- What a member of a document can be; records hold others, down to `depth` levels. -/
inductive Datum.Expressible : Nat → Datum → Prop
  | missing {depth : Nat} : Expressible depth .null
  | plain {depth : Nat} {datum : Datum} (plain : datum.Plain maxDepth) : Expressible depth datum
  | record {depth : Nat} {members : List (String × Datum)}
      (distinct : (members.map Prod.fst).Nodup)
      (each : ∀ member ∈ members, Expressible depth member.2) :
      Expressible (depth + 1) (.record members)

def Datum.hasLine : Datum → Bool
  | .null => false
  | .record _ => false
  | _ => true

theorem Datum.Plain.hasLine {depth : Nat} {datum : Datum} (h : datum.Plain depth) :
    datum.hasLine = true := by
  cases h <;> rfl

theorem Datum.Expressible.plain_of_hasLine {depth : Nat} {datum : Datum}
    (h : datum.Expressible depth) (hline : datum.hasLine = true) : datum.Plain maxDepth := by
  cases h with
  | missing => cases hline
  | plain hplain => exact hplain
  | record => cases hline

namespace Toml

variable {text rest : List Char} {settings : List Setting} {sections : List Section}
  {parts : List Setting × List Section} {member : String × Datum} {members : List (String × Datum)}
  {path : List String} {layout : ListLayout} {depth fuel : Nat}

/--
A text is read as settings and sections. Every statement takes more than one character, so fuel of
half the length is enough.
-/
def ReadsAs (text : List Char) (parts : List Setting × List Section) : Prop :=
  ∀ fuel, text.length < 2 * fuel → readSections fuel text = some parts

theorem readsAs_nil : ReadsAs [] ([], []) := by
  intro fuel hfuel
  obtain ⟨fuel, rfl⟩ := Nat.exists_eq_add_one_of_ne_zero (by omega : fuel ≠ 0)
  rfl

theorem readSections_blank (fuel : Nat) (text : List Char) :
    readSections fuel ('\n' :: text) = readSections fuel text := by
  cases fuel with
  | zero => rfl
  | succ fuel =>
      rw [readSections, readSections]
      rfl

theorem ReadsAs.blank (h : ReadsAs text parts) : ReadsAs ('\n' :: text) parts := fun fuel hfuel =>
  (readSections_blank fuel text).trans (h fuel (Nat.lt_of_succ_lt hfuel))

structure Setting.Sets (setting : Setting) (member : String × Datum) : Prop where
  path : setting.path = []
  name : setting.key.name = member.1
  holds : setting.value.Holds member.2

theorem writeLine_eq_nil (hline : member.2.hasLine = false) : writeLine layout member = [] := by
  obtain ⟨name, datum⟩ := member
  cases datum with
  | null | record => rfl
  | boolean | integer | float | text | list => cases hline

theorem writeLine_eq (hline : member.2.hasLine = true) :
    writeLine layout member =
      writeKey member.1 ++ ([' ', '=', ' '] ++ (writeValue layout member.2 ++ ['\n'])) := by
  obtain ⟨name, datum⟩ := member
  cases datum with
  | null | record => cases hline
  | boolean | integer | float | text | list => simp [writeLine]

theorem ReadsAs.line (hplain : member.2.Plain maxDepth) (h : ReadsAs rest (settings, sections)) :
    ∃ setting : Setting, setting.Sets member ∧
      ReadsAs (writeLine layout member ++ rest) (setting :: settings, sections) := by
  have hvalue := readsBack_writeValue layout hplain
  obtain ⟨tree, hholds, hread⟩ := hvalue.read _ (endsValue_line rest)
  generalize hwritten : writeValue layout member.2 = written at hvalue hread
  have hends : EndsKey ([' ', '=', ' '] ++ (written ++ '\n' :: rest)) :=
    ⟨fun c hc => by cases hc; decide, by simp [dropGap, isGap]⟩
  obtain ⟨key, hname, hkey⟩ := readKey_writeKey member.1 hends
  have hstart := startsKey_writeKey member.1 ([' ', '=', ' '] ++ (written ++ '\n' :: rest))
  refine ⟨⟨[], key, tree⟩, ⟨rfl, hname, hholds⟩, fun fuel hfuel => ?_⟩
  rw [writeLine_eq hplain.hasLine, hwritten] at hfuel ⊢
  simp only [List.append_assoc, List.singleton_append, List.length_append, List.length_cons]
    at hfuel ⊢
  obtain ⟨fuel, rfl⟩ := Nat.exists_eq_add_one_of_ne_zero (by omega : fuel ≠ 0)
  have hsetting : SettingWay (readValue maxDepth) (fun text => some (dropGap text))
      (writeKey member.1 ++ ([' ', '=', ' '] ++ (written ++ '\n' :: rest)))
      ⟨[], key, tree⟩ ('\n' :: rest) :=
    .mk hkey rfl rfl (congrArg some (hvalue.unfilled _).dropGap_eq) hread
  exact readSections_eq_some_iff.2 (.setting hstart.unfilled.dropFiller_eq hstart.ne_nil
    hstart.head?_ne (readSetting_eq_some_iff.2 hsetting) rfl (h fuel (by omega)))

/-- The lines of a table are read back as settings for those members that have lines. -/
theorem ReadsAs.lines (heach : ∀ member ∈ members, member.2.Expressible depth)
    (h : ReadsAs rest (settings, sections)) :
    ∃ added, List.Forall₂ Setting.Sets added (members.filter (·.2.hasLine)) ∧
      ReadsAs (members.flatMap (writeLine layout) ++ rest) (added ++ settings, sections) := by
  induction members with
  | nil => exact ⟨[], .nil, h⟩
  | cons member members ih =>
      obtain ⟨hmember, hrest⟩ := List.forall_mem_cons.1 heach
      obtain ⟨added, hadded, hread⟩ := ih hrest
      rw [List.flatMap_cons, List.append_assoc]
      cases hline : member.2.hasLine with
      | false =>
          rw [List.filter_cons_of_neg (by simp [hline]), writeLine_eq_nil hline]
          exact ⟨added, hadded, hread⟩
      | true =>
          rw [List.filter_cons_of_pos (by simp [hline])]
          obtain ⟨setting, hsets, hread⟩ := hread.line (hmember.plain_of_hasLine hline)
          exact ⟨setting :: added, .cons hsets hadded, hread⟩

def Header.names (header : Header) : List String := (header.path ++ [header.key]).map Key.name

theorem ReadsAs.header (hpath : path ≠ []) (hdepth : path.length ≤ maxDepth)
    (h : ReadsAs rest (settings, sections)) :
    ∃ header : Header, header.names = path ∧ header.isElement = false ∧
      ReadsAs (writeHeader path ++ rest) ([], ⟨header, settings⟩ :: sections) := by
  obtain ⟨header, hnames, helement, hopens, hread⟩ := readHeader_writeHeader hpath hdepth rest
  refine ⟨header, hnames, helement, fun fuel hfuel => ?_⟩
  have hlength : rest.length + 2 ≤ (writeHeader path ++ rest).length := by
    simp only [writeHeader, List.length_append, List.length_cons]
    omega
  obtain ⟨fuel, rfl⟩ := Nat.exists_eq_add_one_of_ne_zero (by omega : fuel ≠ 0)
  have hunfilled : Unfilled (writeHeader path ++ rest) := by
    intro c hc
    cases hopens.symm.trans hc
    decide
  exact readSections_eq_some_iff.2 (.header hunfilled.dropFiller_eq hopens hread rfl
    (h fuel (by omega)))

/-- A header with the lines of a table under it is read back as one section. -/
theorem ReadsAs.table (hpath : path ≠ []) (hdepth : path.length ≤ maxDepth)
    (heach : ∀ member ∈ members, member.2.Expressible depth) (h : ReadsAs rest ([], sections)) :
    ∃ part : Section, part.header.names = path ∧ part.header.isElement = false ∧
      List.Forall₂ Setting.Sets part.settings (members.filter (·.2.hasLine)) ∧
      ReadsAs (writeHeader path ++ members.flatMap (writeLine layout) ++ rest)
        ([], part :: sections) := by
  obtain ⟨settings, hsets, hlines⟩ := h.lines heach
  rw [List.append_nil] at hlines
  obtain ⟨header, hnames, helement, hread⟩ := hlines.header hpath hdepth
  rw [← List.append_assoc] at hread
  exact ⟨⟨header, settings⟩, hnames, helement, hsets, hread⟩

end Toml

end ClusterLink
