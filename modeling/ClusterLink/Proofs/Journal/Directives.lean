import ClusterLink.Journal.Directives
import ClusterLink.Proofs.Text.Bytes
import ClusterLink.Proofs.Traced
import Mathlib.Data.List.DropRight

/-!
# Directives that are cut between characters

The parts of a directive are cut out of its text at bytes that are counted in the trimmed text. The
two disagree about what a byte stands for only if the text starts with a blank and holds a character
of several bytes. All other directives are read or are malformed, and so are the lists of them.
-/

namespace ClusterLink.Journal

open Text

variable {α β : Type} {c : Char} {i : Nat} {text items : List Char} {directive : Directive}
  {phase : Phase}

/-! ## Readers that cut nothing -/

/-- What is read meets a condition; if nothing is read, it is not for a cut character. -/
def Meets (condition : α → Prop) : Except DirectiveFault α → Prop
  | .ok a => condition a
  | .error fault => fault = .malformed

theorem Meets.bind {condition : α → Prop} {goal : β → Prop} {first : Except DirectiveFault α}
    {next : α → Except DirectiveFault β} (h : Meets condition first)
    (hnext : ∀ a, condition a → Meets goal (next a)) : Meets goal (first >>= next) := by
  cases first with
  | ok a => exact hnext a h
  | error fault => exact h

theorem Meets.ne_cutCharacter {condition : α → Prop} {outcome : Except DirectiveFault α}
    (h : Meets condition outcome) : outcome ≠ .error .cutCharacter := by
  rintro rfl
  cases h

theorem meets_cut {start stop : Nat} (hstart : IsPlace text start) (hstop : IsPlace text stop)
    (h : start ≤ stop) : Meets (fun _ => True) (cut text start stop) := by
  obtain ⟨part, hpart⟩ := hstart.exists_part hstop h
  rw [cut, hpart]
  trivial

theorem meets_tailAt {start : Nat} (h : IsPlace text start) :
    Meets (fun _ => True) (tailAt text start) := by
  obtain ⟨rest, hrest⟩ := h.exists_dropBytes?
  rw [tailAt, hrest]
  trivial

theorem meets_readRank (text : List Char) : Meets (fun _ => True) (readRank text) := by
  rw [readRank]
  cases rank? text <;> trivial

theorem Directive.meets_withField (directive : Directive) (text : List Char) :
    Meets (fun _ => True) (directive.withField text) := by
  unfold withField
  split
  · rfl
  · split
    · trivial
    · rfl
  · trivial

/-! ## Reading a directive -/

/-- The part that is being read starts at a place in the text that has been passed. -/
def Phase.HasPlace (text : List Char) (i : Nat) : Phase → Prop
  | .levelOrTarget byte | .span byte | .field byte | .level byte => IsPlace text byte ∧ byte ≤ i
  | .start | .afterField | .afterScope => True

theorem Phase.HasPlace.mono {j : Nat} (h : phase.HasPlace text i) (hle : i ≤ j) :
    phase.HasPlace text j := by
  cases phase with
  | levelOrTarget | span | field | level => exact ⟨h.1, h.2.trans hle⟩
  | start | afterField | afterScope => trivial

namespace Directive

theorem meets_step (hphase : phase.HasPlace text i) (hi : IsPlace text i)
    (hnext : IsPlace text (i + c.utf8Size)) :
    Meets (fun reached => reached.2.HasPlace text (i + c.utf8Size))
      (step text (directive, phase) (i, c)) := by
  have hstays : phase.HasPlace text (i + c.utf8Size) := hphase.mono (Nat.le_add_right i _)
  -- The marks take one byte, so what follows a mark starts where the mark ends.
  have hmark : ∀ mark : Char, mark.utf8Size = 1 → (c == mark) = true →
      IsPlace text (i + 1) ∧ i + 1 ≤ i + c.utf8Size := by
    intro mark hsize hc
    rw [beq_iff_eq] at hc
    rw [hc, hsize] at hnext ⊢
    exact ⟨hnext, Nat.le_refl _⟩
  cases phase with
  | start =>
      rw [step]
      split
      next hc => exact hmark '[' rfl hc
      next =>
        split
        · exact ⟨hi, Nat.le_add_right i _⟩
        · rfl
  | levelOrTarget start =>
      rw [step]
      split
      next hc => exact (meets_cut hphase.1 hi hphase.2).bind fun _ _ => hmark '=' rfl hc
      next =>
        split
        next hc => exact (meets_cut hphase.1 hi hphase.2).bind fun _ _ => hmark '[' rfl hc
        next => exact hstays
  | span start =>
      rw [step]
      split
      next => exact (meets_cut hphase.1 hi hphase.2).bind fun _ _ => trivial
      next =>
        split
        next hc => exact (meets_cut hphase.1 hi hphase.2).bind fun _ _ => hmark '\x7b' rfl hc
        next => exact hstays
  | field start =>
      rw [step]
      split
      next =>
        refine (meets_cut hphase.1 hi hphase.2).bind fun part _ => ?_
        exact (directive.meets_withField part).bind fun _ _ => trivial
      next => exact hstays
  | afterField =>
      rw [step]
      split
      · trivial
      · rfl
  | afterScope =>
      rw [step]
      split
      next hc => exact hmark '=' rfl hc
      next => rfl
  | level start => exact hstays

/-- A run over characters that start and end at places keeps the phase at a place. -/
theorem meets_foldlM (h : ∀ standing ∈ placed i items,
      IsPlace text standing.1 ∧ IsPlace text (standing.1 + standing.2.utf8Size))
    {state : Directive × Phase} (hphase : state.2.HasPlace text i) :
    Meets (fun reached => reached.2.HasPlace text (i + byteLength items))
      ((placed i items).foldlM (step text) state) := by
  induction items generalizing i state with
  | nil => exact hphase
  | cons c items ih =>
      obtain ⟨hfirst, hrest⟩ := List.forall_mem_cons.1 h
      rw [placed, List.foldlM_cons, byteLength_cons, ← Nat.add_assoc]
      exact (meets_step hphase hfirst.1 hfirst.2).bind fun _ hreached => ih hrest hreached

theorem meets_finish (hphase : phase.HasPlace text i) :
    Meets (fun _ => True) (finish text (directive, phase)) := by
  cases phase with
  | levelOrTarget start =>
      refine (meets_tailAt hphase.1).bind fun rest _ => ?_
      cases rank? rest <;> trivial
  | level start =>
      refine (meets_tailAt hphase.1).bind fun rest _ => ?_
      split
      · trivial
      · exact (meets_readRank rest).bind fun _ _ => trivial
  | afterScope => trivial
  | start | span | field | afterField => rfl

end Directive

def IsAskew (text : List Char) : Prop :=
  (∃ c ∈ text.head?, isBlank c) ∧ ∃ c ∈ text, c.utf8Size ≠ 1

theorem mem_of_mem_trim (h : c ∈ trim text) : c ∈ text := by
  rw [trim, List.mem_reverse] at h
  have hreversed := List.dropWhile_sublist _ |>.subset h
  exact (List.dropWhile_sublist _).subset (List.mem_reverse.1 hreversed)

theorem length_trim_le (text : List Char) : (trim text).length ≤ text.length := by
  rw [trim, List.length_reverse]
  refine (List.dropWhile_sublist _).length_le.trans ?_
  rw [List.length_reverse]
  exact (List.dropWhile_sublist _).length_le

theorem prefix_trim (h : ¬ ∃ c ∈ text.head?, isBlank c) : trim text <+: text := by
  have hkept : text.dropWhile isBlank = text := by
    cases text with
    | nil => rfl
    | cons c text => exact List.dropWhile_cons_of_neg fun hc => h ⟨c, rfl, hc⟩
  rw [trim, hkept]
  exact List.rdropWhile_prefix isBlank text

/-- The characters of the trimmed text stand at places of the whole text, unless it is askew. -/
theorem isPlace_of_not_askew (h : ¬ IsAskew text) :
    ∀ standing ∈ placed 0 (trim text),
      IsPlace text standing.1 ∧ IsPlace text (standing.1 + standing.2.utf8Size) := by
  rintro ⟨i, c⟩ hmem
  rw [IsAskew, not_and_or] at h
  -- Either nothing is trimmed off in front, or the bytes are the characters of both texts.
  rcases h with hopening | hnarrow
  · exact isPlace_of_prefix (prefix_trim hopening) hmem
  · push Not at hnarrow
    obtain ⟨before, after, htrim, rfl⟩ := exists_of_mem_placed hmem
    have hlength := length_trim_le text
    rw [htrim, List.length_append, List.length_cons] at hlength
    have hsizes : ∀ other ∈ before ++ c :: after, other.utf8Size = 1 := fun other hother =>
      hnarrow other (mem_of_mem_trim (htrim ▸ hother))
    obtain ⟨hbefore, hafter⟩ := List.forall_mem_append.1 hsizes
    have hc : c.utf8Size = 1 := hafter c List.mem_cons_self
    rw [byteLength_of_narrow hbefore, hc]
    exact ⟨isPlace_of_narrow hnarrow (by omega), isPlace_of_narrow hnarrow (by omega)⟩

theorem Directive.read_ne_cutCharacter (h : ¬ IsAskew text) :
    Directive.read text ≠ .error .cutCharacter := by
  have hrun := @Directive.meets_foldlM 0 text _ (isPlace_of_not_askew h) ({}, .start) trivial
  exact (hrun.bind fun _ hphase => Directive.meets_finish hphase).ne_cutCharacter

/-! ## Lists of directives -/

theorem exists_askew_of_readStrict {list : String} (h : readStrict list = .error .cutCharacter) :
    ∃ part ∈ parts list, IsAskew part := by
  by_contra hnone
  push Not at hnone
  unfold readStrict at h
  rcases bind_eq_error h with hread | ⟨_, _, hnever⟩
  · obtain ⟨part, hmem, hcuts⟩ := mapM_eq_error hread
    exact Directive.read_ne_cutCharacter (hnone part hmem) hcuts
  · cases hnever

/-- Malformed directives are left out of a list, so only a cut ends its reading. -/
theorem exists_askew_of_readLenient {list : String} {fault : DirectiveFault}
    (h : readLenient list = .error fault) : ∃ part ∈ parts list, IsAskew part := by
  by_contra hnone
  push Not at hnone
  unfold readLenient at h
  rcases bind_eq_error h with hread | ⟨_, _, hnever⟩
  · obtain ⟨part, hmem, hpart⟩ := filterMapM_eq_error hread
    split at hpart
    next => cases hpart
    next => cases hpart
    next hcuts => exact Directive.read_ne_cutCharacter (hnone part hmem) hcuts
  · cases hnever

end ClusterLink.Journal
