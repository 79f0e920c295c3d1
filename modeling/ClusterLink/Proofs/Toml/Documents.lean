import ClusterLink.Proofs.Toml.Respelling

/-!
# Respelled documents

A document with other letters in a quoted value is a document too, and differs in that value only.
-/

namespace ClusterLink.Toml

def heldValues (settings : List Setting) (sections : List Section) : List Tree :=
  valuesOf settings ++ sections.flatMap fun part => valuesOf part.settings

theorem heldValues_cons_section {header : Header} {settings : List Setting}
    {sections : List Section} :
    heldValues [] (⟨header, settings⟩ :: sections) = heldValues settings sections := by
  rw [heldValues, List.flatMap_cons]
  rfl

theorem heldValues_cons_setting {setting : Setting} {settings : List Setting}
    {sections : List Section} :
    heldValues (setting :: settings) sections = setting.value :: heldValues settings sections := rfl

namespace Respelling

variable {r : Respelling} {fuel : Nat} {text before : List Char} {settings : List Setting}
  {sections : List Section}

theorem map_eq_self (h : Tree.countInItems r.place (heldValues settings sections) = 0) :
    settings.map (Setting.map r.respell) = settings ∧
      sections.map (Section.map r.respell) = sections := by
  have hvalues := Tree.countInItems_eq_zero_iff.1 h
  have hmap {settings : List Setting}
      (h : ∀ setting ∈ settings, setting.value.countAt r.place = 0) :
      settings.map (Setting.map r.respell) = settings :=
    (List.map_congr_left fun setting hmem => setting_map_eq_self (h setting hmem)).trans
      (List.map_id settings)
  refine ⟨hmap fun setting hmem => hvalues _ ?_, ?_⟩
  · exact List.mem_append_left _ (List.mem_map_of_mem hmem)
  · refine (List.map_congr_left fun part hpart => ?_).trans (List.map_id sections)
    refine congrArg (Section.mk part.header) (hmap fun setting hmem => hvalues _ ?_)
    exact List.mem_append_right _ (List.mem_flatMap_of_mem hpart (List.mem_map_of_mem hmem))

theorem passes_gap : SteadyStep fun text => some (dropGap text) := by
  intro text rest h
  cases h
  exact (passes_dropGap text).imp fun _ _ h => congrArg some h

theorem passes_head? {head : Option Char} (h : text.head? = head) :
    Passes text text fun text rest => text = rest ∧ rest.head? = head :=
  Passes.look fun {_} htwins => htwins.head?.symm.trans h

theorem passes_goesOn (hgoesOn : text ≠ []) (hopens : text.head? ≠ some '[') :
    Passes text text fun text rest => text = rest ∧ rest ≠ [] ∧ rest.head? ≠ some '[' := by
  refine Passes.look fun {other} htwins => ⟨?_, htwins.head? ▸ hopens⟩
  rintro rfl
  exact hgoesOn (List.head?_eq_none_iff.1 htwins.head?)

theorem misses_readSections (h : readSections fuel text = some (settings, sections))
    (hlength : text.length < r.old.length) :
    Tree.countInItems r.place (heldValues settings sections) = 0 := by
  induction fuel generalizing text settings sections with
  | zero => cases h
  | succ fuel ih =>
      cases readSections_eq_some_iff.1 h with
      | ended => rfl
      | header hfilled _ hread hlineEnd hothers =>
          have hstart := (passes_dropFiller hfilled).length_le
          have hleft := (passes_readHeader hread).length_le
          have hnext := (passes_readLineEnd hlineEnd).length_le
          rw [heldValues_cons_section]
          exact ih hothers (by omega)
      | setting hfilled _ _ hread hlineEnd hothers =>
          have hstart := (passes_dropFiller hfilled).length_le
          have hleft := (passes_readSetting passes_gap passes_readValue hread).length_le
          have hnext := (passes_readLineEnd hlineEnd).length_le
          rw [heldValues_cons_setting, Tree.countInItems, ih hothers (by omega)]
          exact misses_readSetting passes_gap misses_readValue hread (by omega)

theorem length_le_of_readSections (h : readSections fuel text = some (settings, sections))
    (hcount : Tree.countInItems r.place (heldValues settings sections) ≠ 0) :
    r.old.length ≤ text.length :=
  Nat.le_of_not_lt fun hlater => hcount (misses_readSections h hlater)

theorem respells_readSections
    (h : readSections fuel (before ++ r.old) = some (settings, sections))
    (hcount : Tree.countInItems r.place (heldValues settings sections) ≠ 0) :
    Tree.countInItems r.place (heldValues settings sections) = 1 ∧
      readSections fuel (before ++ r.new) =
        some (settings.map (Setting.map r.respell), sections.map (Section.map r.respell)) := by
  induction fuel generalizing before settings sections with
  | zero => cases h
  | succ fuel ih =>
      cases readSections_eq_some_iff.1 h with
      | ended => exact absurd rfl hcount
      | header hfilled hopens hread hlineEnd hothers =>
          rw [heldValues_cons_section] at hcount ⊢
          obtain ⟨_, rfl, _, hfilled, _, ⟨rfl, hopens⟩, _, hread, hlineEnd⟩ := r.of_passes
            ((passes_dropFiller hfilled).trans ((passes_head? hopens).trans
              ((passes_readHeader hread).trans (passes_readLineEnd hlineEnd))))
            (length_le_of_readSections hothers hcount)
          obtain ⟨hone, hothers⟩ := ih hothers hcount
          exact ⟨hone, readSections_eq_some_iff.2
            (.header hfilled hopens hread hlineEnd hothers)⟩
      | @setting start setting left next _ _ hfilled hgoesOn hopens hread hlineEnd hothers =>
          rw [heldValues_cons_setting, Tree.countInItems] at hcount ⊢
          -- the place is in what comes after this setting, or in its value and nowhere after it
          by_cases hvalue : setting.value.countAt r.place = 0
          · rw [hvalue, Nat.zero_add] at hcount ⊢
            obtain ⟨_, rfl, _, hfilled, _, ⟨rfl, hgoesOn, hopens⟩, _, hread, hlineEnd⟩ :=
              r.of_passes ((passes_dropFiller hfilled).trans ((passes_goesOn hgoesOn hopens).trans
                ((passes_readSetting passes_gap passes_readValue hread).trans
                  (passes_readLineEnd hlineEnd)))) (length_le_of_readSections hothers hcount)
            obtain ⟨hone, hothers⟩ := ih hothers hcount
            refine ⟨hone, ?_⟩
            rw [List.map_cons, setting_map_eq_self hvalue]
            exact readSections_eq_some_iff.2
              (.setting hfilled hgoesOn hopens hread hlineEnd hothers)
          · have hstart : r.old.length ≤ start.length := by
              by_contra hlater
              exact hvalue (misses_readSetting passes_gap misses_readValue hread
                (Nat.lt_of_not_le hlater))
            obtain ⟨_, rfl, _, hfilled, rfl, hgoesOn, hopens⟩ := r.of_passes
              ((passes_dropFiller hfilled).trans (passes_goesOn hgoesOn hopens)) hstart
            obtain ⟨hone, hpast, hread⟩ :=
              respells_readSetting passes_gap misses_readValue respells_readValue hread hvalue
            have hnext := (passes_readLineEnd hlineEnd).length_le
            have hlast := r.length_after_lt
            have hnone := misses_readSections hothers (by omega : next.length < r.old.length)
            obtain ⟨hsettings, hsections⟩ := map_eq_self hnone
            refine ⟨by omega, ?_⟩
            rw [List.map_cons, hsettings, hsections]
            exact readSections_eq_some_iff.2
              (.setting hfilled hgoesOn hopens hread hlineEnd hothers)

/-- The order mark stands in front of the quoted value, and so in both texts or in neither. -/
theorem dropOrderMark_append (before : List Char) :
    ∃ left, dropOrderMark (before ++ r.old) = left ++ r.old ∧
      dropOrderMark (before ++ r.new) = left ++ r.new := by
  have hstays {c : Char} {text : List Char} (h : c ≠ '\uFEFF') :
      dropOrderMark (c :: text) = c :: text := by
    unfold dropOrderMark
    split
    next heq => exact absurd (List.cons.inj heq).1 h
    · rfl
  cases before with
  | nil =>
      have hquote : r.quote ≠ '\uFEFF' := by
        rcases r.quotes with h | h <;> rw [h] <;> decide
      obtain ⟨old, hold⟩ := List.head?_eq_some_iff.1 (r.head?_textOf r.letters)
      obtain ⟨new, hnew⟩ := List.head?_eq_some_iff.1 (r.head?_textOf r.others)
      refine ⟨[], ?_, ?_⟩
      · rw [List.nil_append, Respelling.old, hold, hstays hquote]
      · rw [List.nil_append, Respelling.new, hnew, hstays hquote]
  | cons c left =>
      by_cases hmark : c = '\uFEFF'
      · subst hmark
        exact ⟨left, rfl, rfl⟩
      · exact ⟨c :: left, hstays hmark, hstays hmark⟩

theorem respells_document? {document : List (Key × Tree)}
    (h : document? (before ++ r.old) = some document)
    (hcount : Tree.countInEntries r.place document ≠ 0) :
    Tree.countInEntries r.place document = 1 ∧ document? (before ++ r.new) =
      some (Tree.respellEntries r.place (String.ofList r.others) document) := by
  obtain ⟨left, hold, hnew⟩ := dropOrderMark_append (r := r) before
  obtain ⟨⟨settings, sections⟩, hread, hassembled⟩ := Option.bind_eq_some_iff.1 h
  rw [hold] at hread
  obtain ⟨hsettings, hsections⟩ := tidy_of_readSections hread
  have hheld : Tree.countInEntries r.place document =
      Tree.countInItems r.place (heldValues settings sections) :=
    (countAt_assemble? hsettings hsections hassembled).trans
      (Tree.countInItems_append _ _).symm
  obtain ⟨hone, hread⟩ := respells_readSections hread (hheld ▸ hcount)
  refine ⟨hheld.trans hone, Option.bind_eq_some_iff.2 ⟨(_, _), ?_, assemble?_respell hassembled⟩⟩
  have hlength : (left ++ r.new).length = (left ++ r.old).length := by
    rw [List.length_append, List.length_append, r.length_new]
  rw [hnew, hlength]
  exact hread

end Respelling

end ClusterLink.Toml
