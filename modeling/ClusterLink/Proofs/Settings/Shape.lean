import ClusterLink.Proofs.Options
import ClusterLink.Proofs.Toml.Tidiness
import ClusterLink.Proofs.Traced
import ClusterLink.Settings
import Mathlib.Data.List.Sort

/-!
# The documented shape

A settings file has the documented shape if every entry of the options is an option whose value is
written as its kind wants it, and the general settings that are there are strings. Settings are read
exactly from files of this shape, and hold exactly what is written there.
-/

namespace ClusterLink

inductive Tree.Spells : Tree → String → Prop
  | text {span : Span} {value : String} : Spells (.scalar span (.text value)) value

/-- A tree is one string, which counts as a list of one, or a list of strings. -/
inductive Tree.SpellsEach : Tree → List String → Prop
  | one {tree : Tree} {value : String} (spells : tree.Spells value) : SpellsEach tree [value]
  | many {span : Span} {items : List Tree} {values : List String}
      (spell : List.Forall₂ Tree.Spells items values) : SpellsEach (.list span items) values

/-- A tree is the written form of a value of the kind. -/
inductive OptionKind.Writes : OptionKind → Tree → OptionValue → Prop
  | text {tree : Tree} {value : String} (spells : tree.Spells value) :
      Writes .text tree (.text value)
  | choice {tree : Tree} {values : List String} {value : String} (spells : tree.Spells value) :
      Writes (.choice values) tree (.text value)
  | path {tree : Tree} {value : String} (spells : tree.Spells value) :
      Writes .path tree (.text value)
  | password {tree : Tree} {value : String} (spells : tree.Spells value) :
      Writes .password tree (.secret ⟨value⟩)
  | boolean {span : Span} {value : Bool} :
      Writes .boolean (.scalar span (.boolean value)) (.flag value)
  | uriList {tree : Tree} {values : List String} (spells : tree.SpellsEach values) :
      Writes .uriList tree (.texts values)
  | pathList {tree : Tree} {values : List String} (spells : tree.SpellsEach values) :
      Writes .pathList tree (.texts values)

variable {tree : Tree}

theorem Tree.text?_eq_some_iff {value : String} : tree.text? = some value ↔ tree.Spells value := by
  constructor
  · intro h
    unfold Tree.text? at h
    split at h
    · cases h
      exact .text
    · cases h
  · rintro ⟨⟩
    rfl

theorem textItems?_eq_some_iff {items : List Tree} {values : List String} :
    textItems? items = some values ↔ List.Forall₂ Tree.Spells items values := by
  induction items generalizing values with
  | nil => cases values <;> simp [textItems?]
  | cons item rest ih =>
      rw [textItems?, List.mapM_cons, ← textItems?]
      cases values with
      | nil => cases item.text? <;> cases textItems? rest <;> simp
      | cons value others =>
          rw [List.forall₂_cons, ← ih, ← Tree.text?_eq_some_iff]
          cases item.text? <;> cases textItems? rest <;> simp

theorem readText_eq_ok_iff {wanted value : String} :
    readText wanted tree = .ok value ↔ tree.Spells value := by
  rw [readText, ← Tree.text?_eq_some_iff]
  cases tree.text? <;> simp

theorem readTexts_eq_ok_iff {values : List String} :
    readTexts tree = .ok values ↔ tree.SpellsEach values := by
  constructor
  · intro h
    unfold readTexts at h
    split at h
    · dsimp only at h
      split at h
      next hfound =>
        cases h
        exact .many (textItems?_eq_some_iff.1 hfound)
      · cases h
    · dsimp only at h
      split at h
      next hfound =>
        cases h
        obtain ⟨value, hvalue, rfl⟩ := Option.map_eq_some_iff.1 hfound
        exact .one (Tree.text?_eq_some_iff.1 hvalue)
      · cases h
  · intro h
    cases h with
    | one hspells => cases hspells; rfl
    | many hspell => rw [readTexts, textItems?_eq_some_iff.2 hspell]

theorem readFlag_eq_ok_iff {value : Bool} :
    readFlag tree = .ok value ↔ ∃ span, tree = .scalar span (.boolean value) := by
  constructor
  · intro h
    unfold readFlag at h
    split at h
    · cases h
      exact ⟨_, rfl⟩
    · cases h
  · rintro ⟨span, rfl⟩
    rfl

/-- A kind reads exactly the trees that are written as it wants them. -/
theorem OptionKind.read_eq_ok_iff {kind : OptionKind} {value : OptionValue} :
    kind.read tree = .ok value ↔ kind.Writes tree value := by
  constructor
  · intro h
    cases kind with
    | text | choice | path | password =>
        obtain ⟨text, htext, rfl⟩ := map_eq_ok_iff.1 h
        have hspells := readText_eq_ok_iff.1 htext
        constructor
        exact hspells
    | boolean =>
        obtain ⟨flag, hflag, rfl⟩ := map_eq_ok_iff.1 h
        obtain ⟨span, rfl⟩ := readFlag_eq_ok_iff.1 hflag
        exact .boolean
    | uriList | pathList =>
        obtain ⟨texts, htexts, rfl⟩ := map_eq_ok_iff.1 h
        have hspells := readTexts_eq_ok_iff.1 htexts
        constructor
        exact hspells
  · intro h
    cases h with
    | text hspells | choice hspells | path hspells | password hspells =>
        exact map_eq_ok_iff.2 ⟨_, readText_eq_ok_iff.2 hspells, rfl⟩
    | boolean => rfl
    | uriList hspells | pathList hspells =>
        exact map_eq_ok_iff.2 ⟨_, readTexts_eq_ok_iff.2 hspells, rfl⟩

theorem OptionKind.Writes.unique {kind : OptionKind} {value other : OptionValue}
    (h : kind.Writes tree value) (hother : kind.Writes tree other) : value = other := by
  have hread := (OptionKind.read_eq_ok_iff.2 h).symm.trans (OptionKind.read_eq_ok_iff.2 hother)
  exact Except.ok.inj hread

/-! ## Options that are given one by one -/

namespace Options

theorem value?_give_of_ne (options : Options) {key other : OptionKey} (h : key ≠ other)
    (value : OptionValue) : (options.give key value).value? other = options.value? other := by
  cases key <;> cases value <;> cases other <;> first | rfl | exact absurd rfl h

/-- An option that is given a value of its kind has this value. -/
theorem value?_give_self (options : Options) {key : OptionKey} {tree : Tree} {value : OptionValue}
    (h : key.spec.kind.Writes tree value) : (options.give key value).value? key = some value := by
  cases key <;> cases h <;> rfl

end Options

/-! ## Tables that are read entry by entry -/

section Entries

variable {α β ε : Type} {entries : List (Key × Tree)}
  {readEntry : α → Key × Tree → Except ε α}

/-- A table is read if and only if every entry fits. -/
theorem exists_foldlM_iff {Fits : Key × Tree → Prop}
    (hfits : ∀ entry ∈ entries, ∀ state, (∃ next, readEntry state entry = .ok next) ↔ Fits entry)
    (state : α) :
    (∃ result, entries.foldlM readEntry state = .ok result) ↔ ∀ entry ∈ entries, Fits entry := by
  induction entries generalizing state with
  | nil => simp [pure, Except.pure]
  | cons entry rest ih =>
      have hrest := ih fun other hother => hfits other (List.mem_cons_of_mem _ hother)
      rw [List.forall_mem_cons, ← hfits entry List.mem_cons_self state]
      cases hentry : readEntry state entry with
      | error fault => simp [hentry, bind, Except.bind]
      | ok next => simp [hentry, bind, Except.bind, hrest next]

/--
A part of what is read that depends on the entry of one name alone comes from this entry, or is what
it was at the start.
-/
theorem part_of_foldlM (part : α → β) (name : String) (Gives : Tree → β → Prop)
    (hself : ∀ {state entry next}, entry ∈ entries → readEntry state entry = .ok next →
      entry.1.name = name → Gives entry.2 (part next))
    (hother : ∀ {state entry next}, entry ∈ entries → readEntry state entry = .ok next →
      entry.1.name ≠ name → part next = part state)
    (hascending : Ascending entries) {state result : α}
    (h : entries.foldlM readEntry state = .ok result) :
    (∃ entry ∈ entries, entry.1.name = name ∧ Gives entry.2 (part result)) ∨
      (∀ entry ∈ entries, entry.1.name ≠ name) ∧ part result = part state := by
  induction entries generalizing state with
  | nil =>
      cases h
      exact .inr ⟨List.forall_mem_nil _, rfl⟩
  | cons entry rest ih =>
      obtain ⟨hfirst, hrest⟩ := List.pairwise_cons.1 hascending
      cases hentry : readEntry state entry with
      | error fault => simp [hentry, bind, Except.bind] at h
      | ok next =>
          simp only [List.foldlM_cons, hentry, bind, Except.bind] at h
          have hlater := ih (fun hmem => hself (List.mem_cons_of_mem _ hmem))
            (fun hmem => hother (List.mem_cons_of_mem _ hmem)) hrest h
          by_cases hname : entry.1.name = name
          · have hdistinct : ∀ other ∈ rest, other.1.name ≠ name := fun other hmem =>
              hname ▸ (hfirst other hmem).ne'
            rcases hlater with ⟨other, hmem, hsame, _⟩ | ⟨_, hresult⟩
            · exact absurd hsame (hdistinct other hmem)
            · exact .inl ⟨entry, List.mem_cons_self, hname,
                hresult ▸ hself List.mem_cons_self hentry hname⟩
          · rcases hlater with ⟨other, hmem, hgives⟩ | ⟨hnone, hresult⟩
            · exact .inl ⟨other, List.mem_cons_of_mem _ hmem, hgives⟩
            · exact .inr ⟨List.forall_mem_cons.2 ⟨hname, hnone⟩,
                hresult.trans (hother List.mem_cons_self hentry hname)⟩

end Entries

/-! ## Tables of options -/

def IsOption (entry : Key × Tree) : Prop :=
  ∃ (key : OptionKey) (value : OptionValue), key.name = entry.1.name ∧
    key.spec.kind.Writes entry.2 value

namespace Options

variable {options next : Options} {entry : Key × Tree} {entries : List (Key × Tree)}

theorem readEntry_eq_ok_iff (htidy : entry.2.Tidy) :
    readEntry options entry = .ok next ↔ ∃ (key : OptionKey) (value : OptionValue),
      key.name = entry.1.name ∧ key.spec.kind.Writes entry.2 value ∧
        options.give key value = next := by
  have hvalue (key : OptionKey) : readValue key entry.2 options =
      (fun value => options.give key value) <$> key.spec.kind.read entry.2 := by
    unfold readValue
    split
    next hnull =>
      rw [hnull] at htidy
      cases htidy with
      | scalar hpresent => exact absurd rfl hpresent
    · rfl
  constructor
  · intro h
    unfold readEntry at h
    split at h
    next key hkey =>
      rw [hvalue] at h
      obtain ⟨value, hread, hgive⟩ := map_eq_ok_iff.1 h
      exact ⟨key, value, OptionKey.name_of_ofName? hkey, OptionKind.read_eq_ok_iff.1 hread, hgive⟩
    · cases h
  · rintro ⟨key, value, hname, hwrites, hgive⟩
    rw [readEntry, ← hname, OptionKey.ofName?_name]
    exact (hvalue key).trans (map_eq_ok_iff.2 ⟨value, OptionKind.read_eq_ok_iff.2 hwrites, hgive⟩)

theorem exists_read_iff {format : DocumentFormat} {span : Span}
    (htidy : (Tree.table span entries).Tidy) :
    (∃ options, read format (.table span entries) = .ok options) ↔
      ∀ entry ∈ entries, IsOption entry := by
  cases htidy with
  | table _ htidy =>
      refine exists_foldlM_iff (fun entry hentry options => ?_) ({} : Options)
      simp only [readEntry_eq_ok_iff (htidy entry hentry)]
      constructor
      · rintro ⟨_, key, value, hname, hwrites, -⟩
        exact ⟨key, value, hname, hwrites⟩
      · rintro ⟨key, value, hname, hwrites⟩
        exact ⟨_, key, value, hname, hwrites, rfl⟩

/-- Options hold a value exactly when the value is written for them. -/
theorem value?_of_read {format : DocumentFormat} {span : Span}
    (htidy : (Tree.table span entries).Tidy) (h : read format (.table span entries) = .ok options)
    (key : OptionKey) (value : OptionValue) :
    options.value? key = some value ↔
      ∃ entry ∈ entries, entry.1.name = key.name ∧ key.spec.kind.Writes entry.2 value := by
  cases htidy with
  | table hascending htidy =>
      have hpart := part_of_foldlM (fun options : Options => options.value? key) key.name
        (fun tree found => ∃ value, key.spec.kind.Writes tree value ∧ found = some value)
        (fun {given entry next} hentry hread hname => by
          obtain ⟨other, value, hother, hwrites, rfl⟩ :=
            (readEntry_eq_ok_iff (htidy entry hentry)).1 hread
          cases OptionKey.name_injective (hother.trans hname)
          exact ⟨value, hwrites, value?_give_self given hwrites⟩)
        (fun {given entry next} hentry hread hname => by
          obtain ⟨other, value, hother, hwrites, rfl⟩ :=
            (readEntry_eq_ok_iff (htidy entry hentry)).1 hread
          have hne : other ≠ key := fun h => hname (h ▸ hother.symm)
          exact value?_give_of_ne given hne value)
        hascending h
      rcases hpart with ⟨entry, hmem, hname, written, hwrites, hfound⟩ | ⟨hnone, hfound⟩
      · rw [hfound]
        constructor
        · rintro ⟨⟩
          exact ⟨entry, hmem, hname, hwrites⟩
        · rintro ⟨other, hother, hsame, hagain⟩
          rw [hascending.eq_of_name hother hmem (hsame.trans hname.symm)] at hagain
          rw [hwrites.unique hagain]
      · rw [hfound]
        constructor
        · intro hvalue
          cases key <;> cases hvalue
        · rintro ⟨other, hother, hsame, _⟩
          exact absurd hsame (hnone other hother)

theorem supplied_of_read {format : DocumentFormat} {span : Span}
    (htidy : (Tree.table span entries).Tidy)
    (h : read format (.table span entries) = .ok options) :
    options.supplied = entries.map fun entry => entry.1.name := by
  have hoptions := (exists_read_iff htidy).1 ⟨options, h⟩
  have hvalue := value?_of_read htidy h
  cases htidy with
  | table hascending _ =>
      refine options.supplied_ascending.eq_of_mem_iff
        (List.pairwise_map.2 hascending) fun name => ?_
      rw [← List.contains_iff_mem]
      refine isSupplied_iff.trans ⟨?_, ?_⟩
      · rintro ⟨key, rfl, hgives⟩
        obtain ⟨value, hgiven⟩ := Option.isSome_iff_exists.1 hgives
        obtain ⟨entry, hmem, hname, _⟩ := (hvalue key value).1 hgiven
        exact List.mem_map.2 ⟨entry, hmem, hname⟩
      · intro hmem
        obtain ⟨entry, hentry, rfl⟩ := List.mem_map.1 hmem
        obtain ⟨key, value, hname, hwrites⟩ := hoptions entry hentry
        have hgiven := (hvalue key value).2 ⟨entry, hentry, hname.symm, hwrites⟩
        exact ⟨key, hname, Option.isSome_iff_exists.2 ⟨value, hgiven⟩⟩

end Options

end ClusterLink
