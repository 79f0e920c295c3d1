import ClusterLink.Proofs.Toml.Tidiness
import ClusterLink.Proofs.Tree

/-!
# Values in assembled tables

Putting tables together looks at names and never at values. So a change of all values may be made
before or after, and every value that is put in is there once.
-/

namespace ClusterLink.Toml

/-! ## Changed values -/

mutual

def Item.mapValues (change : Tree → Tree) : Item → Item
  | .value tree => .value (change tree)
  | .table origin span entries => .table origin span (mapEntries change entries)
  | .tables span elements => .tables span (mapElements change elements)

def mapEntries (change : Tree → Tree) : Entries → Entries
  | [] => []
  | (key, item) :: rest => (key, item.mapValues change) :: mapEntries change rest

def mapElements (change : Tree → Tree) : List Item → List Item
  | [] => []
  | item :: rest => item.mapValues change :: mapElements change rest

end

section Mapped

variable {f : Tree → Tree} {key : Key} {item : Item} {entries : Entries} {name : String}

theorem mapEntries_eq_map (entries : Entries) :
    mapEntries f entries = entries.map fun entry => (entry.1, entry.2.mapValues f) := by
  induction entries with
  | nil => rfl
  | cons entry rest ih => rw [mapEntries, ih, List.map_cons]

theorem mapElements_eq_map (elements : List Item) :
    mapElements f elements = elements.map (Item.mapValues f) := by
  induction elements with
  | nil => rfl
  | cons item rest ih => rw [mapElements, ih, List.map_cons]

theorem get?_mapEntries :
    Entries.get? name (mapEntries f entries) =
      (Entries.get? name entries).map fun entry => (entry.1, entry.2.mapValues f) := by
  induction entries with
  | nil => rfl
  | cons entry rest ih =>
      rw [mapEntries, Entries.get?, Entries.get?, ih]
      split <;> rfl

theorem put_mapEntries :
    Entries.put key (item.mapValues f) (mapEntries f entries) =
      mapEntries f (Entries.put key item entries) := by
  induction entries with
  | nil => rfl
  | cons entry rest ih =>
      rw [mapEntries, Entries.put, Entries.put, ih]
      split
      · rfl
      · split <;> rfl

/-- A change of a table that values take no part in, and the same change among changed values. -/
def Change.Maps (f : Tree → Tree) (change changed : Change) : Prop :=
  ∀ origin entries, changed origin (mapEntries f entries) =
    (change origin entries).map fun result => (result.1, mapEntries f result.2)

theorem maps_changeAt {made : Origin} {change changed : Change} (h : change.Maps f changed)
    (path : List Key) : (changeAt made change path).Maps f (changeAt made changed path) := by
  induction path with
  | nil => exact h
  | cons key path ih =>
      intro own entries
      rw [changeAt, changeAt, get?_mapEntries]
      cases Entries.get? key.name entries with
      | none =>
          have hinner := ih made []
          rw [mapEntries] at hinner
          simp only [Option.map_none, hinner]
          cases changeAt made change path made [] with
          | none => rfl
          | some inner =>
              simp [← put_mapEntries, Item.mapValues]
      | some known =>
          obtain ⟨known, item⟩ := known
          cases item with
          | value tree => rfl
          | table origin span inner =>
              simp only [Option.map_some, Item.mapValues]
              split
              · rfl
              · rw [ih origin inner]
                cases changeAt made change path origin inner with
                | none => rfl
                | some inner => simp [← put_mapEntries, Item.mapValues]
          | tables span elements =>
              simp only [Option.map_some, Item.mapValues, mapElements_eq_map, ← List.map_reverse]
              cases elements.reverse with
              | nil => rfl
              | cons last earlier =>
                  cases last with
                  | value tree => rfl
                  | tables span elements => rfl
                  | table origin place inner =>
                      simp only [List.map_cons, Item.mapValues]
                      rw [ih origin inner]
                      cases changeAt made change path origin inner with
                      | none => rfl
                      | some inner =>
                          simp [← put_mapEntries, Item.mapValues, mapElements_eq_map]

def Setting.map (f : Tree → Tree) (setting : Setting) : Setting :=
  { setting with value := f setting.value }

def Section.map (f : Tree → Tree) (part : Section) : Section :=
  { part with settings := part.settings.map (Setting.map f) }

theorem Setting.maps_put (setting : Setting) : Change.Maps f setting.put (setting.map f).put := by
  intro origin entries
  simp only [Setting.put, Setting.map, get?_mapEntries]
  by_cases hheader : (!setting.path.isEmpty) = true ∧ origin = .header
  · rw [if_pos hheader, if_pos hheader]
    rfl
  · rw [if_neg hheader, if_neg hheader]
    cases Entries.get? setting.key.name entries with
    | some known => rfl
    | none => simp [← put_mapEntries, Item.mapValues]

theorem Setting.add_map (setting : Setting) (entries : Entries) :
    (setting.map f).add (mapEntries f entries) = (setting.add entries).map (mapEntries f) := by
  have h := @maps_changeAt f .dotted _ _ setting.maps_put setting.path .header entries
  have hadd : (setting.map f).add (mapEntries f entries) =
      (changeAt .dotted (setting.map f).put setting.path .header
        (mapEntries f entries)).map (·.2) :=
    rfl
  rw [hadd, h, Setting.add, Option.map_map, Option.map_map]
  rfl

/-- Steps that a change of all values may be made before or after, one after the other. -/
theorem foldlM_map {α : Type} {change : α → α} (add : Entries → α → Option Entries)
    (hadd : ∀ part entries,
      add (mapEntries f entries) (change part) = (add entries part).map (mapEntries f))
    (parts : List α) (entries : Entries) :
    (parts.map change).foldlM add (mapEntries f entries) =
      (parts.foldlM add entries).map (mapEntries f) := by
  induction parts generalizing entries with
  | nil => rfl
  | cons part rest ih =>
      rw [List.map_cons, List.foldlM_cons, List.foldlM_cons, hadd]
      cases add entries part with
      | none => rfl
      | some next => exact ih next

theorem addSettings_map (settings : List Setting) (entries : Entries) :
    addSettings (settings.map (Setting.map f)) (mapEntries f entries) =
      (addSettings settings entries).map (mapEntries f) :=
  foldlM_map (fun entries (setting : Setting) => setting.add entries) Setting.add_map settings
    entries

theorem addSettings_map_nil (settings : List Setting) :
    addSettings (settings.map (Setting.map f)) [] =
      (addSettings settings []).map (mapEntries f) :=
  addSettings_map settings []

theorem Section.fill_map (part : Section) (siblings : Entries) :
    (part.map f).fill (mapEntries f siblings) = (part.fill siblings).map (mapEntries f) := by
  simp only [Section.fill, Section.map, get?_mapEntries, addSettings_map_nil]
  cases part.header.isElement with
  | false =>
      cases Entries.get? part.header.key.name siblings with
      | none =>
          cases addSettings part.settings [] with
          | none => rfl
          | some entries => simp [← put_mapEntries, Item.mapValues]
      | some known =>
          obtain ⟨known, item⟩ := known
          cases item with
          | value tree => rfl
          | tables span elements => rfl
          | table origin span inner =>
              cases origin with
              | header => rfl
              | dotted => rfl
              | implied =>
                  simp only [Option.map_some, Item.mapValues, addSettings_map]
                  cases addSettings part.settings inner with
                  | none => rfl
                  | some entries => simp [← put_mapEntries, Item.mapValues]
  | true =>
      cases Entries.get? part.header.key.name siblings with
      | none =>
          cases addSettings part.settings [] with
          | none => rfl
          | some entries => simp [← put_mapEntries, Item.mapValues, mapElements]
      | some known =>
          obtain ⟨known, item⟩ := known
          cases item with
          | value tree => rfl
          | table origin span inner => rfl
          | tables span elements =>
              simp only [Option.map_some, Item.mapValues]
              cases addSettings part.settings [] with
              | none => rfl
              | some entries => simp [← put_mapEntries, Item.mapValues, mapElements_eq_map]

theorem Section.add_map (part : Section) (root : Entries) :
    (part.map f).add (mapEntries f root) = (part.add root).map (mapEntries f) := by
  have hfill : Change.Maps f (fun origin siblings => (part.fill siblings).map (origin, ·))
      (fun origin siblings => ((part.map f).fill siblings).map (origin, ·)) := by
    intro origin siblings
    simp only [fill_map, Option.map_map]
    rfl
  have h := @maps_changeAt f .implied _ _ hfill part.header.path .header root
  have hadd : (part.map f).add (mapEntries f root) =
      (changeAt .implied (fun origin siblings => ((part.map f).fill siblings).map (origin, ·))
        part.header.path .header (mapEntries f root)).map (·.2) := rfl
  rw [hadd, h, Section.add, Option.map_map, Option.map_map]
  rfl

end Mapped

/-! ## Texts at a place -/

@[elab_as_elim]
theorem Item.induct {P : Item → Prop} (value : ∀ tree, P (.value tree))
    (table : ∀ origin span entries, (∀ entry ∈ entries, P entry.2) → P (.table origin span entries))
    (tables : ∀ span elements, (∀ item ∈ elements, P item) → P (.tables span elements))
    (item : Item) : P item :=
  @Item.rec P (fun entries => ∀ entry ∈ entries, P entry.2) (fun items => ∀ item ∈ items, P item)
    (fun entry => P entry.2) value table tables (List.forall_mem_nil _)
    (fun _ _ hentry hentries => List.forall_mem_cons.2 ⟨hentry, hentries⟩) (List.forall_mem_nil _)
    (fun _ _ hitem hitems => List.forall_mem_cons.2 ⟨hitem, hitems⟩) (fun _ _ h => h) item

section Respelled

variable {place : Span} {value : String}

theorem tree_mapValues (item : Item) :
    (item.mapValues (Tree.respell place value)).tree = item.tree.respell place value := by
  induction item using Item.induct with
  | value tree => rfl
  | table origin span entries ih =>
      rw [Item.mapValues, Item.tree, Item.tree, Tree.respell, Tree.respellEntries_eq_map,
        treeEntries_eq_map, treeEntries_eq_map, mapEntries_eq_map, List.map_map, List.map_map]
      exact congrArg _ (List.map_congr_left fun entry hmem => congrArg _ (ih entry hmem))
  | tables span elements ih =>
      rw [Item.mapValues, Item.tree, Item.tree, Tree.respell, Tree.respellItems_eq_map,
        treeItems_eq_map, treeItems_eq_map, mapElements_eq_map, List.map_map, List.map_map]
      exact congrArg _ (List.map_congr_left ih)

theorem treeEntries_mapEntries (entries : Entries) :
    treeEntries (mapEntries (Tree.respell place value) entries) =
      Tree.respellEntries place value (treeEntries entries) := by
  have h := @tree_mapValues place value (.table .header default entries)
  rw [Item.mapValues, Item.tree, Item.tree, Tree.respell] at h
  exact (Tree.table.inj h).2

theorem inlineTable?_respell {settings : List Setting} {entries : List (Key × Tree)}
    (h : inlineTable? settings = some entries) :
    inlineTable? (settings.map (Setting.map (Tree.respell place value))) =
      some (Tree.respellEntries place value entries) := by
  obtain ⟨root, hroot, rfl⟩ := Option.map_eq_some_iff.1 h
  have hmapped := @addSettings_map (Tree.respell place value) settings []
  rw [hroot] at hmapped
  exact Option.map_eq_some_iff.2 ⟨_, hmapped, treeEntries_mapEntries root⟩

theorem assemble?_respell {settings : List Setting} {sections : List Section}
    {document : List (Key × Tree)} (h : assemble? settings sections = some document) :
    assemble? (settings.map (Setting.map (Tree.respell place value)))
        (sections.map (Section.map (Tree.respell place value))) =
      some (Tree.respellEntries place value document) := by
  obtain ⟨root, hroot, h⟩ := Option.bind_eq_some_iff.1 h
  obtain ⟨full, hfull, h⟩ := Option.bind_eq_some_iff.1 h
  cases h
  have hmapped := @addSettings_map (Tree.respell place value) settings []
  have hall := foldlM_map (fun root part => part.add root)
    (@Section.add_map (Tree.respell place value)) sections root
  rw [hroot] at hmapped
  rw [hfull] at hall
  refine Option.bind_eq_some_iff.2 ⟨_, hmapped, Option.bind_eq_some_iff.2 ⟨_, hall, ?_⟩⟩
  rw [treeEntries_mapEntries]

end Respelled

/-! ## Places of values -/

section Counted

variable {place : Span} {key known : Key} {item old : Item} {entries : Entries} {name : String}
  {amount : Nat} {settings : List Setting}

namespace Entries

def countAt (place : Span) (entries : Entries) : Nat :=
  Tree.countInEntries place (treeEntries entries)

theorem countAt_cons (entry : Key × Item) (rest : Entries) :
    countAt place (entry :: rest) = entry.2.tree.countAt place + countAt place rest := rfl

theorem countAt_table (origin : Origin) (span : Span) (entries : Entries) :
    (Item.table origin span entries).tree.countAt place = countAt place entries := by
  rw [Item.tree, Tree.countAt, countAt]

theorem countAt_tables (span : Span) (earlier : List Item) (item : Item) :
    (Item.tables span (earlier ++ [item])).tree.countAt place =
      Tree.countInItems place (treeItems earlier) + item.tree.countAt place := by
  simp only [Item.tree, treeItems_eq_map, List.map_append, List.map_cons, List.map_nil,
    Tree.countAt, Tree.countInItems_append, Tree.countInItems, Nat.add_zero]

theorem countAt_put_new (h : get? key.name entries = none) :
    countAt place (put key item entries) = item.tree.countAt place + countAt place entries := by
  induction entries with
  | nil => rfl
  | cons entry rest ih =>
      rw [get?] at h
      split at h
      · cases h
      next hother =>
        rw [put, if_neg hother]
        split
        · rfl
        · rw [countAt_cons, countAt_cons, ih h]
          omega

theorem name_of_get? {found : Key × Item} (h : get? name entries = some found) :
    found.1.name = name := by
  induction entries with
  | nil => cases h
  | cons entry rest ih =>
      rw [get?] at h
      split at h
      next hsame => exact Option.some.inj h ▸ hsame
      · exact ih h

theorem get?_name {found : Key × Item} (h : get? name entries = some found) :
    get? found.1.name entries = some found := by
  rw [name_of_get? h, h]

theorem countAt_put_known {found : Key × Item} (item : Item) (hascending : Ascending entries)
    (h : get? key.name entries = some found) :
    countAt place (put key item entries) + found.2.tree.countAt place =
      item.tree.countAt place + countAt place entries := by
  induction entries with
  | nil => cases h
  | cons entry rest ih =>
      obtain ⟨hfirst, hrest⟩ := List.pairwise_cons.1 hascending
      rw [get?] at h
      split at h
      next hsame =>
        cases h
        rw [put, if_pos hsame, countAt_cons, countAt_cons]
        dsimp only
        omega
      next hother =>
        have hafter : entry.1.name < key.name := name_of_get? h ▸ hfirst _ (mem_of_get? h)
        rw [put, if_neg hother, if_neg (not_lt.2 hafter.le), countAt_cons, countAt_cons]
        have hsame := ih hrest h
        omega

end Entries

/-- A change that adds a number of scalars at a place to every tidy table. -/
def Change.Adds (place : Span) (amount : Nat) (change : Change) : Prop :=
  ∀ {origin entries result}, Entries.Tidy entries → change origin entries = some result →
    Entries.countAt place result.2 = amount + Entries.countAt place entries

theorem adds_changeAt {made : Origin} {change : Change} (hchange : change.Adds place amount)
    (path : List Key) : (changeAt made change path).Adds place amount := by
  induction path with
  | nil => exact hchange
  | cons key path ih =>
      intro own entries result htidy h
      rw [changeAt] at h
      split at h
      next hget =>
        obtain ⟨changed, hinner, hresult⟩ := Option.bind_eq_some_iff.1 h
        cases hresult
        rw [Entries.countAt_put_new hget, Entries.countAt_table, ih Entries.tidy_nil hinner]
        rfl
      next known origin span inner hget =>
        split at h
        · cases h
        · obtain ⟨changed, hinner, hresult⟩ := Option.bind_eq_some_iff.1 h
          cases hresult
          have hput := @Entries.countAt_put_known place _ _ _ (.table changed.1 span changed.2)
            htidy.ascending (Entries.get?_name hget)
          dsimp only at hput ⊢
          rw [Entries.countAt_table, Entries.countAt_table,
            ih (htidy.of_get? hget).tidy_entries hinner] at hput
          omega
      next known span elements hget =>
        split at h
        next origin within inner earlier hreverse =>
          obtain ⟨changed, hinner, hresult⟩ := Option.bind_eq_some_iff.1 h
          cases hresult
          have helements : elements = earlier.reverse ++ [.table origin within inner] := by
            rw [← List.reverse_reverse elements, hreverse, List.reverse_cons]
          have hlast : (Item.table origin within inner).Tidy := by
            cases htidy.of_get? hget with
            | tables htidy => exact htidy _ (by simp [helements])
          have hput := @Entries.countAt_put_known place _ _ _
            (.tables span (Item.table changed.1 within changed.2 :: earlier).reverse)
            htidy.ascending (Entries.get?_name hget)
          dsimp only at hput ⊢
          rw [helements, List.reverse_cons, Entries.countAt_tables, Entries.countAt_tables,
            Entries.countAt_table, Entries.countAt_table, ih hlast.tidy_entries hinner] at hput
          rw [List.reverse_cons]
          omega
        · cases h
      · cases h

theorem Setting.adds_put (setting : Setting) :
    Change.Adds place (setting.value.countAt place) setting.put := by
  intro origin entries result _ h
  rw [Setting.put] at h
  split at h
  · cases h
  split at h
  · cases h
  next hnew =>
    cases h
    exact Entries.countAt_put_new hnew

/-- Steps that add what they carry add up. -/
theorem countAt_foldlM {α : Type} {add : Entries → α → Option Entries} (carried : α → List Tree)
    {parts : List α} {result : Entries}
    (hadd : ∀ part ∈ parts, ∀ {entries next}, Entries.Tidy entries → add entries part = some next →
      Entries.Tidy next ∧ Entries.countAt place next =
        Tree.countInItems place (carried part) + Entries.countAt place entries)
    (hentries : Entries.Tidy entries) (h : parts.foldlM add entries = some result) :
    Entries.countAt place result =
      Tree.countInItems place (parts.flatMap carried) + Entries.countAt place entries := by
  induction parts generalizing entries with
  | nil =>
      cases h
      exact (Nat.zero_add _).symm
  | cons part rest ih =>
      obtain ⟨next, hnext, hrest⟩ := Option.bind_eq_some_iff.1 h
      obtain ⟨hnextTidy, hfirst⟩ := hadd part List.mem_cons_self hentries hnext
      have hlater := ih (fun other hother => hadd other (List.mem_cons_of_mem _ hother)) hnextTidy
        hrest
      rw [List.flatMap_cons, Tree.countInItems_append]
      omega

def valuesOf (settings : List Setting) : List Tree := settings.map Setting.value

theorem countAt_addSettings {result : Entries} (hvalues : ∀ setting ∈ settings, setting.value.Tidy)
    (htidy : Entries.Tidy entries) (h : addSettings settings entries = some result) :
    Entries.countAt place result =
      Tree.countInItems place (valuesOf settings) + Entries.countAt place entries := by
  rw [valuesOf, List.map_eq_flatMap]
  refine countAt_foldlM (fun setting => [setting.value]) (fun setting hmem _ _ hentries hadd => ?_)
    htidy h
  refine ⟨Setting.tidy_add (hvalues setting hmem) hentries hadd, ?_⟩
  obtain ⟨changed, hchanged, rfl⟩ := Option.map_eq_some_iff.1 hadd
  exact adds_changeAt setting.adds_put setting.path hentries hchanged

theorem countAt_inlineTable? {result : List (Key × Tree)}
    (hvalues : ∀ setting ∈ settings, setting.value.Tidy) (h : inlineTable? settings = some result) :
    Tree.countInEntries place result = Tree.countInItems place (valuesOf settings) := by
  obtain ⟨entries, hentries, rfl⟩ := Option.map_eq_some_iff.1 h
  exact countAt_addSettings hvalues Entries.tidy_nil hentries

theorem Section.countAt_fill {part : Section} {siblings result : Entries}
    (hvalues : ∀ setting ∈ part.settings, setting.value.Tidy)
    (htidy : Entries.Tidy siblings) (h : part.fill siblings = some result) :
    Entries.countAt place result =
      Tree.countInItems place (valuesOf part.settings) + Entries.countAt place siblings := by
  rw [Section.fill] at h
  split at h
  next hget =>
    obtain ⟨entries, hentries, hresult⟩ := Option.bind_eq_some_iff.1 h
    cases hresult
    rw [Entries.countAt_put_new hget, Entries.countAt_table,
      countAt_addSettings hvalues Entries.tidy_nil hentries]
    rfl
  next hget =>
    obtain ⟨entries, hentries, hresult⟩ := Option.bind_eq_some_iff.1 h
    cases hresult
    have hput := @Entries.countAt_put_known place _ _ _
      (.table .header part.header.span entries) htidy.ascending hget
    rw [Entries.countAt_table, Entries.countAt_table,
      countAt_addSettings hvalues (htidy.of_get? hget).tidy_entries hentries] at hput
    omega
  next hget =>
    obtain ⟨entries, hentries, hresult⟩ := Option.bind_eq_some_iff.1 h
    cases hresult
    have htables := @Entries.countAt_tables place part.header.span []
      (.table .header part.header.span entries)
    rw [Entries.countAt_put_new hget, ← List.nil_append [_], htables, Entries.countAt_table,
      countAt_addSettings hvalues Entries.tidy_nil hentries]
    exact congrArg (· + _) (Nat.zero_add _)
  next known span elements _ hget =>
    obtain ⟨entries, hentries, hresult⟩ := Option.bind_eq_some_iff.1 h
    cases hresult
    have hput := @Entries.countAt_put_known place _ _ _
      (.tables span (elements ++ [.table .header part.header.span entries])) htidy.ascending
      (Entries.get?_name hget)
    dsimp only at hput
    rw [Entries.countAt_tables, Entries.countAt_table,
      countAt_addSettings hvalues Entries.tidy_nil hentries, Item.tree, Tree.countAt] at hput
    have hnone : Entries.countAt place [] = 0 := rfl
    omega
  · cases h

theorem Section.countAt_add {part : Section} {root result : Entries}
    (hvalues : ∀ setting ∈ part.settings, setting.value.Tidy) (htidy : Entries.Tidy root)
    (h : part.add root = some result) :
    Entries.countAt place result =
      Tree.countInItems place (valuesOf part.settings) + Entries.countAt place root := by
  obtain ⟨changed, hchanged, rfl⟩ := Option.map_eq_some_iff.1 h
  refine adds_changeAt ?_ part.header.path htidy hchanged
  intro origin siblings outcome hsiblings hfill
  obtain ⟨filled, hfilled, rfl⟩ := Option.map_eq_some_iff.1 hfill
  exact Section.countAt_fill hvalues hsiblings hfilled

theorem countAt_assemble? {sections : List Section} {document : List (Key × Tree)}
    (hsettings : ∀ setting ∈ settings, setting.value.Tidy)
    (hsections : ∀ part ∈ sections, ∀ setting ∈ part.settings, setting.value.Tidy)
    (h : assemble? settings sections = some document) :
    Tree.countInEntries place document = Tree.countInItems place (valuesOf settings) +
      Tree.countInItems place (sections.flatMap fun part => valuesOf part.settings) := by
  obtain ⟨root, hroot, h⟩ := Option.bind_eq_some_iff.1 h
  obtain ⟨full, hfull, h⟩ := Option.bind_eq_some_iff.1 h
  cases h
  have hcount : Entries.countAt place root = Tree.countInItems place (valuesOf settings) :=
    countAt_addSettings hsettings Entries.tidy_nil hroot
  have hall : Entries.countAt place full =
      Tree.countInItems place (sections.flatMap fun part => valuesOf part.settings) +
        Entries.countAt place root :=
    countAt_foldlM _ (fun part hpart _ _ hentries hadd =>
      ⟨Section.tidy_add (hsections part hpart) hentries hadd,
        Section.countAt_add (hsections part hpart) hentries hadd⟩)
      (tidy_addSettings hsettings Entries.tidy_nil hroot) hfull
  rw [Entries.countAt] at hall
  omega

end Counted

end ClusterLink.Toml
