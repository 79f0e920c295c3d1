import ClusterLink.Proofs.Toml.Steadiness.Values
import Mathlib.Data.List.Nodup
import Mathlib.Data.String.Basic

/-!
# Tidy documents

Whatever the notation, what is read from a text is tidy: the names of every table are strictly
ascending, so that no name is there twice, and no value is null. Setting by setting and section by
section, every way to add to a table keeps it tidy.
-/

namespace ClusterLink

/-- The names of entries are strictly ascending. -/
def Ascending {α : Type} (entries : List (Key × α)) : Prop :=
  entries.Pairwise fun entry later => entry.1.name < later.1.name

/-- No name is there twice. -/
theorem Ascending.eq_of_name {α : Type} {entries : List (Key × α)} {a b : Key × α}
    (h : Ascending entries) (ha : a ∈ entries) (hb : b ∈ entries) (hname : a.1.name = b.1.name) :
    a = b := by
  have hnames : (entries.map fun entry => entry.1.name).Nodup :=
    List.pairwise_map.2 (h.imp LT.lt.ne)
  exact List.inj_on_of_nodup_map hnames ha hb hname

theorem Ascending.find?_eq_some {α : Type} {entries : List (Key × α)} {entry : Key × α}
    {name : String} (h : Ascending entries) (hmem : entry ∈ entries) (hname : entry.1.name = name) :
    entries.find? (fun other => other.1.name == name) = some entry := by
  cases hfind : entries.find? fun other => other.1.name == name with
  | none => exact absurd (beq_iff_eq.2 hname) (List.find?_eq_none.1 hfind entry hmem)
  | some found =>
      have hfound : found.1.name = name := by simpa using List.find?_some hfind
      rw [h.eq_of_name (List.mem_of_find?_eq_some hfind) hmem (hfound.trans hname.symm)]

theorem find?_eq_none_of_name_ne {α : Type} {entries : List (Key × α)} {name : String}
    (h : ∀ entry ∈ entries, entry.1.name ≠ name) :
    entries.find? (fun entry => entry.1.name == name) = none :=
  List.find?_eq_none.2 fun entry hmem hname => h entry hmem (beq_iff_eq.1 hname)

inductive Tree.Tidy : Tree → Prop
  | scalar {span : Span} {value : Scalar} (present : value ≠ .null) : Tidy (.scalar span value)
  | list {span : Span} {items : List Tree} (tidy : ∀ item ∈ items, item.Tidy) :
      Tidy (.list span items)
  | table {span : Span} {entries : List (Key × Tree)} (ascending : Ascending entries)
      (tidy : ∀ entry ∈ entries, entry.2.Tidy) : Tidy (.table span entries)

namespace Toml

inductive Item.Tidy : Item → Prop
  | value {tree : Tree} (tidy : tree.Tidy) : Tidy (.value tree)
  | table {origin : Origin} {span : Span} {entries : Entries} (ascending : Ascending entries)
      (tidy : ∀ entry ∈ entries, entry.2.Tidy) : Tidy (.table origin span entries)
  | tables {span : Span} {elements : List Item} (tidy : ∀ item ∈ elements, item.Tidy) :
      Tidy (.tables span elements)

structure Entries.Tidy (entries : Entries) : Prop where
  ascending : Ascending entries
  items : ∀ entry ∈ entries, entry.2.Tidy

variable {key known : Key} {item : Item} {entries inner : Entries} {origin : Origin}
  {span : Span} {settings : List Setting}

namespace Entries

theorem tidy_nil : Tidy [] := ⟨.nil, by simp⟩

theorem mem_put {entry : Key × Item} (h : entry ∈ put key item entries) :
    entry = (key, item) ∨ entry ∈ entries := by
  induction entries with
  | nil => exact .inl (List.mem_singleton.1 h)
  | cons first rest ih =>
      rw [put] at h
      split at h
      · exact (List.mem_cons.1 h).imp_right (List.mem_cons_of_mem _)
      split at h
      · exact List.mem_cons.1 h
      · rcases List.mem_cons.1 h with hfirst | hrest
        · exact .inr (hfirst ▸ List.mem_cons_self)
        · exact (ih hrest).imp_right (List.mem_cons_of_mem _)

theorem ascending_put (h : Ascending entries) : Ascending (put key item entries) := by
  induction entries with
  | nil => exact List.pairwise_singleton _ _
  | cons first rest ih =>
      obtain ⟨hfirst, hrest⟩ := List.pairwise_cons.1 h
      rw [put]
      split
      next hsame =>
        exact List.pairwise_cons.2 ⟨fun entry hentry => hsame ▸ hfirst entry hentry, hrest⟩
      next hother =>
        split
        next hbefore =>
          refine List.pairwise_cons.2 ⟨fun entry hentry => ?_, h⟩
          rcases List.mem_cons.1 hentry with rfl | hentry
          · exact hbefore
          · exact hbefore.trans (hfirst entry hentry)
        next hafter =>
          refine List.pairwise_cons.2 ⟨fun entry hentry => ?_, ih hrest⟩
          rcases mem_put hentry with rfl | hentry
          · exact lt_of_le_of_ne (not_lt.1 hafter) hother
          · exact hfirst entry hentry

theorem Tidy.put (h : Tidy entries) (hitem : item.Tidy) : Tidy (put key item entries) where
  ascending := ascending_put h.ascending
  items entry hentry := by
    rcases mem_put hentry with rfl | hentry
    · exact hitem
    · exact h.items entry hentry

theorem mem_of_get? {name : String} {entry : Key × Item} (h : get? name entries = some entry) :
    entry ∈ entries := by
  induction entries with
  | nil => cases h
  | cons first rest ih =>
      rw [get?] at h
      split at h
      · exact Option.some.inj h ▸ List.mem_cons_self
      · exact List.mem_cons_of_mem _ (ih h)

theorem Tidy.of_get? (h : Tidy entries) {name : String} {entry : Key × Item}
    (hget : get? name entries = some entry) : entry.2.Tidy :=
  h.items entry (mem_of_get? hget)

theorem Tidy.tidy_table (h : Tidy entries) : (Item.table origin span entries).Tidy :=
  .table h.ascending h.items

end Entries

theorem Item.Tidy.tidy_entries (h : (Item.table origin span entries).Tidy) :
    Entries.Tidy entries := by
  cases h with
  | table ascending items => exact ⟨ascending, items⟩

theorem treeEntries_eq_map (entries : Entries) :
    treeEntries entries = entries.map fun entry => (entry.1, entry.2.tree) := by
  induction entries with
  | nil => rfl
  | cons entry rest ih => rw [treeEntries, ih, List.map_cons]

theorem treeItems_eq_map (elements : List Item) : treeItems elements = elements.map Item.tree := by
  induction elements with
  | nil => rfl
  | cons item rest ih => rw [treeItems, ih, List.map_cons]

theorem ascending_treeEntries (h : Ascending entries) : Ascending (treeEntries entries) := by
  rw [treeEntries_eq_map]
  exact List.pairwise_map.2 h

theorem Item.Tidy.tree (h : item.Tidy) : item.tree.Tidy := by
  induction h with
  | value tidy => exact tidy
  | table ascending _ ih =>
      rw [Item.tree]
      refine .table (ascending_treeEntries ascending) fun entry hentry => ?_
      rw [treeEntries_eq_map] at hentry
      obtain ⟨source, hsource, rfl⟩ := List.mem_map.1 hentry
      exact ih source hsource
  | tables _ ih =>
      rw [Item.tree]
      refine .list fun element helement => ?_
      rw [treeItems_eq_map] at helement
      obtain ⟨source, hsource, rfl⟩ := List.mem_map.1 helement
      exact ih source hsource

theorem Entries.Tidy.tree (h : Entries.Tidy entries) (span : Span) :
    (Tree.table span (treeEntries entries)).Tidy :=
  (@Entries.Tidy.tidy_table entries .header span h).tree

/-! ## Assembling -/

def Change.KeepsTidy (change : Change) : Prop :=
  ∀ {origin entries result}, Entries.Tidy entries → change origin entries = some result →
    Entries.Tidy result.2

theorem keepsTidy_changeAt {made : Origin} {change : Change} (hchange : change.KeepsTidy)
    (path : List Key) : (changeAt made change path).KeepsTidy := by
  induction path with
  | nil => exact hchange
  | cons key path ih =>
      intro own entries result htidy h
      rw [changeAt] at h
      split at h
      · obtain ⟨changed, hinner, hresult⟩ := Option.bind_eq_some_iff.1 h
        cases hresult
        exact htidy.put (ih Entries.tidy_nil hinner).tidy_table
      next known origin span inner hget =>
        split at h
        · cases h
        · obtain ⟨changed, hinner, hresult⟩ := Option.bind_eq_some_iff.1 h
          cases hresult
          exact htidy.put (ih (htidy.of_get? hget).tidy_entries hinner).tidy_table
      next known span elements hget =>
        have helements : ∀ element ∈ elements, element.Tidy := by
          cases htidy.of_get? hget with
          | tables helements => exact helements
        split at h
        next origin place inner earlier hreverse =>
          have hmem {element} (helement : element ∈ Item.table origin place inner :: earlier) :
              element.Tidy :=
            helements element (List.mem_reverse.1 (hreverse ▸ helement))
          obtain ⟨changed, hinner, hresult⟩ := Option.bind_eq_some_iff.1 h
          cases hresult
          refine htidy.put (.tables fun element helement => ?_)
          rcases List.mem_cons.1 (List.mem_reverse.1 helement) with rfl | helement
          · exact (ih (hmem List.mem_cons_self).tidy_entries hinner).tidy_table
          · exact hmem (List.mem_cons_of_mem _ helement)
        · cases h
      · cases h

theorem Setting.keepsTidy_put {setting : Setting} (hvalue : setting.value.Tidy) :
    Change.KeepsTidy setting.put := by
  intro origin entries result htidy h
  rw [Setting.put] at h
  split at h
  · cases h
  split at h
  · cases h
  · cases h
    exact htidy.put (.value hvalue)

theorem Setting.tidy_add {setting : Setting} (hvalue : setting.value.Tidy) {result : Entries}
    (htidy : Entries.Tidy entries) (h : setting.add entries = some result) :
    Entries.Tidy result := by
  obtain ⟨changed, hchanged, rfl⟩ := Option.map_eq_some_iff.1 h
  exact keepsTidy_changeAt (Setting.keepsTidy_put hvalue) setting.path htidy hchanged

/-- What every step keeps tidy is tidy after all steps. -/
theorem tidy_foldlM {α : Type} {add : Entries → α → Option Entries} {parts : List α}
    {result : Entries}
    (hadd : ∀ part ∈ parts, ∀ {entries next}, Entries.Tidy entries →
      add entries part = some next → Entries.Tidy next)
    (htidy : Entries.Tidy entries) (h : parts.foldlM add entries = some result) :
    Entries.Tidy result := by
  induction parts generalizing entries with
  | nil => exact Option.some.inj h ▸ htidy
  | cons part rest ih =>
      obtain ⟨next, hnext, hrest⟩ := Option.bind_eq_some_iff.1 h
      exact ih (fun other hother => hadd other (List.mem_cons_of_mem _ hother))
        (hadd part List.mem_cons_self htidy hnext) hrest

theorem tidy_addSettings {result : Entries} (hvalues : ∀ setting ∈ settings, setting.value.Tidy)
    (htidy : Entries.Tidy entries) (h : addSettings settings entries = some result) :
    Entries.Tidy result :=
  tidy_foldlM (fun setting hsetting _ _ => Setting.tidy_add (hvalues setting hsetting)) htidy h

theorem tidy_inlineTable? {result : List (Key × Tree)}
    (hvalues : ∀ setting ∈ settings, setting.value.Tidy)
    (h : inlineTable? settings = some result) (span : Span) : (Tree.table span result).Tidy := by
  obtain ⟨entries, hentries, rfl⟩ := Option.map_eq_some_iff.1 h
  exact (tidy_addSettings hvalues Entries.tidy_nil hentries).tree span

theorem Section.tidy_fill {part : Section} {siblings result : Entries}
    (hvalues : ∀ setting ∈ part.settings, setting.value.Tidy)
    (htidy : Entries.Tidy siblings) (h : part.fill siblings = some result) :
    Entries.Tidy result := by
  rw [Section.fill] at h
  split at h
  · obtain ⟨entries, hentries, hresult⟩ := Option.bind_eq_some_iff.1 h
    cases hresult
    exact htidy.put (tidy_addSettings hvalues Entries.tidy_nil hentries).tidy_table
  next hget =>
    obtain ⟨entries, hentries, hresult⟩ := Option.bind_eq_some_iff.1 h
    cases hresult
    exact htidy.put (tidy_addSettings hvalues (htidy.of_get? hget).tidy_entries hentries).tidy_table
  · obtain ⟨entries, hentries, hresult⟩ := Option.bind_eq_some_iff.1 h
    cases hresult
    have hfilled := tidy_addSettings hvalues Entries.tidy_nil hentries
    exact htidy.put
      (.tables fun element helement => List.mem_singleton.1 helement ▸ hfilled.tidy_table)
  next hget =>
    obtain ⟨entries, hentries, hresult⟩ := Option.bind_eq_some_iff.1 h
    cases hresult
    refine htidy.put (.tables fun element helement => ?_)
    rcases List.mem_append.1 helement with helement | helement
    · cases htidy.of_get? hget with
      | tables helements => exact helements element helement
    · have hfilled := tidy_addSettings hvalues Entries.tidy_nil hentries
      exact List.mem_singleton.1 helement ▸ hfilled.tidy_table
  · cases h

theorem Section.tidy_add {part : Section} {root result : Entries}
    (hvalues : ∀ setting ∈ part.settings, setting.value.Tidy)
    (htidy : Entries.Tidy root) (h : part.add root = some result) : Entries.Tidy result := by
  obtain ⟨changed, hchanged, rfl⟩ := Option.map_eq_some_iff.1 h
  refine keepsTidy_changeAt ?_ part.header.path htidy hchanged
  intro origin siblings outcome hsiblings hfill
  obtain ⟨filled, hfilled, rfl⟩ := Option.map_eq_some_iff.1 hfill
  exact Section.tidy_fill hvalues hsiblings hfilled

theorem tidy_assemble? {sections : List Section} {document : List (Key × Tree)}
    (hsettings : ∀ setting ∈ settings, setting.value.Tidy)
    (hsections : ∀ part ∈ sections, ∀ setting ∈ part.settings, setting.value.Tidy)
    (h : assemble? settings sections = some document) (span : Span) :
    (Tree.table span document).Tidy := by
  obtain ⟨root, hroot, h⟩ := Option.bind_eq_some_iff.1 h
  obtain ⟨full, hfull, h⟩ := Option.bind_eq_some_iff.1 h
  cases h
  have htidy := tidy_addSettings hsettings Entries.tidy_nil hroot
  exact (tidy_foldlM (fun part hpart _ _ => Section.tidy_add (hsections part hpart)) htidy
    hfull).tree span

/-! ## Reading -/

theorem float?_ne_null (text : List Char) : float? text ≠ some .null := by
  intro h
  unfold float? at h
  split at h
  split at h
  · cases h
  split at h
  · cases h
  · obtain ⟨value, _, h⟩ := Option.map_eq_some_iff.1 h
    cases value with
    | infinite | nan | finite => cases h

theorem unquoted?_ne_null (text : List Char) : unquoted? text ≠ some (.scalar .null) := by
  intro h
  unfold unquoted? at h
  split at h
  · cases h
  split at h
  · cases h
  split at h
  next value _ =>
    rw [wideInteger] at h
    split at h
    · cases h
    · cases h
  next =>
    split at h
    next hfloat =>
      cases h
      exact float?_ne_null text hfloat
    next =>
      split at h
      · cases h
      · split at h
        · cases h
        · cases h

theorem tidy_tree_of_readUnquoted {text rest : List Char} {value : Unquoted}
    (h : readUnquoted text = some (value, rest)) (span : Span) : (value.tree text span).Tidy := by
  obtain ⟨read, hread, hvalue⟩ := Option.map_eq_some_iff.1 h
  cases hvalue
  cases value with
  | scalar value =>
      refine .scalar ?_
      rintro rfl
      exact unquoted?_ne_null _ hread
  | moment =>
      refine .table (List.pairwise_singleton _ _) (List.forall_mem_singleton.2 (.scalar ?_))
      exact Scalar.noConfusion

theorem tidy_of_readSetting {element : Reader Tree} {skip : List Char → Option (List Char)}
    (helement : ∀ {text tree rest}, element text = some (tree, rest) → tree.Tidy)
    {text rest : List Char} {setting : Setting}
    (h : readSetting element skip text = some (setting, rest)) : setting.value.Tidy := by
  cases readSetting_eq_some_iff.1 h with
  | mk _ _ _ _ hread => exact helement hread

theorem tidy_of_readValue {depth : Nat} {text rest : List Char} {tree : Tree}
    (h : readValue depth text = some (tree, rest)) : tree.Tidy := by
  induction depth generalizing text tree rest with
  | zero =>
      cases readValue_eq_some_iff.1 h with
      | quoted => exact .scalar Scalar.noConfusion
      | unquoted _ hread => exact tidy_tree_of_readUnquoted hread _
  | succ depth ih =>
      cases readValue_eq_some_iff.1 h with
      | list hread =>
          exact .list (forall_of_readListed passes_readValue (fun h _ => ih h) hread le_rfl)
      | table hread hassembled =>
          have hsettings := forall_of_readListed
            (passes_readSetting passes_dropFiller passes_readValue)
            (fun h _ => tidy_of_readSetting ih h) hread le_rfl
          exact tidy_inlineTable? hsettings hassembled _
      | quoted => exact .scalar Scalar.noConfusion
      | unquoted _ hread => exact tidy_tree_of_readUnquoted hread _

theorem tidy_of_readSettings {depth fuel : Nat} {text rest : List Char} {settings : List Setting}
    (h : readListed '\x7d' (readSetting (readValue depth) (dropFiller false)) fuel text =
      some (settings, rest)) : ∀ setting ∈ settings, setting.value.Tidy :=
  forall_of_readListed (passes_readSetting passes_dropFiller passes_readValue)
    (fun h _ => tidy_of_readSetting tidy_of_readValue h) h le_rfl

theorem tidy_of_readSections {fuel : Nat} {text : List Char} {settings : List Setting}
    {sections : List Section} (h : readSections fuel text = some (settings, sections)) :
    (∀ setting ∈ settings, setting.value.Tidy) ∧
      ∀ part ∈ sections, ∀ setting ∈ part.settings, setting.value.Tidy := by
  induction fuel generalizing text settings sections with
  | zero => cases h
  | succ fuel ih =>
      cases readSections_eq_some_iff.1 h with
      | ended => exact ⟨List.forall_mem_nil _, List.forall_mem_nil _⟩
      | header _ _ _ _ hothers =>
          obtain ⟨hsettings, hsections⟩ := ih hothers
          exact ⟨List.forall_mem_nil _, List.forall_mem_cons.2 ⟨hsettings, hsections⟩⟩
      | setting _ _ _ hread _ hothers =>
          obtain ⟨hsettings, hsections⟩ := ih hothers
          have hfirst := tidy_of_readSetting tidy_of_readValue hread
          exact ⟨List.forall_mem_cons.2 ⟨hfirst, hsettings⟩, hsections⟩

/-- What a text reads as is tidy. -/
theorem tidy_document? {text : List Char} {document : List (Key × Tree)}
    (h : document? text = some document) (span : Span) : (Tree.table span document).Tidy := by
  obtain ⟨⟨settings, sections⟩, hread, hassembled⟩ := Option.bind_eq_some_iff.1 h
  obtain ⟨hsettings, hsections⟩ := tidy_of_readSections hread
  exact tidy_assemble? hsettings hsections hassembled span

end Toml

end ClusterLink
