import ClusterLink.Proofs.Datum
import ClusterLink.Proofs.Toml.RoundTrip.Lines
import ClusterLink.Proofs.Toml.Tidiness

/-!
# Tables that are put together

Bare settings with names of their own are put into a table one after the other. Sections whose paths
go through one table change that table as they would change a document of their own, and leave its
siblings as they are.
-/

namespace ClusterLink.Toml

variable {key known : Key} {item other : Item} {entries siblings inner : Entries} {name : String}
  {settings : List Setting} {part : Section} {parts : List Section} {path : List Key}
  {origin : Origin} {span : Span} {level : Nat}

/-! ## Entries -/

namespace Entries

@[simp] theorem get?_put_self (key : Key) (item : Item) (entries : Entries) :
    get? key.name (put key item entries) = some (key, item) := by
  induction entries with
  | nil => simp [put, get?]
  | cons entry rest ih =>
      rw [put]
      split
      · simp [get?]
      · split
        · simp [get?]
        next hother _ => rw [get?, if_neg hother, ih]

theorem get?_put_of_ne (h : key.name ≠ name) (item : Item) (entries : Entries) :
    get? name (put key item entries) = get? name entries := by
  induction entries with
  | nil => simp [put, get?, h]
  | cons entry rest ih =>
      rw [put]
      split
      next hsame => simp [get?, hsame, h]
      next =>
        split
        · simp [get?, h]
        · rw [get?, get?, ih]

@[simp] theorem put_put (key : Key) (item other : Item) (entries : Entries) :
    put key item (put key other entries) = put key item entries := by
  induction entries with
  | nil => simp [put]
  | cons entry rest ih =>
      rw [put, put]
      split
      · simp [put]
      next hsame =>
        split
        · simp [put]
        next hafter => rw [put, if_neg hsame, if_neg hafter, ih]

def putAll (added : List (Key × Item)) (entries : Entries) : Entries :=
  added.foldl (fun entries entry => put entry.1 entry.2 entries) entries

theorem putAll_cons (entry : Key × Item) (added : List (Key × Item)) (entries : Entries) :
    putAll (entry :: added) entries = putAll added (put entry.1 entry.2 entries) := rfl

theorem putAll_append (added others : List (Key × Item)) (entries : Entries) :
    putAll (added ++ others) entries = putAll others (putAll added entries) := List.foldl_append

theorem put_ne_nil (key : Key) (item : Item) (entries : Entries) : put key item entries ≠ [] := by
  cases entries with
  | nil => exact List.cons_ne_nil _ _
  | cons entry rest =>
      rw [put]
      split_ifs <;> exact List.cons_ne_nil _ _

theorem putAll_ne_nil (added : List (Key × Item)) (h : entries ≠ []) :
    putAll added entries ≠ [] := by
  induction added generalizing entries with
  | nil => exact h
  | cons entry added ih => exact ih (put_ne_nil _ _ _)

theorem get?_putAll_of_not_mem {added : List (Key × Item)} (h : name ∉ added.map (·.1.name))
    (entries : Entries) : get? name (putAll added entries) = get? name entries := by
  induction added generalizing entries with
  | nil => rfl
  | cons entry added ih =>
      obtain ⟨hentry, hadded⟩ := not_or.1 (mt List.mem_cons.2 h)
      rw [putAll_cons, ih hadded, get?_put_of_ne (Ne.symm hentry)]

end Entries

open Entries

/-! ## What entries hold -/

structure Matches (entry : Key × Item) (member : String × Datum) : Prop where
  name : entry.1.name = member.1
  holds : entry.2.tree.Holds member.2

theorem names_of_matches {members : List (String × Datum)}
    (h : List.Forall₂ Matches entries members) :
    entries.map (·.1.name) = members.map Prod.fst := by
  induction h with
  | nil => rfl
  | cons hentry _ ih => exact congrArg₂ List.cons hentry.name ih

theorem get?_putAll_of_matches {added : List (Key × Item)} {members : List (String × Datum)}
    (hadded : List.Forall₂ Matches added members) (h : name ∉ members.map Prod.fst)
    (entries : Entries) : get? name (putAll added entries) = get? name entries :=
  get?_putAll_of_not_mem (names_of_matches hadded ▸ h) entries

theorem forall₂_put {entry : Key × Item} {member : String × Datum} {members : Members}
    (hentry : Matches entry member) (h : List.Forall₂ Matches entries members) :
    List.Forall₂ Matches (put entry.1 entry.2 entries) (Members.put member.1 member.2 members) := by
  induction h with
  | nil => exact .cons hentry .nil
  | cons hfirst hrest ih =>
      rw [put, Members.put, hfirst.name, hentry.name]
      split
      · exact .cons hentry hrest
      · split
        · exact .cons hentry (.cons hfirst hrest)
        · exact .cons hfirst ih

theorem forall₂_putAll {added : List (Key × Item)} {pairs : List (String × Datum)}
    {members : Members} (hadded : List.Forall₂ Matches added pairs)
    (h : List.Forall₂ Matches entries members) :
    List.Forall₂ Matches (putAll added entries)
      (pairs.foldl (fun members pair => Members.put pair.1 pair.2 members) members) := by
  induction hadded generalizing entries members with
  | nil => exact h
  | cons hentry _ ih => exact ih (forall₂_put hentry h)

theorem holds_table {members : Members} (h : List.Forall₂ Matches entries members) (span : Span) :
    (Tree.table span (treeEntries entries)).Holds (.record members) := by
  rw [treeEntries_eq_map]
  constructor
  · rw [List.map_map]
    exact names_of_matches h
  · induction h with
    | nil => exact .nil
    | cons hentry _ ih => exact .cons hentry.holds ih

/-! ## Settings -/

theorem Setting.add_bare {setting : Setting} (hpath : setting.path = [])
    (hnew : get? setting.key.name entries = none) :
    setting.add entries = some (Entries.put setting.key (.value setting.value) entries) := by
  rw [Setting.add, hpath, changeAt, Setting.put, hpath, hnew]
  rfl

/-- Settings of new names are all put into the table. -/
theorem addSettings_eq_putAll {members : List (String × Datum)}
    (hsets : List.Forall₂ Setting.Sets settings members)
    (hdistinct : (members.map Prod.fst).Nodup)
    (hnew : ∀ member ∈ members, get? member.1 entries = none) :
    ∃ added, List.Forall₂ Matches added members ∧
      addSettings settings entries = some (putAll added entries) := by
  induction hsets generalizing entries with
  | nil => exact ⟨[], .nil, rfl⟩
  | @cons setting member settings members hsets _ ih =>
      obtain ⟨hfirst, hrest⟩ := List.nodup_cons.1 hdistinct
      obtain ⟨hmember, hnew⟩ := List.forall_mem_cons.1 hnew
      have hlater : ∀ other ∈ members,
          get? other.1 (put setting.key (.value setting.value) entries) = none := by
        intro other hother
        rw [get?_put_of_ne _ _ _, hnew other hother]
        rintro hsame
        exact hfirst (hsets.name ▸ hsame ▸ List.mem_map_of_mem hother)
      obtain ⟨added, hadded, hresult⟩ := ih hrest hlater
      refine ⟨(setting.key, .value setting.value) :: added, .cons ⟨hsets.name, hsets.holds⟩ hadded,
        ?_⟩
      rw [addSettings, List.foldlM_cons, Setting.add_bare hsets.path (hsets.name ▸ hmember)]
      exact hresult

/-! ## Sections -/

namespace Section

def addAt (part : Section) (path : List Key) (entries : Entries) : Option Entries :=
  (changeAt .implied (fun origin siblings => (part.fill siblings).map (origin, ·)) path .header
    entries).map (·.2)

/-- How a table came to be does not matter for the sections in it, and they leave it as it is. -/
theorem changeAt_implied (part : Section) (path : List Key) (origin : Origin) (entries : Entries) :
    changeAt .implied (fun origin siblings => (part.fill siblings).map (origin, ·)) path origin
      entries = (part.addAt path entries).map (origin, ·) := by
  cases path with
  | nil =>
      rw [addAt, changeAt, changeAt, Option.map_map, Option.map_map]
      rfl
  | cons key path =>
      rw [addAt, changeAt, changeAt, Option.map_map]
      have hmap (changed : Option (Origin × Entries)) (result : Origin → Entries → Entries) :
          (changed >>= fun found => some (origin, result found.1 found.2)) =
            (changed >>= fun found => some (Origin.header, result found.1 found.2)).map
              ((origin, ·) ∘ (·.2)) := by
        cases changed <;> rfl
      split
      · exact hmap _ fun made inner => put key (.table made key.span inner) entries
      next known made span inner _ =>
        rw [if_neg fun h => Origin.noConfusion h.1]
        exact hmap _ fun made inner => put known (.table made span inner) entries
      next known span elements _ =>
        split
        next made place inner earlier _ =>
          exact hmap _ fun made inner =>
            put known (.tables span (.table made place inner :: earlier).reverse) entries
        · rfl
      · rfl

theorem addAt_nil (part : Section) (entries : Entries) :
    part.addAt [] entries = part.fill entries := by
  rw [addAt, changeAt, Option.map_map]
  exact Option.map_id'

theorem addAt_cons_new (hnew : get? key.name entries = none) :
    part.addAt (key :: path) entries = (part.addAt path []).map fun inner =>
      put key (.table .implied key.span inner) entries := by
  rw [addAt, changeAt, hnew]
  simp only [changeAt_implied]
  cases part.addAt path [] <;> rfl

theorem addAt_cons_table (hname : known.name = key.name) :
    part.addAt (key :: path) (put known (.table origin span inner) entries) =
      (part.addAt path inner).map fun inner => put known (.table origin span inner) entries := by
  rw [addAt, changeAt, ← hname, get?_put_self]
  simp only [changeAt_implied]
  cases part.addAt path inner with
  | none => rfl
  | some inner => simp

def names (part : Section) : List String := part.header.names

/-- The path of a section goes through the table of a name, `level` names down. -/
def GoesThrough (level : Nat) (name : String) (part : Section) : Prop :=
  ∃ key : Key, key.name = name ∧
    part.header.path.drop level = key :: part.header.path.drop (level + 1)

variable {before more : List String} {next : String}

theorem goesThrough_of_names (h : part.names = before ++ name :: next :: more) :
    GoesThrough before.length name part := by
  have hnames : part.header.path.map Key.name ++ [part.header.key.name] =
      before ++ name :: next :: more := by
    rw [← h, names, Header.names, List.map_append, List.map_singleton]
  have hlength := congrArg List.length hnames
  simp only [List.length_append, List.length_map, List.length_cons, List.length_nil] at hlength
  have hinside : before.length < part.header.path.length := by omega
  refine ⟨part.header.path[before.length], ?_, List.drop_eq_getElem_cons hinside⟩
  have hget := congrArg (·[before.length]?) hnames
  simpa [List.getElem?_append_left, hinside] using hget

theorem path_of_names (h : part.names = before ++ [name]) :
    part.header.path.drop before.length = [] ∧ part.header.key.name = name := by
  have hnames : part.header.path.map Key.name ++ [part.header.key.name] = before ++ [name] := by
    rw [← h, names, Header.names, List.map_append, List.map_singleton]
  obtain ⟨hpath, hname⟩ := List.append_inj' hnames rfl
  refine ⟨List.drop_eq_nil_of_le ?_, List.singleton_inj.1 hname⟩
  rw [← hpath, List.length_map]

end Section

/-- The entries of a table after sections that lie in it, `level` names down. -/
def addAllAt (level : Nat) (parts : List Section) (entries : Entries) : Option Entries :=
  parts.foldlM (fun entries part => part.addAt (part.header.path.drop level) entries) entries

theorem addAllAt_append (level : Nat) (parts others : List Section) (entries : Entries) :
    addAllAt level (parts ++ others) entries =
      (addAllAt level parts entries).bind (addAllAt level others) :=
  List.foldlM_append

/-- Sections in a table that is there change nothing but the entries of this table. -/
theorem addAllAt_table (hparts : ∀ part ∈ parts, part.GoesThrough level known.name) :
    addAllAt level parts (put known (.table origin span inner) siblings) =
      (addAllAt (level + 1) parts inner).map fun inner =>
        put known (.table origin span inner) siblings := by
  induction parts generalizing inner with
  | nil => rfl
  | cons part parts ih =>
      obtain ⟨⟨key, hname, hpath⟩, hrest⟩ := List.forall_mem_cons.1 hparts
      rw [addAllAt, List.foldlM_cons, hpath, Section.addAt_cons_table hname.symm, addAllAt,
        List.foldlM_cons]
      cases part.addAt (part.header.path.drop (level + 1)) inner with
      | none => rfl
      | some inner => exact ih hrest

/-- Sections in a table that is not there make it. -/
theorem addAllAt_new (hparts : ∀ part ∈ parts, part.GoesThrough level name) (hsome : parts ≠ [])
    (hnew : get? name siblings = none) :
    ∃ key : Key, key.name = name ∧ addAllAt level parts siblings =
      (addAllAt (level + 1) parts []).map fun inner =>
        put key (.table .implied key.span inner) siblings := by
  obtain ⟨part, parts, rfl⟩ := List.exists_cons_of_ne_nil hsome
  obtain ⟨⟨key, hname, hpath⟩, hrest⟩ := List.forall_mem_cons.1 hparts
  refine ⟨key, hname, ?_⟩
  rw [addAllAt, List.foldlM_cons, hpath, Section.addAt_cons_new (hname ▸ hnew), addAllAt,
    List.foldlM_cons]
  cases part.addAt (part.header.path.drop (level + 1)) [] with
  | none => rfl
  | some inner => exact addAllAt_table (hname ▸ hrest)

/-! ## Sections that put members in place -/

/-- Sections put members in place among the entries of a table that has nothing of their names. -/
def Adds (level : Nat) (parts : List Section) (members : List (String × Datum)) : Prop :=
  ∀ entries, (∀ member ∈ members, get? member.1 entries = none) →
    ∃ added, List.Forall₂ Matches added members ∧
      addAllAt level parts entries = some (putAll added entries)

variable {members others : List (String × Datum)}

theorem adds_nil (level : Nat) : Adds level [] [] := fun _ _ => ⟨[], .nil, rfl⟩

theorem Adds.append {otherParts : List Section} (h : Adds level parts members)
    (hothers : Adds level otherParts others)
    (hdistinct : ((members ++ others).map Prod.fst).Nodup) :
    Adds level (parts ++ otherParts) (members ++ others) := by
  intro entries hnew
  rw [List.map_append, List.nodup_append] at hdistinct
  obtain ⟨-, -, hdisjoint⟩ := hdistinct
  obtain ⟨added, hadded, hresult⟩ := h entries fun member hmember =>
    hnew member (List.mem_append_left _ hmember)
  have hlater : ∀ member ∈ others, get? member.1 (putAll added entries) = none := by
    intro member hmember
    have hother : member.1 ∉ members.map Prod.fst := fun hsame =>
      hdisjoint _ hsame _ (List.mem_map_of_mem hmember) rfl
    rw [get?_putAll_of_matches hadded hother, hnew member (List.mem_append_right _ hmember)]
  obtain ⟨addedLater, haddedLater, hresultLater⟩ := hothers _ hlater
  refine ⟨added ++ addedLater, List.rel_append hadded haddedLater, ?_⟩
  rw [addAllAt_append, hresult, putAll_append]
  exact hresultLater

theorem Section.fill_new (helement : part.header.isElement = false)
    (hnew : get? part.header.key.name siblings = none) :
    part.fill siblings = (addSettings part.settings []).map fun entries =>
      put part.header.key (.table .header part.header.span entries) siblings := by
  rw [Section.fill]
  simp only [helement, hnew]
  cases addSettings part.settings [] <;> rfl

/-- Settings and then sections, all of distinct names, fill a table with what they stand for. -/
theorem exists_filled (hsets : List.Forall₂ Setting.Sets settings members)
    (hadds : Adds level parts others) (hdistinct : ((members ++ others).map Prod.fst).Nodup) :
    ∃ lines filled, addSettings settings [] = some lines ∧
      addAllAt level parts lines = some filled ∧
      List.Forall₂ Matches filled (Members.ofPairs (members ++ others)) := by
  rw [List.map_append, List.nodup_append] at hdistinct
  obtain ⟨hmembers, -, hdisjoint⟩ := hdistinct
  have hempty : ∀ member ∈ members, get? member.1 [] = none := fun _ _ => rfl
  obtain ⟨set, hset, hsettings⟩ := addSettings_eq_putAll hsets hmembers hempty
  have hlater : ∀ member ∈ others, get? member.1 (putAll set []) = none := by
    intro member hmember
    have hother : member.1 ∉ members.map Prod.fst := fun hsame =>
      hdisjoint _ hsame _ (List.mem_map_of_mem hmember) rfl
    rw [get?_putAll_of_matches hset hother, get?]
  obtain ⟨added, hadded, hresult⟩ := hadds _ hlater
  refine ⟨_, _, hsettings, hresult, ?_⟩
  rw [← putAll_append]
  exact forall₂_putAll (List.rel_append hset hadded) .nil

/-- A section opens a table, and the ones after it lie in this table. -/
theorem adds_table (helement : part.header.isElement = false)
    (hpath : part.header.path.drop level = []) (hname : part.header.key.name = name)
    (hsets : List.Forall₂ Setting.Sets part.settings members)
    (hparts : ∀ part ∈ parts, part.GoesThrough level name) (hadds : Adds (level + 1) parts others)
    (hdistinct : ((members ++ others).map Prod.fst).Nodup) :
    Adds level (part :: parts) [(name, .record (Members.ofPairs (members ++ others)))] := by
  intro siblings hnew
  obtain ⟨lines, filled, hlines, hfilled, hmatches⟩ := exists_filled hsets hadds hdistinct
  refine ⟨[(part.header.key, .table .header part.header.span filled)],
    .cons ⟨hname, holds_table hmatches part.header.span⟩ .nil, ?_⟩
  rw [addAllAt, List.foldlM_cons, hpath, Section.addAt_nil, Section.fill_new helement
    (hname ▸ hnew _ List.mem_cons_self), hlines]
  refine (addAllAt_table (hname ▸ hparts)).trans ?_
  rw [hfilled]
  rfl

/-- Sections in a table that has no section of its own make the table. -/
theorem adds_implied (hparts : ∀ part ∈ parts, part.GoesThrough level name)
    (hadds : Adds (level + 1) parts others) (hsome : others ≠ []) :
    Adds level parts [(name, .record (Members.ofPairs others))] := by
  intro siblings hnew
  obtain ⟨added, hadded, hresult⟩ := hadds [] fun _ _ => rfl
  have hwritten : parts ≠ [] := by
    rintro rfl
    cases hadded with
    | nil => exact hsome rfl
    | cons => exact putAll_ne_nil _ (put_ne_nil _ _ _) (Option.some.inj hresult).symm
  obtain ⟨key, hname, hchange⟩ := addAllAt_new hparts hwritten (hnew _ List.mem_cons_self)
  refine ⟨[(key, .table .implied key.span (putAll added []))],
    .cons ⟨hname, holds_table (forall₂_putAll hadded .nil) key.span⟩ .nil, ?_⟩
  rw [hchange, hresult]
  rfl

end ClusterLink.Toml
