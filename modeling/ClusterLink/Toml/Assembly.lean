import ClusterLink.Tree

/-!
# Assembling tables

Tables are put together from settings and headers in the order in which they are written. A name
is set once; a table is opened by one header at most; a table written as a value is closed; a dotted
name adds to no table that a header has opened, and no header opens a table that a dotted name has
added to.
-/

namespace ClusterLink.Toml

/-- How a table came to be. -/
inductive Origin where
  | header
  | implied
  | dotted
deriving DecidableEq, Repr

/-- An entry of a table that is being put together. -/
inductive Item where
  | value (tree : Tree)
  | table (origin : Origin) (span : Span) (entries : List (Key × Item))
  | tables (span : Span) (elements : List Item)
deriving Repr, Inhabited

abbrev Entries := List (Key × Item)

namespace Entries

def get? (name : String) : Entries → Option (Key × Item)
  | [] => none
  | entry :: rest => if entry.1.name = name then some entry else get? name rest

/-- The entries with one more; an entry of the same name gives way. -/
def put (key : Key) (item : Item) : Entries → Entries
  | [] => [(key, item)]
  | entry :: rest =>
      if entry.1.name = key.name then (key, item) :: rest
      else if key.name < entry.1.name then (key, item) :: entry :: rest
      else entry :: put key item rest

end Entries

mutual

def Item.tree : Item → Tree
  | .value tree => tree
  | .table _ span entries => .table span (treeEntries entries)
  | .tables span elements => .list span (treeItems elements)

def treeEntries : List (Key × Item) → List (Key × Tree)
  | [] => []
  | (key, item) :: rest => (key, item.tree) :: treeEntries rest

def treeItems : List Item → List Tree
  | [] => []
  | item :: rest => item.tree :: treeItems rest

end

abbrev Change := Origin → Entries → Option (Origin × Entries)

/--
Changes the table at the end of a path. Tables that are missing on the way are made, with the
origin `made`; the last element of an array of tables stands for the array.
-/
def changeAt (made : Origin) (change : Change) : List Key → Change
  | [], origin, entries => change origin entries
  | key :: path, own, entries =>
      match Entries.get? key.name entries with
      | none => do
          let (origin, inner) ← changeAt made change path made []
          some (own, Entries.put key (.table origin key.span inner) entries)
      | some (known, .table origin span inner) =>
          if made = .dotted ∧ origin = .header then none
          else do
            let (origin, inner) ← changeAt made change path origin inner
            some (own, Entries.put known (.table origin span inner) entries)
      | some (known, .tables span elements) =>
          match elements.reverse with
          | .table origin place inner :: earlier => do
              let (origin, inner) ← changeAt made change path origin inner
              let elements := (Item.table origin place inner :: earlier).reverse
              some (own, Entries.put known (.tables span elements) entries)
          | _ => none
      | some (_, .value _) => none

/-- One setting: a dotted name, split before its last part, and a value. -/
structure Setting where
  path : List Key
  key : Key
  value : Tree
deriving Repr, Inhabited

def Setting.put (setting : Setting) : Change := fun origin entries =>
  if !setting.path.isEmpty ∧ origin = .header then none
  else
    match Entries.get? setting.key.name entries with
    | some _ => none
    | none =>
        let origin := if setting.path.isEmpty then origin else .dotted
        some (origin, Entries.put setting.key (.value setting.value) entries)

/-- Adds a setting to a table; a table that takes a value by a dotted name counts as dotted. -/
def Setting.add (setting : Setting) (entries : Entries) : Option Entries :=
  (changeAt .dotted setting.put setting.path .header entries).map (·.2)

def addSettings (settings : List Setting) (entries : Entries) : Option Entries :=
  settings.foldlM (fun entries setting => setting.add entries) entries

def inlineTable? (settings : List Setting) : Option (List (Key × Tree)) :=
  (addSettings settings []).map treeEntries

/-- A header: the path of the table it opens, and whether the table is an element of an array. -/
structure Header where
  path : List Key
  key : Key
  span : Span
  isElement : Bool
deriving Repr, Inhabited

structure Section where
  header : Header
  settings : List Setting
deriving Repr, Inhabited

/-- Opens the table of a section among its siblings, and fills it. -/
def Section.fill (part : Section) (siblings : Entries) : Option Entries :=
  let header := part.header
  match header.isElement, Entries.get? header.key.name siblings with
  | false, none => do
      let entries ← addSettings part.settings []
      some (Entries.put header.key (.table .header header.span entries) siblings)
  | false, some (_, .table .implied _ inner) => do
      let entries ← addSettings part.settings inner
      some (Entries.put header.key (.table .header header.span entries) siblings)
  | true, none => do
      let entries ← addSettings part.settings []
      some (Entries.put header.key
        (.tables header.span [.table .header header.span entries]) siblings)
  | true, some (known, .tables span elements) => do
      let entries ← addSettings part.settings []
      some (Entries.put known
        (.tables span (elements ++ [.table .header header.span entries])) siblings)
  | _, _ => none

def Section.add (part : Section) (root : Entries) : Option Entries :=
  let change : Change := fun origin siblings => (part.fill siblings).map (origin, ·)
  (changeAt .implied change part.header.path .header root).map (·.2)

def assemble? (settings : List Setting) (sections : List Section) :
    Option (List (Key × Tree)) := do
  let root ← addSettings settings []
  let root ← sections.foldlM (fun root part => part.add root) root
  some (treeEntries root)

end ClusterLink.Toml
