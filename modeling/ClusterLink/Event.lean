import ClusterLink.Datum
import ClusterLink.Shape

/-!
# Events

The records that pass through the filter: an identity and fields. One field holds tags; they are
kept in the order in which they are added, each once.
-/

namespace ClusterLink

structure Event where
  id : String
  fields : Members := []
deriving Repr, Inhabited, BEq

namespace Event

def tagsField : String := "tags"

def get? (event : Event) (field : String) : Option Datum := Members.get? field event.fields

def set (event : Event) (field : String) (value : Datum) : Event :=
  { event with fields := Members.put field value event.fields }

/-- The items that the tags field holds: those of a list, or a single text. -/
def tagItems (event : Event) : List Datum :=
  match event.get? tagsField with
  | some (.list items) => items
  | some (.text tag) => [.text tag]
  | _ => []

/-- The tags of an event; items that are not texts are no tags. -/
def tags (event : Event) : List String := event.tagItems.filterMap Datum.asText?

/-- Items with one more tag, unless they hold it. -/
def withTag (tag : String) (items : List Datum) : List Datum :=
  if items.any fun item => item.asText? == some tag then items else items ++ [.text tag]

/-- The event with one more tag, unless it has it; what is no tag list gives way to one. -/
def addTag (tag : String) (event : Event) : Event :=
  event.set tagsField (.list (withTag tag event.tagItems))

def addTags (tags : List String) (event : Event) : Event :=
  tags.foldl (fun event tag => event.addTag tag) event

def text (event : Event) : String :=
  "event=" ++ event.id ++ " fields=" ++ toString event.fields.length

def datum (event : Event) : Datum :=
  .record [("id", .text event.id), ("fields", .record event.fields)]

@[simp] theorem get?_set_self (event : Event) (field : String) (value : Datum) :
    (event.set field value).get? field = some value := by
  simp [get?, set]

theorem get?_set_of_ne {field other : String} (h : other ≠ field) (event : Event)
    (value : Datum) : (event.set field value).get? other = event.get? other := by
  simp [get?, set, Members.get?_put_of_ne h]

@[simp] theorem id_addTag (tag : String) (event : Event) : (event.addTag tag).id = event.id := rfl

end Event

mutual

def Tree.datum : Tree → Datum
  | .scalar _ .null => .null
  | .scalar _ (.boolean value) => .boolean value
  | .scalar _ (.integer value) => .integer value
  | .scalar _ (.float value) => .float value
  | .scalar _ .unreadable => .null
  | .scalar _ (.text value) => .text value
  | .list _ items => .list (datumItems items)
  | .table _ entries => .record (datumEntries entries)

def datumItems : List Tree → List Datum
  | [] => []
  | item :: rest => item.datum :: datumItems rest

def datumEntries : List (Key × Tree) → List (String × Datum)
  | [] => []
  | (key, value) :: rest => (key.name, value.datum) :: datumEntries rest

end

namespace Event

def wanted : String := "struct Event"

def readId (tree : Tree) : Except Misfit String :=
  match tree with
  | .scalar _ (.text value) => .ok value
  | _ => .error (tree.misfit "a string")

def readFields (tree : Tree) : Except Misfit Members :=
  match tree with
  | .table _ entries => .ok (Members.ofPairs (datumEntries entries))
  | _ => .error (tree.misfit "a map")

def readEntry (found : Option String × Members) (entry : Key × Tree) :
    Except Misfit (Option String × Members) :=
  if entry.1.name = "id" then (fun id => (some id, found.2)) <$> readId entry.2
  else if entry.1.name = "fields" then (fun fields => (found.1, fields)) <$> readFields entry.2
  else .ok found

/-- Reads an event from a table, or from a list of an identity and, possibly, fields. -/
def read (tree : Tree) : Except Misfit Event :=
  match tree with
  | .table span entries => do
      let (id?, fields) ← entries.foldlM readEntry (none, [])
      match id? with
      | some id => .ok { id, fields }
      | none => .error ⟨.missingField "id", span⟩
  | .list span items =>
      match items with
      | [] => .error ⟨.missingElement 0 (wanted ++ " with 2 elements"), span⟩
      | [id] => (fun id => { id }) <$> readId id
      | id :: fields :: rest => do
          let id ← readId id
          let fields ← readFields fields
          if rest.isEmpty then .ok { id, fields }
          else .error ⟨.surplusElements items.length, span⟩
  | .scalar _ _ => .error (tree.misfit wanted)

end Event

end ClusterLink
