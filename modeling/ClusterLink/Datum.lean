import ClusterLink.Decimal.Shortest

/-!
# Data

The values of events and reports: JSON values, with the members of a record in the order in which
they are written. Members that are looked up and replaced by key are kept in the order of keys.
-/

namespace ClusterLink

/-- A JSON value; a number with a fraction or an exponent is kept in 64 bits. -/
inductive Datum where
  | null
  | boolean (value : Bool)
  | integer (value : Int)
  | float (value : Binary64)
  | text (value : String)
  | list (items : List Datum)
  | record (members : List (String × Datum))
deriving Repr, Inhabited, BEq

/-- Members by key, in ascending order of keys. -/
abbrev Members := List (String × Datum)

namespace Members

def get? (key : String) : Members → Option Datum
  | [] => none
  | member :: rest => if member.1 = key then some member.2 else get? key rest

def put (key : String) (value : Datum) : Members → Members
  | [] => [(key, value)]
  | member :: rest =>
      if member.1 = key then (key, value) :: rest
      else if key < member.1 then (key, value) :: member :: rest
      else member :: put key value rest

def without (key : String) : Members → Members
  | [] => []
  | member :: rest => if member.1 = key then without key rest else member :: without key rest

/-- The members of a list of pairs, in the order of keys; of equal keys the last one counts. -/
def ofPairs (pairs : List (String × Datum)) : Members :=
  pairs.foldl (fun members pair => put pair.1 pair.2 members) []

@[simp] theorem get?_put_self (key : String) (value : Datum) (members : Members) :
    get? key (put key value members) = some value := by
  induction members with
  | nil => simp [put, get?]
  | cons member rest ih =>
      unfold put
      split
      · simp [get?]
      · split
        · simp [get?]
        · simp [get?, *]

theorem get?_put_of_ne {key other : String} (h : other ≠ key) (value : Datum)
    (members : Members) : get? other (put key value members) = get? other members := by
  induction members with
  | nil => simp [put, get?, Ne.symm h]
  | cons member rest ih =>
      unfold put
      split
      · rename_i heq
        simp [get?, heq, Ne.symm h]
      · split
        · simp [get?, Ne.symm h]
        · simp [get?, ih]

@[simp] theorem get?_without_self (key : String) (members : Members) :
    get? key (without key members) = none := by
  induction members with
  | nil => rfl
  | cons member rest ih =>
      unfold without
      split
      · exact ih
      · simp [get?, *]

theorem get?_without_of_ne {key other : String} (h : other ≠ key) (members : Members) :
    get? other (without key members) = get? other members := by
  induction members with
  | nil => rfl
  | cons member rest ih =>
      unfold without
      split
      · rename_i heq
        simp [get?, heq, Ne.symm h, ih]
      · simp [get?, ih]

end Members

namespace Datum

def asText? : Datum → Option String
  | text value => some value
  | _ => none

mutual

def sorted : Datum → Datum
  | list items => list (sortedItems items)
  | record members => record (Members.ofPairs (sortedMembers members))
  | other => other

def sortedItems : List Datum → List Datum
  | [] => []
  | item :: rest => item.sorted :: sortedItems rest

def sortedMembers : List (String × Datum) → List (String × Datum)
  | [] => []
  | (key, value) :: rest => (key, value.sorted) :: sortedMembers rest

end

/-- A member that is left out when it has no value. -/
def optional (key : String) (value : Option Datum) : List (String × Datum) :=
  match value with
  | some datum => [(key, datum)]
  | none => []

def orNull (value : Option Datum) : Datum := value.getD null

end Datum

end ClusterLink
