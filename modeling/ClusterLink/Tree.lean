import ClusterLink.Decimal.Binary64

/-!
# Document trees

What a document of settings holds, whatever its notation: scalars, lists and tables, each with the
place in the text where it is written. The entries of a table are in the order of their names.
-/

namespace ClusterLink

/--
A stretch of text. Both ends are given by the number of characters from there to the end of the
text, so `start` is the greater number.
-/
structure Span where
  start : Nat
  stop : Nat
deriving DecidableEq, Repr, Inhabited

/--
A single value of a document. Something may be written like a number and yet have no value, because
its digits are too many or missing; it does no harm where nobody asks for the value.
-/
inductive Scalar where
  | null
  | boolean (value : Bool)
  | integer (value : Int)
  | float (value : Binary64)
  | unreadable
  | text (value : String)
deriving DecidableEq, Repr, Inhabited

structure Key where
  name : String
  span : Span
deriving DecidableEq, Repr, Inhabited

inductive Tree where
  | scalar (span : Span) (value : Scalar)
  | list (span : Span) (items : List Tree)
  | table (span : Span) (entries : List (Key × Tree))
deriving Repr, Inhabited

namespace Tree

def span : Tree → Span
  | scalar span _ => span
  | list span _ => span
  | table span _ => span

mutual

def decEq : (tree other : Tree) → Decidable (tree = other)
  | scalar span value, scalar otherSpan otherValue =>
      decidable_of_iff (span = otherSpan ∧ value = otherValue) (by rw [scalar.injEq])
  | list span items, list otherSpan others =>
      have := decEqItems items others
      decidable_of_iff (span = otherSpan ∧ items = others) (by rw [list.injEq])
  | table span entries, table otherSpan others =>
      have := decEqEntries entries others
      decidable_of_iff (span = otherSpan ∧ entries = others) (by rw [table.injEq])
  | scalar _ _, list _ _ => .isFalse nofun
  | scalar _ _, table _ _ => .isFalse nofun
  | list _ _, scalar _ _ => .isFalse nofun
  | list _ _, table _ _ => .isFalse nofun
  | table _ _, scalar _ _ => .isFalse nofun
  | table _ _, list _ _ => .isFalse nofun

def decEqItems : (items others : List Tree) → Decidable (items = others)
  | [], [] => .isTrue rfl
  | [], _ :: _ => .isFalse nofun
  | _ :: _, [] => .isFalse nofun
  | item :: rest, other :: others =>
      have := item.decEq other
      have := decEqItems rest others
      decidable_of_iff (item = other ∧ rest = others) (by rw [List.cons.injEq])

def decEqEntries : (entries others : List (Key × Tree)) → Decidable (entries = others)
  | [], [] => .isTrue rfl
  | [], _ :: _ => .isFalse nofun
  | _ :: _, [] => .isFalse nofun
  | (key, value) :: rest, (otherKey, other) :: others =>
      have := value.decEq other
      have := decEqEntries rest others
      decidable_of_iff ((key = otherKey ∧ value = other) ∧ rest = others)
        (by rw [List.cons.injEq, Prod.mk.injEq])

end

instance : DecidableEq Tree := decEq

mutual

def allScalars (test : Scalar → Bool) : Tree → Bool
  | scalar _ value => test value
  | list _ items => allInItems test items
  | table _ entries => allInEntries test entries

def allInItems (test : Scalar → Bool) : List Tree → Bool
  | [] => true
  | item :: rest => item.allScalars test && allInItems test rest

def allInEntries (test : Scalar → Bool) : List (Key × Tree) → Bool
  | [] => true
  | (_, value) :: rest => value.allScalars test && allInEntries test rest

end

/-- Entries with one more, in the order of names; an entry of the same name gives way. -/
def insertEntry (key : Key) (value : Tree) : List (Key × Tree) → List (Key × Tree)
  | [] => [(key, value)]
  | entry :: rest =>
      if entry.1.name = key.name then (key, value) :: rest
      else if key.name < entry.1.name then (key, value) :: entry :: rest
      else entry :: insertEntry key value rest

/-- The entries of a table in the order of names; of equal names the last one counts. -/
def sortEntries (entries : List (Key × Tree)) : List (Key × Tree) :=
  entries.foldl (fun sorted entry => insertEntry entry.1 entry.2 sorted) []

end Tree

end ClusterLink
