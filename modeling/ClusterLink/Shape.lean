import ClusterLink.Decimal.Shortest
import ClusterLink.Text.Quoted
import ClusterLink.Tree

/-!
# The expected shape of a document

Why a document tree is not what was expected at some place. The two formats of documents show
fractions in different ways, and differ in what they make of lists that are too long.
-/

namespace ClusterLink

inductive DocumentFormat where
  | toml
  | json
deriving DecidableEq, Repr

def DocumentFormat.floatLayout : DocumentFormat → Binary64.Layout
  | .toml => .positionalAlways
  | .json => .positionalInRange

def DocumentFormat.limitsLists : DocumentFormat → Bool
  | .toml => false
  | .json => true

inductive Found where
  | null
  | boolean (value : Bool)
  | integer (value : Int)
  | float (value : Binary64)
  | number
  | text (value : String)
  | sequence
  | map
deriving DecidableEq, Repr

namespace Found

def ofTree : Tree → Found
  | .scalar _ .null => null
  | .scalar _ (.boolean value) => boolean value
  | .scalar _ (.integer value) => integer value
  | .scalar _ (.float value) => float value
  | .scalar _ .unreadable => number
  | .scalar _ (.text value) => text value
  | .list _ _ => sequence
  | .table _ _ => map

def describe (format : DocumentFormat) : Found → String
  | null => "null"
  | boolean value => "boolean `" ++ (if value then "true" else "false") ++ "`"
  | integer value => "integer `" ++ toString value ++ "`"
  | float value => "floating point `" ++ value.text format.floatLayout ++ "`"
  | number => "number"
  | text value => "string " ++ Text.quoted value
  | sequence => "sequence"
  | map => "map"

end Found

inductive Mismatch where
  | wrongType (found : Found) (wanted : String)
  | unknownField (name : String) (known : List String)
  | unknownVariant (name : String) (known : List String)
  | missingField (name : String)
  | neitherOneNorMany
  | missingElement (index : Nat) (wanted : String)
  | surplusElements (length : Nat)
  | notOneEntry
deriving DecidableEq, Repr

namespace Mismatch

def alternatives (names : List String) : String :=
  ", ".intercalate (names.map fun name => "`" ++ name ++ "`")

def message (format : DocumentFormat) : Mismatch → String
  | wrongType found wanted =>
      "invalid type: " ++ found.describe format ++ ", expected " ++ wanted
  | unknownField name known =>
      "unknown field `" ++ name ++ "`, expected one of " ++ alternatives known
  | unknownVariant name known =>
      "unknown variant `" ++ name ++ "`, expected one of " ++ alternatives known
  | missingField name => "missing field `" ++ name ++ "`"
  | neitherOneNorMany => "data did not match any variant of untagged enum OneOrMany"
  | missingElement index wanted =>
      "invalid length " ++ toString index ++ ", expected " ++ wanted
  | surplusElements length =>
      "invalid length " ++ toString length ++ ", expected fewer elements in array"
  | notOneEntry => "invalid value: map, expected map with a single key"

end Mismatch

structure Misfit where
  cause : Mismatch
  span : Span
deriving DecidableEq, Repr

def Tree.misfit (tree : Tree) (wanted : String) : Misfit :=
  ⟨.wrongType (.ofTree tree) wanted, tree.span⟩

end ClusterLink
