import ClusterLink.Toml.Reading

/-!
# Proper values

Reading a document lets some things through that are no values of the notation: numbers without a
value, integers beyond 64 bits, and tables that pass for a date or time and hold none.
-/

namespace ClusterLink.Toml

/-- Whether a scalar has a value, and one in 64 bits if it is an integer. -/
def isProperScalar : Scalar → Bool
  | .integer value => -Int.pow 2 63 ≤ value && value < Int.pow 2 63
  | .unreadable => false
  | _ => true

/-- What stands for the date or time of a table, if the table passes for one. -/
def heldMoment? : List (Key × Tree) → Option Tree
  | (key, value) :: _ => if key.name = momentName then some value else none
  | [] => none

def isMomentText : Tree → Bool
  | .scalar _ (.text value) => isMoment value.toList
  | _ => false

mutual

def isProper : Tree → Bool
  | .scalar _ value => isProperScalar value
  | .list _ items => areProperItems items
  | .table _ entries =>
      match heldMoment? entries with
      | some value => isMomentText value
      | none => areProper entries

def areProperItems : List Tree → Bool
  | [] => true
  | item :: rest => isProper item && areProperItems rest

def areProper : List (Key × Tree) → Bool
  | [] => true
  | (_, value) :: rest => isProper value && areProper rest

end

end ClusterLink.Toml
