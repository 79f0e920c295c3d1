/-!
# Patterns

What a directive may ask of the value of a field: a pattern with groups, classes of characters,
alternatives and repetitions. Patterns are read and checked here but never matched, so a part keeps
only what decides whether the whole pattern may be used.
-/

namespace ClusterLink.Journal

inductive Mode where
  | anyCase
  | manyLines
  | dotAll
  | shortest
  | wideLineEnds
  | unicode
  | loose
deriving DecidableEq, Repr

def Mode.ofLetter? (letter : Char) : Option Mode :=
  [('i', anyCase), ('m', manyLines), ('s', dotAll), ('U', shortest), ('R', wideLineEnds),
    ('u', unicode), ('x', loose)].lookup letter

structure ModeChange where
  on : List Mode := []
  off : List Mode := []
deriving DecidableEq, Repr

def ModeChange.apply (change : ModeChange) (mode : Mode) (state : Bool) : Bool :=
  if change.on.contains mode then true else if change.off.contains mode then false else state

/-- The smallest part of a pattern: it stands for one character or for a place. -/
inductive Atom where
  | literal (c : Char)
  | byte (c : Char)
  | anything
  | shorthand (negated : Bool)
  | edge
  | wordEdge
deriving DecidableEq, Repr

/-- What a class of characters holds; a character alone is a range with equal ends. -/
inductive CharSet where
  | range (low high : Char)
  | named (negated : Bool)
  | shorthand (negated : Bool)
  | nested (negated : Bool) (content : CharSet)
  | union (items : List CharSet)
  | combined (left right : CharSet)
deriving Repr, Inhabited

namespace CharSet

/-- The set of some items; one item alone is the set itself. -/
def ofItems : List CharSet → CharSet
  | [item] => item
  | items => union items

mutual

def depth : CharSet → Nat
  | nested _ content => content.depth + 1
  | union items => greatestDepth items + if items.isEmpty then 0 else 1
  | combined left right => max left.depth right.depth + 1
  | _ => 0

def greatestDepth : List CharSet → Nat
  | [] => 0
  | item :: items => max item.depth (greatestDepth items)

end

end CharSet

/-- A pattern. A group has a name or none, and may change modes for what is in it. -/
inductive Pattern where
  | atom (atom : Atom)
  | modes (change : ModeChange)
  | set (negated : Bool) (content : CharSet)
  | repeated (inner : Pattern)
  | group (name : Option (List Char)) (change : ModeChange) (inner : Pattern)
  | sequence (parts : List Pattern)
  | choice (branches : List Pattern)
deriving Repr, Inhabited

namespace Pattern

def ofParts : List Pattern → Pattern
  | [part] => part
  | parts => sequence parts

def ofBranches : List Pattern → Pattern
  | [branch] => branch
  | branches => choice branches

mutual

def depth : Pattern → Nat
  | set _ content => content.depth + 1
  | repeated inner => inner.depth + 1
  | group _ _ inner => inner.depth + 1
  | sequence parts => greatestDepth parts + if parts.isEmpty then 0 else 1
  | choice branches => greatestDepth branches + 1
  | _ => 0

def greatestDepth : List Pattern → Nat
  | [] => 0
  | part :: parts => max part.depth (greatestDepth parts)

end

mutual

def groupNames : Pattern → List (List Char)
  | repeated inner => inner.groupNames
  | group name _ inner => name.toList ++ inner.groupNames
  | sequence parts => allGroupNames parts
  | choice branches => allGroupNames branches
  | _ => []

def allGroupNames : List Pattern → List (List Char)
  | [] => []
  | part :: parts => part.groupNames ++ allGroupNames parts

end

end Pattern

end ClusterLink.Journal
