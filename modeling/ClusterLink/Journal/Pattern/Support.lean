import ClusterLink.Journal.Pattern

/-!
# Patterns that may be used

Matching knows the characters by their numbers only. It cannot ignore case among all characters or
tell which of them are words, and where it looks at bytes, a match has to consist of whole
characters. What would need more is refused.
-/

namespace ClusterLink.Journal

/-- What a pattern is matched with: characters or bytes, with or without regard to case. -/
structure Manner where
  unicode : Bool := true
  anyCase : Bool := false
deriving DecidableEq, Repr

def Manner.changed (manner : Manner) (change : ModeChange) : Manner where
  unicode := change.apply .unicode manner.unicode
  anyCase := change.apply .anyCase manner.anyCase

def isSingleByte (c : Char) : Bool := c.toNat < 0x80

def Atom.isUsable (manner : Manner) : Atom → Bool
  | literal _ => !(manner.unicode && manner.anyCase)
  | byte c => if manner.unicode then !manner.anyCase else isSingleByte c
  | anything => manner.unicode
  | shorthand negated => !manner.unicode && !negated
  | edge => true
  | wordEdge => !manner.unicode

namespace CharSet

mutual

def isUsable (manner : Manner) : CharSet → Bool
  | range low high =>
      if manner.unicode then !manner.anyCase else isSingleByte low && isSingleByte high
  | named negated => if manner.unicode then !manner.anyCase else !negated
  | shorthand negated => !manner.unicode && !negated
  | nested negated content => (manner.unicode || !negated) && content.isUsable manner
  | union items => areUsable manner items
  | combined left right => left.isUsable manner && right.isUsable manner

def areUsable (manner : Manner) : List CharSet → Bool
  | [] => true
  | item :: items => item.isUsable manner && areUsable manner items

end

end CharSet

namespace Pattern

mutual

/-- The manner after a pattern, if all of the pattern may be used. -/
def mannerAfter? (manner : Manner) : Pattern → Option Manner
  | atom part => if part.isUsable manner then some manner else none
  | modes change => some (manner.changed change)
  | set negated content =>
      if (manner.unicode || !negated) && content.isUsable manner then some manner else none
  | repeated inner => inner.mannerAfter? manner
  | group _ change inner => (inner.mannerAfter? (manner.changed change)).map fun _ => manner
  | sequence parts => mannerAfterAll? manner parts
  | choice branches => mannerAfterAll? manner branches

def mannerAfterAll? (manner : Manner) : List Pattern → Option Manner
  | [] => some manner
  | part :: parts =>
      match part.mannerAfter? manner with
      | some manner => mannerAfterAll? manner parts
      | none => none

end

def depthBound : Nat := 250

def isUsable (pattern : Pattern) : Bool :=
  pattern.depth ≤ depthBound && pattern.groupNames.Nodup && (pattern.mannerAfter? {}).isSome

end Pattern

end ClusterLink.Journal
