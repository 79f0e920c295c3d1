import ClusterLink.Journal.Pattern.Sets
import ClusterLink.Text.Alphanumeric

/-!
# Reading patterns

Branches and groups, the parts in them, and their repetitions. Counted repetitions cannot be
written, because a directive ends at the brace that would close them.
-/

namespace ClusterLink.Journal

open Text

/-! ## The head of a group -/

def isGroupName : List Char → Bool
  | [] => false
  | first :: rest =>
      (first == '_' || isLetter first) &&
        rest.all fun c => ['_', '.', '[', ']'].contains c || isAlphanumeric c

/-- Letters of modes, and after a hyphen letters of modes to switch off; none comes twice. -/
def readChange (letters : List Char) : Option ModeChange := do
  let (on, off) ←
    match splitFirst ['-'] letters with
    | none => some (letters, [])
    | some (on, off) => if off.isEmpty then none else some (on, off)
  let change : ModeChange := ⟨← on.mapM Mode.ofLetter?, ← off.mapM Mode.ofLetter?⟩
  if (change.on ++ change.off).Nodup then some change else none

/-- What an opening parenthesis starts: a group, or a change of modes for what follows it. -/
inductive GroupHead where
  | group (name : Option (List Char)) (change : ModeChange)
  | modes (change : ModeChange)
deriving Repr

def readGroupName (text : List Char) : Option (GroupHead × List Char) :=
  match splitFirst ['>'] text with
  | some (name, rest) => if isGroupName name then some (.group (some name) {}, rest) else none
  | none => none

def endsModes (c : Char) : Bool := c == ':' || c == ')'

def readGroupHead (text : List Char) : Option (GroupHead × List Char) :=
  match text with
  | '?' :: 'P' :: '<' :: rest => readGroupName rest
  | '?' :: '<' :: rest => readGroupName rest
  | '?' :: rest => do
      let letters := rest.takeWhile fun c => !endsModes c
      let change ← readChange letters
      match rest.dropWhile fun c => !endsModes c with
      | [] => none
      | ':' :: rest => some (.group none change, rest)
      | _ :: rest => if letters.isEmpty then none else some (.modes change, rest)
  | _ => some (.group none {}, text)

/-! ## Patterns -/

def isRepetition (c : Char) : Bool := c == '?' || c == '*' || c == '+'

/-- The text after a repetition without the mark that makes it a short one. -/
def dropShortest : List Char → List Char
  | '?' :: rest => rest
  | text => text

/-- The parts with the last one repeated; parts are given the last one first. -/
def repeatLast? : List Pattern → Option (List Pattern)
  | [] => none
  | .modes _ :: _ => none
  | part :: parts => some (.repeated part :: parts)

def readAtom (loose : Bool) (text : List Char) : Option (Atom × List Char) :=
  match text with
  | [] => none
  | '\\' :: rest => readEscape loose rest
  | '.' :: rest => some (.anything, rest)
  | '^' :: rest => some (.edge, rest)
  | '$' :: rest => some (.edge, rest)
  | c :: rest => some (.literal c, rest)

/-- The pattern of finished branches and the parts of one more, each the last one first. -/
def closeBranches (branches parts : List Pattern) : Pattern :=
  .ofBranches (.ofParts parts.reverse :: branches).reverse

/--
Reads branches up to a closing parenthesis or the end; `fuel` bounds the number of steps. A change
of modes holds to the end of the group that it stands in.
-/
def readBranches : Nat → Bool → List Pattern → List Pattern → List Char →
    Option (Pattern × List Char)
  | 0, _, _, _, _ => none
  | fuel + 1, loose, branches, parts, text =>
      match skip loose text with
      | [] => some (closeBranches branches parts, [])
      | c :: rest =>
          if c == ')' then some (closeBranches branches parts, c :: rest)
          else if c == '|' then
            readBranches fuel loose (.ofParts parts.reverse :: branches) [] rest
          else if c == '(' then do
            let (head, rest) ← readGroupHead (skip loose rest)
            match head with
            | .modes change =>
                readBranches fuel (change.apply .loose loose) branches (.modes change :: parts) rest
            | .group name change =>
                match ← readBranches fuel (change.apply .loose loose) [] [] rest with
                | (inner, _ :: rest) =>
                    readBranches fuel loose branches (.group name change inner :: parts) rest
                | (_, []) => none
          else if c == '[' then do
            let (set, rest) ← readSet fuel loose rest
            readBranches fuel loose branches (set :: parts) rest
          else if c == '\x7b' then none
          else if isRepetition c then do
            let parts ← repeatLast? parts
            readBranches fuel loose branches parts (dropShortest rest)
          else do
            let (atom, rest) ← readAtom loose (c :: rest)
            readBranches fuel loose branches (.atom atom :: parts) rest

def Pattern.read? (text : List Char) : Option Pattern :=
  match readBranches (text.length + 1) false [] [] text with
  | some (pattern, []) => some pattern
  | _ => none

example : (Pattern.read? "(a|b)*?c[^]x]".toList).isSome := by decide +kernel
example : (Pattern.read? "(?x: a # )\n)[a-z&&[^b]]".toList).isSome := by decide +kernel
example : (Pattern.read? "a|*".toList).isNone := by decide +kernel
example : (Pattern.read? "(a))".toList).isNone := by decide +kernel
example : (Pattern.read? "[z-a]".toList).isNone := by decide +kernel

end ClusterLink.Journal
