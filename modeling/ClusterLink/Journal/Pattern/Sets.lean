import ClusterLink.Journal.Pattern
import ClusterLink.Text.Blank
import ClusterLink.Text.Hex
import ClusterLink.Text.Split

/-!
# Reading classes of characters

Escapes, and classes in brackets. In a loose pattern blanks and remarks may stand between any two
characters that are looked at one by one.
-/

namespace ClusterLink.Journal

open Text

/-- The text without blanks and remarks at its start; a remark ends with its line. -/
def dropRemarks (inRemark : Bool) : List Char → List Char
  | [] => []
  | c :: rest =>
      if inRemark then dropRemarks (c != '\n') rest
      else if c == '#' then dropRemarks true rest
      else if isBlank c then dropRemarks false rest
      else c :: rest

def skip (loose : Bool) (text : List Char) : List Char :=
  if loose then dropRemarks false text else text

/-! ## Escapes -/

def readHexDigits (loose : Bool) : Nat → Nat → List Char → Option (Nat × List Char)
  | 0, value, text => some (value, text)
  | size + 1, value, text =>
      match skip loose text with
      | [] => none
      | c :: rest => do
          let digit ← hexDigit? c
          readHexDigits loose size (16 * value + digit) rest

def readCode (loose : Bool) (size : Nat) (text : List Char) : Option (Char × List Char) := do
  let (value, rest) ← readHexDigits loose size 0 text
  if value.isValidChar then some (Char.ofNat value, rest) else none

def escapes : List (Char × Atom) :=
  [('a', .literal '\x07'), ('f', .literal '\x0c'), ('t', .literal '\t'), ('n', .literal '\n'),
    ('r', .literal '\r'), ('v', .literal '\x0b'),
    ('d', .shorthand false), ('s', .shorthand false), ('w', .shorthand false),
    ('D', .shorthand true), ('S', .shorthand true), ('W', .shorthand true),
    ('A', .edge), ('z', .edge),
    ('b', .wordEdge), ('B', .wordEdge), ('<', .wordEdge), ('>', .wordEdge)]

/-- Reads an escape after its backslash. A mark of the 7-bit set stands for itself. -/
def readEscape (loose : Bool) : List Char → Option (Atom × List Char)
  | [] => none
  | c :: rest =>
      match escapes.lookup c with
      | some atom => some (atom, rest)
      | none =>
          if c == 'x' then (readCode loose 2 rest).map fun found => (.byte found.1, found.2)
          else if c == 'u' then (readCode loose 4 rest).map fun found => (.literal found.1, found.2)
          else if c == 'U' then (readCode loose 8 rest).map fun found => (.literal found.1, found.2)
          else if c.toNat < 0x80 && !c.isAlphanum then some (.literal c, rest)
          else none

/-! ## Classes -/

def Atom.char? : Atom → Option Char
  | .literal c => some c
  | .byte c => some c
  | _ => none

/-- An atom as an item of a class; places have no meaning there. -/
def Atom.item? : Atom → Option CharSet
  | .shorthand negated => some (.shorthand negated)
  | atom => atom.char?.map fun c => .range c c

def classNames : List String :=
  ["alnum", "alpha", "ascii", "blank", "cntrl", "digit", "graph", "lower", "print", "punct",
    "space", "upper", "word", "xdigit"]

/-- Reads a named class after its opening bracket: `:name:]`, or `:^name:]` for its opposite. -/
def readNamed (text : List Char) : Option (CharSet × List Char) :=
  match text with
  | ':' :: rest =>
      let negated := rest.head? == some '^'
      match splitFirst [':'] (if negated then rest.drop 1 else rest) with
      | some (name, ']' :: rest) =>
          if classNames.contains (String.ofList name) then some (.named negated, rest) else none
      | _ => none
  | _ => none

def readElement (loose : Bool) : List Char → Option (Atom × List Char)
  | [] => none
  | '\\' :: rest => readEscape loose rest
  | c :: rest => some (.literal c, rest)

/--
The character after a hyphen that decides whether the hyphen makes a range. In a loose pattern
blanks are skipped before it, and one number sign, but not the remark that it starts.
-/
def peek? (loose : Bool) (text : List Char) : Option Char :=
  if loose then
    match text.dropWhile isBlank with
    | '#' :: rest => (rest.dropWhile isBlank).head?
    | rest => rest.head?
  else text.head?

/--
Reads an item of a class: an element, or a range of two characters in ascending order. A hyphen
before the closing bracket or before another hyphen makes no range.
-/
def readItem (loose : Bool) (text : List Char) : Option (CharSet × List Char) := do
  let (first, rest) ← readElement loose text
  let alone : Option (CharSet × List Char) := first.item?.map fun item => (item, rest)
  match skip loose rest with
  | '-' :: after =>
      let next := peek? loose after
      if next = some ']' ∨ next = some '-' then alone
      else do
        let (last, rest) ← readElement loose (skip loose after)
        let low ← first.char?
        let high ← last.char?
        if low ≤ high then some (.range low high, rest) else none
  | _ => alone

def readNegation (loose : Bool) (text : List Char) : Bool × List Char :=
  match skip loose text with
  | '^' :: rest => (true, rest)
  | rest => (false, rest)

def joinItems (left : Option CharSet) (items : List CharSet) : CharSet :=
  let right := CharSet.ofItems items.reverse
  match left with
  | some left => .combined left right
  | none => right

/--
Reads the content of a class up to its closing bracket; `fuel` bounds the number of steps. Hyphens
at the start stand for themselves, and so does a closing bracket that nothing stands before. Two
equal marks are an operator between what stands before and after them.
-/
def readContent : Nat → Bool → Bool → Option CharSet → List CharSet → List Char →
    Option (CharSet × List Char)
  | 0, _, _, _, _, _ => none
  | fuel + 1, loose, atStart, left, items, text =>
      match skip loose text with
      | [] => none
      | c :: rest =>
          if atStart && c == '-' then readContent fuel loose true left (.range c c :: items) rest
          else if atStart && items.isEmpty && c == ']' then
            readContent fuel loose false left [.range c c] rest
          else if c == ']' then some (joinItems left items, rest)
          else if c == '[' then
            match readNamed rest with
            | some (item, rest) => readContent fuel loose false left (item :: items) rest
            | none => do
                let (negated, rest) := readNegation loose rest
                let (content, rest) ← readContent fuel loose true none [] rest
                readContent fuel loose false left (.nested negated content :: items) rest
          else if ['&', '-', '~'].contains c && rest.head? == some c then
            readContent fuel loose false (some (joinItems left items)) [] (rest.drop 1)
          else do
            let (item, rest) ← readItem loose (c :: rest)
            readContent fuel loose false left (item :: items) rest

def readSet (fuel : Nat) (loose : Bool) (text : List Char) : Option (Pattern × List Char) := do
  let (negated, rest) := readNegation loose text
  let (content, rest) ← readContent fuel loose true none [] rest
  some (.set negated content, rest)

end ClusterLink.Journal
