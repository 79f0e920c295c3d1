import ClusterLink.Text.Hex

/-!
# Quoted strings

The four written forms of a string: basic and literal, on one line or on several. A reading takes
the text after the opening quote and returns the string with the text after the closing quote.
-/

namespace ClusterLink.Toml

open Text

/-- A reading of the start of a text: what it found, and the text that is left. -/
abbrev Reader (α : Type) := List Char → Option (α × List Char)

/-- Characters that no text may hold outside an escape: controls other than the tab. -/
def isControl (c : Char) : Bool := (c.toNat < 0x20 && c != '\t') || c.toNat == 0x7F

def scalarChar? (code : Nat) : Option Char :=
  if h : code.isValidChar then some (Char.ofNatAux code h) else none

def readCodePoint (size : Nat) : Reader Char := fun text =>
  if text.length < size then none
  else do
    let code ← hexValue? (text.take size)
    let c ← scalarChar? code
    some (c, text.drop size)

def readEscape : Reader Char
  | 'b' :: rest => some ('\x08', rest)
  | 't' :: rest => some ('\t', rest)
  | 'n' :: rest => some ('\n', rest)
  | 'f' :: rest => some ('\x0c', rest)
  | 'r' :: rest => some ('\r', rest)
  | 'e' :: rest => some ('\x1b', rest)
  | '"' :: rest => some ('"', rest)
  | '\\' :: rest => some ('\\', rest)
  | 'x' :: rest => readCodePoint 2 rest
  | 'u' :: rest => readCodePoint 4 rest
  | 'U' :: rest => readCodePoint 8 rest
  | _ => none

/-- What is left of a text whose first part was read into `c`, with `c` in front of the rest. -/
def prepend (c : Char) (result : Option (List Char × List Char)) :
    Option (List Char × List Char) :=
  result.map fun found => (c :: found.1, found.2)

def readBasicFrom : Nat → Reader (List Char)
  | 0, _ => none
  | _ + 1, [] => none
  | fuel + 1, c :: rest =>
      if c = '"' then some ([], rest)
      else if c = '\\' then do
        let (escaped, rest) ← readEscape rest
        prepend escaped (readBasicFrom fuel rest)
      else if isControl c then none
      else prepend c (readBasicFrom fuel rest)

def readBasic : Reader (List Char) := fun text => readBasicFrom (text.length + 1) text

def readLiteral : Reader (List Char)
  | [] => none
  | c :: rest =>
      if c = '\'' then some ([], rest)
      else if isControl c then none
      else prepend c (readLiteral rest)

def lineBreak? : List Char → Option (List Char)
  | '\n' :: rest => some rest
  | '\r' :: '\n' :: rest => some rest
  | _ => none

def dropLineBreak (text : List Char) : List Char := (lineBreak? text).getD text

def isGap (c : Char) : Bool := c == ' ' || c == '\t'

def dropGap (text : List Char) : List Char := text.dropWhile isGap

def dropGapLines : List Char → List Char
  | '\r' :: '\n' :: rest => dropGapLines rest
  | c :: rest => if isGap c || c == '\n' then dropGapLines rest else c :: rest
  | [] => []

/--
The end of a string on several lines, if the text starts with three or more quotes: up to two of
them belong to the string.
-/
def closing? (quote : Char) (text : List Char) : Option (List Char × List Char) :=
  let quotes := (text.takeWhile (· == quote)).length
  if quotes < 3 then none
  else
    let kept := min (quotes - 3) 2
    some (List.replicate kept quote, text.drop (kept + 3))

def readLongBasicFrom : Nat → Reader (List Char)
  | 0, _ => none
  | _ + 1, [] => none
  | fuel + 1, c :: rest =>
      match closing? '"' (c :: rest) with
      | some found => some found
      | none =>
          if c = '\\' then
            match lineBreak? (dropGap rest) with
            | some next => readLongBasicFrom fuel (dropGapLines next)
            | none => do
                let (escaped, rest) ← readEscape rest
                prepend escaped (readLongBasicFrom fuel rest)
          else if c = '\r' ∧ rest.head? = some '\n' then prepend c (readLongBasicFrom fuel rest)
          else if isControl c && c != '\n' then none
          else prepend c (readLongBasicFrom fuel rest)

def readLongBasic : Reader (List Char) := fun text =>
  let text := dropLineBreak text
  readLongBasicFrom (text.length + 1) text

def readLongLiteralFrom : Reader (List Char)
  | [] => none
  | c :: rest =>
      match closing? '\'' (c :: rest) with
      | some found => some found
      | none =>
          if c = '\r' ∧ rest.head? = some '\n' then prepend c (readLongLiteralFrom rest)
          else if isControl c && c != '\n' then none
          else prepend c (readLongLiteralFrom rest)

def readLongLiteral : Reader (List Char) := fun text => readLongLiteralFrom (dropLineBreak text)

def readString : Reader (List Char)
  | '"' :: '"' :: '"' :: rest => readLongBasic rest
  | '"' :: rest => readBasic rest
  | '\'' :: '\'' :: '\'' :: rest => readLongLiteral rest
  | '\'' :: rest => readLiteral rest
  | _ => none

example : readString "\"a\\tb\" c".toList = some ("a\tb".toList, " c".toList) := by decide
example : readString "'a\\t' c".toList = some ("a\\t".toList, " c".toList) := by decide
example : readString "\"\"\"\na\\\n  b\"\"\"\"".toList = some ("ab\"".toList, []) := by decide

end ClusterLink.Toml
