import ClusterLink.Decimal.Stepwise
import ClusterLink.Text.Hex
import ClusterLink.Tree

/-!
# Reading JSON documents

The document tree of a JSON text. Of equal names in an object the last one counts, and an integer
that has no place in 64 bits is read as a fraction.
-/

namespace ClusterLink.Json

open Text

def isSpace (c : Char) : Bool := c == ' ' || c == '\t' || c == '\n' || c == '\r'

def dropSpace (text : List Char) : List Char := text.dropWhile isSpace

/-! ## Strings -/

def readUnit : List Char → Option (Nat × List Char)
  | a :: b :: c :: d :: rest => (hexValue? [a, b, c, d]).map fun value => (value, rest)
  | _ => none

def pairChar (high low : Nat) : Char :=
  Char.ofNat (0x10000 + (high - 0xD800) * 0x400 + (low - 0xDC00))

/-- The character after `\u`: a code point, or a pair of surrogates, each given by four digits. -/
def readCodePoint (text : List Char) : Option (Char × List Char) := do
  let (first, rest) ← readUnit text
  if first < 0xD800 ∨ 0xE000 ≤ first then some (Char.ofNat first, rest)
  else
    match rest with
    | '\\' :: 'u' :: rest => do
        let (second, rest) ← readUnit rest
        if first < 0xDC00 ∧ 0xDC00 ≤ second ∧ second < 0xE000 then
          some (pairChar first second, rest)
        else none
    | _ => none

def readEscape : List Char → Option (Char × List Char)
  | '"' :: rest => some ('"', rest)
  | '\\' :: rest => some ('\\', rest)
  | '/' :: rest => some ('/', rest)
  | 'b' :: rest => some ('\x08', rest)
  | 'f' :: rest => some ('\x0c', rest)
  | 'n' :: rest => some ('\n', rest)
  | 'r' :: rest => some ('\r', rest)
  | 't' :: rest => some ('\t', rest)
  | 'u' :: rest => readCodePoint rest
  | _ => none

/-- The rest of a string after its opening quote; `fuel` bounds its length. -/
def readString : Nat → List Char → Option (List Char × List Char)
  | 0, _ => none
  | _ + 1, [] => none
  | fuel + 1, c :: rest =>
      if c = '"' then some ([], rest)
      else if c = '\\' then do
        let (escaped, rest) ← readEscape rest
        let (found, rest) ← readString fuel rest
        some (escaped :: found, rest)
      else if c.toNat < 0x20 then none
      else do
        let (found, rest) ← readString fuel rest
        some (c :: found, rest)

/-! ## Numbers -/

def exponent? (text : List Char) : Option Int :=
  let digits := if text.head? = some '-' ∨ text.head? = some '+' then text.drop 1 else text
  let value : Int := Nat.ofDigitChars 10 digits 0
  if digits.isEmpty || !digits.all Char.isDigit then none
  else some (if text.head? = some '-' then -value else value)

def fraction? (negative : Bool) (numeral : Numeral) : Option Scalar :=
  match Binary64.ofNumeral negative numeral with
  | .infinite _ => none
  | value => some (.float value)

/-- An integer of 64 bits, or else a fraction; a zero with a sign is a fraction. -/
def whole? (negative : Bool) (digits : List Char) : Option Scalar :=
  let magnitude := Nat.ofDigitChars 10 digits 0
  let fits :=
    if negative then magnitude ≠ 0 ∧ magnitude ≤ Nat.pow 2 63 else magnitude < Nat.pow 2 64
  if fits then some (.integer (if negative then -(magnitude : Int) else magnitude))
  else fraction? negative (.ofDigits digits [] 0)

def readTail (negative : Bool) (digits : List Char) (text : List Char) : Option Scalar :=
  match text with
  | [] => whole? negative digits
  | '.' :: rest =>
      let decimals := rest.takeWhile Char.isDigit
      if decimals.isEmpty then none
      else
        match rest.dropWhile Char.isDigit with
        | [] => fraction? negative (.ofDigits digits decimals 0)
        | mark :: power =>
            if mark = 'e' ∨ mark = 'E' then do
              fraction? negative (.ofDigits digits decimals (← exponent? power))
            else none
  | mark :: power =>
      if mark = 'e' ∨ mark = 'E' then do
        fraction? negative (.ofDigits digits [] (← exponent? power))
      else none

def isNumberChar (c : Char) : Bool :=
  c.isDigit || c == '-' || c == '+' || c == '.' || c == 'e' || c == 'E'

/-- A number: no superfluous zero stands in front. -/
def number? (word : List Char) : Option Scalar :=
  let negative := word.head? == some '-'
  let body := if negative then word.drop 1 else word
  let digits := body.takeWhile Char.isDigit
  if digits.isEmpty || (digits.head? == some '0' && digits.length != 1) then none
  else readTail negative digits (body.dropWhile Char.isDigit)

/-! ## Values -/

def constants : List (List Char × Scalar) :=
  [("null".toList, .null), ("true".toList, .boolean true), ("false".toList, .boolean false)]

def readScalar (text : List Char) : Option (Scalar × List Char) :=
  match constants.find? fun constant => constant.1.isPrefixOf text with
  | some constant => some (constant.2, text.drop constant.1.length)
  | none =>
      (number? (text.takeWhile isNumberChar)).map fun value =>
        (value, text.dropWhile isNumberChar)

/-- The stretch between two places, each given by the text that is left. -/
def between (text rest : List Char) : Span := ⟨text.length, rest.length⟩

def readName (text : List Char) : Option (Key × List Char) :=
  match text with
  | '"' :: inner =>
      (readString (inner.length + 1) inner).map fun found =>
        (⟨String.ofList found.1, between text found.2⟩, found.2)
  | _ => none

mutual

/-- A value; `fuel` bounds the number of values and members in it. -/
def readValue : Nat → List Char → Option (Tree × List Char)
  | 0, _ => none
  | fuel + 1, text =>
      match text with
      | '"' :: _ =>
          (readName text).map fun found => (.scalar found.1.span (.text found.1.name), found.2)
      | '[' :: inner => do
          let (items, rest) ←
            match dropSpace inner with
            | ']' :: rest => some ([], rest)
            | items => readItems fuel items
          some (.list (between text rest) items, rest)
      | '\x7b' :: inner => do
          let (entries, rest) ←
            match dropSpace inner with
            | '\x7d' :: rest => some ([], rest)
            | entries => readEntries fuel entries
          some (.table (between text rest) (Tree.sortEntries entries), rest)
      | _ => (readScalar text).map fun found => (.scalar (between text found.2) found.1, found.2)

def readItems : Nat → List Char → Option (List Tree × List Char)
  | 0, _ => none
  | fuel + 1, text => do
      let (item, rest) ← readValue fuel text
      match dropSpace rest with
      | ',' :: rest => do
          let (items, rest) ← readItems fuel (dropSpace rest)
          some (item :: items, rest)
      | ']' :: rest => some ([item], rest)
      | _ => none

def readEntries : Nat → List Char → Option (List (Key × Tree) × List Char)
  | 0, _ => none
  | fuel + 1, text => do
      let (key, rest) ← readName text
      match dropSpace rest with
      | ':' :: rest => do
          let (value, rest) ← readValue fuel (dropSpace rest)
          match dropSpace rest with
          | ',' :: rest => do
              let (entries, rest) ← readEntries fuel (dropSpace rest)
              some ((key, value) :: entries, rest)
          | '\x7d' :: rest => some ([(key, value)], rest)
          | _ => none
      | _ => none

end

def document? (text : String) : Option Tree :=
  let chars := dropSpace text.toList
  match readValue (chars.length + 1) chars with
  | some (tree, rest) => if (dropSpace rest).isEmpty then some tree else none
  | none => none

end ClusterLink.Json
