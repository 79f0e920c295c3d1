import ClusterLink.Text.Split
import ClusterLink.Toml.Strings
import ClusterLink.Tree

/-!
# Unquoted values

Booleans, integers, floating point numbers, dates and times. A value is a run of characters; it is
read as the one kind whose rules it meets. What only looks like a number is let through without a
value.
-/

namespace ClusterLink.Toml

open Text

/-- Whether a character can be part of an unquoted value: whether it is no mark of the notation. -/
def isTokenChar (c : Char) : Bool :=
  !(['=', ',', '[', ']', '\x7b', '\x7d', ' ', '\t', '#', '\r', '\n'].contains c)

/-- Digits of a base, with single underscores between them; the underscores are left out. -/
def digits? (isDigit : Char → Bool) : List Char → Option (List Char)
  | [] => none
  | [c] => if isDigit c then some [c] else none
  | c :: '_' :: rest => if isDigit c then (digits? isDigit rest).map (c :: ·) else none
  | c :: rest => if isDigit c then (digits? isDigit rest).map (c :: ·) else none

def plainDigits? (text : List Char) : Option (List Char) := do
  let digits ← digits? Char.isDigit text
  if digits.length > 1 ∧ digits.head? = some '0' then none else some digits

def splitSign : List Char → Bool × List Char
  | '-' :: rest => (true, rest)
  | '+' :: rest => (false, rest)
  | text => (false, text)

def decimalValue (digits : List Char) : Nat := Nat.ofDigitChars 10 digits 0

def base? (letter : Char) : Option Nat :=
  [('x', 16), ('o', 8), ('b', 2)].lookup letter

def isDigitOf (base : Nat) (c : Char) : Bool := (hexDigit? c).any (· < base)

/-- An integer in base sixteen, eight or two, or a decimal one with an optional sign. -/
def integer? (text : List Char) : Option Int :=
  let decimal : Option Int := do
    let (negative, body) := splitSign text
    let digits ← plainDigits? body
    some (if negative then -(decimalValue digits : Int) else decimalValue digits)
  match text with
  | '0' :: letter :: rest =>
      match base? letter with
      | some base => do
          let digits ← digits? (isDigitOf base) rest
          some (digits.foldl (fun value c => value * base + (hexDigit? c).getD 0) 0 : Nat)
      | none => decimal
  | _ => decimal

def exponent? (text : List Char) : Option Int := do
  let (negative, body) := splitSign text
  let digits ← digits? Char.isDigit body
  some (if negative then -(decimalValue digits : Int) else decimalValue digits)

/-- A number with a fraction or an exponent, after its sign. -/
def fraction? (negative : Bool) (text : List Char) : Option Binary64 := do
  let isMark (c : Char) : Bool := c == 'e' || c == 'E'
  let mantissa := text.takeWhile fun c => !isMark c
  let power ←
    match text.dropWhile fun c => !isMark c with
    | [] => some 0
    | _ :: rest => exponent? rest
  match mantissa.span (· != '.') with
  | (whole, '.' :: part) => do
      let whole ← plainDigits? whole
      let part ← digits? Char.isDigit part
      some (.ofDecimal negative (decimalValue (whole ++ part)) (power - part.length))
  | (whole, _) =>
      if mantissa.length = text.length then none
      else do
        let whole ← plainDigits? whole
        some (.ofDecimal negative (decimalValue whole) power)

/-- A floating point number; one that is out of range has no value. -/
def float? (text : List Char) : Option Scalar :=
  let (negative, body) := splitSign text
  if body = ['i', 'n', 'f'] then some (.float (.infinite negative))
  else if body = ['n', 'a', 'n'] then some (.float .nan)
  else
    (fraction? negative body).map fun value =>
      match value with
      | .infinite _ => .unreadable
      | value => .float value

/--
Whether the underscores of a text stand between hexadecimal digits. Other characters are let
through where they touch no underscore.
-/
def isGrouped (text : List Char) : Bool :=
  let isHex (c : Char) : Bool := (hexDigit? c).isSome
  match pieces '_' text with
  | [_] => true
  | groups =>
      groups.all (fun group => group.head?.any isHex) &&
        groups.dropLast.all (fun group => group.getLast?.any isHex)

/--
Whether a text looks like an integer: a base and any number of its digits, even none, or decimal
digits and, after an underscore, anything that is no mark of a fraction.
-/
def resemblesInteger (text : List Char) : Bool :=
  let body := (splitSign text).2
  let rest := body.dropWhile Char.isDigit
  match text with
  | '0' :: letter :: rest =>
      (base? letter).any fun base =>
        rest.all (fun c => c == '_' || isDigitOf base c) && isGrouped rest
  | _ =>
      body.head?.any (fun c => c.isDigit && c != '0') && rest.head? = some '_' &&
        !rest.any (['.', 'e', 'E'].contains ·) && isGrouped body

def readField (size low high : Nat) : Reader Nat := fun text =>
  let digits := text.take size
  if digits.length = size ∧ digits.all Char.isDigit then
    let value := decimalValue digits
    if low ≤ value ∧ value ≤ high then some (value, text.drop size) else none
  else none

def readMark (mark : Char) : Reader Unit
  | c :: rest => if c = mark then some ((), rest) else none
  | [] => none

def isLeapYear (year : Nat) : Bool := year % 4 == 0 && (year % 100 != 0 || year % 400 == 0)

def daysOfMonth (year month : Nat) : Nat :=
  if month == 2 then if isLeapYear year then 29 else 28
  else if [4, 6, 9, 11].contains month then 30 else 31

def readDate : Reader Unit := fun text => do
  let (year, text) ← readField 4 0 9999 text
  let (_, text) ← readMark '-' text
  let (month, text) ← readField 2 1 12 text
  let (_, text) ← readMark '-' text
  let (_, text) ← readField 2 1 (daysOfMonth year month) text
  some ((), text)

def readSeconds : Reader Unit := fun text =>
  match text with
  | ':' :: rest => do
      let (_, rest) ← readField 2 0 60 rest
      match rest with
      | '.' :: digits =>
          if digits.head?.any Char.isDigit then some ((), digits.dropWhile Char.isDigit) else none
      | _ => some ((), rest)
  | _ => some ((), text)

def readTime : Reader Unit := fun text => do
  let (_, text) ← readField 2 0 23 text
  let (_, text) ← readMark ':' text
  let (_, text) ← readField 2 0 59 text
  readSeconds text

def readOffset : Reader Unit
  | 'Z' :: rest => some ((), rest)
  | 'z' :: rest => some ((), rest)
  | c :: rest =>
      if c = '+' ∨ c = '-' then do
        let (_, rest) ← readField 2 0 23 rest
        let (_, rest) ← readMark ':' rest
        let (_, rest) ← readField 2 0 59 rest
        some ((), rest)
      else none
  | [] => none

def isMoment (text : List Char) : Bool :=
  match readDate text with
  | none => (readTime text).any fun found => found.2.isEmpty
  | some (_, []) => true
  | some (_, mark :: rest) =>
      (mark == 'T' || mark == 't' || mark == ' ') &&
        match readTime rest with
        | none => false
        | some (_, []) => true
        | some (_, offset) => (readOffset offset).any fun found => found.2.isEmpty

inductive Unquoted where
  | scalar (value : Scalar)
  | moment
deriving DecidableEq, Repr

/-- An integer has a value if it fits in 128 bits, with or without a sign. -/
def wideInteger (value : Int) : Scalar :=
  if -Int.pow 2 127 ≤ value ∧ value < Int.pow 2 128 then .integer value else .unreadable

def unquoted? (text : List Char) : Option Unquoted :=
  if text = ['t', 'r', 'u', 'e'] then some (.scalar (.boolean true))
  else if text = ['f', 'a', 'l', 's', 'e'] then some (.scalar (.boolean false))
  else
    match integer? text with
    | some value => some (.scalar (wideInteger value))
    | none =>
        match float? text with
        | some value => some (.scalar value)
        | none =>
            if isMoment text then some .moment
            else if resemblesInteger text then some (.scalar .unreadable)
            else none

/--
The run of characters of an unquoted value. A time that follows a date after one space belongs to
the value.
-/
def splitToken (text : List Char) : List Char × List Char :=
  let token := text.takeWhile isTokenChar
  let rest := text.dropWhile isTokenChar
  match rest with
  | ' ' :: c :: more =>
      if c.isDigit && (readDate token).any (·.2.isEmpty) then
        (token ++ ' ' :: (c :: more).takeWhile isTokenChar, (c :: more).dropWhile isTokenChar)
      else (token, rest)
  | _ => (token, rest)

def readUnquoted : Reader Unquoted := fun text =>
  let (token, rest) := splitToken text
  (unquoted? token).map fun value => (value, rest)

example : readUnquoted "0x1F,".toList = some (.scalar (.integer 31), [',']) := by decide
example : readUnquoted "-1_000 ".toList = some (.scalar (.integer (-1000)), [' ']) := by decide
example : readUnquoted "01".toList = none := by decide
example : readUnquoted "2024-02-29 07:30:00Z".toList = some (.moment, []) := by decide
example : readUnquoted "2023-02-29".toList = none := by decide
example : readUnquoted "1_abc".toList = some (.scalar .unreadable, []) := by decide
example : readUnquoted "1_x".toList = none := by decide
example : readUnquoted "0o".toList = some (.scalar .unreadable, []) := by decide
example : readUnquoted "0o8".toList = none := by decide

end ClusterLink.Toml
