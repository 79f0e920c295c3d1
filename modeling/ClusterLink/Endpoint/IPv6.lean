import ClusterLink.Text.Hex
import ClusterLink.Text.Split

/-!
# IPv6 literals

An address is a list of eight 16-bit groups. It is read from the usual notation, in which `::`
stands for at least one group of zeros and the last two groups may be four decimal bytes, and it
is written in lower case with the longest run of at least two zero groups compressed.
-/

namespace ClusterLink.Endpoint.IPv6

open Text

def readGroup? (digits : List Char) : Option Nat :=
  if digits.isEmpty || 4 < digits.length then none else hexValue? digits

/-- A decimal byte has no leading zero and is at most 255. -/
def readByte? (digits : List Char) : Option Nat :=
  if digits.isEmpty || !digits.all Char.isDigit then none
  else if digits.head? = some '0' ∧ digits.length ≠ 1 then none
  else
    let value := Nat.ofDigitChars 10 digits 0
    if value ≤ 255 then some value else none

def readQuad? (text : List Char) : Option (List Nat) :=
  match pieces '.' text with
  | [a, b, c, d] => do
      let a ← readByte? a
      let b ← readByte? b
      let c ← readByte? c
      let d ← readByte? d
      some [256 * a + b, 256 * c + d]
  | _ => none

/-- The last piece of an address: one group, or two groups in dotted notation. -/
def readLast? (text : List Char) : Option (List Nat) :=
  if text.contains '.' then readQuad? text else (readGroup? text).map fun group => [group]

/-- Colon-separated groups, the last of which may be dotted if `dotted` says so. -/
def readGroups? (dotted : Bool) : List (List Char) → Option (List Nat)
  | [] => some []
  | [last] => if dotted then readLast? last else (readGroup? last).map fun group => [group]
  | first :: others =>
      match readGroup? first, readGroups? dotted others with
      | some group, some groups => some (group :: groups)
      | _, _ => none

/-- The groups on one side of `::`, of which there may be none. -/
def readSide? (dotted : Bool) (text : List Char) : Option (List Nat) :=
  if text.isEmpty then some [] else readGroups? dotted (pieces ':' text)

/-- The eight groups that a text writes, if it writes an address. -/
def read? (text : List Char) : Option (List Nat) :=
  match splitFirst [':', ':'] text with
  | some (left, right) =>
      match readSide? false left, readSide? true right with
      | some high, some low =>
          if high.length + low.length ≤ 7 then
            some (high ++ List.replicate (8 - (high.length + low.length)) 0 ++ low)
          else none
      | _, _ => none
  | none =>
      match readGroups? true (pieces ':' text) with
      | some groups => if groups.length = 8 then some groups else none
      | none => none

def leadingZeros : List Nat → Nat
  | 0 :: groups => leadingZeros groups + 1
  | _ => 0

/-- Start and length of the longest run of zero groups; of equal runs, the first. -/
def longestZeroRun : List Nat → Nat × Nat
  | [] => (0, 0)
  | group :: groups =>
      let here := leadingZeros (group :: groups)
      let later := longestZeroRun groups
      if later.2 ≤ here then (0, here) else (later.1 + 1, later.2)

/-- Groups in lower-case hexadecimal digits with colons between them. -/
def writeGroups (groups : List Nat) : List Char :=
  [':'].intercalate (groups.map (Nat.toDigits 16))

def write (groups : List Nat) : List Char :=
  let run := longestZeroRun groups
  if run.2 < 2 then writeGroups groups
  else writeGroups (groups.take run.1) ++ [':', ':'] ++ writeGroups (groups.drop (run.1 + run.2))

example : (read? "2001:DB8::0001".toList).map write = some "2001:db8::1".toList := by decide
example : (read? "::ffff:127.0.0.1".toList).map write = some "::ffff:7f00:1".toList := by decide
example : (read? "2001:0:0:1:0:0:0:1".toList).map write = some "2001:0:0:1::1".toList := by decide
example : read? "1::2::3".toList = none := by decide
example : read? "::01.2.3.4".toList = none := by decide

end ClusterLink.Endpoint.IPv6
