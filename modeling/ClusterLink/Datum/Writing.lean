import ClusterLink.Datum
import ClusterLink.Text.Hex

/-!
# Writing values

A value as JSON text: on one line without spaces, or on several lines, each level indented by two
more spaces.
-/

namespace ClusterLink.Datum

open Text

def escapedChar (c : Char) : List Char :=
  if c = '"' then ['\\', '"']
  else if c = '\\' then ['\\', '\\']
  else if c = '\x08' then ['\\', 'b']
  else if c = '\x0c' then ['\\', 'f']
  else if c = '\n' then ['\\', 'n']
  else if c = '\r' then ['\\', 'r']
  else if c = '\t' then ['\\', 't']
  else if c.toNat < 0x20 then
    ['\\', 'u', '0', '0', lowerHexDigit (c.toNat / 16), lowerHexDigit (c.toNat % 16)]
  else [c]

def writeText (text : String) : List Char :=
  '"' :: text.toList.flatMap escapedChar ++ ['"']

/-- A fraction as a JSON number, and null for what is infinite or no number. -/
def writeFloat : Binary64 → List Char
  | .nan => ['n', 'u', 'l', 'l']
  | .infinite _ => ['n', 'u', 'l', 'l']
  | value => (value.text .positionalInRange).toList

mutual

def lineChars : Datum → List Char
  | null => ['n', 'u', 'l', 'l']
  | boolean value => if value then ['t', 'r', 'u', 'e'] else ['f', 'a', 'l', 's', 'e']
  | integer value => (toString value).toList
  | float value => writeFloat value
  | text value => writeText value
  | list [] => ['[', ']']
  | list (first :: rest) => '[' :: first.lineChars ++ lineItems rest ++ [']']
  | record [] => ['\x7b', '\x7d']
  | record ((key, value) :: rest) =>
      '\x7b' :: writeText key ++ ':' :: value.lineChars ++ lineMembers rest ++ ['\x7d']

def lineItems : List Datum → List Char
  | [] => []
  | item :: rest => ',' :: item.lineChars ++ lineItems rest

/-- The members of a record after its first one, on one line. -/
def lineMembers : List (String × Datum) → List Char
  | [] => []
  | (key, value) :: rest =>
      ',' :: writeText key ++ ':' :: value.lineChars ++ lineMembers rest

end

def writeLine (value : Datum) : String := String.ofList value.lineChars

def newLine (level : Nat) : List Char := '\n' :: List.replicate (2 * level) ' '

mutual

def writeAt (level : Nat) : Datum → List Char
  | null => ['n', 'u', 'l', 'l']
  | boolean value => if value then ['t', 'r', 'u', 'e'] else ['f', 'a', 'l', 's', 'e']
  | integer value => (toString value).toList
  | float value => writeFloat value
  | text value => writeText value
  | list [] => ['[', ']']
  | list (first :: rest) =>
      '[' :: newLine (level + 1) ++ writeAt (level + 1) first ++
        writeItems (level + 1) rest ++ newLine level ++ [']']
  | record [] => ['\x7b', '\x7d']
  | record ((key, value) :: rest) =>
      '\x7b' :: newLine (level + 1) ++ writeText key ++ [':', ' '] ++
        writeAt (level + 1) value ++ writeMembers (level + 1) rest ++ newLine level ++ ['\x7d']

def writeItems (level : Nat) : List Datum → List Char
  | [] => []
  | item :: rest => ',' :: newLine level ++ writeAt level item ++ writeItems level rest

def writeMembers (level : Nat) : List (String × Datum) → List Char
  | [] => []
  | (key, value) :: rest =>
      ',' :: newLine level ++ writeText key ++ [':', ' '] ++ writeAt level value ++
        writeMembers level rest

end

def write (value : Datum) : String := String.ofList (writeAt 0 value)

end ClusterLink.Datum
