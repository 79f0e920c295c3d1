import ClusterLink.Datum
import ClusterLink.Text.Hex

/-!
# Writing documents

A record is written as a document: its plain members first, then a section for every member that
is a record. Missing members are left out; a missing item of a list and an integer that is too large
have no written form. Every string takes the plainest of its written forms.
-/

namespace ClusterLink.Toml

open Text

structure StringTraits where
  hasControl : Bool
  hasBackslash : Bool
  hasBreak : Bool
  doubleRun : Nat
  singleRun : Nat
deriving DecidableEq, Repr

/-- The length of the longest run of a character; `run` counts the one that is going on. -/
def longestRun (mark : Char) : Nat → List Char → Nat
  | run, [] => run
  | run, c :: rest =>
      if c = mark then longestRun mark (run + 1) rest else max run (longestRun mark 0 rest)

def needsEscape (c : Char) : Bool :=
  (c.toNat < 0x20 && c != '\t' && c != '\n') || c.toNat == 0x7F

def StringTraits.ofText (text : List Char) : StringTraits where
  hasControl := text.any needsEscape
  hasBackslash := text.contains '\\'
  hasBreak := text.contains '\n'
  doubleRun := longestRun '"' 0 text
  singleRun := longestRun '\'' 0 text

inductive StringForm where
  | basic
  | literal
  | longBasic
  | longLiteral
deriving DecidableEq, Repr

def StringTraits.form (traits : StringTraits) : StringForm :=
  if !traits.hasControl && !traits.hasBackslash && traits.doubleRun == 0 && !traits.hasBreak then
    .basic
  else if !traits.hasControl && traits.singleRun == 0 && !traits.hasBreak then .literal
  else if !traits.hasControl && !traits.hasBackslash && traits.doubleRun < 3 then .longBasic
  else if !traits.hasControl && traits.singleRun < 3 then .longLiteral
  else if traits.hasBreak then .longBasic
  else .basic

def controlEscape (c : Char) : List Char :=
  if c = '\x08' then ['\\', 'b']
  else if c = '\t' then ['\\', 't']
  else if c = '\n' then ['\\', 'n']
  else if c = '\x0c' then ['\\', 'f']
  else if c = '\r' then ['\\', 'r']
  else ['\\', 'u', '0', '0', upperHexDigit (c.toNat / 16), upperHexDigit (c.toNat % 16)]

/--
The text between the quotes of a basic string. A quote is escaped if `quotes` of them stand in
front of it; `allowed` is how many may stand in a row. Line breaks are kept if `keepBreaks` says
so.
-/
def escaped (allowed : Nat) (keepBreaks : Bool) : Nat → List Char → List Char
  | _, [] => []
  | quotes, c :: rest =>
      if c = '"' then
        if quotes < allowed then c :: escaped allowed keepBreaks (quotes + 1) rest
        else '\\' :: c :: escaped allowed keepBreaks 0 rest
      else if c = '\\' then '\\' :: '\\' :: escaped allowed keepBreaks 0 rest
      else if c = '\n' ∧ keepBreaks then c :: escaped allowed keepBreaks 0 rest
      else if c.toNat < 0x20 ∨ c.toNat = 0x7F then
        controlEscape c ++ escaped allowed keepBreaks 0 rest
      else c :: escaped allowed keepBreaks 0 rest

def writeString (text : List Char) : List Char :=
  let traits := StringTraits.ofText text
  let lead := if traits.hasBreak then ['\n'] else []
  match traits.form with
  | .basic => '"' :: escaped 0 false 0 text ++ ['"']
  | .literal => '\'' :: text ++ ['\'']
  | .longBasic => ['"', '"', '"'] ++ lead ++ escaped 2 true 0 text ++ ['"', '"', '"']
  | .longLiteral => ['\'', '\'', '\''] ++ lead ++ text ++ ['\'', '\'', '\'']

def writeKey (name : String) : List Char :=
  let text := name.toList
  if !text.isEmpty && text.all fun c => c.isAlphanum || c == '_' || c == '-' then text
  else '"' :: escaped 0 false 0 text ++ ['"']

def joined (mark : List Char) : List (List Char) → List Char
  | [] => []
  | [text] => text
  | text :: rest => text ++ mark ++ joined mark rest

inductive ListLayout where
  | oneLine
  | onePerLine
deriving DecidableEq, Repr

def writeList (layout : ListLayout) (items : List (List Char)) : List Char :=
  if layout = .onePerLine ∧ items.length > 1 then
    ['[', '\n'] ++ items.flatMap (fun item => [' ', ' ', ' ', ' '] ++ item ++ [',', '\n']) ++ [']']
  else '[' :: joined [',', ' '] items ++ [']']

def writeFloat : Binary64 → List Char
  | .nan => ['n', 'a', 'n']
  | value => (value.text .positionalAlways).toList

mutual

/-- A value on the right of an equals sign; a missing value has no written form. -/
def writeValue (layout : ListLayout) : Datum → List Char
  | .null => []
  | .boolean value => if value then ['t', 'r', 'u', 'e'] else ['f', 'a', 'l', 's', 'e']
  | .integer value => (toString value).toList
  | .float value => writeFloat value
  | .text value => writeString value.toList
  | .list items => writeList layout (writeItems layout items)
  | .record members => '\x7b' :: joined [',', ' '] (writeMembers layout members) ++ ['\x7d']

def writeItems (layout : ListLayout) : List Datum → List (List Char)
  | [] => []
  | item :: rest => writeValue layout item :: writeItems layout rest

def writeMembers (layout : ListLayout) : List (String × Datum) → List (List Char)
  | [] => []
  | (key, value) :: rest =>
      (writeKey key ++ [' ', '=', ' '] ++ writeValue layout value) :: writeMembers layout rest

end

def isSection : Datum → Bool
  | .record _ => true
  | _ => false

def writeLine (layout : ListLayout) (member : String × Datum) : List Char :=
  match member.2 with
  | .null => []
  | .record _ => []
  | value => writeKey member.1 ++ [' ', '=', ' '] ++ writeValue layout value ++ ['\n']

def writeHeader (path : List String) : List Char :=
  '[' :: joined ['.'] (path.map writeKey) ++ [']', '\n']

/--
The block of a table: its header, unless it is the whole document, and its plain members. A table
that has nothing but sections has no block.
-/
def tableBlock (layout : ListLayout) (path : List String) (members : List (String × Datum)) :
    List (List Char) :=
  let lines := members.flatMap (writeLine layout)
  match path, lines with
  | [], [] => []
  | [], _ => [lines]
  | _, [] => if members.any (isSection ·.2) then [] else [writeHeader path]
  | _, _ => [writeHeader path ++ lines]

mutual

def sectionBlocks (layout : ListLayout) (path : List String) : Datum → List (List Char)
  | .record members => tableBlock layout path members ++ memberBlocks layout path members
  | _ => []

def memberBlocks (layout : ListLayout) (path : List String) :
    List (String × Datum) → List (List Char)
  | [] => []
  | (key, value) :: rest =>
      sectionBlocks layout (path ++ [key]) value ++ memberBlocks layout path rest

end

inductive WritingFault where
  | missingItem
  | outOfRange
  | pathNotText
deriving DecidableEq, Repr

def WritingFault.message : WritingFault → String
  | missingItem => "unsupported None value"
  | outOfRange => "out-of-range value"
  | pathNotText => "path contains invalid UTF-8 characters"

mutual

/-- What keeps a value from being written: a missing value, or an integer of more than 64 bits. -/
def fault? : Datum → Option WritingFault
  | .null => some .missingItem
  | .boolean _ => none
  | .integer value => if -2 ^ 63 ≤ value ∧ value < 2 ^ 63 then none else some .outOfRange
  | .float _ => none
  | .text _ => none
  | .list items => itemsFault? items
  | .record members => membersFault? members

def itemsFault? : List Datum → Option WritingFault
  | [] => none
  | item :: rest => (fault? item).or (itemsFault? rest)

def membersFault? : List (String × Datum) → Option WritingFault
  | [] => none
  | (_, .null) :: rest => membersFault? rest
  | (_, value) :: rest => (fault? value).or (membersFault? rest)

end

/-- A record as a document, with a blank line before every header but a first one. -/
def write (layout : ListLayout) (members : List (String × Datum)) : String :=
  String.ofList (joined ['\n'] (sectionBlocks layout [] (.record members)))

def tryWrite (layout : ListLayout) (members : List (String × Datum)) : Except WritingFault String :=
  match membersFault? members with
  | some fault => .error fault
  | none => .ok (write layout members)

example : write .oneLine [("a", .record [("b", .text "c"), ("d", .record [("e", .list [])])])]
    = "[a]\nb = \"c\"\n\n[a.d]\ne = []\n" := by decide

end ClusterLink.Toml
