import ClusterLink.Journal.FieldValue
import ClusterLink.Journal.Record
import ClusterLink.Text.Alphanumeric
import ClusterLink.Text.Blank
import ClusterLink.Text.Bytes
import ClusterLink.Text.Split

/-!
# Log directives

Which records are written: a list of directives, each with a level, and with conditions on the
target and the fields of a record. Of the directives that apply to a record the most specific one
decides: the one with the longest target, and then the one that names a field.
-/

namespace ClusterLink.Journal

open Text

/--
One directive: records that meet its conditions are written up to a rank; the rank of nothing is
zero. A directive that is for spans speaks of a span, or of the value of a field in one; records are
written outside of spans, so it applies to none.
-/
structure Directive where
  target : Option (List Char) := none
  field : Option String := none
  forSpans : Bool := false
  rank : Nat := 5
deriving DecidableEq, Repr, Inhabited

def levelNames : List (String × Nat) :=
  [("error", 1), ("warn", 2), ("info", 3), ("debug", 4), ("trace", 5), ("off", 0)]

def rankOfNumber? (text : List Char) : Option Nat :=
  let digits :=
    match text with
    | '+' :: rest => rest
    | _ => text
  if !digits.isEmpty ∧ digits.all Char.isDigit then
    let value := Nat.ofDigitChars 10 digits 0
    if value ≤ 5 then some value else none
  else none

def rank? (text : List Char) : Option Nat :=
  match rankOfNumber? text with
  | some rank => some rank
  | none => levelNames.lookup (String.ofList (text.map Char.toLower))

/-- Characters that the level or target of a directive may start with. -/
def startsName (c : Char) : Bool := c == '-' || c == ':' || c == '_' || isAlphanumeric c

def trim (text : List Char) : List Char :=
  ((text.dropWhile isBlank).reverse.dropWhile isBlank).reverse

inductive DirectiveFault where
  | malformed
  | cutCharacter
deriving DecidableEq, Repr

/-- Which part of a directive is being read, and the byte at which it starts. -/
inductive Phase where
  | start
  | levelOrTarget (start : Nat)
  | span (start : Nat)
  | field (start : Nat)
  | afterField
  | afterScope
  | level (start : Nat)
deriving DecidableEq, Repr

/-- The text from a byte on; the byte has to start a character. -/
def tailAt (text : List Char) (start : Nat) : Except DirectiveFault (List Char) :=
  match dropBytes? start text with
  | some rest => .ok rest
  | none => .error .cutCharacter

def cut (text : List Char) (start stop : Nat) : Except DirectiveFault (List Char) :=
  match (dropBytes? start text).bind (takeBytes? (stop - start)) with
  | some part => .ok part
  | none => .error .cutCharacter

def readRank (text : List Char) : Except DirectiveFault Nat :=
  match rank? text with
  | some rank => .ok rank
  | none => .error .malformed

namespace Directive

/-- The directive with a condition on a field, which may ask for a value. -/
def withField (directive : Directive) (text : List Char) : Except DirectiveFault Directive :=
  match text, splitFirst ['='] text with
  | [], _ => .error .malformed
  | _, some (_, value) =>
      if isFieldValue (value.takeWhile (· != '=')) then .ok { directive with forSpans := true }
      else .error .malformed
  | _, none => .ok { directive with field := some (String.ofList text) }

/-- Reads the character that stands at a byte of the trimmed text; parts are cut out of `text`. -/
def step (text : List Char) :
    Directive × Phase → Nat × Char → Except DirectiveFault (Directive × Phase)
  | (directive, .start), (i, c) =>
      if c == '[' then .ok (directive, .span (i + 1))
      else if startsName c then .ok (directive, .levelOrTarget i)
      else .error .malformed
  | (directive, .levelOrTarget start), (i, c) =>
      if c == '=' then do
        .ok ({ directive with target := some (← cut text start i) }, .level (i + 1))
      else if c == '[' then do
        .ok ({ directive with target := some (← cut text start i) }, .span (i + 1))
      else .ok (directive, .levelOrTarget start)
  | (directive, .span start), (i, c) =>
      if c == ']' then do
        let _ ← cut text start i
        .ok ({ directive with forSpans := true }, .afterScope)
      else if c == '\x7b' then do
        .ok ({ directive with forSpans := !(← cut text start i).isEmpty }, .field (i + 1))
      else .ok (directive, .span start)
  | (directive, .field start), (i, c) =>
      if c == '\x7d' then do .ok (← directive.withField (← cut text start i), .afterField)
      else .ok (directive, .field start)
  | (directive, .afterField), (_, c) =>
      if c == ']' then .ok (directive, .afterScope) else .error .malformed
  | (directive, .afterScope), (i, c) =>
      if c == '=' then .ok (directive, .level (i + 1)) else .error .malformed
  | (directive, .level start), _ => .ok (directive, .level start)

def finish (text : List Char) : Directive × Phase → Except DirectiveFault Directive
  | (directive, .levelOrTarget start) => do
      let rest ← tailAt text start
      match rank? rest with
      | some rank => .ok { directive with rank }
      | none => .ok { directive with target := some rest }
  | (directive, .level start) => do
      let rest ← tailAt text start
      if rest.isEmpty then .ok directive else .ok { directive with rank := ← readRank rest }
  | (directive, .afterScope) => .ok directive
  | _ => .error .malformed

/--
Reads a directive: a level, a target, or a target with a level; a target may have a span and a
field in brackets after it. The marks are looked for in the trimmed text, and what lies between
them is cut out of the whole text at the same bytes.
-/
def read (text : List Char) : Except DirectiveFault Directive := do
  let reached ← (placed 0 (trim text)).foldlM (step text) ({}, .start)
  finish text reached

/-- Whether a directive decides about a record if no other one does. -/
def applies (directive : Directive) (record : LogRecord) : Bool :=
  !directive.forSpans && directive.target.all (·.isPrefixOf record.target.toList) &&
    directive.field.all (record.fieldNames.contains ·)

/-- How specific the target of a directive is. -/
def targetWeight (directive : Directive) : Nat :=
  (directive.target.map (·.length + 1)).getD 0

/-- Whether of two directives that apply to a record the second, later one decides. -/
def yieldsTo (first second : Directive) : Bool :=
  first.targetWeight < second.targetWeight ||
    first.targetWeight == second.targetWeight &&
      match first.field, second.field with
      | none, _ => true
      | some _, none => false
      | some a, some b => !(b < a)

end Directive

def parts (text : String) : List (List Char) :=
  (pieces ',' text.toList).filter fun part => !part.isEmpty

/-- Without any directive only errors are written. -/
def orDefault (directives : List Directive) : List Directive :=
  if directives.isEmpty then [{ rank := 1 }] else directives

def readStrict (text : String) : Except DirectiveFault (List Directive) := do
  .ok (orDefault (← (parts text).mapM Directive.read))

def readLenient (text : String) : Except DirectiveFault (List Directive) := do
  let found ← (parts text).filterMapM fun part =>
    match Directive.read part with
    | .ok directive => .ok (some directive)
    | .error .malformed => .ok none
    | .error .cutCharacter => .error .cutCharacter
  .ok (orDefault found)

/-- The directive that decides about a record; of equally specific ones the last. -/
def deciding? (directives : List Directive) (record : LogRecord) : Option Directive :=
  (directives.filter (·.applies record)).foldl (fun best directive =>
    match best with
    | some known => if known.yieldsTo directive then some directive else best
    | none => some directive) none

def writes (directives : List Directive) (record : LogRecord) : Bool :=
  (deciding? directives record).any fun directive => record.level.rank ≤ directive.rank

def isWritten (text : String) (record : LogRecord) : Bool :=
  match readLenient text with
  | .ok directives => writes directives record
  | .error _ => false

example : isWritten "warn,a::b=debug" ⟨.debug, "a::b::c", "", []⟩ := by decide +kernel
example : !isWritten "warn,a::b=debug" ⟨.debug, "a::c", "", []⟩ := by decide +kernel
example : isWritten "[\x7bid\x7d]=info,off" ⟨.info, "a", "", [("id", .null)]⟩ := by
  decide +kernel
example : !isWritten "" ⟨.warn, "a", "", []⟩ := by decide +kernel
example : Directive.read " a=debug".toList = .error .malformed := by rfl
example : Directive.read " aé=debug".toList = .error .cutCharacter := by rfl

end ClusterLink.Journal
