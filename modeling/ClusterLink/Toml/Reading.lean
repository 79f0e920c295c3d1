import ClusterLink.Toml.Assembly
import ClusterLink.Toml.Scalars

/-!
# Reading documents

Keys, values, settings and headers, and the document that they make up. Lists and inline tables
may be nested up to a fixed depth. Every reading knows its place by the number of characters that
are left.
-/

namespace ClusterLink.Toml

def isBareChar (c : Char) : Bool := c.isAlphanum || c == '_' || c == '-'

def readKeyPart : Reader Key := fun text =>
  let found :=
    match text with
    | '"' :: rest => readBasic rest
    | '\'' :: rest => readLiteral rest
    | _ =>
        let bare := text.takeWhile isBareChar
        if bare.isEmpty then none else some (bare, text.dropWhile isBareChar)
  found.map fun found => (⟨String.ofList found.1, text.length, found.2.length⟩, found.2)

/-- The parts of a key after the first one; `fuel` bounds their number. -/
def readKeyParts : Nat → Reader (List Key)
  | 0, _ => none
  | fuel + 1, text =>
      match dropGap text with
      | '.' :: rest => do
          let (part, rest) ← readKeyPart (dropGap rest)
          let (parts, rest) ← readKeyParts fuel rest
          some (part :: parts, rest)
      | _ => some ([], text)

/-- The greatest number of levels of lists and inline tables, and of parts of a key. -/
def maxDepth : Nat := 80

def readKey : Reader (List Key × Key) := fun text => do
  let (first, rest) ← readKeyPart text
  let (parts, rest) ← readKeyParts (rest.length + 1) rest
  match (first :: parts).reverse with
  | last :: before =>
      if before.length < maxDepth then some ((before.reverse, last), rest) else none
  | [] => none

def isCommentChar (c : Char) : Bool := !isControl c

/-- The text after spaces, tabs, line breaks and comments; `inComment` says where it starts. -/
def dropFiller (inComment : Bool) : List Char → Option (List Char)
  | [] => some []
  | '\n' :: rest => dropFiller false rest
  | '\r' :: '\n' :: rest => dropFiller false rest
  | c :: rest =>
      if inComment then if isCommentChar c then dropFiller true rest else none
      else if isGap c then dropFiller false rest
      else if c == '#' then dropFiller true rest
      else some (c :: rest)

def dropComment : List Char → List Char
  | '#' :: rest => rest.dropWhile isCommentChar
  | text => text

def readLineEnd : Reader Unit := fun text =>
  match dropComment (dropGap text) with
  | [] => some ((), [])
  | left => (lineBreak? left).map fun rest => ((), rest)

/-- Elements with commas between them, up to a closing mark; `fuel` bounds their number. -/
def readListed {α : Type} (close : Char) (element : Reader α) : Nat → Reader (List α)
  | 0, _ => none
  | fuel + 1, text => do
      let text ← dropFiller false text
      match readMark close text with
      | some (_, rest) => some ([], rest)
      | none => do
          let (item, rest) ← element text
          let rest ← dropFiller false rest
          match readMark ',' rest with
          | some (_, rest) => do
              let (items, rest) ← readListed close element fuel rest
              some (item :: items, rest)
          | none => (readMark close rest).map fun found => ([item], found.2)

def readSetting (element : Reader Tree) (skip : List Char → Option (List Char)) :
    Reader Setting := fun text => do
  let ((path, key), text) ← readKey text
  let text ← skip text
  let (_, text) ← readMark '=' text
  let text ← skip text
  let (value, text) ← element text
  some (⟨path, key, value⟩, text)

def momentName : String := "$__toml_private_datetime"

/-- An unquoted value as a tree: a date or time is a table with one entry, its text. -/
def Unquoted.tree (value : Unquoted) (text : List Char) (span : Span) : Tree :=
  match value with
  | .scalar value => .scalar span value
  | .moment =>
      .table span [(⟨momentName, span⟩,
        .scalar span (.text (String.ofList (text.take (span.start - span.stop)))))]

/-- A value with at most `depth` levels of lists and inline tables. -/
def readValue : Nat → Reader Tree
  | depth, '[' :: rest =>
      match depth with
      | 0 => none
      | depth + 1 => do
          let (items, left) ← readListed ']' (readValue depth) (rest.length + 1) rest
          some (.list ⟨rest.length + 1, left.length⟩ items, left)
  | depth, '\x7b' :: rest =>
      match depth with
      | 0 => none
      | depth + 1 => do
          let setting := readSetting (readValue depth) (dropFiller false)
          let (settings, left) ← readListed '\x7d' setting (rest.length + 1) rest
          let entries ← inlineTable? settings
          some (.table ⟨rest.length + 1, left.length⟩ entries, left)
  | _, '"' :: rest => do
      let (value, left) ← readString ('"' :: rest)
      some (.scalar ⟨rest.length + 1, left.length⟩ (.text (String.ofList value)), left)
  | _, '\'' :: rest => do
      let (value, left) ← readString ('\'' :: rest)
      some (.scalar ⟨rest.length + 1, left.length⟩ (.text (String.ofList value)), left)
  | _, text => do
      let (value, left) ← readUnquoted text
      some (value.tree text ⟨text.length, left.length⟩, left)

def readHeader : Reader Header := fun text =>
  match text with
  | '[' :: '[' :: rest => do
      let ((path, key), rest) ← readKey (dropGap rest)
      let (_, rest) ← readMark ']' (dropGap rest)
      let (_, rest) ← readMark ']' rest
      some (⟨path, key, ⟨text.length, rest.length⟩, true⟩, rest)
  | '[' :: rest => do
      let ((path, key), rest) ← readKey (dropGap rest)
      let (_, rest) ← readMark ']' (dropGap rest)
      some (⟨path, key, ⟨text.length, rest.length⟩, false⟩, rest)
  | _ => none

def readSections : Nat → List Char → Option (List Setting × List Section)
  | 0, _ => none
  | fuel + 1, text => do
      let text ← dropFiller false text
      match text with
      | [] => some ([], [])
      | '[' :: _ => do
          let (header, rest) ← readHeader text
          let (_, rest) ← readLineEnd rest
          let (settings, sections) ← readSections fuel rest
          some ([], ⟨header, settings⟩ :: sections)
      | _ => do
          let (setting, rest) ←
            readSetting (readValue maxDepth) (fun text => some (dropGap text)) text
          let (_, rest) ← readLineEnd rest
          let (settings, sections) ← readSections fuel rest
          some (setting :: settings, sections)

def dropOrderMark : List Char → List Char
  | '\uFEFF' :: rest => rest
  | text => text

def document? (text : List Char) : Option (List (Key × Tree)) := do
  let text := dropOrderMark text
  let (settings, sections) ← readSections (text.length + 1) text
  assemble? settings sections

end ClusterLink.Toml
