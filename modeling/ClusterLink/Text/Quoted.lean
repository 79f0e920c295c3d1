import ClusterLink.Text.Printable

/-!
# Quoted text

A text between double quotes, with the quote, the backslash and every hidden character escaped, so
that what is shown is unambiguous. Lists and records of such texts have forms of their own.
-/

namespace ClusterLink.Text

def codePointEscape (c : Char) : List Char :=
  ['\\', 'u', '\x7b'] ++ Nat.toDigits 16 c.toNat ++ ['\x7d']

def escapeChar (c : Char) : List Char :=
  if c == '\x00' then ['\\', '0']
  else if c == '\t' then ['\\', 't']
  else if c == '\r' then ['\\', 'r']
  else if c == '\n' then ['\\', 'n']
  else if c == '\\' || c == '"' then ['\\', c]
  else if isPrintable c then [c]
  else codePointEscape c

def quoted (text : String) : String :=
  String.ofList ('"' :: text.toList.flatMap escapeChar ++ ['"'])

def shownList (items : List String) : String := "[" ++ ", ".intercalate items ++ "]"

def shownCall (name : String) (arguments : List String) : String :=
  name ++ "(" ++ ", ".intercalate arguments ++ ")"

/-- A name with shown fields; `more` says that there are fields that are not shown. -/
def shownRecord (name : String) (fields : List (String × String)) (more : Bool) : String :=
  let shown := fields.map fun field => field.1 ++ ": " ++ field.2
  name ++ " \x7b " ++ ", ".intercalate (if more then shown ++ [".."] else shown) ++ " \x7d"

def shownOption (value : Option String) : String :=
  match value with
  | some shown => shownCall "Some" [shown]
  | none => "None"

end ClusterLink.Text
