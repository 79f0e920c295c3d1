import ClusterLink.Journal.Pattern.Reading
import ClusterLink.Journal.Pattern.Support

/-!
# Values of fields

What a directive may ask of a field: a number, which may have a sign, a fraction and an exponent, or
a pattern that the value has to match.
-/

namespace ClusterLink.Journal

def dropSign : List Char → List Char
  | '+' :: rest => rest
  | '-' :: rest => rest
  | text => text

def numberNames : List String := ["inf", "infinity", "nan"]

def isExponent (text : List Char) : Bool :=
  let digits := dropSign text
  !digits.isEmpty && digits.all Char.isDigit

/-- Whether a text is a number. Digits may be missing before or after the point, but not both. -/
def isNumber (text : List Char) : Bool :=
  let body := dropSign text
  let whole := body.takeWhile Char.isDigit
  let (decimals, tail) :=
    match body.dropWhile Char.isDigit with
    | '.' :: rest => (rest.takeWhile Char.isDigit, rest.dropWhile Char.isDigit)
    | rest => ([], rest)
  let ends :=
    match tail with
    | [] => true
    | mark :: exponent => (mark == 'e' || mark == 'E') && isExponent exponent
  numberNames.contains (String.ofList (body.map Char.toLower)) ||
    !(whole.isEmpty && decimals.isEmpty) && ends

def isPattern (text : List Char) : Bool := (Pattern.read? text).any Pattern.isUsable

def isFieldValue (text : List Char) : Bool := isNumber text || isPattern text

example : isFieldValue "+1.5e-3".toList && isFieldValue "-Inf".toList := by decide +kernel
example : !isFieldValue "+1.2.3".toList && !isFieldValue "(?i)a".toList := by decide +kernel
example : isFieldValue "[^a-z]|(?-u:\\w)+".toList := by decide +kernel
example : !isFieldValue "(?<a>b)(?P<a>c)".toList := by decide +kernel

end ClusterLink.Journal
