import ClusterLink.Text.Percent
import ClusterLink.Text.Split

/-!
# Paths of endpoints

A path is the list of its segments. Segments that say `.` or `..`, also spelled with `%2e`, are
resolved away; `..` takes back the segment before it, except that a segment that looks like a
drive (`c:` or `c|`) stays. What is not allowed to stand in a path is percent-encoded.
-/

namespace ClusterLink.Endpoint.Path

open Text

def isKept (c : Char) : Bool :=
  isVisibleAscii c && !(['"', '<', '>', '`', '#', '?', '{', '}'].contains c)

/-- A segment with every spelling of a dot reduced to the dot. -/
def plainDots : List Char → List Char
  | '%' :: '2' :: 'e' :: rest => '.' :: plainDots rest
  | '%' :: '2' :: 'E' :: rest => '.' :: plainDots rest
  | c :: rest => c :: plainDots rest
  | [] => []

def isSingleDot (segment : List Char) : Bool := plainDots segment == ['.']

def isDoubleDot (segment : List Char) : Bool := plainDots segment == ['.', '.']

/-- Whether a segment looks like a drive, which ends with the segment or with a backslash. -/
def isDrive : List Char → Bool
  | letter :: mark :: rest =>
      letter.isAlpha && (mark == ':' || mark == '|') && rest.head?.all (· == '\\')
  | _ => false

/-- The segments, last first, after the last one is taken back; a drive stays. -/
def goUp : List (List Char) → List (List Char)
  | [] => []
  | segment :: before => if isDrive segment then segment :: before else before

/--
The segments that remain when the dots are resolved. The first argument holds the segments that
are settled, last first. A dot segment at the end leaves an empty segment, so that the path goes on
ending in a slash.
-/
def resolve : List (List Char) → List (List Char) → List (List Char)
  | settled, [] => settled.reverse
  | settled, segment :: others =>
      if isDoubleDot segment then
        resolve (if others.isEmpty then [] :: goUp settled else goUp settled) others
      else if isSingleDot segment then
        resolve (if others.isEmpty then [] :: settled else settled) others
      else resolve (segment :: settled) others

def write (segments : List (List Char)) : List Char :=
  segments.flatMap fun segment => '/' :: segment

/-- The segments that a text says, before dots are resolved; a missing first slash is supplied. -/
def segments (text : List Char) : List (List Char) :=
  (pieces '/' (match text with
    | '/' :: rest => rest
    | other => other)).map (percentEncode isKept)

def read? (text : List Char) : Option (List Char) :=
  if text.isEmpty then none else some (write (resolve [] (segments text)))

example : read? "/a/../b".toList = some "/b".toList := by decide
example : read? "/b/.".toList = some "/b/".toList := by decide
example : read? "/c:/../x".toList = some "/c:/x".toList := by decide
example : read? "//".toList = some "//".toList := by decide

end ClusterLink.Endpoint.Path
