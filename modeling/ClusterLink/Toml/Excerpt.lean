import ClusterLink.Text.Split
import ClusterLink.Tree

/-!
# Excerpts

Where in a text a fault is, shown as the line that it starts on with a mark under the fault.
-/

namespace ClusterLink.Toml

structure Excerpt where
  lineNumber : Nat
  column : Nat
  line : List Char
  width : Nat
deriving DecidableEq, Repr

namespace Excerpt

def byteCount (text : List Char) : Nat := text.foldr (fun c count => c.utf8Size + count) 0

/--
The excerpt for a span of a text. Lines and columns count from one, columns in characters; the
width counts bytes, ends with the line, and is at least one.
-/
def ofSpan (text : List Char) (span : Span) : Excerpt :=
  let before := text.take (text.length - span.start)
  let covered := (text.drop (text.length - span.start)).take (span.start - span.stop)
  let ended := before.count '\n'
  let offset := (before.reverse.takeWhile (· != '\n')).length
  let line := (Text.pieces '\n' text).getD ended []
  { lineNumber := ended + 1
    column := offset + 1
    line
    width := max 1 (min (byteCount covered) (byteCount line - offset)) }

def report (excerpt : Excerpt) (message : String) : String :=
  let number := toString excerpt.lineNumber
  let pad := String.ofList (List.replicate (number.length + 1) ' ')
  let lead := String.ofList (List.replicate excerpt.column ' ')
  let mark := String.ofList (List.replicate excerpt.width '^')
  "TOML parse error at line " ++ number ++ ", column " ++ toString excerpt.column ++ "\n" ++
    pad ++ "|\n" ++
    number ++ " | " ++ String.ofList excerpt.line ++ "\n" ++
    pad ++ "|" ++ lead ++ mark ++ "\n" ++
    message ++ "\n"

example : ofSpan "a\nbc = [\n".toList ⟨2, 1⟩ = ⟨2, 6, "bc = [".toList, 1⟩ := by decide

end Excerpt

end ClusterLink.Toml
