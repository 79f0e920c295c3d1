import ClusterLink.Options.Basic
import ClusterLink.Shape

/-!
# Reading options

The options are read from a table, or from a list of their values in the order of declaration. The
entries of a table are read in the order of names, and the first one at fault is reported.
-/

namespace ClusterLink

def Tree.text? : Tree → Option String
  | .scalar _ (.text value) => some value
  | _ => none

def textItems? (items : List Tree) : Option (List String) := items.mapM Tree.text?

/-- A text; `wanted` says what was expected when the tree is something else. -/
def readText (wanted : String) (tree : Tree) : Except Misfit String :=
  match tree.text? with
  | some value => .ok value
  | none => .error (tree.misfit wanted)

def readTexts (tree : Tree) : Except Misfit (List String) :=
  let found :=
    match tree with
    | .list _ items => textItems? items
    | _ => tree.text?.map fun value => [value]
  match found with
  | some values => .ok values
  | none => .error ⟨.neitherOneNorMany, tree.span⟩

def readFlag (tree : Tree) : Except Misfit Bool :=
  match tree with
  | .scalar _ (.boolean value) => .ok value
  | _ => .error (tree.misfit "a boolean")

def OptionKind.read (kind : OptionKind) (tree : Tree) : Except Misfit OptionValue :=
  match kind with
  | .text => .text <$> readText "a string" tree
  | .choice _ => .text <$> readText "a string" tree
  | .path => .text <$> readText "path string" tree
  | .password => (fun value => .secret ⟨value⟩) <$> readText "a string" tree
  | .boolean => .flag <$> readFlag tree
  | .uriList => .texts <$> readTexts tree
  | .pathList => .texts <$> readTexts tree

/-- Whether a list of values may end before an option of this kind. -/
def OptionKind.mayBeMissing : OptionKind → Bool
  | .uriList => true
  | .pathList => true
  | _ => false

namespace Options

def wanted : String := "struct FilterOptions"

/-- The options with the value of one of them; null gives none. -/
def readValue (key : OptionKey) (tree : Tree) (options : Options) : Except Misfit Options :=
  match tree with
  | .scalar _ .null => .ok options
  | _ => (fun value => options.give key value) <$> key.spec.kind.read tree

def readEntry (options : Options) (entry : Key × Tree) : Except Misfit Options :=
  match OptionKey.ofName? entry.1.name with
  | some key => readValue key entry.2 options
  | none =>
      .error ⟨.unknownField entry.1.name (OptionKey.all.map OptionKey.name), entry.1.span⟩

/-- The options with values in the order of declaration; `index` counts those that are read. -/
def readPositions (span : Span) :
    Nat → List OptionKey → List Tree → Options → Except Misfit Options
  | _, [], _, options => .ok options
  | index, key :: keys, [], options =>
      if key.spec.kind.mayBeMissing then readPositions span index.succ keys [] options
      else .error ⟨.missingElement index (wanted ++ " with 19 elements"), span⟩
  | index, key :: keys, item :: items, options =>
      match readValue key item options with
      | .error misfit => .error misfit
      | .ok options => readPositions span index.succ keys items options

def read (format : DocumentFormat) (tree : Tree) : Except Misfit Options :=
  match tree with
  | .table _ entries => entries.foldlM readEntry {}
  | .list span items => do
      let options ← readPositions span 0 OptionKey.all items {}
      if format.limitsLists && items.length > OptionKey.all.length then
        .error ⟨.surplusElements items.length, span⟩
      else .ok options
  | .scalar _ _ => .error (tree.misfit wanted)

end Options

end ClusterLink
