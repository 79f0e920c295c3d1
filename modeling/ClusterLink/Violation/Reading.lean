import ClusterLink.Shape
import ClusterLink.Violation

/-!
# Reading violation classes

The class of a violation is read back from its name.
-/

namespace ClusterLink

namespace ViolationKind

def ofName (name : String) (span : Span) : Except Misfit ViolationKind :=
  match ofCode? name with
  | some kind => .ok kind
  | none => .error ⟨.unknownVariant name (all.map code), span⟩

def read (tree : Tree) : Except Misfit ViolationKind :=
  match tree with
  | .scalar span (.text name) => ofName name span
  | .table _ [(key, value)] => do
      let kind ← ofName key.name key.span
      match value with
      | .scalar _ .null => .ok kind
      | _ => .error (value.misfit "unit")
  | .table span _ => .error ⟨.notOneEntry, span⟩
  | _ => .error (tree.misfit "string or map")

end ViolationKind

end ClusterLink
