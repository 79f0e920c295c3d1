import ClusterLink.Advisory
import ClusterLink.Violation

/-!
# Traced validation

Validation is a computation that either has a value or ends with a violation, and that leaves a
trail of what happened on the way. The trail is kept in both cases. What was asked about files and
what is logged are views of it.
-/

namespace ClusterLink

/-- Something that happens while settings are validated. -/
inductive Occurrence where
  | askedReadable (label path : String)
  | askedWritable (path : String)
  | inferredTls (enabled : Bool)
  | resolvedTls (mode : String) (identity : Bool) (trust : String)
  | normalizedHosts (count : Nat) (scheme path : String)
  | warned (id : String) (advisory : Advisory)
  | validated (id : String) (tlsEnabled : Bool) (hosts : Nat) (cloud : Bool)
deriving DecidableEq, Repr

/-- A value or a violation, and what happened before it was known. -/
structure Traced (α : Type) where
  trail : List Occurrence
  outcome : Except Violation α
deriving Repr

namespace Traced

variable {α β : Type}

def value (a : α) : Traced α := ⟨[], .ok a⟩

def andThen (first : Traced α) (next : α → Traced β) : Traced β :=
  match first.outcome with
  | .ok a => ⟨first.trail ++ (next a).trail, (next a).outcome⟩
  | .error violation => ⟨first.trail, .error violation⟩

instance : Monad Traced where
  pure := value
  bind := andThen

def note (occurrence : Occurrence) : Traced Unit := ⟨[occurrence], .ok ()⟩

def refuse (violation : Violation) : Traced α := ⟨[], .error violation⟩

def lift (outcome : Except Violation α) : Traced α := ⟨[], outcome⟩

@[simp] theorem pure_eq (a : α) : (pure a : Traced α) = ⟨[], .ok a⟩ := rfl

@[simp] theorem bind_eq (first : Traced α) (next : α → Traced β) :
    first >>= next = first.andThen next := rfl

@[simp] theorem andThen_ok (trail : List Occurrence) (a : α) (next : α → Traced β) :
    andThen ⟨trail, .ok a⟩ next = ⟨trail ++ (next a).trail, (next a).outcome⟩ := rfl

@[simp] theorem andThen_error (trail : List Occurrence) (violation : Violation)
    (next : α → Traced β) :
    andThen ⟨trail, .error violation⟩ next = ⟨trail, .error violation⟩ := rfl

end Traced

end ClusterLink
