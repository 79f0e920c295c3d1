import ClusterLink.Proofs.Access

/-!
# Answers of a probe

A stage that refuses a file reports an answer of the probe: the answer to the question that it asks
last. Two probes that give the same answers about the files that a stage looks at are not told
apart by it. Both are kept when stages are put one after the other.
-/

namespace ClusterLink

def Violation.question? : Violation → Option ProbeCall
  | .unreadablePath _ path => some (.readable path)
  | .writablePath _ path => some (.writable path)
  | _ => none

/-- Whatever the outcome is refused for, it is no answer of a probe. -/
def Unasked {α : Type} (outcome : Except Violation α) : Prop :=
  ∀ violation, outcome = .error violation → violation.question? = none

namespace Probe

/-- The answer to the question tells against the file. -/
def Objects (probe : Probe) : ProbeCall → Prop
  | .readable path => probe.readable path = false
  | .writable path => probe.writable path = true

def AgreesOn (probe other : Probe) (paths : List String) : Prop :=
  ∀ path ∈ paths,
    other.readable path = probe.readable path ∧ other.writable path = probe.writable path

end Probe

namespace Traced

variable {α β : Type} {first : Traced α} {next : α → Traced β} {probe : Probe}

/-- A violation that reports an answer comes right after the question, and the answer is so. -/
def Reports (traced : Traced α) (probe : Probe) : Prop :=
  ∀ violation call, traced.outcome = .error violation → violation.question? = some call →
    traced.probes.getLast? = some call ∧ probe.Objects call

theorem Reports.of_unasked {traced : Traced α} (h : Unasked traced.outcome) :
    traced.Reports probe := by
  intro violation call hviolation hcall
  rw [h violation hviolation] at hcall
  cases hcall

/-- The question that is asked last in the second stage is the last one of both. -/
theorem Reports.andThen (hfirst : first.Reports probe) (hnext : ∀ a, (next a).Reports probe) :
    (first.andThen next).Reports probe := by
  intro violation call hviolation hcall
  cases h : first.outcome with
  | error fault =>
      have hstop : first.andThen next = ⟨first.trail, .error fault⟩ := by
        simp [Traced.andThen, h]
      rw [hstop] at hviolation ⊢
      cases hviolation
      exact hfirst violation call h hcall
  | ok a =>
      have hrest : (next a).outcome = .error violation := by
        simpa [Traced.andThen, h] using hviolation
      obtain ⟨hlast, hobjects⟩ := hnext a violation call hrest hcall
      refine ⟨?_, hobjects⟩
      rw [probes_andThen_of_ok h, List.getLast?_append, hlast]
      rfl

end Traced

theorem Unasked.ok {α : Type} (a : α) : Unasked (.ok a) := by
  intro violation h
  cases h

theorem Unasked.error {α : Type} {violation : Violation} (h : violation.question? = none) :
    Unasked (.error violation : Except Violation α) := by
  intro other hother
  cases hother
  exact h

/-- A check that refuses or lets pass, for whatever condition it looks at. -/
theorem Unasked.error_or {α : Type} {violation : Violation} {condition : Prop}
    [Decidable condition] (h : violation.question? = none) (a : α) :
    Unasked (if condition then .error violation else .ok a) := by
  split
  · exact Unasked.error h
  · exact Unasked.ok a

theorem Unasked.andThen {α β : Type} {first : Traced α} {next : α → Traced β}
    (hfirst : Unasked first.outcome) (hnext : ∀ a, Unasked (next a).outcome) :
    Unasked (first.andThen next).outcome := by
  intro violation h
  rcases Traced.outcome_andThen_eq_error.1 h with h | ⟨a, -, h⟩
  · exact hfirst violation h
  · exact hnext a violation h

namespace Probe

variable {α β : Type} {probe other : Probe} {path : String} {paths others : List String}

theorem AgreesOn.append_left (h : probe.AgreesOn other (paths ++ others)) :
    probe.AgreesOn other paths := fun path hmem => h path (List.mem_append_left _ hmem)

theorem AgreesOn.append_right (h : probe.AgreesOn other (paths ++ others)) :
    probe.AgreesOn other others := fun path hmem => h path (List.mem_append_right _ hmem)

/-- The stage looks at no answers but those about the paths, and reports an answer as it is. -/
structure Heeds (stage : Probe → Traced α) (paths : List String) : Prop where
  reports : ∀ probe, (stage probe).Reports probe
  congr : ∀ probe other, probe.AgreesOn other paths → stage other = stage probe

/-- A stage that has no probe looks at no answers. -/
theorem Heeds.const {traced : Traced α} (h : Unasked traced.outcome) :
    Heeds (fun _ => traced) [] :=
  ⟨fun _ => Traced.Reports.of_unasked h, fun _ _ _ => rfl⟩

theorem Heeds.lift {outcome : Except Violation α} (h : Unasked outcome) :
    Heeds (fun _ => Traced.lift outcome) [] := Heeds.const h

theorem Heeds.value (a : α) : Heeds (fun _ => (pure a : Traced α)) [] :=
  Heeds.const (Unasked.ok a)

theorem Heeds.note (occurrence : Occurrence) : Heeds (fun _ => Traced.note occurrence) [] :=
  Heeds.const (Unasked.ok ())

theorem Heeds.refuse {violation : Violation} (h : violation.question? = none) :
    Heeds (fun _ => (Traced.refuse violation : Traced α)) [] := Heeds.const (Unasked.error h)

theorem Heeds.mono {stage : Probe → Traced α} (h : Heeds stage paths) (hsubset : paths ⊆ others) :
    Heeds stage others :=
  ⟨h.reports, fun probe other hagrees =>
    h.congr probe other fun path hmem => hagrees path (hsubset hmem)⟩

theorem Heeds.andThen {first : Probe → Traced α} {next : α → Probe → Traced β}
    (hfirst : Heeds first paths) (hnext : ∀ a, Heeds (next a) others) :
    Heeds (fun probe => (first probe).andThen fun a => next a probe) (paths ++ others) := by
  constructor
  · intro probe
    exact (hfirst.reports probe).andThen fun a => (hnext a).reports probe
  · intro probe other hagrees
    have hrest : (fun a => next a other) = fun a => next a probe := by
      funext a
      exact (hnext a).congr probe other hagrees.append_right
    rw [hfirst.congr probe other hagrees.append_left, hrest]

theorem heeds_ensureSealed (label path : String) :
    Heeds (fun probe => probe.ensureSealed label path) [path] := by
  constructor
  · intro probe violation call hviolation hcall
    rw [ensureSealed_eq] at hviolation ⊢
    split at hviolation
    · rename_i hreadable
      rw [if_pos hreadable]
      split at hviolation
      · rename_i hwritable
        cases hviolation
        cases hcall
        exact ⟨rfl, hwritable⟩
      · cases hviolation
    · rename_i hreadable
      rw [if_neg hreadable]
      cases hviolation
      cases hcall
      exact ⟨rfl, Bool.eq_false_iff.2 hreadable⟩
  · intro probe other hagrees
    obtain ⟨hreadable, hwritable⟩ := hagrees path List.mem_cons_self
    rw [ensureSealed_eq, ensureSealed_eq, hreadable, hwritable]

theorem heeds_ensureAllSealed (label : String) (paths : List String) :
    Heeds (fun probe => probe.ensureAllSealed label paths) paths := by
  induction paths with
  | nil => exact Heeds.value ()
  | cons path rest ih => exact (heeds_ensureSealed label path).andThen fun _ => ih

end Probe

end ClusterLink
