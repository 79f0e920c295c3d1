import ClusterLink.Access
import ClusterLink.Proofs.Traced

/-!
# Sealed files

A file is sealed if it can be read and not be written. The checks of files accept exactly sealed
files, ask about each file whether it can be read and then whether it can be written, and blame the
first file that is not sealed.
-/

namespace ClusterLink

namespace Probe

def Seals (probe : Probe) (path : String) : Prop :=
  probe.readable path = true ∧ probe.writable path = false

instance (probe : Probe) (path : String) : Decidable (probe.Seals path) :=
  inferInstanceAs (Decidable (_ ∧ _))

def sealing : Probe := ⟨fun _ => true, fun _ => false⟩

def questions (paths : List String) : List ProbeCall :=
  paths.flatMap fun path => [.readable path, .writable path]

variable {probe : Probe} {label path : String} {paths : List String} {violation : Violation}
  {done : Unit}

@[simp] theorem ensureSealed_eq_ok :
    (probe.ensureSealed label path).outcome = .ok done ↔ probe.Seals path := by
  rw [ensureSealed_eq, Seals]
  cases probe.readable path <;> cases probe.writable path <;> simp

theorem ensureSealed_eq_error :
    (probe.ensureSealed label path).outcome = .error violation ↔
      probe.readable path = false ∧ violation = .unreadablePath label path ∨
        probe.readable path = true ∧ probe.writable path = true ∧
          violation = .writablePath label path := by
  rw [ensureSealed_eq]
  cases probe.readable path <;> cases probe.writable path <;> simp [eq_comm]

@[simp] theorem ensureAllSealed_eq_ok :
    (probe.ensureAllSealed label paths).outcome = .ok done ↔ ∀ path ∈ paths, probe.Seals path := by
  induction paths with
  | nil => simp [ensureAllSealed]
  | cons path rest ih => simp [ensureAllSealed, ih]

theorem ensureAllSealed_eq_error
    (h : (probe.ensureAllSealed label paths).outcome = .error violation) :
    ∃ path ∈ paths, (probe.ensureSealed label path).outcome = .error violation := by
  induction paths with
  | nil => simp [ensureAllSealed] at h
  | cons path rest ih =>
      simp only [ensureAllSealed, Traced.bind_eq, Traced.outcome_andThen_eq_error] at h
      rcases h with h | ⟨_, _, h⟩
      · exact ⟨path, List.mem_cons_self, h⟩
      · obtain ⟨found, hmem, hfound⟩ := ih h
        exact ⟨found, List.mem_cons_of_mem _ hmem, hfound⟩

end Probe

namespace Traced

variable {α β : Type} {first : Traced α} {next : α → Traced β} {paths others : List String}

/-- What is asked is asked about these paths in order, and all of it before there is a value. -/
structure Asks (traced : Traced α) (paths : List String) : Prop where
  inOrder : traced.probes <+: Probe.questions paths
  complete : ∀ a, traced.outcome = .ok a → traced.probes = Probe.questions paths

theorem Asks.probes_eq_nil {traced : Traced α} (h : traced.Asks []) : traced.probes = [] :=
  List.prefix_nil.1 h.inOrder

theorem Asks.refuse (violation : Violation) (paths : List String) :
    (refuse violation : Traced α).Asks paths :=
  ⟨List.nil_prefix, fun _ h => by cases h⟩

theorem Asks.lift (outcome : Except Violation α) : (lift outcome).Asks [] :=
  ⟨List.prefix_rfl, fun _ _ => rfl⟩

theorem Asks.value (a : α) : (pure a : Traced α).Asks [] := Asks.lift (.ok a)

/-- What happens without a question asks about nothing. -/
theorem Asks.note (occurrence : Occurrence) (h : occurrence.probe? = none) :
    (note occurrence).Asks [] := by
  have hprobes : (Traced.note occurrence).probes = [] := by simp [probes_note, h]
  exact ⟨hprobes ▸ List.prefix_rfl, fun _ _ => hprobes⟩

/-- Two stages ask about the paths of the first and then about those of the second. -/
theorem Asks.andThen (hfirst : first.Asks paths)
    (hnext : ∀ a, first.outcome = .ok a → (next a).Asks others) :
    (first.andThen next).Asks (paths ++ others) := by
  have hquestions : Probe.questions (paths ++ others) =
      Probe.questions paths ++ Probe.questions others := List.flatMap_append
  cases h : first.outcome with
  | ok a =>
      have hrest := hnext a h
      constructor
      · rw [probes_andThen_of_ok h, hfirst.complete a h, hquestions]
        exact (List.prefix_append_right_inj _).2 hrest.inOrder
      · intro b hb
        obtain ⟨a', ha', hb'⟩ := outcome_andThen_eq_ok.1 hb
        cases h.symm.trans ha'
        rw [probes_andThen_of_ok h, hfirst.complete a h, hquestions, hrest.complete b hb']
  | error violation =>
      -- The second stage never runs, so what is asked is only the start of what could be asked.
      have hstop : first.andThen next = ⟨first.trail, .error violation⟩ := by
        simp [Traced.andThen, h]
      rw [hstop]
      refine ⟨?_, fun _ hb => by cases hb⟩
      rw [hquestions]
      exact hfirst.inOrder.trans (List.prefix_append _ _)

end Traced

namespace Probe

theorem asks_ensureSealed (probe : Probe) (label path : String) :
    (probe.ensureSealed label path).Asks [path] := by
  rw [ensureSealed_eq]
  split
  · exact ⟨List.prefix_rfl, fun _ _ => rfl⟩
  · exact ⟨⟨[.writable path], rfl⟩, fun _ h => by cases h⟩

theorem asks_ensureAllSealed (probe : Probe) (label : String) (paths : List String) :
    (probe.ensureAllSealed label paths).Asks paths := by
  induction paths with
  | nil => exact Traced.Asks.value ()
  | cons path rest ih => exact (probe.asks_ensureSealed label path).andThen fun _ _ => ih

end Probe

end ClusterLink
