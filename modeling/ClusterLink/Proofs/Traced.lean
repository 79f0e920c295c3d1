import ClusterLink.Journal.Record
import Mathlib.Data.List.Forall2

/-!
# Calculus of traced validation

A chain of stages has a value exactly when every stage has one, and ends with a violation exactly
when its first stage without a value ends with it. The questions about files that a chain asks are
those of its stages, one after the other. A list that is read item by item is read in pairs.
-/

namespace ClusterLink

namespace Traced

variable {α β : Type} {first : Traced α} {next : α → Traced β} {a : α} {b : β}
  {violation : Violation}

@[simp] theorem outcome_note (occurrence : Occurrence) :
    (note occurrence).outcome = .ok () := rfl

@[simp] theorem outcome_refuse (violation : Violation) :
    (refuse violation : Traced α).outcome = .error violation := rfl

@[simp] theorem outcome_lift (outcome : Except Violation α) :
    (lift outcome).outcome = outcome := rfl

@[simp] theorem outcome_andThen_eq_ok :
    (first.andThen next).outcome = .ok b ↔
      ∃ a, first.outcome = .ok a ∧ (next a).outcome = .ok b := by
  unfold andThen
  cases first.outcome <;> simp

@[simp] theorem outcome_andThen_eq_error :
    (first.andThen next).outcome = .error violation ↔
      first.outcome = .error violation ∨
        ∃ a, first.outcome = .ok a ∧ (next a).outcome = .error violation := by
  unfold andThen
  cases first.outcome <;> simp

theorem trail_andThen_of_ok (h : first.outcome = .ok a) :
    (first.andThen next).trail = first.trail ++ (next a).trail := by
  simp [andThen, h]

theorem lift_ok_andThen (a : α) (next : α → Traced β) : (lift (.ok a)).andThen next = next a := rfl

theorem map_eq (change : α → β) (traced : Traced α) :
    change <$> traced = ⟨traced.trail, change <$> traced.outcome⟩ := by
  obtain ⟨trail, outcome⟩ := traced
  change andThen ⟨trail, outcome⟩ (fun a => ⟨[], .ok (change a)⟩) = _
  cases outcome with
  | ok a => rw [andThen_ok, List.append_nil]; rfl
  | error violation => rfl

theorem map_lift (change : α → β) (outcome : Except Violation α) :
    change <$> lift outcome = lift (change <$> outcome) := map_eq change _

instance : LawfulMonad Traced := LawfulMonad.mk' Traced
  (fun traced => by
    rw [map_eq]
    obtain ⟨trail, outcome⟩ := traced
    cases outcome <;> rfl)
  (fun _ _ => rfl)
  (fun first next last => by
    obtain ⟨trail, outcome⟩ := first
    cases outcome with
    | error violation => rfl
    | ok a =>
        simp only [bind_eq, andThen_ok]
        unfold andThen
        cases (next a).outcome <;> simp)

/-! ## Questions about files -/

def probes (traced : Traced α) : List ProbeCall := probesOf traced.trail

@[simp] theorem probes_lift (outcome : Except Violation α) : (lift outcome).probes = [] := rfl

theorem probes_note (occurrence : Occurrence) :
    (note occurrence).probes = occurrence.probe?.toList := by
  cases h : occurrence.probe? <;> simp [probes, probesOf, note, h]

theorem probes_andThen_of_ok (h : first.outcome = .ok a) :
    (first.andThen next).probes = first.probes ++ (next a).probes := by
  simp [probes, probesOf, trail_andThen_of_ok h]

theorem probes_andThen_of_error (h : first.outcome = .error violation) :
    (first.andThen next).probes = first.probes := by
  simp [probes, andThen, h]

/-- After a stage nothing more is asked if nothing is asked in what follows. -/
theorem probes_andThen_of_silent (h : ∀ a, (next a).probes = []) :
    (first.andThen next).probes = first.probes := by
  cases hfirst : first.outcome with
  | ok a => rw [probes_andThen_of_ok hfirst, h a, List.append_nil]
  | error violation => exact probes_andThen_of_error hfirst

end Traced

/-! ## Outcomes of readers -/

section Readers

variable {ε α β : Type} {read : α → Except ε β} {outcome : Except ε α} {wrap : α → β}

@[simp] theorem map_eq_ok_iff {b : β} :
    wrap <$> outcome = .ok b ↔ ∃ a, outcome = .ok a ∧ wrap a = b := by
  cases outcome <;> simp [Functor.map, Except.map]

@[simp] theorem map_eq_error_iff {fault : ε} :
    wrap <$> outcome = .error fault ↔ outcome = .error fault := by
  cases outcome <;> simp [Functor.map, Except.map]

theorem bind_eq_ok {next : α → Except ε β} {b : β} (h : outcome >>= next = .ok b) :
    ∃ a, outcome = .ok a ∧ next a = .ok b := by
  cases outcome with
  | ok a => exact ⟨a, rfl, h⟩
  | error fault => cases h

theorem bind_eq_error {next : α → Except ε β} {fault : ε} (h : outcome >>= next = .error fault) :
    outcome = .error fault ∨ ∃ a, outcome = .ok a ∧ next a = .error fault := by
  cases outcome with
  | ok a => exact .inr ⟨a, rfl, h⟩
  | error other =>
      cases h
      exact .inl rfl

theorem mapM_eq_ok_iff {items : List α} {values : List β} :
    items.mapM read = .ok values ↔
      List.Forall₂ (fun item value => read item = .ok value) items values := by
  induction items generalizing values with
  | nil => cases values <;> simp [pure, Except.pure]
  | cons item rest ih =>
      rw [List.mapM_cons]
      cases values with
      | nil => cases hread : read item <;> cases hrest : rest.mapM read <;>
          simp [bind, Except.bind, pure, Except.pure]
      | cons value others =>
          rw [List.forall₂_cons, ← ih]
          cases hread : read item <;> cases hrest : rest.mapM read <;>
            simp [bind, Except.bind, pure, Except.pure]

theorem mapM_cons_of_error {item : α} {fault : ε} (h : read item = .error fault) (rest : List α) :
    (item :: rest).mapM read = .error fault := by
  rw [List.mapM_cons, h]
  rfl

theorem mapM_cons_of_ok {item : α} {value : β} (h : read item = .ok value) (rest : List α) :
    (item :: rest).mapM read = (value :: ·) <$> rest.mapM read := by
  rw [List.mapM_cons, h]
  cases rest.mapM read <;> rfl

/-- A list is refused because of its first item that is refused. -/
theorem mapM_eq_error_iff {items : List α} {fault : ε} :
    items.mapM read = .error fault ↔
      ∃ before item after, items = before ++ item :: after ∧
        (∀ other ∈ before, ∃ value, read other = .ok value) ∧ read item = .error fault := by
  constructor
  · intro h
    induction items with
    | nil => cases h
    | cons first rest ih =>
        cases hread : read first with
        | error other =>
            rw [mapM_cons_of_error hread] at h
            cases h
            exact ⟨[], first, rest, rfl, List.forall_mem_nil _, hread⟩
        | ok value =>
            rw [mapM_cons_of_ok hread, map_eq_error_iff] at h
            obtain ⟨before, item, after, rfl, hbefore, hitem⟩ := ih h
            exact ⟨first :: before, item, after, rfl,
              List.forall_mem_cons.2 ⟨⟨value, hread⟩, hbefore⟩, hitem⟩
  · rintro ⟨before, item, after, rfl, hbefore, hitem⟩
    induction before with
    | nil => exact mapM_cons_of_error hitem after
    | cons first before ih =>
        obtain ⟨⟨value, hvalue⟩, hrest⟩ := List.forall_mem_cons.1 hbefore
        rw [List.cons_append, mapM_cons_of_ok hvalue, map_eq_error_iff]
        exact ih hrest

theorem mapM_eq_error {items : List α} {fault : ε} (h : items.mapM read = .error fault) :
    ∃ item ∈ items, read item = .error fault := by
  obtain ⟨before, item, after, rfl, -, hitem⟩ := mapM_eq_error_iff.1 h
  exact ⟨item, List.mem_append_right _ List.mem_cons_self, hitem⟩

theorem filterMapM_eq_error {find : α → Except ε (Option β)} {items : List α} {fault : ε}
    (h : items.filterMapM find = .error fault) : ∃ item ∈ items, find item = .error fault := by
  induction items with
  | nil => cases h
  | cons first rest ih =>
      rw [List.filterMapM_cons] at h
      rcases bind_eq_error h with hfirst | ⟨found, -, hrest⟩
      · exact ⟨first, List.mem_cons_self, hfirst⟩
      · have hfault : rest.filterMapM find = .error fault := by
          cases found with
          | none => exact hrest
          | some value => exact map_eq_error_iff.1 ((map_eq_pure_bind _ _).trans hrest)
        obtain ⟨item, hmem, hitem⟩ := ih hfault
        exact ⟨item, List.mem_cons_of_mem first hmem, hitem⟩

theorem exists_mem_of_forall₂ {related : α → β → Prop} {items : List α} {values : List β}
    {value : β} (h : List.Forall₂ related items values) (hmem : value ∈ values) :
    ∃ item ∈ items, related item value := by
  induction h with
  | nil => cases hmem
  | cons hfirst _ ih =>
      rcases List.mem_cons.1 hmem with rfl | hrest
      · exact ⟨_, List.mem_cons_self, hfirst⟩
      · obtain ⟨item, hitem, hrelated⟩ := ih hrest
        exact ⟨item, List.mem_cons_of_mem _ hitem, hrelated⟩

theorem exists_forall₂_of_subset {related : α → β → Prop} {items picked : List α} {values : List β}
    (h : List.Forall₂ related items values) (hsubset : picked ⊆ items) :
    ∃ found, List.Forall₂ related picked found ∧ found ⊆ values := by
  induction picked with
  | nil => exact ⟨[], .nil, List.nil_subset _⟩
  | cons item rest ih =>
      rw [List.cons_subset] at hsubset
      obtain ⟨hmem, hrest⟩ := hsubset
      obtain ⟨value, hvalue, hrelated⟩ := exists_mem_of_forall₂ h.flip hmem
      obtain ⟨found, hfound, hsub⟩ := ih hrest
      exact ⟨value :: found, .cons hrelated hfound, List.cons_subset.2 ⟨hvalue, hsub⟩⟩

theorem map_read_of_forall₂ {items : List α} {values : List β}
    (h : List.Forall₂ (fun item value => read item = .ok value) items values) :
    items.map read = values.map .ok := by
  induction h with
  | nil => rfl
  | cons hfirst _ ih => rw [List.map_cons, List.map_cons, hfirst, ih]

/-- Equal items have equal values, wherever they stand in lists that are read. -/
theorem getElem?_eq_of_forall₂ {items picked : List α} {values found : List β} {i k : Nat}
    (h : List.Forall₂ (fun item value => read item = .ok value) items values)
    (hpicked : List.Forall₂ (fun item value => read item = .ok value) picked found)
    (hsame : picked[k]? = items[i]?) : found[k]? = values[i]? := by
  have hitems : (items.map read)[i]? = (values.map .ok)[i]? := by rw [map_read_of_forall₂ h]
  have hfound : (picked.map read)[k]? = (found.map .ok)[k]? := by rw [map_read_of_forall₂ hpicked]
  rw [List.getElem?_map, List.getElem?_map] at hitems hfound
  rw [hsame, hitems] at hfound
  exact (Option.map_injective (fun _ _ => Except.ok.inj) hfound).symm

end Readers

end ClusterLink
