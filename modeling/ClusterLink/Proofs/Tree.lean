import ClusterLink.Tree

/-!
# Texts at a place of a tree

How often a tree has a scalar at a place, and the tree with another text there. Where a place does
not occur, another text at the place changes nothing.
-/

namespace ClusterLink.Tree

/-- What holds of a tree if it holds of the trees in it holds of every tree. -/
@[elab_as_elim]
theorem induct {P : Tree → Prop} (scalar : ∀ span value, P (.scalar span value))
    (list : ∀ span items, (∀ item ∈ items, P item) → P (.list span items))
    (table : ∀ span entries, (∀ entry ∈ entries, P entry.2) → P (.table span entries))
    (tree : Tree) : P tree :=
  @Tree.rec P (fun items => ∀ item ∈ items, P item) (fun entries => ∀ entry ∈ entries, P entry.2)
    (fun entry => P entry.2) scalar list table (List.forall_mem_nil _)
    (fun _ _ hitem hitems => List.forall_mem_cons.2 ⟨hitem, hitems⟩) (List.forall_mem_nil _)
    (fun _ _ hentry hentries => List.forall_mem_cons.2 ⟨hentry, hentries⟩) (fun _ _ h => h) tree

section Tests

variable {test : Scalar → Bool}

theorem allInItems_eq_all (items : List Tree) :
    allInItems test items = items.all (·.allScalars test) := by
  induction items with
  | nil => rfl
  | cons item rest ih => rw [allInItems, ih, List.all_cons]

theorem allInEntries_eq_all (entries : List (Key × Tree)) :
    allInEntries test entries = entries.all (·.2.allScalars test) := by
  induction entries with
  | nil => rfl
  | cons entry rest ih => rw [allInEntries, ih, List.all_cons]

end Tests

variable {place : Span} {value : String}

mutual

/-- How often a place is the place of a scalar of a tree. -/
def countAt (place : Span) : Tree → Nat
  | scalar span _ => if span = place then 1 else 0
  | list _ items => countInItems place items
  | table _ entries => countInEntries place entries

def countInItems (place : Span) : List Tree → Nat
  | [] => 0
  | item :: rest => item.countAt place + countInItems place rest

def countInEntries (place : Span) : List (Key × Tree) → Nat
  | [] => 0
  | (_, tree) :: rest => tree.countAt place + countInEntries place rest

end

mutual

def respell (place : Span) (value : String) : Tree → Tree
  | scalar span (.text old) => scalar span (.text (if span = place then value else old))
  | scalar span other => scalar span other
  | list span items => list span (respellItems place value items)
  | table span entries => table span (respellEntries place value entries)

def respellItems (place : Span) (value : String) : List Tree → List Tree
  | [] => []
  | item :: rest => item.respell place value :: respellItems place value rest

def respellEntries (place : Span) (value : String) : List (Key × Tree) → List (Key × Tree)
  | [] => []
  | (key, tree) :: rest => (key, tree.respell place value) :: respellEntries place value rest

end

theorem countInItems_eq_zero_iff {items : List Tree} :
    countInItems place items = 0 ↔ ∀ item ∈ items, item.countAt place = 0 := by
  induction items with
  | nil => simp [countInItems]
  | cons item rest ih => rw [countInItems, Nat.add_eq_zero_iff, ih, List.forall_mem_cons]

theorem countInItems_append (items others : List Tree) :
    countInItems place (items ++ others) =
      countInItems place items + countInItems place others := by
  induction items with
  | nil => rw [List.nil_append, countInItems, Nat.zero_add]
  | cons item rest ih => rw [List.cons_append, countInItems, countInItems, ih, Nat.add_assoc]

theorem countInEntries_eq_zero_iff {entries : List (Key × Tree)} :
    countInEntries place entries = 0 ↔ ∀ entry ∈ entries, entry.2.countAt place = 0 := by
  induction entries with
  | nil => simp [countInEntries]
  | cons entry rest ih => rw [countInEntries, Nat.add_eq_zero_iff, ih, List.forall_mem_cons]

theorem countAt_scalar (place : Span) (value : Scalar) : (scalar place value).countAt place = 1 :=
  if_pos rfl

/-- What occurs in an entry occurs in the table. -/
theorem countInEntries_ne_zero {entries : List (Key × Tree)} {entry : Key × Tree}
    (hmem : entry ∈ entries) (h : entry.2.countAt place ≠ 0) : countInEntries place entries ≠ 0 :=
  fun hnone => h (countInEntries_eq_zero_iff.1 hnone entry hmem)

theorem respellItems_eq_map (items : List Tree) :
    respellItems place value items = items.map (respell place value) := by
  induction items with
  | nil => rfl
  | cons item rest ih => rw [respellItems, ih, List.map_cons]

theorem respellEntries_eq_map (entries : List (Key × Tree)) :
    respellEntries place value entries =
      entries.map fun entry => (entry.1, entry.2.respell place value) := by
  induction entries with
  | nil => rfl
  | cons entry rest ih => rw [respellEntries, ih, List.map_cons]

theorem respell_eq_self {tree : Tree} (h : tree.countAt place = 0) :
    tree.respell place value = tree := by
  induction tree using Tree.induct with
  | scalar span found =>
      have hspan : span ≠ place := fun hspan => by simp [countAt, hspan] at h
      cases found <;> simp [respell, hspan]
  | list span items ih =>
      rw [countAt, countInItems_eq_zero_iff] at h
      rw [respell, respellItems_eq_map]
      have hitems : items.map (respell place value) = items :=
        (List.map_congr_left fun item hmem => ih item hmem (h item hmem)).trans (List.map_id items)
      rw [hitems]
  | table span entries ih =>
      rw [countAt, countInEntries_eq_zero_iff] at h
      rw [respell, respellEntries_eq_map]
      have hentries : (entries.map fun entry => (entry.1, entry.2.respell place value)) = entries :=
        (List.map_congr_left fun entry hmem => by rw [ih entry hmem (h entry hmem)]; rfl).trans
          (List.map_id entries)
      rw [hentries]

theorem respellEntries_eq_self {entries : List (Key × Tree)}
    (h : countInEntries place entries = 0) : respellEntries place value entries = entries := by
  have htable := @respell_eq_self place value (.table default entries) h
  rw [respell] at htable
  exact (Tree.table.inj htable).2

theorem countInEntries_append (entries others : List (Key × Tree)) :
    countInEntries place (entries ++ others) =
      countInEntries place entries + countInEntries place others := by
  induction entries with
  | nil => rw [List.nil_append, countInEntries, Nat.zero_add]
  | cons entry rest ih =>
      rw [List.cons_append, countInEntries, countInEntries, ih, Nat.add_assoc]

/-- A place that occurs once, in the entries before or after none. -/
theorem respellEntries_of_mem (value : String) {entries : List (Key × Tree)} {entry : Key × Tree}
    (hmem : entry ∈ entries) (hentry : entry.2.countAt place ≠ 0)
    (hone : countInEntries place entries = 1) :
    entry.2.countAt place = 1 ∧ ∃ before after, entries = before ++ entry :: after ∧
      respellEntries place value entries =
        before ++ (entry.1, entry.2.respell place value) :: after := by
  obtain ⟨before, after, rfl⟩ := List.append_of_mem hmem
  rw [countInEntries_append, countInEntries] at hone
  refine ⟨by omega, before, after, rfl, ?_⟩
  have hbefore := @respellEntries_eq_self place value before (by omega)
  have hafter := @respellEntries_eq_self place value after (by omega)
  rw [respellEntries_eq_map] at hbefore hafter
  rw [respellEntries_eq_map, List.map_append, List.map_cons, hbefore, hafter]

/-- What holds of all texts or of none does not depend on the text at a place. -/
theorem allScalars_respell {test : Scalar → Bool}
    (htest : ∀ value other, test (.text value) = test (.text other)) (tree : Tree) :
    (tree.respell place value).allScalars test = tree.allScalars test := by
  induction tree using Tree.induct with
  | scalar span found =>
      cases found with
      | text old => exact htest _ _
      | _ => rfl
  | list span items ih =>
      rw [respell, allScalars, allScalars]
      induction items with
      | nil => rfl
      | cons item rest hrest =>
          obtain ⟨hitem, hitems⟩ := List.forall_mem_cons.1 ih
          rw [respellItems, allInItems, allInItems, hitem, hrest hitems]
  | table span entries ih =>
      rw [respell, allScalars, allScalars]
      induction entries with
      | nil => rfl
      | cons entry rest hrest =>
          obtain ⟨hentry, hentries⟩ := List.forall_mem_cons.1 ih
          rw [respellEntries, allInEntries, allInEntries, hentry, hrest hentries]

end ClusterLink.Tree
