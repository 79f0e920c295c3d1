import ClusterLink.Datum
import Mathlib.Data.List.Induction
import Mathlib.Data.List.Nodup
import Mathlib.Data.String.Basic
import Mathlib.Tactic.SplitIfs

/-!
# Members of records

Putting a member into a record replaces the one with its key and leaves all others alone. As long as
no key is there twice, the order in which members are put in does not matter, and each of them
stays. The members of a record that are there are those of a record without missing ones.
-/

namespace ClusterLink

namespace Members

variable {key other : String} {members pairs others : List (String × Datum)}

theorem put_put (key : String) (value last : Datum) (members : Members) :
    put key last (put key value members) = put key last members := by
  induction members with
  | nil => simp [put]
  | cons member rest ih =>
      simp only [put]
      split_ifs <;> simp [put, *]

/-- Putting a member in leaves all others as they are, in their order. -/
theorem without_put (key : String) (value : Datum) (members : Members) :
    without key (put key value members) = without key members := by
  induction members with
  | nil => simp [put, without]
  | cons member rest ih =>
      simp only [put]
      split_ifs <;> simp [without, *]

theorem put_comm (h : key ≠ other) (value last : Datum) (members : Members) :
    put other last (put key value members) = put key value (put other last members) := by
  induction members with
  | nil =>
      rcases lt_or_gt_of_ne h with hbefore | hafter
      · simp [put, h, h.symm, hbefore, hbefore.not_gt]
      · simp [put, h, h.symm, hafter, hafter.not_gt]
  | cons member rest ih =>
      simp only [put]
      split_ifs <;> grind [put]

theorem put_perm (h : ∀ member ∈ members, member.1 ≠ key) (value : Datum) :
    (put key value members).Perm ((key, value) :: members) := by
  induction members with
  | nil => exact .refl _
  | cons member rest ih =>
      obtain ⟨hne, hrest⟩ := List.forall_mem_cons.1 h
      rw [put, if_neg hne]
      split
      · exact .refl _
      · exact ((ih hrest).cons member).trans (.swap _ _ _)

/-- The order of the pairs does not matter if their keys are distinct. -/
theorem ofPairs_eq_of_perm (hperm : pairs.Perm others) (hdistinct : (pairs.map Prod.fst).Nodup) :
    ofPairs pairs = ofPairs others := by
  refine hperm.foldl_eq' (fun pair hpair last hlast members => ?_) []
  by_cases hsame : pair.1 = last.1
  · rw [List.inj_on_of_nodup_map hdistinct hpair hlast hsame]
  · exact put_comm hsame _ _ _

/-- Every pair stays if the keys are distinct. -/
theorem ofPairs_perm (hdistinct : (pairs.map Prod.fst).Nodup) : (ofPairs pairs).Perm pairs := by
  induction pairs using List.reverseRecOn with
  | nil => exact .refl _
  | append_singleton pairs last ih =>
      rw [List.map_append, List.nodup_append] at hdistinct
      obtain ⟨hpairs, -, hlast⟩ := hdistinct
      have hstay := ih hpairs
      have hnew : ∀ member ∈ ofPairs pairs, member.1 ≠ last.1 := fun member hmember =>
        hlast _ (List.mem_map_of_mem (hstay.mem_iff.1 hmember)) _ (List.mem_singleton.2 rfl)
      have hput : ofPairs (pairs ++ [last]) = put last.1 last.2 (ofPairs pairs) := by
        rw [ofPairs, List.foldl_append]
        rfl
      rw [hput]
      have hfront : (last :: ofPairs pairs).Perm (pairs ++ [last]) :=
        (hstay.cons last).trans (List.perm_append_singleton _ _).symm
      exact (put_perm hnew last.2).trans hfront

theorem get?_of_mem {value : Datum} (hdistinct : (members.map Prod.fst).Nodup)
    (hmem : (key, value) ∈ members) : get? key members = some value := by
  induction members with
  | nil => cases hmem
  | cons member rest ih =>
      rw [List.map_cons, List.nodup_cons] at hdistinct
      rw [get?]
      rcases List.mem_cons.1 hmem with rfl | hrest
      · exact if_pos rfl
      · have hne : member.1 ≠ key := fun h => hdistinct.1 (h ▸ List.mem_map_of_mem hrest)
        rw [if_neg hne, ih hdistinct.2 hrest]

theorem get?_ofPairs {value : Datum} (hdistinct : (pairs.map Prod.fst).Nodup)
    (hmem : (key, value) ∈ pairs) : get? key (ofPairs pairs) = some value := by
  have hperm := ofPairs_perm hdistinct
  exact get?_of_mem ((hperm.map Prod.fst).nodup_iff.2 hdistinct) (hperm.mem_iff.2 hmem)

end Members

namespace Datum

def isPresent : Datum → Bool
  | null => false
  | _ => true

mutual

def present : Datum → Datum
  | record members => record (presentMembers members)
  | other => other

def presentMembers : List (String × Datum) → List (String × Datum)
  | [] => []
  | (key, value) :: rest =>
      if value.isPresent then (key, value.present) :: presentMembers rest else presentMembers rest

end

/-- A value with those members of its records that are there, in the order of keys. -/
def settled (datum : Datum) : Datum := datum.present.sorted

theorem sortedMembers_eq_map (members : List (String × Datum)) :
    sortedMembers members = members.map fun member => (member.1, member.2.sorted) := by
  induction members with
  | nil => rfl
  | cons member rest ih => rw [sortedMembers, ih, List.map_cons]

/-- Sorting keeps what stands under a name, with its own members sorted. -/
theorem get?_sorted {name : String} {value : Datum} {members : List (String × Datum)}
    (hdistinct : (members.map Prod.fst).Nodup) (hmem : (name, value) ∈ members) :
    Members.get? name (Members.ofPairs (sortedMembers members)) = some value.sorted := by
  rw [sortedMembers_eq_map]
  refine Members.get?_ofPairs ?_ (List.mem_map.2 ⟨(name, value), hmem, rfl⟩)
  rwa [List.map_map]

theorem sortedMembers_presentMembers (members : List (String × Datum)) :
    sortedMembers (presentMembers members) =
      (members.filter (·.2.isPresent)).map fun member => (member.1, member.2.settled) := by
  induction members with
  | nil => rfl
  | cons member rest ih =>
      obtain ⟨key, value⟩ := member
      rw [presentMembers, List.filter_cons]
      split
      · rw [sortedMembers, ih]
        rfl
      · exact ih

theorem settled_record (members : List (String × Datum)) :
    (record members).settled = record (Members.ofPairs
      ((members.filter (·.2.isPresent)).map fun member => (member.1, member.2.settled))) := by
  rw [settled, present, sorted, sortedMembers_presentMembers]

end Datum

end ClusterLink
