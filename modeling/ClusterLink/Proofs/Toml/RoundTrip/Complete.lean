import ClusterLink.Proofs.Toml.RoundTrip.Documents

/-!
# Records without missing members

A record that nothing is missing from is never refused, and what is written of it is read back as
the record itself, with its members in the order of their names.
-/

namespace ClusterLink

open Toml

/-- Nothing is missing from a value, down to `depth` levels of records. -/
inductive Datum.Complete : Nat → Datum → Prop
  | plain {depth : Nat} {datum : Datum} (plain : datum.Plain maxDepth) : Complete depth datum
  | record {depth : Nat} {members : List (String × Datum)}
      (distinct : (members.map Prod.fst).Nodup)
      (each : ∀ member ∈ members, Complete depth member.2) :
      Complete (depth + 1) (.record members)

variable {depth : Nat} {datum : Datum} {members : List (String × Datum)}

namespace Datum

theorem Complete.expressible (h : datum.Complete depth) : datum.Expressible depth := by
  induction h with
  | plain hplain => exact .plain hplain
  | record hdistinct _ ih => exact .record hdistinct ih

theorem Complete.isPresent (h : datum.Complete depth) : datum.isPresent = true := by
  cases h with
  | plain hplain => cases hplain <;> rfl
  | record => rfl

theorem presentMembers_eq (hpresent : ∀ member ∈ members, member.2.isPresent = true)
    (heach : ∀ member ∈ members, member.2.present = member.2) :
    presentMembers members = members := by
  induction members with
  | nil => rfl
  | cons member rest ih =>
      obtain ⟨hfirst, hrest⟩ := List.forall_mem_cons.1 hpresent
      obtain ⟨hsame, hothers⟩ := List.forall_mem_cons.1 heach
      rw [presentMembers, if_pos hfirst, hsame, ih hrest hothers]

theorem Complete.present_eq (h : datum.Complete depth) : datum.present = datum := by
  induction h with
  | plain hplain => cases hplain <;> rfl
  | record _ heach ih =>
      rw [present, presentMembers_eq (fun member hmember => (heach member hmember).isPresent) ih]

theorem Complete.settled_eq (h : datum.Complete depth) : datum.settled = datum.sorted := by
  rw [settled, h.present_eq]

end Datum

namespace Toml

theorem itemsFault?_eq_none {items : List Datum} (h : ∀ item ∈ items, fault? item = none) :
    itemsFault? items = none := by
  induction items with
  | nil => rfl
  | cons item rest ih =>
      obtain ⟨hitem, hrest⟩ := List.forall_mem_cons.1 h
      rw [itemsFault?, hitem, ih hrest]
      rfl

theorem membersFault?_eq_none
    (h : ∀ member ∈ members, member.2.isPresent = true → fault? member.2 = none) :
    membersFault? members = none := by
  induction members with
  | nil => rfl
  | cons member rest ih =>
      obtain ⟨hmember, hrest⟩ := List.forall_mem_cons.1 h
      obtain ⟨name, value⟩ := member
      cases value with
      | null => exact ih hrest
      | boolean | integer | float | text | list | record =>
          rw [membersFault?, hmember rfl, ih hrest]
          · rfl
          · nofun

theorem fault?_of_plain (h : datum.Plain depth) : fault? datum = none := by
  induction h with
  | text | boolean => rfl
  | list _ ih => exact itemsFault?_eq_none ih

theorem fault?_of_expressible (h : datum.Expressible depth) (hpresent : datum.isPresent = true) :
    fault? datum = none := by
  induction h with
  | missing => cases hpresent
  | plain hplain => exact fault?_of_plain hplain
  | record _ _ ih => exact membersFault?_eq_none ih

theorem tryWrite_eq (layout : ListLayout) (h : (Datum.record members).Expressible depth) :
    tryWrite layout members = .ok (write layout members) := by
  have hfault : membersFault? members = none := fault?_of_expressible h rfl
  rw [tryWrite, hfault]

/-- A complete record is written, and read back with its members in the order of their names. -/
theorem document?_tryWrite (layout : ListLayout)
    (h : (Datum.record members).Complete (maxDepth + 1)) :
    ∃ written document, tryWrite layout members = .ok written ∧
      document? written.toList = some document ∧
      ∀ span, (Tree.table span document).Holds (Datum.record members).sorted := by
  obtain ⟨document, hdocument, -⟩ := document?_write layout h.expressible default
  refine ⟨_, document, tryWrite_eq layout h.expressible, hdocument, fun span => ?_⟩
  obtain ⟨other, hother, hholds⟩ := document?_write layout h.expressible span
  cases hdocument.symm.trans hother
  rwa [h.settled_eq] at hholds

end Toml

end ClusterLink
