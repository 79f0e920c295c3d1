import ClusterLink.Proofs.Tree
import ClusterLink.Toml.Values

/-!
# Scalars of proper documents

No number of a proper document is without a value. What stands beside a date or time in one table is
not looked at, so a table that passes for one is to hold nothing else.
-/

namespace ClusterLink.Toml

variable {tree : Tree}

theorem areProperItems_eq_all (items : List Tree) : areProperItems items = items.all isProper := by
  induction items with
  | nil => rfl
  | cons item rest ih => rw [areProperItems, ih, List.all_cons]

theorem areProper_eq_all (entries : List (Key × Tree)) :
    areProper entries = entries.all fun entry => isProper entry.2 := by
  induction entries with
  | nil => rfl
  | cons entry rest ih => rw [areProper, ih, List.all_cons]

/-- Every table of a tree that passes for a date or time holds nothing else. -/
inductive MomentsAlone : Tree → Prop
  | scalar {span : Span} {value : Scalar} : MomentsAlone (.scalar span value)
  | list {span : Span} {items : List Tree} (each : ∀ item ∈ items, MomentsAlone item) :
      MomentsAlone (.list span items)
  | moment {span : Span} {key : Key} {value : Tree} (named : key.name = momentName) :
      MomentsAlone (.table span [(key, value)])
  | table {span : Span} {entries : List (Key × Tree)} (unmarked : heldMoment? entries = none)
      (each : ∀ entry ∈ entries, MomentsAlone entry.2) : MomentsAlone (.table span entries)

theorem readable_of_isMomentText (h : isMomentText tree = true) :
    tree.allScalars (· != .unreadable) = true := by
  cases tree with
  | scalar span value => cases value <;> first | rfl | cases h
  | list | table => cases h

theorem readable_of_isProper (halone : MomentsAlone tree) (h : isProper tree = true) :
    tree.allScalars (· != .unreadable) = true := by
  induction halone with
  | @scalar span value => cases value <;> first | rfl | cases h
  | list _ ih =>
      rw [isProper, areProperItems_eq_all, List.all_eq_true] at h
      rw [Tree.allScalars, Tree.allInItems_eq_all, List.all_eq_true]
      exact fun item hitem => ih item hitem (h item hitem)
  | moment hname =>
      simp only [isProper, heldMoment?, if_pos hname] at h
      rw [Tree.allScalars, Tree.allInEntries_eq_all, List.all_eq_true]
      exact List.forall_mem_singleton.2 (readable_of_isMomentText h)
  | table hunmarked _ ih =>
      simp only [isProper, hunmarked, areProper_eq_all, List.all_eq_true] at h
      rw [Tree.allScalars, Tree.allInEntries_eq_all, List.all_eq_true]
      exact fun entry hentry => ih entry hentry (h entry hentry)

end ClusterLink.Toml
