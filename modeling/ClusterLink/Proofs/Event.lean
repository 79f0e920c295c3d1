import ClusterLink.Event
import ClusterLink.Proofs.Datum
import Mathlib.Data.List.Basic
import Mathlib.Logic.Function.Iterate

/-!
# Tagged events

Adding tags appends those that an event lacks and leaves everything else as it is. An event that has
been tagged lacks none of the tags, so it does not matter how often a match of it is reported.
-/

namespace ClusterLink.Event

variable {tags : List String} {items : List Datum} {event : Event}

/-- The tags that items do not hold, each once and in the order in which they are named first. -/
def unlisted (items : List Datum) (tags : List String) : List String :=
  (tags.filter fun tag => tag ∉ items.filterMap Datum.asText?).eraseDups

def withTags (tags : List String) (items : List Datum) : List Datum :=
  tags.foldl (fun items tag => withTag tag items) items

/-! ## Items -/

theorem withTag_eq (tag : String) (items : List Datum) :
    withTag tag items =
      if tag ∈ items.filterMap Datum.asText? then items else items ++ [.text tag] := by
  simp [withTag]

theorem unlisted_cons_of_mem {tag : String} (h : tag ∈ items.filterMap Datum.asText?)
    (tags : List String) : unlisted items (tag :: tags) = unlisted items tags := by
  rw [unlisted, List.filter_cons_of_neg (by simpa using h), unlisted]

/-- A tag that is not held yet comes first, and is held once it is there. -/
theorem unlisted_cons_of_not_mem {tag : String} (h : tag ∉ items.filterMap Datum.asText?)
    (tags : List String) :
    unlisted items (tag :: tags) = tag :: unlisted (items ++ [.text tag]) tags := by
  rw [unlisted, List.filter_cons_of_pos (by simpa using h), List.eraseDups_cons, List.filter_filter,
    unlisted]
  congr 3
  funext other
  simp [Datum.asText?, Bool.and_comm, Bool.beq_eq_decide_eq]

/-- Adding tags appends those that are not held yet. -/
theorem withTags_eq (tags : List String) (items : List Datum) :
    withTags tags items = items ++ (unlisted items tags).map .text := by
  induction tags generalizing items with
  | nil => simp [withTags, unlisted]
  | cons tag rest ih =>
      have hstep : withTags (tag :: rest) items = withTags rest (withTag tag items) := rfl
      rw [hstep, withTag_eq]
      split
      · rename_i hmem
        rw [ih, unlisted_cons_of_mem hmem]
      · rename_i hmem
        rw [ih, unlisted_cons_of_not_mem hmem, List.append_assoc]
        rfl

theorem filterMap_asText?_withTags (tags : List String) (items : List Datum) :
    (withTags tags items).filterMap Datum.asText? =
      items.filterMap Datum.asText? ++ unlisted items tags := by
  have htexts : ∀ texts : List String, (texts.map Datum.text).filterMap Datum.asText? = texts := by
    intro texts
    simp [List.filterMap_map, Function.comp_def, Datum.asText?]
  rw [withTags_eq, List.filterMap_append, htexts]

theorem unlisted_withTags (tags : List String) (items : List Datum) :
    unlisted (withTags tags items) tags = [] := by
  have hheld : ∀ tag ∈ tags, tag ∈ (withTags tags items).filterMap Datum.asText? := by
    intro tag hmem
    rw [filterMap_asText?_withTags, List.mem_append]
    by_cases hknown : tag ∈ items.filterMap Datum.asText?
    · exact .inl hknown
    · exact .inr (List.mem_eraseDups.2 (List.mem_filter.2 ⟨hmem, by simpa using hknown⟩))
  rw [unlisted, List.filter_eq_nil_iff.2 (fun tag hmem => by simpa using hheld tag hmem)]
  rfl

/-- Items that hold all of the tags stay as they are. -/
theorem withTags_withTags (tags : List String) (items : List Datum) :
    withTags tags (withTags tags items) = withTags tags items := by
  rw [withTags_eq tags (withTags tags items), unlisted_withTags]
  simp

/-! ## Events -/

theorem set_set (event : Event) (field : String) (value last : Datum) :
    (event.set field value).set field last = event.set field last := by
  rw [set, set, Members.put_put]
  rfl

theorem tagItems_of_list (h : event.get? tagsField = some (.list items)) :
    event.tagItems = items := by
  rw [tagItems, h]

theorem addTags_set (tags : List String) (items : List Datum) (event : Event) :
    addTags tags (event.set tagsField (.list items)) =
      event.set tagsField (.list (withTags tags items)) := by
  induction tags generalizing items with
  | nil => rfl
  | cons tag rest ih =>
      have hstep : addTag tag (event.set tagsField (.list items)) =
          event.set tagsField (.list (withTag tag items)) := by
        rw [addTag, tagItems_of_list (get?_set_self event tagsField _), set_set]
      have hfold : addTags (tag :: rest) (event.set tagsField (.list items)) =
          addTags rest (addTag tag (event.set tagsField (.list items))) := rfl
      rw [hfold, hstep, ih]
      rfl

/-- However many tags are added, the field is set once. -/
theorem addTags_of_ne_nil (h : tags ≠ []) (event : Event) :
    addTags tags event = event.set tagsField (.list (withTags tags event.tagItems)) := by
  obtain ⟨tag, rest, rfl⟩ := List.exists_cons_of_ne_nil h
  exact addTags_set rest (withTag tag event.tagItems) event

theorem addTags_addTags (tags : List String) (event : Event) :
    addTags tags (addTags tags event) = addTags tags event := by
  by_cases hempty : tags = []
  · subst hempty
    rfl
  · rw [addTags_of_ne_nil hempty event, addTags_set, withTags_withTags]

/-- The listener may be called any number of times; from the second call on nothing happens. -/
theorem iterate_addTags {calls : Nat} (h : 0 < calls) (tags : List String) (event : Event) :
    (addTags tags)^[calls] event = addTags tags event := by
  obtain ⟨more, rfl⟩ := Nat.exists_eq_succ_of_ne_zero h.ne'
  rw [Function.iterate_succ_apply, Function.iterate_fixed (addTags_addTags tags event)]

/-! ## What is added -/

def lacking (event : Event) (tags : List String) : List String :=
  (tags.filter fun tag => tag ∉ event.tags).eraseDups

/-- The second event is the first one with the tags that it lacked, appended to those it had. -/
structure Gains (tags : List String) (event after : Event) : Prop where
  id_eq : after.id = event.id
  others_eq : Members.without tagsField after.fields = Members.without tagsField event.fields
  tags_eq : after.tags = event.tags ++ event.lacking tags
  list_eq : ∀ items, event.get? tagsField = some (.list items) →
    after.get? tagsField = some (.list (items ++ (event.lacking tags).map .text))

theorem gains_addTags (tags : List String) (event : Event) :
    Gains tags event (addTags tags event) := by
  by_cases hempty : tags = []
  · subst hempty
    exact ⟨rfl, rfl, by simp [addTags, lacking], by simp [addTags, lacking]⟩
  · rw [addTags_of_ne_nil hempty]
    constructor
    case id_eq => rfl
    case others_eq => exact Members.without_put tagsField _ event.fields
    case tags_eq =>
      rw [Event.tags, tagItems_of_list (get?_set_self event tagsField _),
        filterMap_asText?_withTags]
      rfl
    case list_eq =>
      intro items hitems
      rw [get?_set_self, withTags_eq, ← tagItems_of_list hitems]
      rfl

/-- One tag is put after all others, or is there already. -/
theorem tags_addTag (tag : String) (event : Event) :
    (event.addTag tag).tags = if tag ∈ event.tags then event.tags else event.tags ++ [tag] := by
  rw [Event.tags, addTag, tagItems_of_list (get?_set_self event tagsField _), withTag_eq,
    Event.tags]
  split <;> simp [Datum.asText?]

/--
However often a match is reported, the event gains the tags that it lacked, once and at the end, and
reporting the match again changes nothing.
-/
theorem gains_of_matched {calls : Nat} (h : 0 < calls) (tags : List String) (event : Event) :
    Gains tags event ((addTags tags)^[calls] event) ∧
      (∀ more,
        (addTags tags)^[more] ((addTags tags)^[calls] event) = (addTags tags)^[calls] event) ∧
      ∀ tag, (event.addTag tag).tags =
        if tag ∈ event.tags then event.tags else event.tags ++ [tag] := by
  rw [iterate_addTags h]
  refine ⟨gains_addTags tags event, fun more => ?_, fun tag => tags_addTag tag event⟩
  exact Function.iterate_fixed (addTags_addTags tags event) more

def mixedTags : Event where
  id := "e1"
  fields := [("message", .text "m"),
    ("tags", .list [.text "a", .float (.ofDecimal false 15 (-1)), .integer 5, .text "a"])]

theorem gains_mixedTags :
    let items := [.text "a", .float (.ofDecimal false 15 (-1)), .integer 5, .text "a"]
    let matched := (addTags ["1.5", "a", "1.5", "5"])^[3] mixedTags
    mixedTags.tags = ["a", "a"] ∧ matched.tags = ["a", "a", "1.5", "5"] ∧
      matched.get? tagsField = some (.list (items ++ [.text "1.5", .text "5"])) ∧
      (addTags ["1.5", "a", "1.5", "5"])^[2] matched = matched := by
  intro items matched
  have htags : mixedTags.tags = ["a", "a"] := rfl
  have hlacking : mixedTags.lacking ["1.5", "a", "1.5", "5"] = ["1.5", "5"] := by
    rw [lacking, htags]
    decide +kernel
  have hcalled : 0 < 3 := by decide
  obtain ⟨hgains, hstays, -⟩ := gains_of_matched hcalled ["1.5", "a", "1.5", "5"] mixedTags
  refine ⟨htags, ?_, ?_, hstays 2⟩
  · rw [hgains.tags_eq, hlacking, htags]
    rfl
  · rw [hgains.list_eq items rfl, hlacking]
    rfl

end ClusterLink.Event
