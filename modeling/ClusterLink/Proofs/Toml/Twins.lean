import ClusterLink.Proofs.Toml.Inversion

/-!
# Twins

A reading takes up the start of a text and looks at no more of what it leaves than where the next
quote is. So what it leaves may be exchanged for a twin: a text that is the same up to a quote, goes
on with as many quotes and is equally long. The reading finds the same and leaves the twin.
-/

namespace ClusterLink.Toml

/-! ## Twins -/

/-- Texts of one length that start with a quote, and with equally many of them. -/
structure SameOpening (text other : List Char) : Prop where
  length : text.length = other.length
  quote : ∃ quote, (quote = '"' ∨ quote = '\'') ∧ text.head? = some quote ∧
    other.head? = some quote
  run : ∀ c, (text.takeWhile (· == c)).length = (other.takeWhile (· == c)).length

/-- Texts that are the same up to a point from where on they have the same opening. -/
inductive Twins : List Char → List Char → Prop
  | opening {text other : List Char} (same : SameOpening text other) : Twins text other
  | cons {text other : List Char} (c : Char) (twins : Twins text other) :
      Twins (c :: text) (c :: other)

namespace Twins

variable {text other : List Char} {c : Char}

theorem symm (h : Twins text other) : Twins other text := by
  induction h with
  | opening hsame =>
      obtain ⟨quote, hquote, htext, hother⟩ := hsame.quote
      exact .opening
        ⟨hsame.length.symm, ⟨quote, hquote, hother, htext⟩, fun c => (hsame.run c).symm⟩
  | cons c _ ih => exact .cons c ih

theorem append (before : List Char) (h : Twins text other) :
    Twins (before ++ text) (before ++ other) := by
  induction before with
  | nil => exact h
  | cons c rest ih => exact .cons c ih

theorem length (h : Twins text other) : text.length = other.length := by
  induction h with
  | opening hsame => exact hsame.length
  | cons c _ ih => rw [List.length_cons, List.length_cons, ih]

theorem head? (h : Twins text other) : text.head? = other.head? := by
  cases h with
  | opening hsame =>
      obtain ⟨quote, _, htext, hother⟩ := hsame.quote
      rw [htext, hother]
  | cons => rfl

theorem run (h : Twins text other) (c : Char) :
    (text.takeWhile (· == c)).length = (other.takeWhile (· == c)).length := by
  induction h with
  | opening hsame => exact hsame.run c
  | cons first _ ih =>
      rw [List.takeWhile_cons, List.takeWhile_cons]
      split
      · rw [List.length_cons, List.length_cons, ih]
      · rfl

theorem dropGap (h : Twins text other) : Twins (dropGap text) (dropGap other) := by
  induction h with
  | opening hsame =>
      obtain ⟨quote, hquote, htext, hother⟩ := hsame.quote
      obtain ⟨_, rfl⟩ := List.head?_eq_some_iff.1 htext
      obtain ⟨_, rfl⟩ := List.head?_eq_some_iff.1 hother
      have hstays : ¬ isGap quote = true := by rcases hquote with rfl | rfl <;> decide
      rw [Toml.dropGap, Toml.dropGap, List.dropWhile_cons_of_neg hstays,
        List.dropWhile_cons_of_neg hstays]
      exact .opening hsame
  | cons c htwins ih =>
      rw [Toml.dropGap, Toml.dropGap, List.dropWhile_cons, List.dropWhile_cons]
      split
      · exact ih
      · exact .cons c htwins

/-- A text whose twin starts with two equal characters starts with them too. -/
theorem doubled {left : List Char} (h : Twins text (c :: c :: left)) :
    ∃ rest, text = c :: c :: rest := by
  obtain ⟨after, rfl⟩ := List.head?_eq_some_iff.1 h.head?
  have hrun := h.run c
  cases after with
  | nil => simp at hrun
  | cons d rest =>
      by_cases hd : d = c
      · exact ⟨rest, by rw [hd]⟩
      · simp [hd] at hrun

/-- A twin of a text that starts with no quote starts with the same character. -/
theorem cases_cons (h : Twins (c :: text) other) (hbasic : c ≠ '"') (hliteral : c ≠ '\'') :
    ∃ rest, other = c :: rest ∧ Twins text rest := by
  cases h with
  | opening hsame =>
      obtain ⟨quote, hquote, htext, _⟩ := hsame.quote
      cases htext
      rcases hquote with rfl | rfl
      · exact absurd rfl hbasic
      · exact absurd rfl hliteral
  | cons _ htwins => exact ⟨_, rfl, htwins⟩

end Twins

/--
A step from a text to what it leaves, and what holds of the step again, whenever a twin of what is
left stands in its place.
-/
def Passes (text rest : List Char) (Again : List Char → List Char → Prop) : Prop :=
  ∃ taken, text = taken ++ rest ∧ ∀ {other}, Twins rest other → Again (taken ++ other) other

namespace Passes

variable {text middle rest : List Char} {First Second Again : List Char → List Char → Prop}

theorem length_le (h : Passes text rest Again) : rest.length ≤ text.length := by
  obtain ⟨taken, rfl, -⟩ := h
  exact List.length_append ▸ Nat.le_add_left _ _

theorem trans (h : Passes text middle First) (hnext : Passes middle rest Second) :
    Passes text rest fun text rest => ∃ middle, First text middle ∧ Second middle rest := by
  obtain ⟨taken, rfl, hagain⟩ := h
  obtain ⟨more, rfl, hmore⟩ := hnext
  refine ⟨taken ++ more, (List.append_assoc ..).symm, fun {other} htwins => ?_⟩
  rw [List.append_assoc]
  exact ⟨more ++ other, hagain (htwins.append more), hmore htwins⟩

theorem imp (h : Passes text rest First)
    (himp : ∀ {taken other}, text = taken ++ rest → other.length = rest.length →
      First (taken ++ other) other → Again (taken ++ other) other) :
    Passes text rest Again := by
  obtain ⟨taken, htext, hagain⟩ := h
  exact ⟨taken, htext, fun htwins => himp htext htwins.length.symm (hagain htwins)⟩

/-- Nothing is a twin of the empty text. -/
theorem nil (text : List Char) : Passes text [] Again := by
  refine ⟨text, (List.append_nil text).symm, fun htwins => ?_⟩
  cases htwins with
  | opening hsame =>
      obtain ⟨_, _, hhead, _⟩ := hsame.quote
      cases hhead

theorem sized (h : Passes text rest Again) :
    Passes text rest fun other left => other.length = text.length ∧ Again other left :=
  h.imp fun htext hlength hagain => ⟨by rw [htext, List.length_append, List.length_append, hlength],
    hagain⟩

theorem look {Seen : List Char → Prop} (h : ∀ {other}, Twins text other → Seen other) :
    Passes text text fun text rest => text = rest ∧ Seen rest :=
  ⟨[], rfl, fun htwins => ⟨rfl, h htwins⟩⟩

theorem cons (c : Char) (rest : List Char) :
    Passes (c :: rest) rest fun text rest => text = c :: rest :=
  ⟨[c], rfl, fun _ => rfl⟩

theorem dropWhile (p : Char → Bool) (text : List Char) :
    Passes text (text.dropWhile p) fun other rest =>
      other.takeWhile p = text.takeWhile p ∧ other.dropWhile p = rest := by
  induction text with
  | nil => exact nil []
  | cons c rest ih =>
      by_cases hc : p c = true
      · obtain ⟨taken, htext, hagain⟩ := ih
        rw [List.dropWhile_cons_of_pos hc]
        exact ⟨c :: taken, congrArg (c :: ·) htext, fun htwins => by simp [hc, hagain htwins]⟩
      · rw [List.dropWhile_cons_of_neg hc]
        refine ⟨[], rfl, fun {other} htwins => ?_⟩
        obtain ⟨more, rfl⟩ := List.head?_eq_some_iff.1 htwins.head?.symm
        simp [hc]

end Passes

/-- A reading that finds the same whenever a twin of what it leaves stands in its place. -/
abbrev Steady {α : Type} (read : Reader α) : Prop :=
  ∀ {text item rest}, read text = some (item, rest) →
    Passes text rest fun text rest => read text = some (item, rest)

/-- A step that leaves a twin whenever a twin of what it leaves stands in its place. -/
abbrev SteadyStep (skip : List Char → Option (List Char)) : Prop :=
  ∀ {text rest}, skip text = some rest → Passes text rest fun text rest => skip text = some rest

variable {text rest : List Char}

theorem passes_readMark {mark : Char} (h : readMark mark text = some ((), rest)) :
    Passes text rest fun text rest => readMark mark text = some ((), rest) := by
  unfold readMark at h
  split at h
  · split at h
    next hmark =>
      cases h
      exact (Passes.cons _ _).imp fun _ _ htext => by simp [htext, readMark, hmark]
    · cases h
  · cases h

theorem readMark_eq_none_of_twins {mark : Char} {other : List Char}
    (h : readMark mark text = none) (htwins : Twins text other) : readMark mark other = none := by
  have hhead := htwins.head?
  unfold readMark at h ⊢
  cases text <;> cases other <;> simp_all

end ClusterLink.Toml
