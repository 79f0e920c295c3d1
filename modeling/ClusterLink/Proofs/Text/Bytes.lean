import ClusterLink.Text.Bytes
import Mathlib.Data.List.Basic

/-!
# Places between characters

A text can be cut at a byte exactly where a character ends. Between two such places there is always
a part of the text.
-/

namespace ClusterLink.Text

variable {c : Char} {text front other : List Char} {i j start : Nat}

def byteLength : List Char → Nat
  | [] => 0
  | c :: text => c.utf8Size + byteLength text

@[simp] theorem byteLength_nil : byteLength [] = 0 := rfl

@[simp] theorem byteLength_cons (c : Char) (text : List Char) :
    byteLength (c :: text) = c.utf8Size + byteLength text := rfl

@[simp] theorem byteLength_append (front text : List Char) :
    byteLength (front ++ text) = byteLength front + byteLength text := by
  induction front with
  | nil => rw [List.nil_append, byteLength_nil, Nat.zero_add]
  | cons c front ih =>
      rw [List.cons_append, byteLength_cons, byteLength_cons, ih, Nat.add_assoc]

theorem byteLength_eq_zero_iff : byteLength text = 0 ↔ text = [] := by
  cases text with
  | nil => simp
  | cons c text =>
      have hsize : 0 < c.utf8Size := c.utf8Size_pos
      simp only [byteLength_cons, List.cons_ne_nil, iff_false]
      omega

theorem byteLength_of_narrow (h : ∀ c ∈ text, c.utf8Size = 1) : byteLength text = text.length := by
  induction text with
  | nil => rfl
  | cons c text ih =>
      rw [List.forall_mem_cons] at h
      rw [byteLength_cons, h.1, ih h.2, List.length_cons, Nat.add_comm]

theorem dropBytes?_append (front text : List Char) :
    dropBytes? (byteLength front) (front ++ text) = some text := by
  induction front with
  | nil => cases text <;> rfl
  | cons c front ih =>
      have hsize : 0 < c.utf8Size := c.utf8Size_pos
      rw [byteLength_cons, List.cons_append, dropBytes?, if_neg (by omega), if_neg (by omega),
        Nat.add_sub_cancel_left, ih]

theorem takeBytes?_append (front text : List Char) :
    takeBytes? (byteLength front) (front ++ text) = some front := by
  induction front with
  | nil => cases text <;> rfl
  | cons c front ih =>
      have hsize : 0 < c.utf8Size := c.utf8Size_pos
      rw [byteLength_cons, List.cons_append, takeBytes?, if_neg (by omega), if_neg (by omega),
        Nat.add_sub_cancel_left, ih, Option.map_some]

/-- A number of bytes after which no character of a text is cut. -/
def IsPlace (text : List Char) (i : Nat) : Prop := ∃ front, front <+: text ∧ byteLength front = i

theorem IsPlace.exists_dropBytes? (h : IsPlace text i) : ∃ rest, dropBytes? i text = some rest := by
  obtain ⟨front, ⟨rest, rfl⟩, rfl⟩ := h
  exact ⟨rest, dropBytes?_append front rest⟩

theorem prefix_of_byteLength_le (hfront : front <+: text) (hother : other <+: text)
    (h : byteLength front ≤ byteLength other) : front <+: other := by
  rcases List.prefix_or_prefix_of_prefix hfront hother with hshort | ⟨rest, rfl⟩
  · exact hshort
  · rw [byteLength_append] at h
    have hrest : rest = [] := byteLength_eq_zero_iff.1 (by omega)
    exact ⟨[], by rw [hrest, List.append_nil, List.append_nil]⟩

theorem IsPlace.exists_part (hi : IsPlace text i) (hj : IsPlace text j) (h : i ≤ j) :
    ∃ part, (dropBytes? i text).bind (takeBytes? (j - i)) = some part := by
  obtain ⟨front, hfront, rfl⟩ := hi
  obtain ⟨other, hother, rfl⟩ := hj
  obtain ⟨part, rfl⟩ := prefix_of_byteLength_le hfront hother h
  obtain ⟨rest, rfl⟩ := hother
  refine ⟨part, ?_⟩
  rw [List.append_assoc, dropBytes?_append, Option.bind_some, byteLength_append,
    Nat.add_sub_cancel_left, takeBytes?_append]

theorem exists_of_mem_placed (h : (i, c) ∈ placed start text) :
    ∃ before after, text = before ++ c :: after ∧ i = start + byteLength before := by
  induction text generalizing start with
  | nil => cases h
  | cons first text ih =>
      rw [placed, List.mem_cons] at h
      rcases h with hfirst | hrest
      · cases hfirst
        exact ⟨[], text, rfl, rfl⟩
      · obtain ⟨before, after, rfl, rfl⟩ := ih hrest
        exact ⟨first :: before, after, rfl, by rw [byteLength_cons, Nat.add_assoc]⟩

/-- Where the characters of a text start and end is a place in every text that begins with it. -/
theorem isPlace_of_prefix (hfront : front <+: text) (h : (i, c) ∈ placed 0 front) :
    IsPlace text i ∧ IsPlace text (i + c.utf8Size) := by
  obtain ⟨before, after, rfl, rfl⟩ := exists_of_mem_placed h
  have hbefore : before <+: text := (List.prefix_append before (c :: after)).trans hfront
  have hthrough : before ++ [c] <+: text := by
    rw [List.append_cons] at hfront
    exact (List.prefix_append (before ++ [c]) after).trans hfront
  exact ⟨⟨before, hbefore, by simp⟩, ⟨before ++ [c], hthrough, by simp⟩⟩

/-- In a text of single bytes every byte is a place. -/
theorem isPlace_of_narrow (h : ∀ c ∈ text, c.utf8Size = 1) (hi : i ≤ text.length) :
    IsPlace text i := by
  refine ⟨text.take i, List.take_prefix i text, ?_⟩
  rw [byteLength_of_narrow fun c hc => h c (List.mem_of_mem_take hc), List.length_take,
    Nat.min_eq_left hi]

end ClusterLink.Text
