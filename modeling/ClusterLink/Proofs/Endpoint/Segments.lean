import ClusterLink.Proofs.Endpoint.Path
import ClusterLink.Proofs.Text.Hex
import ClusterLink.Proofs.Text.Split

/-!
# Paths that are read again

The path of a text is written with segments that are settled: none stands for a directory, and all
of their characters are kept. Settled segments are read as they are, so reading a path again changes
nothing.
-/

namespace ClusterLink.Endpoint.Path

open Text

variable {segment text path : List Char} {settled others : List (List Char)}

/-- The segment is no dots, and all of its characters are kept. -/
structure Settled (segment : List Char) : Prop where
  single_eq : isSingleDot segment = false
  double_eq : isDoubleDot segment = false
  slash_not_mem : '/' ∉ segment
  kept_of_mem : ∀ c ∈ segment, isKept c = true

theorem settled_nil : Settled [] := ⟨by decide, by decide, by simp, by simp⟩

/-! ## What is read -/

theorem mem_of_mem_goUp (h : segment ∈ goUp settled) : segment ∈ settled := by
  unfold goUp at h
  split at h
  · exact h
  · split_ifs at h
    · exact h
    · exact List.mem_cons_of_mem _ h

/-- What remains of segments was settled before, ends the path, or is no dots. -/
theorem forall_mem_resolve {property : List Char → Prop} (hnil : property [])
    (hsettled : ∀ segment ∈ settled, property segment)
    (hothers : ∀ segment ∈ others, isSingleDot segment = false → isDoubleDot segment = false →
      property segment) :
    ∀ segment ∈ resolve settled others, property segment := by
  induction others generalizing settled with
  | nil =>
      intro segment hmem
      exact hsettled segment (List.mem_reverse.1 hmem)
  | cons first rest ih =>
      rw [List.forall_mem_cons] at hothers
      have hup : ∀ segment ∈ goUp settled, property segment := fun segment hmem =>
        hsettled segment (mem_of_mem_goUp hmem)
      rw [resolve]
      split_ifs with hdouble hlast hsingle hlast
      · exact ih (List.forall_mem_cons.2 ⟨hnil, hup⟩) hothers.2
      · exact ih hup hothers.2
      · exact ih (List.forall_mem_cons.2 ⟨hnil, hsettled⟩) hothers.2
      · exact ih hsettled hothers.2
      · have hfirst := hothers.1 (by simpa using hsingle) (by simpa using hdouble)
        exact ih (List.forall_mem_cons.2 ⟨hfirst, hsettled⟩) hothers.2

theorem forall_mem_segments (h : segment ∈ segments text) :
    '/' ∉ segment ∧ ∀ c ∈ segment, isKept c = true := by
  obtain ⟨piece, hpiece, rfl⟩ := List.mem_map.1 h
  have hslash := not_mem_of_mem_pieces hpiece
  constructor
  · intro hmem
    have hdigits : ∀ n < 16, '/' ≠ upperHexDigit n := by decide
    rcases mem_percentEncode hmem with ⟨hsource, -⟩ | hmark | ⟨n, hn, hdigit⟩
    · exact hslash hsource
    · exact absurd hmark (by decide)
    · exact hdigits n hn hdigit
  · exact forall_mem_percentEncode (fun _ _ hkeep => hkeep) (by decide) (by decide)

theorem settled_of_mem_resolve (h : segment ∈ resolve [] (segments text)) : Settled segment := by
  refine forall_mem_resolve settled_nil (by simp) ?_ segment h
  intro segment hmem hsingle hdouble
  obtain ⟨hslash, hkept⟩ := forall_mem_segments hmem
  exact ⟨hsingle, hdouble, hslash, hkept⟩

/-! ## Reading again -/

theorem resolve_of_settled (h : ∀ segment ∈ others, Settled segment) :
    resolve settled others = settled.reverse ++ others := by
  induction others generalizing settled with
  | nil => simp [resolve]
  | cons first rest ih =>
      rw [List.forall_mem_cons] at h
      rw [resolve, h.1.double_eq, h.1.single_eq]
      simp only [Bool.false_eq_true, ↓reduceIte]
      rw [ih h.2, List.reverse_cons, List.append_assoc, List.singleton_append]

theorem write_cons (first : List Char) (rest : List (List Char)) :
    write (first :: rest) = '/' :: ['/'].intercalate (first :: rest) := by
  induction rest generalizing first with
  | nil => simp [write]
  | cons second rest ih =>
      have hrest := ih second
      rw [List.intercalate_cons_cons, write, List.flatMap_cons, ← write, hrest]
      simp

theorem segments_write (h : ∀ segment ∈ others, Settled segment) (hnonempty : others ≠ []) :
    segments (write others) = others := by
  obtain ⟨first, rest, rfl⟩ := List.exists_cons_of_ne_nil hnonempty
  have hslash : ∀ segment ∈ first :: rest, '/' ∉ segment := fun segment hmem =>
    (h segment hmem).slash_not_mem
  rw [write_cons, segments, pieces_intercalate hslash hnonempty]
  have hencode : ∀ segment ∈ first :: rest, percentEncode isKept segment = segment :=
    fun segment hmem => percentEncode_of_all (h segment hmem).kept_of_mem
  exact (List.map_congr_left hencode).trans (List.map_id _)

theorem read?_write (h : ∀ segment ∈ others, Settled segment) (hnonempty : others ≠ []) :
    read? (write others) = some (write others) := by
  obtain ⟨first, rest, rfl⟩ := List.exists_cons_of_ne_nil hnonempty
  have htext : (write (first :: rest)).isEmpty = false := by simp [write]
  rw [read?, htext, segments_write h hnonempty, resolve_of_settled h]
  rfl

/-- A path is written with settled segments. -/
theorem exists_settled_of_read? (h : read? text = some path) :
    ∃ parts, path = write parts ∧ parts ≠ [] ∧ ∀ segment ∈ parts, Settled segment := by
  unfold read? at h
  split_ifs at h
  cases h
  have hsegments : segments text ≠ [] := by simp [segments, pieces_ne_nil]
  exact ⟨_, rfl, resolve_ne_nil hsegments, fun segment hmem => settled_of_mem_resolve hmem⟩

/-- Reading a path again changes nothing. -/
theorem read?_of_read? (h : read? text = some path) : read? path = some path := by
  obtain ⟨parts, rfl, hnonempty, hsettled⟩ := exists_settled_of_read? h
  exact read?_write hsettled hnonempty

theorem isKept_of_mem_read? (h : read? text = some path) : ∀ c ∈ path, isKept c = true := by
  obtain ⟨parts, rfl, -, hsettled⟩ := exists_settled_of_read? h
  intro c hmem
  obtain ⟨segment, hsegment, hc⟩ := List.mem_flatMap.1 hmem
  rcases List.mem_cons.1 hc with rfl | hinside
  · decide
  · exact (hsettled segment hsegment).kept_of_mem c hinside

end ClusterLink.Endpoint.Path
