import ClusterLink.Hosts
import ClusterLink.Proofs.Endpoint.Reading

/-!
# Paths that are read

An endpoint that is read has a host. Its path, if it has one, is never empty and starts with a
slash, so the default path stands in only for a path that is not given.
-/

namespace ClusterLink.Endpoint

namespace Path

/-- Dot segments at the end leave an empty segment, so that no path resolves to nothing. -/
theorem resolve_ne_nil {settled others : List (List Char)} (h : others ≠ []) :
    resolve settled others ≠ [] := by
  induction others generalizing settled with
  | nil => exact absurd rfl h
  | cons segment others ih =>
      cases others with
      | nil =>
          simp only [resolve, List.isEmpty_nil, ↓reduceIte]
          split_ifs <;> simp
      | cons next rest =>
          rw [resolve]
          split_ifs <;> exact ih (List.cons_ne_nil _ _)

theorem head?_write {segments : List (List Char)} (h : segments ≠ []) :
    (write segments).head? = some '/' := by
  obtain ⟨first, rest, rfl⟩ := List.exists_cons_of_ne_nil h
  rfl

theorem head?_of_read? {text path : List Char} (h : read? text = some path) :
    path.head? = some '/' := by
  unfold read? at h
  split_ifs at h
  cases h
  refine head?_write (resolve_ne_nil ?_)
  simp [segments, Text.pieces_ne_nil]

end Path

def Rooted (path : String) : Prop := path.toList.head? = some '/'

instance (path : String) : Decidable (Rooted path) := inferInstanceAs (Decidable (_ = _))

theorem Rooted.ne_empty {path : String} (h : Rooted path) : path.isEmpty = false := by
  rw [← Bool.not_eq_true]
  intro hempty
  rw [String.isEmpty_iff] at hempty
  subst hempty
  cases h

theorem rooted_defaultPath : Rooted defaultPath := by decide

theorem host_ne_empty_of_read {text : String} {endpoint : Endpoint} (h : read text = .ok endpoint) :
    endpoint.host ≠ "" := by
  obtain ⟨scheme, rest, location, hparts⟩ := ofChars_eq_ok_iff.1 h
  rw [hparts.endpoint_eq]
  simpa using hparts.host_ne_nil

theorem rooted_of_read {text : String} {endpoint : Endpoint} (h : read text = .ok endpoint) :
    ∀ path ∈ endpoint.path, Rooted path := by
  intro path hmem
  obtain ⟨rest, hrest⟩ := exists_read?_of_read h path hmem
  exact Path.head?_of_read? hrest

/-- An endpoint that is read gets the default path only in place of none. -/
theorem pathOrRoot_of_read {text : String} {endpoint : Endpoint} (h : read text = .ok endpoint) :
    endpoint.pathOrRoot = endpoint.path.getD defaultPath := by
  unfold pathOrRoot
  cases hpath : endpoint.path with
  | none => rfl
  | some path =>
      have hrooted := rooted_of_read h path hpath
      simp [hrooted.ne_empty]

theorem rooted_pathOrRoot {text : String} {endpoint : Endpoint} (h : read text = .ok endpoint) :
    Rooted endpoint.pathOrRoot := by
  rw [pathOrRoot_of_read h]
  cases hpath : endpoint.path with
  | none => exact rooted_defaultPath
  | some path => exact rooted_of_read h path hpath

end ClusterLink.Endpoint
