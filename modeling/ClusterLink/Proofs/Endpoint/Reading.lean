import ClusterLink.Endpoint.Reading
import ClusterLink.Proofs.Text.Split
import Mathlib.Data.List.TakeWhile
import Mathlib.Tactic.SplitIfs

/-!
# Endpoints that are read

What a text has to hold to be read as an endpoint, stage by stage, and what is kept of each part. A
scheme is what stands before the first `://`, in letters of any case.
-/

namespace ClusterLink.Endpoint

open Text

def opensTail (c : Char) : Bool := c == '?' || c == '#'

structure Parts (text : List Char) (scheme : Option (List Char)) (rest : List Char)
    (location : Location) (endpoint : Endpoint) : Prop where
  nonblank : isBlankText text = false
  split : splitScheme text = .ok (scheme, rest)
  located : locate (tidy rest) = .ok location
  credential_eq : location.credential = false
  path_closed : location.path.find? opensTail = none
  host_ne_nil : location.host ≠ []
  endpoint_eq : endpoint = {
    scheme := scheme.map String.ofList
    host := String.ofList location.host
    port := location.port
    path := (Path.read? location.path).map String.ofList }

theorem opensTail_iff {c : Char} : opensTail c = true ↔ c = '?' ∨ c = '#' := by
  simp [opensTail]

theorem find?_opensTail_eq_none {path : List Char} (hquery : path.find? opensTail ≠ some '?')
    (hfragment : path.find? opensTail ≠ some '#') : path.find? opensTail = none := by
  cases hfound : path.find? opensTail with
  | none => rfl
  | some c =>
      rcases opensTail_iff.1 (List.find?_some hfound) with rfl | rfl
      · exact absurd hfound hquery
      · exact absurd hfound hfragment

/-- A text is read as an endpoint exactly when each of its parts is. -/
theorem ofChars_eq_ok_iff {text : List Char} {endpoint : Endpoint} :
    ofChars text = .ok endpoint ↔
      ∃ scheme rest location, Parts text scheme rest location endpoint := by
  unfold ofChars
  constructor
  · intro h
    split_ifs at h with hblank
    split at h
    · cases h
    · rename_i scheme rest hsplit
      split at h
      · cases h
      · rename_i location hlocated
        dsimp only at h
        split_ifs at h with hcredential hquery hfragment hhost
        cases h
        have hclosed := find?_opensTail_eq_none hquery hfragment
        exact ⟨scheme, rest, location, by simpa using hblank, hsplit, hlocated,
          by simpa using hcredential, hclosed, by simpa using hhost, rfl⟩
  · rintro ⟨scheme, rest, location, hblank, hsplit, hlocated, hcredential, hclosed, hhost, rfl⟩
    simp only [hblank, hsplit, hlocated, hcredential]
    change (if location.path.find? opensTail = _ then _ else
      if location.path.find? opensTail = _ then _ else _) = _
    simp [hclosed, hhost]

/-- A place that cannot be taken apart is the reason why a text is refused. -/
theorem ofChars_of_locate_error {text rest : List Char} {scheme : Option (List Char)}
    {fault : Fault} (hnonblank : isBlankText text = false)
    (hsplit : splitScheme text = .ok (scheme, rest))
    (hlocated : locate (tidy rest) = .error fault) : ofChars text = .error fault := by
  simp [ofChars, hnonblank, hsplit, hlocated]

theorem exists_read?_of_read {text : String} {endpoint : Endpoint} (h : read text = .ok endpoint) :
    ∀ path ∈ endpoint.path, ∃ rest, Path.read? rest = some path.toList := by
  obtain ⟨scheme, rest, location, hparts⟩ := ofChars_eq_ok_iff.1 h
  intro path hmem
  rw [hparts.endpoint_eq] at hmem
  obtain ⟨chars, hchars, rfl⟩ := Option.map_eq_some_iff.1 hmem
  exact ⟨location.path, by rw [hchars, String.toList_ofList]⟩

/-! ## Schemes -/

theorem forall_mem_of_isScheme {scheme : List Char} (h : isScheme scheme = true) :
    ∀ c ∈ scheme, (c.isAlphanum || c == '+' || c == '-' || c == '.') = true := by
  cases scheme with
  | nil => cases h
  | cons first rest =>
      simp only [isScheme, Bool.and_eq_true, List.all_eq_true] at h
      obtain ⟨hfirst, hrest⟩ := h
      refine List.forall_mem_cons.2 ⟨?_, hrest⟩
      simp [Char.isAlphanum, hfirst]

/-- What stands before the rest of a text is a scheme and its mark, or two slashes, or nothing. -/
theorem exists_lead_of_splitScheme {text rest : List Char} {scheme : Option (List Char)}
    (h : splitScheme text = .ok (scheme, rest)) :
    ∃ lead, text = lead ++ rest ∧ ∀ c ∈ lead, opensTail c = false := by
  unfold splitScheme at h
  split at h
  · rename_i front back hsplit
    split_ifs at h with hscheme
    cases h
    refine ⟨front ++ [':', '/', '/'], append_of_splitFirst hsplit, ?_⟩
    have hmark : ∀ c ∈ [':', '/', '/'], opensTail c = false := by simp [opensTail]
    refine List.forall_mem_append.2 ⟨fun c hmem => ?_, hmark⟩
    have hc := forall_mem_of_isScheme hscheme c hmem
    rw [← Bool.not_eq_true]
    intro hopens
    rcases opensTail_iff.1 hopens with rfl | rfl <;> exact absurd hc (by decide)
  · cases h
    cases hslashes : dropLead? ['/', '/'] text with
    | none => exact ⟨[], rfl, by simp⟩
    | some back => exact ⟨['/', '/'], dropLead?_eq_some_iff.1 hslashes, by simp [opensTail]⟩

def Carries (scheme text : String) : Prop :=
  ∃ written rest, text.toList = written ++ "://".toList ++ rest ∧
    lowerCase written = scheme.toList

theorem splitScheme_eq_some {text written rest : List Char}
    (h : splitScheme text = .ok (some written, rest)) :
    ∃ front, splitFirst [':', '/', '/'] text = some (front, rest) ∧ isScheme front = true ∧
      written = lowerCase front := by
  unfold splitScheme at h
  split at h
  · rename_i front back hsplit
    split_ifs at h with hscheme
    cases h
    exact ⟨front, hsplit, hscheme, rfl⟩
  · cases h

theorem carries_of_read {text scheme : String} {endpoint : Endpoint}
    (h : read text = .ok endpoint) (hscheme : endpoint.scheme = some scheme) :
    Carries scheme text := by
  obtain ⟨found, rest, location, hparts⟩ := ofChars_eq_ok_iff.1 h
  obtain ⟨written, hwritten, rfl⟩ :
      ∃ written, found = some written ∧ String.ofList written = scheme := by
    simpa [hparts.endpoint_eq] using hscheme
  subst hwritten
  obtain ⟨front, hfront, -, rfl⟩ := splitScheme_eq_some hparts.split
  exact ⟨front, rest, append_of_splitFirst hfront, by simp⟩

/-! ## Locations -/

/-- Only what is to be dropped is dropped from the front of a text. -/
theorem mem_dropWhile {text : List Char} {dropped : Char → Bool} {c : Char} (hmem : c ∈ text)
    (hkept : dropped c = false) : c ∈ text.dropWhile dropped := by
  have hparts : text.takeWhile dropped ++ text.dropWhile dropped = text :=
    List.takeWhile_append_dropWhile
  rw [← hparts, List.mem_append] at hmem
  rcases hmem with hfront | hrest
  · have hdropped : dropped c = true := List.mem_takeWhile_imp hfront
    rw [hkept] at hdropped
    cases hdropped
  · exact hrest

theorem isSkipped_eq_false {c : Char} (h : 0x20 < c.toNat) : isSkipped c = false := by
  simp only [isSkipped, Bool.or_eq_false_iff, beq_eq_false_iff_ne]
  refine ⟨⟨?_, ?_⟩, ?_⟩ <;> rintro rfl <;> exact absurd h (by decide)

/-- No visible character counts for nothing. -/
theorem mem_tidy {text : List Char} {c : Char} (hmem : c ∈ text) (hvisible : 0x20 < c.toNat) :
    c ∈ tidy text := by
  refine List.mem_filter.2 ⟨List.mem_reverse.2 ?_, by simp [isSkipped_eq_false hvisible]⟩
  exact mem_dropWhile (List.mem_reverse.2 hmem) (by simpa using hvisible)

theorem tidy_sublist (text : List Char) : (tidy text).Sublist text := by
  unfold tidy
  refine List.filter_sublist.trans ?_
  rw [← List.reverse_sublist, List.reverse_reverse]
  exact List.dropWhile_sublist _

theorem append_splitHost (inside : Bool) (text : List Char) :
    (splitHost inside text).1 ++ (splitHost inside text).2 = text := by
  induction text generalizing inside with
  | nil => rfl
  | cons c rest ih =>
      rw [splitHost]
      split
      · rfl
      · dsimp only
        rw [List.cons_append, ih]

/-- A port is the number that its digits say; none is so large that it would have to be cut. -/
theorem readPort_eq_some {text rest : List Char} {port : UInt16}
    (h : readPort text = .ok (some port, rest)) :
    text.takeWhile Char.isDigit ≠ [] ∧
      Nat.ofDigitChars 10 (text.takeWhile Char.isDigit) 0 = port.toNat := by
  unfold readPort at h
  dsimp only at h
  generalize text.takeWhile Char.isDigit = digits at h ⊢
  split_ifs at h with hrest hnone hbound
  · cases h
  · cases h
    rw [UInt16.toNat_ofNat_of_lt' (Nat.lt_succ_of_le hbound)]
    exact ⟨by simpa using hnone, rfl⟩

/-- Where host, port and path of a location stand in the text that it is taken from. -/
structure Located (text place rest : List Char) (location : Location) : Prop where
  place_suffix : place <:+ text.takeWhile fun c => !endsAuthority c
  host_read : readHost (splitHost false place).1 = .ok location.host
  port_read : ∀ port ∈ location.port, ∃ written,
    (splitHost false place).2 = ':' :: written ∧ readPort written = .ok (some port, rest)
  path_eq : location.path = rest ++ text.dropWhile fun c => !endsAuthority c

/-- Every location is taken from a place at the end of the authority part. -/
theorem exists_located {text : List Char} {location : Location} (h : locate text = .ok location) :
    ∃ place rest, Located text place rest location := by
  have hplace := splitLast_suffix '@' (text.takeWhile fun c => !endsAuthority c)
  unfold locate at h
  dsimp only at h
  split_ifs at h
  split at h
  · cases h
  · rename_i found hfound
    split at h
    · rename_i written hwritten
      split_ifs at h
      split at h
      · cases h
      · rename_i port rest hport
        cases h
        refine ⟨_, rest, hplace, hfound, ?_, rfl⟩
        rintro found ⟨⟩
        exact ⟨written, hwritten, hport⟩
    · split_ifs at h
      cases h
      refine ⟨_, _, hplace, hfound, ?_, rfl⟩
      intro port hport
      cases hport

end ClusterLink.Endpoint
