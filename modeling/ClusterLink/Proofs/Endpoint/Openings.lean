import ClusterLink.Proofs.Endpoint.Spelling

/-!
# Openings of endpoints

Whether a place is written bare, after two slashes or after a scheme decides nothing but the scheme
of the endpoint. This holds of every place that is not taken for an opening itself, and of places
that are refused as well.
-/

namespace ClusterLink.Endpoint

open Text

variable {text bare rest place : List Char} {scheme : Option (List Char)} {opening : Opening}

/-- Something is written, and nothing of it is taken for a scheme or for the two slashes. -/
structure Unopened (place : List Char) : Prop where
  visible : ∃ c ∈ place, isBlank c = false
  unmarked : ¬ "://".toList <:+: place
  unslashed : ¬ "//".toList <+: place

/-- The endpoint with the scheme of an opening, and with none if the opening says none. -/
def withOpening (opening : Opening) (endpoint : Endpoint) : Endpoint :=
  { endpoint with scheme := opening.scheme?.map String.ofList }

/-- Texts with the same rest after their openings differ in nothing but the scheme. -/
theorem ofChars_of_splitScheme (htext : isBlankText text = false)
    (hsplit : splitScheme text = .ok (scheme, rest)) (hbare : isBlankText bare = false)
    (hplain : splitScheme bare = .ok (none, rest)) :
    ofChars text = (ofChars bare).map fun endpoint =>
      { endpoint with scheme := scheme.map String.ofList } := by
  simp only [ofChars, htext, hbare, hsplit, hplain, Bool.false_eq_true, if_false]
  cases locate (tidy rest) with
  | error fault => rfl
  | ok location =>
      dsimp only
      split_ifs <;> rfl

theorem Unopened.isBlankText_append (h : Unopened place) (lead : List Char) :
    isBlankText (lead ++ place) = false := by
  obtain ⟨c, hmem, hvisible⟩ := h.visible
  exact List.all_eq_false.2 ⟨c, List.mem_append_right lead hmem, by simp [hvisible]⟩

/-- Behind every opening a place is read as it is without one. -/
theorem Unopened.ofChars_opening (h : Unopened place)
    (hscheme : ∀ written, opening = .scheme written → IsSchemeName written) :
    ofChars (opening.chars ++ place) = (ofChars place).map (withOpening opening) := by
  have hopened := splitScheme_opening hscheme h.unslashed h.unmarked
  have hplain : splitScheme place = .ok (none, place) :=
    @splitScheme_opening .bare place nofun h.unslashed h.unmarked
  exact ofChars_of_splitScheme (h.isBlankText_append opening.chars) hopened
    (h.isBlankText_append []) hplain

/--
A place is read behind two slashes exactly as without them, and behind a scheme as the same endpoint
with this scheme in lower case; what is refused is refused for the same reason.
-/
theorem read_opened {place scheme : String} (hplace : Unopened place.toList)
    (hscheme : IsSchemeName scheme.toList) :
    read ("//" ++ place) = read place ∧
      read (scheme ++ "://" ++ place) =
        (read place).map fun endpoint => endpoint.withScheme scheme := by
  have hbare := @Unopened.ofChars_opening place.toList .bare hplace nofun
  have hslashes := @Unopened.ofChars_opening place.toList .slashes hplace nofun
  have hopened := @Unopened.ofChars_opening place.toList (.scheme scheme.toList) hplace
    fun written hwritten => Opening.scheme.inj hwritten ▸ hscheme
  constructor
  · rw [read, read, String.toList_append]
    exact hslashes.trans hbare.symm
  · rw [read, read, String.toList_append, String.toList_append]
    exact hopened

def disguisedPlace : String := "[0:0::DB8:1]:009200/a/%2e%2E/b\tc d "

theorem read_opened_disguisedPlace :
    Unopened disguisedPlace.toList ∧ Unopened "es:65536".toList ∧
      IsSchemeName "HtTp+v1".toList ∧
      read ("//" ++ disguisedPlace) = .ok ⟨none, "[::db8:1]", some 9200, some "/bc%20d"⟩ ∧
      read ("HtTp+v1" ++ "://" ++ disguisedPlace) =
        .ok ⟨some "http+v1", "[::db8:1]", some 9200, some "/bc%20d"⟩ ∧
      read ("//" ++ "es:65536") = .error .invalidPort ∧
      read ("HtTp+v1" ++ "://" ++ "es:65536") = .error .invalidPort := by
  have hscheme : IsSchemeName "HtTp+v1".toList := by simp [IsSchemeName]
  have hdisguised : Unopened disguisedPlace.toList :=
    ⟨⟨'[', by decide +kernel, by decide⟩, by decide +kernel, by decide +kernel⟩
  have hlarge : Unopened "es:65536".toList :=
    ⟨⟨'e', by decide +kernel, by decide⟩, by decide +kernel, by decide +kernel⟩
  have hread : read disguisedPlace = .ok ⟨none, "[::db8:1]", some 9200, some "/bc%20d"⟩ := by
    decide +kernel
  have hrefused : read "es:65536" = .error .invalidPort := by decide +kernel
  obtain ⟨hslashes, hopened⟩ := read_opened hdisguised hscheme
  obtain ⟨hslashesRefused, hopenedRefused⟩ := read_opened hlarge hscheme
  rw [hread] at hslashes hopened
  rw [hrefused] at hslashesRefused hopenedRefused
  refine ⟨hdisguised, hlarge, hscheme, hslashes, hopened.trans ?_, hslashesRefused, hopenedRefused⟩
  decide

end ClusterLink.Endpoint
