import ClusterLink.Proofs.Endpoint.Text
import ClusterLink.Proofs.Target.Rules

/-!
# User info

User info stands in the authority part of a text, before its last `@`. A text with user info is
refused, unless the user info is empty or a lone colon: then it is passed over, and the text is read
as if the user info were not there.
-/

namespace ClusterLink.Endpoint

open Text

variable {text info rest place tail : List Char} {location : Location} {endpoint : Endpoint}

/-! ## Parts of a text -/

def afterOpening (text : List Char) : List Char :=
  match splitFirst [':', '/', '/'] text with
  | some (_, rest) => rest
  | none => (dropLead? ['/', '/'] text).getD text

/-- A scheme with its mark, as it is written, or else two slashes, written or not. -/
def openingOf (text : List Char) : List Char :=
  match splitFirst [':', '/', '/'] text with
  | some (scheme, _) => scheme ++ [':', '/', '/']
  | none => ['/', '/']

def authority (text : List Char) : List Char :=
  (afterOpening text).takeWhile fun c => !endsAuthority c

def afterAuthority (text : List Char) : List Char :=
  (afterOpening text).dropWhile fun c => !endsAuthority c

/-- What stands before the last `@` of the authority part and does not count for nothing. -/
def userInfo (text : List Char) : List Char :=
  (((splitLast '@' (authority text)).map (·.1)).getD []).filter fun c => !isSkipped c

def withoutUserInfo (source : String) : String :=
  let text := source.toList
  let place := ((splitLast '@' (authority text)).map (·.2)).getD (authority text)
  String.ofList (openingOf text ++ (place ++ afterAuthority text))

def NamesNobody (info : List Char) : Prop := info = [] ∨ info = [':']

instance (info : List Char) : Decidable (NamesNobody info) := inferInstanceAs (Decidable (_ ∨ _))

/-- Where the last `@` of the authority part divides the text after an opening. -/
structure Divided (after info rest : List Char) : Prop where
  after_eq : after = info ++ '@' :: rest
  info_free : ∀ c ∈ info, (!endsAuthority c) = true
  at_not_mem : '@' ∉ rest.takeWhile fun c => !endsAuthority c

theorem Divided.suffix {after : List Char} (h : Divided after info rest) : rest <:+ after :=
  ⟨info ++ ['@'], by rw [h.after_eq]; simp⟩

theorem exists_divided (h : '@' ∈ authority text) :
    ∃ info rest, Divided (afterOpening text) info rest ∧
      userInfo text = info.filter (fun c => !isSkipped c) ∧
      ∀ source : String, source.toList = text →
        withoutUserInfo source = String.ofList (openingOf text ++ rest) := by
  obtain ⟨info, place, hauthority, hfree, hcut⟩ := exists_splitLast h
  have hafter : afterOpening text = info ++ '@' :: (place ++ afterAuthority text) := by
    have hwhole : authority text ++ afterAuthority text = afterOpening text :=
      List.takeWhile_append_dropWhile
    rw [← hwhole, hauthority]
    simp
  have hchars : ∀ c ∈ authority text, (!endsAuthority c) = true := fun c hmem =>
    List.mem_takeWhile_imp (p := fun c => !endsAuthority c) hmem
  have hinfo : ∀ c ∈ info, (!endsAuthority c) = true := fun c hmem =>
    hchars c (by rw [hauthority]; exact List.mem_append_left _ hmem)
  have hplace : (place ++ afterAuthority text).takeWhile (fun c => !endsAuthority c) = place := by
    have hsame := hauthority
    rw [authority, hafter, List.takeWhile_append_of_pos hinfo,
      List.takeWhile_cons_of_pos (by decide)] at hsame
    simpa using hsame
  refine ⟨info, place ++ afterAuthority text, ⟨hafter, hinfo, by rwa [hplace]⟩, ?_, ?_⟩
  · rw [userInfo, hcut]
    rfl
  · rintro source rfl
    rw [withoutUserInfo, hcut]
    rfl

/-! ## Openings -/

def readScheme (text : List Char) : Except Fault (Option (List Char)) :=
  match splitFirst [':', '/', '/'] text with
  | some (scheme, _) =>
      if isScheme scheme then .ok (some (lowerCase scheme)) else .error .malformedScheme
  | none => .ok none

theorem splitScheme_eq (text : List Char) :
    splitScheme text = (readScheme text).map fun scheme => (scheme, afterOpening text) := by
  unfold splitScheme readScheme afterOpening
  cases splitFirst [':', '/', '/'] text with
  | some halves =>
      dsimp only
      split <;> rfl
  | none => rfl

theorem splitScheme_eq_ok_iff {scheme : Option (List Char)} :
    splitScheme text = .ok (scheme, rest) ↔
      readScheme text = .ok scheme ∧ rest = afterOpening text := by
  rw [splitScheme_eq]
  cases readScheme text <;> simp [Except.map, eq_comm]

theorem afterOpening_suffix (text : List Char) : afterOpening text <:+ text := by
  unfold afterOpening
  cases hcut : splitFirst [':', '/', '/'] text with
  | some halves =>
      have htext : text = halves.1 ++ [':', '/', '/'] ++ halves.2 := append_of_splitFirst hcut
      exact ⟨halves.1 ++ [':', '/', '/'], htext.symm⟩
  | none =>
      cases hslashes : dropLead? ['/', '/'] text with
      | none => exact List.suffix_rfl
      | some back => exact ⟨['/', '/'], (dropLead?_eq_some_iff.1 hslashes).symm⟩

/-- What follows the opening may be replaced by its own end. -/
theorem opening_append (h : rest <:+ afterOpening text) :
    readScheme (openingOf text ++ rest) = readScheme text ∧
      afterOpening (openingOf text ++ rest) = rest := by
  have hend : rest <:+ text := h.trans (afterOpening_suffix text)
  unfold readScheme openingOf afterOpening
  cases hcut : splitFirst [':', '/', '/'] text with
  | some halves =>
      have hsame : splitFirst [':', '/', '/'] (halves.1 ++ ([':', '/', '/'] ++ rest)) =
          some (halves.1, rest) := splitFirst_append_other hcut rest
      simp only [List.append_assoc, hsame, and_self]
  | none =>
      have hnone : splitFirst [':', '/', '/'] (['/', '/'] ++ rest) = none := by
        rw [splitFirst_eq_none_iff, infix_append_left_iff (by decide)]
        intro hmark
        exact splitFirst_eq_none_iff.1 hcut (hmark.trans hend.isInfix)
      have hslashes : dropLead? ['/', '/'] (['/', '/'] ++ rest) = some rest :=
        dropLead?_eq_some_iff.2 rfl
      simp only [hnone, hslashes, Option.getD_some, and_self]

/-! ## Tidy texts -/

theorem tidy_append_cons {c : Char} (h : 0x20 < c.toNat) (before after : List Char) :
    tidy (before ++ c :: after) = before.filter (fun c => !isSkipped c) ++ c :: tidy after := by
  have hreverse : (before ++ c :: after).reverse = after.reverse ++ c :: before.reverse := by simp
  have hkept : (decide (c.toNat ≤ 0x20)) = false := by simpa using h
  have hdrop : (after.reverse ++ c :: before.reverse).dropWhile (fun c => decide (c.toNat ≤ 0x20)) =
      after.reverse.dropWhile (fun c => decide (c.toNat ≤ 0x20)) ++ c :: before.reverse := by
    rw [List.dropWhile_append]
    split
    · rename_i hempty
      rw [List.isEmpty_iff.1 hempty, List.dropWhile_cons_of_neg (by simp [hkept])]
      rfl
    · rfl
  rw [tidy, hreverse, hdrop]
  simp [tidy, isSkipped_eq_false h]

/-- Nothing gets into the authority part when a text is tidied. -/
theorem takeWhile_tidy_subset (rest : List Char) :
    (tidy rest).takeWhile (fun c => !endsAuthority c) ⊆
      rest.takeWhile fun c => !endsAuthority c := by
  have hfree : ∀ c ∈ rest.takeWhile (fun c => !endsAuthority c), (!endsAuthority c) = true :=
    fun c hmem => List.mem_takeWhile_imp (p := fun c => !endsAuthority c) hmem
  have hwhole : rest.takeWhile (fun c => !endsAuthority c) ++
      rest.dropWhile (fun c => !endsAuthority c) = rest := List.takeWhile_append_dropWhile
  cases htail : rest.dropWhile (fun c => !endsAuthority c) with
  | nil =>
      rw [htail, List.append_nil] at hwhole
      rw [hwhole]
      exact fun c hmem => (tidy_sublist rest).subset (List.takeWhile_subset _ hmem)
  | cons c others =>
      have hends : endsAuthority c = true := by
        have hhead := List.head?_dropWhile_not (fun c => !endsAuthority c) rest
        rw [htail] at hhead
        simpa using hhead
      have hvisible : 0x20 < c.toNat := by
        simp only [endsAuthority, Bool.or_eq_true, beq_iff_eq] at hends
        rcases hends with (rfl | rfl) | rfl <;> decide
      rw [htail] at hwhole
      intro d hmem
      rw [← hwhole, tidy_append_cons hvisible, List.takeWhile_append_of_pos,
        List.takeWhile_cons_of_neg (by simp [hends]), List.append_nil] at hmem
      · exact List.mem_of_mem_filter hmem
      · exact fun c hmem => hfree c (List.mem_of_mem_filter hmem)

/-- A text that is tidied stays divided at the same `@`. -/
theorem Divided.tidy (h : Divided text info rest) :
    Divided (tidy text) (info.filter fun c => !isSkipped c) (Endpoint.tidy rest) where
  after_eq := by rw [h.after_eq, tidy_append_cons (by decide)]
  info_free := fun c hmem => h.info_free c (List.mem_of_mem_filter hmem)
  at_not_mem := fun hmem => h.at_not_mem (takeWhile_tidy_subset rest hmem)

/-! ## Locations -/

/-- Takes apart the place of a host and a port, where the authority part goes on with `tail`. -/
def locateIn (credential : Bool) (place tail : List Char) : Except Fault Location :=
  let parts := splitHost false place
  match readHost parts.1 with
  | .error fault => .error fault
  | .ok host =>
      match parts.2 with
      | ':' :: port =>
          if host.isEmpty then .error .emptyHost
          else
            match readPort port with
            | .error fault => .error fault
            | .ok (port, rest) => .ok ⟨host, port, rest ++ tail, credential⟩
      | rest =>
          if host.isEmpty && credential then .error .emptyHost
          else .ok ⟨host, none, rest ++ tail, credential⟩

theorem credential_of_locateIn {credential : Bool}
    (h : locateIn credential place tail = .ok location) : location.credential = credential := by
  unfold locateIn at h
  dsimp only at h
  split at h
  · cases h
  · split at h
    · split at h
      · cases h
      · split at h <;> cases h
        rfl
    · split at h <;> cases h
      rfl

theorem locate_of_not_mem (h : '@' ∉ rest.takeWhile fun c => !endsAuthority c) :
    locate rest = locateIn false (rest.takeWhile fun c => !endsAuthority c)
      (rest.dropWhile fun c => !endsAuthority c) := by
  simp only [locate, splitLast_eq_none h]
  rfl

theorem Divided.locate_eq (h : Divided text info rest) :
    locate text =
      if info = [] ∧ (rest.takeWhile fun c => !endsAuthority c).isEmpty ∧
          !(rest.dropWhile fun c => !endsAuthority c).isEmpty then .error .emptyHost
      else locateIn (holdsCredential info) (rest.takeWhile fun c => !endsAuthority c)
        (rest.dropWhile fun c => !endsAuthority c) := by
  have hauthority : text.takeWhile (fun c => !endsAuthority c) =
      info ++ '@' :: rest.takeWhile fun c => !endsAuthority c := by
    rw [h.after_eq, List.takeWhile_append_of_pos h.info_free,
      List.takeWhile_cons_of_pos (by decide)]
  have htail : text.dropWhile (fun c => !endsAuthority c) =
      rest.dropWhile fun c => !endsAuthority c := by
    rw [h.after_eq, List.dropWhile_append_of_pos h.info_free,
      List.dropWhile_cons_of_pos (by decide)]
  simp only [locate, hauthority, htail, splitLast_append_mark h.at_not_mem, Option.map_some,
    Option.getD_some, Option.some.injEq, Option.any_some]
  rfl

/-- User info that holds no credential is passed over where there is a host. -/
theorem Divided.locate_eq_ok_iff (h : Divided text info rest) (hopen : location.credential = false)
    (hhost : location.host ≠ []) :
    locate text = .ok location ↔ holdsCredential info = false ∧ locate rest = .ok location := by
  rw [h.locate_eq, locate_of_not_mem h.at_not_mem]
  constructor
  · intro hlocated
    split at hlocated
    · cases hlocated
    · have hcredential := credential_of_locateIn hlocated
      rw [hopen] at hcredential
      rw [← hcredential] at hlocated ⊢
      exact ⟨rfl, hlocated⟩
  · rintro ⟨hcredential, hlocated⟩
    rw [if_neg, hcredential, hlocated]
    rintro ⟨-, hempty, -⟩
    rw [List.isEmpty_iff.1 hempty] at hlocated
    cases hlocated
    exact hhost rfl

theorem holdsCredential_eq_false_iff : holdsCredential info = false ↔ NamesNobody info := by
  unfold holdsCredential NamesNobody
  by_cases hempty : info = [] <;> simp [hempty]

/-! ## Texts -/

theorem slash_mem_openingOf (text : List Char) : '/' ∈ openingOf text := by
  unfold openingOf
  split <;> simp

/-- User info that names nobody is passed over, and any other is a reason to refuse the text. -/
theorem Divided.ofChars_eq_ok_iff (h : Divided (afterOpening text) info rest) :
    ofChars text = .ok endpoint ↔
      NamesNobody (info.filter fun c => !isSkipped c) ∧
        ofChars (openingOf text ++ rest) = .ok endpoint := by
  have hat : '@' ∈ text := (afterOpening_suffix text).subset (by rw [h.after_eq]; simp)
  have hnonblank : isBlankText text = false := isBlankText_eq_false hat (by decide)
  have hslash : '/' ∈ openingOf text ++ rest := List.mem_append_left _ (slash_mem_openingOf text)
  have hopened : isBlankText (openingOf text ++ rest) = false :=
    isBlankText_eq_false hslash (by decide)
  obtain ⟨hscheme, hafter⟩ := opening_append h.suffix
  rw [Endpoint.ofChars_eq_ok_iff, Endpoint.ofChars_eq_ok_iff, ← holdsCredential_eq_false_iff]
  constructor
  · rintro ⟨scheme, after, location, hparts⟩
    obtain ⟨hread, rfl⟩ := splitScheme_eq_ok_iff.1 hparts.split
    obtain ⟨hnobody, hlocated⟩ :=
      (h.tidy.locate_eq_ok_iff hparts.credential_eq hparts.host_ne_nil).1 hparts.located
    have hsplit : splitScheme (openingOf text ++ rest) = .ok (scheme, rest) :=
      splitScheme_eq_ok_iff.2 ⟨hscheme.trans hread, hafter.symm⟩
    exact ⟨hnobody, scheme, rest, location,
      { hparts with nonblank := hopened, split := hsplit, located := hlocated }⟩
  · rintro ⟨hnobody, scheme, after, location, hparts⟩
    obtain ⟨hread, rfl⟩ := splitScheme_eq_ok_iff.1 hparts.split
    have hlocated : locate (Endpoint.tidy rest) = .ok location := by
      rw [← hafter]
      exact hparts.located
    have hsplit : splitScheme text = .ok (scheme, afterOpening text) :=
      splitScheme_eq_ok_iff.2 ⟨hscheme.symm.trans hread, rfl⟩
    have hwhole : locate (Endpoint.tidy (afterOpening text)) = .ok location :=
      (h.tidy.locate_eq_ok_iff hparts.credential_eq hparts.host_ne_nil).2 ⟨hnobody, hlocated⟩
    exact ⟨scheme, afterOpening text, location,
      { hparts with nonblank := hnonblank, split := hsplit, located := hwhole }⟩

/--
A text with user info is refused as a host, unless the user info is empty or a lone colon. Such a
text is read as the text without the user info, which has no user info left.
-/
theorem readHost_of_userInfo {source : String} (h : '@' ∈ authority source.toList) :
    '@' ∉ authority (withoutUserInfo source).toList ∧
      (∀ endpoint, Target.readHost source = .ok endpoint ↔
        NamesNobody (userInfo source.toList) ∧
          Target.readHost (withoutUserInfo source) = .ok endpoint) ∧
      (¬ NamesNobody (userInfo source.toList) →
        ∃ reason, Target.readHost source = .error (.invalidHost source reason)) := by
  obtain ⟨info, rest, hdivided, hinfo, hwithout⟩ := exists_divided h
  have haccepts : ∀ endpoint, Target.readHost source = .ok endpoint ↔
      NamesNobody (userInfo source.toList) ∧
        Target.readHost (withoutUserInfo source) = .ok endpoint := by
    intro endpoint
    rw [Target.readHost_eq_ok_iff, Target.readHost_eq_ok_iff, hinfo, hwithout source rfl, read,
      read, String.toList_ofList]
    exact hdivided.ofChars_eq_ok_iff
  refine ⟨?_, haccepts, fun hnamed => ?_⟩
  · rw [hwithout source rfl, String.toList_ofList, authority, (opening_append hdivided.suffix).2]
    exact hdivided.at_not_mem
  · cases hread : Target.readHost source with
    | ok endpoint => exact absurd ((haccepts endpoint).1 hread).1 hnamed
    | error violation =>
        obtain ⟨fault, -, rfl⟩ := Target.readHost_eq_error_iff.1 hread
        exact ⟨fault.reason, rfl⟩

/-- A password without a name is refused; a colon and a tab are passed over. -/
theorem readHost_of_userInfo_nameless :
    (∃ reason, Target.readHost "https://:secret@es.local" =
        .error (.invalidHost "https://:secret@es.local" reason)) ∧
      withoutUserInfo "HTTP://:\t@es.local:9200" = "HTTP://es.local:9200" ∧
      Target.readHost "HTTP://:\t@es.local:9200" =
        .ok ⟨some "http", "es.local", some 9200, none⟩ := by
  have hwithout : withoutUserInfo "HTTP://:\t@es.local:9200" = "HTTP://es.local:9200" := by
    decide +kernel
  have hsecret : '@' ∈ authority "https://:secret@es.local".toList := by decide +kernel
  have hblank : '@' ∈ authority "HTTP://:\t@es.local:9200".toList := by decide +kernel
  obtain ⟨-, -, hrefused⟩ := readHost_of_userInfo hsecret
  obtain ⟨-, haccepts, -⟩ := readHost_of_userInfo hblank
  refine ⟨hrefused (by decide +kernel), hwithout, (haccepts _).2 ⟨by decide +kernel, ?_⟩⟩
  rw [hwithout]
  decide +kernel

/-- Empty user info is passed over without a word. -/
theorem readHost_emptyUserInfo :
    '@' ∈ authority "@es.local".toList ∧
      Target.readHost "@es.local" = .ok ⟨none, "es.local", none, none⟩ := by
  constructor <;> decide +kernel

end ClusterLink.Endpoint
