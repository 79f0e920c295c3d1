import ClusterLink.Proofs.Endpoint.Host
import ClusterLink.Proofs.Endpoint.Reading
import ClusterLink.Proofs.Endpoint.Segments
import Mathlib.Data.List.TakeWhile

/-!
# Endpoints that are read again

The text of an endpoint is its scheme, the place of a host, a port and a path. If host and path are
as reading leaves them, the place is taken apart into the parts that it was put together from, and
an endpoint with a scheme is read from its own text.
-/

namespace ClusterLink.Endpoint

open Text

variable {text host path : List Char} {endpoint : Endpoint}

def portChars : Option UInt16 → List Char
  | some port => ':' :: Nat.toDigits 10 port.toNat
  | none => []

def writtenPort : Option (List Char) → List Char
  | some digits => ':' :: digits
  | none => []

def pathChars (endpoint : Endpoint) : List Char := (endpoint.path.map String.toList).getD []

def placeChars (endpoint : Endpoint) : List Char :=
  endpoint.host.toList ++ portChars endpoint.port ++ endpoint.pathChars

/-- Host and path of the endpoint are as reading leaves them. -/
structure Kept (endpoint : Endpoint) : Prop where
  host : IsHost endpoint.host.toList
  host_ne_empty : endpoint.host ≠ ""
  path_eq : ∀ path ∈ endpoint.path, Path.read? path.toList = some path.toList

/-! ## What is read -/

theorem isHost_of_locate {location : Location} (h : locate text = .ok location) :
    IsHost location.host := by
  obtain ⟨place, rest, hlocated⟩ := exists_located h
  exact isHost_of_readHost hlocated.host_read

theorem kept_of_read {source : String} (h : read source = .ok endpoint) : endpoint.Kept := by
  obtain ⟨scheme, rest, location, hparts⟩ := ofChars_eq_ok_iff.1 h
  have hhost := isHost_of_locate hparts.located
  refine ⟨?_, host_ne_empty_of_read h, fun path hpath => ?_⟩
  · rw [hparts.endpoint_eq]
    simpa using hhost
  · obtain ⟨rest, hrest⟩ := exists_read?_of_read h path hpath
    exact Path.read?_of_read? hrest

/-! ## Ports -/

theorem isDigit_of_mem_toDigits {n : Nat} : ∀ c ∈ Nat.toDigits 10 n, c.isDigit = true :=
  fun _ hmem => Nat.isDigit_of_mem_toDigits (by omega) (by omega) hmem

/-- Digits say a port, unless it is too large; no digits say none. -/
theorem readPort_of_digits {digits : List Char} (h : ∀ c ∈ digits, c.isDigit = true) :
    readPort digits =
      if digits = [] then .ok (none, [])
      else if Nat.ofDigitChars 10 digits 0 ≤ 65535 then
        .ok (some (UInt16.ofNat (Nat.ofDigitChars 10 digits 0)), [])
      else .error .invalidPort := by
  have hdigits : digits.takeWhile Char.isDigit = digits := List.takeWhile_eq_self_iff.2 h
  have hrest : digits.dropWhile Char.isDigit = [] := List.dropWhile_eq_nil_iff.2 h
  unfold readPort
  simp only [hdigits, hrest]
  simp

theorem readPort_toDigits (port : UInt16) :
    readPort (Nat.toDigits 10 port.toNat) = .ok (some port, []) := by
  have hnonempty : Nat.toDigits 10 port.toNat ≠ [] := by simp
  have hbound : port.toNat ≤ 65535 := Nat.le_of_lt_succ port.toNat_lt
  rw [readPort_of_digits isDigit_of_mem_toDigits, if_neg hnonempty, Nat.ofDigitChars_ten_toDigits,
    if_pos hbound, UInt16.ofNat_toNat]

theorem isHostChar_of_isDigit {c : Char} (h : c.isDigit = true) : isHostChar c = true := by
  have hbounds : 48 ≤ c.val.toNat ∧ c.val.toNat ≤ 57 := by
    simpa [Char.isDigit, UInt32.le_iff_toNat_le] using h
  apply isHostChar_of_hexDigit?
  unfold hexDigit?
  rw [if_pos (by simpa [Char.le_def, UInt32.le_iff_toNat_le] using hbounds)]
  rfl

theorem isHostChar_of_mem_writtenPort {written : Option (List Char)}
    (h : ∀ digits ∈ written, ∀ c ∈ digits, c.isDigit = true) :
    ∀ c ∈ writtenPort written, isHostChar c = true := by
  intro c hmem
  cases written with
  | none => cases hmem
  | some digits =>
      rcases List.mem_cons.1 hmem with rfl | hdigit
      · decide
      · exact isHostChar_of_isDigit (h digits rfl c hdigit)

theorem portChars_eq (port : Option UInt16) :
    portChars port = writtenPort (port.map fun port => Nat.toDigits 10 port.toNat) := by
  cases port <;> rfl

theorem isDigit_of_mem_toDigits_port {port : Option UInt16} :
    ∀ digits ∈ port.map fun port => Nat.toDigits 10 port.toNat, ∀ c ∈ digits, c.isDigit = true := by
  intro digits hdigits
  cases port with
  | none => cases hdigits
  | some value =>
      cases hdigits
      exact isDigit_of_mem_toDigits

theorem isHostChar_of_mem_portChars {port : Option UInt16} :
    ∀ c ∈ portChars port, isHostChar c = true := by
  rw [portChars_eq]
  exact isHostChar_of_mem_writtenPort isDigit_of_mem_toDigits_port

/-! ## Places -/

theorem tidy_eq (h : ∀ c ∈ text, isVisibleAscii c = true) : tidy text = text := by
  have hvisible : ∀ c ∈ text, 0x20 < c.toNat := by
    intro c hmem
    exact (isVisibleAscii_iff.1 (h c hmem)).1
  have hend : text.reverse.dropWhile (fun c => c.toNat ≤ 0x20) = text.reverse := by
    rw [List.dropWhile_eq_self_iff]
    intro hlength
    have hlast := hvisible _ (List.mem_reverse.1 (List.getElem_mem hlength))
    simpa using hlast
  have hskip : ∀ c ∈ text, (!isSkipped c) = true := by
    intro c hmem
    rw [isSkipped_eq_false (hvisible c hmem)]
    rfl
  rw [tidy, hend, List.reverse_reverse, List.filter_eq_self.2 hskip]

/-- A place is taken apart into host, digits of a port and path. -/
theorem locate_written {written : Option (List Char)} (hhost : IsHost host) (hnonempty : host ≠ [])
    (hdigits : ∀ digits ∈ written, ∀ c ∈ digits, c.isDigit = true)
    (hpath : path = [] ∨ path.head? = some '/') :
    locate (host ++ writtenPort written ++ path) =
      (readPort (written.getD [])).map fun found => ⟨host, found.1, found.2 ++ path, false⟩ := by
  have hchars : ∀ c ∈ host ++ writtenPort written, isHostChar c = true :=
    List.forall_mem_append.2 ⟨hhost.isHostChar_of_mem, isHostChar_of_mem_writtenPort hdigits⟩
  have hfree : ∀ c ∈ host ++ writtenPort written, (!endsAuthority c) = true := fun c hmem => by
    rw [endsAuthority_of_isHostChar (hchars c hmem)]
    rfl
  have hauthority : (host ++ writtenPort written ++ path).takeWhile (fun c => !endsAuthority c) =
      host ++ writtenPort written := by
    rw [List.takeWhile_append_of_pos hfree]
    rcases hpath with rfl | hhead
    · simp
    · obtain ⟨rest, rfl⟩ := List.head?_eq_some_iff.1 hhead
      simp [endsAuthority]
  have htail :
      (host ++ writtenPort written ++ path).dropWhile (fun c => !endsAuthority c) = path := by
    rw [List.dropWhile_append_of_pos hfree]
    rcases hpath with rfl | hhead
    · rfl
    · obtain ⟨rest, rfl⟩ := List.head?_eq_some_iff.1 hhead
      simp [endsAuthority]
  have hat : splitLast '@' (host ++ writtenPort written) = none :=
    splitLast_eq_none fun hmem => ne_at_of_isHostChar (hchars '@' hmem) rfl
  have hsplit : splitHost false (host ++ writtenPort written) = (host, writtenPort written) := by
    rw [hhost.splitHost_append]
    cases written <;> simp [writtenPort, splitHost]
  have hempty : host.isEmpty = false := by simpa using hnonempty
  unfold locate
  simp only [hauthority, htail, hat, hsplit, hhost.readHost_eq, Option.map_none, Option.getD_none]
  cases written with
  | none => simp [writtenPort, readPort, Except.map]
  | some digits =>
      simp only [writtenPort, hempty, Option.getD_some]
      cases readPort digits <;> simp [Except.map]

/-- A place is taken apart into host, port and path. -/
theorem locate_place {port : Option UInt16} (hhost : IsHost host) (hnonempty : host ≠ [])
    (hpath : path = [] ∨ path.head? = some '/') :
    locate (host ++ portChars port ++ path) = .ok ⟨host, port, path, false⟩ := by
  rw [portChars_eq, locate_written hhost hnonempty isDigit_of_mem_toDigits_port hpath]
  cases port with
  | none => rfl
  | some port => simp [readPort_toDigits, Except.map]

/-! ## Texts -/

theorem isBlank_of_isVisibleAscii {c : Char} (h : isVisibleAscii c = true) : isBlank c = false := by
  rw [isVisibleAscii_iff] at h
  simp [isBlank]
  omega

theorem isBlankText_eq_false {c : Char} (hmem : c ∈ text) (hvisible : isVisibleAscii c = true) :
    isBlankText text = false :=
  List.all_eq_false.2 ⟨c, hmem, by simp [isBlank_of_isVisibleAscii hvisible]⟩

theorem Kept.pathChars_cases (h : endpoint.Kept) :
    endpoint.pathChars = [] ∨ endpoint.pathChars.head? = some '/' := by
  unfold pathChars
  cases hpath : endpoint.path with
  | none => exact .inl rfl
  | some path => exact .inr (Path.head?_of_read? (h.path_eq path hpath))

theorem Kept.read?_pathChars (h : endpoint.Kept) :
    Path.read? endpoint.pathChars = endpoint.path.map String.toList := by
  unfold pathChars
  cases hpath : endpoint.path with
  | none => rfl
  | some path => exact h.path_eq path hpath

theorem Kept.isKept_of_mem_pathChars (h : endpoint.Kept) :
    ∀ c ∈ endpoint.pathChars, Path.isKept c = true := by
  unfold pathChars
  cases hpath : endpoint.path with
  | none => simp
  | some path => exact Path.isKept_of_mem_read? (h.path_eq path hpath)

theorem Kept.isVisibleAscii_of_mem (h : endpoint.Kept) :
    ∀ c ∈ endpoint.placeChars, isVisibleAscii c = true := by
  intro c hmem
  rcases List.mem_append.1 hmem with hplace | hpath
  · rcases List.mem_append.1 hplace with hhost | hport
    · exact isVisibleAscii_of_isHostChar (h.host.isHostChar_of_mem c hhost)
    · exact isVisibleAscii_of_isHostChar (isHostChar_of_mem_portChars c hport)
  · have hkept := h.isKept_of_mem_pathChars c hpath
    simp only [Path.isKept, Bool.and_eq_true] at hkept
    exact hkept.1

/-- Where a text says the scheme and the place of an endpoint, it is read as the endpoint. -/
theorem Kept.ofChars_of_locate {place : List Char} (h : endpoint.Kept)
    (hvisible : ∀ c ∈ place, isVisibleAscii c = true)
    (hlocated : locate place =
      .ok ⟨endpoint.host.toList, endpoint.port, endpoint.pathChars, false⟩)
    (hsplit : splitScheme text = .ok (endpoint.scheme.map String.toList, place))
    (hnonblank : isBlankText text = false) : ofChars text = .ok endpoint := by
  have hhost : endpoint.host.toList ≠ [] := by simpa using h.host_ne_empty
  refine ofChars_eq_ok_iff.2 ⟨_, _, ⟨endpoint.host.toList, endpoint.port, endpoint.pathChars,
    false⟩, hnonblank, hsplit, ?_, rfl, ?_, hhost, ?_⟩
  · rw [tidy_eq hvisible, hlocated]
  · rw [List.find?_eq_none]
    intro c hmem
    have hkept := h.isKept_of_mem_pathChars c hmem
    rw [opensTail_iff, not_or]
    refine ⟨?_, ?_⟩ <;> rintro rfl <;> exact absurd hkept (by decide)
  · rw [h.read?_pathChars]
    cases endpoint
    simp [Function.comp_def]

theorem Kept.ofChars_eq (h : endpoint.Kept)
    (hsplit : splitScheme text = .ok (endpoint.scheme.map String.toList, endpoint.placeChars))
    (hnonblank : isBlankText text = false) : ofChars text = .ok endpoint := by
  have hhost : endpoint.host.toList ≠ [] := by simpa using h.host_ne_empty
  exact h.ofChars_of_locate h.isVisibleAscii_of_mem (locate_place h.host hhost h.pathChars_cases)
    hsplit hnonblank

theorem not_mem_of_isScheme {scheme : List Char} (h : isScheme scheme = true) :
    ':' ∉ scheme := fun hmem => absurd (forall_mem_of_isScheme h ':' hmem) (by decide)

theorem splitScheme_append {scheme place : List Char} (hscheme : isScheme scheme = true) :
    splitScheme (scheme ++ ([':', '/', '/'] ++ place)) = .ok (some (lowerCase scheme), place) := by
  rw [splitScheme, splitFirst_append_mark (not_mem_of_isScheme hscheme)]
  exact if_pos hscheme

theorem chars_of_scheme {scheme : String} (h : endpoint.scheme = some scheme) :
    endpoint.chars = scheme.toList ++ ([':', '/', '/'] ++ endpoint.placeChars) := by
  obtain ⟨given, host, port, path⟩ := endpoint
  cases h
  cases port <;> cases path <;> simp [chars, placeChars, portChars, pathChars]

/-- An endpoint with a scheme in lower case is read from its own text. -/
theorem Kept.read_text {scheme : String} (h : endpoint.Kept)
    (hgiven : endpoint.scheme = some scheme) (hscheme : isScheme scheme.toList = true)
    (hlower : lowerCase scheme.toList = scheme.toList) : read endpoint.text = .ok endpoint := by
  have hchars := chars_of_scheme hgiven
  obtain ⟨c, rest, hhost⟩ :=
    List.exists_cons_of_ne_nil (show endpoint.host.toList ≠ [] by simpa using h.host_ne_empty)
  have hplace : c ∈ endpoint.placeChars := by simp [placeChars, hhost]
  have hmem : c ∈ endpoint.chars := by simp [hchars, hplace]
  rw [read, text, String.toList_ofList]
  refine h.ofChars_eq ?_ (isBlankText_eq_false hmem (h.isVisibleAscii_of_mem c hplace))
  rw [hchars, splitScheme_append hscheme, hgiven, hlower]
  rfl

end ClusterLink.Endpoint
