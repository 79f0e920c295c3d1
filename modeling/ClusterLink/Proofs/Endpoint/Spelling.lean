import ClusterLink.Proofs.Endpoint.Text
import Mathlib.Tactic.FinCases

/-!
# Documented spellings of endpoints

An endpoint may be written with a scheme, with two slashes or with neither, with a port or without
one, and with a path or without one. Each of these spellings is read as exactly the parts that it
is put together from; only a port that is too large is refused.
-/

namespace ClusterLink.Endpoint

open Text

variable {segment : List Char} {segments : List (List Char)} {c : Char}

inductive Opening where
  | bare
  | slashes
  | scheme (written : List Char)

def Opening.chars : Opening → List Char
  | .bare => []
  | .slashes => ['/', '/']
  | .scheme written => written ++ [':', '/', '/']

def Opening.scheme? : Opening → Option (List Char)
  | .scheme written => some (written.map Char.toLower)
  | _ => none

structure Spelling where
  opening : Opening
  host : List Char
  port : Option (List Char)
  segments : List (List Char)

def IsSchemeName : List Char → Prop
  | [] => False
  | first :: rest =>
      first.isAlpha = true ∧ ∀ c ∈ rest, c.isAlphanum = true ∨ c ∈ ['+', '-', '.']

namespace Spelling

def place (spelling : Spelling) : List Char :=
  spelling.host ++ writtenPort spelling.port ++ Path.write spelling.segments

def text (spelling : Spelling) : String :=
  String.ofList (spelling.opening.chars ++ spelling.place)

def portValue? (spelling : Spelling) : Option Nat :=
  spelling.port.bind fun digits =>
    if digits = [] then none else some (Nat.ofDigitChars 10 digits 0)

def PortFits (spelling : Spelling) : Prop := ∀ value ∈ spelling.portValue?, value ≤ 65535

instance (spelling : Spelling) : Decidable spelling.PortFits :=
  inferInstanceAs (Decidable (∀ value ∈ spelling.portValue?, value ≤ 65535))

/--
The characters that are allowed in each part. No segment of the path stands for a directory, and
none but the last one is empty.
-/
structure Documented (spelling : Spelling) : Prop where
  scheme : ∀ written, spelling.opening = .scheme written → IsSchemeName written
  host_ne_nil : spelling.host ≠ []
  host : ∀ c ∈ spelling.host, c.isAlphanum = true ∨ c ∈ ['.', '_', '-']
  port : ∀ digits ∈ spelling.port, ∀ c ∈ digits, c.isDigit = true
  segments : ∀ segment ∈ spelling.segments, ∀ c ∈ segment,
    c.isAlphanum = true ∨ c ∈ ['-', '.', '_', '~']
  undotted : ∀ segment ∈ spelling.segments, segment ≠ ['.'] ∧ segment ≠ ['.', '.']
  filled : ∀ segment ∈ spelling.segments.dropLast, segment ≠ []

/-- The endpoint consists of exactly what is written. -/
structure Says (spelling : Spelling) (endpoint : Endpoint) : Prop where
  scheme_eq : endpoint.scheme = spelling.opening.scheme?.map String.ofList
  host_eq : endpoint.host.toList = spelling.host
  port_eq : endpoint.port.map UInt16.toNat = spelling.portValue?
  path_eq : endpoint.path =
    if spelling.segments = [] then none else some (String.ofList (Path.write spelling.segments))

end Spelling

/-! ## Openings -/

theorem IsSchemeName.isScheme {written : List Char} (h : IsSchemeName written) :
    isScheme written = true := by
  cases written with
  | nil => cases h
  | cons first rest => simpa [Endpoint.isScheme, IsSchemeName, or_assoc] using h

/-- The opening is told from a place without two slashes at its start and the mark of a scheme. -/
theorem splitScheme_opening {opening : Opening} {place : List Char}
    (hscheme : ∀ written, opening = .scheme written → IsSchemeName written)
    (hslashes : ¬ ['/', '/'] <+: place) (hmark : ¬ [':', '/', '/'] <:+: place) :
    splitScheme (opening.chars ++ place) = .ok (opening.scheme?, place) := by
  cases opening with
  | bare =>
      rw [Opening.chars, List.nil_append, splitScheme, splitFirst_eq_none_iff.2 hmark,
        dropLead?_eq_none_iff.2 hslashes]
      rfl
  | slashes =>
      have hopened : ¬ [':', '/', '/'] <:+: ['/', '/'] ++ place := by
        rwa [infix_append_left_iff (by decide)]
      rw [Opening.chars, splitScheme, splitFirst_eq_none_iff.2 hopened,
        dropLead?_eq_some_iff.2 rfl]
      rfl
  | scheme written =>
      rw [Opening.chars, List.append_assoc, splitScheme_append (hscheme written rfl).isScheme]
      rfl

/-! ## Hosts -/

theorem isHost_of_name {host : List Char}
    (h : ∀ c ∈ host, c.isAlphanum = true ∨ c ∈ ['.', '_', '-']) : IsHost host := by
  refine .name (fun c hmem => ?_) fun c hmem => ?_
  · rcases h c hmem with halphanum | hmark
    · exact isVisibleAscii_of_isAlphanum halphanum
    · fin_cases hmark <;> rfl
  · rw [← Bool.not_eq_true]
    intro hforbidden
    have hname := h c hmem
    simp only [isForbiddenInHost, List.contains_eq_mem, decide_eq_true_eq] at hforbidden
    fin_cases hforbidden <;> exact absurd hname (by decide)

/-! ## Paths -/

namespace Path

theorem plainDots_eq (h : '%' ∉ segment) : plainDots segment = segment := by
  fun_induction plainDots segment with
  | case1 => simp at h
  | case2 => simp at h
  | case3 c rest _ _ ih =>
      rw [List.mem_cons, not_or] at h
      rw [ih h.2]
  | case4 => rfl

theorem isKept_of_unreserved (h : c.isAlphanum = true ∨ c ∈ ['-', '.', '_', '~']) :
    isKept c = true := by
  rcases h with halphanum | hmark
  · have hnot : c ∉ ['"', '<', '>', '`', '#', '?', '{', '}'] := by
      intro hmem
      fin_cases hmem <;> cases halphanum
    simp only [isKept, isVisibleAscii_of_isAlphanum halphanum, List.contains_eq_mem, hnot,
      decide_false, Bool.not_false, Bool.and_self]
  · fin_cases hmark <;> rfl

theorem settled_of_unreserved
    (h : ∀ c ∈ segment, c.isAlphanum = true ∨ c ∈ ['-', '.', '_', '~'])
    (hdots : segment ≠ ['.'] ∧ segment ≠ ['.', '.']) : Settled segment := by
  have hpercent : '%' ∉ segment := fun hmem => absurd (h '%' hmem) (by decide)
  constructor
  case single_eq => simpa [isSingleDot, plainDots_eq hpercent] using hdots.1
  case double_eq => simpa [isDoubleDot, plainDots_eq hpercent] using hdots.2
  case slash_not_mem => exact fun hmem => absurd (h '/' hmem) (by decide)
  case kept_of_mem => exact fun c hmem => isKept_of_unreserved (h c hmem)

/-- Slashes never stand side by side if no segment but the last one is empty. -/
theorem slashes_not_infix_write (hslash : ∀ segment ∈ segments, '/' ∉ segment)
    (hfilled : ∀ segment ∈ segments.dropLast, segment ≠ []) :
    ¬ ['/', '/'] <:+: write segments := by
  induction segments with
  | nil => simp [write]
  | cons first rest ih =>
      rw [List.forall_mem_cons] at hslash
      have hwrite : write (first :: rest) = '/' :: (first ++ write rest) := rfl
      have hrest : ¬ ['/', '/'] <:+: write rest := by
        refine ih hslash.2 fun segment hmem => hfilled segment ?_
        cases rest with
        | nil => cases hmem
        | cons second others => exact List.mem_cons_of_mem _ hmem
      rw [hwrite, List.infix_cons_iff, not_or, infix_append_left_iff hslash.1]
      refine ⟨?_, hrest⟩
      rw [List.cons_prefix_cons, not_and]
      rintro -
      cases first with
      | nil =>
          cases rest with
          | nil => simp [write]
          | cons second others => exact absurd rfl (hfilled [] List.mem_cons_self)
      | cons c tail =>
          rintro ⟨others, hothers⟩
          cases hothers
          exact hslash.1 List.mem_cons_self

end Path

/-! ## Spellings -/

namespace Spelling

variable {spelling : Spelling}

def endpoint (spelling : Spelling) : Endpoint where
  scheme := spelling.opening.scheme?.map String.ofList
  host := String.ofList spelling.host
  port := spelling.portValue?.map UInt16.ofNat
  path :=
    if spelling.segments = [] then none else some (String.ofList (Path.write spelling.segments))

theorem readPort_port (h : ∀ digits ∈ spelling.port, ∀ c ∈ digits, c.isDigit = true) :
    readPort (spelling.port.getD []) =
      if spelling.PortFits then .ok (spelling.portValue?.map UInt16.ofNat, [])
      else .error .invalidPort := by
  obtain ⟨opening, host, port, segments⟩ := spelling
  cases port with
  | none => simp [readPort, PortFits, portValue?]
  | some digits =>
      rw [Option.getD_some, readPort_of_digits (h digits rfl)]
      by_cases hempty : digits = [] <;> simp [hempty, PortFits, portValue?]

theorem says_endpoint (h : spelling.PortFits) : spelling.Says spelling.endpoint := by
  refine ⟨rfl, String.toList_ofList, ?_, rfl⟩
  change (spelling.portValue?.map UInt16.ofNat).map UInt16.toNat = spelling.portValue?
  cases hvalue : spelling.portValue? with
  | none => rfl
  | some value =>
      have hbound : value < UInt16.size := Nat.lt_succ_of_le (h value hvalue)
      simp [UInt16.toNat_ofNat_of_lt' hbound]

namespace Documented

theorem settled (h : spelling.Documented) :
    ∀ segment ∈ spelling.segments, Path.Settled segment := fun segment hmem =>
  Path.settled_of_unreserved (h.segments segment hmem) (h.undotted segment hmem)

theorem pathChars_endpoint (spelling : Spelling) :
    spelling.endpoint.pathChars = Path.write spelling.segments := by
  unfold pathChars Spelling.endpoint
  by_cases hsegments : spelling.segments = [] <;> simp [hsegments, Path.write]

theorem kept (h : spelling.Documented) : spelling.endpoint.Kept := by
  refine ⟨?_, ?_, ?_⟩
  · simpa [Spelling.endpoint] using isHost_of_name h.host
  · simpa [Spelling.endpoint] using h.host_ne_nil
  · intro path hpath
    by_cases hsegments : spelling.segments = []
    · simp [Spelling.endpoint, hsegments] at hpath
    · obtain rfl : String.ofList (Path.write spelling.segments) = path := by
        simpa [Spelling.endpoint, hsegments] using hpath
      rw [String.toList_ofList, Path.read?_write h.settled hsegments]

theorem isHostChar_of_mem (h : spelling.Documented) :
    ∀ c ∈ spelling.host ++ writtenPort spelling.port, isHostChar c = true :=
  List.forall_mem_append.2
    ⟨(isHost_of_name h.host).isHostChar_of_mem, isHostChar_of_mem_writtenPort h.port⟩

theorem isVisibleAscii_of_mem (h : spelling.Documented) :
    ∀ c ∈ spelling.place, isVisibleAscii c = true := by
  refine List.forall_mem_append.2 ⟨fun c hmem => ?_, fun c hmem => ?_⟩
  · exact isVisibleAscii_of_isHostChar (h.isHostChar_of_mem c hmem)
  · have hkept : Path.isKept c = true := by
      rw [← pathChars_endpoint] at hmem
      exact h.kept.isKept_of_mem_pathChars c hmem
    simp only [Path.isKept, Bool.and_eq_true] at hkept
    exact hkept.1

/-- The digits of a port are at most followed by one slash, so they never end in a mark. -/
theorem mark_not_infix_place (h : spelling.Documented) :
    ¬ [':', '/', '/'] <:+: spelling.place := by
  have hslash : '/' ∉ spelling.host ++ writtenPort spelling.port := fun hmem => by
    have hends := endsAuthority_of_isHostChar (h.isHostChar_of_mem '/' hmem)
    cases hends
  intro hmark
  have hslashes : ['/', '/'] <:+: spelling.place :=
    (List.suffix_cons ':' ['/', '/']).isInfix.trans hmark
  rw [place, infix_append_left_iff hslash] at hslashes
  exact Path.slashes_not_infix_write (fun segment hmem => (h.settled segment hmem).slash_not_mem)
    h.filled hslashes

theorem head?_place (h : spelling.Documented) :
    ∃ c ∈ spelling.place.head?, isHostChar c = true := by
  obtain ⟨c, rest, hhost⟩ := List.exists_cons_of_ne_nil h.host_ne_nil
  refine ⟨c, by simp [place, hhost], h.isHostChar_of_mem c (by simp [hhost])⟩

theorem splitScheme_text (h : spelling.Documented) :
    splitScheme (spelling.opening.chars ++ spelling.place) =
      .ok (spelling.opening.scheme?, spelling.place) := by
  refine splitScheme_opening h.scheme ?_ h.mark_not_infix_place
  obtain ⟨c, hhead, hchar⟩ := h.head?_place
  rintro ⟨rest, hrest⟩
  rw [← hrest] at hhead
  cases hhead
  cases endsAuthority_of_isHostChar hchar

theorem isBlankText_text (h : spelling.Documented) :
    isBlankText (spelling.opening.chars ++ spelling.place) = false := by
  obtain ⟨c, hhead, -⟩ := h.head?_place
  have hmem : c ∈ spelling.place := List.mem_of_mem_head? hhead
  exact isBlankText_eq_false (List.mem_append_right _ hmem) (h.isVisibleAscii_of_mem c hmem)

theorem locate_place (h : spelling.Documented) :
    locate spelling.place =
      if spelling.PortFits then
        .ok ⟨spelling.host, spelling.portValue?.map UInt16.ofNat, Path.write spelling.segments,
          false⟩
      else .error .invalidPort := by
  have hpath : Path.write spelling.segments = [] ∨
      (Path.write spelling.segments).head? = some '/' := by
    by_cases hsegments : spelling.segments = []
    · exact .inl (by rw [hsegments]; rfl)
    · exact .inr (Path.head?_write hsegments)
  rw [place, locate_written (isHost_of_name h.host) h.host_ne_nil h.port hpath,
    readPort_port h.port]
  split <;> rfl

/-- Every documented spelling is read as what it says, unless its port is too large. -/
theorem read_text (h : spelling.Documented) :
    read spelling.text =
      if spelling.PortFits then .ok spelling.endpoint else .error .invalidPort := by
  have hlocated := h.locate_place
  rw [read, text, String.toList_ofList]
  split
  · rename_i hfits
    rw [if_pos hfits] at hlocated
    refine h.kept.ofChars_of_locate h.isVisibleAscii_of_mem ?_ ?_ h.isBlankText_text
    · rw [hlocated, pathChars_endpoint]
      simp [Spelling.endpoint]
    · rw [h.splitScheme_text]
      simp [Spelling.endpoint, Function.comp_def]
  · rename_i hlarge
    rw [if_neg hlarge] at hlocated
    refine ofChars_of_locate_error h.isBlankText_text h.splitScheme_text ?_
    rw [tidy_eq h.isVisibleAscii_of_mem, hlocated]

end Documented

/--
A documented spelling is read exactly if its port, if it has one, is at most 65535. It is then read
as what it says, and is refused for its port otherwise.
-/
theorem read_documented (h : spelling.Documented) :
    ((∃ endpoint, read spelling.text = .ok endpoint) ↔ spelling.PortFits) ∧
      (∀ endpoint, read spelling.text = .ok endpoint → spelling.Says endpoint) ∧
      (¬ spelling.PortFits → read spelling.text = .error .invalidPort) := by
  rw [h.read_text]
  by_cases hfits : spelling.PortFits
  · have hsays := says_endpoint hfits
    simp [hfits, hsays]
  · simp [hfits]

def full (digits : String) : Spelling where
  opening := .scheme "Https+v1".toList
  host := "es_1.local".toList
  port := some digits.toList
  segments := ["~proxy".toList, "a.b".toList, []]

/-- Leading zeros count for nothing, and no port is cut to fit. -/
theorem read_documented_full :
    (full "00443").Documented ∧
      (full "00443").text = "Https+v1://es_1.local:00443/~proxy/a.b/" ∧
      (∃ endpoint, read (full "00443").text = .ok endpoint ∧
        endpoint.scheme = some "https+v1" ∧ endpoint.port.map UInt16.toNat = some 443) ∧
      read (full "65979").text = .error .invalidPort := by
  have hfitting : (full "00443").Documented := by
    constructor
    case scheme =>
      rintro _ ⟨⟩
      simp [IsSchemeName]
    case host => simp [full]
    case port => simp [full]
    case segments => simp [full]
    all_goals decide
  have hlarge : (full "65979").Documented := { hfitting with port := by simp [full] }
  obtain ⟨hread, hsays, -⟩ := read_documented hfitting
  obtain ⟨endpoint, hfound⟩ := hread.2 (by decide)
  have hparts := hsays endpoint hfound
  refine ⟨hfitting, by decide, ⟨endpoint, hfound, ?_, ?_⟩,
    (read_documented hlarge).2.2 (by decide)⟩
  · rw [hparts.scheme_eq]
    decide
  · rw [hparts.port_eq]
    decide

end Spelling

end ClusterLink.Endpoint
