import ClusterLink.Proofs.Endpoint.RoundTrip

/-!
# Clean endpoints

Whatever text an endpoint is read from, it is clean: its scheme is in lower case, its host is a name
without separators or an address in brackets, its port is the number that the text says, its path
starts with a slash and holds no dots, and its own text is one line of visible ASCII. Every
character of the text is followed to the part that it ends up in, or to the rule that refuses it.
-/

namespace ClusterLink.Endpoint

open Text

variable {source : String} {endpoint : Endpoint} {text : List Char}

/-! ## Clean parts -/

def IsCleanScheme : List Char → Prop
  | [] => False
  | first :: rest =>
      first.isLower = true ∧
        ∀ c ∈ rest, c.isLower = true ∨ c.isDigit = true ∨ c = '+' ∨ c = '-' ∨ c = '.'

def IsLiteral (host : List Char) : Prop :=
  ∃ body groups, host = '[' :: body ++ [']'] ∧ IPv6.read? body = some groups ∧
    ∀ c ∈ body, c = ':' ∨ (hexDigit? c).isSome = true

/-- Characters that separate the parts of an address of the web, or that mark it up. -/
def separators : List Char := ['/', '?', '#', '@', '\\', '<', '>', '^', '|', ' ']

/-- Characters that stand in a host only where it is an address. -/
def literalMarks : List Char := [':', '[', ']']

structure IsCleanHost (host : List Char) : Prop where
  ne_nil : host ≠ []
  not_separator : ∀ c ∈ host, c ∉ separators
  literal : ∀ c ∈ literalMarks, c ∈ host → IsLiteral host

def dotSpellings : List (List Char) := [".".toList, "%2e".toList, "%2E".toList]

def IsDots (segment : List Char) : Prop :=
  segment ∈ dotSpellings ∨
    ∃ first ∈ dotSpellings, ∃ second ∈ dotSpellings, segment = first ++ second

structure IsCleanPath (path : List Char) : Prop where
  rooted : path.head? = some '/'
  no_query : '?' ∉ path
  no_fragment : '#' ∉ path
  undotted : ∀ segment ∈ path.splitOn '/', ¬ IsDots segment

/-- The digits stand in the text in this order, and this is the number that they say. -/
def SaysPort (text : List Char) (port : UInt16) : Prop :=
  ∃ digits : List Char, digits.Sublist text ∧ digits ≠ [] ∧ (∀ c ∈ digits, c.isDigit = true) ∧
    Nat.ofDigitChars 10 digits 0 = port.toNat ∧ port.toNat ≤ 65535

/-- The endpoint is clean in every part and as a whole, as is the text that it is read from. -/
structure Clean (source : String) (endpoint : Endpoint) : Prop where
  no_query : '?' ∉ source.toList
  no_fragment : '#' ∉ source.toList
  scheme : ∀ scheme ∈ endpoint.scheme, IsCleanScheme scheme.toList
  host : IsCleanHost endpoint.host.toList
  port : ∀ port ∈ endpoint.port, SaysPort source.toList port
  path : ∀ path ∈ endpoint.path, IsCleanPath path.toList
  visible : ∀ c ∈ endpoint.text.toList, 0x20 < c.toNat ∧ c.toNat < 0x7F

/-! ## Schemes -/

theorem isLower_or_isDigit_of_toLower_eq {c : Char} (h : c.isAlphanum = true)
    (hlower : c.toLower = c) : c.isLower = true ∨ c.isDigit = true := by
  rcases isAlphanum_iff.1 h with halpha | hdigit
  · exact .inl (hlower ▸ isLower_toLower_iff.2 halpha)
  · exact .inr hdigit

theorem isCleanScheme_of_isScheme {scheme : List Char} (h : isScheme scheme = true)
    (hlower : lowerCase scheme = scheme) : IsCleanScheme scheme := by
  cases scheme with
  | nil => cases h
  | cons first rest =>
      simp only [isScheme, Bool.and_eq_true, List.all_eq_true] at h
      simp only [lowerCase, List.map_cons, List.cons.injEq] at hlower
      have hrest : ∀ c ∈ rest, c.toLower = c :=
        List.map_inj_left.1 (hlower.2.trans (List.map_id rest).symm)
      constructor
      · rw [← hlower.1]
        exact isLower_toLower_iff.2 h.1
      · intro c hmem
        have hc := h.2 c hmem
        simp only [Bool.or_eq_true, beq_iff_eq] at hc
        rcases hc with ((halphanum | hplus) | hminus) | hdot
        · rcases isLower_or_isDigit_of_toLower_eq halphanum (hrest c hmem) with h | h
          · exact .inl h
          · exact .inr (.inl h)
        · exact .inr (.inr (.inl hplus))
        · exact .inr (.inr (.inr (.inl hminus)))
        · exact .inr (.inr (.inr (.inr hdot)))

theorem isVisibleAscii_of_mem_scheme {scheme : List Char} (h : isScheme scheme = true) :
    ∀ c ∈ scheme, isVisibleAscii c = true := by
  intro c hmem
  have hc := forall_mem_of_isScheme h c hmem
  simp only [Bool.or_eq_true, beq_iff_eq] at hc
  rcases hc with ((halphanum | rfl) | rfl) | rfl
  · exact isVisibleAscii_of_isAlphanum halphanum
  · decide
  · decide
  · decide

/-! ## Hosts -/

theorem IsHost.isCleanHost {host : List Char} (h : IsHost host) (hnonempty : host ≠ []) :
    IsCleanHost host := by
  cases h with
  | @address groups haddress =>
      have hliteral : IsLiteral ('[' :: IPv6.write groups ++ [']']) :=
        ⟨_, groups, rfl, IPv6.read?_write haddress, fun c hmem => IPv6.mem_write hmem⟩
      refine ⟨hnonempty, fun c hmem => ?_, fun _ _ _ => hliteral⟩
      have hdigits : ∀ other ∈ separators, hexDigit? other = none := by simp [separators, hexDigit?]
      rcases mem_literal hmem with rfl | rfl | hdigit | rfl
      · decide
      · decide
      · exact fun hseparator => ne_of_hexDigit? hdigit (hdigits c hseparator) rfl
      · decide
  | name hvisible hallowed =>
      have hseparators : ∀ c ∈ separators, isForbiddenInHost c = true := List.all_eq_true.1 rfl
      have hmarks : ∀ c ∈ literalMarks, isForbiddenInHost c = true := List.all_eq_true.1 rfl
      refine ⟨hnonempty, fun c hmem hseparator => ?_, fun c hmark hmem => ?_⟩
      · have hforbidden := hseparators c hseparator
        rw [hallowed c hmem] at hforbidden
        cases hforbidden
      · have hforbidden := hmarks c hmark
        rw [hallowed c hmem] at hforbidden
        cases hforbidden

/-! ## Ports -/

theorem saysPort_of_read (h : read source = .ok endpoint) :
    ∀ port ∈ endpoint.port, SaysPort source.toList port := by
  obtain ⟨scheme, rest, location, hparts⟩ := ofChars_eq_ok_iff.1 h
  obtain ⟨place, after, hlocated⟩ := exists_located hparts.located
  obtain ⟨lead, hlead, -⟩ := exists_lead_of_splitScheme hparts.split
  intro port hport
  rw [hparts.endpoint_eq] at hport
  obtain ⟨written, hwritten, hread⟩ := hlocated.port_read port hport
  obtain ⟨hdigits, hvalue⟩ := readPort_eq_some hread
  have hplace : written.Sublist place := by
    rw [← append_splitHost false place, hwritten]
    exact (List.sublist_cons_self ':' written).trans (List.sublist_append_right _ _)
  have hauthority : place.Sublist (tidy rest) :=
    hlocated.place_suffix.sublist.trans (List.takeWhile_sublist _)
  have hrest : rest.Sublist source.toList := by
    rw [hlead]
    exact List.sublist_append_right _ _
  refine ⟨written.takeWhile Char.isDigit, ?_, hdigits, fun c hmem => List.mem_takeWhile_imp hmem,
    hvalue, Nat.le_of_lt_succ port.toNat_lt⟩
  exact (List.takeWhile_sublist _).trans
    (hplace.trans (hauthority.trans ((tidy_sublist rest).trans hrest)))

/-! ## Paths -/

theorem Path.Settled.not_isDots {segment : List Char} (h : Path.Settled segment) :
    ¬ IsDots segment := by
  have hsingle : ∀ dot ∈ dotSpellings, Path.isSingleDot dot = true := by decide
  have hdouble : ∀ first ∈ dotSpellings, ∀ second ∈ dotSpellings,
      Path.isDoubleDot (first ++ second) = true := by decide
  rintro (hdot | ⟨first, hfirst, second, hsecond, rfl⟩)
  · have hsettled := h.single_eq
    rw [hsingle segment hdot] at hsettled
    cases hsettled
  · have hsettled := h.double_eq
    rw [hdouble first hfirst second hsecond] at hsettled
    cases hsettled

theorem isCleanPath_of_read? {path : List Char} (h : Path.read? text = some path) :
    IsCleanPath path := by
  have hkept := Path.isKept_of_mem_read? h
  refine ⟨Path.head?_of_read? h, fun hmem => ?_, fun hmem => ?_, ?_⟩
  · exact absurd (hkept '?' hmem) (by decide)
  · exact absurd (hkept '#' hmem) (by decide)
  · obtain ⟨parts, rfl, hnonempty, hsettled⟩ := Path.exists_settled_of_read? h
    obtain ⟨first, rest, rfl⟩ := List.exists_cons_of_ne_nil hnonempty
    have hslash : ∀ part ∈ first :: rest, '/' ∉ part := fun part hmem =>
      (hsettled part hmem).slash_not_mem
    intro segment hmem
    rw [← pieces_eq_splitOn, Path.write_cons, pieces, if_pos rfl,
      pieces_intercalate hslash hnonempty] at hmem
    rcases List.mem_cons.1 hmem with rfl | hpart
    · exact Path.settled_nil.not_isDots
    · exact (hsettled segment hpart).not_isDots

/-! ## Sources and texts -/

/-- What opens a query or a fragment ends up in the text of the path, where it is refused. -/
theorem opensTail_eq_false_of_read (h : read source = .ok endpoint) :
    ∀ c ∈ source.toList, opensTail c = false := by
  obtain ⟨scheme, rest, location, hparts⟩ := ofChars_eq_ok_iff.1 h
  obtain ⟨place, after, hlocated⟩ := exists_located hparts.located
  obtain ⟨lead, hlead, hclosed⟩ := exists_lead_of_splitScheme hparts.split
  intro c hmem
  rw [hlead, List.mem_append] at hmem
  rcases hmem with hmem | hmem
  · exact hclosed c hmem
  · rw [← Bool.not_eq_true]
    intro hopens
    have hvisible : 0x20 < c.toNat := by rcases opensTail_iff.1 hopens with rfl | rfl <;> decide
    have hends : endsAuthority c = true := by
      rcases opensTail_iff.1 hopens with rfl | rfl <;> decide
    have hpath : c ∈ location.path := by
      rw [hlocated.path_eq]
      exact List.mem_append_right _ (mem_dropWhile (mem_tidy hmem hvisible) (by simp [hends]))
    exact List.find?_eq_none.1 hparts.path_closed c hpath hopens

theorem isVisibleAscii_of_mem_text (h : read source = .ok endpoint) :
    ∀ c ∈ endpoint.text.toList, isVisibleAscii c = true := by
  have hplace := (kept_of_read h).isVisibleAscii_of_mem
  rw [Endpoint.text, String.toList_ofList]
  cases hscheme : endpoint.scheme with
  | none =>
      rw [chars_of_bare hscheme]
      exact hplace
  | some scheme =>
      obtain ⟨hwritten, -⟩ := scheme_of_read h scheme hscheme
      have hmark : ∀ c ∈ [':', '/', '/'], isVisibleAscii c = true := List.all_eq_true.1 rfl
      rw [chars_of_scheme hscheme]
      exact List.forall_mem_append.2 ⟨isVisibleAscii_of_mem_scheme hwritten,
        List.forall_mem_append.2 ⟨hmark, hplace⟩⟩

/-- Endpoints that are read are clean, whatever text they are read from. -/
theorem clean_of_read (h : read source = .ok endpoint) : Clean source endpoint := by
  have hclosed := opensTail_eq_false_of_read h
  have hkept := kept_of_read h
  constructor
  case no_query => exact fun hmem => absurd (hclosed '?' hmem) (by decide)
  case no_fragment => exact fun hmem => absurd (hclosed '#' hmem) (by decide)
  case scheme =>
    intro scheme hscheme
    obtain ⟨hwritten, hlower⟩ := scheme_of_read h scheme hscheme
    exact isCleanScheme_of_isScheme hwritten hlower
  case host => exact hkept.host.isCleanHost (by simpa using hkept.host_ne_empty)
  case port => exact saysPort_of_read h
  case path => exact fun path hpath => isCleanPath_of_read? (hkept.path_eq path hpath)
  case visible => exact fun c hmem => isVisibleAscii_iff.1 (isVisibleAscii_of_mem_text h c hmem)

/-- Of tabs, line breaks, capitals and dots that are written as `%2E`, nothing is left. -/
theorem clean_messyText :
    read "HTTPs+v1.0://\t[2001:DB8:0::0:1]:009200/a/%2E%2e/./b cé\\./x|y \n" =
        .ok ⟨some "https+v1.0", "[2001:db8::1]", some 9200, some "/b%20c%C3%A9\\./x|y"⟩ ∧
      Clean "HTTPs+v1.0://\t[2001:DB8:0::0:1]:009200/a/%2E%2e/./b cé\\./x|y \n"
        ⟨some "https+v1.0", "[2001:db8::1]", some 9200, some "/b%20c%C3%A9\\./x|y"⟩ := by
  have hread : read "HTTPs+v1.0://\t[2001:DB8:0::0:1]:009200/a/%2E%2e/./b cé\\./x|y \n" =
      .ok ⟨some "https+v1.0", "[2001:db8::1]", some 9200, some "/b%20c%C3%A9\\./x|y"⟩ := by
    decide +kernel
  exact ⟨hread, clean_of_read hread⟩

end ClusterLink.Endpoint
