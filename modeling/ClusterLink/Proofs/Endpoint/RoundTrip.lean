import ClusterLink.Proofs.Endpoint.Settled

/-!
# Endpoints and their texts

An endpoint that is read is read again from its own text, unless it has no scheme and its path holds
the mark that ends one. Such a text is refused: what stands before the mark holds a slash, and no
scheme does. Endpoints that are settled have a scheme, so their texts always give them back.
-/

namespace ClusterLink.Endpoint

open Text

variable {endpoint : Endpoint} {host path authority front rest : List Char}

/-- The endpoint has a scheme, or nothing in its path looks like the end of one. -/
def Unmistakable (endpoint : Endpoint) : Prop :=
  endpoint.scheme.isSome = true ∨ ∀ path ∈ endpoint.path, ¬ "://".toList <:+: path.toList

instance (endpoint : Endpoint) : Decidable endpoint.Unmistakable :=
  inferInstanceAs (Decidable (_ ∨ _))

/-! ## Schemes -/

theorem lowerCase_lowerCase (text : List Char) : lowerCase (lowerCase text) = lowerCase text := by
  rw [lowerCase, lowerCase, List.map_map]
  exact List.map_congr_left fun c _ => toLower_toLower c

theorem isScheme_lowerCase {scheme : List Char} (h : isScheme scheme = true) :
    isScheme (lowerCase scheme) = true := by
  cases scheme with
  | nil => cases h
  | cons c rest =>
      simp only [isScheme, Bool.and_eq_true, List.all_eq_true] at h
      obtain ⟨hfirst, hrest⟩ := h
      simp only [lowerCase, List.map_cons, isScheme, Bool.and_eq_true, List.all_map,
        List.all_eq_true]
      refine ⟨isAlpha_toLower hfirst, fun d hmem => ?_⟩
      have hd := hrest d hmem
      simp only [Bool.or_eq_true, beq_iff_eq] at hd
      rcases hd with ((halphanum | rfl) | rfl) | rfl
      · simp [isAlphanum_toLower halphanum]
      · decide
      · decide
      · decide

/-- A scheme that is read is in lower case. -/
theorem scheme_of_read {source : String} (h : read source = .ok endpoint) :
    ∀ scheme ∈ endpoint.scheme,
      isScheme scheme.toList = true ∧ lowerCase scheme.toList = scheme.toList := by
  obtain ⟨found, rest, location, hparts⟩ := ofChars_eq_ok_iff.1 h
  intro scheme hmem
  obtain ⟨written, rfl, rfl⟩ : ∃ written, found = some written ∧ String.ofList written = scheme := by
    simpa [hparts.endpoint_eq] using hmem
  obtain ⟨front, -, hscheme, rfl⟩ := splitScheme_eq_some hparts.split
  rw [String.toList_ofList]
  exact ⟨isScheme_lowerCase hscheme, lowerCase_lowerCase front⟩

theorem isScheme_eq_false (h : '/' ∈ front) : isScheme front = false := by
  rw [← Bool.not_eq_true]
  intro hscheme
  exact absurd (forall_mem_of_isScheme hscheme '/' h) (by decide)

/-! ## Marks in places -/

/-- Where no slash and no colon at its end stand before a path, a mark has a slash before it. -/
theorem slash_mem_of_mark (hslash : '/' ∉ authority) (hend : authority.getLast? ≠ some ':')
    (hpath : path = [] ∨ path.head? = some '/')
    (h : authority ++ path = front ++ "://".toList ++ rest) : '/' ∈ front := by
  by_contra hfront
  have hcolon : '/' ∉ front ++ [':'] := by simpa using hfront
  have hcut : splitFirst ['/'] (authority ++ path) = some (front ++ [':'], '/' :: rest) := by
    rw [h, splitFirst_eq_some_iff]
    exact ⟨by simp, hcolon⟩
  rcases hpath with rfl | hhead
  · rw [List.append_nil] at hcut
    exact hslash (mem_of_splitFirst hcut)
  · obtain ⟨tail, rfl⟩ := List.head?_eq_some_iff.1 hhead
    rw [splitFirst_append hslash] at hcut
    cases hcut
    simp at hend

/-- What stands before the path is not cut off at a colon. -/
theorem getLast?_authority {port : Option UInt16} (h : IsHost host) (hnonempty : host ≠ []) :
    (host ++ portChars port).getLast? ≠ some ':' := by
  intro hlast
  cases port with
  | none =>
      rw [portChars, List.append_nil] at hlast
      cases h with
      | address haddress =>
          rw [List.getLast?_concat] at hlast
          cases hlast
      | name hvisible hallowed =>
          exact absurd (hallowed ':' (List.mem_of_getLast? hlast)) (by decide)
  | some port =>
      have hdigits : Nat.toDigits 10 port.toNat ≠ [] := by simp
      rw [portChars, List.getLast?_append, List.getLast?_cons_of_ne_nil hdigits,
        List.getLast?_eq_some_getLast hdigits, Option.some_or, Option.some.injEq] at hlast
      have hcolon := isDigit_of_mem_toDigits _ (List.getLast_mem hdigits)
      rw [hlast] at hcolon
      cases hcolon

namespace Kept

theorem slash_not_mem (h : endpoint.Kept) :
    '/' ∉ endpoint.host.toList ++ portChars endpoint.port := by
  have hchars : ∀ c ∈ endpoint.host.toList ++ portChars endpoint.port, isHostChar c = true :=
    List.forall_mem_append.2 ⟨h.host.isHostChar_of_mem, isHostChar_of_mem_portChars⟩
  intro hmem
  have hends := endsAuthority_of_isHostChar (hchars '/' hmem)
  cases hends

theorem slash_mem (h : endpoint.Kept) (hcut : endpoint.placeChars = front ++ "://".toList ++ rest) :
    '/' ∈ front :=
  slash_mem_of_mark h.slash_not_mem (getLast?_authority h.host (by simpa using h.host_ne_empty))
    h.pathChars_cases hcut

/-- A mark in a place is a mark in its path. -/
theorem infix_placeChars_iff (h : endpoint.Kept) :
    "://".toList <:+: endpoint.placeChars ↔ "://".toList <:+: endpoint.pathChars := by
  constructor
  · rintro ⟨front, rest, hcut⟩
    have hslash := h.slash_mem hcut.symm
    rw [placeChars, List.append_assoc, List.append_eq_append_iff] at hcut
    rcases hcut with ⟨inside, hauthority, -⟩ | ⟨inside, hfront, hpath⟩
    · have hmem : '/' ∈ endpoint.host.toList ++ portChars endpoint.port := by
        rw [hauthority]
        exact List.mem_append_left _ hslash
      exact absurd hmem h.slash_not_mem
    · exact ⟨inside, rest, by rw [hpath, List.append_assoc]⟩
  · intro hmark
    exact hmark.trans (List.suffix_append _ _).isInfix

theorem dropLead?_placeChars (h : endpoint.Kept) :
    dropLead? ['/', '/'] endpoint.placeChars = none := by
  obtain ⟨c, rest, hhost⟩ :=
    List.exists_cons_of_ne_nil (show endpoint.host.toList ≠ [] by simpa using h.host_ne_empty)
  rw [dropLead?_eq_none_iff]
  rintro ⟨tail, htail⟩
  have hfirst : c = '/' := by
    rw [placeChars, hhost] at htail
    simpa using (List.head_eq_of_cons_eq htail).symm
  exact h.slash_not_mem (by simp [hhost, hfirst])

theorem isBlankText_placeChars (h : endpoint.Kept) : isBlankText endpoint.placeChars = false := by
  obtain ⟨c, rest, hhost⟩ :=
    List.exists_cons_of_ne_nil (show endpoint.host.toList ≠ [] by simpa using h.host_ne_empty)
  have hmem : c ∈ endpoint.placeChars := by simp [placeChars, hhost]
  exact isBlankText_eq_false hmem (h.isVisibleAscii_of_mem c hmem)

end Kept

theorem chars_of_bare (h : endpoint.scheme = none) : endpoint.chars = endpoint.placeChars := by
  obtain ⟨given, host, port, path⟩ := endpoint
  cases h
  cases port <;> cases path <;> simp [chars, placeChars, portChars, pathChars]

/-! ## Texts without a scheme -/

namespace Kept

theorem read_text_bare (h : endpoint.Kept) (hbare : endpoint.scheme = none)
    (hfree : ¬ "://".toList <:+: endpoint.pathChars) : read endpoint.text = .ok endpoint := by
  have hcut : splitFirst [':', '/', '/'] endpoint.placeChars = none :=
    splitFirst_eq_none_iff.2 (mt h.infix_placeChars_iff.1 hfree)
  have hsplit : splitScheme endpoint.placeChars = .ok (none, endpoint.placeChars) := by
    rw [splitScheme, hcut, h.dropLead?_placeChars]
    rfl
  rw [read, text, String.toList_ofList, chars_of_bare hbare]
  exact h.ofChars_eq (by rw [hsplit, hbare]; rfl) h.isBlankText_placeChars

theorem read_text_mistaken (h : endpoint.Kept) (hbare : endpoint.scheme = none)
    (hmark : "://".toList <:+: endpoint.pathChars) :
    read endpoint.text = .error .malformedScheme := by
  have hcut : splitFirst [':', '/', '/'] endpoint.placeChars ≠ none := fun hnone =>
    splitFirst_eq_none_iff.1 hnone (h.infix_placeChars_iff.2 hmark)
  obtain ⟨⟨front, rest⟩, hfound⟩ := Option.ne_none_iff_exists'.1 hcut
  have hslash := h.slash_mem (append_of_splitFirst hfound)
  have hsplit : splitScheme endpoint.placeChars = .error .malformedScheme := by
    rw [splitScheme, hfound]
    exact if_neg (by rw [isScheme_eq_false hslash]; exact Bool.false_ne_true)
  rw [read, text, String.toList_ofList, chars_of_bare hbare, ofChars, h.isBlankText_placeChars,
    hsplit]
  rfl

end Kept

theorem pathChars_free_iff :
    (¬ "://".toList <:+: endpoint.pathChars) ↔
      ∀ path ∈ endpoint.path, ¬ "://".toList <:+: path.toList := by
  unfold pathChars
  cases endpoint.path <;> simp

/-- An endpoint that is read is read from its own text, or its text is refused. -/
theorem read_text_of_read {source : String} (h : read source = .ok endpoint) :
    (endpoint.Unmistakable → read endpoint.text = .ok endpoint) ∧
      (¬ endpoint.Unmistakable → read endpoint.text = .error .malformedScheme) := by
  have hkept := kept_of_read h
  unfold Unmistakable
  cases hscheme : endpoint.scheme with
  | some scheme =>
      obtain ⟨hvalid, hlower⟩ := scheme_of_read h scheme hscheme
      have hagain := hkept.read_text hscheme hvalid hlower
      exact ⟨fun _ => hagain, fun hnot => absurd (.inl rfl) hnot⟩
  | none =>
      simp only [Option.isSome_none, Bool.false_eq_true, false_or, ← pathChars_free_iff]
      exact ⟨hkept.read_text_bare hscheme, fun hmark =>
        hkept.read_text_mistaken hscheme (Decidable.not_not.1 hmark)⟩

/-! ## Settled hosts -/

/-- Hosts that are brought into agreement are read from the texts that are written for them. -/
theorem readHosts_of_normalizeHosts {sources : List String} {endpoints settled : List Endpoint}
    {tlsEnabled : Option Bool} (hread : Target.readHosts sources = .ok endpoints)
    (h : normalizeHosts endpoints tlsEnabled = .ok settled) :
    (∀ endpoint ∈ settled, endpoint.isComplete = true) ∧
      Target.readHosts (settled.map text) = .ok settled := by
  rw [Target.readHosts_eq_ok_iff] at hread ⊢
  cases tlsEnabled with
  | none =>
      cases endpoints with
      | nil =>
          cases h
          exact ⟨by simp, .nil⟩
      | cons first rest => cases h
  | some tlsEnabled =>
      obtain ⟨-, rfl⟩ := normalizeHosts_eq_ok_iff.1 h
      refine ⟨fun endpoint hmem => ?_, forall₂_read_settled hread⟩
      obtain ⟨source, -, rfl⟩ := List.mem_map.1 hmem
      rfl

/--
Reading and writing are inverse on the endpoints whose texts cannot be mistaken, and on no others;
settled hosts are always read back, one by one and from the list that is written for them.
-/
theorem reread_of_read :
    (∀ source endpoint, read source = .ok endpoint →
      (endpoint.Unmistakable → read endpoint.text = .ok endpoint) ∧
        (¬ endpoint.Unmistakable → read endpoint.text = .error .malformedScheme)) ∧
      ∀ sources endpoints tlsEnabled settled, Target.readHosts sources = .ok endpoints →
        normalizeHosts endpoints tlsEnabled = .ok settled →
          (∀ endpoint ∈ settled, endpoint.isComplete = true ∧ read endpoint.text = .ok endpoint) ∧
            ∃ texts, (Target.hosts settled).members = [("hosts", .list (texts.map .text))] ∧
              Target.readHosts texts = .ok settled := by
  refine ⟨fun source endpoint h => read_text_of_read h, ?_⟩
  intro sources endpoints tlsEnabled settled hread hsettled
  obtain ⟨hcomplete, hagain⟩ := readHosts_of_normalizeHosts hread hsettled
  refine ⟨fun endpoint hmem => ⟨hcomplete endpoint hmem, ?_⟩, settled.map text, ?_, hagain⟩
  · have htexts := List.forall₂_map_left_iff.1 (Target.readHosts_eq_ok_iff.1 hagain)
    exact List.forall₂_same.1 htexts endpoint hmem
  · rw [Target.members, List.map_map]
    rfl

/-- Dots are resolved after the scheme is looked for, so a path may come to hold the mark of one. -/
theorem reread_dottedPath :
    read "es/ab:/.//x" = .ok ⟨none, "es", none, some "/ab://x"⟩ ∧
      read "es/ab://x" = .error .malformedScheme ∧
      Target.readHosts ["HTTP://[2001:DB8:0:0::1]/base/../x y", "es2:9201/x%20y"] =
        .ok [⟨some "http", "[2001:db8::1]", none, some "/x%20y"⟩,
          ⟨none, "es2", some 9201, some "/x%20y"⟩] ∧
      read "http://[2001:db8::1]:9200/x%20y" =
        .ok ⟨some "http", "[2001:db8::1]", some 9200, some "/x%20y"⟩ := by
  have hdotted : read "es/ab:/.//x" = .ok ⟨none, "es", none, some "/ab://x"⟩ := by decide +kernel
  have hmistaken := (reread_of_read.1 _ _ hdotted).2 (by decide +kernel)
  have hhosts : Target.readHosts ["HTTP://[2001:DB8:0:0::1]/base/../x y", "es2:9201/x%20y"] =
      .ok [⟨some "http", "[2001:db8::1]", none, some "/x%20y"⟩,
        ⟨none, "es2", some 9201, some "/x%20y"⟩] := by decide +kernel
  obtain ⟨hsettled, -⟩ := reread_of_read.2 _ _ (some false) _ hhosts rfl
  exact ⟨hdotted, hmistaken, hhosts, (hsettled _ List.mem_cons_self).2⟩

end ClusterLink.Endpoint
