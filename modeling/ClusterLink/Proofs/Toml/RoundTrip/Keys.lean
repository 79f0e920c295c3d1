import ClusterLink.Proofs.Toml.RoundTrip.Strings

/-!
# Keys that are read back

A name is read back from the key that is written for it, with or without quotes, and a path from the
header that is written for it.
-/

namespace ClusterLink.Toml

variable {text after : List Char} {names path : List String} {fuel : Nat}

/-! ## Joined texts -/

theorem joined_cons (mark text : List Char) (others : List (List Char)) :
    joined mark (text :: others) = text ++ others.flatMap (mark ++ ·) := by
  induction others generalizing text with
  | nil => simp [joined]
  | cons next others ih =>
      rw [joined, ih, List.flatMap_cons]
      · simp
      · simp

/-! ## Texts without a filler at their start -/

def Unfilled (text : List Char) : Prop := ∀ c ∈ text.head?, c ∉ [' ', '\t', '\n', '\r', '#']

theorem Unfilled.dropGap_eq (h : Unfilled text) : dropGap text = text := by
  cases text with
  | nil => rfl
  | cons c rest =>
      have hc := h c rfl
      have hgap : isGap c = false := by
        simp only [List.mem_cons, not_or] at hc
        simp [isGap, hc.1, hc.2.1]
      rw [dropGap, List.dropWhile_cons_of_neg (by simp [hgap])]

theorem Unfilled.dropFiller_eq (h : Unfilled text) : dropFiller false text = some text := by
  cases text with
  | nil => rfl
  | cons c rest =>
      have hc := h c rfl
      simp only [List.mem_cons, not_or] at hc
      obtain ⟨hspace, htab, hline, hreturn, hmark, -⟩ := hc
      have hunbroken : lineBreak? (c :: rest) = none :=
        lineBreak?_cons_eq_none hline fun _ h => absurd h hreturn
      simp [dropFiller_of_unbroken hunbroken, isGap, hspace, htab, hmark]

/-! ## Names -/

def StartsKey (text : List Char) : Prop := ∃ c ∈ text.head?, isBareChar c = true ∨ c = '"'

theorem StartsKey.unfilled (h : StartsKey text) : Unfilled text := by
  obtain ⟨c, hc, hstart⟩ := h
  intro d hd hfiller
  cases Option.mem_unique hc hd
  simp only [List.mem_cons, List.not_mem_nil, or_false] at hfiller
  rcases hfiller with rfl | rfl | rfl | rfl | rfl <;> exact absurd hstart (by decide)

theorem StartsKey.ne_nil (h : StartsKey text) : text ≠ [] := by
  rintro rfl
  obtain ⟨c, hc, -⟩ := h
  cases hc

theorem StartsKey.head?_ne (h : StartsKey text) : text.head? ≠ some '[' := by
  obtain ⟨c, hc, hstart⟩ := h
  intro hopens
  cases hc.symm.trans hopens
  exact absurd hstart (by decide)

/-- A name that a bare key can hold is written as it is, and any other one in quotes. -/
theorem writeKey_cases (name : String) :
    writeKey name = name.toList ∧ name.toList ≠ [] ∧ (∀ c ∈ name.toList, isBareChar c = true) ∨
      writeKey name = '"' :: (escaped 0 false 0 name.toList ++ ['"']) := by
  unfold writeKey
  dsimp only
  split
  next hbare =>
    rw [Bool.and_eq_true, List.all_eq_true] at hbare
    obtain ⟨hwritten, hbare⟩ := hbare
    refine .inl ⟨rfl, ?_, hbare⟩
    intro hnil
    rw [hnil] at hwritten
    exact absurd hwritten (by decide)
  next => exact .inr rfl

theorem startsKey_writeKey (name : String) (after : List Char) :
    StartsKey (writeKey name ++ after) := by
  rcases writeKey_cases name with ⟨hwritten, hne, hbare⟩ | hwritten
  · obtain ⟨c, more, htext⟩ := List.exists_cons_of_ne_nil hne
    rw [hwritten, htext]
    exact ⟨c, rfl, .inl (hbare c (htext ▸ List.mem_cons_self))⟩
  · rw [hwritten]
    exact ⟨'"', rfl, .inr rfl⟩

theorem readKeyPart_writeKey (name : String) (hafter : ∀ c ∈ after.head?, isBareChar c = false) :
    readKeyPart (writeKey name ++ after) =
      some (⟨name, (writeKey name ++ after).length, after.length⟩, after) := by
  rcases writeKey_cases name with ⟨hwritten, hne, hbare⟩ | hwritten
  · have hstop : after.takeWhile isBareChar = [] ∧ after.dropWhile isBareChar = after := by
      cases after with
      | nil => exact ⟨rfl, rfl⟩
      | cons c after => simp [hafter c rfl]
    have htaken : (name.toList ++ after).takeWhile isBareChar = name.toList := by
      rw [List.takeWhile_append_of_pos hbare, hstop.1, List.append_nil]
    have hleft : (name.toList ++ after).dropWhile isBareChar = after := by
      rw [List.dropWhile_append_of_pos hbare, hstop.2]
    have hread := readKeyPart_eq_of_bare (htaken.trans_ne hne)
    rwa [htaken, hleft, String.ofList_toList, ← hwritten] at hread
  · have hread : readBasic (escaped 0 false 0 name.toList ++ '"' :: after) =
        some (name.toList, after) :=
      readBasicFrom_escaped (by rw [List.length_append]; omega)
    rw [hwritten, List.cons_append, List.append_assoc, List.singleton_append]
    simp only [readKeyPart, hread, Option.map_some, String.ofList_toList]

/-! ## Paths -/

/-- What ends a key: no character of a bare key, and no dot after spaces. -/
structure EndsKey (after : List Char) : Prop where
  head : ∀ c ∈ after.head?, isBareChar c = false
  noDot : (dropGap after).head? ≠ some '.'

def dotted (names : List String) : List Char := names.flatMap fun name => '.' :: writeKey name

theorem joined_writeKey (name : String) (names : List String) :
    joined ['.'] ((name :: names).map writeKey) = writeKey name ++ dotted names := by
  rw [List.map_cons, joined_cons, List.flatMap_map]
  rfl

theorem dotted_cons_append (name : String) (names : List String) (after : List Char) :
    dotted (name :: names) ++ after = '.' :: (writeKey name ++ (dotted names ++ after)) := by
  rw [dotted, List.flatMap_cons, List.append_assoc, List.cons_append]
  rfl

theorem EndsKey.head_dotted (hafter : EndsKey after) (names : List String) :
    ∀ c ∈ (dotted names ++ after).head?, isBareChar c = false := by
  cases names with
  | nil => exact hafter.head
  | cons name names =>
      rintro c ⟨⟩
      decide

theorem readKeyParts_dotted (hafter : EndsKey after) (hfuel : (dotted names).length < fuel) :
    ∃ keys : List Key, keys.map Key.name = names ∧
      readKeyParts fuel (dotted names ++ after) = some (keys, after) := by
  induction names generalizing fuel with
  | nil =>
      obtain ⟨fuel, rfl⟩ := Nat.exists_eq_add_one_of_ne_zero (Nat.ne_zero_of_lt hfuel)
      refine ⟨[], rfl, ?_⟩
      rw [dotted, List.flatMap_nil, List.nil_append, readKeyParts]
      split
      next hdot => exact absurd (congrArg List.head? hdot) hafter.noDot
      next => rfl
  | cons name names ih =>
      obtain ⟨fuel, rfl⟩ := Nat.exists_eq_add_one_of_ne_zero (Nat.ne_zero_of_lt hfuel)
      have hrest : (dotted names).length < fuel := by
        rw [dotted, List.flatMap_cons, List.length_append, List.length_cons] at hfuel
        rw [dotted]
        omega
      obtain ⟨keys, hkeys, hread⟩ := ih hrest
      have hkey := readKeyPart_writeKey name (hafter.head_dotted names)
      generalize Span.mk (writeKey name ++ (dotted names ++ after)).length
        (dotted names ++ after).length = span at hkey
      have hgap := (startsKey_writeKey name (dotted names ++ after)).unfilled.dropGap_eq
      have hdot : dropGap ('.' :: (writeKey name ++ (dotted names ++ after))) =
          '.' :: (writeKey name ++ (dotted names ++ after)) := rfl
      refine ⟨⟨name, span⟩ :: keys, congrArg (name :: ·) hkeys, ?_⟩
      rw [dotted_cons_append, readKeyParts, hdot]
      simp only [hgap, hkey, hread, Option.bind_eq_bind, Option.bind_some]

/-- A path is read back from its names with dots between them. -/
theorem readKey_joined (hpath : path ≠ []) (hdepth : path.length ≤ maxDepth)
    (hafter : EndsKey after) :
    ∃ (keys : List Key) (key : Key), (keys ++ [key]).map Key.name = path ∧
      readKey (joined ['.'] (path.map writeKey) ++ after) = some ((keys, key), after) := by
  obtain ⟨name, names, rfl⟩ := List.exists_cons_of_ne_nil hpath
  have hfirst := readKeyPart_writeKey name (hafter.head_dotted names)
  have hfuel : (dotted names).length < (dotted names ++ after).length + 1 := by
    rw [List.length_append]
    omega
  obtain ⟨others, hnames, hothers⟩ := readKeyParts_dotted hafter hfuel
  generalize hspan : Span.mk (writeKey name ++ (dotted names ++ after)).length
    (dotted names ++ after).length = span at hfirst
  obtain ⟨keys, key, hkeys⟩ : ∃ keys key, ⟨name, span⟩ :: others = keys ++ [key] :=
    ⟨_, _, (List.dropLast_concat_getLast (List.cons_ne_nil _ others)).symm⟩
  have hsplit : (keys ++ [key]).map Key.name = name :: names := by
    rw [← hkeys, List.map_cons, hnames]
  have hshort : keys.length < maxDepth := by
    have hlength := congrArg List.length hsplit
    rw [List.length_map, List.length_append, List.length_singleton] at hlength
    omega
  refine ⟨keys, key, hsplit, ?_⟩
  rw [joined_writeKey, List.append_assoc, readKey, hfirst]
  simp only [Option.bind_eq_bind, Option.bind_some, hothers, hkeys, List.reverse_append,
    List.reverse_singleton, List.singleton_append, List.length_reverse, if_pos hshort,
    List.reverse_reverse]

/-- One name is a path of its own. -/
theorem readKey_writeKey (name : String) (hafter : EndsKey after) :
    ∃ key : Key, key.name = name ∧ readKey (writeKey name ++ after) = some (([], key), after) := by
  obtain ⟨keys, key, hkeys, hread⟩ :=
    readKey_joined (List.cons_ne_nil name []) (by decide : 1 ≤ maxDepth) hafter
  rw [List.map_append, List.map_singleton] at hkeys
  obtain ⟨hpath, hname⟩ := List.append_inj' (hkeys.trans (List.nil_append [name]).symm) rfl
  cases List.map_eq_nil_iff.1 hpath
  exact ⟨key, List.singleton_inj.1 hname, hread⟩

/-! ## Headers -/

/-- A header and the end of its line are read back, and nothing of what follows. -/
theorem readHeader_writeHeader (hpath : path ≠ []) (hdepth : path.length ≤ maxDepth)
    (after : List Char) :
    ∃ header : Header, (header.path ++ [header.key]).map Key.name = path ∧
      header.isElement = false ∧ (writeHeader path ++ after).head? = some '[' ∧
      readHeader (writeHeader path ++ after) = some (header, '\n' :: after) := by
  have hends : EndsKey (']' :: '\n' :: after) := ⟨fun c hc => by cases hc; decide, by
    simp [dropGap, isGap]⟩
  obtain ⟨keys, key, hkeys, hread⟩ := readKey_joined hpath hdepth hends
  obtain ⟨name, names, rfl⟩ := List.exists_cons_of_ne_nil hpath
  have hwritten : writeHeader (name :: names) ++ after =
      '[' :: (joined ['.'] ((name :: names).map writeKey) ++ ']' :: '\n' :: after) := by
    simp [writeHeader]
  have hstart := startsKey_writeKey name (dotted names ++ ']' :: '\n' :: after)
  rw [← List.append_assoc, ← joined_writeKey] at hstart
  refine ⟨⟨keys, key, ⟨(writeHeader (name :: names) ++ after).length, ('\n' :: after).length⟩,
    false⟩, hkeys, rfl, congrArg List.head? hwritten, ?_⟩
  rw [hwritten, readHeader]
  · have hclosing : readMark ']' (dropGap (']' :: '\n' :: after)) = some ((), '\n' :: after) := rfl
    simp only [hstart.unfilled.dropGap_eq, hread, hclosing, Option.bind_eq_bind, Option.bind_some]
  · intro rest h
    exact hstart.head?_ne (congrArg List.head? h)

end ClusterLink.Toml
