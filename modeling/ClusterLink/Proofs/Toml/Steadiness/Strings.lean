import ClusterLink.Proofs.Toml.Twins

/-!
# Steady readings of strings

Every written form of a string is read up to its closing quotes. How many quotes there are is the
same in all twins, so what is left after them may be any twin.
-/

namespace ClusterLink.Toml

variable {text rest : List Char}

theorem passes_readCodePoint {size : Nat} {c : Char}
    (h : readCodePoint size text = some (c, rest)) :
    Passes text rest fun text rest => readCodePoint size text = some (c, rest) := by
  unfold readCodePoint at h
  split at h
  · cases h
  next hsize =>
    obtain ⟨code, hcode, h⟩ := Option.bind_eq_some_iff.1 h
    obtain ⟨found, hfound, h⟩ := Option.bind_eq_some_iff.1 h
    cases h
    refine ⟨text.take size, (List.take_append_drop size text).symm, fun {other} htwins => ?_⟩
    have htaken : (text.take size).length = size := List.length_take_of_le (Nat.not_lt.1 hsize)
    simp [readCodePoint, htaken, hcode, hfound]

theorem passes_readEscape {c : Char} (h : readEscape text = some (c, rest)) :
    Passes text rest fun text rest => readEscape text = some (c, rest) := by
  unfold readEscape at h
  split at h
  case h_12 => cases h
  case h_9 | h_10 | h_11 =>
    refine ((Passes.cons _ _).trans (passes_readCodePoint h)).imp fun _ _ ⟨_, htext, hread⟩ => ?_
    rw [htext]
    exact hread
  all_goals
    cases h
    exact (Passes.cons _ _).imp fun _ _ htext => by rw [htext]; rfl

theorem passes_readBasicFrom {fuel : Nat} {value : List Char}
    (h : readBasicFrom fuel text = some (value, rest)) :
    Passes text rest fun text rest => readBasicFrom fuel text = some (value, rest) := by
  induction fuel generalizing text value with
  | zero => cases h
  | succ fuel ih =>
      cases text with
      | nil => cases h
      | cons c left =>
          rw [readBasicFrom] at h
          split at h
          next hquote =>
            cases h
            exact (Passes.cons _ _).imp fun _ _ htext => by simp [htext, readBasicFrom, hquote]
          next hquote =>
            split at h
            next hescape =>
              obtain ⟨⟨escaped, after⟩, hread, h⟩ := Option.bind_eq_some_iff.1 h
              obtain ⟨⟨found, left⟩, hfound, h⟩ := Option.map_eq_some_iff.1 h
              cases h
              refine ((Passes.cons _ _).trans ((passes_readEscape hread).trans (ih hfound))).imp
                fun _ _ ⟨_, htext, _, hread, hfound⟩ => ?_
              simp [htext, readBasicFrom, hescape, hread, hfound, prepend]
            next hescape =>
              split at h
              · cases h
              next hcontrol =>
                obtain ⟨⟨found, left⟩, hfound, h⟩ := Option.map_eq_some_iff.1 h
                cases h
                refine ((Passes.cons _ _).trans (ih hfound)).imp fun _ _ ⟨_, htext, hfound⟩ => ?_
                simp [htext, readBasicFrom, hquote, hescape, hcontrol, hfound, prepend]

theorem passes_readBasic {value : List Char} (h : readBasic text = some (value, rest)) :
    Passes text rest fun text rest => readBasic text = some (value, rest) :=
  (passes_readBasicFrom h).sized.imp fun _ _ ⟨hsize, hread⟩ => by rwa [readBasic, hsize]

theorem passes_readLiteral {value : List Char} (h : readLiteral text = some (value, rest)) :
    Passes text rest fun text rest => readLiteral text = some (value, rest) := by
  induction text generalizing value with
  | nil => cases h
  | cons c left ih =>
      rw [readLiteral] at h
      split at h
      next hquote =>
        cases h
        exact (Passes.cons _ _).imp fun _ _ htext => by simp [htext, readLiteral, hquote]
      next hquote =>
        split at h
        · cases h
        next hcontrol =>
          obtain ⟨⟨found, left⟩, hfound, h⟩ := Option.map_eq_some_iff.1 h
          cases h
          refine ((Passes.cons _ _).trans (ih hfound)).imp fun _ _ ⟨_, htext, hfound⟩ => ?_
          simp [htext, readLiteral, hquote, hcontrol, hfound, prepend]

theorem passes_lineBreak? (h : lineBreak? text = some rest) :
    Passes text rest fun text rest => lineBreak? text = some rest := by
  unfold lineBreak? at h
  split at h
  · cases h
    exact (Passes.cons _ _).imp fun _ _ htext => by rw [htext, lineBreak?]
  · cases h
    refine ((Passes.cons _ _).trans (Passes.cons _ _)).imp fun _ _ ⟨_, htext, hmiddle⟩ => ?_
    rw [htext, hmiddle, lineBreak?]
  · cases h

theorem lineBreak?_eq_none_of_twins {other : List Char} (h : lineBreak? text = none)
    (htwins : Twins text other) : lineBreak? other = none := by
  cases hother : lineBreak? other with
  | none => rfl
  | some left =>
      unfold lineBreak? at hother
      split at hother
      · obtain ⟨more, rfl, -⟩ := htwins.symm.cases_cons (by decide) (by decide)
        cases h
      · obtain ⟨_, rfl, hrest⟩ := htwins.symm.cases_cons (by decide) (by decide)
        obtain ⟨more, rfl, -⟩ := hrest.cases_cons (by decide) (by decide)
        cases h
      · cases hother

theorem passes_dropLineBreak (text : List Char) :
    Passes text (dropLineBreak text) fun text rest => dropLineBreak text = rest := by
  unfold dropLineBreak
  cases h : lineBreak? text with
  | some rest => exact (passes_lineBreak? h).imp fun _ _ h => by rw [h]; rfl
  | none =>
      refine (Passes.look (lineBreak?_eq_none_of_twins h)).imp fun _ _ ⟨htext, h⟩ => ?_
      rw [htext, h]
      rfl

theorem passes_dropGap (text : List Char) :
    Passes text (dropGap text) fun text rest => dropGap text = rest :=
  (Passes.dropWhile isGap text).imp fun _ _ h => h.2

theorem passes_dropGapLines (text : List Char) :
    Passes text (dropGapLines text) fun text rest => dropGapLines text = rest := by
  fun_induction dropGapLines text with
  | case1 rest ih =>
      refine ((Passes.cons _ _).trans ((Passes.cons _ _).trans ih)).imp
        fun _ _ ⟨_, htext, _, hmiddle, hrest⟩ => ?_
      rw [htext, hmiddle, dropGapLines, hrest]
  | case2 c rest hpair hblank ih =>
      refine ((Passes.cons _ _).trans ih).imp fun _ _ ⟨_, htext, hrest⟩ => ?_
      rw [htext, dropGapLines, if_pos hblank, hrest]
      rintro _ rfl
      exact absurd hblank (by decide)
  | case3 c rest hpair hblank =>
      have hstays {other : List Char} (htwins : Twins (c :: rest) other) :
          dropGapLines other = other := by
        obtain ⟨more, rfl⟩ := List.head?_eq_some_iff.1 htwins.head?.symm
        rw [dropGapLines, if_neg hblank]
        rintro left rfl rfl
        obtain ⟨_, hrest, hafter⟩ := htwins.symm.cases_cons (by decide) (by decide)
        obtain ⟨after, rfl, -⟩ := hafter.cases_cons (by decide) (by decide)
        exact hpair after rfl (List.cons.inj hrest).2
      exact (Passes.look hstays).imp fun _ _ ⟨htext, hrest⟩ => by rw [htext, hrest]
  | case4 => exact Passes.nil []

/-- A run of quotes that is taken up counts in front of any text. -/
theorem run_append {quote : Char} {taken : List Char} (h : ∀ c ∈ taken, (c == quote) = true)
    (text : List Char) :
    ((taken ++ text).takeWhile (· == quote)).length =
      taken.length + (text.takeWhile (· == quote)).length := by
  rw [List.takeWhile_append_of_pos h, List.length_append]

theorem passes_closing? {quote : Char} {value : List Char}
    (h : closing? quote text = some (value, rest)) :
    Passes text rest fun text rest => closing? quote text = some (value, rest) := by
  rw [closing?] at h
  split at h
  · cases h
  next hquotes =>
    cases h
    generalize hkept : min ((text.takeWhile (· == quote)).length - 3) 2 + 3 = size
    have hsize : size ≤ (text.takeWhile (· == quote)).length := by omega
    have hwhole : text = text.takeWhile (· == quote) ++ text.dropWhile (· == quote) :=
      List.takeWhile_append_dropWhile.symm
    have htaken : text.take size = (text.takeWhile (· == quote)).take size :=
      (congrArg (List.take size) hwhole).trans (List.take_append_of_le_length hsize)
    have hlength : (text.take size).length = size := by
      rw [htaken, List.length_take_of_le hsize]
    have hquoted : ∀ c ∈ text.take size, (c == quote) = true := fun c hc =>
      List.all_eq_true.1 List.all_takeWhile c (List.mem_of_mem_take (htaken ▸ hc))
    refine ⟨text.take size, (List.take_append_drop size text).symm, fun {other} htwins => ?_⟩
    have hrun : ((text.take size ++ other).takeWhile (· == quote)).length =
        (text.takeWhile (· == quote)).length := by
      rw [run_append hquoted, ← htwins.run, ← run_append hquoted, List.take_append_drop]
    simp only [closing?, hrun]
    rw [if_neg hquotes, hkept, List.drop_left' hlength]

theorem closing?_eq_none_of_twins {quote : Char} {other : List Char}
    (h : closing? quote text = none) (htwins : Twins text other) : closing? quote other = none := by
  have hrun := htwins.run quote
  rw [closing?] at h ⊢
  split at h
  next hquotes => rw [← hrun, if_pos hquotes]
  · cases h

theorem passes_readLongBasicFrom {fuel : Nat} {value : List Char}
    (h : readLongBasicFrom fuel text = some (value, rest)) :
    Passes text rest fun text rest => readLongBasicFrom fuel text = some (value, rest) := by
  induction fuel generalizing text value with
  | zero => cases h
  | succ fuel ih =>
      cases text with
      | nil => cases h
      | cons c left =>
          rw [readLongBasicFrom] at h
          split at h
          next hclosing =>
            cases h
            refine (passes_closing? hclosing).sized.imp fun _ _ ⟨hsize, hclosing⟩ => ?_
            obtain ⟨c, left, htext⟩ := List.exists_cons_of_length_eq_add_one hsize
            rw [htext] at hclosing ⊢
            rw [readLongBasicFrom, hclosing]
          next hclosing =>
            have hopen := Passes.look (closing?_eq_none_of_twins hclosing)
            split at h
            next hescape =>
              cases hescape
              split at h
              next next hbreak =>
                refine (hopen.trans ((Passes.cons _ _).trans ((passes_dropGap left).trans
                  ((passes_lineBreak? hbreak).trans
                    ((passes_dropGapLines next).trans (ih h)))))).imp fun _ _
                      ⟨_, ⟨rfl, hclosing⟩, _, htext, _, hgap, _, hbreak, _, hlines, hfound⟩ => ?_
                rw [htext] at hclosing ⊢
                simp [readLongBasicFrom, hclosing, hgap, hbreak, hlines, hfound]
              next hbreak =>
                obtain ⟨⟨escaped, after⟩, hread, h⟩ := Option.bind_eq_some_iff.1 h
                obtain ⟨⟨found, left⟩, hfound, h⟩ := Option.map_eq_some_iff.1 h
                cases h
                have hunbroken := Passes.look fun htwins =>
                  lineBreak?_eq_none_of_twins hbreak htwins.dropGap
                refine (hopen.trans ((Passes.cons _ _).trans (hunbroken.trans
                  ((passes_readEscape hread).trans (ih hfound))))).imp
                  fun _ _ ⟨_, ⟨rfl, hclosing⟩, _, htext, _, ⟨rfl, hbreak⟩, _, hread, hfound⟩ => ?_
                rw [htext] at hclosing ⊢
                simp [readLongBasicFrom, hclosing, hbreak, hread, hfound, prepend]
            next hescape =>
              have hfollowed := Passes.look fun {other} (htwins : Twins left other) => htwins.head?
              split at h
              next hbreak =>
                obtain ⟨⟨found, left⟩, hfound, h⟩ := Option.map_eq_some_iff.1 h
                obtain ⟨rfl, hnext⟩ := hbreak
                cases h
                refine (hopen.trans ((Passes.cons _ _).trans (hfollowed.trans (ih hfound)))).imp
                  fun _ _ ⟨_, ⟨rfl, hclosing⟩, _, htext, _, ⟨rfl, hhead⟩, hfound⟩ => ?_
                rw [htext] at hclosing ⊢
                simp [readLongBasicFrom, hclosing, ← hhead, hnext, hfound, prepend]
              next hbreak =>
                split at h
                · cases h
                next hcontrol =>
                  obtain ⟨⟨found, left⟩, hfound, h⟩ := Option.map_eq_some_iff.1 h
                  cases h
                  refine (hopen.trans ((Passes.cons _ _).trans (hfollowed.trans (ih hfound)))).imp
                    fun _ _ ⟨_, ⟨rfl, hclosing⟩, _, htext, _, ⟨rfl, hhead⟩, hfound⟩ => ?_
                  rw [hhead] at hbreak
                  rw [htext] at hclosing ⊢
                  rw [readLongBasicFrom, hclosing]
                  simp [hescape, hbreak, hcontrol, hfound, prepend]

theorem passes_readLongBasic {value : List Char} (h : readLongBasic text = some (value, rest)) :
    Passes text rest fun text rest => readLongBasic text = some (value, rest) := by
  refine ((passes_dropLineBreak text).trans (passes_readLongBasicFrom h).sized).imp
    fun _ _ ⟨_, hdropped, hsize, hread⟩ => ?_
  rwa [readLongBasic, hdropped, hsize]

theorem passes_readLongLiteralFrom {value : List Char}
    (h : readLongLiteralFrom text = some (value, rest)) :
    Passes text rest fun text rest => readLongLiteralFrom text = some (value, rest) := by
  induction text generalizing value with
  | nil => cases h
  | cons c left ih =>
      rw [readLongLiteralFrom] at h
      split at h
      next hclosing =>
        cases h
        refine (passes_closing? hclosing).sized.imp fun _ _ ⟨hsize, hclosing⟩ => ?_
        obtain ⟨c, left, htext⟩ := List.exists_cons_of_length_eq_add_one hsize
        rw [htext] at hclosing ⊢
        rw [readLongLiteralFrom, hclosing]
      next hclosing =>
        have hopen := Passes.look (closing?_eq_none_of_twins hclosing)
        have hfollowed := Passes.look fun {other} (htwins : Twins left other) => htwins.head?
        split at h
        next hbreak =>
          obtain ⟨⟨found, left⟩, hfound, h⟩ := Option.map_eq_some_iff.1 h
          obtain ⟨rfl, hnext⟩ := hbreak
          cases h
          refine (hopen.trans ((Passes.cons _ _).trans (hfollowed.trans (ih hfound)))).imp
            fun _ _ ⟨_, ⟨rfl, hclosing⟩, _, htext, _, ⟨rfl, hhead⟩, hfound⟩ => ?_
          rw [htext] at hclosing ⊢
          simp [readLongLiteralFrom, hclosing, ← hhead, hnext, hfound, prepend]
        next hbreak =>
          split at h
          · cases h
          next hcontrol =>
            obtain ⟨⟨found, left⟩, hfound, h⟩ := Option.map_eq_some_iff.1 h
            cases h
            refine (hopen.trans ((Passes.cons _ _).trans (hfollowed.trans (ih hfound)))).imp
              fun _ _ ⟨_, ⟨rfl, hclosing⟩, _, htext, _, ⟨rfl, hhead⟩, hfound⟩ => ?_
            rw [hhead] at hbreak
            rw [htext] at hclosing ⊢
            rw [readLongLiteralFrom, hclosing]
            simp [hbreak, hcontrol, hfound, prepend]

theorem passes_readLongLiteral {value : List Char}
    (h : readLongLiteral text = some (value, rest)) :
    Passes text rest fun text rest => readLongLiteral text = some (value, rest) := by
  refine ((passes_dropLineBreak text).trans (passes_readLongLiteralFrom h)).imp
    fun _ _ ⟨_, hdropped, hread⟩ => ?_
  rwa [readLongLiteral, hdropped]

theorem passes_readString {value : List Char} (h : readString text = some (value, rest)) :
    Passes text rest fun text rest => readString text = some (value, rest) := by
  unfold readString at h
  split at h
  · refine ((Passes.cons _ _).trans ((Passes.cons _ _).trans ((Passes.cons _ _).trans
      (passes_readLongBasic h)))).imp fun _ _ ⟨_, htext, _, hsecond, _, hthird, hread⟩ => ?_
    rw [htext, hsecond, hthird]
    exact hread
  next left hshort =>
    have hnever {other : List Char} (htwins : Twins left other) :
        ∀ more, other ≠ '"' :: '"' :: more := by
      rintro more rfl
      obtain ⟨more, hleft⟩ := htwins.doubled
      exact hshort more (hleft ▸ rfl)
    refine ((Passes.cons _ _).trans ((Passes.look hnever).trans (passes_readBasic h))).imp
      fun _ _ ⟨_, htext, _, ⟨rfl, hnever⟩, hread⟩ => ?_
    rw [htext, readString, hread]
    exact hnever
  · refine ((Passes.cons _ _).trans ((Passes.cons _ _).trans ((Passes.cons _ _).trans
      (passes_readLongLiteral h)))).imp fun _ _ ⟨_, htext, _, hsecond, _, hthird, hread⟩ => ?_
    rw [htext, hsecond, hthird]
    exact hread
  next left hshort =>
    have hnever {other : List Char} (htwins : Twins left other) :
        ∀ more, other ≠ '\'' :: '\'' :: more := by
      rintro more rfl
      obtain ⟨more, hleft⟩ := htwins.doubled
      exact hshort more (hleft ▸ rfl)
    refine ((Passes.cons _ _).trans ((Passes.look hnever).trans (passes_readLiteral h))).imp
      fun _ _ ⟨_, htext, _, ⟨rfl, hnever⟩, hread⟩ => ?_
    rw [htext, readString, hread]
    exact hnever
  · cases h

end ClusterLink.Toml
