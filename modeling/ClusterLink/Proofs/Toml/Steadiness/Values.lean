import ClusterLink.Proofs.Toml.Steadiness.Strings

/-!
# Steady readings of values

Unquoted values, keys, comments, headers, lists, settings and values: none of their readings tells
what it leaves from a twin.
-/

namespace ClusterLink.Toml

variable {α : Type} {text rest : List Char}

/-! ## Unquoted values -/

/-- Whether a run of characters that ends here goes on with a time. -/
def GoesOn (token rest : List Char) : Prop :=
  ∃ c more, rest = ' ' :: c :: more ∧ (c.isDigit && (readDate token).any (·.2.isEmpty)) = true

theorem GoesOn.of_twins {token other : List Char} (h : GoesOn token other)
    (htwins : Twins rest other) : GoesOn token rest := by
  obtain ⟨c, more, rfl, htime⟩ := h
  obtain ⟨left, rfl, hleft⟩ := htwins.symm.cases_cons (by decide) (by decide)
  obtain ⟨after, rfl⟩ := List.head?_eq_some_iff.1 hleft.head?.symm
  exact ⟨c, after, rfl, htime⟩

theorem splitToken_of_ends
    (h : ¬ GoesOn (text.takeWhile isTokenChar) (text.dropWhile isTokenChar)) :
    splitToken text = (text.takeWhile isTokenChar, text.dropWhile isTokenChar) := by
  unfold splitToken
  dsimp only
  split
  next c more hrest =>
    split
    next htime => exact absurd ⟨c, more, hrest, htime⟩ h
    · rfl
  · rfl

theorem passes_splitToken (text : List Char) :
    Passes text (splitToken text).2 fun other rest =>
      splitToken other = ((splitToken text).1, rest) := by
  have hdropped := Passes.dropWhile isTokenChar text
  by_cases htime : GoesOn (text.takeWhile isTokenChar) (text.dropWhile isTokenChar)
  · obtain ⟨c, more, hrest, htime⟩ := htime
    have hsame := Passes.look fun {other} (htwins : Twins (c :: more) other) => htwins.head?
    rw [hrest] at hdropped
    simp only [splitToken, hrest, htime, if_true]
    refine (hdropped.trans ((Passes.cons _ _).trans (hsame.trans
      (Passes.dropWhile isTokenChar (c :: more))))).imp
      fun _ _ ⟨_, ⟨htoken, hrest⟩, _, hspace, _, ⟨rfl, hhead⟩, htaken, hleft⟩ => ?_
    obtain ⟨after, rfl⟩ := List.head?_eq_some_iff.1 hhead.symm
    simp only [htoken, hrest, hspace, htime, htaken, hleft, if_true]
  · have hends := Passes.look fun htwins hgoesOn => htime (GoesOn.of_twins hgoesOn htwins)
    rw [splitToken_of_ends htime]
    refine (hdropped.trans hends).imp fun _ _ ⟨_, ⟨htoken, hrest⟩, rfl, hends⟩ => ?_
    rw [splitToken_of_ends, htoken, hrest]
    rwa [htoken, hrest]

theorem passes_readUnquoted {value : Unquoted} (h : readUnquoted text = some (value, rest)) :
    Passes text rest fun text rest => readUnquoted text = some (value, rest) := by
  obtain ⟨found, hfound, hvalue⟩ := Option.map_eq_some_iff.1 h
  cases hvalue
  refine (passes_splitToken text).imp fun _ _ htoken => ?_
  have hfound : unquoted? (splitToken text).1 = some value := hfound
  simp only [readUnquoted, htoken, hfound, Option.map_some]

/-! ## Keys -/

theorem readKeyPart_eq_of_bare (h : text.takeWhile isBareChar ≠ []) :
    readKeyPart text = some (⟨String.ofList (text.takeWhile isBareChar), text.length,
      (text.dropWhile isBareChar).length⟩, text.dropWhile isBareChar) := by
  unfold readKeyPart
  split
  · exact absurd rfl h
  · exact absurd rfl h
  · simp [h]

theorem passes_readKeyPart {part : Key} (h : readKeyPart text = some (part, rest)) :
    Passes text rest fun text rest => readKeyPart text = some (part, rest) := by
  obtain ⟨⟨name, left⟩, hname, hfound⟩ := Option.map_eq_some_iff.1 h
  cases hfound
  split at hname
  · refine ((Passes.cons _ _).trans (passes_readBasic hname)).sized.imp
      fun _ hlength ⟨hsize, _, htext, hread⟩ => ?_
    rw [htext] at hsize ⊢
    simp only [readKeyPart, hread, Option.map_some, hsize, hlength]
  · refine ((Passes.cons _ _).trans (passes_readLiteral hname)).sized.imp
      fun _ hlength ⟨hsize, _, htext, hread⟩ => ?_
    rw [htext] at hsize ⊢
    simp only [readKeyPart, hread, Option.map_some, hsize, hlength]
  · dsimp only at hname
    split at hname
    · cases hname
    next hbare =>
      cases hname
      rw [List.isEmpty_iff] at hbare
      refine (Passes.dropWhile isBareChar _).sized.imp fun _ hlength ⟨hsize, htaken, hleft⟩ => ?_
      rw [readKeyPart_eq_of_bare (htaken ▸ hbare), htaken, hleft, hsize, hlength]

theorem passes_readKeyParts {fuel : Nat} {parts : List Key}
    (h : readKeyParts fuel text = some (parts, rest)) :
    Passes text rest fun text rest => readKeyParts fuel text = some (parts, rest) := by
  induction fuel generalizing text parts with
  | zero => cases h
  | succ fuel ih =>
      rw [readKeyParts] at h
      split at h
      next left hdot =>
        obtain ⟨⟨part, after⟩, hpart, h⟩ := Option.bind_eq_some_iff.1 h
        obtain ⟨⟨others, left⟩, hothers, h⟩ := Option.bind_eq_some_iff.1 h
        cases h
        have hgap := passes_dropGap text
        rw [hdot] at hgap
        refine (hgap.trans ((Passes.cons _ _).trans ((passes_dropGap _).trans
          ((passes_readKeyPart hpart).trans (ih hothers))))).imp
          fun _ _ ⟨_, hgap, _, hdot, _, hmore, _, hpart, hothers⟩ => ?_
        simp [readKeyParts, hgap, hdot, hmore, hpart, hothers]
      next hdot =>
        cases h
        have hnever {other : List Char} (htwins : Twins rest other) :
            ∀ more, dropGap other ≠ '.' :: more := by
          intro more hother
          have hgaps := htwins.dropGap.symm
          rw [hother] at hgaps
          obtain ⟨left, hleft, -⟩ := hgaps.cases_cons (by decide) (by decide)
          exact hdot left hleft
        refine (Passes.look hnever).imp fun _ _ ⟨htext, hnever⟩ => ?_
        rw [htext, readKeyParts]
        split
        next hdot => exact absurd hdot (hnever _)
        · rfl

theorem passes_readKey {path : List Key} {key : Key} (h : readKey text = some ((path, key), rest)) :
    Passes text rest fun text rest => readKey text = some ((path, key), rest) := by
  obtain ⟨⟨first, left⟩, hfirst, h⟩ := Option.bind_eq_some_iff.1 h
  obtain ⟨⟨parts, after⟩, hparts, h⟩ := Option.bind_eq_some_iff.1 h
  dsimp only at h
  split at h
  next last before hreverse =>
    split at h
    next hdepth =>
      cases h
      refine ((passes_readKeyPart hfirst).trans (passes_readKeyParts hparts).sized).imp
        fun _ _ ⟨_, hfirst, hsize, hparts⟩ => ?_
      simp only [readKey, hfirst, hsize, hparts, Option.bind_eq_bind, Option.bind_some, hreverse,
        if_pos hdepth]
    · cases h
  · cases h

/-! ## Fillers and line ends -/

theorem lineBreak?_cons_eq_none {c : Char} (hline : c ≠ '\n')
    (hpair : ∀ left, c = '\r' → rest ≠ '\n' :: left) : lineBreak? (c :: rest) = none := by
  unfold lineBreak?
  split
  next h => exact absurd (List.cons.inj h).1 hline
  next h => exact absurd (List.cons.inj h).2 (hpair _ (List.cons.inj h).1)
  · rfl

theorem dropFiller_of_unbroken {inComment : Bool} {c : Char} (h : lineBreak? (c :: rest) = none) :
    dropFiller inComment (c :: rest) =
      if inComment then if isCommentChar c then dropFiller true rest else none
      else if isGap c then dropFiller false rest
      else if c == '#' then dropFiller true rest
      else some (c :: rest) := by
  rw [dropFiller]
  · rintro rfl
    cases h
  · rintro left rfl rfl
    cases h

theorem passes_skipped {inComment next : Bool} {c : Char} {left : List Char} (hline : c ≠ '\n')
    (hpair : ∀ after, c = '\r' → left ≠ '\n' :: after)
    (hskipped : ∀ {left}, lineBreak? (c :: left) = none →
      dropFiller inComment (c :: left) = dropFiller next left)
    (h : Passes left rest fun text rest => dropFiller next text = some rest) :
    Passes (c :: left) rest fun text rest => dropFiller inComment text = some rest := by
  have hunbroken := Passes.look (lineBreak?_eq_none_of_twins (lineBreak?_cons_eq_none hline hpair))
  refine (hunbroken.trans ((Passes.cons _ _).trans h)).imp
    fun _ _ ⟨_, ⟨rfl, hunbroken⟩, _, htext, hrest⟩ => ?_
  rw [htext] at hunbroken ⊢
  rw [hskipped hunbroken, hrest]

theorem passes_dropFiller {inComment : Bool} (h : dropFiller inComment text = some rest) :
    Passes text rest fun text rest => dropFiller inComment text = some rest := by
  fun_induction dropFiller inComment text with
  | case1 inComment =>
      cases h
      exact Passes.nil []
  | case2 inComment left ih =>
      refine ((Passes.cons _ _).trans (ih h)).imp fun _ _ ⟨_, htext, hrest⟩ => ?_
      rw [htext, dropFiller, hrest]
  | case3 inComment left ih =>
      refine ((Passes.cons _ _).trans ((Passes.cons _ _).trans (ih h))).imp
        fun _ _ ⟨_, htext, _, hmiddle, hrest⟩ => ?_
      rw [htext, hmiddle, dropFiller, hrest]
  | case4 c left hline hpair hcomment ih =>
      refine passes_skipped hline hpair (fun h => ?_) (ih h)
      rw [dropFiller_of_unbroken h, if_pos rfl, if_pos hcomment]
  | case5 => cases h
  | case6 inComment c left hline hpair hcomment hgap ih =>
      refine passes_skipped hline hpair (fun h => ?_) (ih h)
      rw [dropFiller_of_unbroken h, if_neg hcomment, if_pos hgap]
  | case7 inComment c left hline hpair hcomment hgap hmark ih =>
      refine passes_skipped hline hpair (fun h => ?_) (ih h)
      rw [dropFiller_of_unbroken h, if_neg hcomment, if_neg hgap, if_pos hmark]
  | case8 inComment c left hline hpair hcomment hgap hmark =>
      cases h
      have hstays {other : List Char} (htwins : Twins (c :: left) other) :
          dropFiller inComment other = some other := by
        have hunbroken := lineBreak?_eq_none_of_twins (lineBreak?_cons_eq_none hline hpair) htwins
        obtain ⟨more, rfl⟩ := List.head?_eq_some_iff.1 htwins.head?.symm
        rw [dropFiller_of_unbroken hunbroken, if_neg hcomment, if_neg hgap, if_neg hmark]
      exact (Passes.look hstays).imp fun _ _ ⟨htext, hrest⟩ => by rw [htext]; exact hrest

theorem readLineEnd_of_lineBreak (h : lineBreak? (dropComment (dropGap text)) = some rest) :
    readLineEnd text = some ((), rest) := by
  unfold readLineEnd
  split
  next hnil => rw [hnil] at h; cases h
  next => rw [h]; rfl

theorem passes_dropComment (text : List Char) :
    Passes text (dropComment text) fun text rest => dropComment text = rest := by
  unfold dropComment
  split
  next left =>
    refine ((Passes.cons _ _).trans (Passes.dropWhile isCommentChar left)).imp
      fun _ _ ⟨_, htext, _, hleft⟩ => ?_
    rw [htext]
    exact hleft
  next hmark =>
    have hstays {other : List Char} (htwins : Twins text other) : dropComment other = other := by
      unfold dropComment
      split
      · obtain ⟨left, hleft, -⟩ := htwins.symm.cases_cons (by decide) (by decide)
        exact absurd hleft (hmark left)
      · rfl
    exact (Passes.look hstays).imp fun _ _ ⟨htext, hrest⟩ => by rw [htext]; exact hrest

theorem passes_readLineEnd (h : readLineEnd text = some ((), rest)) :
    Passes text rest fun text rest => readLineEnd text = some ((), rest) := by
  have hcomment := (passes_dropGap text).trans (passes_dropComment (dropGap text))
  unfold readLineEnd at h
  split at h
  · cases h
    exact Passes.nil text
  · obtain ⟨found, hfound, h⟩ := Option.map_eq_some_iff.1 h
    cases h
    refine (hcomment.trans (passes_lineBreak? hfound)).imp
      fun _ _ ⟨_, ⟨_, hgap, hcomment⟩, hbreak⟩ => ?_
    rw [← hcomment, ← hgap] at hbreak
    exact readLineEnd_of_lineBreak hbreak

theorem passes_readHeader {header : Header} (h : readHeader text = some (header, rest)) :
    Passes text rest fun text rest => readHeader text = some (header, rest) := by
  unfold readHeader at h
  split at h
  next left =>
    obtain ⟨⟨⟨path, key⟩, named⟩, hname, h⟩ := Option.bind_eq_some_iff.1 h
    obtain ⟨⟨_, closed⟩, hclosing, h⟩ := Option.bind_eq_some_iff.1 h
    obtain ⟨⟨_, ended⟩, hending, h⟩ := Option.bind_eq_some_iff.1 h
    cases h
    refine ((Passes.cons _ _).trans ((Passes.cons _ _).trans ((passes_dropGap left).trans
      ((passes_readKey hname).trans ((passes_dropGap named).trans ((passes_readMark hclosing).trans
        (passes_readMark hending))))))).sized.imp fun _ hlength
          ⟨hsize, _, htext, _, hsecond, _, hgap, _, hname, _, hafter, _, hclosing, hending⟩ => ?_
    rw [htext, hsecond] at hsize ⊢
    simp only [readHeader, hgap, hname, hafter, hclosing, hending, hsize, hlength,
      Option.bind_eq_bind, Option.bind_some]
  next left hsingle =>
    obtain ⟨⟨⟨path, key⟩, named⟩, hname, h⟩ := Option.bind_eq_some_iff.1 h
    obtain ⟨⟨_, closed⟩, hclosing, h⟩ := Option.bind_eq_some_iff.1 h
    cases h
    have hnever {other : List Char} (htwins : Twins left other) (more : List Char) :
        other ≠ '[' :: more := by
      rintro rfl
      obtain ⟨after, rfl, -⟩ := htwins.symm.cases_cons (by decide) (by decide)
      exact hsingle after rfl
    refine ((Passes.cons _ _).trans ((Passes.look hnever).trans ((passes_dropGap left).trans
      ((passes_readKey hname).trans ((passes_dropGap named).trans
        (passes_readMark hclosing)))))).sized.imp fun _ hlength ⟨hsize, _, htext, _, ⟨rfl, hnever⟩, _,
          hgap, _, hname, _, hafter, hclosing⟩ => ?_
    rw [htext] at hsize ⊢
    rw [readHeader]
    · simp only [hgap, hname, hafter, hclosing, hsize, hlength, Option.bind_eq_bind,
        Option.bind_some]
    · exact hnever
  · cases h

/-! ## Lists, settings and values -/

section Listed

variable {close : Char} {element : Reader α} {fuel : Nat}

theorem passes_readListed {items : List α}
    (helement : Steady element)
    (h : readListed close element fuel text = some (items, rest)) :
    Passes text rest fun text rest => readListed close element fuel text = some (items, rest) := by
  induction fuel generalizing text items with
  | zero => cases h
  | succ fuel ih =>
      cases readListed_eq_some_iff.1 h with
      | closed hfilled hclosing =>
          refine ((passes_dropFiller hfilled).trans (passes_readMark hclosing)).imp
            fun _ _ ⟨_, hfilled, hclosing⟩ => ?_
          exact readListed_eq_some_iff.2 (.closed hfilled hclosing)
      | last hfilled hgoesOn hread hfilledAfter hends hclosing =>
          refine ((passes_dropFiller hfilled).trans
            ((Passes.look (readMark_eq_none_of_twins hgoesOn)).trans ((helement hread).trans
              ((passes_dropFiller hfilledAfter).trans
                ((Passes.look (readMark_eq_none_of_twins hends)).trans
                  (passes_readMark hclosing)))))).imp
            fun _ _ ⟨_, hfilled, _, ⟨rfl, hgoesOn⟩, _, hread, _, hfilledAfter, _, ⟨rfl, hends⟩,
              hclosing⟩ => ?_
          exact readListed_eq_some_iff.2
            (.last hfilled hgoesOn hread hfilledAfter hends hclosing)
      | more hfilled hgoesOn hread hfilledAfter hcomma hothers =>
          refine ((passes_dropFiller hfilled).trans
            ((Passes.look (readMark_eq_none_of_twins hgoesOn)).trans ((helement hread).trans
              ((passes_dropFiller hfilledAfter).trans ((passes_readMark hcomma).trans
                (ih hothers)))))).imp
            fun _ _ ⟨_, hfilled, _, ⟨rfl, hgoesOn⟩, _, hread, _, hfilledAfter, _, hcomma,
              hothers⟩ => ?_
          exact readListed_eq_some_iff.2
            (.more hfilled hgoesOn hread hfilledAfter hcomma hothers)

/-- What holds of every element that can be read there holds of all elements of a list. -/
theorem forall_of_readListed {P : α → Prop} {size : Nat} {items : List α}
    (hsteady : Steady element)
    (helement : ∀ {text item rest}, element text = some (item, rest) → text.length ≤ size → P item)
    (h : readListed close element fuel text = some (items, rest)) (hsize : text.length ≤ size) :
    ∀ item ∈ items, P item := by
  induction fuel generalizing text items with
  | zero => cases h
  | succ fuel ih =>
      cases readListed_eq_some_iff.1 h with
      | closed => exact List.forall_mem_nil P
      | last hfilled _ hread =>
          have hstart := (passes_dropFiller hfilled).length_le
          exact List.forall_mem_singleton.2 (helement hread (Nat.le_trans hstart hsize))
      | more hfilled _ hread hfilledAfter hcomma hothers =>
          have hstart := (passes_dropFiller hfilled).length_le
          have hleft := (hsteady hread).length_le
          have hnext := (passes_dropFiller hfilledAfter).length_le
          have hafter := (passes_readMark hcomma).length_le
          exact List.forall_mem_cons.2 ⟨helement hread (Nat.le_trans hstart hsize),
            ih hothers (by omega)⟩

end Listed

theorem passes_readSetting {element : Reader Tree} {skip : List Char → Option (List Char)}
    {setting : Setting}
    (hskip : SteadyStep skip) (helement : Steady element)
    (h : readSetting element skip text = some (setting, rest)) :
    Passes text rest fun text rest => readSetting element skip text = some (setting, rest) := by
  cases readSetting_eq_some_iff.1 h with
  | mk hname hskipped hequals hskippedAfter hread =>
      refine ((passes_readKey hname).trans ((hskip hskipped).trans ((passes_readMark hequals).trans
        ((hskip hskippedAfter).trans (helement hread))))).imp
        fun _ _ ⟨_, hname, _, hskipped, _, hequals, _, hskippedAfter, hread⟩ => ?_
      exact readSetting_eq_some_iff.2 (.mk hname hskipped hequals hskippedAfter hread)

section Value

variable {depth : Nat}

theorem StartsUnquoted.of_twins {other : List Char} (h : StartsUnquoted text)
    (htwins : Twins text other) : StartsUnquoted other := by
  rw [StartsUnquoted, ← htwins.head?]
  exact h

theorem passes_quoted {quote : Char} {left value : List Char} (hopens : quote = '"' ∨ quote = '\'')
    (hread : readString (quote :: left) = some (value, rest)) :
    Passes (quote :: left) rest fun text after => readValue depth text =
      some (.scalar ⟨left.length + 1, rest.length⟩ (.text (String.ofList value)), after) := by
  have hopen := Passes.look fun {other} (htwins : Twins (quote :: left) other) => htwins.head?
  refine (hopen.trans (passes_readString hread)).sized.imp
    fun _ hlength ⟨hsize, _, ⟨rfl, hhead⟩, hread⟩ => ?_
  obtain ⟨more, hmore⟩ := List.head?_eq_some_iff.1 hhead.symm
  rw [hmore] at hsize hread ⊢
  rw [← Nat.add_right_cancel hsize, ← hlength]
  exact readValue_eq_some_iff.2 (.quoted hopens hread)

theorem Unquoted.tree_append (value : Unquoted) {taken left : List Char}
    (hlength : left.length = rest.length) :
    value.tree (taken ++ left) ⟨(taken ++ left).length, left.length⟩ =
      value.tree (taken ++ rest) ⟨(taken ++ rest).length, rest.length⟩ := by
  cases value with
  | scalar value => simp [Unquoted.tree, hlength]
  | moment => simp [Unquoted.tree, hlength]

theorem passes_unquoted {value : Unquoted} (hstarts : StartsUnquoted text)
    (hread : readUnquoted text = some (value, rest)) :
    Passes text rest fun other after => readValue depth other =
      some (value.tree text ⟨text.length, rest.length⟩, after) := by
  refine ((Passes.look hstarts.of_twins).trans (passes_readUnquoted hread)).imp
    fun htext hlength ⟨_, ⟨rfl, hstarts⟩, hread⟩ => ?_
  rw [htext, ← value.tree_append hlength]
  exact readValue_eq_some_iff.2 (.unquoted hstarts hread)

theorem passes_readValue {tree : Tree} (h : readValue depth text = some (tree, rest)) :
    Passes text rest fun text rest => readValue depth text = some (tree, rest) := by
  induction depth generalizing text tree rest with
  | zero =>
      cases readValue_eq_some_iff.1 h with
      | quoted hopens hread => exact passes_quoted hopens hread
      | unquoted hstarts hread => exact passes_unquoted hstarts hread
  | succ depth ih =>
      cases readValue_eq_some_iff.1 h with
      | list hread =>
          refine ((Passes.cons _ _).trans (passes_readListed ih hread).sized).imp
            fun _ hlength ⟨_, htext, hsize, hread⟩ => ?_
          rw [htext, ← hlength, ← hsize]
          rw [← hsize] at hread
          exact readValue_eq_some_iff.2 (.list hread)
      | table hread hassembled =>
          refine ((Passes.cons _ _).trans
            (passes_readListed (passes_readSetting passes_dropFiller ih) hread).sized).imp
            fun _ hlength ⟨_, htext, hsize, hread⟩ => ?_
          rw [htext, ← hlength, ← hsize]
          rw [← hsize] at hread
          exact readValue_eq_some_iff.2 (.table hread hassembled)
      | quoted hopens hread => exact passes_quoted hopens hread
      | unquoted hstarts hread => exact passes_unquoted hstarts hread

end Value

end ClusterLink.Toml
