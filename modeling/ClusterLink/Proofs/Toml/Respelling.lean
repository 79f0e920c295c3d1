import ClusterLink.Proofs.Toml.Assembly
import ClusterLink.Proofs.Toml.Delimited

/-!
# Respelled texts

A quoted value in a text may be written with other letters, as many of them. If the value is read
at all, it is read once, and the text with the other letters is read as the same document but for
this value.
-/

namespace ClusterLink.Toml

/-! ## Other letters in a text -/

structure Respelling where
  quote : Char
  isLong : Bool
  lead : List Char
  letters : List Char
  others : List Char
  after : List Char
  quotes : quote = '"' ∨ quote = '\''
  leads : Leads isLong lead
  written : letters ≠ []
  plain : ∀ c ∈ letters, IsPlain c
  plainOthers : ∀ c ∈ others, IsPlain c
  length : letters.length = others.length

namespace Respelling

variable (r : Respelling)

def textOf (value : List Char) : List Char :=
  delimiter r.quote r.isLong ++ (r.lead ++ (value ++ (delimiter r.quote r.isLong ++ r.after)))

def old : List Char := r.textOf r.letters

def new : List Char := r.textOf r.others

def place : Span := ⟨r.old.length, r.after.length⟩

theorem othersWritten : r.others ≠ [] :=
  List.ne_nil_of_length_pos (r.length ▸ List.length_pos_of_ne_nil r.written)

theorem length_new : r.new.length = r.old.length := by
  simp [new, old, textOf, r.length]

theorem length_after_lt : r.after.length < r.old.length := by
  have hwritten := List.length_pos_of_ne_nil r.written
  simp only [old, textOf, List.length_append]
  omega

theorem head?_textOf (value : List Char) : (r.textOf value).head? = some r.quote := by
  cases hlong : r.isLong <;> simp [textOf, hlong, delimiter]

theorem quote_ne {c : Char} (h : c ≠ '"' ∧ c ≠ '\'') : c ≠ r.quote := by
  rcases r.quotes with hquote | hquote
  · exact hquote ▸ h.1
  · exact hquote ▸ h.2

/-- Neither what leads to the value nor the value starts with the quote. -/
theorem head?_lead {value : List Char} (hwritten : value ≠ []) (hplain : ∀ c ∈ value, IsPlain c)
    (tail : List Char) : ∃ c rest, r.lead ++ (value ++ tail) = c :: rest ∧ c ≠ r.quote := by
  rcases r.leads with h | ⟨-, h | h⟩
  · obtain ⟨c, rest, rfl⟩ := List.exists_cons_of_ne_nil hwritten
    obtain ⟨_, hbasic, hliteral, _⟩ := hplain c List.mem_cons_self
    exact ⟨c, _, by rw [h]; rfl, r.quote_ne ⟨hbasic, hliteral⟩⟩
  · exact ⟨'\n', _, by rw [h]; rfl, r.quote_ne (by decide)⟩
  · exact ⟨'\r', _, by rw [h]; rfl, r.quote_ne (by decide)⟩

theorem run_textOf {value : List Char} (hwritten : value ≠ []) (hplain : ∀ c ∈ value, IsPlain c)
    (c : Char) : ((r.textOf value).takeWhile (· == c)).length =
      if r.quote = c then (delimiter r.quote r.isLong).length else 0 := by
  split
  next hquote =>
    obtain ⟨first, rest, hfirst, hne⟩ :=
      r.head?_lead hwritten hplain (delimiter r.quote r.isLong ++ r.after)
    rw [hquote] at hne
    rw [textOf, hfirst, run_append (fun d hd => by simp [delimiter] at hd; simp [hd, hquote])]
    simp [hne]
  next hquote =>
    obtain ⟨rest, hrest⟩ := List.head?_eq_some_iff.1 (r.head?_textOf value)
    simp [hrest, hquote]

theorem sameOpening : SameOpening r.old r.new where
  length := r.length_new.symm
  quote := ⟨r.quote, r.quotes, r.head?_textOf _, r.head?_textOf _⟩
  run c := (r.run_textOf r.written r.plain c).trans
    (r.run_textOf r.othersWritten r.plainOthers c).symm

variable {r} {before middle rest : List Char} {Again : List Char → List Char → Prop}

/-- What a step leaves with the quoted value in it, it leaves with the other letters too. -/
theorem of_passes (h : Passes (before ++ r.old) middle Again)
    (hlength : r.old.length ≤ middle.length) :
    ∃ left, middle = left ++ r.old ∧ Again (before ++ r.new) (left ++ r.new) := by
  obtain ⟨taken, htext, hagain⟩ := h
  rcases List.append_eq_append_iff.1 htext with ⟨more, rfl, hold⟩ | ⟨left, rfl, rfl⟩
  · rw [hold, List.length_append] at hlength
    obtain rfl := List.eq_nil_of_length_eq_zero (by omega : more.length = 0)
    refine ⟨[], hold.symm, ?_⟩
    have hagain := hagain (hold ▸ Twins.opening r.sameOpening)
    rwa [List.append_nil] at hagain
  · refine ⟨left, rfl, ?_⟩
    rw [List.append_assoc]
    exact hagain ((Twins.opening r.sameOpening).append left)

theorem readString_new {value : List Char} (h : readString r.old = some (value, rest))
    (hlength : rest.length = r.after.length) :
    readString r.new = some (r.others, rest) := by
  obtain ⟨extra, left, hextra, hread⟩ := readString_delimited r.quotes r.leads r.after
  cases h.symm.trans (hread r.letters r.written r.plain)
  obtain rfl := List.eq_nil_of_length_eq_zero (by omega : extra.length = 0)
  rw [new, textOf, hread r.others r.othersWritten r.plainOthers, List.append_nil]

/-! ## Readings of respelled texts -/

/--
A reading that finds the place, finds it once, reads past the quoted value, and finds the same but
for the value in the text with the other letters.
-/
def Respells (r : Respelling) {α : Type} (value : α → Tree) (swap : α → α)
    (read : Reader α) : Prop :=
  ∀ {before item rest}, read (before ++ r.old) = some (item, rest) →
    (value item).countAt r.place ≠ 0 →
      (value item).countAt r.place = 1 ∧ rest.length ≤ r.after.length ∧
        read (before ++ r.new) = some (swap item, rest)

def Misses (r : Respelling) {α : Type} (value : α → Tree) (read : Reader α) : Prop :=
  ∀ {text item rest}, read text = some (item, rest) → text.length < r.old.length →
    (value item).countAt r.place = 0

section Listed

variable {α : Type} {value : α → Tree} {swap : α → α} {close : Char} {element : Reader α}
  {fuel : Nat} {text : List Char} {items : List α}

theorem countInItems_of_readListed
    (hsteady : Steady element)
    (hmisses : r.Misses value element)
    (h : readListed close element fuel text = some (items, rest))
    (hlength : text.length < r.old.length) :
    Tree.countInItems r.place (items.map value) = 0 := by
  have hitems := forall_of_readListed hsteady
    (fun h hsize => hmisses h (Nat.lt_of_le_of_lt hsize hlength)) h le_rfl
  exact Tree.countInItems_eq_zero_iff.2 (List.forall_mem_map.2 hitems)

theorem map_swap_eq_self (hswap : ∀ item, (value item).countAt r.place = 0 → swap item = item)
    (h : Tree.countInItems r.place (items.map value) = 0) : items.map swap = items := by
  have hitems := List.forall_mem_map.1 (Tree.countInItems_eq_zero_iff.1 h)
  exact (List.map_congr_left fun item hmem => hswap item (hitems item hmem)).trans
    (List.map_id items)

theorem respells_readListed
    (hswap : ∀ item, (value item).countAt r.place = 0 → swap item = item)
    (hsteady : Steady element)
    (hmisses : r.Misses value element) (hrespells : r.Respells value swap element)
    (h : readListed close element fuel (before ++ r.old) = some (items, rest))
    (hcount : Tree.countInItems r.place (items.map value) ≠ 0) :
    Tree.countInItems r.place (items.map value) = 1 ∧ rest.length ≤ r.after.length ∧
      readListed close element fuel (before ++ r.new) = some (items.map swap, rest) := by
  have hstart {start left : List Char} {item : α} (hread : element start = some (item, left))
      (hitem : (value item).countAt r.place ≠ 0) : r.old.length ≤ start.length := by
    by_contra hlater
    exact hitem (hmisses hread (Nat.lt_of_not_le hlater))
  induction fuel generalizing before items with
  | zero => cases h
  | succ fuel ih =>
      cases readListed_eq_some_iff.1 h with
      | closed => exact absurd rfl hcount
      | @last start left next _ item hfilled hgoesOn hread hfilledAfter hends hclosing =>
          have hitem : (value item).countAt r.place ≠ 0 := hcount
          obtain ⟨_, rfl, _, hfilled, rfl, hgoesOn⟩ := r.of_passes
            ((passes_dropFiller hfilled).trans (Passes.look (readMark_eq_none_of_twins hgoesOn)))
            (hstart hread hitem)
          obtain ⟨hone, hleft, hread⟩ := hrespells hread hitem
          have hnext := (passes_dropFiller hfilledAfter).length_le
          have hrest := (passes_readMark hclosing).length_le
          exact ⟨hone, by omega, readListed_eq_some_iff.2
            (.last hfilled hgoesOn hread hfilledAfter hends hclosing)⟩
      | @more start left next after _ item others hfilled hgoesOn hread hfilledAfter hcomma
          hothers =>
          have hnext := (passes_dropFiller hfilledAfter).length_le
          have hafter := (passes_readMark hcomma).length_le
          have hrest := (passes_readListed hsteady hothers).length_le
          rw [List.map_cons, Tree.countInItems] at hcount ⊢
          -- the place is in what comes after this element, or in the element and nowhere after it
          by_cases hitem : (value item).countAt r.place = 0
          · rw [hitem, Nat.zero_add] at hcount ⊢
            have hreaches : r.old.length ≤ after.length := by
              by_contra hlater
              exact hcount (countInItems_of_readListed hsteady hmisses hothers
                (Nat.lt_of_not_le hlater))
            obtain ⟨_, rfl, _, hfilled, _, ⟨rfl, hgoesOn⟩, _, hread, _, hfilledAfter, hcomma⟩ :=
              r.of_passes ((passes_dropFiller hfilled).trans
                ((Passes.look (readMark_eq_none_of_twins hgoesOn)).trans ((hsteady hread).trans
                  ((passes_dropFiller hfilledAfter).trans (passes_readMark hcomma))))) hreaches
            obtain ⟨hone, hpast, hothers⟩ := ih hothers hcount
            refine ⟨hone, hpast, ?_⟩
            rw [List.map_cons, hswap item hitem]
            exact readListed_eq_some_iff.2
              (.more hfilled hgoesOn hread hfilledAfter hcomma hothers)
          · obtain ⟨_, rfl, _, hfilled, rfl, hgoesOn⟩ := r.of_passes
              ((passes_dropFiller hfilled).trans (Passes.look (readMark_eq_none_of_twins hgoesOn)))
              (hstart hread hitem)
            obtain ⟨hone, hleft, hread⟩ := hrespells hread hitem
            have hpast := r.length_after_lt
            have hnone := countInItems_of_readListed hsteady hmisses hothers (by omega)
            refine ⟨by omega, by omega, ?_⟩
            rw [List.map_cons, map_swap_eq_self hswap hnone]
            exact readListed_eq_some_iff.2
              (.more hfilled hgoesOn hread hfilledAfter hcomma hothers)

end Listed

/-! ## Settings and values -/

def respell (r : Respelling) : Tree → Tree := Tree.respell r.place (String.ofList r.others)

theorem setting_map_eq_self {setting : Setting} (h : setting.value.countAt r.place = 0) :
    setting.map r.respell = setting :=
  congrArg (Setting.mk setting.path setting.key) (Tree.respell_eq_self h)

section Setting

variable {element : Reader Tree} {skip : List Char → Option (List Char)}

theorem misses_readSetting
    (hskip : SteadyStep skip)
    (hmisses : r.Misses id element) : r.Misses Setting.value (readSetting element skip) := by
  intro text setting rest h hlength
  cases readSetting_eq_some_iff.1 h with
  | mk hname hskipped hequals hskippedAfter hread =>
      have hnamed := (passes_readKey hname).length_le
      have hmark := (hskip hskipped).length_le
      have hafter := (passes_readMark hequals).length_le
      have hstart := (hskip hskippedAfter).length_le
      exact hmisses hread (by omega)

theorem respells_readSetting
    (hskip : SteadyStep skip)
    (hmisses : r.Misses id element) (hrespells : r.Respells id r.respell element) :
    r.Respells Setting.value (Setting.map r.respell) (readSetting element skip) := by
  intro before setting rest h hcount
  cases readSetting_eq_some_iff.1 h with
  | @mk path key value named mark after start _ hname hskipped hequals hskippedAfter hread =>
      have hstart : r.old.length ≤ start.length := by
        by_contra hlater
        exact hcount (hmisses hread (Nat.lt_of_not_le hlater))
      obtain ⟨_, rfl, _, hname, _, hskipped, _, hequals, hskippedAfter⟩ := r.of_passes
        ((passes_readKey hname).trans ((hskip hskipped).trans ((passes_readMark hequals).trans
          (hskip hskippedAfter)))) hstart
      obtain ⟨hone, hpast, hread⟩ := hrespells hread hcount
      exact ⟨hone, hpast, readSetting_eq_some_iff.2
        (.mk hname hskipped hequals hskippedAfter hread)⟩

end Setting

section Value

variable {depth : Nat} {text : List Char} {tree : Tree}

theorem countAt_unquoted {value : Unquoted} {span : Span} (h : span ≠ r.place) :
    (value.tree text span).countAt r.place = 0 := by
  cases value with
  | scalar value => simp [Unquoted.tree, Tree.countAt, h]
  | moment => simp [Unquoted.tree, Tree.countAt, Tree.countInEntries, h]

theorem place_ne {start stop : Nat} (h : start ≠ r.old.length) : (⟨start, stop⟩ : Span) ≠ r.place :=
  fun hsame => h (Span.mk.inj hsame).1

theorem misses_readValue : r.Misses id (readValue depth) := by
  intro text tree rest h hlength
  induction depth generalizing text tree rest with
  | zero =>
      cases readValue_eq_some_iff.1 h with
      | quoted => exact if_neg (place_ne hlength.ne)
      | unquoted => exact countAt_unquoted (place_ne hlength.ne)
  | succ depth ih =>
      cases readValue_eq_some_iff.1 h with
      | quoted => exact if_neg (place_ne hlength.ne)
      | unquoted => exact countAt_unquoted (place_ne hlength.ne)
      | list hread =>
          have hnone := countInItems_of_readListed passes_readValue ih hread
            (Nat.lt_of_succ_lt hlength)
          rwa [List.map_id] at hnone
      | table hread hassembled =>
          have hnone := countInItems_of_readListed
            (passes_readSetting passes_dropFiller passes_readValue)
            (misses_readSetting passes_dropFiller ih) hread (Nat.lt_of_succ_lt hlength)
          exact (countAt_inlineTable? (tidy_of_readSettings hread) hassembled).trans hnone

theorem span_of_countAt {span : Span} {value : Scalar}
    (h : (Tree.scalar span value).countAt r.place ≠ 0) : span = r.place := by
  by_contra hspan
  exact h (if_neg hspan)

/-- A string at the place is the quoted value itself. -/
theorem respells_quoted {quote : Char} {value : List Char}
    (hread : readString (quote :: text) = some (value, rest))
    (htext : before ++ r.old = quote :: text)
    (hcount : (Tree.scalar ⟨text.length + 1, rest.length⟩
      (.text (String.ofList value))).countAt r.place ≠ 0) :
    (Tree.scalar ⟨text.length + 1, rest.length⟩
        (.text (String.ofList value))).countAt r.place = 1 ∧
      rest.length ≤ r.after.length ∧ readValue depth (before ++ r.new) =
        some (r.respell (.scalar ⟨text.length + 1, rest.length⟩
          (.text (String.ofList value))), rest) := by
  have hspan := span_of_countAt hcount
  have hlengths := congrArg List.length htext
  have hold : text.length + 1 = r.old.length := (Span.mk.inj hspan).1
  have hrest : rest.length = r.after.length := (Span.mk.inj hspan).2
  rw [List.length_append, List.length_cons] at hlengths
  obtain rfl := List.eq_nil_of_length_eq_zero (by omega : before.length = 0)
  rw [← htext] at hread
  have hnew := readString_new hread hrest
  obtain ⟨more, hmore⟩ := List.head?_eq_some_iff.1 (r.head?_textOf r.others)
  have hlength : more.length + 1 = text.length + 1 := by
    rw [hold, ← r.length_new, new, hmore, List.length_cons]
  refine ⟨if_pos hspan, hrest.le, ?_⟩
  rw [respell, Tree.respell, if_pos hspan, ← hlength]
  rw [List.nil_append, new, hmore]
  rw [new, hmore] at hnew
  exact readValue_eq_some_iff.2 (.quoted r.quotes hnew)

theorem countAt_of_startsUnquoted {value : Unquoted} {span : Span} (hstarts : StartsUnquoted text)
    (htext : before ++ r.old = text) (hspan : span.start = text.length) :
    (value.tree text span).countAt r.place = 0 := by
  refine countAt_unquoted fun hplace => ?_
  have hlengths := congrArg List.length htext
  have hold : text.length = r.old.length := by rw [← hspan, hplace]; rfl
  rw [List.length_append] at hlengths
  obtain rfl := List.eq_nil_of_length_eq_zero (by omega : before.length = 0)
  subst htext
  obtain ⟨_, _, hbasic, hliteral⟩ := hstarts r.quote (r.head?_textOf r.letters)
  rcases r.quotes with h | h
  · exact hbasic h
  · exact hliteral h

/-- A text in which the quoted value comes after a mark. -/
theorem before_eq_cons {c : Char} (htext : before ++ r.old = c :: text) (hbasic : c ≠ '"')
    (hliteral : c ≠ '\'') : ∃ left, before = c :: left ∧ text = left ++ r.old := by
  cases before with
  | nil =>
      have hhead := r.head?_textOf r.letters
      rw [List.nil_append, old] at htext
      rw [htext] at hhead
      rcases r.quotes with h | h
      · exact absurd ((Option.some.inj hhead).trans h) hbasic
      · exact absurd ((Option.some.inj hhead).trans h) hliteral
  | cons first left =>
      obtain ⟨rfl, rfl⟩ := List.cons.inj htext
      exact ⟨left, rfl, rfl⟩

theorem respells_readValue : r.Respells id r.respell (readValue depth) := by
  induction depth with
  | zero =>
      intro before tree rest h hcount
      generalize htext : before ++ r.old = text at h
      cases readValue_eq_some_iff.1 h with
      | quoted _ hread => exact respells_quoted hread htext hcount
      | unquoted hstarts => exact absurd (countAt_of_startsUnquoted hstarts htext rfl) hcount
  | succ depth ih =>
      intro before tree rest h hcount
      generalize htext : before ++ r.old = text at h
      cases readValue_eq_some_iff.1 h with
      | quoted _ hread => exact respells_quoted hread htext hcount
      | unquoted hstarts => exact absurd (countAt_of_startsUnquoted hstarts htext rfl) hcount
      | list hread =>
          obtain ⟨left, rfl, rfl⟩ := before_eq_cons htext (by decide) (by decide)
          have hlength : (left ++ r.old).length = (left ++ r.new).length := by
            rw [List.length_append, List.length_append, r.length_new]
          have hread := @respells_readListed r left rest Tree id r.respell ']' (readValue depth) _ _
            (fun _ => Tree.respell_eq_self) passes_readValue misses_readValue ih hread
          rw [List.map_id, hlength] at hread
          obtain ⟨hone, hpast, hread⟩ := hread hcount
          refine ⟨hone, hpast, ?_⟩
          rw [respell, Tree.respell, Tree.respellItems_eq_map, hlength]
          exact readValue_eq_some_iff.2 (.list hread)
      | @table _ _ _ settings entries hread hassembled =>
          obtain ⟨left, rfl, rfl⟩ := before_eq_cons htext (by decide) (by decide)
          have hlength : (left ++ r.old).length = (left ++ r.new).length := by
            rw [List.length_append, List.length_append, r.length_new]
          have hentries : Tree.countInEntries r.place entries =
              Tree.countInItems r.place (valuesOf settings) :=
            countAt_inlineTable? (tidy_of_readSettings hread) hassembled
          have hsettings := respells_readListed
            (fun _ => setting_map_eq_self)
            (passes_readSetting passes_dropFiller passes_readValue)
            (misses_readSetting passes_dropFiller misses_readValue)
            (respells_readSetting passes_dropFiller misses_readValue ih) hread
          rw [hlength] at hsettings
          obtain ⟨hone, hpast, hread⟩ := hsettings fun hnone => hcount (hentries.trans hnone)
          refine ⟨hentries.trans hone, hpast, ?_⟩
          rw [respell, Tree.respell, hlength]
          exact readValue_eq_some_iff.2 (.table hread (inlineTable?_respell hassembled))

end Value

end Respelling

end ClusterLink.Toml
