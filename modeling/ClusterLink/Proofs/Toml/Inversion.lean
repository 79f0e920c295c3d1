import ClusterLink.Toml.Reading

/-!
# Readings taken apart

The ways in which a list of elements, a setting, a value and the sections of a document can be
read, each with the readings that it is made of. A reading succeeds exactly in one of these ways.
-/

namespace ClusterLink.Toml

variable {α : Type} {close : Char} {element : Reader α} {fuel depth : Nat} {text rest : List Char}

/-! ## Lists -/

inductive ListedWay (close : Char) (element : Reader α) (fuel : Nat) (text : List Char) :
    List α → List Char → Prop
  | closed {start rest : List Char} (filled : dropFiller false text = some start)
      (closing : readMark close start = some ((), rest)) : ListedWay close element fuel text [] rest
  | last {start left next rest : List Char} {item : α} (filled : dropFiller false text = some start)
      (goesOn : readMark close start = none) (read : element start = some (item, left))
      (filledAfter : dropFiller false left = some next) (ends : readMark ',' next = none)
      (closing : readMark close next = some ((), rest)) :
      ListedWay close element fuel text [item] rest
  | more {start left next after rest : List Char} {item : α} {items : List α}
      (filled : dropFiller false text = some start) (goesOn : readMark close start = none)
      (read : element start = some (item, left)) (filledAfter : dropFiller false left = some next)
      (comma : readMark ',' next = some ((), after))
      (others : readListed close element fuel after = some (items, rest)) :
      ListedWay close element fuel text (item :: items) rest

theorem readListed_eq_some_iff {items : List α} :
    readListed close element (fuel + 1) text = some (items, rest) ↔
      ListedWay close element fuel text items rest := by
  constructor
  · intro h
    rw [readListed] at h
    obtain ⟨start, hfilled, h⟩ := Option.bind_eq_some_iff.1 h
    cases hmark : readMark close start with
    | some found =>
        rw [hmark] at h
        cases h
        exact .closed hfilled hmark
    | none =>
        rw [hmark] at h
        obtain ⟨⟨item, left⟩, hread, h⟩ := Option.bind_eq_some_iff.1 h
        obtain ⟨next, hnext, h⟩ := Option.bind_eq_some_iff.1 h
        cases hcomma : readMark ',' next with
        | some found =>
            rw [hcomma] at h
            obtain ⟨⟨others, left⟩, hothers, h⟩ := Option.bind_eq_some_iff.1 h
            cases h
            exact .more hfilled hmark hread hnext hcomma hothers
        | none =>
            rw [hcomma] at h
            obtain ⟨found, hclosing, h⟩ := Option.map_eq_some_iff.1 h
            cases h
            exact .last hfilled hmark hread hnext hcomma hclosing
  · intro h
    cases h with
    | closed hfilled hclosing => simp [readListed, hfilled, hclosing]
    | last hfilled hmark hread hnext hcomma hclosing =>
        simp [readListed, hfilled, hmark, hread, hnext, hcomma, hclosing]
    | more hfilled hmark hread hnext hcomma hothers =>
        simp [readListed, hfilled, hmark, hread, hnext, hcomma, hothers]

/-! ## Settings -/

inductive SettingWay (element : Reader Tree) (skip : List Char → Option (List Char))
    (text : List Char) : Setting → List Char → Prop
  | mk {path : List Key} {key : Key} {value : Tree} {named mark after start rest : List Char}
      (name : readKey text = some ((path, key), named)) (skipped : skip named = some mark)
      (equals : readMark '=' mark = some ((), after)) (skippedAfter : skip after = some start)
      (read : element start = some (value, rest)) :
      SettingWay element skip text ⟨path, key, value⟩ rest

theorem readSetting_eq_some_iff {element : Reader Tree} {skip : List Char → Option (List Char)}
    {setting : Setting} :
    readSetting element skip text = some (setting, rest) ↔
      SettingWay element skip text setting rest := by
  constructor
  · intro h
    obtain ⟨⟨⟨path, key⟩, named⟩, hname, h⟩ := Option.bind_eq_some_iff.1 h
    obtain ⟨mark, hskipped, h⟩ := Option.bind_eq_some_iff.1 h
    obtain ⟨⟨_, after⟩, hequals, h⟩ := Option.bind_eq_some_iff.1 h
    obtain ⟨start, hskippedAfter, h⟩ := Option.bind_eq_some_iff.1 h
    obtain ⟨⟨value, left⟩, hread, h⟩ := Option.bind_eq_some_iff.1 h
    cases h
    exact .mk hname hskipped hequals hskippedAfter hread
  · intro h
    cases h with
    | mk hname hskipped hequals hskippedAfter hread =>
        simp [readSetting, hname, hskipped, hequals, hskippedAfter, hread]

/-! ## Values -/

def StartsUnquoted (text : List Char) : Prop :=
  ∀ c ∈ text.head?, c ≠ '[' ∧ c ≠ '\x7b' ∧ c ≠ '"' ∧ c ≠ '\''

inductive ValueWay : Nat → List Char → Tree → List Char → Prop
  | list {depth : Nat} {text rest : List Char} {items : List Tree}
      (read : readListed ']' (readValue depth) (text.length + 1) text = some (items, rest)) :
      ValueWay (depth + 1) ('[' :: text) (.list ⟨text.length + 1, rest.length⟩ items) rest
  | table {depth : Nat} {text rest : List Char} {settings : List Setting}
      {entries : List (Key × Tree)}
      (read : readListed '\x7d' (readSetting (readValue depth) (dropFiller false))
        (text.length + 1) text = some (settings, rest))
      (assembled : inlineTable? settings = some entries) :
      ValueWay (depth + 1) ('\x7b' :: text) (.table ⟨text.length + 1, rest.length⟩ entries) rest
  | quoted {depth : Nat} {quote : Char} {text value rest : List Char}
      (opens : quote = '"' ∨ quote = '\'')
      (read : readString (quote :: text) = some (value, rest)) :
      ValueWay depth (quote :: text)
        (.scalar ⟨text.length + 1, rest.length⟩ (.text (String.ofList value))) rest
  | unquoted {depth : Nat} {text rest : List Char} {value : Unquoted}
      (starts : StartsUnquoted text) (read : readUnquoted text = some (value, rest)) :
      ValueWay depth text (value.tree text ⟨text.length, rest.length⟩) rest

theorem readValue_eq_some_iff {tree : Tree} :
    readValue depth text = some (tree, rest) ↔ ValueWay depth text tree rest := by
  constructor
  · intro h
    unfold readValue at h
    split at h
    · split at h
      · cases h
      · obtain ⟨⟨items, left⟩, hread, h⟩ := Option.bind_eq_some_iff.1 h
        cases h
        exact .list hread
    · split at h
      · cases h
      · obtain ⟨⟨settings, left⟩, hread, h⟩ := Option.bind_eq_some_iff.1 h
        obtain ⟨entries, hassembled, h⟩ := Option.bind_eq_some_iff.1 h
        cases h
        exact .table hread hassembled
    · obtain ⟨⟨value, left⟩, hread, h⟩ := Option.bind_eq_some_iff.1 h
      cases h
      exact .quoted (.inl rfl) hread
    · obtain ⟨⟨value, left⟩, hread, h⟩ := Option.bind_eq_some_iff.1 h
      cases h
      exact .quoted (.inr rfl) hread
    next hlist htable hbasic hliteral =>
      obtain ⟨⟨value, left⟩, hread, h⟩ := Option.bind_eq_some_iff.1 h
      cases h
      refine .unquoted (fun c hc => ?_) hread
      obtain ⟨rest, rfl⟩ := List.head?_eq_some_iff.1 hc
      refine ⟨?_, ?_, ?_, ?_⟩
      · rintro rfl; exact hlist rest rfl
      · rintro rfl; exact htable rest rfl
      · rintro rfl; exact hbasic rest rfl
      · rintro rfl; exact hliteral rest rfl
  · intro h
    cases h with
    | list hread => simp [readValue, hread]
    | table hread hassembled => simp [readValue, hread, hassembled]
    | quoted hopens hread =>
        rcases hopens with rfl | rfl
        · simp [readValue, hread]
        · simp [readValue, hread]
    | unquoted hstarts hread =>
        unfold readValue
        split
        · exact absurd rfl (hstarts _ rfl).1
        · exact absurd rfl (hstarts _ rfl).2.1
        · exact absurd rfl (hstarts _ rfl).2.2.1
        · exact absurd rfl (hstarts _ rfl).2.2.2
        · simp [hread]

/-! ## Sections -/

inductive SectionsWay (fuel : Nat) (text : List Char) : List Setting × List Section → Prop
  | ended (filled : dropFiller false text = some []) : SectionsWay fuel text ([], [])
  | header {start : List Char} {header : Header} {left next : List Char}
      {settings : List Setting} {sections : List Section}
      (filled : dropFiller false text = some start) (opens : start.head? = some '[')
      (read : readHeader start = some (header, left)) (lineEnd : readLineEnd left = some ((), next))
      (others : readSections fuel next = some (settings, sections)) :
      SectionsWay fuel text ([], ⟨header, settings⟩ :: sections)
  | setting {start : List Char} {setting : Setting} {left next : List Char}
      {settings : List Setting} {sections : List Section}
      (filled : dropFiller false text = some start) (goesOn : start ≠ [])
      (opens : start.head? ≠ some '[')
      (read : readSetting (readValue maxDepth) (fun text => some (dropGap text)) start =
        some (setting, left))
      (lineEnd : readLineEnd left = some ((), next))
      (others : readSections fuel next = some (settings, sections)) :
      SectionsWay fuel text (setting :: settings, sections)

theorem readSections_eq_some_iff {parts : List Setting × List Section} :
    readSections (fuel + 1) text = some parts ↔ SectionsWay fuel text parts := by
  constructor
  · intro h
    rw [readSections] at h
    obtain ⟨start, hfilled, h⟩ := Option.bind_eq_some_iff.1 h
    split at h
    · cases h
      exact .ended hfilled
    · obtain ⟨⟨header, left⟩, hread, h⟩ := Option.bind_eq_some_iff.1 h
      obtain ⟨⟨_, next⟩, hlineEnd, h⟩ := Option.bind_eq_some_iff.1 h
      obtain ⟨⟨settings, sections⟩, hothers, h⟩ := Option.bind_eq_some_iff.1 h
      cases h
      exact .header hfilled rfl hread hlineEnd hothers
    next hended hopens =>
      obtain ⟨⟨setting, left⟩, hread, h⟩ := Option.bind_eq_some_iff.1 h
      obtain ⟨⟨_, next⟩, hlineEnd, h⟩ := Option.bind_eq_some_iff.1 h
      obtain ⟨⟨settings, sections⟩, hothers, h⟩ := Option.bind_eq_some_iff.1 h
      cases h
      refine .setting hfilled (fun h => hended h) (fun h => ?_) hread hlineEnd hothers
      obtain ⟨rest, rfl⟩ := List.head?_eq_some_iff.1 h
      exact hopens rest rfl
  · intro h
    cases h with
    | ended hfilled => simp [readSections, hfilled]
    | header hfilled hopens hread hlineEnd hothers =>
        obtain ⟨rest, rfl⟩ := List.head?_eq_some_iff.1 hopens
        simp [readSections, hfilled, hread, hlineEnd, hothers]
    | setting hfilled hgoesOn hopens hread hlineEnd hothers =>
        rw [readSections, hfilled]
        simp only [Option.bind_eq_bind, Option.bind_some]
        split
        · exact absurd rfl hgoesOn
        · exact absurd rfl hopens
        · simp [hread, hlineEnd, hothers]

end ClusterLink.Toml
