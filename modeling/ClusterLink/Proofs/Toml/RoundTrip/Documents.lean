import ClusterLink.Proofs.Toml.RoundTrip.Tables
import ClusterLink.Proofs.Traced
import ClusterLink.Proofs.Tree

/-!
# Documents that are read back

A record that is written as a document is read back: the document has an entry for each member that
is there, and the entry holds the member's value, in sections as deep as the record goes.
-/

namespace ClusterLink

open Toml

variable {members others : List (String × Datum)} {datum : Datum} {depth : Nat}

/-! ## Lines and sections of a record -/

def sectionMembers (members : List (String × Datum)) : List (String × Datum) :=
  (members.filter (isSection ·.2)).map fun member => (member.1, member.2.settled)

theorem Datum.Plain.sortedItems_eq {items : List Datum}
    (h : ∀ item ∈ items, item.sorted = item) : sortedItems items = items := by
  induction items with
  | nil => rfl
  | cons item rest ih =>
      obtain ⟨hitem, hrest⟩ := List.forall_mem_cons.1 h
      rw [sortedItems, hitem, ih hrest]

theorem Datum.Plain.sorted_eq (h : datum.Plain depth) : datum.sorted = datum := by
  induction h with
  | text | boolean => rfl
  | list _ ih => rw [sorted, sortedItems_eq ih]

theorem Datum.Plain.settled_eq (h : datum.Plain depth) : datum.settled = datum := by
  have hpresent : datum.present = datum := by cases h <;> rfl
  rw [settled, hpresent, h.sorted_eq]

/-- Every member that is there has a line or a section, and none has both. -/
theorem filter_hasLine_append_perm (members : List (String × Datum)) :
    (members.filter (·.2.hasLine) ++ members.filter (isSection ·.2)).Perm
      (members.filter (·.2.isPresent)) := by
  have hlines (datum : Datum) : (datum.hasLine && datum.isPresent) = datum.hasLine := by
    cases datum <;> rfl
  have hsections (datum : Datum) : (!datum.hasLine && datum.isPresent) = isSection datum := by
    cases datum <;> rfl
  have hperm := List.filter_append_perm (fun member : String × Datum => member.2.hasLine)
    (members.filter (·.2.isPresent))
  simpa only [List.filter_filter, hlines, hsections] using hperm

theorem map_fst_sectionMembers (members : List (String × Datum)) :
    (sectionMembers members).map Prod.fst = (members.filter (isSection ·.2)).map Prod.fst := by
  rw [sectionMembers, List.map_map]
  rfl

theorem nodup_lines_append_sections (hdistinct : (members.map Prod.fst).Nodup) :
    ((members.filter (·.2.hasLine) ++ sectionMembers members).map Prod.fst).Nodup := by
  rw [List.map_append, map_fst_sectionMembers, ← List.map_append]
  refine ((filter_hasLine_append_perm members).map Prod.fst).nodup_iff.2 ?_
  exact hdistinct.sublist (List.filter_sublist.map Prod.fst)

/-- What is read back of a record is made of its lines and its sections. -/
theorem settled_record_eq (hdistinct : (members.map Prod.fst).Nodup)
    (heach : ∀ member ∈ members, member.2.Expressible depth) :
    (Datum.record members).settled =
      .record (Members.ofPairs (members.filter (·.2.hasLine) ++ sectionMembers members)) := by
  have hlines : (members.filter (·.2.hasLine)).map (fun member => (member.1, member.2.settled)) =
      members.filter (·.2.hasLine) := by
    refine (List.map_congr_left fun member hmember => ?_).trans (List.map_id _)
    obtain ⟨hmem, hline⟩ := List.mem_filter.1 hmember
    rw [((heach member hmem).plain_of_hasLine hline).settled_eq]
    rfl
  have hperm := (filter_hasLine_append_perm members).map
    fun member => (member.1, member.2.settled)
  rw [List.map_append, hlines] at hperm
  rw [Datum.settled_record]
  exact congrArg Datum.record
    (Members.ofPairs_eq_of_perm hperm (nodup_lines_append_sections hdistinct)).symm

/-! ## Blocks that are read back -/

namespace Toml

variable {path : List String} {name : String} {blocks otherBlocks : List (List Char)}
  {layout : ListLayout}

/--
Blocks under a path, each after a blank line, are read back as sections under this path that put
members in place, whatever follows them.
-/
def Restores (path : List String) (blocks : List (List Char)) (members : List (String × Datum)) :
    Prop :=
  ∀ rest sections, ReadsAs rest ([], sections) →
    ∃ parts, ReadsAs (blocks.flatMap (['\n'] ++ ·) ++ rest) ([], parts ++ sections) ∧
      (∀ part ∈ parts, ∃ name more, part.names = path ++ name :: more) ∧
      Adds path.length parts members

theorem restores_nil (path : List String) : Restores path [] [] := fun _ _ h =>
  ⟨[], h, List.forall_mem_nil _, adds_nil _⟩

theorem Restores.append (h : Restores path blocks members)
    (hothers : Restores path otherBlocks others)
    (hdistinct : ((members ++ others).map Prod.fst).Nodup) :
    Restores path (blocks ++ otherBlocks) (members ++ others) := by
  intro rest sections hrest
  obtain ⟨later, hlater, hunderLater, haddsLater⟩ := hothers rest sections hrest
  obtain ⟨parts, hparts, hunder, hadds⟩ := h _ _ hlater
  refine ⟨parts ++ later, ?_, List.forall_mem_append.2 ⟨hunder, hunderLater⟩,
    hadds.append haddsLater hdistinct⟩
  rwa [List.flatMap_append, List.append_assoc, List.append_assoc]

/-- A table has a block of its own unless there is nothing to write in it but sections. -/
theorem tableBlock_cases (layout : ListLayout) (hpath : path ≠ [])
    (members : List (String × Datum)) :
    tableBlock layout path members = [writeHeader path ++ members.flatMap (writeLine layout)] ∨
      tableBlock layout path members = [] ∧ members.flatMap (writeLine layout) = [] ∧
        members.any (isSection ·.2) = true := by
  unfold tableBlock
  dsimp only
  split
  · exact absurd rfl hpath
  · exact absurd rfl hpath
  next hlines =>
    rw [hlines]
    split
    next hsections => exact .inr ⟨rfl, rfl, hsections⟩
    next => exact .inl (by rw [List.append_nil])
  next => exact .inl rfl

theorem filter_hasLine_eq_nil (h : members.flatMap (writeLine layout) = []) :
    members.filter (·.2.hasLine) = [] := by
  refine List.filter_eq_nil_iff.2 fun member hmember hline => ?_
  have hnone := List.flatMap_eq_nil_iff.1 h member hmember
  rw [writeLine_eq hline] at hnone
  simp at hnone

/-- A section is read back as one member, if the sections in it are read back. -/
theorem restores_section (layout : ListLayout) (hdepth : path.length < maxDepth)
    (hdistinct : (members.map Prod.fst).Nodup)
    (heach : ∀ member ∈ members, member.2.Expressible depth)
    (hinner : Restores (path ++ [name]) (memberBlocks layout (path ++ [name]) members)
      (sectionMembers members)) :
    Restores path (sectionBlocks layout (path ++ [name]) (.record members))
      [(name, (Datum.record members).settled)] := by
  intro rest sections hrest
  obtain ⟨parts, hparts, hunder, hadds⟩ := hinner rest sections hrest
  have hwritten : path ++ [name] ≠ [] := by simp
  have hthrough : ∀ part ∈ parts, part.GoesThrough path.length name := by
    intro part hpart
    obtain ⟨next, more, hnames⟩ := hunder part hpart
    rw [List.append_assoc] at hnames
    exact Section.goesThrough_of_names hnames
  have hunder : ∀ part ∈ parts, ∃ name more, part.names = path ++ name :: more := by
    intro part hpart
    obtain ⟨next, more, hnames⟩ := hunder part hpart
    exact ⟨name, next :: more, by rw [hnames, List.append_assoc]; rfl⟩
  rw [List.length_append, List.length_singleton] at hadds
  rw [settled_record_eq hdistinct heach, sectionBlocks]
  rcases tableBlock_cases layout hwritten members with hblock | ⟨hblock, hlines, hsections⟩
  · have hlength : (path ++ [name]).length ≤ maxDepth := by
      rw [List.length_append]
      exact hdepth
    obtain ⟨part, hnames, helement, hsets, hread⟩ := hparts.table hwritten hlength heach
    obtain ⟨hpath, hname⟩ := Section.path_of_names hnames
    refine ⟨part :: parts, ?_, List.forall_mem_cons.2 ⟨⟨name, [], hnames⟩, hunder⟩,
      adds_table helement hpath hname hsets hthrough hadds (nodup_lines_append_sections hdistinct)⟩
    rw [hblock, List.flatMap_append, List.flatMap_singleton, List.append_assoc, List.append_assoc]
    exact hread.blank
  · rw [filter_hasLine_eq_nil hlines, hblock]
    refine ⟨parts, hparts, hunder, adds_implied hthrough hadds ?_⟩
    obtain ⟨member, hmember, hsection⟩ := List.any_eq_true.1 hsections
    exact List.ne_nil_of_mem
      (List.mem_map.2 ⟨member, List.mem_filter.2 ⟨hmember, hsection⟩, rfl⟩)

theorem restores_memberBlocks (layout : ListLayout) (hdistinct : (members.map Prod.fst).Nodup)
    (heach : ∀ member ∈ members, Restores path (sectionBlocks layout (path ++ [member.1]) member.2)
      (sectionMembers [member])) :
    Restores path (memberBlocks layout path members) (sectionMembers members) := by
  induction members with
  | nil => exact restores_nil path
  | cons member members ih =>
      obtain ⟨hmember, hrest⟩ := List.forall_mem_cons.1 heach
      have hsplit : sectionMembers (member :: members) =
          sectionMembers [member] ++ sectionMembers members := by
        rw [sectionMembers, ← List.singleton_append, List.filter_append, List.map_append]
        rfl
      have hsections : ((sectionMembers (member :: members)).map Prod.fst).Nodup := by
        rw [map_fst_sectionMembers]
        exact hdistinct.sublist (List.filter_sublist.map Prod.fst)
      rw [hsplit] at hsections ⊢
      exact hmember.append (ih hdistinct.of_cons hrest) hsections

/-- Whatever a member can be, its blocks are read back as the member. -/
theorem restores_sectionBlocks (layout : ListLayout) (h : datum.Expressible depth)
    (hdepth : path.length + depth ≤ maxDepth) (name : String) :
    Restores path (sectionBlocks layout (path ++ [name]) datum)
      (sectionMembers [(name, datum)]) := by
  induction h generalizing path name with
  | missing => exact restores_nil path
  | plain hplain => cases hplain <;> exact restores_nil path
  | record hdistinct heach ih =>
      refine restores_section layout (by omega) hdistinct heach
        (restores_memberBlocks layout hdistinct fun member hmember => ?_)
      refine ih member hmember ?_ member.1
      rw [List.length_append, List.length_singleton]
      omega

/-! ## Documents -/

/-- The blocks of a document start with its lines, and only the first one has no blank line. -/
theorem joined_tableBlock (layout : ListLayout) (members : List (String × Datum))
    (blocks : List (List Char)) :
    let text := joined ['\n'] (tableBlock layout [] members ++ blocks)
    let whole := members.flatMap (writeLine layout) ++ blocks.flatMap (['\n'] ++ ·)
    whole = text ∨ whole = '\n' :: text := by
  intro text whole
  cases hlines : members.flatMap (writeLine layout) with
  | nil =>
      have hblock : tableBlock layout [] members = [] := by simp [tableBlock, hlines]
      cases blocks with
      | nil =>
          refine .inl ?_
          simp only [text, whole, hlines, hblock]
          rfl
      | cons block blocks =>
          refine .inr ?_
          simp only [text, whole, hlines, hblock, List.nil_append, joined_cons]
          rfl
  | cons c line =>
      have hblock : tableBlock layout [] members = [c :: line] := by simp [tableBlock, hlines]
      refine .inl ?_
      simp only [text, whole, hlines, hblock, List.singleton_append, joined_cons]

theorem readSections_orderMark (fuel : Nat) (rest : List Char) :
    readSections fuel ('\uFEFF' :: rest) = none := by
  cases fuel with
  | zero => rfl
  | succ fuel =>
      have hunfilled : Unfilled ('\uFEFF' :: rest) := by
        intro c hc
        cases hc
        decide
      have hkey : readKey ('\uFEFF' :: rest) = none := rfl
      rw [readSections, hunfilled.dropFiller_eq]
      simp [readSetting, hkey]

theorem dropOrderMark_of_readSections {fuel : Nat} {text : List Char}
    {parts : List Setting × List Section} (h : readSections fuel text = some parts) :
    dropOrderMark text = text := by
  unfold dropOrderMark
  split
  · rw [readSections_orderMark] at h
    cases h
  · rfl

/-- Lines and sections of distinct names are put together in one table. -/
theorem assemble?_eq_some {settings : List Setting} {parts : List Section}
    (hsets : List.Forall₂ Setting.Sets settings members) (hadds : Adds 0 parts others)
    (hdistinct : ((members ++ others).map Prod.fst).Nodup) (span : Span) :
    ∃ document, assemble? settings parts = some document ∧
      (Tree.table span document).Holds (.record (Members.ofPairs (members ++ others))) := by
  obtain ⟨lines, filled, hlines, hfilled, hmatches⟩ := exists_filled hsets hadds hdistinct
  refine ⟨treeEntries filled, ?_, holds_table hmatches span⟩
  have hsections : parts.foldlM (fun root part => part.add root) lines = some filled := hfilled
  simp only [assemble?, hlines, Option.bind_eq_bind, Option.bind_some, hsections]

/-- What is written for a record is a document that holds the record. -/
theorem document?_write (layout : ListLayout)
    (h : (Datum.record members).Expressible (maxDepth + 1)) (span : Span) :
    ∃ document, document? (write layout members).toList = some document ∧
      (Tree.table span document).Holds (Datum.record members).settled := by
  cases h with
  | plain hplain => cases hplain
  | record hdistinct heach =>
      have hblocks : Restores [] (memberBlocks layout [] members) (sectionMembers members) :=
        restores_memberBlocks layout hdistinct fun member hmember =>
          restores_sectionBlocks layout (heach member hmember) (by simp) member.1
      obtain ⟨parts, hparts, -, hadds⟩ := hblocks [] [] readsAs_nil
      obtain ⟨settings, hsets, hread⟩ := hparts.lines heach
      obtain ⟨document, hassembled, hholds⟩ :=
        assemble?_eq_some hsets hadds (nodup_lines_append_sections hdistinct) span
      rw [← settled_record_eq hdistinct heach] at hholds
      rw [List.append_nil, List.append_nil, List.append_nil] at hread
      have htext : (write layout members).toList = joined ['\n']
          (tableBlock layout [] members ++ memberBlocks layout [] members) := by
        rw [write, String.toList_ofList, sectionBlocks]
      have hwhole := joined_tableBlock layout members (memberBlocks layout [] members)
      dsimp only at hwhole
      rw [← htext] at hwhole
      generalize (write layout members).toList = text at hwhole
      have hsections : readSections (text.length + 1) text = some (settings, parts) := by
        rcases hwhole with hwhole | hwhole
        · rw [hwhole] at hread
          exact hread _ (by omega)
        · rw [hwhole] at hread
          rw [← readSections_blank]
          exact hread _ (by rw [List.length_cons]; omega)
      refine ⟨document, ?_, hholds⟩
      simp only [document?, dropOrderMark_of_readSections hsections, hsections, Option.bind_eq_bind,
        Option.bind_some, hassembled]

end Toml

/-! ## Tables that hold a record -/

namespace Tree

variable {tree : Tree} {place : Span} {entries : List (Key × Tree)} {entry : Key × Tree}
  {member : String × Datum}

theorem Holds.forall₂ (h : (Tree.table place entries).Holds (.record members)) :
    List.Forall₂ (fun entry member => entry.1.name = member.1 ∧ entry.2.Holds member.2) entries
      members := by
  cases h with
  | table hnames hvalues =>
      induction entries generalizing members with
      | nil =>
          cases List.map_eq_nil_iff.1 hnames.symm
          exact .nil
      | cons entry entries ih =>
          cases members with
          | nil => cases hvalues
          | cons member members =>
              obtain ⟨hname, hnames⟩ := List.cons.inj hnames
              obtain ⟨hvalue, hvalues⟩ := List.forall₂_cons.1 hvalues
              exact .cons ⟨hname, hvalue⟩ (ih hnames hvalues)

/-- Every value of a tree that holds a datum is readable. -/
theorem Holds.readable (h : tree.Holds datum) : tree.allScalars (· != .unreadable) = true := by
  induction tree using Tree.induct generalizing datum with
  | scalar => cases h <;> rfl
  | list _ _ ih =>
      cases h with
      | list hitems =>
          rw [allScalars, allInItems_eq_all, List.all_eq_true]
          intro item hitem
          obtain ⟨other, -, hholds⟩ := exists_mem_of_forall₂ hitems.flip hitem
          exact ih item hitem hholds
  | table _ _ ih =>
      cases h with
      | @table _ _ members hnames hvalues =>
          rw [allScalars, allInEntries_eq_all, List.all_eq_true]
          intro entry hentry
          obtain ⟨other, -, hholds⟩ :=
            exists_mem_of_forall₂ hvalues.flip (List.mem_map_of_mem hentry)
          exact ih entry hentry hholds

theorem mem_ofPairs_settled (hdistinct : (members.map Prod.fst).Nodup) :
    member ∈ Members.ofPairs
        ((members.filter (·.2.isPresent)).map fun member => (member.1, member.2.settled)) ↔
      ∃ value, (member.1, value) ∈ members ∧ value.isPresent = true ∧ value.settled = member.2 := by
  have hnames : (((members.filter (·.2.isPresent)).map
      fun member => (member.1, member.2.settled)).map Prod.fst).Nodup := by
    rw [List.map_map]
    exact hdistinct.sublist (List.filter_sublist.map Prod.fst)
  rw [(Members.ofPairs_perm hnames).mem_iff, List.mem_map]
  constructor
  · rintro ⟨source, hsource, rfl⟩
    obtain ⟨hmem, hpresent⟩ := List.mem_filter.1 hsource
    exact ⟨source.2, hmem, hpresent, rfl⟩
  · rintro ⟨value, hmem, hpresent, hvalue⟩
    exact ⟨(member.1, value), List.mem_filter.2 ⟨hmem, hpresent⟩, Prod.ext rfl hvalue⟩

variable (hdistinct : (members.map Prod.fst).Nodup)
  (h : (table place entries).Holds (Datum.record members).settled)

include hdistinct h

/-- A member that is there has an entry that holds its value. -/
theorem exists_entry {name : String} (hmem : (name, datum) ∈ members)
    (hpresent : datum.isPresent = true) :
    ∃ entry ∈ entries, entry.1.name = name ∧ entry.2.Holds datum.settled := by
  rw [Datum.settled_record] at h
  obtain ⟨entry, hentry, hname, hholds⟩ := exists_mem_of_forall₂ h.forall₂
    ((mem_ofPairs_settled hdistinct).2 ⟨datum, hmem, hpresent, rfl⟩ :
      (name, datum.settled) ∈ Members.ofPairs _)
  exact ⟨entry, hentry, hname, hholds⟩

/-- An entry holds the value of a member that is there. -/
theorem exists_member (hmem : entry ∈ entries) :
    ∃ value, (entry.1.name, value) ∈ members ∧ value.isPresent = true ∧
      entry.2.Holds value.settled := by
  rw [Datum.settled_record] at h
  obtain ⟨member, hmember, hname, hholds⟩ := exists_mem_of_forall₂ h.forall₂.flip hmem
  obtain ⟨value, hvalue, hpresent, hsettled⟩ := (mem_ofPairs_settled hdistinct).1 hmember
  exact ⟨value, hname ▸ hvalue, hpresent, hsettled ▸ hholds⟩

end Tree

end ClusterLink
