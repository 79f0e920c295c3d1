import ClusterLink.Proofs.Settings.Shape
import ClusterLink.Proofs.Toml.Proper

/-!
# Documents of settings

A document has the documented shape if every entry of its options is one, and what counts among its
general settings is a string. Documents are read as settings exactly if they have this shape, and
settings hold what is written and nothing else.
-/

namespace ClusterLink

/-- A name has the value that is written for it, and a default value if it is not there. -/
inductive WrittenOr (missing name : String) (entries : List (Key × Tree)) : String → Prop
  | written {entry : Key × Tree} {value : String} (mem : entry ∈ entries)
      (named : entry.1.name = name) (spells : entry.2.Spells value) :
      WrittenOr missing name entries value
  | missing (unnamed : ∀ entry ∈ entries, entry.1.name ≠ name) :
      WrittenOr missing name entries missing

variable {span : Span} {entry : Key × Tree} {entries document : List (Key × Tree)} {name : String}

/-! ## General settings -/

/-- An entry of the general settings that counts is a string. -/
def IsGeneral (entry : Key × Tree) : Prop :=
  entry.1.name = "log_format" ∨ entry.1.name = "log_level" → ∃ value, entry.2.Spells value

namespace General

variable {general next : General}

theorem exists_readEntry_iff :
    (∃ next, readEntry general entry = .ok next) ↔ IsGeneral entry := by
  have hread : (∃ value, readText "a string" entry.2 = .ok value) ↔
      ∃ value, entry.2.Spells value := exists_congr fun _ => readText_eq_ok_iff
  rw [IsGeneral, ← hread, readEntry]
  split
  next hformat => simp [hformat]
  next hformat =>
    split
    next hlevel => simp [hlevel]
    next hlevel => simp [hformat, hlevel]

theorem exists_read_iff :
    (∃ general, read (.table span entries) = .ok general) ↔ ∀ entry ∈ entries, IsGeneral entry := by
  refine exists_foldlM_iff (fun entry _ general => ?_) ({} : General)
  exact exists_readEntry_iff

theorem readEntry_cases (h : readEntry general entry = .ok next) :
    (∃ value, entry.1.name = "log_format" ∧ entry.2.Spells value ∧
        { general with logFormat := value } = next) ∨
      (∃ value, entry.1.name = "log_level" ∧ entry.2.Spells value ∧
        { general with logLevel := value } = next) ∨
      entry.1.name ≠ "log_format" ∧ entry.1.name ≠ "log_level" ∧ general = next := by
  unfold readEntry at h
  split at h
  next hformat =>
    obtain ⟨value, hvalue, hnext⟩ := map_eq_ok_iff.1 h
    exact .inl ⟨value, hformat, readText_eq_ok_iff.1 hvalue, hnext⟩
  next hformat =>
    split at h
    next hlevel =>
      obtain ⟨value, hvalue, hnext⟩ := map_eq_ok_iff.1 h
      exact .inr (.inl ⟨value, hlevel, readText_eq_ok_iff.1 hvalue, hnext⟩)
    next hlevel => exact .inr (.inr ⟨hformat, hlevel, Except.ok.inj h⟩)

theorem logLevel_of_read (hascending : Ascending entries)
    (h : read (.table span entries) = .ok general) :
    WrittenOr "info" "log_level" entries general.logLevel := by
  have hpart := part_of_foldlM General.logLevel "log_level" Tree.Spells
    (fun _ hread hname => by
      rcases readEntry_cases hread with ⟨value, hformat, _⟩ | ⟨value, _, hspells, rfl⟩ |
        ⟨_, hlevel, _⟩
      · exact absurd (hname.symm.trans hformat) (by decide)
      · exact hspells
      · exact absurd hname hlevel)
    (fun _ hread hname => by
      rcases readEntry_cases hread with ⟨value, _, _, rfl⟩ | ⟨value, hlevel, _⟩ | ⟨_, _, rfl⟩
      · rfl
      · exact absurd hlevel hname
      · rfl)
    hascending h
  rcases hpart with ⟨entry, hmem, hname, hspells⟩ | ⟨hnone, hdefault⟩
  · exact .written hmem hname hspells
  · rw [hdefault]
    exact .missing hnone

theorem logFormat_of_read (hascending : Ascending entries)
    (h : read (.table span entries) = .ok general) :
    WrittenOr "json" "log_format" entries general.logFormat := by
  have hpart := part_of_foldlM General.logFormat "log_format" Tree.Spells
    (fun _ hread hname => by
      rcases readEntry_cases hread with ⟨value, _, hspells, rfl⟩ | ⟨value, hlevel, _⟩ |
        ⟨hformat, _⟩
      · exact hspells
      · exact absurd (hname.symm.trans hlevel) (by decide)
      · exact absurd hname hformat)
    (fun _ hread hname => by
      rcases readEntry_cases hread with ⟨value, hformat, _⟩ | ⟨value, _, _, rfl⟩ | ⟨_, _, rfl⟩
      · exact absurd hformat hname
      · rfl
      · rfl)
    hascending h
  rcases hpart with ⟨entry, hmem, hname, hspells⟩ | ⟨hnone, hdefault⟩
  · exact .written hmem hname hspells
  · rw [hdefault]
    exact .missing hnone

end General

/-! ## Documents -/

namespace Settings

variable {settings next : Settings}

def sectionOf (name : String) (document : List (Key × Tree)) : List (Key × Tree) :=
  match (document.find? fun entry => entry.1.name == name).map Prod.snd with
  | some (.table _ entries) => entries
  | _ => []

/-- A section of a document is a table or missing. -/
def IsTableOrMissing (name : String) (document : List (Key × Tree)) : Prop :=
  ∀ entry ∈ document, entry.1.name = name → ∃ span entries, entry.2 = .table span entries

structure Documented (document : List (Key × Tree)) : Prop where
  options : ∀ entry ∈ sectionOf "elastic_integration" document, IsOption entry
  general : ∀ entry ∈ sectionOf "general" document, IsGeneral entry

/-- Settings hold what a document says, and defaults for the general settings that it leaves out. -/
structure Records (document : List (Key × Tree)) (settings : Settings) : Prop where
  value_iff : ∀ key value, settings.options.value? key = some value ↔
    ∃ entry ∈ sectionOf "elastic_integration" document,
      entry.1.name = key.name ∧ key.spec.kind.Writes entry.2 value
  supplied : settings.options.supplied =
    (sectionOf "elastic_integration" document).map fun entry => entry.1.name
  logLevel : WrittenOr "info" "log_level" (sectionOf "general" document) settings.general.logLevel
  logFormat : WrittenOr "json" "log_format" (sectionOf "general" document)
    settings.general.logFormat

theorem sectionOf_eq (hascending : Ascending document) (hmem : entry ∈ document)
    (hname : entry.1.name = name) (htable : entry.2 = .table span entries) :
    sectionOf name document = entries := by
  rw [sectionOf, hascending.find?_eq_some hmem hname, Option.map_some, htable]

theorem sectionOf_eq_nil (h : ∀ entry ∈ document, entry.1.name ≠ name) :
    sectionOf name document = [] := by
  rw [sectionOf, find?_eq_none_of_name_ne h]
  rfl

/-- What is asked of the tables of a name is asked of the entries of a section. -/
theorem forall_named_iff (Accepts : Tree → Prop) {Fits : Key × Tree → Prop}
    (haccepts : ∀ {span entries}, (Tree.table span entries).Tidy →
      (Accepts (.table span entries) ↔ ∀ entry ∈ entries, Fits entry))
    (htidy : (Tree.table span document).Tidy) (hsection : IsTableOrMissing name document) :
    (∀ entry ∈ document, entry.1.name = name → Accepts entry.2) ↔
      ∀ entry ∈ sectionOf name document, Fits entry := by
  cases htidy with
  | table hascending htidy =>
      by_cases hnone : ∀ entry ∈ document, entry.1.name ≠ name
      · rw [sectionOf_eq_nil hnone]
        exact iff_of_true (fun entry hmem hname => absurd hname (hnone entry hmem))
          (List.forall_mem_nil _)
      · push Not at hnone
        obtain ⟨entry, hmem, hname⟩ := hnone
        obtain ⟨place, entries, htable⟩ := hsection entry hmem hname
        rw [sectionOf_eq hascending hmem hname htable,
          ← haccepts (htable ▸ htidy entry hmem), ← htable]
        refine ⟨fun h => h entry hmem hname, fun h other hother hsame => ?_⟩
        rwa [hascending.eq_of_name hother hmem (hsame.trans hname.symm)]

theorem exists_readEntry_iff :
    (∃ next, readEntry settings entry = .ok next) ↔
      (entry.1.name = "elastic_integration" →
          ∃ options, Options.read .toml entry.2 = .ok options) ∧
        (entry.1.name = "general" → ∃ general, General.read entry.2 = .ok general) := by
  rw [readEntry]
  split
  next hoptions => simp [hoptions]
  next hoptions =>
    split
    next hgeneral => simp [hgeneral]
    next hgeneral => simp [hoptions, hgeneral]

theorem exists_foldlM_iff_documented (htidy : (Tree.table span document).Tidy)
    (hoptions : IsTableOrMissing "elastic_integration" document)
    (hgeneral : IsTableOrMissing "general" document) :
    (∃ settings, document.foldlM readEntry {} = .ok settings) ↔ Documented document := by
  have hwhole := exists_foldlM_iff
    (fun entry (_ : entry ∈ document) settings => @exists_readEntry_iff entry settings) {}
  have hfirst := forall_named_iff (fun tree => ∃ options, Options.read .toml tree = .ok options)
    Options.exists_read_iff htidy hoptions
  have hsecond := forall_named_iff (fun tree => ∃ general, General.read tree = .ok general)
    (fun _ => General.exists_read_iff) htidy hgeneral
  rw [hwhole]
  constructor
  · intro h
    exact ⟨hfirst.1 fun entry hmem => (h entry hmem).1,
      hsecond.1 fun entry hmem => (h entry hmem).2⟩
  · intro h entry hmem
    exact ⟨hfirst.2 h.options entry hmem, hsecond.2 h.general entry hmem⟩

theorem readEntry_cases (h : readEntry settings entry = .ok next) :
    (∃ options, entry.1.name = "elastic_integration" ∧
        Options.read .toml entry.2 = .ok options ∧ { settings with options } = next) ∨
      (∃ general, entry.1.name = "general" ∧ General.read entry.2 = .ok general ∧
        { settings with general } = next) ∨
      entry.1.name ≠ "elastic_integration" ∧ entry.1.name ≠ "general" ∧ settings = next := by
  unfold readEntry at h
  split at h
  next hoptions =>
    obtain ⟨options, hread, hnext⟩ := map_eq_ok_iff.1 h
    exact .inl ⟨options, hoptions, hread, hnext⟩
  next hoptions =>
    split at h
    next hgeneral =>
      obtain ⟨general, hread, hnext⟩ := map_eq_ok_iff.1 h
      exact .inr (.inl ⟨general, hgeneral, hread, hnext⟩)
    next hgeneral => exact .inr (.inr ⟨hoptions, hgeneral, Except.ok.inj h⟩)

/-- What is read for a section is read from its entries, and from none if it is missing. -/
theorem read_sectionOf {α : Type} {read : Tree → Except Misfit α} {found missing : α}
    (hmissing : read (.table default []) = .ok missing) (htidy : (Tree.table span document).Tidy)
    (hsection : IsTableOrMissing name document)
    (hfound : (∃ entry ∈ document, entry.1.name = name ∧ read entry.2 = .ok found) ∨
      (∀ entry ∈ document, entry.1.name ≠ name) ∧ found = missing) :
    ∃ place, (Tree.table place (sectionOf name document)).Tidy ∧
      read (.table place (sectionOf name document)) = .ok found := by
  cases htidy with
  | table hascending htidy =>
      rcases hfound with ⟨entry, hmem, hname, hread⟩ | ⟨hnone, rfl⟩
      · obtain ⟨place, entries, htable⟩ := hsection entry hmem hname
        rw [sectionOf_eq hascending hmem hname htable]
        exact ⟨place, htable ▸ htidy entry hmem, htable ▸ hread⟩
      · rw [sectionOf_eq_nil hnone]
        exact ⟨default, .table .nil (List.forall_mem_nil _), hmissing⟩

theorem options_of_foldlM (htidy : (Tree.table span document).Tidy)
    (hoptions : IsTableOrMissing "elastic_integration" document)
    (h : document.foldlM readEntry {} = .ok settings) :
    ∃ place, (Tree.table place (sectionOf "elastic_integration" document)).Tidy ∧
      Options.read .toml (.table place (sectionOf "elastic_integration" document)) =
        .ok settings.options := by
  refine read_sectionOf rfl htidy hoptions ?_
  cases htidy with
  | table hascending _ =>
      refine part_of_foldlM Settings.options "elastic_integration"
        (fun tree options => Options.read .toml tree = .ok options) ?_ ?_ hascending h
      · intro _ _ _ _ hread hname
        rcases readEntry_cases hread with ⟨_, _, hsection, rfl⟩ | ⟨_, hgeneral, _⟩ | ⟨hne, _⟩
        · exact hsection
        · exact absurd (hname.symm.trans hgeneral) (by decide)
        · exact absurd hname hne
      · intro _ _ _ _ hread hname
        rcases readEntry_cases hread with ⟨_, hsame, _⟩ | ⟨_, _, _, rfl⟩ | ⟨_, _, rfl⟩
        · exact absurd hsame hname
        · rfl
        · rfl

theorem general_part (hascending : Ascending document)
    (h : document.foldlM readEntry {} = .ok settings) :
    (∃ entry ∈ document, entry.1.name = "general" ∧
        General.read entry.2 = .ok settings.general) ∨
      (∀ entry ∈ document, entry.1.name ≠ "general") ∧ settings.general = {} := by
  refine part_of_foldlM Settings.general "general"
    (fun tree general => General.read tree = .ok general) ?_ ?_ hascending h
  · intro _ _ _ _ hread hname
    rcases readEntry_cases hread with ⟨_, hoptions, _⟩ | ⟨_, _, hsection, rfl⟩ | ⟨_, hne, _⟩
    · exact absurd (hname.symm.trans hoptions) (by decide)
    · exact hsection
    · exact absurd hname hne
  · intro _ _ _ _ hread hname
    rcases readEntry_cases hread with ⟨_, _, _, rfl⟩ | ⟨_, hsame, _⟩ | ⟨_, _, rfl⟩
    · rfl
    · exact absurd hsame hname
    · rfl

theorem general_of_foldlM (htidy : (Tree.table span document).Tidy)
    (hgeneral : IsTableOrMissing "general" document)
    (h : document.foldlM readEntry {} = .ok settings) :
    ∃ place, (Tree.table place (sectionOf "general" document)).Tidy ∧
      General.read (.table place (sectionOf "general" document)) = .ok settings.general := by
  refine read_sectionOf rfl htidy hgeneral ?_
  cases htidy with
  | table hascending _ => exact general_part hascending h

theorem records_of_foldlM (htidy : (Tree.table span document).Tidy)
    (hoptions : IsTableOrMissing "elastic_integration" document)
    (hgeneral : IsTableOrMissing "general" document)
    (h : document.foldlM readEntry {} = .ok settings) : Records document settings := by
  obtain ⟨_, hoptionsTidy, hread⟩ := options_of_foldlM htidy hoptions h
  obtain ⟨_, hgeneralTidy, hreadGeneral⟩ := general_of_foldlM htidy hgeneral h
  cases hgeneralTidy with
  | table hascending _ =>
      exact {
        value_iff := Options.value?_of_read hoptionsTidy hread
        supplied := Options.supplied_of_read hoptionsTidy hread
        logLevel := General.logLevel_of_read hascending hreadGeneral
        logFormat := General.logFormat_of_read hascending hreadGeneral }

/-! ## Texts -/

theorem allScalars_lookedAt {test : Scalar → Bool} {tree : Tree} (name : String)
    (h : tree.allScalars test = true) : (lookedAt name tree).allScalars test = true := by
  cases tree with
  | scalar | table => exact h
  | list span items =>
      rw [Tree.allScalars, Tree.allInItems_eq_all, List.all_eq_true] at h
      rw [lookedAt]
      split_ifs <;> rw [Tree.allScalars, Tree.allInItems_eq_all, List.all_eq_true]
      · exact fun item hitem => h item (List.mem_of_mem_take hitem)
      · exact fun item hitem => h item (List.mem_of_mem_take hitem)
      · exact h

/-- A document with an unreadable number holds something that is no value of the notation. -/
theorem isReadable_of_areProper (halone : ∀ entry ∈ document, Toml.MomentsAlone entry.2)
    (hproper : Toml.areProper document = true) : isReadable document = true := by
  rw [Toml.areProper_eq_all, List.all_eq_true] at hproper
  refine List.all_eq_true.2 fun entry hentry => allScalars_lookedAt entry.1.name ?_
  exact Toml.readable_of_isProper (halone entry hentry) (hproper entry hentry)

variable {text : String}

/-- A document with readable numbers is read entry by entry, and only a fault is looked into. -/
theorem parse_cases (hdocument : Toml.document? text.toList = some document)
    (hreadable : isReadable document = true) :
    (∃ settings, document.foldlM readEntry {} = .ok settings ∧ parse text = .ok settings) ∨
      ∃ misfit fault, document.foldlM readEntry {} = .error misfit ∧ parse text = .error fault ∧
        ((∃ reason, fault = .parseFailed reason) ∨
          fault = .notToml ∧ Toml.areProper document = false) := by
  rw [parse, hdocument]
  simp only [hreadable, Bool.not_true, Bool.false_eq_true, if_false]
  cases hread : document.foldlM readEntry {} with
  | ok settings => exact .inl ⟨settings, rfl, rfl⟩
  | error misfit =>
      cases hproper : Toml.areProper document with
      | true => exact .inr ⟨misfit, _, rfl, rfl, .inl ⟨_, rfl⟩⟩
      | false => exact .inr ⟨misfit, _, rfl, rfl, .inr ⟨rfl, rfl⟩⟩

/--
A text is read as settings exactly if its document has the documented shape. Settings record the
document, and every other document with readable numbers fails to parse; the fault of one that also
holds something that is no value of the notation is that it is none.
-/
theorem parse_documented (hdocument : Toml.document? text.toList = some document)
    (hreadable : isReadable document = true)
    (hoptions : IsTableOrMissing "elastic_integration" document)
    (hgeneral : IsTableOrMissing "general" document) :
    ((∃ settings, parse text = .ok settings) ↔ Documented document) ∧
      (∀ settings, parse text = .ok settings → Records document settings) ∧
      ∀ fault, parse text = .error fault →
        (∃ reason, fault = .parseFailed reason) ∨
          fault = .notToml ∧ Toml.areProper document = false := by
  have htidy := Toml.tidy_document? hdocument default
  have hshape := exists_foldlM_iff_documented htidy hoptions hgeneral
  rcases parse_cases hdocument hreadable with ⟨settings, hread, hparse⟩ |
    ⟨misfit, fault, hread, hparse, hfault⟩
  · have hrecords := records_of_foldlM htidy hoptions hgeneral hread
    refine ⟨iff_of_true ⟨settings, hparse⟩ (hshape.1 ⟨settings, hread⟩), ?_, ?_⟩
    · rintro other hother
      cases hparse.symm.trans hother
      exact hrecords
    · intro fault hfault
      cases hparse.symm.trans hfault
  · have hundocumented : ¬ Documented document := fun h => by
      obtain ⟨settings, hsettings⟩ := hshape.2 h
      cases hread.symm.trans hsettings
    refine ⟨iff_of_false ?_ hundocumented, ?_, ?_⟩
    · rintro ⟨settings, hsettings⟩
      cases hparse.symm.trans hsettings
    · intro settings hsettings
      cases hparse.symm.trans hsettings
    · rintro other hother
      cases hparse.symm.trans hother
      exact hfault

def terseText : String :=
  "general.log_level = 'warn'\n[elastic_integration]\nhosts = 'a'\napi_key = 'b'\n"

def terseDocument : List (Key × Tree) :=
  [(⟨"elastic_integration", ⟨47, 28⟩⟩, .table ⟨48, 27⟩
      [(⟨"api_key", ⟨14, 7⟩⟩, .scalar ⟨4, 1⟩ (.text "b")),
        (⟨"hosts", ⟨26, 21⟩⟩, .scalar ⟨18, 15⟩ (.text "a"))]),
    (⟨"general", ⟨75, 68⟩⟩, .table ⟨75, 68⟩
      [(⟨"log_level", ⟨67, 58⟩⟩, .scalar ⟨55, 49⟩ (.text "warn"))])]

theorem recorded_terseText :
    ∃ settings, parse terseText = .ok settings ∧ Records terseDocument settings := by
  have hdocument : Toml.document? terseText.toList = some terseDocument := by decide +kernel
  have hoptions : IsTableOrMissing "elastic_integration" terseDocument := by
    simp [IsTableOrMissing, terseDocument]
  have hgeneral : IsTableOrMissing "general" terseDocument := by
    simp [IsTableOrMissing, terseDocument]
  obtain ⟨hshape, hrecords, -⟩ := parse_documented hdocument rfl hoptions hgeneral
  obtain ⟨settings, hsettings⟩ := hshape.2 {
    options := by
      intro entry hentry
      rcases List.mem_pair.1 hentry with rfl | rfl
      · exact ⟨.apiKey, _, rfl, .password .text⟩
      · exact ⟨.hosts, _, rfl, .uriList (.one .text)⟩
    general := by
      intro entry hentry _
      rw [List.mem_singleton.1 hentry]
      exact ⟨_, .text⟩ }
  exact ⟨settings, hsettings, hrecords settings hsettings⟩

end Settings

end ClusterLink
