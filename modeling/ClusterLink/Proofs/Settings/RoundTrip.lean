import ClusterLink.Proofs.Options.Paths
import ClusterLink.Proofs.Settings.Reading
import ClusterLink.Proofs.Toml.RoundTrip.Complete

/-!
# Settings that are read back

What is written of settings is read back as the same settings, except that every secret that is
given has become the mask. Read back once more, they stay as they are. Settings with a path that is
no text are not written at all.
-/

namespace ClusterLink

/-! ## Redacted options -/

/-- The value, with the mask in the place of a secret. -/
def OptionValue.redacted : OptionValue → OptionValue
  | .secret _ => .secret ⟨Secret.mask⟩
  | value => value

namespace Options

variable {key : OptionKey} {value : OptionValue}

def redacted (options : Options) : Options :=
  let redact (secret : Option Secret) : Option Secret := secret.map fun _ => ⟨Secret.mask⟩
  { options with
    sslKeyPassphrase := redact options.sslKeyPassphrase
    sslKeystorePassword := redact options.sslKeystorePassword
    sslTruststorePassword := redact options.sslTruststorePassword
    password := redact options.password
    cloudAuth := redact options.cloudAuth
    apiKey := redact options.apiKey }

theorem value?_redacted (options : Options) (key : OptionKey) :
    options.redacted.value? key = (options.value? key).map OptionValue.redacted := by
  cases key <;> simp only [value?, redacted, Option.map_map] <;> rfl

theorem forall₂_spells (values : List String) :
    List.Forall₂ Tree.Spells (values.map fun value => .scalar default (.text value)) values :=
  List.forall₂_map_left_iff.2 (List.forall₂_same.2 fun _ _ => .text)

/-- An option holds values of its kind only. -/
theorem exists_writes {options : Options} (h : options.value? key = some value) :
    ∃ tree, key.spec.kind.Writes tree value := by
  cases key with
  | id | cloudId | username | pipelineName =>
      obtain ⟨found, -, rfl⟩ := Option.map_eq_some_iff.1 h
      exact ⟨.scalar default (.text found), .text .text⟩
  | sslVerificationMode =>
      obtain ⟨found, -, rfl⟩ := Option.map_eq_some_iff.1 h
      exact ⟨.scalar default (.text found), .choice .text⟩
  | sslCertificate | sslKey | sslKeystorePath | sslTruststorePath | geoipDatabaseDirectory =>
      obtain ⟨found, -, rfl⟩ := Option.map_eq_some_iff.1 h
      exact ⟨.scalar default (.text found), .path .text⟩
  | sslKeyPassphrase | sslKeystorePassword | sslTruststorePassword | password | cloudAuth |
    apiKey =>
      obtain ⟨found, -, rfl⟩ := Option.map_eq_some_iff.1 h
      exact ⟨.scalar default (.text found.expose), .password .text⟩
  | sslEnabled =>
      obtain ⟨found, -, rfl⟩ := Option.map_eq_some_iff.1 h
      exact ⟨.scalar default (.boolean found), .boolean⟩
  | hosts =>
      obtain ⟨found, -, rfl⟩ := Option.map_eq_some_iff.1 h
      exact ⟨.list default _, .uriList (.many (forall₂_spells found))⟩
  | sslCertificateAuthorities =>
      obtain ⟨found, -, rfl⟩ := Option.map_eq_some_iff.1 h
      exact ⟨.list default _, .pathList (.many (forall₂_spells found))⟩

theorem gives_redacted (options : Options) (key : OptionKey) :
    options.redacted.gives key = options.gives key := by
  rw [gives, gives, value?_redacted, Option.isSome_map]

theorem supplied_redacted (options : Options) : options.redacted.supplied = options.supplied := by
  rw [supplied, supplied, funext options.gives_redacted]

theorem redacted_redacted (options : Options) : options.redacted.redacted = options.redacted := by
  refine ext_value? fun key => ?_
  rw [value?_redacted, value?_redacted, Option.map_map]
  refine congrArg (Option.map · (options.value? key)) (funext fun value => ?_)
  cases value <;> rfl

end Options

/-! ## Written values -/

namespace OptionValue

variable {kind : OptionKind} {tree other : Tree} {value : OptionValue}

theorem plain_datum (value : OptionValue) : value.datum.Plain Toml.maxDepth := by
  cases value with
  | text | secret => exact .text
  | flag => exact .boolean
  | texts values => exact .texts id values

theorem spells_of_holds {text : String} (h : tree.Holds (.text text)) : tree.Spells text := by
  cases h
  exact .text

theorem spellsEach_of_holds {texts : List String} (h : tree.Holds (.list (texts.map .text))) :
    tree.SpellsEach texts := by
  cases h with
  | list hitems =>
      exact .many ((List.forall₂_map_right_iff.1 hitems).imp fun _ _ => spells_of_holds)

/-- Exactly the passwords are replaced by the mask. -/
theorem redacted_eq (h : kind.Writes tree value) :
    value.redacted = if kind == .password then .secret ⟨"[REDACTED]"⟩ else value := by
  cases h <;> rfl

/-- What holds a value as it is written is a written form of the redacted value. -/
theorem writes_redacted (h : kind.Writes other value) (hholds : tree.Holds value.datum) :
    kind.Writes tree value.redacted := by
  cases h with
  | text => exact .text (spells_of_holds hholds)
  | choice => exact .choice (spells_of_holds hholds)
  | path => exact .path (spells_of_holds hholds)
  | password => exact .password (spells_of_holds hholds)
  | boolean =>
      cases hholds
      exact .boolean
  | uriList => exact .uriList (spellsEach_of_holds hholds)
  | pathList => exact .pathList (spellsEach_of_holds hholds)

end OptionValue

/-! ## Written settings -/

namespace Options

theorem distinct_members (options : Options) : (options.members.map Prod.fst).Nodup := by
  have hnames : options.members.map Prod.fst = OptionKey.all.map OptionKey.name := by
    rw [members, List.map_map]
    rfl
  rw [hnames]
  decide

theorem mem_members_iff {options : Options} {name : String} {datum : Datum} :
    (name, datum) ∈ options.members ∧ datum.isPresent = true ↔
      ∃ (key : OptionKey) (value : OptionValue), key.name = name ∧
        options.value? key = some value ∧ value.datum = datum := by
  constructor
  · rintro ⟨hmem, hpresent⟩
    obtain ⟨key, -, hmember⟩ := List.mem_map.1 hmem
    cases hvalue : options.value? key with
    | none =>
        rw [hvalue] at hmember
        cases hmember
        cases hpresent
    | some value =>
        rw [hvalue] at hmember
        cases hmember
        exact ⟨key, value, rfl, hvalue, rfl⟩
  · rintro ⟨key, value, rfl, hvalue, rfl⟩
    refine ⟨List.mem_map.2 ⟨key, key.mem_all, ?_⟩, by cases value <;> rfl⟩
    rw [hvalue]
    rfl

theorem expressible_members (options : Options) {depth : Nat} :
    ∀ member ∈ options.members, member.2.Expressible depth := by
  intro member hmember
  obtain ⟨key, -, rfl⟩ := List.mem_map.1 hmember
  cases options.value? key with
  | none => exact .missing
  | some value => exact .plain value.plain_datum

section Entries

variable {options : Options} {key : OptionKey} {value : OptionValue} {place : Span}
  {entries : List (Key × Tree)} {entry : Key × Tree}
  (hholds : (Tree.table place entries).Holds (Datum.record options.members).settled)

include hholds

theorem exists_entry (hvalue : options.value? key = some value) :
    ∃ entry ∈ entries, entry.1.name = key.name ∧ key.spec.kind.Writes entry.2 value.redacted := by
  obtain ⟨hmem, hpresent⟩ := mem_members_iff.2 ⟨key, value, rfl, hvalue, rfl⟩
  obtain ⟨entry, hentry, hname, hentryHolds⟩ :=
    Tree.exists_entry options.distinct_members hholds hmem hpresent
  rw [value.plain_datum.settled_eq] at hentryHolds
  obtain ⟨tree, hwrites⟩ := exists_writes hvalue
  exact ⟨entry, hentry, hname, OptionValue.writes_redacted hwrites hentryHolds⟩

theorem exists_option (hentry : entry ∈ entries) :
    ∃ (key : OptionKey) (value : OptionValue), key.name = entry.1.name ∧
      options.value? key = some value ∧ key.spec.kind.Writes entry.2 value.redacted := by
  obtain ⟨datum, hmem, hpresent, hentryHolds⟩ :=
    Tree.exists_member options.distinct_members hholds hentry
  obtain ⟨key, value, hname, hvalue, rfl⟩ := mem_members_iff.1 ⟨hmem, hpresent⟩
  rw [value.plain_datum.settled_eq] at hentryHolds
  obtain ⟨tree, hwrites⟩ := exists_writes hvalue
  exact ⟨key, value, hname, hvalue, OptionValue.writes_redacted hwrites hentryHolds⟩

/-- Options that are read from what is written for others are these with their secrets masked. -/
theorem eq_redacted {read : Options} (hread : ∀ key value, read.value? key = some value ↔
      ∃ entry ∈ entries, entry.1.name = key.name ∧ key.spec.kind.Writes entry.2 value) :
    read = options.redacted := by
  refine ext_value? fun key => Option.ext fun value => ?_
  rw [value?_redacted, hread, Option.map_eq_some_iff]
  constructor
  · rintro ⟨entry, hentry, hname, hwrites⟩
    obtain ⟨other, written, hother, hvalue, hwritten⟩ := exists_option hholds hentry
    cases OptionKey.name_injective (hother.trans hname)
    exact ⟨written, hvalue, hwritten.unique hwrites⟩
  · rintro ⟨written, hvalue, rfl⟩
    exact exists_entry hholds hvalue

end Entries

end Options

namespace General

variable {general : General} {place : Span} {entries : List (Key × Tree)} {entry : Key × Tree}
  {name missing found value : String}

def members (general : General) : List (String × Datum) :=
  [("log_level", .text general.logLevel), ("log_format", .text general.logFormat)]

theorem distinct_members (general : General) : (general.members.map Prod.fst).Nodup := by
  show ["log_level", "log_format"].Nodup
  decide

theorem exists_text {datum : Datum} (h : (name, datum) ∈ general.members) :
    ∃ value, datum = .text value := by
  rcases List.mem_pair.1 h with h | h
  · exact ⟨_, (Prod.mk.inj h).2⟩
  · exact ⟨_, (Prod.mk.inj h).2⟩

variable (hholds : (Tree.table place entries).Holds (Datum.record general.members).settled)

include hholds

theorem exists_spelled (hentry : entry ∈ entries) :
    ∃ value, (entry.1.name, .text value) ∈ general.members ∧ entry.2.Spells value := by
  obtain ⟨datum, hmem, -, hentryHolds⟩ :=
    Tree.exists_member general.distinct_members hholds hentry
  obtain ⟨value, rfl⟩ := exists_text hmem
  exact ⟨value, hmem, OptionValue.spells_of_holds hentryHolds⟩

/-- A name that is written has the value that is written for it. -/
theorem eq_of_writtenOr (hmem : (name, .text value) ∈ general.members)
    (h : WrittenOr missing name entries found) : found = value := by
  cases h with
  | @written entry _ hentry hname hspells =>
      obtain ⟨other, hother, hspelled⟩ := exists_spelled hholds hentry
      have hsame := List.inj_on_of_nodup_map general.distinct_members hother hmem hname
      obtain rfl : other = value := Datum.text.inj (Prod.mk.inj hsame).2
      have hfound := Tree.text?_eq_some_iff.2 hspells
      exact Option.some.inj (hfound.symm.trans (Tree.text?_eq_some_iff.2 hspelled))
  | missing hnone =>
      obtain ⟨entry, hentry, hname, -⟩ :=
        Tree.exists_entry general.distinct_members hholds hmem rfl
      exact absurd hname (hnone entry hentry)

end General

namespace Settings

theorem distinct_members (settings : Settings) : (settings.members.map Prod.fst).Nodup := by
  show ["general", "elastic_integration"].Nodup
  decide

theorem expressible_members (settings : Settings) :
    (Datum.record settings.members).Expressible (Toml.maxDepth + 1) := by
  refine .record settings.distinct_members fun member hmember => ?_
  -- each of the two sections is a record itself, one level further down
  rcases List.mem_pair.1 hmember with rfl | rfl
  · refine @Datum.Expressible.record 79 _ settings.general.distinct_members fun member hmember => ?_
    rcases List.mem_pair.1 hmember with rfl | rfl
    · exact .plain .text
    · exact .plain .text
  · exact @Datum.Expressible.record 79 _ settings.options.distinct_members
      settings.options.expressible_members

section Document

variable {settings : Settings} {document : List (Key × Tree)} {span : Span} {name : String}
  {inner : List (String × Datum)}
  (hholds : (Tree.table span document).Holds (Datum.record settings.members).settled)

include hholds

theorem exists_table_of_holds {entry : Key × Tree} (hentry : entry ∈ document) :
    ∃ place entries, entry.2 = .table place entries := by
  obtain ⟨value, hvalue, -, hholds⟩ := Tree.exists_member settings.distinct_members hholds hentry
  obtain ⟨inner, rfl⟩ : ∃ inner, value = .record inner := by
    rcases List.mem_pair.1 hvalue with h | h
    · exact ⟨_, (Prod.mk.inj h).2⟩
    · exact ⟨_, (Prod.mk.inj h).2⟩
  rw [Datum.settled_record] at hholds
  cases hentry : entry.2 with
  | scalar | list => rw [hentry] at hholds; cases hholds
  | table place entries => exact ⟨place, entries, rfl⟩

theorem isReadable_of_holds : isReadable document = true := by
  refine List.all_eq_true.2 fun entry hentry => ?_
  obtain ⟨value, -, -, hvalue⟩ := Tree.exists_member settings.distinct_members hholds hentry
  obtain ⟨place, entries, htable⟩ := exists_table_of_holds hholds hentry
  rw [htable] at hvalue ⊢
  exact hvalue.readable

theorem holds_sectionOf (hascending : Ascending document)
    (hmem : (name, .record inner) ∈ settings.members) :
    ∃ place, (Tree.table place (sectionOf name document)).Holds (Datum.record inner).settled := by
  obtain ⟨entry, hentry, hname, hvalue⟩ :=
    Tree.exists_entry settings.distinct_members hholds hmem rfl
  obtain ⟨place, entries, htable⟩ := exists_table_of_holds hholds hentry
  rw [sectionOf_eq hascending hentry hname htable]
  exact ⟨place, htable ▸ hvalue⟩

end Document

/-- Settings that were read have texts for all of their paths, and are written. -/
theorem write_onSystem (settings : Settings) :
    settings.onSystem.write = .ok (Toml.write .oneLine settings.members) := by
  rw [write, onSystem, Options.texts?_eq_some_iff.2 rfl]
  exact Toml.tryWrite_eq .oneLine settings.expressible_members

/-- What is written for settings is read back as the settings with their secrets masked. -/
theorem parse_write_eq (settings : Settings) :
    parse (Toml.write .oneLine settings.members) =
      .ok { settings with options := settings.options.redacted } := by
  obtain ⟨document, hdocument, hholds⟩ :=
    Toml.document?_write .oneLine settings.expressible_members default
  have htidy := Toml.tidy_document? hdocument default
  have htables (name : String) : IsTableOrMissing name document := fun entry hentry _ =>
    exists_table_of_holds hholds hentry
  have hascending : Ascending document := by
    cases htidy with
    | table hascending => exact hascending
  obtain ⟨_, hoptions⟩ := holds_sectionOf hholds hascending (List.mem_pair.2 (.inr rfl))
  obtain ⟨_, hgeneral⟩ := holds_sectionOf hholds hascending (List.mem_pair.2 (.inl rfl))
  have hdocumented : Documented document := {
    options := fun entry hentry => by
      obtain ⟨key, value, hname, -, hwrites⟩ := Options.exists_option hoptions hentry
      exact ⟨key, _, hname, hwrites⟩
    general := fun entry hentry _ => by
      obtain ⟨value, -, hspells⟩ := General.exists_spelled hgeneral hentry
      exact ⟨value, hspells⟩ }
  obtain ⟨read, hread⟩ :=
    (exists_foldlM_iff_documented htidy (htables _) (htables _)).2 hdocumented
  have hrecords := records_of_foldlM htidy (htables _) (htables _) hread
  have hparse : parse (Toml.write .oneLine settings.members) = .ok read := by
    rcases parse_cases hdocument (isReadable_of_holds hholds) with
      ⟨other, hother, hparse⟩ | ⟨_, _, herror, -⟩
    · cases hother.symm.trans hread
      exact hparse
    · cases herror.symm.trans hread
  have hlevel := General.eq_of_writtenOr hgeneral (List.mem_pair.2 (.inl rfl)) hrecords.logLevel
  have hformat := General.eq_of_writtenOr hgeneral (List.mem_pair.2 (.inr rfl)) hrecords.logFormat
  have hsame : read.options = settings.options.redacted :=
    Options.eq_redacted hoptions hrecords.value_iff
  obtain ⟨⟨logLevel, logFormat⟩, options⟩ := read
  cases hlevel
  cases hformat
  cases hsame
  exact hparse

/--
Settings with a path that is no text are refused. All others are written, and what is written is
read back as settings with the same general settings and the same options given. Every secret that
is given has become the mask, and every other value is the same. What is written for the settings
that were read is read back as these settings.
-/
theorem parse_write (settings : Settings SystemPath) :
    ((∃ path ∈ settings.options.paths, ∀ text, path ≠ .ofText text) ∧
        settings.write = .error .pathNotText) ∨
      ∃ (given : Settings) (written : String) (read : Settings),
        given.onSystem = settings ∧ settings.write = .ok written ∧ parse written = .ok read ∧
        read.general = settings.general ∧ read.options.supplied = given.options.supplied ∧
        (∀ key : OptionKey, read.options.value? key =
          if key.spec.secret then
            (given.options.value? key).map fun _ => .secret ⟨"[REDACTED]"⟩
          else given.options.value? key) ∧
        ∃ again, read.onSystem.write = .ok again ∧ parse again = .ok read := by
  cases htexts : settings.options.texts? with
  | none =>
      refine .inl ⟨Options.texts?_eq_none_iff.1 htexts, ?_⟩
      rw [write, htexts]
  | some options =>
      obtain ⟨given, rfl⟩ : ∃ given : Settings, given.onSystem = settings :=
        ⟨⟨settings.general, options⟩, by rw [onSystem, Options.texts?_eq_some_iff.1 htexts]⟩
      refine .inr ⟨given, _, _, rfl, given.write_onSystem, given.parse_write_eq, rfl,
        given.options.supplied_redacted, fun key => ?_, _, write_onSystem _, ?_⟩
      · rw [Options.value?_redacted]
        cases hvalue : given.options.value? key with
        | none => split <;> rfl
        | some value =>
            obtain ⟨tree, hwrites⟩ := Options.exists_writes hvalue
            rw [Option.map_some, OptionValue.redacted_eq hwrites, OptionSpec.secret]
            split <;> rfl
      · rw [parse_write_eq, Options.redacted_redacted]

def latinPath : Settings SystemPath where
  options := { sslCertificate := some ⟨[0x63, 0x61, 0x66, 0xE9, 0x2E, 0x70, 0x65, 0x6D]⟩ }

theorem write_latinPath :
    latinPath.write = .error .pathNotText ∧
      ¬∃ written read, latinPath.write = .ok written ∧ parse written = .ok read := by
  have hrefused : latinPath.write = .error .pathNotText := rfl
  refine ⟨hrefused, ?_⟩
  rintro ⟨written, read, hwritten, -⟩
  rw [hrefused] at hwritten
  cases hwritten

end Settings

end ClusterLink
