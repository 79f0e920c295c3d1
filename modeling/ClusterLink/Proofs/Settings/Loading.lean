import ClusterLink.Proofs.Settings.Reading

/-!
# Loading settings

The general settings in force are those of the environment, or else of the document, or else the
defaults. Settings are loaded exactly from the texts that can be read and put a known level and a
known format in force; their options are those of the text, whatever the environment is.
-/

namespace ClusterLink

variable {environment : Environment} {path text name value : String} {place : Nat}
  {content : Except FileFault String} {document : List (Key × Tree)} {parsed settings : Settings}
  {general : General}

/-! ## What a document says -/

def Tree.said? (name : String) (place : Nat) : Tree → Option String
  | .table _ entries => (entries.find? fun entry => entry.1.name == name).bind (·.2.text?)
  | .list _ items => items[place]?.bind text?
  | .scalar _ _ => none

def General.said? (name : String) (place : Nat) (document : List (Key × Tree)) : Option String :=
  (document.find? fun entry => entry.1.name == "general").bind (·.2.said? name place)

theorem WrittenOr.said?_getD {missing : String} {span : Span} {entries : List (Key × Tree)}
    (hascending : Ascending entries) (h : WrittenOr missing name entries value) :
    ((Tree.table span entries).said? name place).getD missing = value := by
  rw [Tree.said?]
  cases h with
  | written hmem hname hspells =>
      rw [hascending.find?_eq_some hmem hname, Option.bind_some,
        Tree.text?_eq_some_iff.2 hspells, Option.getD_some]
  | missing hunnamed =>
      rw [find?_eq_none_of_name_ne hunnamed, Option.bind_none, Option.getD_none]

theorem General.eq_of_read {tree : Tree} (htidy : tree.Tidy) (h : General.read tree = .ok general) :
    general =
      ⟨(tree.said? "log_level" 0).getD "info", (tree.said? "log_format" 1).getD "json"⟩ := by
  cases htidy with
  | scalar _ => cases h
  | table hascending _ =>
      rw [(logLevel_of_read hascending h).said?_getD hascending,
        (logFormat_of_read hascending h).said?_getD hascending]
  -- a list has its strings in the order of the fields, and may end early
  | @list _ items _ =>
      cases items with
      | nil =>
          cases h
          rfl
      | cons level rest =>
          cases rest with
          | nil =>
              obtain ⟨logLevel, hlevel, rfl⟩ := map_eq_ok_iff.1 h
              rw [readText_eq_ok_iff, ← Tree.text?_eq_some_iff] at hlevel
              simp [Tree.said?, hlevel]
          | cons format _ =>
              rw [General.read] at h
              obtain ⟨logLevel, hlevel, h⟩ := bind_eq_ok h
              obtain ⟨logFormat, hformat, h⟩ := bind_eq_ok h
              cases h
              rw [readText_eq_ok_iff, ← Tree.text?_eq_some_iff] at hlevel hformat
              simp [Tree.said?, hlevel, hformat]

namespace General

/--
The general settings in force: a variable counts more than the document, and that more than a
default.
-/
def inForce (environment : Environment) (document : List (Key × Tree)) : General where
  logLevel :=
    ((environment.get? "ELASTIC_INTEGRATION_GENERAL_LOG_LEVEL").or
      (said? "log_level" 0 document)).getD "info"
  logFormat :=
    ((environment.get? "ELASTIC_INTEGRATION_GENERAL_LOG_FORMAT").or
      (said? "log_format" 1 document)).getD "json"

structure IsKnown (general : General) : Prop where
  level : general.logLevel ∈ levels
  format : general.logFormat ∈ formats

/-- An unknown level is what is reported, whatever the format is. -/
theorem check_cases (general : General) :
    general.IsKnown ∧ general.check = .ok () ∨
      general.logLevel ∉ levels ∧
        general.check = .error (.invalidValue "general.log_level" (oneOf levels)) ∨
      general.logLevel ∈ levels ∧ general.logFormat ∉ formats ∧
        general.check = .error (.invalidValue "general.log_format" (oneOf formats)) := by
  by_cases hlevel : general.logLevel ∈ levels
  · by_cases hformat : general.logFormat ∈ formats
    · exact .inl ⟨⟨hlevel, hformat⟩, by simp [check, hlevel, hformat]⟩
    · exact .inr (.inr ⟨hlevel, hformat, by simp [check, hlevel, hformat]⟩)
  · exact .inr (.inl ⟨hlevel, by simp [check, hlevel]⟩)

theorem check_eq_ok_iff : general.check = .ok () ↔ general.IsKnown := by
  rcases general.check_cases with ⟨hknown, hcheck⟩ | ⟨hlevel, hcheck⟩ | ⟨-, hformat, hcheck⟩
  · exact iff_of_true hcheck hknown
  · exact iff_of_false (by simp [hcheck]) fun h => hlevel h.level
  · exact iff_of_false (by simp [hcheck]) fun h => hformat h.format

end General

namespace Settings

theorem foldlM_of_parse (h : parse text = .ok parsed) :
    ∃ document, Toml.document? text.toList = some document ∧
      document.foldlM readEntry {} = .ok parsed := by
  unfold parse at h
  split at h
  · cases h
  · rename_i document hdocument
    refine ⟨document, hdocument, ?_⟩
    split at h
    · cases h
    · split at h
      · rename_i hread
        cases h
        exact hread
      · split at h <;> cases h

theorem general_of_parse (hdocument : Toml.document? text.toList = some document)
    (h : parse text = .ok parsed) :
    parsed.general = ⟨(General.said? "log_level" 0 document).getD "info",
      (General.said? "log_format" 1 document).getD "json"⟩ := by
  obtain ⟨found, hfound, hread⟩ := foldlM_of_parse h
  cases hdocument.symm.trans hfound
  cases Toml.tidy_document? hdocument default with
  | table hascending htidy =>
      rcases general_part hascending hread with ⟨entry, hmem, hname, hgeneral⟩ | ⟨hnone, hgeneral⟩
      · rw [General.said?, General.said?, hascending.find?_eq_some hmem hname]
        exact General.eq_of_read (htidy entry hmem) hgeneral
      · rw [General.said?, General.said?, find?_eq_none_of_name_ne hnone, hgeneral]
        rfl

theorem general_override (hdocument : Toml.document? text.toList = some document)
    (h : parse text = .ok parsed) (environment : Environment) :
    (parsed.override environment).general = General.inForce environment document := by
  simp only [override, General.override, general_of_parse hdocument h, General.inForce,
    Option.getD_or]

/-! ## Loading -/

theorem ofText_of_parse (h : parse text = .ok parsed) :
    ofText environment text =
      (fun _ => parsed.override environment) <$> (parsed.override environment).general.check := by
  rw [ofText, h, map_eq_pure_bind]
  rfl

theorem ofText_eq_ok_iff :
    ofText environment text = .ok settings ↔
      ∃ parsed, parse text = .ok parsed ∧ parsed.override environment = settings ∧
        settings.general.IsKnown := by
  constructor
  · intro h
    obtain ⟨parsed, hparse, -⟩ := bind_eq_ok h
    rw [ofText_of_parse hparse, map_eq_ok_iff] at h
    obtain ⟨_, hcheck, rfl⟩ := h
    exact ⟨parsed, hparse, rfl, General.check_eq_ok_iff.1 hcheck⟩
  · rintro ⟨parsed, hparse, rfl, hknown⟩
    rw [ofText_of_parse hparse, map_eq_ok_iff]
    exact ⟨(), General.check_eq_ok_iff.2 hknown, rfl⟩

theorem load_ok_eq (text : String) :
    load environment path (.ok text) = (ofText environment text).mapError .config := by
  rw [load]
  cases ofText environment text <;> rfl

theorem load_eq_ok_iff :
    load environment path content = .ok settings ↔
      ∃ text parsed, content = .ok text ∧ parse text = .ok parsed ∧
        parsed.override environment = settings ∧ settings.general.IsKnown := by
  cases content with
  | error fault => cases fault <;> simp [load]
  | ok text =>
      have hmapped : load environment path (.ok text) = .ok settings ↔
          ofText environment text = .ok settings := by
        rw [load_ok_eq]
        cases ofText environment text <;> simp [Except.mapError]
      rw [hmapped, ofText_eq_ok_iff]
      simp

/-- Settings that can be read are refused for what they put in force, and for nothing else. -/
theorem load_eq_error_of_parse {failure : Failure} (hparse : parse text = .ok parsed)
    (h : load environment path (.ok text) = .error failure) :
    ∃ fault, (parsed.override environment).general.check = .error fault ∧
      failure = .config fault := by
  rw [load_ok_eq, ofText_of_parse hparse] at h
  cases hcheck : (parsed.override environment).general.check with
  | ok _ => rw [hcheck] at h; cases h
  | error fault =>
      rw [hcheck] at h
      cases h
      exact ⟨fault, rfl, rfl⟩

end Settings

end ClusterLink
