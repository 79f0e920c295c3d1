import ClusterLink.Proofs.CommandLine.Verdicts
import ClusterLink.Proofs.Journal.Directives

/-!
# The list of options

The options are listed whatever the settings file holds, even if it cannot be loaded: neither the
file nor a variable that overrides it keeps the log from being opened. Only a log directive that is
askew does, and such a directive is in no level that settings may have.
-/

namespace ClusterLink.CommandLine

variable {environment : Environment} {path : String} {level : Option String}
  {content : Except FileFault String} {loaded : Except Failure Settings} {tlsOnly : Bool}

def listing (output : OutputFormat) (tlsOnly : Bool) : String :=
  render output (OptionsReport.of tlsOnly).text (OptionsReport.of tlsOnly).datum

/-- A log directive that counts is askew: one of the environment, or one of the command line. -/
def Log.IsAskew (environment : Environment) (level : Option String) : Prop :=
  ∃ directives, (environment.get? "RUST_LOG" = some directives ∨ level = some directives) ∧
    ∃ part ∈ Journal.parts directives, Journal.IsAskew part

namespace Log

theorem logLevel_mem_levels :
    (generalOf (Settings.load environment path content)).logLevel ∈ General.levels := by
  cases hloaded : Settings.load environment path content with
  | error failure => exact List.mem_of_elem_eq_true rfl
  | ok settings =>
      obtain ⟨_, _, _, _, _, hknown⟩ := Settings.load_eq_ok_iff.1 hloaded
      exact hknown.level

theorem readLenient_of_mem_levels {name : String} {fault : Journal.DirectiveFault}
    (h : name ∈ General.levels) : Journal.readLenient name ≠ .error fault := by
  have hall : ∀ name ∈ General.levels, (Journal.readLenient name).isOk := by decide +kernel
  intro hfault
  have hread := hall name h
  rw [hfault] at hread
  cases hread

theorem isAskew_of_readLenient {fault : Journal.DirectiveFault}
    (h : Journal.readLenient
      ((generalOf (Settings.load environment path content)).effectiveLevel level) = .error fault) :
    IsAskew environment level := by
  cases level with
  | none => exact absurd h (readLenient_of_mem_levels logLevel_mem_levels)
  | some directives => exact ⟨directives, .inr rfl, Journal.exists_askew_of_readLenient h⟩

theorem isAskew_of_cuts
    (h : CutsCharacter environment level (Settings.load environment path content)) :
    IsAskew environment level := by
  obtain ⟨fault, h⟩ := h
  unfold directivesFor at h
  split at h
  next => exact isAskew_of_readLenient h
  next => exact isAskew_of_readLenient h
  next hstrict =>
    obtain ⟨directives, hvariable, hcuts⟩ := Option.map_eq_some_iff.1 hstrict
    exact ⟨directives, .inl hvariable, Journal.exists_askew_of_readStrict hcuts⟩
  next => cases h

end Log

/-- The log is opened, or else a directive is cut; its format is never unknown. -/
theorem opened_ne_configuration (message : String) :
    Log.opened environment (generalOf (Settings.load environment path content)) level ≠
      .error (.configuration message) := by
  intro h
  by_cases hcuts : Log.CutsCharacter environment level (Settings.load environment path content)
  · obtain ⟨fault, hcuts⟩ := hcuts
    rw [Log.opened, hcuts] at h
    cases h
  · obtain ⟨log, hopened⟩ := Log.opened_of_not_cuts hcuts
    cases hopened.symm.trans h

theorem outcomeOf_options (validator : Validator) (random : Uuid) (output : OutputFormat)
    (tlsOnly : Bool)
    (h : ¬ Log.CutsCharacter environment level (Settings.load environment path content)) :
    (outcomeOf environment validator random ⟨path, level, output, .options tlsOnly⟩
        content).exitCode = 0 ∧
      (outcomeOf environment validator random ⟨path, level, output, .options tlsOnly⟩
        content).output = listing output tlsOnly := by
  obtain ⟨houtput, hfault⟩ : _ ∧ _ :=
    @outcomeOf_of_not_cuts _ _ validator random ⟨path, level, output, .options tlsOnly⟩ h
  rw [CommandOutcome.exitCode, hfault, houtput]
  exact ⟨rfl, rfl⟩

/--
Settings are loaded exactly if a text can be read and puts known values in force; these are then the
general settings, and the options are those of the text. What is put in force by a text that can be
read is all that its settings are refused for, the level first. So the format of the log is always
known, and the same options are listed whatever the file and the environment say; only a directive
that is askew may break the program off.
-/
theorem options_listed (environment : Environment) (path : String)
    (content : Except FileFault String) :
    (∀ settings, Settings.load environment path content = .ok settings ↔
      ∃ text parsed document, content = .ok text ∧ Settings.parse text = .ok parsed ∧
        Toml.document? text.toList = some document ∧
        (General.inForce environment document).IsKnown ∧
        settings = ⟨General.inForce environment document, parsed.options⟩) ∧
    (∀ text parsed document failure, content = .ok text → Settings.parse text = .ok parsed →
      Toml.document? text.toList = some document →
      Settings.load environment path content = .error failure →
        (General.inForce environment document).logLevel ∉ General.levels ∧
            failure = .config (.invalidValue "general.log_level" (General.oneOf General.levels)) ∨
          (General.inForce environment document).logLevel ∈ General.levels ∧
            (General.inForce environment document).logFormat ∉ General.formats ∧
            failure =
              .config (.invalidValue "general.log_format" (General.oneOf General.formats))) ∧
    (∀ level message,
      Log.opened environment (generalOf (Settings.load environment path content)) level ≠
        .error (.configuration message)) ∧
    ∀ validator random level output tlsOnly,
      (outcomeOf environment validator random ⟨path, level, output, .options tlsOnly⟩
            content).exitCode = 0 ∧
          (outcomeOf environment validator random ⟨path, level, output, .options tlsOnly⟩
            content).output = listing output tlsOnly ∨
        Log.IsAskew environment level ∧
          outcomeOf environment validator random ⟨path, level, output, .options tlsOnly⟩ content =
            { fault := some .brokenOff } := by
  refine ⟨fun settings => ?_, ?_, fun level => opened_ne_configuration, ?_⟩
  · rw [Settings.load_eq_ok_iff]
    constructor
    · rintro ⟨text, parsed, rfl, hparse, rfl, hknown⟩
      obtain ⟨document, hdocument, -⟩ := Settings.foldlM_of_parse hparse
      have hforce := Settings.general_override hdocument hparse environment
      exact ⟨text, parsed, document, rfl, hparse, hdocument, hforce ▸ hknown, hforce ▸ rfl⟩
    · rintro ⟨text, parsed, document, rfl, hparse, hdocument, hknown, rfl⟩
      have hforce := Settings.general_override hdocument hparse environment
      exact ⟨text, parsed, rfl, hparse, hforce ▸ rfl, hknown⟩
  · rintro text parsed document failure rfl hparse hdocument hload
    obtain ⟨fault, hcheck, rfl⟩ := Settings.load_eq_error_of_parse hparse hload
    rw [Settings.general_override hdocument hparse] at hcheck
    rcases (General.inForce environment document).check_cases with ⟨-, hfault⟩ |
      ⟨hlevel, hfault⟩ | ⟨hlevel, hformat, hfault⟩
    · cases hcheck.symm.trans hfault
    · cases hcheck.symm.trans hfault
      exact .inl ⟨hlevel, rfl⟩
    · cases hcheck.symm.trans hfault
      exact .inr ⟨hlevel, hformat, rfl⟩
  · intro validator random level output tlsOnly
    by_cases hcuts : Log.CutsCharacter environment level (Settings.load environment path content)
    · exact .inr ⟨Log.isAskew_of_cuts hcuts, outcomeOf_of_cuts hcuts⟩
    · exact .inl (outcomeOf_options validator random output tlsOnly hcuts)

def loudText : String := "general.log_level = 'loud'"

def maskingEnvironment : Environment := [("ELASTIC_INTEGRATION_GENERAL_LOG_LEVEL", "debug")]

/-- The environment may mask the level of a text; without it the level is refused. -/
theorem options_listed_loudText :
    Settings.load maskingEnvironment "filter.toml" (.ok loudText) =
        .ok { general := { logLevel := "debug" } } ∧
      Settings.load [] "filter.toml" (.ok loudText) =
        .error (.config (.invalidValue "general.log_level" (General.oneOf General.levels))) := by
  have hparse : Settings.parse loudText = .ok { general := { logLevel := "loud" } } := by decide +kernel
  obtain ⟨document, hdocument, -⟩ := Settings.foldlM_of_parse hparse
  have hmasked : General.inForce maskingEnvironment document = { logLevel := "debug" } :=
    (Settings.general_override hdocument hparse maskingEnvironment).symm
  have hunmasked : General.inForce [] document = { logLevel := "loud" } :=
    (Settings.general_override hdocument hparse []).symm
  constructor
  · refine ((options_listed maskingEnvironment "filter.toml" (.ok loudText)).1 _).2
      ⟨loudText, _, document, rfl, hparse, hdocument, ?_, ?_⟩
    · rw [hmasked]
      exact ⟨by decide, by decide⟩
    · rw [hmasked]
  · cases hload : Settings.load [] "filter.toml" (.ok loudText) with
    | ok settings =>
        obtain ⟨text, parsed, other, ⟨⟩, -, hother, hknown, -⟩ :=
          ((options_listed [] "filter.toml" (.ok loudText)).1 settings).1 hload
        cases hdocument.symm.trans hother
        exact absurd (hunmasked ▸ hknown.level) (by decide)
    | error failure =>
        rcases (options_listed [] "filter.toml" (.ok loudText)).2.1 loudText _ document failure rfl
          hparse hdocument hload with ⟨-, rfl⟩ | ⟨hlevel, -⟩
        · rfl
        · exact absurd (hunmasked ▸ hlevel) (by decide)

def cuttingArguments : Arguments := ⟨"filter.toml", some " é=info", .text, .options false⟩

/-- The options would have to be listed; instead the program is broken off. -/
theorem silent_cuttingArguments :
    (outcomeOf [] ⟨.sealing, .unavailable⟩ ⟨[]⟩ cuttingArguments (.error .notFound)).output = "" ∧
      (outcomeOf [] ⟨.sealing, .unavailable⟩ ⟨[]⟩ cuttingArguments
        (.error .notFound)).exitCode = 101 := by
  have hcuts : Log.CutsCharacter [] cuttingArguments.logLevel
      (Settings.load [] cuttingArguments.config (.error .notFound)) :=
    ⟨.cutCharacter, rfl⟩
  rw [outcomeOf_of_cuts hcuts]
  exact ⟨rfl, rfl⟩

end ClusterLink.CommandLine
