import ClusterLink.CommandLine.Run
import ClusterLink.Proofs.Settings.Loading
import ClusterLink.Proofs.Validation.Acceptance

/-!
# Two verdicts on a settings file

One command reports whether the settings of a file can be used, another one shows the connection that
they make. Once the log is open the two agree, whatever the file holds and whatever name is made for
the filter. While a log directive is cut inside of a character, neither says anything.
-/

namespace ClusterLink

variable {environment : Environment} {source : String} {content : Except FileFault String}
  {settings : Settings} {failure : Failure}

namespace Settings

/-- Loading fails with the fault of the file, or else because of what is wrong with the settings. -/
theorem exitCode_of_load_eq_error (h : load environment source content = .error failure) :
    (failure.exitCode = 10 ∧ ∃ fault, content = .error fault ∧ fault ≠ .notFound) ∨
      (failure.exitCode = 2 ∧ ∀ fault, content = .error fault → fault = .notFound) := by
  unfold load at h
  split at h
  · cases h
    exact .inr ⟨rfl, fun fault heq => by cases heq; rfl⟩
  · rename_i fault hfault
    cases h
    exact .inl ⟨rfl, fault, rfl, hfault⟩
  · split at h
    · cases h
    · cases h
      exact .inr ⟨rfl, fun fault heq => by cases heq⟩

end Settings

namespace CommandLine

variable {validator : Validator} {random otherRandom : Uuid} {level : Option String}
  {output otherOutput : OutputFormat} {part : Part}

def CommandOutcome.exitCode (outcome : CommandOutcome) : Nat :=
  outcome.fault.elim 0 CommandFault.exitCode

def outcomeOf (environment : Environment) (validator : Validator) (random : Uuid)
    (arguments : Arguments) (content : Except FileFault String) : CommandOutcome :=
  (run environment validator random arguments
    (Settings.load environment arguments.config content)).2

/-- A log directive that counts would be cut inside of a character. -/
def Log.CutsCharacter (environment : Environment) (level : Option String)
    (loaded : Except Failure Settings) : Prop :=
  ∃ fault, directivesFor environment ((generalOf loaded).effectiveLevel level) = .error fault

/--
What is reported of the settings, how the report ends, and how showing the connection ends, when the
settings have been read and `outcome` is that of their validation.
-/
structure SameVerdict (source : String) (part : Part) (output : OutputFormat)
    (content : Except FileFault String) (loaded : Except Failure Settings)
    (outcome : Settings → Except Violation Validated) (report : ValidationReport)
    (reporting displaying : CommandOutcome) : Prop where
  exitCode_reporting : reporting.exitCode = if report.isValid then 0 else 2
  exitCode_iff : reporting.exitCode = 0 ↔ displaying.exitCode = 0
  unloaded : ∀ failure, loaded = .error failure →
    report.problem = some ⟨"load", failure.message⟩ ∧
      displaying.fault.map CommandFault.message = some failure.message ∧
      (displaying.exitCode = 10 ∧ (∃ fault, content = .error fault ∧ fault ≠ .notFound) ∨
        displaying.exitCode = 2 ∧ ∀ fault, content = .error fault → fault = .notFound)
  rejected : ∀ settings violation, loaded = .ok settings → outcome settings = .error violation →
    report.problem = some ⟨violation.kind.code, violation.message⟩ ∧
      displaying.fault.map CommandFault.message = some ("config error: " ++ violation.message) ∧
      displaying.exitCode = 2
  accepted : ∀ settings validated, loaded = .ok settings → outcome settings = .ok validated →
    report.problem = none ∧
      report.tlsEnabled = some validated.connection.tls.isEnabled ∧
      report.hosts = (validated.connection.target.hosts?.getD []).map Endpoint.text ∧
      displaying.exitCode = 0 ∧
      displaying.output =
        render output (ConnectionReport.text ⟨source, part, validated.connection⟩)
          (ConnectionReport.datum ⟨source, part, validated.connection⟩)

namespace Log

/-- A log whose directives can be read is opened, for settings that can be used name its format. -/
theorem opened_of_not_cuts
    (h : ¬ CutsCharacter environment level (Settings.load environment source content)) :
    ∃ log, opened environment (generalOf (Settings.load environment source content)) level =
      .ok log := by
  have hformat : ∃ format,
      formatOf? (generalOf (Settings.load environment source content)).logFormat = some format := by
    cases hloaded : Settings.load environment source content with
    | error failure => exact ⟨.json, rfl⟩
    | ok settings =>
        obtain ⟨_, _, _, _, _, hloadable⟩ := Settings.load_eq_ok_iff.1 hloaded
        have hknown := hloadable.format
        simp only [General.formats, List.mem_cons, List.not_mem_nil, or_false] at hknown
        rcases hknown with hknown | hknown
        · exact ⟨.json, by rw [generalOf, hknown]; rfl⟩
        · exact ⟨.pretty, by rw [generalOf, hknown]; rfl⟩
  obtain ⟨format, hformat⟩ := hformat
  unfold opened
  split
  · rename_i fault hcuts
    exact absurd ⟨fault, hcuts⟩ h
  · rename_i directives hread
    exact ⟨⟨format, directives⟩, by rw [hformat]⟩

end Log

theorem outcomeOf_of_cuts {arguments : Arguments}
    (h : Log.CutsCharacter environment arguments.logLevel
      (Settings.load environment arguments.config content)) :
    outcomeOf environment validator random arguments content = { fault := some .brokenOff } := by
  obtain ⟨fault, hcuts⟩ := h
  rw [outcomeOf, run, Log.opened, hcuts]

/-- With the log open, the program does what its command does; only the records are sifted. -/
theorem outcomeOf_of_not_cuts (validator : Validator) (random : Uuid) {arguments : Arguments}
    (h : ¬ Log.CutsCharacter environment arguments.logLevel
      (Settings.load environment arguments.config content)) :
    (outcomeOf environment validator random arguments content).output =
        (runCommand ⟨validator, random, arguments.output, arguments.config⟩ arguments.command
          (Settings.load environment arguments.config content)).output ∧
      (outcomeOf environment validator random arguments content).fault =
        (runCommand ⟨validator, random, arguments.output, arguments.config⟩ arguments.command
          (Settings.load environment arguments.config content)).fault := by
  obtain ⟨log, hopened⟩ := Log.opened_of_not_cuts h
  rw [outcomeOf, run, hopened]
  exact ⟨rfl, rfl⟩

def Context.outcome (context : Context) (settings : Settings) : Except Violation Validated :=
  (context.validator.validate context.random settings.options).outcome

def Context.report (context : Context) : Except Failure Settings → ValidationReport
  | .error failure => .ofLoadFailure context.source failure
  | .ok settings => .ofOutcome context.source (context.outcome settings)

section Commands

variable (context : Context) (loaded : Except Failure Settings)

theorem output_runValidate :
    (runValidate context loaded).output =
      render context.output (context.report loaded).text (context.report loaded).datum := by
  cases loaded <;> rfl

theorem exitCode_runValidate :
    (runValidate context loaded).exitCode = if (context.report loaded).isValid then 0 else 2 := by
  have hfault : (runValidate context loaded).fault =
      if (context.report loaded).isValid then none
      else some (.configuration "configuration is invalid") := by
    cases loaded <;> rfl
  rw [CommandOutcome.exitCode, hfault]
  split <;> rfl

variable {context}

theorem fault_runDisplay_of_error (part : Part) {violation : Violation}
    (h : context.outcome settings = .error violation) :
    (runDisplay context part (.ok settings)).fault =
      some (.failed (.config (.rejected violation))) := by
  rw [Context.outcome] at h
  rw [runDisplay]
  dsimp only
  rw [h]

theorem runDisplay_of_ok (part : Part) {validated : Validated}
    (h : context.outcome settings = .ok validated) :
    (runDisplay context part (.ok settings)).fault = none ∧
      (runDisplay context part (.ok settings)).output = render context.output
        (ConnectionReport.text ⟨context.source, part, validated.connection⟩)
        (ConnectionReport.datum ⟨context.source, part, validated.connection⟩) := by
  rw [Context.outcome] at h
  rw [runDisplay]
  dsimp only
  rw [h]
  exact ⟨rfl, rfl⟩

end Commands

theorem Context.source_report (context : Context) (loaded : Except Failure Settings) :
    (context.report loaded).source = context.source := by
  cases loaded with
  | error failure => rfl
  | ok settings =>
      rw [report]
      cases context.outcome settings <;> rfl

section Verdicts

variable (reporting displaying : Context)
  (hvalidator : reporting.validator = displaying.validator)

include hvalidator in
/-- Two runs may make different names, but they judge settings alike. -/
theorem Context.outcome_alike (settings : Settings) :
    Validated.unnamed <$> reporting.outcome settings =
      Validated.unnamed <$> displaying.outcome settings := by
  rw [outcome, outcome, hvalidator]
  exact displaying.validator.unnamed_validate settings.options reporting.random displaying.random

theorem sameVerdict_of_unloaded (part : Part) (output : OutputFormat)
    (h : Settings.load environment source content = .error failure) :
    SameVerdict source part output content (.error failure) displaying.outcome
      (reporting.report (.error failure)) (runValidate reporting (.error failure))
      (runDisplay displaying part (.error failure)) := by
  have hexit := Settings.exitCode_of_load_eq_error h
  have hfails : failure.exitCode ≠ 0 := by
    rcases hexit with ⟨hcode, -⟩ | ⟨hcode, -⟩ <;> simp [hcode]
  refine ⟨exitCode_runValidate reporting _, ?_, ?_, by simp, by simp⟩
  · rw [exitCode_runValidate]
    exact iff_of_false (Nat.succ_ne_zero 1) hfails
  · rintro _ ⟨⟩
    exact ⟨rfl, rfl, hexit⟩

include hvalidator in
theorem sameVerdict_of_rejected (source : String) (part : Part) (output : OutputFormat)
    (content : Except FileFault String) {violation : Violation}
    (h : displaying.outcome settings = .error violation) :
    SameVerdict source part output content (.ok settings) displaying.outcome
      (reporting.report (.ok settings)) (runValidate reporting (.ok settings))
      (runDisplay displaying part (.ok settings)) := by
  have halike := Context.outcome_alike reporting displaying hvalidator settings
  rw [h] at halike
  have hsame : reporting.outcome settings = .error violation := map_eq_error_iff.1 halike
  have hreport : reporting.report (.ok settings) =
      { source := reporting.source, problem := some ⟨violation.kind.code, violation.message⟩ } := by
    rw [Context.report, hsame]
    rfl
  have hexit := exitCode_runValidate reporting (.ok settings)
  have hfault := fault_runDisplay_of_error part h
  refine ⟨hexit, ?_, by simp, ?_, ?_⟩
  · rw [hexit, hreport, CommandOutcome.exitCode, hfault]
    exact iff_of_false (by simp [ValidationReport.isValid]) (by simp [CommandFault.exitCode,
      Failure.exitCode])
  · rintro _ found ⟨⟩ hfound
    cases h.symm.trans hfound
    rw [hreport, CommandOutcome.exitCode, hfault]
    exact ⟨rfl, rfl, rfl⟩
  · rintro _ found ⟨⟩ hfound
    cases h.symm.trans hfound

include hvalidator in
theorem sameVerdict_of_accepted (part : Part) (content : Except FileFault String)
    {validated : Validated} (h : displaying.outcome settings = .ok validated) :
    SameVerdict displaying.source part displaying.output content (.ok settings) displaying.outcome
      (reporting.report (.ok settings)) (runValidate reporting (.ok settings))
      (runDisplay displaying part (.ok settings)) := by
  have halike := Context.outcome_alike reporting displaying hvalidator settings
  rw [h] at halike
  obtain ⟨reported, hsame, hunnamed⟩ := map_eq_ok_iff.1 halike
  have hreport : reporting.report (.ok settings) =
      .ofOutcome reporting.source (.ok reported) := by
    rw [Context.report, hsame]
  have htls : reported.connection.tls = validated.connection.tls :=
    congrArg (fun v => v.connection.tls) hunnamed
  have htarget : reported.connection.target = validated.connection.target :=
    congrArg (fun v => v.connection.target) hunnamed
  have hexit := exitCode_runValidate reporting (.ok settings)
  obtain ⟨hfault, houtput⟩ := runDisplay_of_ok part h
  refine ⟨hexit, ?_, by simp, ?_, ?_⟩
  · rw [hexit, hreport, CommandOutcome.exitCode, hfault]
    exact iff_of_true rfl rfl
  · rintro _ found ⟨⟩ hfound
    cases h.symm.trans hfound
  · rintro _ found ⟨⟩ hfound
    cases h.symm.trans hfound
    rw [hreport, ← htls, ← htarget, CommandOutcome.exitCode, hfault]
    exact ⟨rfl, rfl, rfl, rfl, houtput⟩

end Verdicts

theorem SameVerdict.congr {loaded : Except Failure Settings}
    {outcome : Settings → Except Violation Validated} {report : ValidationReport}
    {reporting displaying reported displayed : CommandOutcome}
    (h : SameVerdict source part output content loaded outcome report reporting displaying)
    (hreporting : reported.fault = reporting.fault)
    (hdisplaying : displayed.fault = displaying.fault)
    (houtput : displayed.output = displaying.output) :
    SameVerdict source part output content loaded outcome report reported displayed := by
  have hreported : reported.exitCode = reporting.exitCode := by
    rw [CommandOutcome.exitCode, CommandOutcome.exitCode, hreporting]
  have hdisplayed : displayed.exitCode = displaying.exitCode := by
    rw [CommandOutcome.exitCode, CommandOutcome.exitCode, hdisplaying]
  constructor
  · rw [hreported, h.exitCode_reporting]
  · rw [hreported, hdisplayed, h.exitCode_iff]
  · rw [hdisplaying, hdisplayed]
    exact h.unloaded
  · rw [hdisplaying, hdisplayed]
    exact h.rejected
  · rw [hdisplayed, houtput]
    exact h.accepted

/--
Whatever the file holds, the report on its settings and the display of their connection agree, and
the report is printed in any case. Only a log directive that is cut inside of a character keeps both
from saying anything.
-/
theorem verdicts_agree (environment : Environment) (validator : Validator)
    (random otherRandom : Uuid) (source : String) (level : Option String)
    (output otherOutput : OutputFormat) (part : Part) (content : Except FileFault String) :
    (Log.CutsCharacter environment level (Settings.load environment source content) →
      outcomeOf environment validator random ⟨source, level, output, .validate⟩ content =
          { fault := some .brokenOff } ∧
        outcomeOf environment validator otherRandom ⟨source, level, otherOutput, .display part⟩
          content = { fault := some .brokenOff }) ∧
    (¬ Log.CutsCharacter environment level (Settings.load environment source content) →
      ∃ report : ValidationReport, report.source = source ∧
        (outcomeOf environment validator random ⟨source, level, output, .validate⟩
          content).output = render output report.text report.datum ∧
        SameVerdict source part otherOutput content (Settings.load environment source content)
          (Context.outcome ⟨validator, otherRandom, otherOutput, source⟩) report
          (outcomeOf environment validator random ⟨source, level, output, .validate⟩ content)
          (outcomeOf environment validator otherRandom ⟨source, level, otherOutput, .display part⟩
            content)) := by
  refine ⟨fun hcuts => ⟨outcomeOf_of_cuts hcuts, outcomeOf_of_cuts hcuts⟩, fun hopens => ?_⟩
  let reporting : Context := ⟨validator, random, output, source⟩
  let displaying : Context := ⟨validator, otherRandom, otherOutput, source⟩
  obtain ⟨hprinted, hreporting⟩ : _ ∧ _ :=
    @outcomeOf_of_not_cuts _ _ validator random ⟨source, level, output, .validate⟩ hopens
  obtain ⟨houtput, hdisplaying⟩ : _ ∧ _ :=
    @outcomeOf_of_not_cuts _ _ validator otherRandom ⟨source, level, otherOutput, .display part⟩
      hopens
  have hagree : SameVerdict source part otherOutput content
      (Settings.load environment source content) displaying.outcome
      (reporting.report (Settings.load environment source content))
      (runValidate reporting (Settings.load environment source content))
      (runDisplay displaying part (Settings.load environment source content)) := by
    cases hloaded : Settings.load environment source content with
    | error failure => exact sameVerdict_of_unloaded reporting displaying part otherOutput hloaded
    | ok settings =>
        cases houtcome : displaying.outcome settings with
        | error violation =>
            exact sameVerdict_of_rejected reporting displaying rfl source part otherOutput content
              houtcome
        | ok validated =>
            exact sameVerdict_of_accepted reporting displaying rfl part content houtcome
  exact ⟨reporting.report (Settings.load environment source content), reporting.source_report _,
    hprinted.trans (output_runValidate reporting _), hagree.congr hreporting hdisplaying houtput⟩

def cuttingEnvironment : Environment := [("RUST_LOG", " aé=debug")]

/-- A file that is missing would have to be reported; instead the program is broken off. -/
theorem silent_cuttingEnvironment :
    (outcomeOf cuttingEnvironment ⟨.sealing, .unavailable⟩ ⟨[]⟩
        ⟨"filter.toml", none, .text, .validate⟩ (.error .notFound)).output = "" ∧
      (outcomeOf cuttingEnvironment ⟨.sealing, .unavailable⟩ ⟨[]⟩
        ⟨"filter.toml", none, .text, .validate⟩ (.error .notFound)).exitCode = 101 := by
  have hcuts : Log.CutsCharacter cuttingEnvironment none
      (Settings.load cuttingEnvironment "filter.toml" (.error .notFound)) :=
    ⟨.cutCharacter, rfl⟩
  rw [outcomeOf_of_cuts hcuts]
  exact ⟨rfl, rfl⟩

end CommandLine

end ClusterLink
