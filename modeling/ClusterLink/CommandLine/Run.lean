import ClusterLink.CommandLine.Report
import ClusterLink.Journal.Directives

/-!
# Running a command

What the program does with its arguments once the settings file has been read: what it prints, what
it logs, and how it ends.
-/

namespace ClusterLink.CommandLine

/--
Why a command fails. A log directive that would have to be cut inside of a character breaks the
program off, and nothing more is said.
-/
inductive CommandFault where
  | configuration (message : String)
  | jsonOutput (message : String)
  | output (fault : FileFault)
  | failed (failure : Failure)
  | brokenOff
deriving DecidableEq, Repr

namespace CommandFault

def message : CommandFault → String
  | configuration message => "configuration error: " ++ message
  | jsonOutput message => "json output error: " ++ message
  | output fault => "io error: " ++ fault.message
  | failed failure => failure.message
  | brokenOff => "a log directive is cut inside of a character"

/-- The line that the operator reads, unless the program breaks off without one. -/
def line? : CommandFault → Option String
  | brokenOff => none
  | fault => some ("error: " ++ fault.message)

def exitCode : CommandFault → Nat
  | configuration _ => 2
  | jsonOutput _ => 1
  | output _ => 10
  | failed failure => failure.exitCode
  | brokenOff => 101

end CommandFault

inductive LogFormat where
  | json
  | pretty
deriving DecidableEq, Repr

structure Log where
  format : LogFormat
  directives : List Journal.Directive
deriving Repr

namespace Log

/-- The directives of the environment, or else those of a level. -/
def directivesFor (environment : Environment) (level : String) :
    Except Journal.DirectiveFault (List Journal.Directive) :=
  match (environment.get? "RUST_LOG").map Journal.readStrict with
  | none => Journal.readLenient level
  | some (.error .malformed) => Journal.readLenient level
  | some (.error .cutCharacter) => .error .cutCharacter
  | some (.ok directives) => .ok directives

def formatOf? (name : String) : Option LogFormat :=
  [("json", .json), ("pretty", .pretty)].lookup name

/-- Opens the log; the directives are read first, and then the format has to be known. -/
def opened (environment : Environment) (general : General) (level : Option String) :
    Except CommandFault Log :=
  match directivesFor environment (general.effectiveLevel level) with
  | .error _ => .error .brokenOff
  | .ok directives =>
      match formatOf? general.logFormat with
      | some format => .ok ⟨format, directives⟩
      | none =>
          .error (.configuration ("unknown log format '" ++ general.logFormat ++
            "', expected 'json' or 'pretty'"))

def kept (log : Log) (records : List LogRecord) : List LogRecord :=
  records.filter (Journal.writes log.directives)

end Log

structure CommandOutcome where
  output : String := ""
  records : List LogRecord := []
  fault : Option CommandFault := none
deriving Repr

structure Context where
  validator : Validator
  random : Uuid
  output : OutputFormat
  source : String

/-- Where the program speaks from in the log when it works on a settings file. -/
def configTarget : String := "elastic_integration::commands::config"

/-- Validates settings and reports the outcome; settings that cannot be loaded are reported. -/
def runValidate (context : Context) (loaded : Except Failure Settings) : CommandOutcome :=
  let (report, records) : ValidationReport × List LogRecord :=
    match loaded with
    | .error failure => (.ofLoadFailure context.source failure, [])
    | .ok settings =>
        let traced := context.validator.validate context.random settings.options
        (.ofOutcome context.source traced.outcome,
          ⟨.info, configTarget, "validating connection settings",
            [("path", .text context.source)]⟩ :: recordsOf traced.trail)
  { output := render context.output report.text report.datum
    records
    fault := if report.isValid then none else some (.configuration "configuration is invalid") }

/-- Validates settings and shows the connection; nothing is shown if there is none. -/
def runDisplay (context : Context) (part : Part) (loaded : Except Failure Settings) :
    CommandOutcome :=
  match loaded with
  | .error failure => { fault := some (.failed failure) }
  | .ok settings =>
      let traced := context.validator.validate context.random settings.options
      let records : List LogRecord :=
        ⟨.info, configTarget, "showing validated configuration",
          [("path", .text context.source), ("section", .text part.name)]⟩ ::
        recordsOf traced.trail
      match traced.outcome with
      | .error violation =>
          { records, fault := some (.failed (.config (.rejected violation))) }
      | .ok validated =>
          let report : ConnectionReport := ⟨context.source, part, validated.connection⟩
          { records, output := render context.output report.text report.datum }

def runOptions (context : Context) (tlsOnly : Bool) : CommandOutcome :=
  let report := OptionsReport.of tlsOnly
  { output := render context.output report.text report.datum }

def runCommand (context : Context) (command : Command) (loaded : Except Failure Settings) :
    CommandOutcome :=
  match command with
  | .validate => runValidate context loaded
  | .display part => runDisplay context part loaded
  | .options tlsOnly => runOptions context tlsOnly

/-- How the program logs: as the settings say, or as it does without any. -/
def generalOf (loaded : Except Failure Settings) : General :=
  match loaded with
  | .ok settings => settings.general
  | .error _ => {}

/-- Runs the program; nothing is done before the log is open. -/
def run (environment : Environment) (validator : Validator) (random : Uuid)
    (arguments : Arguments) (loaded : Except Failure Settings) :
    Option LogFormat × CommandOutcome :=
  match Log.opened environment (generalOf loaded) arguments.logLevel with
  | .error fault => (none, { fault := some fault })
  | .ok log =>
      let context : Context := ⟨validator, random, arguments.output, arguments.config⟩
      let started : LogRecord :=
        ⟨.debug, "elastic_integration", "elastic-integration starting",
          [("config", .text arguments.config)]⟩
      let outcome := runCommand context arguments.command loaded
      (some log.format, { outcome with records := log.kept (started :: outcome.records) })

end ClusterLink.CommandLine
