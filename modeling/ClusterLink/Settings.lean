import ClusterLink.Datum
import ClusterLink.Environment
import ClusterLink.Failure
import ClusterLink.Options.Reading
import ClusterLink.Toml.Excerpt
import ClusterLink.Toml.Values
import ClusterLink.Toml.Writing

/-!
# Settings

A settings file has a section for the program and a section for the options of the filter. The
environment overrides the former and never touches the latter.
-/

namespace ClusterLink

structure General where
  logLevel : String := "info"
  logFormat : String := "json"
deriving DecidableEq, Repr, Inhabited

structure Settings (Path : Type := String) where
  general : General := {}
  options : Options Path := {}
deriving DecidableEq, Inhabited

namespace General

/-- The general settings with one more entry of their table; unknown entries count for nothing. -/
def readEntry (general : General) (entry : Key × Tree) : Except Misfit General :=
  if entry.1.name = "log_format" then
    (fun value => { general with logFormat := value }) <$> readText "a string" entry.2
  else if entry.1.name = "log_level" then
    (fun value => { general with logLevel := value }) <$> readText "a string" entry.2
  else .ok general

/-- Reads the general settings from a table, or from a list that may end early. -/
def read (tree : Tree) : Except Misfit General :=
  match tree with
  | .table _ entries => entries.foldlM readEntry {}
  | .list _ items =>
      match items with
      | [] => .ok {}
      | [level] => (fun logLevel => { logLevel }) <$> readText "a string" level
      | level :: format :: _ => do
          let logLevel ← readText "a string" level
          let logFormat ← readText "a string" format
          .ok { logLevel, logFormat }
  | .scalar _ _ => .error (tree.misfit "struct GeneralConfig")

def levels : List String := ["trace", "debug", "info", "warn", "error"]

def formats : List String := ["json", "pretty"]

/-- The reason why a value is not one of the allowed ones. -/
def oneOf (allowed : List String) : String := "must be one of: " ++ ", ".intercalate allowed

def check (general : General) : Except ConfigFault Unit :=
  if !levels.contains general.logLevel then
    .error (.invalidValue "general.log_level" (oneOf levels))
  else if !formats.contains general.logFormat then
    .error (.invalidValue "general.log_format" (oneOf formats))
  else .ok ()

def override (environment : Environment) (general : General) : General where
  logLevel :=
    (environment.get? "ELASTIC_INTEGRATION_GENERAL_LOG_LEVEL").getD general.logLevel
  logFormat :=
    (environment.get? "ELASTIC_INTEGRATION_GENERAL_LOG_FORMAT").getD general.logFormat

/-- The level that counts: the one of the command line, if it names one. -/
def effectiveLevel (general : General) (commandLine : Option String) : String :=
  commandLine.getD general.logLevel

end General

namespace Settings

def readEntry (settings : Settings) (entry : Key × Tree) : Except Misfit Settings :=
  if entry.1.name = "elastic_integration" then
    (fun options => { settings with options }) <$> Options.read .toml entry.2
  else if entry.1.name = "general" then
    (fun general => { settings with general }) <$> General.read entry.2
  else .ok settings

/-- What is looked at of a value: of a list in place of a section, no more than it has places. -/
def lookedAt (name : String) : Tree → Tree
  | .list span items =>
      if name = "elastic_integration" then .list span (items.take OptionKey.all.length)
      else if name = "general" then .list span (items.take 2)
      else .list span items
  | tree => tree

/-- Whether all numbers that are looked at have values. -/
def isReadable (entries : List (Key × Tree)) : Bool :=
  entries.all fun entry => (lookedAt entry.1.name entry.2).allScalars (· != .unreadable)

/--
Reads the text of a settings file. A text that has a wrong shape and something that is no value of
the notation is no document at all.
-/
def parse (text : String) : Except ConfigFault Settings :=
  match Toml.document? text.toList with
  | none => .error .notToml
  | some entries =>
      if !isReadable entries then .error .notToml
      else
        match entries.foldlM readEntry {} with
        | .ok settings => .ok settings
        | .error misfit =>
            if Toml.areProper entries then
              let excerpt := Toml.Excerpt.ofSpan text.toList misfit.span
              .error (.parseFailed (excerpt.report (misfit.cause.message .toml)))
            else .error .notToml

/-- The settings under an environment, which leaves the options alone. -/
def override (environment : Environment) (settings : Settings) : Settings :=
  { settings with general := settings.general.override environment }

def ofText (environment : Environment) (text : String) : Except ConfigFault Settings := do
  let settings ← parse text
  let settings := settings.override environment
  settings.general.check
  .ok settings

end Settings

def Settings.load (environment : Environment) (path : String)
    (content : Except FileFault String) : Except Failure Settings :=
  match content with
  | .error .notFound => .error (.config (.fileNotFound path))
  | .error fault => .error (.file fault)
  | .ok text =>
      match Settings.ofText environment text with
      | .ok settings => .ok settings
      | .error fault => .error (.config fault)

def OptionValue.datum : OptionValue → Datum
  | .text value => .text value
  | .flag value => .boolean value
  | .secret value => .text value.text
  | .texts values => .list (values.map .text)

def Options.members (options : Options) : List (String × Datum) :=
  OptionKey.all.map fun key => (key.name, Datum.orNull ((options.value? key).map (·.datum)))

namespace Settings

def members (settings : Settings) : List (String × Datum) :=
  [("general", .record [("log_level", .text settings.general.logLevel),
      ("log_format", .text settings.general.logFormat)]),
    ("elastic_integration", .record settings.options.members)]

/-- The settings as a program has them. -/
def onSystem (settings : Settings) : Settings SystemPath :=
  { settings with options := settings.options.mapPaths SystemPath.ofText }

/-- The settings as a document, secrets masked; a path that is no text has no place in one. -/
def write (settings : Settings SystemPath) : Except Toml.WritingFault String :=
  match settings.options.texts? with
  | none => .error .pathNotText
  | some options => Toml.tryWrite .oneLine (members { settings with options })

end Settings

end ClusterLink
