import ClusterLink.CommandLine.Run
import ClusterLink.TrustStore

/-!
# The program

Reads the arguments, the environment and the settings file, runs the command, and writes what it
prints and logs. What the command wants to know of files is found out beforehand.
-/

namespace ClusterLink.Program

open CommandLine

def variableNames : List String :=
  ["ELASTIC_INTEGRATION_GENERAL_LOG_LEVEL", "ELASTIC_INTEGRATION_GENERAL_LOG_FORMAT",
    "RUST_LOG", "SSL_CERT_FILE", "SSL_CERT_DIR"]

def readEnvironment : IO Environment :=
  variableNames.filterMapM fun name => do
    return (← IO.getEnv name).map fun value => (name, value)

def faultOf (error : IO.Error) : FileFault :=
  match error with
  | .permissionDenied _ _ _ => .permissionDenied
  | .inappropriateType _ 20 _ => .notDirectory
  | .inappropriateType _ _ _ => .isDirectory
  | .invalidArgument _ 36 _ => .nameTooLong
  | .invalidArgument _ _ _ => .nulInName
  | _ => .notFound

def readContent (path : String) : IO (Except FileFault String) := do
  try
    let bytes ← IO.FS.readBinFile path
    match String.fromUTF8? bytes with
    | some text => return .ok text
    | none => return .error .notText
  catch error => return .error (faultOf error)

def readFault? (path : String) : IO (Option FileFault) := do
  try
    let handle ← IO.FS.Handle.mk path .read
    let _ ← handle.read 1
    return none
  catch error => return some (faultOf error)

def writeFault? (path : String) : IO (Option FileFault) := do
  try
    let _ ← IO.FS.Handle.mk path .readWrite
    return none
  catch error => return some (faultOf error)

def isPassable (fault : Option FileFault) : Bool := fault.all (· == .isDirectory)

def probeOf (paths : List String) : IO Probe := do
  let readable ← paths.filterM fun path => return isPassable (← readFault? path)
  let writable ← paths.filterM fun path => return isPassable (← writeFault? path)
  return ⟨readable.contains, writable.contains⟩

def findSystemTrust (environment : Environment) : IO SystemTrust := do
  let named := ["SSL_CERT_FILE", "SSL_CERT_DIR"].filterMap environment.get?
  let places := named ++ wellKnownBundles
  let files ← places.filterM fun path => return (← readFault? path).isNone
  let directories ← places.filterM fun path => return (← readFault? path) == some .isDirectory
  return .detect environment files.contains directories.contains

def usage : String :=
  lines ["Usage: elastic-integration [OPTIONS] COMMAND",
    "",
    "Options:",
    "  --config FILE         the settings file",
    "  --log-level LEVEL     which records are logged",
    "  --output text|json    how output is written",
    "",
    "Commands:",
    "  config validate                                check the settings",
    "  config show [--section target|tls|auth|all]    show the validated settings",
    "  options [--tls-only]                           list the options"]

def logLine (format : LogFormat) (record : LogRecord) : String :=
  match format with
  | .json => record.datum.writeLine
  | .pretty =>
      record.level.name ++ " " ++ record.target ++ ": " ++ record.message ++
        String.join (record.fields.map fun field => " " ++ field.1 ++ "=" ++ field.2.writeLine)

def execute (arguments : Arguments) : IO UInt32 := do
  let environment ← readEnvironment
  let loaded := Settings.load environment arguments.config (← readContent arguments.config)
  let files :=
    match loaded with
    | .ok settings => settings.options.files
    | .error _ => []
  let validator : Validator := ⟨← probeOf files, ← findSystemTrust environment⟩
  let random := Uuid.ofRandom (← IO.getRandomBytes 16).toList
  let (format, outcome) := run environment validator random arguments loaded
  if let some format := format then
    for record in outcome.records do
      IO.eprintln (logLine format record)
  IO.print outcome.output
  match outcome.fault with
  | some fault =>
      if let some line := fault.line? then
        IO.eprintln line
      return UInt32.ofNat fault.exitCode
  | none => return 0

end ClusterLink.Program

def main (words : List String) : IO UInt32 := do
  match ClusterLink.CommandLine.Arguments.read words with
  | .ok arguments => ClusterLink.Program.execute arguments
  | .error fault =>
      if fault.exitCode = 0 then IO.print ClusterLink.Program.usage
      else IO.eprint ClusterLink.Program.usage
      return UInt32.ofNat fault.exitCode
