import ClusterLink.Violation

/-!
# Failures

What can go wrong between a settings file and a running filter. Every failure has one message for
the operator and one exit code of the program.
-/

namespace ClusterLink

/--
Why settings are of no use. What the program says of a text that is not TOML is up to its parser, and
is not modelled beyond that the text is refused.
-/
inductive ConfigFault where
  | fileNotFound (path : String)
  | notToml
  | parseFailed (reason : String)
  | invalidValue (field reason : String)
  | rejected (violation : Violation)
  | fatal (message : String)
deriving DecidableEq, Repr

namespace ConfigFault

def message : ConfigFault → String
  | fileNotFound path => "config file not found: " ++ path
  | notToml => "failed to parse config"
  | parseFailed reason => "failed to parse config: " ++ reason
  | invalidValue field reason => "invalid config value for '" ++ field ++ "': " ++ reason
  | rejected violation => violation.message
  | fatal message => message

def kind? : ConfigFault → Option ViolationKind
  | rejected violation => some violation.kind
  | _ => none

end ConfigFault

inductive ClientFault where
  | build (reason : String)
  | tls (reason : String)
deriving DecidableEq, Repr

def ClientFault.message : ClientFault → String
  | build reason => "failed to build client: " ++ reason
  | tls reason => "failed to build TLS context: " ++ reason

inductive EngineFault where
  | build (reason : String)
  | process (reason : String)
  | geoIp (reason : String)
deriving DecidableEq, Repr

def EngineFault.message : EngineFault → String
  | build reason => "configuration did not produce an EventProcessor: " ++ reason
  | process reason => "batch processing failed: " ++ reason
  | geoIp reason => "geoip database error: " ++ reason

inductive PreflightFault where
  | securityDisabled (detail : String)
  | missingPrivilege (privilege reason : String)
  | failed (reason : String)
deriving DecidableEq, Repr

def PreflightFault.message : PreflightFault → String
  | securityDisabled detail =>
      "no handler found for uri [/_security/user/_has_privileges]: " ++ detail
  | missingPrivilege privilege reason =>
      "The cluster privilege `" ++ privilege ++ "` is REQUIRED in order to " ++ reason
  | failed reason => "Preflight check failed: " ++ reason

/-- Why a file has no text. -/
inductive FileFault where
  | notFound
  | isDirectory
  | notDirectory
  | notText
  | nulInName
  | nameTooLong
  | permissionDenied
deriving DecidableEq, Repr

def FileFault.message : FileFault → String
  | notFound => "No such file or directory (os error 2)"
  | isDirectory => "Is a directory (os error 21)"
  | notDirectory => "Not a directory (os error 20)"
  | notText => "stream did not contain valid UTF-8"
  | nulInName => "file name contained an unexpected NUL byte"
  | nameTooLong => "File name too long (os error 36)"
  | permissionDenied => "Permission denied (os error 13)"

inductive Failure where
  | config (fault : ConfigFault)
  | client (fault : ClientFault)
  | engine (fault : EngineFault)
  | preflight (fault : PreflightFault)
  | file (fault : FileFault)
deriving DecidableEq, Repr

namespace Failure

def message : Failure → String
  | config fault => "config error: " ++ fault.message
  | client fault => "client error: " ++ fault.message
  | engine fault => "engine error: " ++ fault.message
  | preflight fault => "preflight error: " ++ fault.message
  | file fault => "io error: " ++ fault.message

def exitCode : Failure → Nat
  | config _ => 2
  | file _ => 10
  | _ => 1

end Failure

end ClusterLink
