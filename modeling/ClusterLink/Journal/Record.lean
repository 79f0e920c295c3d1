import ClusterLink.Datum
import ClusterLink.Traced

/-!
# Log records

What is written to the log: a level, the part of the program that speaks, a message, and fields.
The occurrences of a validation have their records here.
-/

namespace ClusterLink

inductive LogLevel where
  | error
  | warn
  | info
  | debug
  | trace
deriving DecidableEq, Repr

namespace LogLevel

def name : LogLevel → String
  | error => "ERROR"
  | warn => "WARN"
  | info => "INFO"
  | debug => "DEBUG"
  | trace => "TRACE"

def rank : LogLevel → Nat
  | error => 1
  | warn => 2
  | info => 3
  | debug => 4
  | trace => 5

end LogLevel

structure LogRecord where
  level : LogLevel
  target : String
  message : String
  fields : List (String × Datum)
deriving Repr

def LogRecord.fieldNames (record : LogRecord) : List String :=
  "message" :: record.fields.map (·.1)

def LogRecord.datum (record : LogRecord) : Datum :=
  .record [("level", .text record.level.name),
    ("fields", .record (("message", .text record.message) :: record.fields)),
    ("target", .text record.target)]

def Advisory.record (id : String) (advisory : Advisory) : LogRecord where
  level := .warn
  target := "elastic_integration_connection::validator"
  message := advisory.message
  fields := [("id", .text id), ("warning", .text advisory.code)]

def Occurrence.record? : Occurrence → Option LogRecord
  | .askedReadable label path => some {
      level := .trace
      target := "elastic_integration_connection::access"
      message := "probing credential path"
      fields := [("label", .text label), ("path", .text path)] }
  | .askedWritable _ => none
  | .inferredTls enabled => some {
      level := .info
      target := "elastic_integration_connection::validator"
      message := "`ssl_enabled` inferred from connection settings"
      fields := [("ssl_enabled", .boolean enabled)] }
  | .resolvedTls mode identity trust => some {
      level := .debug
      target := "elastic_integration_connection::tls"
      message := "TLS settings resolved"
      fields := [("verification_mode", .text mode), ("identity", .boolean identity),
        ("trust", .text trust)] }
  | .normalizedHosts count scheme path => some {
      level := .debug
      target := "elastic_integration_connection::hosts"
      message := "hosts normalized"
      fields := [("count", .integer count), ("scheme", .text scheme), ("path", .text path)] }
  | .warned id advisory => some (advisory.record id)
  | .validated id tlsEnabled hosts cloud => some {
      level := .info
      target := "elastic_integration_connection::validator"
      message := "connection settings validated"
      fields := [("id", .text id), ("ssl_enabled", .boolean tlsEnabled),
        ("hosts", .integer hosts), ("cloud_id", .boolean cloud)] }

/-- A question about a path, and whether it was about reading or about writing. -/
inductive ProbeCall where
  | readable (path : String)
  | writable (path : String)
deriving DecidableEq, Repr

def Occurrence.probe? : Occurrence → Option ProbeCall
  | .askedReadable _ path => some (.readable path)
  | .askedWritable path => some (.writable path)
  | _ => none

def recordsOf (trail : List Occurrence) : List LogRecord := trail.filterMap Occurrence.record?

def probesOf (trail : List Occurrence) : List ProbeCall := trail.filterMap Occurrence.probe?

end ClusterLink
