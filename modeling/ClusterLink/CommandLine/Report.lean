import ClusterLink.CommandLine.Arguments
import ClusterLink.Datum.Writing
import ClusterLink.Settings
import ClusterLink.Validation

/-!
# Reports

What the program prints: the outcome of validation, a connection or a part of it, and the list of
options. Every report has a form for people and a JSON form.
-/

namespace ClusterLink.CommandLine

def padded (width : Nat) (text : String) : String :=
  text ++ String.ofList (List.replicate (width - text.length) ' ')

def lines (texts : List String) : String := String.join (texts.map (· ++ "\n"))

structure Problem where
  kind : String
  message : String
deriving DecidableEq, Repr

structure ValidationReport where
  source : String
  id : Option String := none
  tlsEnabled : Option Bool := none
  hosts : List String := []
  warnings : List String := []
  problem : Option Problem := none
deriving DecidableEq, Repr

namespace ValidationReport

def isValid (report : ValidationReport) : Bool := report.problem.isNone

def ofLoadFailure (source : String) (failure : Failure) : ValidationReport :=
  { source, problem := some ⟨"load", failure.message⟩ }

def ofOutcome (source : String) (outcome : Except Violation Validated) : ValidationReport :=
  match outcome with
  | .error violation => { source, problem := some ⟨violation.kind.code, violation.message⟩ }
  | .ok validated => {
      source
      id := some validated.connection.id
      tlsEnabled := some validated.connection.tls.isEnabled
      hosts := (validated.connection.target.hosts?.getD []).map Endpoint.text
      warnings := validated.advisories.map Advisory.message }

def text (report : ValidationReport) : String :=
  lines <| ("Config Validation: " ++ report.source) ::
    match report.problem with
    | some problem =>
        ["  Result: INVALID", "  Kind: " ++ problem.kind, "  Error: " ++ problem.message]
    | none =>
        ["  Result: VALID"] ++
        (report.id.map fun id => "  Id: " ++ id).toList ++
        (report.tlsEnabled.map fun enabled =>
          "  SSL enabled: " ++ if enabled then "true" else "false").toList ++
        (report.hosts.map fun host => "  Host: " ++ host) ++
        (report.warnings.map fun warning => "  Warning: " ++ warning)

def datum (report : ValidationReport) : Datum :=
  .record <|
    [("source", .text report.source), ("valid", .boolean report.isValid)] ++
    Datum.optional "id" (report.id.map .text) ++
    Datum.optional "ssl_enabled" (report.tlsEnabled.map .boolean) ++
    [("hosts", .list (report.hosts.map .text)),
      ("warnings", .list (report.warnings.map .text))] ++
    Datum.optional "error" (report.problem.map fun problem =>
      .record [("kind", .text problem.kind), ("message", .text problem.message)])

end ValidationReport

/-- A connection or a part of it. -/
structure ConnectionReport where
  source : String
  part : Part
  connection : Connection

namespace ConnectionReport

def members (report : ConnectionReport) : List (String × Datum) :=
  match report.part with
  | .target => report.connection.target.members
  | .tls => report.connection.tls.members
  | .auth => report.connection.credentials.members
  | .all => report.connection.members

/-- The document that is shown: a single part stands under its name. -/
def document (report : ConnectionReport) : List (String × Datum) :=
  match report.part with
  | .all => report.members
  | part => [(part.name, .record report.members)]

def value (report : ConnectionReport) : Datum := (Datum.record report.members).sorted

def heading (report : ConnectionReport) : String :=
  let title :=
    match report.part with
    | .all => ""
    | part => " [" ++ part.name ++ "]"
  "Validated configuration" ++ title ++ " (source: " ++ report.source ++ ")\n\n"

/-- The heading and the document, or the reason why there is no document. -/
def text (report : ConnectionReport) : String :=
  report.heading ++
    match Toml.tryWrite .onePerLine report.document with
    | .ok written => written
    | .error fault => "(serialization error: " ++ fault.message ++ ")\n"

def datum (report : ConnectionReport) : Datum :=
  .record <|
    [("source", .text report.source)] ++
    (match report.part with
      | .all => []
      | part => [("section", .text part.name)]) ++
    [("config", report.value)]

end ConnectionReport

structure OptionsReport where
  entries : List OptionSpec

namespace OptionsReport

def of (tlsOnly : Bool) : OptionsReport :=
  ⟨catalogue.filter fun spec => !tlsOnly || spec.tlsOnly⟩

def flags (spec : OptionSpec) : String :=
  (if spec.tlsOnly then "T" else "") ++ (if spec.secret then "S" else "")

def row (name kind flags description : String) : String :=
  padded 30 name ++ " " ++ padded 32 kind ++ " " ++ padded 8 flags ++ " " ++ description

def line (spec : OptionSpec) : String :=
  row spec.name spec.kind.label (flags spec) spec.description ++
    match spec.default? with
    | some value => " (default: " ++ value ++ ")"
    | none => ""

def text (report : OptionsReport) : String :=
  lines <| [row "NAME" "KIND" "FLAGS" "DESCRIPTION"] ++ report.entries.map line ++
    ["", "Flags: T = requires TLS, S = secret (redacted in output)"]

def entryDatum (spec : OptionSpec) : Datum :=
  .record <|
    [("name", .text spec.name), ("kind", .text spec.kind.label)] ++
    Datum.optional "default" (spec.default?.map .text) ++
    [("tls_only", .boolean spec.tlsOnly), ("secret", .boolean spec.secret),
      ("description", .text spec.description)]

def datum (report : OptionsReport) : Datum :=
  .record [("options", .list (report.entries.map entryDatum))]

end OptionsReport

def render (format : OutputFormat) (text : String) (datum : Datum) : String :=
  match format with
  | .text => text
  | .json => datum.write ++ "\n"

end ClusterLink.CommandLine
