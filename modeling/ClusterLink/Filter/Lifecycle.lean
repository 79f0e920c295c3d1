import ClusterLink.Filter.Collaborators
import ClusterLink.Filter.Metrics
import ClusterLink.Journal.Record
import ClusterLink.Validation

/-!
# The life of a filter

A filter is created, started once, and closed. While it runs it hands batches of events to the
engine. Starting validates the settings, builds a client, finds GeoIP databases, builds an engine
and checks the cluster; a start that fails gives up whatever it has built. Every operation leaves
the effects that it had, in their order.
-/

namespace ClusterLink

/-- Something that an operation of the filter does apart from changing the filter. -/
inductive Effect where
  | validation (occurrence : Occurrence)
  | called (call : Call)
  | logged (record : LogRecord)
  | counted (counter : Counter) (amount : Nat)

/-- A filter and what it holds. -/
structure Filter where
  options : Options
  validator : Validator
  addTags : List String := []
  geoipManager : Option String := none
  state : FilterState := .created
  connection : Option Connection := none
  advisories : List Advisory := []
  client : Option Nat := none
  geoip : Option GeoipSource := none
  engine : Option Nat := none
  attempts : Nat := 0
  batches : Nat := 0

/-- The filter after an operation, the effects of the operation, and its result. -/
structure Outcome (α : Type) where
  filter : Filter
  effects : List Effect
  result : α

/-- A part of a start: it goes on from a filter, and may fail at a stage. -/
def Start (α : Type) := Filter → Outcome (Except (Stage × FilterFault) α)

namespace Start

variable {α β : Type}

def value (a : α) : Start α := fun filter => ⟨filter, [], .ok a⟩

/-- Goes on with the next part, unless the first one fails. -/
def andThen (first : Start α) (next : α → Start β) : Start β := fun filter =>
  let done := first filter
  match done.result with
  | .ok a =>
      let after := next a done.filter
      ⟨after.filter, done.effects ++ after.effects, after.result⟩
  | .error failure => ⟨done.filter, done.effects, .error failure⟩

instance : Monad Start where
  pure := value
  bind := andThen

def emit (effects : List Effect) : Start Unit := fun filter => ⟨filter, effects, .ok ()⟩

/-- A part that changes what the filter holds. -/
def change (update : Filter → Filter) : Start Unit := fun filter =>
  ⟨update filter, [], .ok ()⟩

def call (call : Call) (answer : Except (Stage × FilterFault) α) : Start α := fun filter =>
  ⟨filter, [.called call], answer⟩

/-- A part whose failure gives up a client that the filter does not hold yet. -/
def givingUp (client : Nat) (part : Start α) : Start α := fun filter =>
  let done := part filter
  match done.result with
  | .ok _ => done
  | .error _ => { done with effects := done.effects ++ [.called (.releaseClient client)] }

end Start

def atStage {ε α : Type} (stage : Stage) (fault : ε → FilterFault) :
    Except ε α → Except (Stage × FilterFault) α
  | .ok a => .ok a
  | .error e => .error (stage, fault e)

namespace Filter

def logTarget : String := "elastic_integration_filter::filter"

def record (level : LogLevel) (message : String) (fields : List (String × Datum)) : Effect :=
  .logged ⟨level, logTarget, message, fields⟩

def noGeoipMessage : String :=
  "Geoip database management is not available; integrations that rely on the Geoip Processor " ++
    "will be unable to enrich events with geo data unless you either provide your own " ++
    "databases with `geoip_database_directory` or run with a managed geoip database provider."

def unsafeModeMessage : String :=
  "`elastic_integration` filter is unable to verify user privileges. It has started with " ++
    "unsafe mode which may cause unexpected failure. Enabling security in Elasticsearch and " ++
    "using user authentication is recommended."

/-! ## Starting -/

def acceptSettings (random : Uuid) : Start Connection := fun filter =>
  let validated := filter.validator.validate random filter.options
  let occurrences := validated.trail.map Effect.validation
  match validated.outcome with
  | .error violation => ⟨filter, occurrences, .error (.validate, .validation violation)⟩
  | .ok accepted =>
      ⟨{ filter with
          connection := some accepted.connection
          advisories := accepted.advisories },
        occurrences ++ accepted.advisories.map fun advisory => .counted (.advisories advisory) 1,
        .ok accepted.connection⟩

def buildClient (collaborators : Collaborators) (connection : Connection)
    (options : ClientOptions) : Start Nat := fun filter =>
  let number := filter.attempts
  ⟨{ filter with attempts := number + 1 },
    [.called (.buildClient number connection options)],
    atStage .client .client
      ((collaborators.buildClient number connection options).map fun _ => number)⟩

def askServerless (collaborators : Collaborators) (client : Nat) : Start Bool :=
  Start.call (.isServerless client)
    (atStage .client .preflight (collaborators.isServerless client))

def holdClient (client : Nat) : Start Nat := do
  Start.change fun filter => { filter with client := some client }
  pure client

/-- Builds the client, and builds it again with a pinned version for a serverless cluster. -/
def openClient (collaborators : Collaborators) (connection : Connection) : Start Nat := do
  let first ← buildClient collaborators connection {}
  if ← Start.givingUp first (askServerless collaborators first) then
    Start.emit [record .info "serverless cluster detected; pinning API version"
      [("api_version", .text pinnedApiVersion)]]
    let pinned := ({} : ClientOptions).withApiVersion pinnedApiVersion
    let second ← Start.givingUp first (buildClient collaborators connection pinned)
    Start.emit [.called (.releaseClient first)]
    holdClient second
  else holdClient first

def geoipSource (connection : Connection) (manager : Option String) : GeoipSource :=
  match connection.geoipDatabaseDirectory, manager with
  | some directory, _ => .directory directory
  | none, some provider => .managed provider
  | none, none => .unavailable

def geoipRecord : GeoipSource → Effect
  | .directory path =>
      record .debug "discovering geoip databases" [("directory", .text path)]
  | .managed provider =>
      record .info "using managed geoip databases" [("provider", .text provider)]
  | .unavailable => record .warn noGeoipMessage []

def chooseGeoip (connection : Connection) : Start GeoipSource := fun filter =>
  let source := geoipSource connection filter.geoipManager
  ⟨{ filter with geoip := some source }, [geoipRecord source], .ok source⟩

def openEngine (collaborators : Collaborators) (client : Nat) (connection : Connection)
    (geoip : GeoipSource) : Start Unit := do
  Start.call (.buildEngine client connection geoip)
    (atStage .engine .engine (collaborators.buildEngine client connection geoip))
  Start.change fun filter => { filter with engine := some client }

/--
Checks the privileges of the user. A cluster without security is accepted if no credentials would
be sent to it.
-/
def checkPrivileges (collaborators : Collaborators) (client : Nat) (connection : Connection) :
    Start Unit := fun filter =>
  let made : Effect := .called (.checkPrivileges client)
  match collaborators.checkPrivileges client with
  | .ok () => ⟨filter, [made], .ok ()⟩
  | .error (.securityDisabled detail) =>
      match connection.credentials.description? with
      | some credentials =>
          ⟨filter, [made],
            .error (.preflight, .securityDisabledWithCredentials credentials
              (PreflightFault.securityDisabled detail).message)⟩
      | none => ⟨filter, [made, record .warn unsafeModeMessage []], .ok ()⟩
  | .error fault => ⟨filter, [made], .error (.preflight, .preflight fault)⟩

def checkLicense (collaborators : Collaborators) (client : Nat) : Start Unit :=
  Start.call (.checkLicense client)
    (atStage .preflight .preflight (collaborators.checkLicense client))

/-- All parts of a start, in their order. -/
def start (collaborators : Collaborators) (random : Uuid) : Start Unit := do
  let connection ← acceptSettings random
  let client ← openClient collaborators connection
  let geoip ← chooseGeoip connection
  openEngine collaborators client connection geoip
  checkPrivileges collaborators client connection
  checkLicense collaborators client

/-! ## Releasing -/

def engineRelease (filter : Filter) : List Effect :=
  match filter.engine with
  | some _ => [.called .closeEngine, record .debug "enrichment engine closed" []]
  | none => []

def geoipRelease (filter : Filter) : List Effect :=
  match filter.geoip with
  | some (.managed provider) =>
      [.called (.closeGeoip provider),
        record .debug "geoip provider closed" [("provider", .text provider)]]
  | _ => []

def clientRelease (filter : Filter) : List Effect :=
  match filter.client with
  | some client =>
      [.called (.releaseClient client), record .debug "client released" []]
  | none => []

/-- Gives up engine, GeoIP databases and client, in this order. -/
def release (filter : Filter) : Outcome Unit :=
  ⟨{ filter with engine := none, geoip := none, client := none },
    filter.engineRelease ++ filter.geoipRelease ++ filter.clientRelease, ()⟩

/-! ## Operations -/

def startFailure (stage : Stage) (fault : FilterFault) : List Effect :=
  [.counted (.startupFailures stage) 1,
    record .error "elastic_integration filter failed to start"
      [("stage", .text stage.name), ("error", .text fault.message)]]

/-- Starts a filter that has just been created; `random` names it if its options do not. -/
def register (collaborators : Collaborators) (random : Uuid) (filter : Filter) :
    Outcome (Except FilterFault Unit) :=
  if filter.state ≠ .created then
    ⟨filter, [], .error (.invalidState filter.state .created)⟩
  else
    let started := start collaborators random filter
    match started.result with
    | .ok () =>
        let registered := record .info "elastic_integration filter registered"
          (Datum.optional "id" (started.filter.connection.map fun found => .text found.id))
        ⟨{ started.filter with state := .running }, started.effects ++ [registered], .ok ()⟩
    | .error (stage, fault) =>
        let released := started.filter.release
        ⟨{ released.filter with connection := none, advisories := [], state := .failed },
          started.effects ++ startFailure stage fault ++ released.effects,
          .error fault⟩

/-- Single events are not handled. -/
def filterOne (filter : Filter) (_ : Event) : Outcome (Except FilterFault Event) :=
  ⟨filter, [], .error .singleEventUnsupported⟩

/-- What the listener of the engine counts each time that the engine reports a match. -/
def matchEffect : Effect := .counted .eventsMatched 1

def processEffects (events : List Event) (processed : Processed) : List Effect :=
  [.counted .eventsIn events.length, .called (.process events.length)] ++
    List.replicate processed.matched matchEffect ++
    match processed.outcome with
    | .ok produced => [.counted .eventsOut produced.length]
    | .error _ => []

def multiFilter (collaborators : Collaborators) (events : List Event) (filter : Filter) :
    Outcome (Except FilterFault (List Event)) :=
  match filter.state, filter.engine with
  | .running, some _ =>
      let processed := collaborators.process filter.batches (Event.addTags filter.addTags) events
      ⟨{ filter with batches := filter.batches + 1 },
        processEffects events processed,
        match processed.outcome with
        | .ok produced => .ok produced
        | .error fault => .error (.engine fault)⟩
  | state, _ => ⟨filter, [], .error (.invalidState state .running)⟩

/-- Closes a filter; closing it again does nothing. -/
def close (filter : Filter) : Outcome Unit :=
  if filter.state = .closed then ⟨filter, [], ()⟩
  else
    let released := filter.release
    ⟨{ released.filter with state := .closed },
      released.effects ++ [record .info "elastic_integration filter closed" []], ()⟩

def preflight (collaborators : Collaborators) (client : Nat) :
    List Effect × Except PreflightFault Unit :=
  match collaborators.checkPrivileges client with
  | .error fault =>
      ([.called (.checkPrivileges client), .called (.releaseClient client)], .error fault)
  | .ok () =>
      ([.called (.checkPrivileges client), .called (.checkLicense client),
          .called (.releaseClient client)],
        collaborators.checkLicense client)

def inspect (filter : Filter) : String :=
  Text.shownRecord "ElasticIntegrationFilter"
    [("state", filter.state.inspect),
      ("config", Text.shownOption (filter.connection.map Connection.inspect)),
      ("geoip", Text.shownOption (filter.geoip.map GeoipSource.inspect))] true

end Filter

/-! ## Views of effects -/

namespace Effect

def call? : Effect → Option Call
  | called call => some call
  | _ => none

def record? : Effect → Option LogRecord
  | logged record => some record
  | validation occurrence => occurrence.record?
  | _ => none

def probe? : Effect → Option ProbeCall
  | validation occurrence => occurrence.probe?
  | _ => none

def count (metrics : Metrics) : Effect → Metrics
  | counted counter amount => metrics.add counter amount
  | _ => metrics

end Effect

end ClusterLink
