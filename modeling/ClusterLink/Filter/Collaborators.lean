import ClusterLink.Connection
import ClusterLink.Event
import ClusterLink.Filter.Fault

/-!
# Collaborators

What the filter does not do itself: clients of the cluster, the enrichment engine, and GeoIP
databases. A collaborator answers the calls of the filter; the filter sees nothing but the answers.
-/

namespace ClusterLink

/-- The API version that clients of serverless clusters are pinned to. -/
def pinnedApiVersion : String := "2023-10-31"

def defaultUserAgent : String := "elastic-integration/0.1.0"

structure ClientOptions where
  userAgent : String := defaultUserAgent
  apiVersion : Option String := none
deriving DecidableEq, Repr

def ClientOptions.withApiVersion (options : ClientOptions) (version : String) : ClientOptions :=
  { options with apiVersion := some version }

/-- Where the engine finds GeoIP databases. -/
inductive GeoipSource where
  | directory (path : String)
  | managed (provider : String)
  | unavailable
deriving DecidableEq, Repr, Inhabited

namespace GeoipSource

def inspect : GeoipSource → String
  | directory path => Text.shownCall "Directory" [Text.quoted path]
  | managed provider => Text.shownCall "Managed" [Text.quoted provider]
  | unavailable => "Unavailable"

def label : GeoipSource → String
  | directory path => "directory:" ++ path
  | managed provider => "managed:" ++ provider
  | unavailable => "unavailable"

end GeoipSource

/-- The listener that the engine reports matches to, as it is shown for inspection. -/
def matchListenerText : String := Text.shownRecord "FilterMatchListener" [] true

/-- What the engine made of a batch, and how many matches it reported on the way. -/
structure Processed where
  matched : Nat
  outcome : Except EngineFault (List Event)
deriving Repr

/--
The answers of the collaborators. Clients are numbered by the attempts to build one, and batches by
the calls of the engine. The engine is given what it has to do with an event that matches.
-/
structure Collaborators where
  buildClient : Nat → Connection → ClientOptions → Except ClientFault Unit
  isServerless : Nat → Except PreflightFault Bool
  checkPrivileges : Nat → Except PreflightFault Unit
  checkLicense : Nat → Except PreflightFault Unit
  buildEngine : Nat → Connection → GeoipSource → Except EngineFault Unit
  process : Nat → (Event → Event) → List Event → Processed

/-- A call of a collaborator, or the moment in which a client is given up. -/
inductive Call where
  | buildClient (number : Nat) (connection : Connection) (options : ClientOptions)
  | isServerless (client : Nat)
  | checkPrivileges (client : Nat)
  | checkLicense (client : Nat)
  | releaseClient (client : Nat)
  | buildEngine (client : Nat) (connection : Connection) (geoip : GeoipSource)
  | process (events : Nat)
  | closeEngine
  | closeGeoip (provider : String)
deriving DecidableEq

namespace Call

def clientName (number : Nat) : String := "client[" ++ toString number ++ "]"

def text : Call → String
  | buildClient number connection options =>
      clientName number ++ ".build id=" ++ connection.id ++ " user_agent=" ++
        options.userAgent ++ " api_version=" ++ options.apiVersion.getD "-"
  | isServerless client => clientName client ++ ".is_serverless"
  | checkPrivileges client => clientName client ++ ".check_user_privileges"
  | checkLicense client => clientName client ++ ".check_license"
  | releaseClient client => clientName client ++ ".release"
  | buildEngine client connection geoip =>
      "engine.build client=" ++ toString client ++ " pipeline=" ++
        connection.pipelineName.getD "-" ++ " geoip=" ++ geoip.label
  | process events => "engine.process " ++ toString events
  | closeEngine => "engine.close"
  | closeGeoip provider => "geoip.close " ++ provider

end Call

end ClusterLink
