import ClusterLink.Credentials
import ClusterLink.Target
import ClusterLink.Tls

/-!
# Connections

The outcome of validation: all that is needed to reach a cluster. It is put together once and not
changed; clients and engines are built from it and from nothing else.
-/

namespace ClusterLink

/-- How to reach a cluster. -/
structure Connection where
  id : String
  target : Target
  tls : Tls := .disabled
  credentials : Credentials := .none
  pipelineName : Option String := none
  geoipDatabaseDirectory : Option String := none
deriving DecidableEq, Inhabited

namespace Connection

/-- The members of a connection as they are written, secrets masked. -/
def members (connection : Connection) : List (String × Datum) :=
  [("id", .text connection.id), ("target", .record connection.target.members),
    ("tls", .record connection.tls.members),
    ("auth", .record connection.credentials.members)] ++
  Datum.optional "pipeline_name" (connection.pipelineName.map .text) ++
  Datum.optional "geoip_database_directory" (connection.geoipDatabaseDirectory.map .text)

end Connection

def Endpoint.inspect (endpoint : Endpoint) : String :=
  Text.shownRecord "EndpointUri"
    [("scheme", Text.shownOption (endpoint.scheme.map Text.quoted)),
      ("host", Text.quoted endpoint.host),
      ("port", Text.shownOption (endpoint.port.map fun port => toString port.toNat)),
      ("path", Text.shownOption (endpoint.path.map Text.quoted))] false

def Target.inspect : Target → String
  | .hosts endpoints => Text.shownCall "Hosts" [Text.shownList (endpoints.map Endpoint.inspect)]
  | .cloudId identifier => Text.shownCall "CloudId" [Text.quoted identifier]

def Connection.inspect (connection : Connection) : String :=
  Text.shownRecord "ImmutableConnectionConfig"
    [("id", Text.quoted connection.id), ("target", connection.target.inspect),
      ("tls", connection.tls.inspect), ("auth", connection.credentials.inspect),
      ("pipeline_name", Text.shownOption (connection.pipelineName.map Text.quoted)),
      ("geoip_database_directory",
        Text.shownOption (connection.geoipDatabaseDirectory.map Text.quoted))] false

end ClusterLink
