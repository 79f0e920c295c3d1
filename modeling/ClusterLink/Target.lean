import ClusterLink.Datum
import ClusterLink.Endpoint.Reading
import ClusterLink.Options.Basic
import ClusterLink.Violation

/-!
# Targets

A cluster is reached either by a list of hosts or by the identifier of a managed cluster. Exactly
one of the two has to be given, and it must not be empty.
-/

namespace ClusterLink

inductive Target where
  | hosts (endpoints : List Endpoint)
  | cloudId (identifier : String)
deriving DecidableEq, Repr, Inhabited

namespace Target

def hosts? : Target → Option (List Endpoint)
  | hosts endpoints => some endpoints
  | cloudId _ => none

def cloudId? : Target → Option String
  | hosts _ => none
  | cloudId identifier => some identifier

def readHost (text : String) : Except Violation Endpoint :=
  match Endpoint.read text with
  | .ok endpoint => .ok endpoint
  | .error fault => .error (.invalidHost text fault.reason)

def readHosts (texts : List String) : Except Violation (List Endpoint) := texts.mapM readHost

/--
The target that options name. The hosts are read but not brought into agreement. Two targets are
reported before none, none before an empty identifier, and that before an empty list.
-/
def ofOptions (options : Options) : Except Violation Target :=
  match options.hosts, options.cloudId with
  | some (_ :: _), some identifier =>
      .error (if identifier.isEmpty then .emptyCloudIdentifier else .bothConnectionModes)
  | some [], some identifier =>
      .error (if identifier.isEmpty then .emptyCloudIdentifier else .emptyHostList)
  | none, some identifier =>
      if identifier.isEmpty then .error .emptyCloudIdentifier else .ok (.cloudId identifier)
  | some [], none => .error .emptyHostList
  | some texts, none => .hosts <$> readHosts texts
  | none, none => .error .noConnectionMode

def members : Target → List (String × Datum)
  | hosts endpoints => [("hosts", .list (endpoints.map fun endpoint => .text endpoint.text))]
  | cloudId identifier => [("cloud_id", .text identifier)]

end Target

end ClusterLink
