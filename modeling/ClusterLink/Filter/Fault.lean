import ClusterLink.Failure

/-!
# Faults of the filter

What a call of the filter can fail with, and what becomes of it outside the filter.
-/

namespace ClusterLink

/-- Where a filter is in its life. -/
inductive FilterState where
  | created
  | running
  | closed
  | failed
deriving DecidableEq, Repr, Inhabited

namespace FilterState

def text : FilterState → String
  | created => "created"
  | running => "running"
  | closed => "closed"
  | failed => "failed"

def inspect : FilterState → String
  | created => "Created"
  | running => "Running"
  | closed => "Closed"
  | failed => "Failed"

end FilterState

inductive FilterFault where
  | validation (violation : Violation)
  | client (fault : ClientFault)
  | engine (fault : EngineFault)
  | preflight (fault : PreflightFault)
  | securityDisabledWithCredentials (credentials detail : String)
  | singleEventUnsupported
  | invalidState (actual expected : FilterState)
deriving DecidableEq, Repr

namespace FilterFault

def message : FilterFault → String
  | validation violation => violation.message
  | client fault => fault.message
  | engine fault => fault.message
  | preflight fault => fault.message
  | securityDisabledWithCredentials credentials detail =>
      "The Elasticsearch cluster does not have security features enabled but request " ++
        "credentials were provided. Either enable security in Elasticsearch (recommended!) " ++
        "or remove the " ++ credentials ++ " request credentials. " ++ detail
  | singleEventUnsupported => "`filter` is not allowed. Use `multi_filter`"
  | invalidState actual expected =>
      "filter is " ++ actual.text ++ ", expected " ++ expected.text

def toFailure : FilterFault → Failure
  | validation violation => .config (.rejected violation)
  | client fault => .client fault
  | engine fault => .engine fault
  | preflight fault => .preflight fault
  | securityDisabledWithCredentials credentials detail =>
      .config (.fatal (securityDisabledWithCredentials credentials detail).message)
  | singleEventUnsupported => .engine (.process singleEventUnsupported.message)
  | invalidState actual expected => .engine (.process (invalidState actual expected).message)

end FilterFault

/-- The part of a start that a failure belongs to. -/
inductive Stage where
  | validate
  | client
  | engine
  | preflight
deriving DecidableEq, Repr

def Stage.name : Stage → String
  | validate => "validate"
  | client => "client"
  | engine => "engine"
  | preflight => "preflight"

end ClusterLink
