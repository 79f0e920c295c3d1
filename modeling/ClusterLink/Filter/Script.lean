import ClusterLink.Filter.Lifecycle

/-!
# Scripted collaborators

Collaborators that answer as it is written down beforehand. Every client has a plan; the engine
takes from the fields of an event what it does with it.
-/

namespace ClusterLink

/-- What one client answers. -/
structure ClientPlan where
  build : Option ClientFault := none
  serverless : Except PreflightFault Bool := .ok false
  privileges : Option PreflightFault := none
  license : Option PreflightFault := none
deriving Inhabited

/-- What all clients and the engine answer; the last plan of a client repeats. -/
structure Script where
  clients : List ClientPlan := []
  engine : Option EngineFault := none

def planned {ε : Type} (fault : Option ε) : Except ε Unit :=
  match fault with
  | some e => .error e
  | none => .ok ()

namespace Script

def client (script : Script) (number : Nat) : ClientPlan :=
  match script.clients[number]? with
  | some plan => plan
  | none => script.clients.getLast?.getD {}

def engineFault? : Datum → Option EngineFault
  | .record members => do
      let kind ← (Members.get? "kind" members).bind Datum.asText?
      let message ← (Members.get? "message" members).bind Datum.asText?
      match kind with
      | "build" => some (.build message)
      | "process" => some (.process message)
      | "geoip" => some (.geoIp message)
      | _ => none
  | _ => none

/-- How often something is done with an event: as a field says, or once. -/
def times (event : Event) (field : String) : Nat :=
  match event.get? field with
  | some (.integer count) => if count < 0 then 1 else count.toNat
  | _ => 1

def repeated (operation : Event → Event) : Nat → Event → Event
  | 0, event => event
  | count + 1, event => repeated operation count (operation event)

/-- The events that an engine makes of a batch: each is dropped, or matched and emitted. -/
def process (matched : Event → Event) : Nat → List Event → Processed
  | count, [] => ⟨count, .ok []⟩
  | count, event :: rest =>
      match (event.get? "_fail").bind engineFault? with
      | some fault => ⟨count, .error fault⟩
      | none =>
          if (event.get? "_drop").isSome then process matched count rest
          else
            let reports := times event "_match"
            let after := process matched (count + reports) rest
            let copies := List.replicate (times event "_dup") (repeated matched reports event)
            ⟨after.matched, after.outcome.map (copies ++ ·)⟩

def collaborators (script : Script) : Collaborators where
  buildClient number _ _ := planned (script.client number).build
  isServerless number := (script.client number).serverless
  checkPrivileges number := planned (script.client number).privileges
  checkLicense number := planned (script.client number).license
  buildEngine _ _ _ := planned script.engine
  process _ matched events := process matched 0 events

end Script

end ClusterLink
