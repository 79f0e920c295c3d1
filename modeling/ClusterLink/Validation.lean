import ClusterLink.Connection
import ClusterLink.Hosts
import ClusterLink.Uuid

/-!
# Validation

From the options of a filter to a connection. The stages are the target, the identity of the
filter, the use of TLS, its state, the credentials, and the agreement of the hosts; the first stage
that fails ends the validation.
-/

namespace ClusterLink

structure Validated where
  connection : Connection
  advisories : List Advisory
deriving DecidableEq, Inhabited

/-- What validation asks of its surroundings. -/
structure Validator where
  probe : Probe
  systemTrust : SystemTrust

namespace Validator

def generatedLead : String := "elastic_integration_"

/-- The identity of the filter: the one that is given, or else one made from random bytes. -/
def resolveId (options : Options) (random : Uuid) : Except Violation String :=
  match options.id with
  | some id => if id.isEmpty then .error .emptyIdentity else .ok id
  | none => .ok (generatedLead ++ random.simple)

/-- Whether TLS is used: as the options say, or else as the target implies. -/
def resolveTlsEnabled (options : Options) (target : Target) : Traced Bool :=
  match options.sslEnabled with
  | some enabled => pure enabled
  | none => do
      let enabled ← Traced.lift target.inferTls
      Traced.note (.inferredTls enabled)
      pure enabled

def settleTarget (target : Target) (tlsEnabled : Bool) : Traced Target :=
  match target with
  | .cloudId identifier => pure (.cloudId identifier)
  | .hosts endpoints => do
      let settled ← Traced.lift (normalizeHosts endpoints (some tlsEnabled))
      match endpoints with
      | [] => pure (.hosts settled)
      | first :: _ =>
          Traced.note
            (.normalizedHosts settled.length (schemeFor tlsEnabled) first.pathOrRoot)
          pure (.hosts settled)

def tlsAdvisories (tls : Tls) : List Advisory :=
  if tls.mode? = some .none then [.verificationDisabled] else []

def warnAll (id : String) (advisories : List Advisory) : Traced Unit :=
  ⟨advisories.map (.warned id), .ok ()⟩

def completion (connection : Connection) : Occurrence :=
  .validated connection.id connection.tls.isEnabled
    ((connection.target.hosts?.map List.length).getD 0) connection.target.cloudId?.isSome

def validate (validator : Validator) (random : Uuid) (options : Options) : Traced Validated := do
  let target ← Traced.lift (Target.ofOptions options)
  let id ← Traced.lift (resolveId options random)
  let tlsEnabled ← resolveTlsEnabled options target
  let tls ← Tls.resolve options tlsEnabled validator.probe validator.systemTrust
  let credentials ← Traced.lift (Credentials.ofOptions options)
  let target ← settleTarget target tlsEnabled
  let advisories := tlsAdvisories tls ++ credentials.advisories tlsEnabled
  warnAll id advisories
  let connection : Connection := {
    id, target, tls, credentials
    pipelineName := options.pipelineName
    geoipDatabaseDirectory := options.geoipDatabaseDirectory }
  Traced.note (completion connection)
  pure ⟨connection, advisories⟩

def inspect (validator : Validator) : String :=
  Text.shownRecord "ConnectionValidator" [("system_trust", validator.systemTrust.inspect)] true

end Validator

end ClusterLink
