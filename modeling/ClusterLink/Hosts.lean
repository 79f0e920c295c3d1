import ClusterLink.Target

/-!
# Agreement of hosts

Whether TLS is used, if it is not said, follows from the schemes of the hosts. Once it is known,
every host gets the scheme, the port and the path that it leaves open, and all have to agree in
scheme and path.
-/

namespace ClusterLink

/-- The scheme of connections with or without TLS. -/
def schemeFor (tlsEnabled : Bool) : String :=
  if tlsEnabled then Endpoint.secureScheme else Endpoint.plainScheme

/--
Whether a target uses TLS: a managed cluster does; hosts do if none has a scheme or all have the
secure one, and do not if all have the plain one.
-/
def Target.inferTls : Target → Except Violation Bool
  | .cloudId _ => .ok true
  | .hosts endpoints =>
      if endpoints.all fun endpoint => endpoint.scheme.isNone then .ok true
      else if endpoints.all fun endpoint => endpoint.scheme == some Endpoint.secureScheme then
        .ok true
      else if endpoints.all fun endpoint => endpoint.scheme == some Endpoint.plainScheme then
        .ok false
      else .error .mixedProtocols

namespace Endpoint

def pathOrRoot (endpoint : Endpoint) : String :=
  match endpoint.path with
  | some path => if path.isEmpty then defaultPath else path
  | none => defaultPath

def filled (endpoint : Endpoint) : Endpoint :=
  { endpoint with
    port := some (endpoint.port.getD defaultPort)
    path := some endpoint.pathOrRoot }

def agree (path : String) (tlsEnabled : Bool) (endpoint : Endpoint) :
    Except Violation Endpoint :=
  if endpoint.pathOrRoot ≠ path then .error .pathMismatch
  else
    match endpoint.scheme with
    | none => .ok (endpoint.filled.withScheme (schemeFor tlsEnabled))
    | some scheme =>
        if scheme = schemeFor tlsEnabled then .ok endpoint.filled
        else .error (.schemeMismatch (schemeFor tlsEnabled) tlsEnabled)

end Endpoint

/--
The endpoints in agreement, in the order given; the path of the first one counts. Nothing can be
done before the use of TLS is known.
-/
def normalizeHosts (endpoints : List Endpoint) (tlsEnabled : Option Bool) :
    Except Violation (List Endpoint) :=
  match endpoints, tlsEnabled with
  | [], _ => .ok []
  | _ :: _, none => .error .prematureNormalization
  | first :: rest, some tlsEnabled =>
      (first :: rest).mapM (Endpoint.agree first.pathOrRoot tlsEnabled)

end ClusterLink
