/-!
# Endpoints

The address of one cluster node. Scheme, port and path may be left open until the addresses of a
list are brought into agreement.
-/

namespace ClusterLink

/-- The address of a node; an IPv6 host keeps its brackets. -/
structure Endpoint where
  scheme : Option String
  host : String
  port : Option UInt16
  path : Option String
deriving DecidableEq, Repr, Inhabited

namespace Endpoint

def secureScheme : String := "https"

def plainScheme : String := "http"

def defaultPort : UInt16 := 9200

def defaultPath : String := "/"

def isComplete (endpoint : Endpoint) : Bool :=
  endpoint.scheme.isSome && endpoint.port.isSome && endpoint.path.isSome

def lowerCase (text : List Char) : List Char := text.map Char.toLower

def withScheme (endpoint : Endpoint) (scheme : String) : Endpoint :=
  { endpoint with scheme := some (String.ofList (lowerCase scheme.toList)) }

def withPort (endpoint : Endpoint) (port : UInt16) : Endpoint :=
  { endpoint with port := some port }

def withPath (endpoint : Endpoint) (path : String) : Endpoint :=
  { endpoint with path := some path }

def chars (endpoint : Endpoint) : List Char :=
  (match endpoint.scheme with
    | some scheme => scheme.toList ++ [':', '/', '/']
    | none => []) ++
  endpoint.host.toList ++
  (match endpoint.port with
    | some port => ':' :: Nat.toDigits 10 port.toNat
    | none => []) ++
  (match endpoint.path with
    | some path => path.toList
    | none => [])

def text (endpoint : Endpoint) : String := String.ofList endpoint.chars

end Endpoint

end ClusterLink
