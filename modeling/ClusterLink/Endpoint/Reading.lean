import ClusterLink.Endpoint.Basic
import ClusterLink.Endpoint.IPv6
import ClusterLink.Endpoint.Path
import ClusterLink.Text.Blank

/-!
# Reading endpoints

Accepted are `host`, `host:port`, `scheme://host[:port][/path]` and `//host[:port][/path]`, where
the host is an opaque name or an IPv6 literal in brackets. User info, a query and a fragment are
refused. Tabs and line breaks count for nothing, and neither do spaces and control characters at
the end.
-/

namespace ClusterLink.Endpoint

open Text

inductive Fault where
  | blank
  | malformedScheme
  | emptyHost
  | invalidPort
  | invalidAddress
  | invalidCharacter
  | userInfo
  | query
  | fragment
  | missingHost
deriving DecidableEq, Repr

def Fault.reason : Fault → String
  | .blank => "host must not be empty"
  | .malformedScheme => "scheme is malformed"
  | .emptyHost => "empty host"
  | .invalidPort => "invalid port number"
  | .invalidAddress => "invalid IPv6 address"
  | .invalidCharacter => "invalid domain character"
  | .userInfo => "user info is not allowed; use `username`/`password`"
  | .query => "query is not allowed"
  | .fragment => "fragment is not allowed"
  | .missingHost => "host is missing"

/-- A scheme is a letter followed by letters, digits, `+`, `-` and `.`. -/
def isScheme : List Char → Bool
  | [] => false
  | c :: rest =>
      c.isAlpha && rest.all fun d => d.isAlphanum || d == '+' || d == '-' || d == '.'

def splitScheme (text : List Char) : Except Fault (Option (List Char) × List Char) :=
  match splitFirst [':', '/', '/'] text with
  | some (scheme, rest) =>
      if isScheme scheme then .ok (some (lowerCase scheme), rest) else .error .malformedScheme
  | none => .ok (none, (dropLead? ['/', '/'] text).getD text)

/-- Characters that count for nothing wherever they stand. -/
def isSkipped (c : Char) : Bool := c == '\t' || c == '\n' || c == '\r'

/-- The text without skipped characters and without spaces and controls at its end. -/
def tidy (text : List Char) : List Char :=
  ((text.reverse.dropWhile fun c => c.toNat ≤ 0x20).reverse).filter fun c => !isSkipped c

def endsAuthority (c : Char) : Bool := c == '/' || c == '?' || c == '#'

/-- The host, and what follows it from the first colon outside brackets on. -/
def splitHost : Bool → List Char → List Char × List Char
  | _, [] => ([], [])
  | inside, c :: rest =>
      if c == ':' && !inside then ([], c :: rest)
      else
        let tail := splitHost (if c == '[' then true else if c == ']' then false else inside) rest
        (c :: tail.1, tail.2)

def isForbiddenInHost (c : Char) : Bool :=
  ['\x00', '\t', '\n', '\r', ' ', '#', '/', ':', '<', '>', '?', '@', '[', '\\', ']', '^',
    '|'].contains c

/-- The host as it is kept: an address in compressed notation, or a name in visible ASCII. -/
def readHost : List Char → Except Fault (List Char)
  | '[' :: rest =>
      match rest.reverse with
      | ']' :: body =>
          match IPv6.read? body.reverse with
          | some groups => .ok ('[' :: IPv6.write groups ++ [']'])
          | none => .error .invalidAddress
      | _ => .error .invalidAddress
  | host =>
      if host.any isForbiddenInHost then .error .invalidCharacter
      else .ok (percentEncode isVisibleAscii host)

/--
The port, and the text after it, where the authority goes on with `text`. Only a backslash may
follow the digits; without digits no port is given.
-/
def readPort (text : List Char) : Except Fault (Option UInt16 × List Char) :=
  let digits := text.takeWhile Char.isDigit
  let rest := text.dropWhile Char.isDigit
  if rest.head?.any (· != '\\') then .error .invalidPort
  else if digits.isEmpty then .ok (none, rest)
  else
    let value := Nat.ofDigitChars 10 digits 0
    if value ≤ 65535 then .ok (some (UInt16.ofNat value), rest) else .error .invalidPort

/-- What the text before the last `@` amounts to: a lone colon holds no credential. -/
def holdsCredential (userInfo : List Char) : Bool :=
  !userInfo.isEmpty && userInfo != [':']

/-- Host, port and the text that the path is read from, of a text without scheme. -/
structure Location where
  host : List Char
  port : Option UInt16
  path : List Char
  credential : Bool
deriving DecidableEq, Repr

def locate (text : List Char) : Except Fault Location :=
  let authority := text.takeWhile fun c => !endsAuthority c
  let tail := text.dropWhile fun c => !endsAuthority c
  let userInfo := (splitLast '@' authority).map (·.1)
  let place := ((splitLast '@' authority).map (·.2)).getD authority
  if userInfo = some [] ∧ place.isEmpty ∧ !tail.isEmpty then .error .emptyHost
  else
    let credential := userInfo.any holdsCredential
    let parts := splitHost false place
    match readHost parts.1 with
    | .error fault => .error fault
    | .ok host =>
        match parts.2 with
        | ':' :: port =>
            if host.isEmpty then .error .emptyHost
            else
              match readPort port with
              | .error fault => .error fault
              | .ok (port, rest) => .ok ⟨host, port, rest ++ tail, credential⟩
        | rest =>
            if host.isEmpty && credential then .error .emptyHost
            else .ok ⟨host, none, rest ++ tail, credential⟩

def ofChars (text : List Char) : Except Fault Endpoint :=
  if isBlankText text then .error .blank
  else
    match splitScheme text with
    | .error fault => .error fault
    | .ok (scheme, rest) =>
        match locate (tidy rest) with
        | .error fault => .error fault
        | .ok location =>
            let open? := location.path.find? fun c => c == '?' || c == '#'
            if location.credential then .error .userInfo
            else if open? = some '?' then .error .query
            else if open? = some '#' then .error .fragment
            else if location.host.isEmpty then .error .missingHost
            else .ok {
              scheme := scheme.map String.ofList
              host := String.ofList location.host
              port := location.port
              path := (Path.read? location.path).map String.ofList }

def read (text : String) : Except Fault Endpoint := ofChars text.toList

end ClusterLink.Endpoint
