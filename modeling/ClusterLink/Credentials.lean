import ClusterLink.Advisory
import ClusterLink.Datum
import ClusterLink.Options.Basic
import ClusterLink.Text.Base64
import ClusterLink.Text.Quoted
import ClusterLink.Text.Split
import ClusterLink.Violation

/-!
# Credentials

How requests are authenticated: not at all, by a user name and a password, by an API key, or by
the credentials of a managed cluster. At most one of these may be given, and it has to be complete.
-/

namespace ClusterLink

/-- An API key: either `id:key`, or what these two are in base64. -/
structure ApiKey where
  value : Secret
deriving DecidableEq, Inhabited

namespace ApiKey

/-- Whether a text consists of exactly one colon with text on both sides. -/
def isIdAndKey (text : List Char) : Bool :=
  match Text.splitFirst [':'] text with
  | some (id, key) => !id.isEmpty && !key.isEmpty && !key.contains ':'
  | none => false

/-- The value of the authorization header; an `id:key` is encoded first. -/
def authorization (key : ApiKey) : Secret :=
  let raw := key.value.expose
  ⟨"ApiKey " ++ if isIdAndKey raw.toList then Text.Base64.ofString raw else raw⟩

end ApiKey

structure CloudAuth where
  username : String
  password : Secret
deriving DecidableEq, Inhabited

namespace CloudAuth

/-- Reads a user name, a colon and a password, neither of them empty. -/
def read (value : Secret) : Except Violation CloudAuth :=
  match Text.splitFirst [':'] value.expose.toList with
  | some (username, password) =>
      if username.isEmpty || password.isEmpty then .error .invalidCloudAuth
      else .ok ⟨String.ofList username, ⟨String.ofList password⟩⟩
  | none => .error .invalidCloudAuth

end CloudAuth

/-- How requests are authenticated. -/
inductive Credentials where
  | none
  | basic (username : String) (password : Secret)
  | apiKey (key : ApiKey)
  | cloudAuth (credentials : CloudAuth)
deriving DecidableEq, Inhabited

namespace Credentials

def isConfigured : Credentials → Bool
  | none => false
  | _ => true

def description? : Credentials → Option String
  | none => Option.none
  | basic _ _ => some "`username` and `password`"
  | apiKey _ => some "`api_key`"
  | cloudAuth _ => some "`cloud_auth`"

/-- The ways of authentication that options name, each by one option that is given. -/
def mechanisms (options : Options) : List String :=
  (if options.isSupplied "username" then ["username"]
    else if options.isSupplied "password" then ["password"]
    else []) ++
  (if options.isSupplied "api_key" then ["api_key"] else []) ++
  (if options.isSupplied "cloud_auth" then ["cloud_auth"] else [])

/-- The names that are given tell the same as the values. -/
theorem mechanisms_eq (options : Options) :
    mechanisms options =
      (if options.username.isSome then ["username"]
        else if options.password.isSome then ["password"]
        else []) ++
      (if options.apiKey.isSome then ["api_key"] else []) ++
      (if options.cloudAuth.isSome then ["cloud_auth"] else []) := by
  have husername : options.isSupplied "username" = options.gives .username :=
    options.isSupplied_name .username
  have hpassword : options.isSupplied "password" = options.gives .password :=
    options.isSupplied_name .password
  have hapiKey : options.isSupplied "api_key" = options.gives .apiKey :=
    options.isSupplied_name .apiKey
  have hcloudAuth : options.isSupplied "cloud_auth" = options.gives .cloudAuth :=
    options.isSupplied_name .cloudAuth
  simp [mechanisms, husername, hpassword, hapiKey, hcloudAuth, Options.gives, Options.value?]

def readBasic (username : String) (password : Secret) : Except Violation Credentials :=
  if username.isEmpty || password.isEmpty then .error .emptyBasicCredential
  else .ok (basic username password)

def readApiKey (value : Secret) : Except Violation Credentials :=
  if value.isEmpty then .error (.emptyCredential "api_key") else .ok (apiKey ⟨value⟩)

def readCloudAuth (value : Secret) : Except Violation Credentials :=
  if value.isEmpty then .error (.emptyCredential "cloud_auth")
  else cloudAuth <$> CloudAuth.read value

def ofOptions (options : Options) : Except Violation Credentials :=
  if (mechanisms options).length > 1 then
    .error (.multipleAuthMechanisms (mechanisms options))
  else
    match options.username, options.password, options.apiKey, options.cloudAuth with
    | some _, .none, _, _ => .error (.missingCompanion "username" "password")
    | .none, some _, _, _ => .error (.orphanOption "password" "username")
    | some username, some password, _, _ => readBasic username password
    | .none, .none, some key, _ => readApiKey key
    | .none, .none, .none, some value => readCloudAuth value
    | .none, .none, .none, .none => .ok none

def advisories (credentials : Credentials) (tlsEnabled : Bool) : List Advisory :=
  match credentials.isConfigured, tlsEnabled with
  | true, false => [.credentialsOverHttp]
  | false, true => [.noCredentials]
  | _, _ => []

def members : Credentials → List (String × Datum)
  | none => [("type", .text "none")]
  | basic username password =>
      [("type", .text "basic"), ("username", .text username),
        ("password", .text password.text)]
  | apiKey key => [("type", .text "api_key"), ("value", .text key.value.text)]
  | cloudAuth credentials =>
      [("type", .text "cloud_auth"), ("username", .text credentials.username),
        ("password", .text credentials.password.text)]

def inspect : Credentials → String
  | none => "None"
  | basic username password =>
      Text.shownRecord "Basic"
        [("username", Text.quoted username), ("password", password.inspect)] false
  | apiKey key =>
      Text.shownCall "ApiKey"
        [Text.shownRecord "ApiKey" [("value", key.value.inspect)] false]
  | cloudAuth credentials =>
      Text.shownCall "CloudAuth"
        [Text.shownRecord "CloudAuth"
          [("username", Text.quoted credentials.username),
            ("password", credentials.password.inspect)] false]

end Credentials

end ClusterLink
