/-!
# Advisories

Conditions of accepted settings that the operator should know of.
-/

namespace ClusterLink

/-- A condition that does not stop the filter from starting. -/
inductive Advisory where
  | credentialsOverHttp
  | verificationDisabled
  | noCredentials
deriving DecidableEq, Repr

namespace Advisory

def code : Advisory → String
  | credentialsOverHttp => "credentials_over_http"
  | verificationDisabled => "verification_disabled"
  | noCredentials => "no_credentials"

def message : Advisory → String
  | credentialsOverHttp =>
      "Credentials are being sent over unencrypted HTTP. This may bring security risk."
  | verificationDisabled =>
      "`ssl_verification_mode => none` disables verification of the server certificate. " ++
        "This may bring security risk."
  | noCredentials =>
      "No request credentials are configured; the cluster must allow anonymous access."

end Advisory

end ClusterLink
