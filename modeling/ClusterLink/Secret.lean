/-!
# Secrets

A value that is kept out of every output. Whatever is written in its place, `Secret.mask`, says
only that there is a secret.
-/

namespace ClusterLink

structure Secret where
  expose : String
deriving DecidableEq, Inhabited

namespace Secret

def mask : String := "[REDACTED]"

def isEmpty (secret : Secret) : Bool := secret.expose.isEmpty

def text (_ : Secret) : String := mask

def inspect (_ : Secret) : String := "Password(" ++ mask ++ ")"

end Secret

end ClusterLink
