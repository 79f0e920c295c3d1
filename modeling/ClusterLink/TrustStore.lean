import ClusterLink.Environment
import ClusterLink.Tls

/-!
# The trust store of the system

Where the certificates are that the system trusts. The environment may name a file or a directory;
otherwise one of the usual places is taken.
-/

namespace ClusterLink

def wellKnownBundles : List String :=
  ["/etc/ssl/certs/ca-certificates.crt", "/etc/pki/tls/certs/ca-bundle.crt",
    "/etc/ssl/ca-bundle.pem", "/etc/pki/tls/cacert.pem",
    "/etc/pki/ca-trust/extracted/pem/tls-ca-bundle.pem", "/etc/ssl/cert.pem",
    "/usr/local/etc/openssl/cert.pem"]

/-- The trust store of the system: the file or the directory that is named, or a usual place. -/
def SystemTrust.detect (environment : Environment) (isFile isDirectory : String → Bool) :
    SystemTrust :=
  let named := (environment.get? "SSL_CERT_FILE").filter isFile
  let directory := (environment.get? "SSL_CERT_DIR").filter isDirectory
  match named, directory, wellKnownBundles.find? isFile with
  | some path, _, _ => .available path
  | none, some path, _ => .available path
  | none, none, some path => .available path
  | none, none, none => .unavailable

end ClusterLink
