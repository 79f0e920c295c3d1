/-!
# The environment

The environment variables that are set, by name.
-/

namespace ClusterLink

abbrev Environment := List (String × String)

def Environment.get? (environment : Environment) (name : String) : Option String :=
  environment.lookup name

end ClusterLink
