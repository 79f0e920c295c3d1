import ClusterLink.Options.Catalogue
import ClusterLink.Secret
import ClusterLink.SystemPath

/-!
# Options as they are given

The values that an operator gives for the options of a filter. An option that is not given has no
value here: defaults belong to validation. `Options.value?` is the view by key.
-/

namespace ClusterLink

/--
The options that are given, each with its value. Where they are read from a document every path is a
text; a program may give paths that are none.
-/
structure Options (Path : Type := String) where
  id : Option String := none
  hosts : Option (List String) := none
  cloudId : Option String := none
  sslEnabled : Option Bool := none
  sslVerificationMode : Option String := none
  sslCertificate : Option Path := none
  sslKey : Option Path := none
  sslKeyPassphrase : Option Secret := none
  sslKeystorePath : Option Path := none
  sslKeystorePassword : Option Secret := none
  sslTruststorePath : Option Path := none
  sslTruststorePassword : Option Secret := none
  sslCertificateAuthorities : Option (List Path) := none
  username : Option String := none
  password : Option Secret := none
  cloudAuth : Option Secret := none
  apiKey : Option Secret := none
  geoipDatabaseDirectory : Option Path := none
  pipelineName : Option String := none
deriving DecidableEq, Inhabited

inductive OptionValue where
  | text (value : String)
  | flag (value : Bool)
  | secret (value : Secret)
  | texts (values : List String)
deriving DecidableEq

namespace Options

def value? (options : Options) : OptionKey → Option OptionValue
  | .id => options.id.map .text
  | .hosts => options.hosts.map .texts
  | .cloudId => options.cloudId.map .text
  | .sslEnabled => options.sslEnabled.map .flag
  | .sslVerificationMode => options.sslVerificationMode.map .text
  | .sslCertificate => options.sslCertificate.map .text
  | .sslKey => options.sslKey.map .text
  | .sslKeyPassphrase => options.sslKeyPassphrase.map .secret
  | .sslKeystorePath => options.sslKeystorePath.map .text
  | .sslKeystorePassword => options.sslKeystorePassword.map .secret
  | .sslTruststorePath => options.sslTruststorePath.map .text
  | .sslTruststorePassword => options.sslTruststorePassword.map .secret
  | .sslCertificateAuthorities => options.sslCertificateAuthorities.map .texts
  | .username => options.username.map .text
  | .password => options.password.map .secret
  | .cloudAuth => options.cloudAuth.map .secret
  | .apiKey => options.apiKey.map .secret
  | .geoipDatabaseDirectory => options.geoipDatabaseDirectory.map .text
  | .pipelineName => options.pipelineName.map .text

/-- The options with a value given for one of them; a value of another kind gives nothing. -/
def give (options : Options) : OptionKey → OptionValue → Options
  | .id, .text value => { options with id := some value }
  | .hosts, .texts values => { options with hosts := some values }
  | .cloudId, .text value => { options with cloudId := some value }
  | .sslEnabled, .flag value => { options with sslEnabled := some value }
  | .sslVerificationMode, .text value => { options with sslVerificationMode := some value }
  | .sslCertificate, .text value => { options with sslCertificate := some value }
  | .sslKey, .text value => { options with sslKey := some value }
  | .sslKeyPassphrase, .secret value => { options with sslKeyPassphrase := some value }
  | .sslKeystorePath, .text value => { options with sslKeystorePath := some value }
  | .sslKeystorePassword, .secret value => { options with sslKeystorePassword := some value }
  | .sslTruststorePath, .text value => { options with sslTruststorePath := some value }
  | .sslTruststorePassword, .secret value =>
      { options with sslTruststorePassword := some value }
  | .sslCertificateAuthorities, .texts values =>
      { options with sslCertificateAuthorities := some values }
  | .username, .text value => { options with username := some value }
  | .password, .secret value => { options with password := some value }
  | .cloudAuth, .secret value => { options with cloudAuth := some value }
  | .apiKey, .secret value => { options with apiKey := some value }
  | .geoipDatabaseDirectory, .text value => { options with geoipDatabaseDirectory := some value }
  | .pipelineName, .text value => { options with pipelineName := some value }
  | _, _ => options

def gives (options : Options) (key : OptionKey) : Bool := (options.value? key).isSome

def supplied (options : Options) : List String :=
  (OptionKey.byName.filter options.gives).map OptionKey.name

def isSupplied (options : Options) (name : String) : Bool := options.supplied.contains name

def mapPaths {Path Other : Type} (change : Path → Other) (options : Options Path) :
    Options Other :=
  { options with
    sslCertificate := options.sslCertificate.map change
    sslKey := options.sslKey.map change
    sslKeystorePath := options.sslKeystorePath.map change
    sslTruststorePath := options.sslTruststorePath.map change
    sslCertificateAuthorities := options.sslCertificateAuthorities.map (List.map change)
    geoipDatabaseDirectory := options.geoipDatabaseDirectory.map change }

/-- The options with every path as its text, if all of them have one. -/
def texts? (options : Options SystemPath) : Option Options := do
  let sslCertificate ← options.sslCertificate.mapM SystemPath.text?
  let sslKey ← options.sslKey.mapM SystemPath.text?
  let sslKeystorePath ← options.sslKeystorePath.mapM SystemPath.text?
  let sslTruststorePath ← options.sslTruststorePath.mapM SystemPath.text?
  let sslCertificateAuthorities ←
    options.sslCertificateAuthorities.mapM (List.mapM SystemPath.text?)
  let geoipDatabaseDirectory ← options.geoipDatabaseDirectory.mapM SystemPath.text?
  some { options with
    sslCertificate, sslKey, sslKeystorePath, sslTruststorePath, sslCertificateAuthorities,
    geoipDatabaseDirectory }

def entries (options : Options) : List (OptionKey × OptionValue) :=
  OptionKey.all.filterMap fun key => (options.value? key).map fun value => (key, value)

theorem isSupplied_name (options : Options) (key : OptionKey) :
    options.isSupplied key.name = options.gives key := by
  simp only [isSupplied, supplied]
  rw [Bool.eq_iff_iff]
  simp only [List.contains_iff_mem, List.mem_map, List.mem_filter]
  constructor
  · rintro ⟨other, ⟨_, hgives⟩, hname⟩
    rwa [← OptionKey.name_injective hname]
  · intro h
    exact ⟨key, ⟨OptionKey.mem_byName key, h⟩, rfl⟩

end Options

end ClusterLink
