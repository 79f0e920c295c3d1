import ClusterLink.Proofs.Options
import ClusterLink.Proofs.Secrecy.Reports
import ClusterLink.Proofs.Validation.Acceptance
import ClusterLink.Proofs.Violation.Truth

/-!
# Secrets decide nothing that is seen

Options that differ in nothing but what their secrets are have the same masked form, and all that
can be seen of a validation can be seen of the masked one. So they leave the same trail, they are
refused for the same reason or give connections that look the same, and commands say the same.
-/

namespace ClusterLink

variable {options other : Options} {random otherRandom : Uuid} {validator : Validator}
  {connection otherConnection : Connection} {value otherValue : Option Secret}

/-! ## Options that differ in their secrets -/

/--
Credentials of a managed cluster that differ in nothing but their password: neither has a colon, or
the same stands before the first colon of both, and nothing after it in both or in neither.
-/
inductive CloudAuth.SameButPassword : Secret → Secret → Prop
  | unread {first second : Secret} (hfirst : ':' ∉ first.expose.toList)
      (hsecond : ':' ∉ second.expose.toList) : SameButPassword first second
  | read {first second : Secret} {username password otherPassword : List Char}
      (hfree : ':' ∉ username) (hfirst : first.expose.toList = username ++ ':' :: password)
      (hsecond : second.expose.toList = username ++ ':' :: otherPassword)
      (hempty : password = [] ↔ otherPassword = []) : SameButPassword first second

/-- Options that differ in nothing but what their secrets are. -/
structure Options.SameButSecrets (options other : Options) : Prop where
  plain : ∀ key : OptionKey, key.spec.secret = false → options.value? key = other.value? key
  given : ∀ key : OptionKey, key.spec.secret = true → options.gives key = other.gives key
  empty : ∀ key : OptionKey, key.spec.secret = true → ∀ value ∈ options.value? key,
    ∀ otherValue ∈ other.value? key, value.IsEmpty ↔ otherValue.IsEmpty
  cloudAuth : ∀ value ∈ options.cloudAuth, ∀ otherValue ∈ other.cloudAuth,
    CloudAuth.SameButPassword value otherValue

theorem CloudAuth.SameButPassword.masked_eq {first second : Secret}
    (h : SameButPassword first second) (hempty : first.isEmpty = second.isEmpty) :
    first.maskedAfterColon = second.maskedAfterColon := by
  cases h with
  | unread hfirst hsecond =>
      rw [Secret.maskedAfterColon_of_free hfirst, Secret.maskedAfterColon_of_free hsecond,
        Secret.masked_eq_masked hempty]
  | @read username password otherPassword hfree hfirst hsecond hpasswords =>
      have hmasked : Secret.masked ⟨String.ofList password⟩ =
          Secret.masked ⟨String.ofList otherPassword⟩ := by
        refine Secret.masked_eq_masked ?_
        rw [Secret.isEmpty_eq_toList, Secret.isEmpty_eq_toList, Bool.eq_iff_iff]
        simpa using hpasswords
      rw [Secret.maskedAfterColon_of_split hfree hfirst,
        Secret.maskedAfterColon_of_split hfree hsecond, hmasked]

namespace Options.SameButSecrets

/-- A mask that sees no difference between the values of a secret option hides them. -/
theorem map_mask_eq (h : options.SameButSecrets other) {key : OptionKey} {mask : Secret → Secret}
    (hsecret : key.spec.secret = true) (hvalue : options.value? key = value.map .secret)
    (hother : other.value? key = otherValue.map .secret)
    (hmask : ∀ first ∈ value, ∀ second ∈ otherValue, first.isEmpty = second.isEmpty →
      mask first = mask second) : value.map mask = otherValue.map mask := by
  have hgiven := h.given key hsecret
  have hempty := h.empty key hsecret
  rw [Options.gives, Options.gives, hvalue, hother] at hgiven
  rw [hvalue, hother] at hempty
  cases value with
  | none =>
      cases otherValue with
      | none => rfl
      | some second => cases hgiven
  | some first =>
      cases otherValue with
      | none => cases hgiven
      | some second =>
          have hboth := hempty _ rfl _ rfl
          rw [OptionValue.isEmpty_secret, OptionValue.isEmpty_secret, ← Bool.eq_iff_iff] at hboth
          exact congrArg some (hmask first rfl second rfl hboth)

theorem masked_eq (h : options.SameButSecrets other) : options.masked = other.masked := by
  refine Options.ext_value? fun key => ?_
  have hplain : key.spec.secret = false → options.masked.value? key = other.masked.value? key := by
    intro hkey
    rw [options.value?_masked hkey, other.value?_masked hkey, h.plain key hkey]
  have hmasked : ∀ value otherValue : Option Secret, key.spec.secret = true →
      options.value? key = value.map .secret → other.value? key = otherValue.map .secret →
        (value.map Secret.masked).map OptionValue.secret =
          (otherValue.map Secret.masked).map OptionValue.secret := by
    intro value otherValue hsecret hvalue hother
    rw [h.map_mask_eq hsecret hvalue hother fun _ _ _ _ hempty => Secret.masked_eq_masked hempty]
  cases key with
  | sslKeyPassphrase => exact hmasked _ _ rfl rfl rfl
  | sslKeystorePassword => exact hmasked _ _ rfl rfl rfl
  | sslTruststorePassword => exact hmasked _ _ rfl rfl rfl
  | password => exact hmasked _ _ rfl rfl rfl
  | apiKey => exact hmasked _ _ rfl rfl rfl
  | cloudAuth =>
      have hcloudAuth : options.cloudAuth.map Secret.maskedAfterColon =
          other.cloudAuth.map Secret.maskedAfterColon :=
        @map_mask_eq _ _ _ _ h .cloudAuth _ rfl rfl rfl fun first hfirst second hsecond =>
          (h.cloudAuth first hfirst second hsecond).masked_eq
      exact congrArg (Option.map OptionValue.secret) hcloudAuth
  | _ => exact hplain rfl

end Options.SameButSecrets

/-! ## What is seen -/

/-- Connections that look the same, however they are written or shown. -/
structure Connection.LooksLike (connection other : Connection) : Prop where
  json_eq : (Datum.record connection.members).writeLine = (Datum.record other.members).writeLine
  json_lines_eq : (Datum.record connection.members).write = (Datum.record other.members).write
  toml_eq : ∀ layout, Toml.write layout connection.members = Toml.write layout other.members
  inspect_eq : connection.inspect = other.inspect

/-- The same violation, or connections that look the same, with the same advisories. -/
inductive Validated.OutcomesAlike :
    Except Violation Validated → Except Violation Validated → Prop
  | refused (violation : Violation) : OutcomesAlike (.error violation) (.error violation)
  | accepted {connection other : Connection} (advisories : List Advisory)
      (h : connection.LooksLike other) :
      OutcomesAlike (.ok ⟨connection, advisories⟩) (.ok ⟨other, advisories⟩)

theorem Connection.looksLike_of_masked_eq (h : connection.masked = otherConnection.masked) :
    connection.LooksLike otherConnection := by
  have hmembers : connection.members = otherConnection.members := by
    rw [← members_masked, h, members_masked]
  have hinspect : connection.inspect = otherConnection.inspect := by
    rw [← inspect_masked, h, inspect_masked]
  exact ⟨by rw [hmembers], by rw [hmembers], fun layout => by rw [hmembers], hinspect⟩

theorem Validated.outcomesAlike_of_masked_eq {first second : Except Violation Validated}
    (h : masked <$> first = masked <$> second) : OutcomesAlike first second := by
  cases first with
  | error violation =>
      cases second with
      | error fault =>
          cases h
          exact .refused violation
      | ok validated => cases h
  | ok validated =>
      cases second with
      | error fault => cases h
      | ok found =>
          obtain ⟨connection, advisories⟩ := validated
          obtain ⟨otherConnection, others⟩ := found
          have hmasked := Except.ok.inj h
          have hadvisories : advisories = others := congrArg Validated.advisories hmasked
          subst hadvisories
          exact .accepted advisories
            (Connection.looksLike_of_masked_eq (congrArg Validated.connection hmasked))

/--
Where two options differ in nothing but what their secrets are, validation leaves the same trail, and
so asks the same about files and logs the same, and its outcomes look the same. The program prints
and logs the same and ends in the same way, whatever it is asked to do.
-/
theorem validate_sameButSecrets (validator : Validator) (hsame : options.SameButSecrets other)
    (hid : options.id.isSome = true) (random otherRandom : Uuid) :
    (validator.validate random options).trail = (validator.validate otherRandom other).trail ∧
      Validated.OutcomesAlike (validator.validate random options).outcome
        (validator.validate otherRandom other).outcome ∧
      ∀ environment arguments general,
        CommandLine.run environment validator random arguments (.ok ⟨general, options⟩) =
          CommandLine.run environment validator otherRandom arguments (.ok ⟨general, other⟩) := by
  have hmasked : Validated.masked <$> validator.validate random options =
      Validated.masked <$> validator.validate otherRandom other := by
    rw [Validator.validate_of_named hid random otherRandom, ← Validator.validate_masked,
      ← Validator.validate_masked, hsame.masked_eq]
  rw [Traced.map_eq, Traced.map_eq, Traced.mk.injEq] at hmasked
  refine ⟨hmasked.1, Validated.outcomesAlike_of_masked_eq hmasked.2, ?_⟩
  intro environment arguments general
  calc CommandLine.run environment validator random arguments (.ok ⟨general, options⟩)
      = CommandLine.run environment validator otherRandom arguments (.ok ⟨general, options⟩) :=
        CommandLine.run_of_named general environment arguments hid random otherRandom
    _ = CommandLine.run environment validator otherRandom arguments (.ok ⟨general, other.masked⟩) := by
        rw [← hsame.masked_eq, CommandLine.run_masked]
    _ = CommandLine.run environment validator otherRandom arguments (.ok ⟨general, other⟩) :=
        CommandLine.run_masked general environment arguments otherRandom

def Options.lockedTrust (trustPassword cloudAuth : String) : Options where
  id := some "filter"
  cloudId := some "cluster"
  sslTruststorePath := some "/tls/trust.p12"
  sslTruststorePassword := some ⟨trustPassword⟩
  cloudAuth := some ⟨cloudAuth⟩

def Connection.lockedTrust (trustPassword password : String) : Connection where
  id := "filter"
  target := .cloudId "cluster"
  tls := .enabled .full none (.truststore "/tls/trust.p12" ⟨trustPassword⟩)
  credentials := .cloudAuth ⟨"elastic", ⟨password⟩⟩

theorem validate_lockedTrust :
    (Validator.validate ⟨.sealing, .unavailable⟩ ⟨[]⟩ (.lockedTrust "one" "elastic:first")).outcome =
        .ok ⟨.lockedTrust "one" "first", []⟩ ∧
      (Validator.validate ⟨.sealing, .unavailable⟩ ⟨[1]⟩
        (.lockedTrust "another" "elastic:second:third")).outcome =
          .ok ⟨.lockedTrust "another" "second:third", []⟩ ∧
      (Connection.lockedTrust "one" "first").LooksLike (.lockedTrust "another" "second:third") := by
  have hfirst : (Validator.validate ⟨.sealing, .unavailable⟩ ⟨[]⟩
      (.lockedTrust "one" "elastic:first")).outcome = .ok ⟨.lockedTrust "one" "first", []⟩ := by
    decide +kernel
  have hsecond : (Validator.validate ⟨.sealing, .unavailable⟩ ⟨[1]⟩
      (.lockedTrust "another" "elastic:second:third")).outcome =
        .ok ⟨.lockedTrust "another" "second:third", []⟩ := by
    decide +kernel
  have hsame : (Options.lockedTrust "one" "elastic:first").SameButSecrets
      (.lockedTrust "another" "elastic:second:third") := by
    constructor
    · intro key hplain
      cases key <;> first | rfl | exact absurd hplain (by decide)
    · intro key _
      cases key <;> rfl
    · rintro key hsecret value hvalue otherValue hother
      cases key <;> cases hvalue <;> cases hother <;> simp [OptionValue.IsEmpty] at hsecret ⊢
    · intro value hvalue otherValue hother
      cases hvalue
      cases hother
      exact @CloudAuth.SameButPassword.read _ _ "elastic".toList "first".toList
        "second:third".toList (by decide) (by decide) (by decide) (by decide)
  obtain ⟨-, hlike, -⟩ :=
    validate_sameButSecrets ⟨.sealing, .unavailable⟩ hsame rfl ⟨[]⟩ ⟨[1]⟩
  rw [hfirst, hsecond] at hlike
  cases hlike with
  | accepted advisories h => exact ⟨hfirst, hsecond, h⟩

end ClusterLink
