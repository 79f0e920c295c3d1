import ClusterLink.Filter.Lifecycle

/-!
# Calls of a start

Which calls a start makes, in their order, and what the filter holds after them. A start goes as
far as its collaborators let it; every way for it to end is one case.
-/

namespace ClusterLink

/-- The calls among effects, in their order. -/
def callsOf (effects : List Effect) : List Call := effects.filterMap Effect.call?

@[simp] theorem callsOf_nil : callsOf [] = [] := rfl

@[simp] theorem callsOf_append (effects others : List Effect) :
    callsOf (effects ++ others) = callsOf effects ++ callsOf others :=
  List.filterMap_append

@[simp] theorem callsOf_called (call : Call) (effects : List Effect) :
    callsOf (.called call :: effects) = call :: callsOf effects := rfl

@[simp] theorem callsOf_counted (counter : Counter) (amount : Nat) (effects : List Effect) :
    callsOf (.counted counter amount :: effects) = callsOf effects := rfl

@[simp] theorem callsOf_record (level : LogLevel) (message : String)
    (fields : List (String × Datum)) (effects : List Effect) :
    callsOf (Filter.record level message fields :: effects) = callsOf effects := rfl

@[simp] theorem callsOf_validation (trail : List Occurrence) :
    callsOf (trail.map Effect.validation) = [] := by
  induction trail with
  | nil => rfl
  | cons occurrence rest ih => exact ih

@[simp] theorem callsOf_counts (advisories : List Advisory) :
    callsOf (advisories.map fun advisory => .counted (.advisories advisory) 1) = [] := by
  induction advisories with
  | nil => rfl
  | cons advisory rest ih => exact ih

@[simp] theorem callsOf_geoipRecord (source : GeoipSource) (effects : List Effect) :
    callsOf (Filter.geoipRecord source :: effects) = callsOf effects := by
  cases source <;> rfl

namespace Start

variable {α β : Type} {first : Start α} {next : α → Start β} {filter after : Filter}
  {effects : List Effect} {failure : Stage × FilterFault}

theorem bind_of_ok {a : α} (h : first filter = ⟨after, effects, .ok a⟩) :
    (first >>= next) filter =
      ⟨(next a after).filter, effects ++ (next a after).effects, (next a after).result⟩ := by
  show first.andThen next filter = _
  rw [andThen, h]

theorem bind_of_error (h : first filter = ⟨after, effects, .error failure⟩) :
    (first >>= next) filter = ⟨after, effects, .error failure⟩ := by
  show first.andThen next filter = _
  rw [andThen, h]

theorem givingUp_of_ok {client : Nat} {a : α} (h : first filter = ⟨after, effects, .ok a⟩) :
    givingUp client first filter = ⟨after, effects, .ok a⟩ := by
  rw [givingUp, h]

theorem givingUp_of_error {client : Nat} (h : first filter = ⟨after, effects, .error failure⟩) :
    givingUp client first filter =
      ⟨after, effects ++ [.called (.releaseClient client)], .error failure⟩ := by
  rw [givingUp, h]

theorem emit_eq (effects : List Effect) (filter : Filter) :
    emit effects filter = ⟨filter, effects, .ok ()⟩ := rfl

end Start

/-! ## Opening a client -/

def ClientOptions.plain : ClientOptions := ⟨"elastic-integration/0.1.0", none⟩

def ClientOptions.pinned : ClientOptions := ⟨"elastic-integration/0.1.0", some "2023-10-31"⟩

theorem ClientOptions.default_eq_plain : ({} : ClientOptions) = .plain := rfl

theorem ClientOptions.withApiVersion_eq_pinned :
    ClientOptions.plain.withApiVersion pinnedApiVersion = .pinned := rfl

/-- The calls that open a client, the first of them with this number, and what comes of them. -/
inductive Opening (collaborators : Collaborators) (connection : Connection) (number : Nat) :
    List Call → Except (Stage × FilterFault) Nat → Prop
  | unbuilt {fault : ClientFault}
      (hbuild : collaborators.buildClient number connection .plain = .error fault) :
      Opening collaborators connection number [.buildClient number connection .plain]
        (.error (.client, .client fault))
  | unanswered {fault : PreflightFault}
      (hbuild : collaborators.buildClient number connection .plain = .ok ())
      (hasked : collaborators.isServerless number = .error fault) :
      Opening collaborators connection number
        [.buildClient number connection .plain, .isServerless number, .releaseClient number]
        (.error (.client, .preflight fault))
  | plain (hbuild : collaborators.buildClient number connection .plain = .ok ())
      (hasked : collaborators.isServerless number = .ok false) :
      Opening collaborators connection number
        [.buildClient number connection .plain, .isServerless number] (.ok number)
  | unpinned {fault : ClientFault}
      (hbuild : collaborators.buildClient number connection .plain = .ok ())
      (hasked : collaborators.isServerless number = .ok true)
      (hpinned : collaborators.buildClient (number + 1) connection .pinned = .error fault) :
      Opening collaborators connection number
        [.buildClient number connection .plain, .isServerless number,
          .buildClient (number + 1) connection .pinned, .releaseClient number]
        (.error (.client, .client fault))
  | pinned (hbuild : collaborators.buildClient number connection .plain = .ok ())
      (hasked : collaborators.isServerless number = .ok true)
      (hpinned : collaborators.buildClient (number + 1) connection .pinned = .ok ()) :
      Opening collaborators connection number
        [.buildClient number connection .plain, .isServerless number,
          .buildClient (number + 1) connection .pinned, .releaseClient number] (.ok (number + 1))

namespace Filter

variable {collaborators : Collaborators} {connection : Connection} {filter : Filter}

/-- An opened client is held; nothing else changes but the number of attempts. -/
def opened (filter : Filter) (attempts : Nat) : Except (Stage × FilterFault) Nat → Filter
  | .ok client => { filter with attempts := attempts, client := some client }
  | .error _ => { filter with attempts := attempts }

theorem buildClient_of_ok {options : ClientOptions}
    (h : collaborators.buildClient filter.attempts connection options = .ok ()) :
    buildClient collaborators connection options filter =
      ⟨{ filter with attempts := filter.attempts + 1 },
        [.called (.buildClient filter.attempts connection options)], .ok filter.attempts⟩ := by
  rw [buildClient, h]
  rfl

theorem buildClient_of_error {options : ClientOptions} {fault : ClientFault}
    (h : collaborators.buildClient filter.attempts connection options = .error fault) :
    buildClient collaborators connection options filter =
      ⟨{ filter with attempts := filter.attempts + 1 },
        [.called (.buildClient filter.attempts connection options)],
        .error (.client, .client fault)⟩ := by
  rw [buildClient, h]
  rfl

theorem askServerless_of_ok {client : Nat} {serverless : Bool}
    (h : collaborators.isServerless client = .ok serverless) :
    askServerless collaborators client filter =
      ⟨filter, [.called (.isServerless client)], .ok serverless⟩ := by
  rw [askServerless, h]
  rfl

theorem askServerless_of_error {client : Nat} {fault : PreflightFault}
    (h : collaborators.isServerless client = .error fault) :
    askServerless collaborators client filter =
      ⟨filter, [.called (.isServerless client)], .error (.client, .preflight fault)⟩ := by
  rw [askServerless, h]
  rfl

theorem openClient_spec (collaborators : Collaborators) (connection : Connection)
    (filter : Filter) :
    ∃ effects attempts result,
      openClient collaborators connection filter =
          ⟨filter.opened attempts result, effects, result⟩ ∧
        Opening collaborators connection filter.attempts (callsOf effects) result := by
  unfold openClient
  rw [ClientOptions.default_eq_plain, ClientOptions.withApiVersion_eq_pinned]
  cases hbuild : collaborators.buildClient filter.attempts connection .plain with
  | error fault =>
      rw [Start.bind_of_error (buildClient_of_error hbuild)]
      exact ⟨_, filter.attempts + 1, .error _, rfl, .unbuilt hbuild⟩
  | ok =>
      rw [Start.bind_of_ok (buildClient_of_ok hbuild)]
      cases hasked : collaborators.isServerless filter.attempts with
      | error fault =>
          rw [Start.bind_of_error (Start.givingUp_of_error (askServerless_of_error hasked))]
          exact ⟨_, filter.attempts + 1, .error _, rfl, .unanswered hbuild hasked⟩
      | ok serverless =>
          rw [Start.bind_of_ok (Start.givingUp_of_ok (askServerless_of_ok hasked))]
          cases serverless with
          | false => exact ⟨_, filter.attempts + 1, .ok _, rfl, .plain hbuild hasked⟩
          | true =>
              simp only [↓reduceIte]
              rw [Start.bind_of_ok (Start.emit_eq _ _)]
              cases hpinned :
                  collaborators.buildClient (filter.attempts + 1) connection .pinned with
              | error fault =>
                  rw [Start.bind_of_error
                    (Start.givingUp_of_error (buildClient_of_error hpinned))]
                  exact ⟨_, filter.attempts + 2, .error _, rfl, .unpinned hbuild hasked hpinned⟩
              | ok =>
                  rw [Start.bind_of_ok (Start.givingUp_of_ok (buildClient_of_ok hpinned))]
                  exact ⟨_, filter.attempts + 2, .ok _, rfl, .pinned hbuild hasked hpinned⟩

end Filter

/-! ## All of a start -/

/-- The user has the privileges, or security is off and no credentials would be sent. -/
def Collaborators.Grants (collaborators : Collaborators) (client : Nat)
    (connection : Connection) : Prop :=
  collaborators.checkPrivileges client = .ok () ∨
    (∃ detail, collaborators.checkPrivileges client = .error (.securityDisabled detail)) ∧
      connection.credentials = .none

/-- Why the check of privileges ends a start: security that is off counts only with credentials. -/
def Collaborators.privilegeFault? (collaborators : Collaborators) (client : Nat)
    (connection : Connection) : Option FilterFault :=
  match collaborators.checkPrivileges client with
  | .ok () => none
  | .error (.securityDisabled detail) =>
      let fault (credentials : String) := FilterFault.securityDisabledWithCredentials credentials
        ("no handler found for uri [/_security/user/_has_privileges]: " ++ detail)
      match connection.credentials with
      | .none => none
      | .basic _ _ => some (fault "`username` and `password`")
      | .apiKey _ => some (fault "`api_key`")
      | .cloudAuth _ => some (fault "`cloud_auth`")
  | .error fault => some (.preflight fault)

theorem Collaborators.privilegeFault?_eq_none_iff {collaborators : Collaborators} {client : Nat}
    {connection : Connection} :
    collaborators.privilegeFault? client connection = none ↔
      collaborators.Grants client connection := by
  unfold privilegeFault? Grants
  cases hanswer : collaborators.checkPrivileges client with
  | ok => simp
  | error fault =>
      cases fault with
      | securityDisabled detail => cases hcredentials : connection.credentials <;> simp
      | missingPrivilege | failed => simp

namespace Filter

variable {collaborators : Collaborators} {connection : Connection} {filter : Filter} {random : Uuid}
  {validated : Validated} {attempts client : Nat}

def accepting (filter : Filter) (validated : Validated) : Filter :=
  { filter with connection := some validated.connection, advisories := validated.advisories }

/-- The source of GeoIP databases for accepted settings: a directory, else a provider, else none. -/
def sourceFor (filter : Filter) (validated : Validated) : GeoipSource :=
  match validated.connection.geoipDatabaseDirectory, filter.geoipManager with
  | some directory, _ => .directory directory
  | none, some provider => .managed provider
  | none, none => .unavailable

theorem geoipSource_eq (filter : Filter) (validated : Validated) :
    geoipSource validated.connection filter.geoipManager = filter.sourceFor validated := rfl

def readied (filter : Filter) (validated : Validated) (attempts client : Nat) : Filter :=
  { filter.accepting validated with
    attempts := attempts
    client := some client
    geoip := some (filter.sourceFor validated) }

def equipped (filter : Filter) (validated : Validated) (attempts client : Nat) : Filter :=
  { filter.readied validated attempts client with engine := some client }

def engineCall (filter : Filter) (validated : Validated) (client : Nat) : Call :=
  .buildEngine client validated.connection (filter.sourceFor validated)

/-- The ways for a start to end: its calls, the filter after them, and its result. -/
inductive Started (collaborators : Collaborators) (random : Uuid) (filter : Filter) :
    List Call → Filter → Except (Stage × FilterFault) Unit → Prop
  | refused {violation : Violation}
      (hrefused : (filter.validator.validate random filter.options).outcome = .error violation) :
      Started collaborators random filter [] filter (.error (.validate, .validation violation))
  | unopened {validated : Validated} {calls : List Call} {attempts : Nat}
      {failure : Stage × FilterFault}
      (haccepted : (filter.validator.validate random filter.options).outcome = .ok validated)
      (hopening : Opening collaborators validated.connection filter.attempts calls
        (.error failure)) :
      Started collaborators random filter calls
        { filter.accepting validated with attempts := attempts } (.error failure)
  | unbuilt {validated : Validated} {calls : List Call} {attempts client : Nat}
      {fault : EngineFault}
      (haccepted : (filter.validator.validate random filter.options).outcome = .ok validated)
      (hopening : Opening collaborators validated.connection filter.attempts calls (.ok client))
      (hengine : collaborators.buildEngine client validated.connection
        (filter.sourceFor validated) = .error fault) :
      Started collaborators random filter (calls ++ [filter.engineCall validated client])
        (filter.readied validated attempts client) (.error (.engine, .engine fault))
  | ungranted {validated : Validated} {calls : List Call} {attempts client : Nat}
      {fault : FilterFault}
      (haccepted : (filter.validator.validate random filter.options).outcome = .ok validated)
      (hopening : Opening collaborators validated.connection filter.attempts calls (.ok client))
      (hengine : collaborators.buildEngine client validated.connection
        (filter.sourceFor validated) = .ok ())
      (hrefused : collaborators.privilegeFault? client validated.connection = some fault) :
      Started collaborators random filter
        (calls ++ [filter.engineCall validated client, .checkPrivileges client])
        (filter.equipped validated attempts client) (.error (.preflight, fault))
  | unlicensed {validated : Validated} {calls : List Call} {attempts client : Nat}
      {fault : PreflightFault}
      (haccepted : (filter.validator.validate random filter.options).outcome = .ok validated)
      (hopening : Opening collaborators validated.connection filter.attempts calls (.ok client))
      (hengine : collaborators.buildEngine client validated.connection
        (filter.sourceFor validated) = .ok ())
      (hgrants : collaborators.Grants client validated.connection)
      (hlicense : collaborators.checkLicense client = .error fault) :
      Started collaborators random filter
        (calls ++ [filter.engineCall validated client, .checkPrivileges client,
          .checkLicense client])
        (filter.equipped validated attempts client) (.error (.preflight, .preflight fault))
  | completed {validated : Validated} {calls : List Call} {attempts client : Nat}
      (haccepted : (filter.validator.validate random filter.options).outcome = .ok validated)
      (hopening : Opening collaborators validated.connection filter.attempts calls (.ok client))
      (hengine : collaborators.buildEngine client validated.connection
        (filter.sourceFor validated) = .ok ())
      (hgrants : collaborators.Grants client validated.connection)
      (hlicense : collaborators.checkLicense client = .ok ()) :
      Started collaborators random filter
        (calls ++ [filter.engineCall validated client, .checkPrivileges client,
          .checkLicense client])
        (filter.equipped validated attempts client) (.ok ())

theorem acceptSettings_of_ok
    (h : (filter.validator.validate random filter.options).outcome = .ok validated) :
    ∃ effects, acceptSettings random filter =
      ⟨filter.accepting validated, effects, .ok validated.connection⟩ ∧ callsOf effects = [] := by
  rw [acceptSettings, h]
  exact ⟨_, rfl, by simp⟩

theorem acceptSettings_of_error {violation : Violation}
    (h : (filter.validator.validate random filter.options).outcome = .error violation) :
    ∃ effects, acceptSettings random filter =
      ⟨filter, effects, .error (.validate, .validation violation)⟩ ∧ callsOf effects = [] := by
  rw [acceptSettings, h]
  exact ⟨_, rfl, by simp⟩

theorem chooseGeoip_of_opened :
    chooseGeoip validated.connection ((filter.accepting validated).opened attempts (.ok client)) =
      ⟨filter.readied validated attempts client, [geoipRecord (filter.sourceFor validated)],
        .ok (filter.sourceFor validated)⟩ := by
  rw [← geoipSource_eq]
  rfl

theorem openEngine_of_ok {source : GeoipSource}
    (h : collaborators.buildEngine client connection source = .ok ()) :
    openEngine collaborators client connection source filter =
      ⟨{ filter with engine := some client },
        [.called (.buildEngine client connection source)], .ok ()⟩ := by
  rw [openEngine, h]
  rfl

theorem openEngine_of_error {source : GeoipSource} {fault : EngineFault}
    (h : collaborators.buildEngine client connection source = .error fault) :
    openEngine collaborators client connection source filter =
      ⟨filter, [.called (.buildEngine client connection source)],
        .error (.engine, .engine fault)⟩ := by
  rw [openEngine, h]
  rfl

theorem checkPrivileges_of_grants (h : collaborators.Grants client connection) :
    ∃ effects, checkPrivileges collaborators client connection filter =
      ⟨filter, effects, .ok ()⟩ ∧ callsOf effects = [.checkPrivileges client] := by
  unfold checkPrivileges
  rcases h with hok | ⟨⟨detail, hdisabled⟩, hnone⟩
  · rw [hok]
    exact ⟨_, rfl, rfl⟩
  · rw [hdisabled, hnone]
    exact ⟨_, rfl, rfl⟩

theorem checkPrivileges_of_fault {fault : FilterFault}
    (h : collaborators.privilegeFault? client connection = some fault) :
    checkPrivileges collaborators client connection filter =
      ⟨filter, [.called (.checkPrivileges client)], .error (.preflight, fault)⟩ := by
  unfold Collaborators.privilegeFault? at h
  unfold checkPrivileges
  cases hanswer : collaborators.checkPrivileges client with
  | ok => simp [hanswer] at h
  | error refusal =>
      rw [hanswer] at h
      cases refusal with
      | securityDisabled detail =>
          cases hcredentials : connection.credentials with
          | none => simp [hcredentials] at h
          | basic | apiKey | cloudAuth =>
              rw [hcredentials] at h
              cases h
              rfl
      | missingPrivilege privilege reason =>
          cases h
          rfl
      | failed reason =>
          cases h
          rfl

theorem checkLicense_of_ok (h : collaborators.checkLicense client = .ok ()) :
    checkLicense collaborators client filter =
      ⟨filter, [.called (.checkLicense client)], .ok ()⟩ := by
  rw [checkLicense, h]
  rfl

theorem checkLicense_of_error {fault : PreflightFault}
    (h : collaborators.checkLicense client = .error fault) :
    checkLicense collaborators client filter =
      ⟨filter, [.called (.checkLicense client)], .error (.preflight, .preflight fault)⟩ := by
  rw [checkLicense, h]
  rfl

/-- A start ends in one of its ways. -/
theorem start_started (collaborators : Collaborators) (random : Uuid) (filter : Filter) :
    ∃ effects after result,
      start collaborators random filter = ⟨after, effects, result⟩ ∧
        Started collaborators random filter (callsOf effects) after result := by
  unfold start
  cases hvalidate : (filter.validator.validate random filter.options).outcome with
  | error violation =>
      obtain ⟨effects, hsettings, hcalls⟩ := acceptSettings_of_error hvalidate
      rw [Start.bind_of_error hsettings]
      refine ⟨_, _, _, rfl, ?_⟩
      rw [hcalls]
      exact .refused hvalidate
  | ok validated =>
      obtain ⟨effects, hsettings, hcalls⟩ := acceptSettings_of_ok hvalidate
      rw [Start.bind_of_ok hsettings]
      obtain ⟨opening, attempts, result, hopen, hopening⟩ :=
        openClient_spec collaborators validated.connection (filter.accepting validated)
      cases result with
      | error failure =>
          rw [Start.bind_of_error hopen]
          refine ⟨_, _, _, rfl, ?_⟩
          rw [callsOf_append, hcalls, List.nil_append]
          exact .unopened hvalidate hopening
      | ok client =>
          rw [Start.bind_of_ok hopen]
          rw [Start.bind_of_ok chooseGeoip_of_opened]
          cases hengine : collaborators.buildEngine client validated.connection
              (filter.sourceFor validated) with
          | error fault =>
              rw [Start.bind_of_error (openEngine_of_error hengine)]
              refine ⟨_, _, _, rfl, ?_⟩
              simpa [hcalls, engineCall] using Started.unbuilt hvalidate hopening hengine
          | ok =>
              rw [Start.bind_of_ok (openEngine_of_ok hengine)]
              cases hprivileges : collaborators.privilegeFault? client validated.connection with
              | none =>
                  have hgrants := Collaborators.privilegeFault?_eq_none_iff.1 hprivileges
                  obtain ⟨checked, hpassed, hchecked⟩ := checkPrivileges_of_grants hgrants
                  rw [Start.bind_of_ok hpassed]
                  cases hlicense : collaborators.checkLicense client with
                  | error fault =>
                      rw [checkLicense_of_error hlicense]
                      refine ⟨_, _, _, rfl, ?_⟩
                      simpa [hcalls, hchecked, engineCall, equipped] using
                        Started.unlicensed hvalidate hopening hengine hgrants hlicense
                  | ok =>
                      rw [checkLicense_of_ok hlicense]
                      refine ⟨_, _, _, rfl, ?_⟩
                      simpa [hcalls, hchecked, engineCall, equipped] using
                        Started.completed hvalidate hopening hengine hgrants hlicense
              | some fault =>
                  rw [Start.bind_of_error (checkPrivileges_of_fault hprivileges)]
                  refine ⟨_, _, _, rfl, ?_⟩
                  simpa [hcalls, engineCall, equipped] using
                    Started.ungranted hvalidate hopening hengine hprivileges

end Filter

end ClusterLink
