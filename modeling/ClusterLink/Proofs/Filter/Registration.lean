import ClusterLink.Filter.Script
import ClusterLink.Proofs.Access
import ClusterLink.Proofs.Filter.Counts
import ClusterLink.Proofs.Filter.States

/-!
# Registration

What a start consists of, written down as the list of its steps with what each of them fails with.
Registering a filter takes the steps in order through the first that fails, answers with its fault,
counts its stage once, and closes what the steps before it have opened.
-/

namespace ClusterLink

variable {collaborators : Collaborators} {filter : Filter} {random : Uuid}

/-! ## Steps of a start -/

/-- A step of a start: its call, if it makes one, its stage, and its fault, if it fails. -/
structure StartStep where
  call? : Option Call
  stage : Stage
  fault? : Option FilterFault

def GeoipSource.closings : GeoipSource → List Call
  | .managed provider => [.closeGeoip provider]
  | .directory _ | .unavailable => []

namespace StartStep

/-- The steps through the first one that fails. -/
def taken : List StartStep → List StartStep
  | [] => []
  | step :: later => if step.fault?.isSome then [step] else step :: taken later

def failure? : List StartStep → Option (Stage × FilterFault)
  | [] => none
  | step :: later =>
      match step.fault? with
      | some fault => some (step.stage, fault)
      | none => failure? later

/-- What a step has opened: the engine, if it was built, and the provider that it was to use. -/
def closings (step : StartStep) : List Call :=
  match step.call? with
  | some (.buildEngine _ _ source) =>
      (if step.fault?.isNone then [.closeEngine] else []) ++ source.closings
  | _ => []

end StartStep

namespace Collaborators

def findsServerless (collaborators : Collaborators) (client : Nat) : Bool :=
  match collaborators.isServerless client with
  | .ok serverless => serverless
  | .error _ => false

/-- The client that is built last, if the first of them has this number. -/
def lastClient (collaborators : Collaborators) (number : Nat) : Nat :=
  if collaborators.findsServerless number then number + 1 else number

def openingSteps (collaborators : Collaborators) (connection : Connection) (number : Nat) :
    List StartStep :=
  [⟨some (.buildClient number connection .plain), .client,
      (faultOf? (collaborators.buildClient number connection .plain)).map .client⟩,
    ⟨some (.isServerless number), .client,
      (faultOf? (collaborators.isServerless number)).map .preflight⟩] ++
  if collaborators.findsServerless number then
    [⟨some (.buildClient (number + 1) connection .pinned), .client,
      (faultOf? (collaborators.buildClient (number + 1) connection .pinned)).map .client⟩]
  else []

def engineSteps (collaborators : Collaborators) (connection : Connection) (source : GeoipSource)
    (client : Nat) : List StartStep :=
  [⟨some (.buildEngine client connection source), .engine,
      (faultOf? (collaborators.buildEngine client connection source)).map .engine⟩,
    ⟨some (.checkPrivileges client), .preflight,
      collaborators.privilegeFault? client connection⟩,
    ⟨some (.checkLicense client), .preflight,
      (faultOf? (collaborators.checkLicense client)).map .preflight⟩]

end Collaborators

/-- All steps of a start of the filter; without valid settings there is but one, and it fails. -/
def Filter.startSteps (collaborators : Collaborators) (random : Uuid) (filter : Filter) :
    List StartStep :=
  match (filter.validator.validate random filter.options).outcome with
  | .error violation => [⟨none, .validate, some (.validation violation)⟩]
  | .ok validated =>
      ⟨none, .validate, none⟩ ::
        (collaborators.openingSteps validated.connection filter.attempts ++
          collaborators.engineSteps validated.connection (filter.sourceFor validated)
            (collaborators.lastClient filter.attempts))

/-- Whether a call reaches a collaborator; a client that is given up is only let go. -/
def Call.reaches : Call → Bool
  | .releaseClient _ => false
  | _ => true

def reachedBy (effects : List Effect) : List Call := (callsOf effects).filter Call.reaches

open StartStep

/-- Registering the filter has this outcome, as the steps of its start say. -/
structure Filter.Registers (collaborators : Collaborators) (random : Uuid) (filter : Filter)
    (outcome : Outcome (Except FilterFault Unit)) : Prop where
  ok_iff : outcome.result = .ok () ∧ outcome.filter.state = .running ↔
    failure? (filter.startSteps collaborators random) = none
  completed : failure? (filter.startSteps collaborators random) = none →
    outcome.filter.Full ∧
      reachedBy outcome.effects = (filter.startSteps collaborators random).filterMap call? ∧
      countsOf outcome.effects = filter.advisoryCounts random
  failed : ∀ stage fault,
    failure? (filter.startSteps collaborators random) = some (stage, fault) →
      outcome.result = .error fault ∧ outcome.filter.state = .failed ∧ outcome.filter.Bare ∧
        reachedBy outcome.effects =
          (taken (filter.startSteps collaborators random)).filterMap call? ++
            (taken (filter.startSteps collaborators random)).flatMap closings ∧
        countsOf outcome.effects =
          filter.advisoryCounts random ++ [(.startupFailures stage, 1)]

/-! ## First failures -/

namespace StartStep

variable {steps : List StartStep} {failure : Stage × FilterFault}

theorem taken_append_of_none (h : failure? steps = none) (later : List StartStep) :
    taken (steps ++ later) = steps ++ taken later ∧ failure? (steps ++ later) = failure? later := by
  induction steps with
  | nil => exact ⟨rfl, rfl⟩
  | cons step rest ih =>
      cases hfault : step.fault? with
      | some fault => simp [failure?, hfault] at h
      | none =>
          have hrest : failure? rest = none := by simpa [failure?, hfault] using h
          obtain ⟨htaken, hfailure⟩ := ih hrest
          simp [taken, failure?, hfault, htaken, hfailure]

/-- What comes after a failure is never reached. -/
theorem taken_append_of_some (h : failure? steps = some failure) (later : List StartStep) :
    taken (steps ++ later) = taken steps ∧ failure? (steps ++ later) = some failure := by
  induction steps with
  | nil => cases h
  | cons step rest ih =>
      cases hfault : step.fault? with
      | some fault =>
          have hfirst : (step.stage, fault) = failure := by simpa [failure?, hfault] using h
          simp [taken, failure?, hfault, hfirst]
      | none =>
          have hrest : failure? rest = some failure := by simpa [failure?, hfault] using h
          obtain ⟨htaken, hfailure⟩ := ih hrest
          simp [taken, failure?, hfault, htaken, hfailure]

theorem taken_of_none (h : failure? steps = none) : taken steps = steps := by
  have htaken := (taken_append_of_none h []).1
  simpa [taken] using htaken

end StartStep

/-! ## Opening a client -/

@[simp] theorem reachedBy_append (effects others : List Effect) :
    reachedBy (effects ++ others) = reachedBy effects ++ reachedBy others := by
  simp [reachedBy]

namespace Opening

variable {connection : Connection} {number : Nat} {calls : List Call}

theorem steps_of_ok {client : Nat}
    (h : Opening collaborators connection number calls (.ok client)) :
    failure? (collaborators.openingSteps connection number) = none ∧
      client = collaborators.lastClient number ∧
      calls.filter Call.reaches =
        (collaborators.openingSteps connection number).filterMap call? ∧
      (collaborators.openingSteps connection number).flatMap closings = [] := by
  cases h with
  | plain hbuild hasked =>
      have hplain : collaborators.findsServerless number = false := by
        simp [Collaborators.findsServerless, hasked]
      simp [Collaborators.openingSteps, Collaborators.lastClient, hplain, failure?, faultOf?,
        hbuild, hasked, Call.reaches, closings]
  | pinned hbuild hasked hpinned =>
      have hserverless : collaborators.findsServerless number = true := by
        simp [Collaborators.findsServerless, hasked]
      simp [Collaborators.openingSteps, Collaborators.lastClient, hserverless, failure?, faultOf?,
        hbuild, hasked, hpinned, List.filter_cons, Call.reaches, closings]

theorem steps_of_error {failure : Stage × FilterFault}
    (h : Opening collaborators connection number calls (.error failure)) :
    failure? (collaborators.openingSteps connection number) = some failure ∧
      calls.filter Call.reaches =
        (taken (collaborators.openingSteps connection number)).filterMap call? ∧
      (taken (collaborators.openingSteps connection number)).flatMap closings = [] := by
  cases h with
  | unbuilt hbuild =>
      simp [Collaborators.openingSteps, failure?, taken, faultOf?, hbuild, Call.reaches, closings]
  | unanswered hbuild hasked =>
      simp [Collaborators.openingSteps, failure?, taken, faultOf?, hbuild, hasked,
        List.filter_cons, Call.reaches, closings]
  | unpinned hbuild hasked hpinned =>
      have hserverless : collaborators.findsServerless number = true := by
        simp [Collaborators.findsServerless, hasked]
      simp [Collaborators.openingSteps, hserverless, failure?, taken, faultOf?, hbuild, hasked,
        hpinned, List.filter_cons, Call.reaches, closings]

end Opening

/-! ## All of a start -/

namespace Filter

theorem reachedBy_release (filter : Filter) :
    reachedBy filter.release.effects =
      (if filter.engine.isSome then [.closeEngine] else []) ++
        filter.geoip.elim [] GeoipSource.closings := by
  have hengine : reachedBy filter.engineRelease =
      if filter.engine.isSome then [.closeEngine] else [] := by
    unfold engineRelease
    split <;> simp [*] <;> rfl
  have hgeoip : reachedBy filter.geoipRelease = filter.geoip.elim [] GeoipSource.closings := by
    unfold geoipRelease
    rcases filter.geoip with _ | _ | _ | _ <;> rfl
  have hclient : reachedBy filter.clientRelease = [] := by
    unfold clientRelease
    split <;> rfl
  simp [release, hengine, hgeoip, hclient]

theorem startSteps_of_error {violation : Violation}
    (h : (filter.validator.validate random filter.options).outcome = .error violation) :
    filter.startSteps collaborators random = [⟨none, .validate, some (.validation violation)⟩] := by
  rw [startSteps, h]

section Accepted

variable {validated : Validated} {opening : List Call}
  (haccepted : (filter.validator.validate random filter.options).outcome = .ok validated)
include haccepted

/-- With a client open, the steps that are left are those that use it. -/
theorem startSteps_of_opened {client : Nat}
    (hopening : Opening collaborators validated.connection filter.attempts opening (.ok client)) :
    failure? (filter.startSteps collaborators random) =
        failure? (collaborators.engineSteps validated.connection (filter.sourceFor validated)
          client) ∧
      (taken (filter.startSteps collaborators random)).filterMap call? =
        opening.filter Call.reaches ++
          (taken (collaborators.engineSteps validated.connection (filter.sourceFor validated)
            client)).filterMap call? ∧
      (taken (filter.startSteps collaborators random)).flatMap closings =
        (taken (collaborators.engineSteps validated.connection (filter.sourceFor validated)
          client)).flatMap closings := by
  obtain ⟨hclear, rfl, hcalls, hclosings⟩ := hopening.steps_of_ok
  obtain ⟨htaken, hfailure⟩ := taken_append_of_none hclear
    (collaborators.engineSteps validated.connection (filter.sourceFor validated)
      (collaborators.lastClient filter.attempts))
  rw [startSteps, haccepted]
  simp [failure?, taken, closings, htaken, hfailure, hcalls, hclosings]

theorem startSteps_of_unopened {failure : Stage × FilterFault}
    (hopening : Opening collaborators validated.connection filter.attempts opening
      (.error failure)) :
    failure? (filter.startSteps collaborators random) = some failure ∧
      opening.filter Call.reaches =
        (taken (filter.startSteps collaborators random)).filterMap call? ∧
      (taken (filter.startSteps collaborators random)).flatMap closings = [] := by
  obtain ⟨hfails, hcalls, hclosings⟩ := hopening.steps_of_error
  obtain ⟨htaken, hfailure⟩ := taken_append_of_some hfails
    (collaborators.engineSteps validated.connection (filter.sourceFor validated)
      (collaborators.lastClient filter.attempts))
  rw [startSteps, haccepted]
  simp [failure?, taken, closings, htaken, hfailure, hcalls, hclosings]

end Accepted

variable {calls : List Call} {after : Filter}

/-- A start that completes has taken all of its steps. -/
theorem Started.steps_of_ok (h : filter.Started collaborators random calls after (.ok ())) :
    failure? (filter.startSteps collaborators random) = none ∧
      calls.filter Call.reaches =
        (filter.startSteps collaborators random).filterMap call? := by
  cases h with
  | completed haccepted hopening hengine hgrants hlicense =>
      have hprivileges := Collaborators.privilegeFault?_eq_none_iff.2 hgrants
      obtain ⟨hfailure, hcalls, -⟩ := startSteps_of_opened haccepted hopening
      have hnone : failure? (filter.startSteps collaborators random) = none := by
        simp [hfailure, Collaborators.engineSteps, failure?, faultOf?, hengine, hprivileges,
          hlicense]
      refine ⟨hnone, ?_⟩
      rw [taken_of_none hnone] at hcalls
      simp [hcalls, Collaborators.engineSteps, taken, faultOf?, hengine, hprivileges, hlicense,
        engineCall, Call.reaches]

/-- A start that fails has taken its steps through the first that fails, holding what they open. -/
theorem Started.steps_of_error {failure : Stage × FilterFault}
    (h : filter.Started collaborators random calls after (.error failure))
    (hempty : filter.Empty) :
    failure? (filter.startSteps collaborators random) = some failure ∧
      calls.filter Call.reaches =
        (taken (filter.startSteps collaborators random)).filterMap call? ∧
      reachedBy after.release.effects =
        (taken (filter.startSteps collaborators random)).flatMap closings := by
  rw [reachedBy_release]
  cases h with
  | refused hrefused =>
      rw [startSteps_of_error hrefused, hempty.engine_eq, hempty.geoip_eq]
      exact ⟨rfl, rfl, rfl⟩
  | unopened haccepted hopening =>
      obtain ⟨hfailure, hcalls, hclosings⟩ := startSteps_of_unopened haccepted hopening
      refine ⟨hfailure, hcalls, ?_⟩
      simp [hclosings, accepting, hempty.engine_eq, hempty.geoip_eq]
  | unbuilt haccepted hopening hengine =>
      obtain ⟨hfailure, hcalls, hclosings⟩ := startSteps_of_opened haccepted hopening
      rw [hfailure, hcalls, hclosings]
      simp [Collaborators.engineSteps, failure?, taken, closings, faultOf?, hengine, engineCall,
        Call.reaches, readied, accepting, hempty.engine_eq]
  | ungranted haccepted hopening hengine hrefused =>
      obtain ⟨hfailure, hcalls, hclosings⟩ := startSteps_of_opened haccepted hopening
      rw [hfailure, hcalls, hclosings]
      simp [Collaborators.engineSteps, failure?, taken, closings, faultOf?, hengine, hrefused,
        engineCall, Call.reaches, equipped, readied]
  | unlicensed haccepted hopening hengine hgrants hlicense =>
      have hprivileges := Collaborators.privilegeFault?_eq_none_iff.2 hgrants
      obtain ⟨hfailure, hcalls, hclosings⟩ := startSteps_of_opened haccepted hopening
      rw [hfailure, hcalls, hclosings]
      simp [Collaborators.engineSteps, failure?, taken, closings, faultOf?, hengine, hprivileges,
        hlicense, engineCall, Call.reaches, equipped, readied]

/-! ## Registering -/

/-- A filter that has just been created and holds nothing takes the steps of its start. -/
theorem Empty.registers (hempty : filter.Empty) (hstate : filter.state = .created)
    (collaborators : Collaborators) (random : Uuid) :
    filter.Registers collaborators random (filter.register collaborators random) := by
  obtain ⟨effects, after, result, hstart, hstarted⟩ := filter.start_started collaborators random
  have hcounts := countsOf_start collaborators random filter
  rw [hstart] at hcounts
  cases result with
  | ok =>
      obtain ⟨hnone, hcalls⟩ := hstarted.steps_of_ok
      obtain ⟨fields, hregister⟩ := register_of_completed hstate hstart
      have hfull := hstarted.full
      rw [hregister]
      refine ⟨iff_of_true ⟨rfl, rfl⟩ hnone, fun _ => ⟨?_, ?_, ?_⟩, ?_⟩
      · exact ⟨hfull.connection, hfull.client, hfull.geoip, hfull.engine⟩
      · rw [reachedBy, callsOf_append, callsOf_record, callsOf_nil, List.append_nil, hcalls]
      · rw [countsOf_append, hcounts, countsOf_record, countsOf_nil, List.append_nil]
      · intro stage fault hsome
        rw [hnone] at hsome
        cases hsome
  | error failure =>
      obtain ⟨stage, fault⟩ := failure
      obtain ⟨hsome, hcalls, hclosings⟩ := hstarted.steps_of_error hempty
      have hreached : reachedBy effects =
          (taken (filter.startSteps collaborators random)).filterMap call? := hcalls
      have hunreached : reachedBy (startFailure stage fault) = [] := rfl
      have hcounted : countsOf (startFailure stage fault) = [(.startupFailures stage, 1)] := rfl
      rw [register_of_failed hstate hstart]
      refine ⟨iff_of_false (by simp) (by simp [hsome]), ?_, ?_⟩
      · intro hnone
        rw [hnone] at hsome
        cases hsome
      · rintro _ _ hfirst
        cases hsome.symm.trans hfirst
        refine ⟨rfl, rfl, ⟨⟨rfl, rfl, rfl⟩, rfl, rfl⟩, ?_, ?_⟩
        · rw [reachedBy_append, reachedBy_append, hreached, hunreached, hclosings, List.append_nil]
        · rw [countsOf_append, countsOf_append, hcounts, hcounted, countsOf_release,
            List.append_nil]

/--
However a filter was used, while it is in the state that it was created in it takes the steps of its
start. Security that is off fails one of them exactly if credentials would be sent.
-/
theorem registers_of_created (options : Options) (validator : Validator) (addTags : List String)
    (geoipManager : Option String) (turns : List Turn) (collaborators : Collaborators)
    (random : Uuid)
    (hstate : ((built options validator addTags geoipManager).ranTo turns).state = .created) :
    ((built options validator addTags geoipManager).ranTo turns).Registers collaborators random
        (((built options validator addTags geoipManager).ranTo turns).register collaborators
          random) ∧
      ∀ client detail connection,
        collaborators.checkPrivileges client = .error (.securityDisabled detail) →
          ((collaborators.privilegeFault? client connection).isSome = true ↔
            connection.credentials ≠ .none) := by
  have hfresh := sound_built options validator addTags geoipManager
  have hremembers : (built options validator addTags geoipManager).Remembers [] :=
    ⟨by simp [built], fun _ => rfl⟩
  have hsound := (hfresh.run hremembers turns).1
  refine ⟨(hsound.bare (.inl hstate)).toEmpty.registers hstate collaborators random, ?_⟩
  intro client detail connection hdisabled
  rw [Collaborators.privilegeFault?, hdisabled]
  cases connection.credentials <;> simp

end Filter

def Options.securedHost : Options where
  id := some "filter"
  hosts := some ["es1"]
  username := some "elastic"
  password := some ⟨"changeme"⟩

def Connection.securedHost : Connection where
  id := "filter"
  target := .hosts [⟨some "https", "es1", some 9200, some "/"⟩]
  tls := .enabled .full none .system
  credentials := .basic "elastic" ⟨"changeme"⟩

def Script.unsecured : Script where
  clients := [{ serverless := .ok true }, { privileges := some (.securityDisabled "no security") }]

def Filter.hasty : Filter :=
  (built .securedHost ⟨.sealing, .available "ca.pem"⟩ ["seen"] (some "maxmind")).ranTo
    [⟨.multiFilter [], Script.unsecured.collaborators⟩]

/-- The start gets as far as the privileges of the second client, and closes what it has opened. -/
theorem Filter.registers_hasty :
    let outcome := Filter.hasty.register Script.unsecured.collaborators ⟨[]⟩
    Filter.hasty.state = .created ∧
      outcome.result = .error (.securityDisabledWithCredentials "`username` and `password`"
        "no handler found for uri [/_security/user/_has_privileges]: no security") ∧
      outcome.filter.state = .failed ∧
      reachedBy outcome.effects =
        [.buildClient 0 .securedHost ⟨"elastic-integration/0.1.0", none⟩,
          .isServerless 0,
          .buildClient 1 .securedHost ⟨"elastic-integration/0.1.0", some "2023-10-31"⟩,
          .buildEngine 1 .securedHost (.managed "maxmind"),
          .checkPrivileges 1,
          .closeEngine,
          .closeGeoip "maxmind"] ∧
      countsOf outcome.effects = [(.startupFailures .preflight, 1)] := by
  intro outcome
  have hcreated : Filter.hasty.state = .created := rfl
  have hregisters : Filter.hasty.Registers Script.unsecured.collaborators ⟨[]⟩ outcome :=
    (registers_of_created .securedHost ⟨.sealing, .available "ca.pem"⟩ ["seen"] (some "maxmind")
      [⟨.multiFilter [], Script.unsecured.collaborators⟩] Script.unsecured.collaborators ⟨[]⟩
      hcreated).1
  have haccepted : (Filter.hasty.validator.validate ⟨[]⟩ Filter.hasty.options).outcome =
      .ok ⟨.securedHost, []⟩ := by decide +kernel
  have hsteps : Filter.hasty.startSteps Script.unsecured.collaborators ⟨[]⟩ =
      ⟨none, .validate, none⟩ ::
        (Script.unsecured.collaborators.openingSteps .securedHost 0 ++
          Script.unsecured.collaborators.engineSteps .securedHost (.managed "maxmind") 1) := by
    rw [startSteps, haccepted]
    rfl
  have hfailure : failure? (Filter.hasty.startSteps Script.unsecured.collaborators ⟨[]⟩) =
      some (.preflight, .securityDisabledWithCredentials "`username` and `password`"
        "no handler found for uri [/_security/user/_has_privileges]: no security") := by
    rw [hsteps]
    rfl
  obtain ⟨hresult, hfailed, -, hreached, hcounts⟩ := hregisters.failed _ _ hfailure
  refine ⟨hcreated, hresult, hfailed, ?_, ?_⟩
  · rw [hreached, hsteps]
    rfl
  · rw [hcounts, advisoryCounts, haccepted]
    rfl

end ClusterLink
