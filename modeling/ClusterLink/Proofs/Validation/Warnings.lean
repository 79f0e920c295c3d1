import ClusterLink.Proofs.Validation.Acceptance

/-!
# Warnings of validation

The log records of a validation that are warnings. No stage writes one before the options are
accepted, so a validation that fails leaves none, and one that succeeds leaves exactly one for each
advisory, in their order.
-/

namespace ClusterLink

namespace Traced

variable {α β : Type} {first : Traced α} {next : α → Traced β}

def warnings (traced : Traced α) : List LogRecord :=
  (recordsOf traced.trail).filter fun record => record.level = .warn

def Quiet (traced : Traced α) : Prop := traced.warnings = []

/-- The warnings go with the value; without a value there are none. -/
structure Warns (traced : Traced α) (expected : α → List LogRecord) : Prop where
  of_ok : ∀ a, traced.outcome = .ok a → traced.warnings = expected a
  of_error : ∀ violation, traced.outcome = .error violation → traced.Quiet

theorem warnings_andThen_of_ok {a : α} (h : first.outcome = .ok a) :
    (first.andThen next).warnings = first.warnings ++ (next a).warnings := by
  simp [warnings, recordsOf, trail_andThen_of_ok h]

theorem warnings_andThen_of_quiet {a : α} (h : first.outcome = .ok a) (hnext : (next a).Quiet) :
    (first.andThen next).warnings = first.warnings := by
  rw [warnings_andThen_of_ok h, hnext, List.append_nil]

theorem warnings_andThen_of_error {violation : Violation} (h : first.outcome = .error violation) :
    (first.andThen next).warnings = first.warnings := by
  simp [warnings, andThen, h]

theorem Quiet.lift (outcome : Except Violation α) : (Traced.lift outcome).Quiet := rfl

theorem Quiet.refuse (violation : Violation) : (Traced.refuse violation : Traced α).Quiet := rfl

theorem Quiet.value (a : α) : (pure a : Traced α).Quiet := rfl

theorem Quiet.note {occurrence : Occurrence}
    (h : ∀ record ∈ occurrence.record?, record.level ≠ .warn) : (Traced.note occurrence).Quiet := by
  unfold Quiet warnings recordsOf Traced.note
  cases hrecord : occurrence.record? with
  | none => simp [hrecord]
  | some record =>
      have hlevel := h record hrecord
      simp [hrecord, hlevel]

theorem Quiet.andThen (hfirst : first.Quiet) (hnext : ∀ a, (next a).Quiet) :
    (first.andThen next).Quiet := by
  unfold Quiet at *
  cases h : first.outcome with
  | ok a => rw [warnings_andThen_of_ok h, hfirst, hnext, List.nil_append]
  | error violation => rw [warnings_andThen_of_error h, hfirst]

/-- A quiet stage leaves the warnings to the stages after it. -/
theorem Quiet.andThen_warns {expected : β → List LogRecord} (hfirst : first.Quiet)
    (hnext : ∀ a, (next a).Warns expected) : (first.andThen next).Warns expected := by
  constructor
  · intro b hb
    obtain ⟨a, ha, hrest⟩ := outcome_andThen_eq_ok.1 hb
    rw [warnings_andThen_of_ok ha, hfirst, List.nil_append]
    exact (hnext a).of_ok b hrest
  · intro violation hviolation
    rcases outcome_andThen_eq_error.1 hviolation with hstop | ⟨a, ha, hrest⟩
    · exact (warnings_andThen_of_error hstop).trans hfirst
    · have hquiet : (next a).warnings = [] := (hnext a).of_error violation hrest
      exact (warnings_andThen_of_ok ha).trans (by rw [hfirst, hquiet, List.nil_append])

end Traced

open Traced

/-! ## Files and TLS -/

theorem Probe.quiet_ensureSealed (probe : Probe) (label path : String) :
    (probe.ensureSealed label path).Quiet := by
  rw [ensureSealed_eq]
  split <;> rfl

theorem Probe.quiet_ensureAllSealed (probe : Probe) (label : String) (paths : List String) :
    (probe.ensureAllSealed label paths).Quiet := by
  induction paths with
  | nil => exact Quiet.value ()
  | cons path rest ih => exact (probe.quiet_ensureSealed label path).andThen fun _ => ih

theorem Identity.quiet_resolve (options : Options) (probe : Probe) :
    (Identity.resolve options probe).Quiet := by
  have hcertificate : (checkCertificate options probe).Quiet := by
    unfold checkCertificate
    split
    · exact Quiet.value ()
    · exact Quiet.refuse _
    · exact probe.quiet_ensureSealed _ _
  have hkey : (checkKey options probe).Quiet := by
    unfold checkKey
    split
    · exact Quiet.value ()
    · exact Quiet.refuse _
    · exact Quiet.refuse _
    · exact probe.quiet_ensureSealed _ _
  have hkeystore : (checkKeystore options probe).Quiet := by
    unfold checkKeystore
    split
    · exact Quiet.value ()
    · exact probe.quiet_ensureSealed _ _
  unfold Identity.resolve
  split
  · exact Quiet.refuse _
  · exact hcertificate.andThen fun _ => hkey.andThen fun _ =>
      (Quiet.lift _).andThen fun _ => (Quiet.lift _).andThen fun _ =>
        hkeystore.andThen fun _ => Quiet.value _

theorem Trust.quiet_resolve (options : Options) (mode : VerificationMode) (probe : Probe)
    (systemTrust : SystemTrust) : (Trust.resolve options mode probe systemTrust).Quiet := by
  have htruststore : (checkTruststore options probe).Quiet := by
    unfold checkTruststore
    split
    · exact Quiet.value ()
    · exact Quiet.refuse _
    · exact probe.quiet_ensureSealed _ _
  have hauthorities : (checkAuthorities options probe).Quiet := by
    unfold checkAuthorities
    split
    · exact Quiet.value ()
    · exact Quiet.refuse _
    · exact probe.quiet_ensureAllSealed _ _
  unfold Trust.resolve
  split
  · exact Quiet.lift _
  split
  · exact Quiet.refuse _
  · exact htruststore.andThen fun _ => (Quiet.lift _).andThen fun _ =>
      hauthorities.andThen fun _ => Quiet.lift _

theorem Tls.quiet_resolve (options : Options) (tlsEnabled : Bool) (probe : Probe)
    (systemTrust : SystemTrust) : (Tls.resolve options tlsEnabled probe systemTrust).Quiet := by
  unfold Tls.resolve
  split
  · exact (Quiet.lift _).andThen fun mode => (Identity.quiet_resolve options probe).andThen
      fun identity => (Trust.quiet_resolve options mode probe systemTrust).andThen fun trust =>
        (Quiet.note (by simp [Occurrence.record?])).andThen fun _ => Quiet.value _
  · exact Quiet.lift _

/-! ## Validation -/

namespace Validator

theorem quiet_resolveTlsEnabled (options : Options) (target : Target) :
    (resolveTlsEnabled options target).Quiet := by
  unfold resolveTlsEnabled
  split
  · exact Quiet.value _
  · exact (Quiet.lift _).andThen fun enabled =>
      (Quiet.note (by simp [Occurrence.record?])).andThen fun _ => Quiet.value enabled

theorem quiet_settleTarget (target : Target) (tlsEnabled : Bool) :
    (settleTarget target tlsEnabled).Quiet := by
  unfold settleTarget
  split
  · exact Quiet.value _
  · refine (Quiet.lift _).andThen fun settled => ?_
    split
    · exact Quiet.value _
    · exact (Quiet.note (by simp [Occurrence.record?])).andThen fun _ => Quiet.value _

theorem warnings_warnAll (id : String) (advisories : List Advisory) :
    (warnAll id advisories).warnings = advisories.map (Advisory.record id) := by
  unfold warnings warnAll recordsOf
  induction advisories with
  | nil => rfl
  | cons advisory rest ih =>
      have hrecord : (Occurrence.warned id advisory).record? = some (advisory.record id) := rfl
      have hlevel : (advisory.record id).level = .warn := rfl
      simpa [List.filterMap_cons, hrecord, hlevel] using ih

/-- One warning is left for each advisory, and none by a validation that fails. -/
theorem warns_validate (validator : Validator) (random : Uuid) (options : Options) :
    (validator.validate random options).Warns fun validated =>
      validated.advisories.map (Advisory.record validated.connection.id) := by
  unfold validate
  refine (Quiet.lift _).andThen_warns fun target => (Quiet.lift _).andThen_warns fun id =>
    (quiet_resolveTlsEnabled options target).andThen_warns fun tlsEnabled =>
      (Tls.quiet_resolve options tlsEnabled _ _).andThen_warns fun tls =>
        (Quiet.lift _).andThen_warns fun credentials =>
          (quiet_settleTarget target tlsEnabled).andThen_warns fun settled => ?_
  -- Only the last stage warns, and it always has a value.
  constructor
  · intro validated h
    cases h
    refine (warnings_andThen_of_quiet (outcome_warnAll _ _) ?_).trans (warnings_warnAll _ _)
    exact (Quiet.note (by simp [completion, Occurrence.record?])).andThen fun _ => Quiet.value _
  · intro violation h
    cases h

end Validator

end ClusterLink
