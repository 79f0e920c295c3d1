import ClusterLink.CommandLine.Run
import ClusterLink.Proofs.Secrecy.Stages
import ClusterLink.Proofs.Validation.Acceptance

/-!
# Reports of masked options

What a command prints, what it logs and how it ends are the same with masked secrets: a report is
made from what is written of a connection, from its advisories and from the violation, and none of
these holds a secret.
-/

namespace ClusterLink.CommandLine

theorem ValidationReport.ofOutcome_masked (source : String) (outcome : Except Violation Validated) :
    ofOutcome source (Validated.masked <$> outcome) = ofOutcome source outcome := by
  cases outcome with
  | error violation => rfl
  | ok validated =>
      change ofOutcome source (.ok validated.masked) = _
      simp [ofOutcome, Validated.masked, Connection.masked]

namespace ConnectionReport

theorem members_masked (source : String) (part : Part) (connection : Connection) :
    members ⟨source, part, connection.masked⟩ = members ⟨source, part, connection⟩ := by
  cases part with
  | target => rfl
  | tls => exact connection.tls.members_masked
  | auth => exact connection.credentials.members_masked
  | all => exact connection.members_masked

theorem document_masked (source : String) (part : Part) (connection : Connection) :
    document ⟨source, part, connection.masked⟩ = document ⟨source, part, connection⟩ := by
  unfold document
  rw [members_masked]

theorem text_masked (source : String) (part : Part) (connection : Connection) :
    text ⟨source, part, connection.masked⟩ = text ⟨source, part, connection⟩ := by
  unfold text
  rw [document_masked]
  rfl

theorem datum_masked (source : String) (part : Part) (connection : Connection) :
    datum ⟨source, part, connection.masked⟩ = datum ⟨source, part, connection⟩ := by
  unfold datum value
  rw [members_masked]

end ConnectionReport

/-! ## Commands -/

variable (context : Context) (general : General) (options : Options)

theorem runValidate_masked :
    runValidate context (.ok ⟨general, options.masked⟩) =
      runValidate context (.ok ⟨general, options⟩) := by
  simp only [runValidate, Validator.validate_masked, Traced.map_eq,
    ValidationReport.ofOutcome_masked]

theorem runDisplay_masked (part : Part) :
    runDisplay context part (.ok ⟨general, options.masked⟩) =
      runDisplay context part (.ok ⟨general, options⟩) := by
  simp only [runDisplay, Validator.validate_masked, Traced.map_eq]
  cases (context.validator.validate context.random options).outcome with
  | error violation => rfl
  | ok validated =>
      change CommandOutcome.mk (render context.output
        (ConnectionReport.text ⟨context.source, part, validated.connection.masked⟩)
        (ConnectionReport.datum ⟨context.source, part, validated.connection.masked⟩)) _ _ = _
      rw [ConnectionReport.text_masked, ConnectionReport.datum_masked]

theorem runCommand_masked (command : Command) :
    runCommand context command (.ok ⟨general, options.masked⟩) =
      runCommand context command (.ok ⟨general, options⟩) := by
  cases command with
  | validate => exact runValidate_masked context general options
  | display part => exact runDisplay_masked context general options part
  | options tlsOnly => rfl

variable {options} {validator : Validator} (environment : Environment) (arguments : Arguments)

theorem run_masked (random : Uuid) :
    run environment validator random arguments (.ok ⟨general, options.masked⟩) =
      run environment validator random arguments (.ok ⟨general, options⟩) := by
  simp only [run, generalOf, runCommand_masked]

theorem runCommand_of_named (hid : options.id.isSome = true) (random otherRandom : Uuid)
    (output : OutputFormat) (source : String) (command : Command) :
    runCommand ⟨validator, random, output, source⟩ command (.ok ⟨general, options⟩) =
      runCommand ⟨validator, otherRandom, output, source⟩ command (.ok ⟨general, options⟩) := by
  have hvalidate := @Validator.validate_of_named options validator hid random otherRandom
  cases command with
  | validate => simp only [runCommand, runValidate, hvalidate]
  | display part => simp only [runCommand, runDisplay, hvalidate]
  | options tlsOnly => rfl

/-- For a filter that has a name nothing that is said depends on random bytes. -/
theorem run_of_named (hid : options.id.isSome = true) (random otherRandom : Uuid) :
    run environment validator random arguments (.ok ⟨general, options⟩) =
      run environment validator otherRandom arguments (.ok ⟨general, options⟩) := by
  simp only [run, runCommand_of_named general hid random otherRandom]

end ClusterLink.CommandLine
