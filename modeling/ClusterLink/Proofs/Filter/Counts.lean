import ClusterLink.Proofs.Filter.Start

/-!
# Counters of a start

A start counts the advisories of the settings that it accepts, once each and in their order. None
of its later parts counts anything, however far it gets, and neither does giving up what it holds.
-/

namespace ClusterLink

def Effect.counted? : Effect → Option (Counter × Nat)
  | .counted counter amount => some (counter, amount)
  | _ => none

def countsOf (effects : List Effect) : List (Counter × Nat) := effects.filterMap Effect.counted?

@[simp] theorem countsOf_nil : countsOf [] = [] := rfl

@[simp] theorem countsOf_append (effects others : List Effect) :
    countsOf (effects ++ others) = countsOf effects ++ countsOf others :=
  List.filterMap_append

@[simp] theorem countsOf_counted (counter : Counter) (amount : Nat) (effects : List Effect) :
    countsOf (.counted counter amount :: effects) = (counter, amount) :: countsOf effects := rfl

@[simp] theorem countsOf_called (call : Call) (effects : List Effect) :
    countsOf (.called call :: effects) = countsOf effects := rfl

@[simp] theorem countsOf_record (level : LogLevel) (message : String)
    (fields : List (String × Datum)) (effects : List Effect) :
    countsOf (Filter.record level message fields :: effects) = countsOf effects := rfl

@[simp] theorem countsOf_validation (trail : List Occurrence) :
    countsOf (trail.map Effect.validation) = [] := by
  induction trail with
  | nil => rfl
  | cons occurrence rest ih => exact ih

theorem countsOf_counts (advisories : List Advisory) :
    countsOf (advisories.map fun advisory => .counted (.advisories advisory) 1) =
      advisories.map fun advisory => (.advisories advisory, 1) := by
  induction advisories with
  | nil => rfl
  | cons advisory rest ih => simpa using ih

namespace Start

variable {α β : Type} {first : Start α} {next : α → Start β}

def CountsNothing (part : Start α) : Prop := ∀ filter, countsOf (part filter).effects = []

/-- What comes after a part adds nothing to its counts, if it counts nothing itself. -/
theorem countsOf_bind (hnext : ∀ a, (next a).CountsNothing) (filter : Filter) :
    countsOf ((first >>= next) filter).effects = countsOf (first filter).effects := by
  show countsOf (first.andThen next filter).effects = _
  unfold andThen
  dsimp only
  split
  · rename_i a _
    have hafter := hnext a (first filter).filter
    rw [countsOf_append, hafter, List.append_nil]
  · rfl

theorem CountsNothing.bind (hfirst : first.CountsNothing) (hnext : ∀ a, (next a).CountsNothing) :
    (first >>= next).CountsNothing := by
  intro filter
  rw [countsOf_bind hnext]
  exact hfirst filter

theorem CountsNothing.givingUp (hfirst : first.CountsNothing) (client : Nat) :
    (givingUp client first).CountsNothing := by
  intro filter
  have hdone := hfirst filter
  unfold Start.givingUp
  dsimp only
  split
  · exact hdone
  · rw [countsOf_append, hdone]
    rfl

theorem countsNothing_call (call : Call) (answer : Except (Stage × FilterFault) α) :
    (Start.call call answer).CountsNothing := fun _ => rfl

theorem countsNothing_change (update : Filter → Filter) : (change update).CountsNothing :=
  fun _ => rfl

theorem countsNothing_value (a : α) : (pure a : Start α).CountsNothing := fun _ => rfl

end Start

namespace Filter

variable {random : Uuid}

theorem countsNothing_holdClient (client : Nat) : (holdClient client).CountsNothing :=
  (Start.countsNothing_change _).bind fun _ => Start.countsNothing_value client

theorem countsNothing_openClient (collaborators : Collaborators) (connection : Connection) :
    (openClient collaborators connection).CountsNothing := by
  have hbuild (options : ClientOptions) :
      (buildClient collaborators connection options).CountsNothing := fun _ => rfl
  unfold openClient
  refine (hbuild {}).bind fun first => ?_
  have hasked : (askServerless collaborators first).CountsNothing := Start.countsNothing_call _ _
  refine (hasked.givingUp first).bind fun serverless => ?_
  split
  · have hdetected : (Start.emit [record .info "serverless cluster detected; pinning API version"
        [("api_version", .text pinnedApiVersion)]]).CountsNothing := fun _ => rfl
    have hreleased : (Start.emit [.called (.releaseClient first)]).CountsNothing := fun _ => rfl
    exact hdetected.bind fun _ => ((hbuild _).givingUp first).bind fun second =>
      hreleased.bind fun _ => countsNothing_holdClient second
  · exact countsNothing_holdClient first

theorem countsNothing_chooseGeoip (connection : Connection) :
    (chooseGeoip connection).CountsNothing := by
  intro filter
  show countsOf [geoipRecord (geoipSource connection filter.geoipManager)] = []
  cases geoipSource connection filter.geoipManager <;> rfl

theorem countsNothing_openEngine (collaborators : Collaborators) (client : Nat)
    (connection : Connection) (geoip : GeoipSource) :
    (openEngine collaborators client connection geoip).CountsNothing :=
  (Start.countsNothing_call _ _).bind fun _ => Start.countsNothing_change _

theorem countsNothing_checkPrivileges (collaborators : Collaborators) (client : Nat)
    (connection : Connection) :
    (checkPrivileges collaborators client connection).CountsNothing := by
  intro filter
  unfold checkPrivileges
  split
  · rfl
  · split <;> rfl
  · rfl

def advisoryCounts (filter : Filter) (random : Uuid) : List (Counter × Nat) :=
  match (filter.validator.validate random filter.options).outcome with
  | .ok validated => validated.advisories.map fun advisory => (.advisories advisory, 1)
  | .error _ => []

theorem countsOf_acceptSettings (filter : Filter) :
    countsOf (acceptSettings random filter).effects = filter.advisoryCounts random := by
  unfold acceptSettings advisoryCounts
  dsimp only
  cases (filter.validator.validate random filter.options).outcome with
  | error violation => exact countsOf_validation _
  | ok validated => simp [countsOf_counts]

/-- Wherever a start ends, it has counted the advisories of its settings and nothing else. -/
theorem countsOf_start (collaborators : Collaborators) (random : Uuid) (filter : Filter) :
    countsOf (start collaborators random filter).effects = filter.advisoryCounts random := by
  have hlater (connection : Connection) : (do
      let client ← openClient collaborators connection
      let geoip ← chooseGeoip connection
      openEngine collaborators client connection geoip
      checkPrivileges collaborators client connection
      checkLicense collaborators client : Start Unit).CountsNothing :=
    (countsNothing_openClient collaborators connection).bind fun client =>
      (countsNothing_chooseGeoip connection).bind fun geoip =>
        (countsNothing_openEngine collaborators client connection geoip).bind fun _ =>
          (countsNothing_checkPrivileges collaborators client connection).bind fun _ =>
            Start.countsNothing_call _ _
  rw [← filter.countsOf_acceptSettings]
  exact Start.countsOf_bind hlater filter

theorem countsOf_release (filter : Filter) : countsOf filter.release.effects = [] := by
  unfold release engineRelease geoipRelease clientRelease
  rcases filter.engine with _ | _ <;> rcases filter.geoip with _ | _ | _ | _ <;>
    rcases filter.client with _ | _ <;> rfl

end Filter

end ClusterLink
