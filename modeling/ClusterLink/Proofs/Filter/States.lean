import ClusterLink.Proofs.Filter.Phases

/-!
# States of a filter

What a filter holds in each of its states, and which operations are lawful in it. A filter holds
all of its parts while it runs and gives them up for good when it is closed; an operation that its
state does not allow names the state and leaves no trace.
-/

namespace ClusterLink

variable {collaborators : Collaborators} {filter : Filter} {random : Uuid}

def FilterState.next : FilterState → List FilterState
  | .created => [.running, .failed, .closed]
  | .running | .failed => [.closed]
  | .closed => []

namespace Filter

structure Bare (filter : Filter) : Prop extends filter.Empty where
  connection_eq : filter.connection = none
  advisories_eq : filter.advisories = []

structure Full (filter : Filter) : Prop where
  connection : filter.connection.isSome = true
  client : filter.client.isSome = true
  geoip : filter.geoip.isSome = true
  engine : filter.engine.isSome = true

/-- What the filter holds is what its state says. -/
structure Sound (filter : Filter) : Prop where
  bare : filter.state = .created ∨ filter.state = .failed → filter.Bare
  full : filter.state = .running → filter.Full
  empty : filter.state = .closed → filter.Empty

/-- The filter knows its settings exactly if it was started, and else has no advisories. -/
structure Remembers (filter : Filter) (transitions : List Transition) : Prop where
  connection_iff : filter.connection.isSome = true ↔
    ∃ t ∈ transitions, t.reply = .registered (.ok ())
  advisories_eq : filter.connection = none → filter.advisories = []

end Filter

def faultOf? {ε α : Type} : Except ε α → Option ε
  | .ok _ => none
  | .error fault => some fault

def Reply.fault? : Reply → Option FilterFault
  | .registered result => faultOf? result
  | .single result => faultOf? result
  | .batch result => faultOf? result
  | .closed => none

namespace Transition

def Idle (transition : Transition) : Prop :=
  transition.effects = [] ∧ transition.after = transition.before

/-- What the operation has to do in the state that it finds. -/
def Obeys (transition : Transition) : Prop :=
  match transition.turn.operation with
  | .register _ => transition.before.state ≠ .created →
      transition.reply = .registered (.error (.invalidState transition.before.state .created)) ∧
        transition.Idle
  | .filterOne _ =>
      transition.reply = .single (.error .singleEventUnsupported) ∧ transition.Idle
  | .multiFilter _ => transition.before.state ≠ .running →
      transition.reply = .batch (.error (.invalidState transition.before.state .running)) ∧
        transition.Idle
  | .close =>
      transition.after.connection = transition.before.connection ∧
        transition.after.advisories = transition.before.advisories ∧
        (transition.before.state = .closed → transition.Idle)

/-- The operation keeps to what the state of the filter allows. -/
structure Lawful (transition : Transition) : Prop where
  obeys : transition.Obeys
  state_next : transition.after.state = transition.before.state ∨
    transition.after.state ∈ transition.before.state.next
  /-- A complaint about the state names the state, and never the state that it asks for. -/
  states_differ : ∀ actual expected,
    transition.reply.fault? = some (.invalidState actual expected) →
      actual = transition.before.state ∧ actual ≠ expected ∧ transition.Idle

end Transition

/-! ## Starting -/

theorem Collaborators.privilegeFault?_ne {client : Nat} {connection : Connection}
    (actual expected : FilterState) :
    collaborators.privilegeFault? client connection ≠ some (.invalidState actual expected) := by
  unfold privilegeFault?
  split
  · simp
  · split <;> simp
  · simp

namespace Filter

theorem Started.full {calls : List Call} {after : Filter}
    (h : filter.Started collaborators random calls after (.ok ())) : after.Full := by
  cases h
  exact ⟨rfl, rfl, rfl, rfl⟩

/-- A start never fails because of the state of the filter. -/
theorem Started.fault_ne {calls : List Call} {after : Filter} {stage : Stage} {fault : FilterFault}
    (h : filter.Started collaborators random calls after (.error (stage, fault)))
    (actual expected : FilterState) : fault ≠ .invalidState actual expected := by
  cases h with
  | refused => simp
  | unopened _ hopening => cases hopening <;> simp
  | unbuilt => simp
  | ungranted _ _ _ hrefused =>
      rintro rfl
      exact Collaborators.privilegeFault?_ne actual expected hrefused
  | unlicensed => simp

/-- A filter that is started either holds all that it needs or nothing at all. -/
theorem register_of_created (hstate : filter.state = .created) (collaborators : Collaborators)
    (random : Uuid) :
    (filter.register collaborators random).result = .ok () ∧
        (filter.register collaborators random).filter.state = .running ∧
        (filter.register collaborators random).filter.Full ∨
      ∃ fault, (filter.register collaborators random).result = .error fault ∧
        (filter.register collaborators random).filter.state = .failed ∧
        (filter.register collaborators random).filter.Bare ∧
        ∀ actual expected, fault ≠ .invalidState actual expected := by
  obtain ⟨effects, after, result, hstart, hstarted⟩ := filter.start_started collaborators random
  cases result with
  | ok =>
      obtain ⟨fields, hregister⟩ := register_of_completed hstate hstart
      have hfull := hstarted.full
      rw [hregister]
      exact .inl ⟨rfl, rfl, hfull.connection, hfull.client, hfull.geoip, hfull.engine⟩
  | error failure =>
      obtain ⟨stage, fault⟩ := failure
      rw [register_of_failed hstate hstart]
      exact .inr ⟨fault, rfl, rfl, ⟨⟨rfl, rfl, rfl⟩, rfl, rfl⟩, hstarted.fault_ne⟩

/-! ## Processing and closing -/

theorem multiFilter_of_ne_running (hstate : filter.state ≠ .running)
    (collaborators : Collaborators) (events : List Event) :
    filter.multiFilter collaborators events =
      ⟨filter, [], .error (.invalidState filter.state .running)⟩ := by
  unfold multiFilter
  split
  · contradiction
  · rfl

theorem multiFilter_of_engine {client : Nat} (hstate : filter.state = .running)
    (hengine : filter.engine = some client) (collaborators : Collaborators)
    (events : List Event) :
    (filter.multiFilter collaborators events).filter =
        { filter with batches := filter.batches + 1 } ∧
      ∀ fault, (filter.multiFilter collaborators events).result = .error fault →
        ∃ cause, fault = .engine cause := by
  unfold multiFilter
  rw [hstate, hengine]
  refine ⟨rfl, fun fault hfault => ?_⟩
  dsimp only at hfault
  split at hfault
  · cases hfault
  · rename_i cause _
    cases hfault
    exact ⟨cause, rfl⟩

theorem close_of_closed (hstate : filter.state = .closed) : filter.close = ⟨filter, [], ()⟩ := by
  rw [close, if_pos hstate]

theorem close_keeps (filter : Filter) :
    filter.close.filter.connection = filter.connection ∧
      filter.close.filter.advisories = filter.advisories := by
  unfold close
  split
  · exact ⟨rfl, rfl⟩
  · exact ⟨rfl, rfl⟩

/-! ## Operations -/

theorem Sound.register (h : filter.Sound) (collaborators : Collaborators) (random : Uuid) :
    (filter.register collaborators random).filter.Sound := by
  by_cases hstate : filter.state = .created
  · rcases register_of_created hstate collaborators random with
      ⟨-, hrunning, hfull⟩ | ⟨fault, -, hfailed, hbare, -⟩
    · exact ⟨by simp [hrunning], fun _ => hfull, by simp [hrunning]⟩
    · exact ⟨fun _ => hbare, by simp [hfailed], by simp [hfailed]⟩
  · rw [register_of_ne_created hstate]
    exact h

theorem Sound.multiFilter (h : filter.Sound) (collaborators : Collaborators)
    (events : List Event) : (filter.multiFilter collaborators events).filter.Sound := by
  by_cases hstate : filter.state = .running
  · have hfull := h.full hstate
    obtain ⟨client, hengine⟩ := Option.isSome_iff_exists.1 hfull.engine
    rw [(multiFilter_of_engine hstate hengine collaborators events).1]
    refine ⟨by simp [hstate], fun _ => ?_, by simp [hstate]⟩
    exact ⟨hfull.connection, hfull.client, hfull.geoip, hfull.engine⟩
  · rw [multiFilter_of_ne_running hstate]
    exact h

theorem Sound.close (h : filter.Sound) : filter.close.filter.Sound := by
  by_cases hstate : filter.state = .closed
  · rw [close_of_closed hstate]
    exact h
  · have hclosed := filter.close_state
    exact ⟨by simp [hclosed], by simp [hclosed], fun _ => empty_close hstate⟩

/-- Every operation keeps what the state says of the parts of the filter. -/
theorem Sound.step (h : filter.Sound) (turn : Turn) : (filter.step turn).after.Sound := by
  obtain ⟨operation, collaborators⟩ := turn
  cases operation with
  | register random => exact h.register collaborators random
  | filterOne event => exact h
  | multiFilter events => exact h.multiFilter collaborators events
  | close => exact h.close

theorem obeys_step (filter : Filter) (turn : Turn) : (filter.step turn).Obeys := by
  obtain ⟨operation, collaborators⟩ := turn
  cases operation with
  | register random =>
      rw [step_register]
      intro hstate
      simp only [Transition.Idle, register_of_ne_created hstate, and_self]
  | filterOne event => exact ⟨rfl, rfl, rfl⟩
  | multiFilter events =>
      rw [step_multiFilter]
      intro hstate
      simp only [Transition.Idle, multiFilter_of_ne_running hstate, and_self]
  | close =>
      obtain ⟨hconnection, hadvisories⟩ := filter.close_keeps
      rw [step_close]
      refine ⟨hconnection, hadvisories, fun hstate => ?_⟩
      simp only [Transition.Idle, close_of_closed hstate, and_self]

theorem state_next_step (filter : Filter) (turn : Turn) :
    (filter.step turn).after.state = filter.state ∨
      (filter.step turn).after.state ∈ filter.state.next := by
  obtain ⟨operation, collaborators⟩ := turn
  cases operation with
  | register random =>
      rw [step_register]
      by_cases hstate : filter.state = .created
      · rcases register_of_created hstate collaborators random with
          ⟨-, hrunning, -⟩ | ⟨fault, -, hfailed, -⟩
        · simp [hrunning, hstate, FilterState.next]
        · simp [hfailed, hstate, FilterState.next]
      · rw [register_of_ne_created hstate]
        exact .inl rfl
  | filterOne event => exact .inl rfl
  | multiFilter events =>
      rw [step_multiFilter]
      unfold Filter.multiFilter
      split <;> exact .inl rfl
  | close =>
      rw [step_close, filter.close_state]
      cases filter.state <;> decide

/-- While the filter runs it has an engine, so no batch is refused for its state. -/
theorem Sound.states_differ (h : filter.Sound) (turn : Turn) {actual expected : FilterState}
    (hfault : (filter.step turn).reply.fault? = some (.invalidState actual expected)) :
    actual = filter.state ∧ actual ≠ expected ∧ (filter.step turn).Idle := by
  obtain ⟨operation, collaborators⟩ := turn
  cases operation with
  | register random =>
      by_cases hstate : filter.state = .created
      · rw [step_register, Reply.fault?] at hfault
        rcases register_of_created hstate collaborators random with
          ⟨hok, -⟩ | ⟨fault, herror, -, -, hne⟩
        · rw [hok] at hfault
          cases hfault
        · rw [herror] at hfault
          cases hfault
          exact absurd rfl (hne actual expected)
      · obtain ⟨hreply, hidle⟩ := filter.obeys_step ⟨.register random, collaborators⟩ hstate
        rw [hreply] at hfault
        cases hfault
        exact ⟨rfl, hstate, hidle⟩
  | filterOne event => cases hfault
  | multiFilter events =>
      by_cases hstate : filter.state = .running
      · obtain ⟨client, hengine⟩ := Option.isSome_iff_exists.1 (h.full hstate).engine
        have hfaults := (multiFilter_of_engine hstate hengine collaborators events).2
        rw [step_multiFilter, Reply.fault?] at hfault
        cases hresult : (filter.multiFilter collaborators events).result with
        | ok produced =>
            rw [hresult] at hfault
            cases hfault
        | error fault =>
            obtain ⟨cause, rfl⟩ := hfaults fault hresult
            rw [hresult] at hfault
            cases hfault
      · obtain ⟨hreply, hidle⟩ := filter.obeys_step ⟨.multiFilter events, collaborators⟩ hstate
        rw [hreply] at hfault
        cases hfault
        exact ⟨rfl, hstate, hidle⟩
  | close => cases hfault

theorem Sound.lawful (h : filter.Sound) (turn : Turn) : (filter.step turn).Lawful where
  obeys := filter.obeys_step turn
  state_next := by
    rw [filter.step_before]
    exact filter.state_next_step turn
  states_differ actual expected hfault := by
    rw [filter.step_before]
    exact h.states_differ turn hfault

/-! ## Settings -/

theorem connection_multiFilter (filter : Filter) (events : List Event) :
    (filter.multiFilter collaborators events).filter.connection = filter.connection ∧
      (filter.multiFilter collaborators events).filter.advisories = filter.advisories := by
  unfold multiFilter
  split <;> exact ⟨rfl, rfl⟩

theorem Sound.connection_isSome_step (h : filter.Sound) (turn : Turn) :
    (filter.step turn).after.connection.isSome = true ↔
      filter.connection.isSome = true ∨ (filter.step turn).reply = .registered (.ok ()) := by
  obtain ⟨operation, collaborators⟩ := turn
  cases operation with
  | register random =>
      rw [step_register]
      by_cases hstate : filter.state = .created
      · have hnone := (h.bare (.inl hstate)).connection_eq
        rcases register_of_created hstate collaborators random with
          ⟨hok, -, hfull⟩ | ⟨fault, herror, -, hbare, -⟩
        · simp [hok, hfull.connection]
        · simp [herror, hbare.connection_eq, hnone]
      · simp [register_of_ne_created hstate]
  | filterOne event => simp
  | multiFilter events => simp [(filter.connection_multiFilter events).1]
  | close => simp [filter.close_keeps.1]

theorem advisories_step (turn : Turn)
    (hknown : filter.connection = none → filter.advisories = []) :
    (filter.step turn).after.connection = none → (filter.step turn).after.advisories = [] := by
  obtain ⟨operation, collaborators⟩ := turn
  cases operation with
  | register random =>
      rw [step_register]
      by_cases hstate : filter.state = .created
      · rcases register_of_created hstate collaborators random with
          ⟨-, -, hfull⟩ | ⟨fault, -, -, hbare, -⟩
        · intro hnone
          have hsome := hfull.connection
          dsimp only at hnone
          rw [hnone] at hsome
          cases hsome
        · exact fun _ => hbare.advisories_eq
      · rw [register_of_ne_created hstate]
        exact hknown
  | filterOne event => exact hknown
  | multiFilter events =>
      obtain ⟨hconnection, hadvisories⟩ := filter.connection_multiFilter events
      rw [step_multiFilter, hconnection, hadvisories]
      exact hknown
  | close =>
      obtain ⟨hconnection, hadvisories⟩ := filter.close_keeps
      rw [step_close, hconnection, hadvisories]
      exact hknown

theorem Remembers.step {done : List Transition} (h : filter.Remembers done) (hsound : filter.Sound)
    (turn : Turn) :
    (filter.step turn).after.Remembers (done ++ [filter.step turn]) where
  connection_iff := by
    rw [hsound.connection_isSome_step turn, h.connection_iff]
    simp [or_and_right, exists_or]
  advisories_eq := advisories_step turn h.advisories_eq

/-- Every run keeps what the state says of the parts of the filter, and what it knows. -/
theorem Sound.run {done : List Transition} (h : filter.Sound) (hremembers : filter.Remembers done)
    (turns : List Turn) :
    (filter.ranTo turns).Sound ∧ (filter.ranTo turns).Remembers (done ++ filter.run turns) := by
  induction turns generalizing filter done with
  | nil => simpa [ranTo, Filter.run] using ⟨h, hremembers⟩
  | cons turn rest ih =>
      have hrest := ih (h.step turn) (hremembers.step h turn)
      simpa [ranTo, Filter.run] using hrest

theorem sound_built (options : Options) (validator : Validator) (addTags : List String)
    (geoipManager : Option String) : (built options validator addTags geoipManager).Sound where
  bare _ := ⟨⟨rfl, rfl, rfl⟩, rfl, rfl⟩
  full h := by cases h
  empty h := by cases h

/-- However a filter was used, it holds what its state says, and its next operation is lawful. -/
theorem sound_and_lawful_ranTo (options : Options) (validator : Validator) (addTags : List String)
    (geoipManager : Option String) (turns : List Turn) :
    ((built options validator addTags geoipManager).ranTo turns).Sound ∧
      ((built options validator addTags geoipManager).ranTo turns).Remembers
        ((built options validator addTags geoipManager).run turns) ∧
      ∀ turn, (((built options validator addTags geoipManager).ranTo turns).step turn).Lawful := by
  have hfresh : (built options validator addTags geoipManager).Remembers [] :=
    ⟨by simp [built], fun _ => rfl⟩
  have hsound := sound_built options validator addTags geoipManager
  obtain ⟨hran, hremembers⟩ := hsound.run hfresh turns
  exact ⟨hran, hremembers, hran.lawful⟩

end Filter

end ClusterLink
