import ClusterLink.Proofs.Filter.Order

/-!
# Phases of a filter

What a filter holds in each phase of its life, given what it has called. Every operation keeps
`Phase` and the order of calls, whatever the collaborators answer; a filter that has given up what
it held stays silent.
-/

namespace ClusterLink

variable {calls : List Exchange} {collaborators : Collaborators} {filter : Filter}
  {random : Uuid}

/-! ## Starting -/

namespace Exchange

def Granted (exchange : Exchange) (client : Nat) (connection : Connection) : Prop :=
  exchange.call = .checkPrivileges client ∧ exchange.collaborators.Grants client connection

def Licensed (exchange : Exchange) (client : Nat) : Prop :=
  exchange.call = .checkLicense client ∧ exchange.collaborators.checkLicense client = .ok ()

end Exchange

def Ready (calls : List Exchange) (connection : Connection) : Prop :=
  ∃ client source, (∃ x ∈ calls, x.Built client connection source) ∧
    (∃ x ∈ calls, x.Granted client connection) ∧ ∃ x ∈ calls, x.Licensed client

theorem Ready.append {connection : Connection} (h : Ready calls connection)
    (others : List Exchange) : Ready (calls ++ others) connection := by
  obtain ⟨client, source, ⟨x, hx, hbuilt⟩, ⟨y, hy, hgranted⟩, z, hz, hlicensed⟩ := h
  exact ⟨client, source, ⟨x, List.mem_append_left _ hx, hbuilt⟩,
    ⟨y, List.mem_append_left _ hy, hgranted⟩, z, List.mem_append_left _ hz, hlicensed⟩

theorem Opening.isFree {connection : Connection} {number : Nat} {opening : List Call}
    {result : Except (Stage × FilterFault) Nat}
    (h : Opening collaborators connection number opening result) :
    ∀ x ∈ opening.map (Exchange.mk collaborators), x.call.isFree = true := by
  cases h <;> simp [Call.isFree]

theorem holding_of_free {opening : List Exchange} (hfree : ∀ x ∈ opening, x.call.isFree = true)
    (hengine : filter.engine = none) (hgeoip : filter.geoip = none) : Holding opening filter where
  built_iff := by
    refine ⟨?_, fun hsome => absurd hengine hsome⟩
    rintro ⟨x, hx, hbuilt⟩
    exact absurd (hfree x hx) hbuilt.not_free
  handed provider hmanaged := by
    rw [hgeoip] at hmanaged
    cases hmanaged
  unclosed x hx := (Call.isFree_spec (hfree x hx)).2

section Asked

variable {opening checks : List Exchange} {client : Nat} {connection : Connection}
  {source : GeoipSource}

/-- A filter that asks for one engine, before and after calls that may be made at any time. -/
theorem holding_of_asked (hopening : ∀ x ∈ opening, x.call.isFree = true)
    (hchecks : ∀ x ∈ checks, x.call.isFree = true)
    (hgeoip : filter.geoip = some source)
    (hengine : collaborators.buildEngine client connection source = .ok () ↔
      filter.engine ≠ none) :
    Holding (opening ++ ⟨collaborators, .buildEngine client connection source⟩ :: checks)
      filter where
  built_iff := by
    rw [← hengine]
    constructor
    · rintro ⟨x, hx, hbuilt⟩
      rcases List.mem_append.1 hx with hx | hx
      · exact absurd (hopening x hx) hbuilt.not_free
      · rcases List.mem_cons.1 hx with rfl | hx
        · obtain ⟨_, _, _, hcall, hok⟩ := hbuilt
          cases hcall
          exact hok
        · exact absurd (hchecks x hx) hbuilt.not_free
    · intro hok
      exact ⟨_, List.mem_append_right _ List.mem_cons_self, client, connection, source, rfl, hok⟩
  handed provider hmanaged := by
    rw [hgeoip] at hmanaged
    cases hmanaged
    exact ⟨_, List.mem_append_right _ List.mem_cons_self, client, connection, rfl⟩
  unclosed x hx := by
    rcases List.mem_append.1 hx with hx | hx
    · exact (Call.isFree_spec (hopening x hx)).2
    · rcases List.mem_cons.1 hx with rfl | hx
      · exact ⟨rfl, rfl⟩
      · exact (Call.isFree_spec (hchecks x hx)).2

theorem orderly_of_asked (hopening : ∀ x ∈ opening, x.call.isFree = true)
    (hchecks : ∀ x ∈ checks, x.call.isFree = true) :
    Orderly (opening ++ ⟨collaborators, .buildEngine client connection source⟩ :: checks) := by
  have hstart : Orderly opening := by simpa using Orderly.nil.append_free hopening
  have hallowed : Allowed opening ⟨collaborators, .buildEngine client connection source⟩ :=
    fun x hx => (Call.isFree_spec (hopening x hx)).1
  simpa using (hstart.concat hallowed).append_free hchecks

end Asked

/-- However a start ends, its calls are orderly, and the filter holds what they ask for. -/
theorem Filter.Started.holding {opening : List Call} {after : Filter}
    {result : Except (Stage × FilterFault) Unit}
    (h : filter.Started collaborators random opening after result) (hempty : filter.Empty) :
    Holding (opening.map (Exchange.mk collaborators)) after ∧
      Orderly (opening.map (Exchange.mk collaborators)) := by
  cases h with
  | refused hrefused =>
      exact ⟨holding_of_free (by simp) hempty.engine_eq hempty.geoip_eq, Orderly.nil⟩
  | unopened haccepted hopening =>
      refine ⟨holding_of_free hopening.isFree hempty.engine_eq hempty.geoip_eq, ?_⟩
      simpa using Orderly.nil.append_free hopening.isFree
  | unbuilt haccepted hopening hengine =>
      rw [List.map_append]
      refine ⟨holding_of_asked hopening.isFree (by simp) rfl ?_,
        orderly_of_asked hopening.isFree (by simp)⟩
      rw [hengine]
      simpa [Filter.readied, Filter.accepting] using hempty.engine_eq
  | ungranted haccepted hopening hengine hrefused =>
      rw [List.map_append]
      refine ⟨holding_of_asked hopening.isFree (by simp [Call.isFree]) rfl ?_,
        orderly_of_asked hopening.isFree (by simp [Call.isFree])⟩
      simp [hengine, Filter.equipped]
  | unlicensed haccepted hopening hengine hgrants hlicense =>
      rw [List.map_append]
      refine ⟨holding_of_asked hopening.isFree (by simp [Call.isFree]) rfl ?_,
        orderly_of_asked hopening.isFree (by simp [Call.isFree])⟩
      simp [hengine, Filter.equipped]
  | completed haccepted hopening hengine hgrants hlicense =>
      rw [List.map_append]
      refine ⟨holding_of_asked hopening.isFree (by simp [Call.isFree]) rfl ?_,
        orderly_of_asked hopening.isFree (by simp [Call.isFree])⟩
      simp [hengine, Filter.equipped]

theorem Filter.Started.ready {opening : List Call} {after : Filter}
    (h : filter.Started collaborators random opening after (.ok ())) :
    ∃ connection, after.connection = some connection ∧
      Ready (opening.map (Exchange.mk collaborators)) connection := by
  cases h with
  | @completed validated opening attempts client haccepted hopening hengine hgrants hlicense =>
      refine ⟨validated.connection, rfl, client, filter.sourceFor validated, ?_, ?_, ?_⟩
      · exact ⟨⟨collaborators, filter.engineCall validated client⟩, by simp, rfl, hengine⟩
      · exact ⟨⟨collaborators, .checkPrivileges client⟩, by simp, rfl, hgrants⟩
      · exact ⟨⟨collaborators, .checkLicense client⟩, by simp, rfl, hlicense⟩

/-! ## Phases -/

inductive Phase (calls : List Exchange) (filter : Filter) : Prop
  | created (hstate : filter.state = .created) (hempty : filter.Empty) (hcalls : calls = [])
  | running (hstate : filter.state = .running) (hholding : Holding calls filter)
      (hready : ∃ connection, filter.connection = some connection ∧ Ready calls connection)
  | released (hstate : filter.state = .failed ∨ filter.state = .closed) (hempty : filter.Empty)
      (hclosed : (∃ x ∈ calls, x.BuiltSome) → ∃ x ∈ calls, x.call.closesEngine = true)

/-- The filter has given up what it held, or has never held anything and never will. -/
def Filter.Finished (filter : Filter) : Prop :=
  filter.state = .failed ∨ filter.state = .closed

namespace Filter

theorem register_of_ne_created (h : filter.state ≠ .created) :
    filter.register collaborators random =
      ⟨filter, [], .error (.invalidState filter.state .created)⟩ := by
  rw [register, if_pos h]

theorem register_of_completed {after : Filter} {effects : List Effect}
    (hstate : filter.state = .created)
    (hstart : start collaborators random filter = ⟨after, effects, .ok ()⟩) :
    ∃ fields, filter.register collaborators random =
      ⟨{ after with state := .running },
        effects ++ [record .info "elastic_integration filter registered" fields], .ok ()⟩ := by
  rw [register, if_neg (not_not_intro hstate)]
  dsimp only
  rw [hstart]
  exact ⟨_, rfl⟩

theorem register_of_failed {after : Filter} {effects : List Effect} {stage : Stage}
    {fault : FilterFault} (hstate : filter.state = .created)
    (hstart : start collaborators random filter = ⟨after, effects, .error (stage, fault)⟩) :
    filter.register collaborators random =
      ⟨{ after.release.filter with connection := none, advisories := [], state := .failed },
        effects ++ startFailure stage fault ++ after.release.effects, .error fault⟩ := by
  rw [register, if_neg (not_not_intro hstate)]
  dsimp only
  rw [hstart]

end Filter

theorem Phase.register (h : Phase calls filter) (horder : Orderly calls)
    (collaborators : Collaborators) (random : Uuid) :
    Phase (calls ++ exchangesOf collaborators (filter.register collaborators random).effects)
        (filter.register collaborators random).filter ∧
      Orderly
        (calls ++ exchangesOf collaborators (filter.register collaborators random).effects) := by
  by_cases hstate : filter.state = .created
  · cases h with
    | running hrunning => simp [hstate] at hrunning
    | released hreleased => simp [hstate] at hreleased
    | created _ hempty hcalls =>
        subst hcalls
        obtain ⟨effects, after, result, hstart, hstarted⟩ :=
          filter.start_started collaborators random
        obtain ⟨hholding, horderly⟩ := hstarted.holding hempty
        rw [List.nil_append]
        cases result with
        | ok =>
            obtain ⟨fields, hregister⟩ := Filter.register_of_completed hstate hstart
            rw [hregister, exchangesOf, callsOf_append, callsOf_record, callsOf_nil,
              List.append_nil]
            have hrunning : Holding ((callsOf effects).map (Exchange.mk collaborators))
                { after with state := .running } :=
              ⟨hholding.built_iff, hholding.handed, hholding.unclosed⟩
            exact ⟨.running rfl hrunning hstarted.ready, horderly⟩
        | error failure =>
            obtain ⟨stage, fault⟩ := failure
            have hsilent : exchangesOf collaborators (Filter.startFailure stage fault) = [] := rfl
            rw [Filter.register_of_failed hstate hstart, exchangesOf_append, exchangesOf_append,
              hsilent, List.append_nil]
            exact ⟨.released (.inl rfl) ⟨rfl, rfl, rfl⟩ (hholding.closed_release collaborators),
              hholding.orderly_release horderly collaborators⟩
  · rw [Filter.register_of_ne_created hstate]
    simpa [exchangesOf] using ⟨h, horder⟩

theorem callsOf_matches (count : Nat) (effects : List Effect) :
    callsOf (List.replicate count Filter.matchEffect ++ effects) = callsOf effects := by
  induction count with
  | zero => rfl
  | succ count ih => exact ih

theorem callsOf_processEffects (events : List Event) (processed : Processed) :
    callsOf (Filter.processEffects events processed) = [.process events.length] := by
  rw [Filter.processEffects, List.append_assoc, callsOf_append, callsOf_matches]
  split <;> rfl

theorem Holding.append_free {exchange : Exchange} (h : Holding calls filter)
    (hfree : exchange.call.isFree = true) : Holding (calls ++ [exchange]) filter where
  built_iff := by
    rw [← h.built_iff]
    constructor
    · rintro ⟨x, hx, hbuilt⟩
      rcases List.mem_append.1 hx with hx | hx
      · exact ⟨x, hx, hbuilt⟩
      · rw [List.mem_singleton.1 hx] at hbuilt
        exact absurd hfree hbuilt.not_free
    · rintro ⟨x, hx, hbuilt⟩
      exact ⟨x, List.mem_append_left _ hx, hbuilt⟩
  handed provider hmanaged := by
    obtain ⟨x, hx, hhanded⟩ := h.handed provider hmanaged
    exact ⟨x, List.mem_append_left _ hx, hhanded⟩
  unclosed x hx := by
    rcases List.mem_append.1 hx with hx | hx
    · exact h.unclosed x hx
    · rw [List.mem_singleton.1 hx]
      exact (Call.isFree_spec hfree).2

theorem Phase.multiFilter (h : Phase calls filter) (horder : Orderly calls)
    (collaborators : Collaborators) (events : List Event) :
    Phase (calls ++ exchangesOf collaborators (filter.multiFilter collaborators events).effects)
        (filter.multiFilter collaborators events).filter ∧
      Orderly
        (calls ++ exchangesOf collaborators (filter.multiFilter collaborators events).effects) := by
  unfold Filter.multiFilter
  split
  · rename_i client hstate hengine
    rw [exchangesOf, callsOf_processEffects]
    cases h with
    | created hcreated => simp [hstate] at hcreated
    | released hreleased => simp [hstate] at hreleased
    | running _ hholding hready =>
        obtain ⟨connection, hconnection, hready⟩ := hready
        have hkept : Holding (calls ++ [⟨collaborators, .process events.length⟩]) filter :=
          hholding.append_free rfl
        have hafter : Holding (calls ++ [⟨collaborators, .process events.length⟩])
            { filter with batches := filter.batches + 1 } :=
          ⟨hkept.built_iff, hkept.handed, hkept.unclosed⟩
        exact ⟨.running hstate hafter ⟨connection, hconnection, hready.append _⟩,
          horder.concat (allowed_of_isFree rfl)⟩
  · simpa [exchangesOf] using ⟨h, horder⟩

theorem exchangesOf_release_of_empty (h : filter.Empty) (collaborators : Collaborators) :
    exchangesOf collaborators filter.release.effects = [] := by
  obtain ⟨hengine, hgeoip, hclient⟩ := h
  simp [Filter.release, Filter.engineRelease, Filter.geoipRelease, Filter.clientRelease, hengine,
    hgeoip, hclient, exchangesOf]

theorem exchangesOf_close (hstate : filter.state ≠ .closed) (collaborators : Collaborators) :
    exchangesOf collaborators filter.close.effects =
      exchangesOf collaborators filter.release.effects := by
  rw [Filter.close, if_neg hstate]
  simp [exchangesOf]

theorem Filter.close_state (filter : Filter) : filter.close.filter.state = .closed := by
  unfold close
  split
  · assumption
  · rfl

theorem Filter.empty_close (hstate : filter.state ≠ .closed) : filter.close.filter.Empty := by
  rw [close, if_neg hstate]
  exact ⟨rfl, rfl, rfl⟩

theorem Phase.close (h : Phase calls filter) (horder : Orderly calls)
    (collaborators : Collaborators) :
    Phase (calls ++ exchangesOf collaborators filter.close.effects) filter.close.filter ∧
      Orderly (calls ++ exchangesOf collaborators filter.close.effects) := by
  by_cases hstate : filter.state = .closed
  · have hclose : filter.close = ⟨filter, [], ()⟩ := by rw [Filter.close, if_pos hstate]
    rw [hclose]
    simpa [exchangesOf] using ⟨h, horder⟩
  · have hclosed : filter.close.filter.Finished := .inr filter.close_state
    have hafter := Filter.empty_close hstate
    rw [exchangesOf_close hstate]
    cases h with
    | created _ hempty hcalls =>
        rw [exchangesOf_release_of_empty hempty, List.append_nil]
        refine ⟨.released hclosed hafter ?_, horder⟩
        simp [hcalls]
    | running _ hholding hready =>
        exact ⟨.released hclosed hafter (hholding.closed_release collaborators),
          hholding.orderly_release horder collaborators⟩
    | released _ hempty hbuilt =>
        rw [exchangesOf_release_of_empty hempty, List.append_nil]
        exact ⟨.released hclosed hafter hbuilt, horder⟩

/-- Every operation keeps the phase and the order of calls. -/
theorem Phase.step (h : Phase calls filter) (horder : Orderly calls) (turn : Turn) :
    Phase (calls ++ (filter.step turn).exchanges) (filter.step turn).after ∧
      Orderly (calls ++ (filter.step turn).exchanges) := by
  obtain ⟨operation, collaborators⟩ := turn
  cases operation with
  | register random => exact h.register horder collaborators random
  | filterOne event =>
      have hsilent : (filter.step ⟨.filterOne event, collaborators⟩).exchanges = [] := rfl
      rw [hsilent, List.append_nil]
      exact ⟨h, horder⟩
  | multiFilter events => exact h.multiFilter horder collaborators events
  | close => exact h.close horder collaborators

/-- Every run keeps the phase and the order of calls. -/
theorem Phase.run (h : Phase calls filter) (horder : Orderly calls) (turns : List Turn) :
    Phase (calls ++ history (filter.run turns)) (filter.ranTo turns) ∧
      Orderly (calls ++ history (filter.run turns)) := by
  -- The calls so far are part of the invariant, so they vary with the filter.
  induction turns generalizing calls filter with
  | nil => simpa [history, Filter.run] using ⟨h, horder⟩
  | cons turn rest ih =>
      obtain ⟨hphase, horderly⟩ := h.step horder turn
      rw [Filter.run, history_cons, ← List.append_assoc]
      exact ih hphase horderly

/-! ## Processing -/

theorem Filter.Started.not_process {opening : List Call} {after : Filter}
    {result : Except (Stage × FilterFault) Unit}
    (h : filter.Started collaborators random opening after result) (events : Nat) :
    .process events ∉ opening := by
  have hopening {connection : Connection} {number : Nat} {opening : List Call}
      {result : Except (Stage × FilterFault) Nat}
      (hopened : Opening collaborators connection number opening result) :
      .process events ∉ opening := by
    cases hopened <;> simp
  cases h with
  | refused => simp
  | unopened _ hopened => exact hopening hopened
  | unbuilt _ hopened => simpa [Filter.engineCall] using hopening hopened
  | ungranted _ hopened => simpa [Filter.engineCall] using hopening hopened
  | unlicensed _ hopened => simpa [Filter.engineCall] using hopening hopened
  | completed _ hopened => simpa [Filter.engineCall] using hopening hopened

theorem Filter.not_process_register (filter : Filter) {exchange : Exchange} {events : Nat}
    (h : exchange ∈ exchangesOf collaborators (filter.register collaborators random).effects) :
    exchange.call ≠ .process events := by
  by_cases hstate : filter.state = .created
  · obtain ⟨effects, after, result, hstart, hstarted⟩ := filter.start_started collaborators random
    have hquiet : ∀ x ∈ exchangesOf collaborators effects, x.call ≠ .process events := by
      rintro x hx hcall
      obtain ⟨call, hmem, rfl⟩ := List.mem_map.1 hx
      exact hstarted.not_process events (hcall ▸ hmem)
    cases result with
    | ok =>
        obtain ⟨fields, hregister⟩ := register_of_completed hstate hstart
        rw [hregister, exchangesOf, callsOf_append, callsOf_record, callsOf_nil,
          List.append_nil] at h
        exact hquiet exchange h
    | error failure =>
        obtain ⟨stage, fault⟩ := failure
        have hsilent : exchangesOf collaborators (startFailure stage fault) = [] := rfl
        rw [register_of_failed hstate hstart, exchangesOf_append, exchangesOf_append, hsilent,
          List.append_nil] at h
        rcases List.mem_append.1 h with h | h
        · exact hquiet exchange h
        · rcases call_of_mem_release h with hcall | ⟨_, hcall⟩ | ⟨_, hcall⟩ <;> simp [hcall]
  · rw [register_of_ne_created hstate] at h
    cases h

theorem Filter.not_process_close (filter : Filter) {exchange : Exchange} {events : Nat}
    (h : exchange ∈ exchangesOf collaborators filter.close.effects) :
    exchange.call ≠ .process events := by
  by_cases hstate : filter.state = .closed
  · rw [close, if_pos hstate] at h
    cases h
  · rw [exchangesOf_close hstate] at h
    rcases call_of_mem_release h with hcall | ⟨_, hcall⟩ | ⟨_, hcall⟩ <;> simp [hcall]

/-- Events are processed only by an engine that is ready, and nothing else is called then. -/
theorem Phase.processed (h : Phase calls filter) {turn : Turn} {exchange : Exchange} {events : Nat}
    (hmem : exchange ∈ (filter.step turn).exchanges) (hcall : exchange.call = .process events) :
    (filter.step turn).exchanges = [exchange] ∧
      (∃ connection, filter.connection = some connection ∧ Ready calls connection) ∧
      ∀ x ∈ calls, x.call.closesEngine = false := by
  obtain ⟨operation, collaborators⟩ := turn
  cases operation with
  | register random => exact absurd hcall (filter.not_process_register hmem)
  | filterOne event => cases hmem
  | close => exact absurd hcall (filter.not_process_close hmem)
  | multiFilter batch =>
      change exchange ∈ exchangesOf collaborators (filter.multiFilter collaborators batch).effects
        at hmem
      change exchangesOf collaborators (filter.multiFilter collaborators batch).effects = _ ∧ _
      unfold Filter.multiFilter at hmem ⊢
      split at hmem
      · rename_i client hstate hengine
        rw [exchangesOf, callsOf_processEffects] at hmem
        cases List.mem_singleton.1 hmem
        rw [hstate, hengine, exchangesOf, callsOf_processEffects]
        cases h with
        | created hcreated => simp [hstate] at hcreated
        | released hreleased => simp [hstate] at hreleased
        | running _ hholding hready =>
            exact ⟨rfl, hready, fun x hx => (hholding.unclosed x hx).1⟩
      · cases hmem

/-! ## Silence -/

/-- The operation gives up all that the filter holds: a close, or a start that fails. -/
def Transition.Releases (transition : Transition) : Prop :=
  transition.turn.operation = .close ∨
    transition.before.state = .created ∧
      ∃ fault, transition.reply = .registered (.error fault)

theorem Filter.finished_of_releases {turn : Turn} (h : (filter.step turn).Releases) :
    (filter.step turn).after.Finished := by
  obtain ⟨operation, collaborators⟩ := turn
  cases operation with
  | close => exact .inr filter.close_state
  | filterOne event => simp [Transition.Releases, step] at h
  | multiFilter events => simp [Transition.Releases, step] at h
  | register random =>
      simp only [Transition.Releases, step, reduceCtorEq, false_or, Reply.registered.injEq] at h
      obtain ⟨hstate, fault, hfault⟩ := h
      obtain ⟨effects, after, result, hstart, -⟩ := filter.start_started collaborators random
      change (filter.register collaborators random).filter.Finished
      cases result with
      | ok =>
          obtain ⟨fields, hregister⟩ := register_of_completed hstate hstart
          rw [hregister] at hfault
          cases hfault
      | error failure =>
          rw [register_of_failed hstate hstart]
          exact .inl rfl

theorem Phase.released_of_finished (h : Phase calls filter) (hfinished : filter.Finished) :
    filter.Empty ∧ ((∃ x ∈ calls, x.BuiltSome) → ∃ x ∈ calls, x.call.closesEngine = true) := by
  cases h with
  | created hstate => simp [Filter.Finished, hstate] at hfinished
  | running hstate => simp [Filter.Finished, hstate] at hfinished
  | released hstate hempty hclosed => exact ⟨hempty, hclosed⟩

theorem Filter.step_of_finished (hfinished : filter.Finished) (hempty : filter.Empty)
    (turn : Turn) :
    (filter.step turn).exchanges = [] ∧ (filter.step turn).after.Finished ∧
      (filter.step turn).after.Empty := by
  obtain ⟨operation, collaborators⟩ := turn
  cases operation with
  | register random =>
      have hstate : filter.state ≠ .created := by
        rcases hfinished with h | h <;> simp [h]
      change exchangesOf collaborators (filter.register collaborators random).effects = [] ∧
        (filter.register collaborators random).filter.Finished ∧
        (filter.register collaborators random).filter.Empty
      rw [register_of_ne_created hstate]
      exact ⟨rfl, hfinished, hempty⟩
  | filterOne event => exact ⟨rfl, hfinished, hempty⟩
  | multiFilter events =>
      change exchangesOf collaborators (filter.multiFilter collaborators events).effects = [] ∧
        (filter.multiFilter collaborators events).filter.Finished ∧
        (filter.multiFilter collaborators events).filter.Empty
      have hidle : filter.multiFilter collaborators events =
          ⟨filter, [], .error (.invalidState filter.state .running)⟩ := by
        unfold multiFilter
        split
        · rename_i client hstate hengine
          rw [hempty.engine_eq] at hengine
          cases hengine
        · rfl
      rw [hidle]
      exact ⟨rfl, hfinished, hempty⟩
  | close =>
      change exchangesOf collaborators filter.close.effects = [] ∧
        filter.close.filter.Finished ∧ filter.close.filter.Empty
      by_cases hstate : filter.state = .closed
      · have hidle : filter.close = ⟨filter, [], ()⟩ := by rw [close, if_pos hstate]
        rw [hidle]
        exact ⟨rfl, hfinished, hempty⟩
      · rw [exchangesOf_close hstate, exchangesOf_release_of_empty hempty]
        exact ⟨rfl, .inr filter.close_state, empty_close hstate⟩

theorem Filter.run_of_finished (hfinished : filter.Finished) (hempty : filter.Empty)
    (turns : List Turn) : ∀ t ∈ filter.run turns, t.exchanges = [] := by
  induction turns generalizing filter with
  | nil => simp [run]
  | cons turn rest ih =>
      obtain ⟨hsilent, hstill, hnothing⟩ := filter.step_of_finished hfinished hempty turn
      rw [run, List.forall_mem_cons]
      exact ⟨hsilent, ih hstill hnothing⟩

end ClusterLink
