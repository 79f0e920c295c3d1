import ClusterLink.Proofs.Filter.Counts
import ClusterLink.Proofs.Filter.States
import Mathlib.Algebra.BigOperators.Group.List.Basic
import Mathlib.Algebra.GroupWithZero.Nat

/-!
# Accounting for a run

The counters of a filter after any number of its operations, against what the operations have done:
the batches that reached the engine and came back from it, the matches that it reported, the start
that failed, and the warnings of the validation. Every operation balances by itself; a run adds up.
-/

namespace ClusterLink

variable {counter other : Counter} {collaborators : Collaborators} {filter : Filter}
  {random : Uuid}

/-! ## Counters -/

def Metrics.value (metrics : Metrics) (counter : Counter) : Nat := (metrics.lookup counter).getD 0

/-- How far counts take a counter. -/
def tally (counter : Counter) (counts : List (Counter × Nat)) : Nat :=
  (counts.map fun count => if count.1 = counter then count.2 else 0).sum

def metricsOf (transitions : List Transition) : Metrics :=
  (transitions.flatMap Transition.effects).foldl Effect.count []

namespace Metrics

theorem value_cons (entry : Counter × Nat) (metrics : Metrics) (counter : Counter) :
    value (entry :: metrics) counter =
      if entry.1 = counter then entry.2 else value metrics counter := by
  unfold value
  rw [List.lookup_cons]
  by_cases h : entry.1 = counter
  · simp [h]
  · have hne : (counter == entry.1) = false := beq_eq_false_iff_ne.2 (Ne.symm h)
    rw [hne, if_neg h]

theorem value_add (metrics : Metrics) (counter other : Counter) (amount : Nat) :
    (metrics.add counter amount).value other =
      metrics.value other + if counter = other then amount else 0 := by
  induction metrics with
  | nil =>
      have hnone : value [] other = 0 := rfl
      rw [add, value_cons, hnone, Nat.zero_add]
  | cons entry rest ih =>
      unfold add
      by_cases hentry : entry.1 = counter
      · by_cases hother : counter = other <;> simp [value_cons, hentry, hother]
      · rw [if_neg hentry, value_cons, value_cons, ih]
        by_cases hother : entry.1 = other
        · have hne : counter ≠ other := fun h => hentry (hother.trans h.symm)
          simp [hother, hne]
        · simp [hother]

end Metrics

@[simp] theorem tally_nil : tally counter [] = 0 := rfl

@[simp] theorem tally_cons (count : Counter × Nat) (counts : List (Counter × Nat)) :
    tally counter (count :: counts) =
      (if count.1 = counter then count.2 else 0) + tally counter counts := by
  simp [tally]

@[simp] theorem tally_append (counts others : List (Counter × Nat)) :
    tally counter (counts ++ others) = tally counter counts + tally counter others := by
  simp [tally]

theorem tally_replicate (times : Nat) :
    tally counter (List.replicate times (other, 1)) = if other = counter then times else 0 := by
  induction times with
  | zero => simp
  | succ times ih =>
      rw [List.replicate_succ, tally_cons, ih]
      split <;> omega

theorem value_foldl_count (effects : List Effect) (metrics : Metrics) :
    (effects.foldl Effect.count metrics).value counter =
      metrics.value counter + tally counter (countsOf effects) := by
  induction effects generalizing metrics with
  | nil => simp
  | cons effect rest ih =>
      rw [List.foldl_cons, ih]
      cases effect with
      | counted counted amount =>
          rw [Effect.count, Metrics.value_add, countsOf_counted, tally_cons, Nat.add_assoc]
      | validation occurrence => rfl
      | called call => rfl
      | logged record => rfl

/-- The counters of a run are the sums of what its operations count. -/
theorem value_metricsOf (transitions : List Transition) :
    (metricsOf transitions).value counter =
      (transitions.map fun t => tally counter (countsOf t.effects)).sum := by
  rw [metricsOf, value_foldl_count]
  have hnone : Metrics.value [] counter = 0 := rfl
  rw [hnone, Nat.zero_add]
  induction transitions with
  | nil => rfl
  | cons t rest ih => rw [List.flatMap_cons, countsOf_append, tally_append, ih]; simp

/-! ## What is counted -/

def Call.batchSize : Call → Nat
  | .process events => events
  | _ => 0

def Reply.batchSize : Reply → Nat
  | .batch (.ok events) => events.length
  | _ => 0

def Stage.all : List Stage := [.validate, .client, .engine, .preflight]

def Filter.warnings (filter : Filter) (random : Uuid) : List Advisory :=
  match (filter.validator.validate random filter.options).outcome with
  | .ok validated => validated.advisories
  | .error _ => []

namespace Transition

def matched (t : Transition) : Nat :=
  match t.turn.operation with
  | .multiFilter events =>
      if .process events.length ∈ callsOf t.effects then
        (t.turn.collaborators.process t.before.batches (Event.addTags t.before.addTags)
          events).matched
      else 0
  | _ => 0

/-- The operation starts the filter, as it may, and the start fails. -/
def failsToStart (t : Transition) : Bool :=
  match t.reply with
  | .registered (.error _) => t.before.state = .created
  | _ => false

def warnings (t : Transition) : List Advisory :=
  match t.turn.operation with
  | .register random => if t.before.state = .created then t.before.warnings random else []
  | _ => []

/-- The counts of one operation fit what it has done. -/
structure Balanced (t : Transition) : Prop where
  events_in : tally .eventsIn (countsOf t.effects) = (t.exchanges.map (·.call.batchSize)).sum
  events_out : tally .eventsOut (countsOf t.effects) = t.reply.batchSize
  events_matched : tally .eventsMatched (countsOf t.effects) = t.matched
  failures : (Stage.all.map fun stage =>
    tally (.startupFailures stage) (countsOf t.effects)).sum = if t.failsToStart then 1 else 0
  warned : ∀ advisory, tally (.advisories advisory) (countsOf t.effects) =
    (t.warnings.filter (·.code = advisory.code)).length

end Transition

/-- What the counters say of a run is what the run has done. -/
structure Accounted (transitions : List Transition) : Prop where
  /-- Every event that the engine was handed, whatever became of its batch. -/
  events_in : (metricsOf transitions).value .eventsIn =
    ((history transitions).map (·.call.batchSize)).sum
  /-- Every event that was returned. -/
  events_out : (metricsOf transitions).value .eventsOut =
    (transitions.map (·.reply.batchSize)).sum
  events_matched : (metricsOf transitions).value .eventsMatched =
    (transitions.map Transition.matched).sum
  /-- A start that fails is counted once, under one of the stages. -/
  failed_once : (∃ t ∈ transitions, t.failsToStart = true) →
    (Stage.all.map fun stage => (metricsOf transitions).value (.startupFailures stage)).sum = 1
  never_failed : (∀ t ∈ transitions, t.failsToStart = false) →
    (Stage.all.map fun stage => (metricsOf transitions).value (.startupFailures stage)).sum = 0
  warned : ∀ advisory, (metricsOf transitions).value (.advisories advisory) =
    ((transitions.flatMap Transition.warnings).filter (·.code = advisory.code)).length
  /-- An operation that is refused for the state of the filter leaves all counters alone. -/
  refused : ∀ done t rest, transitions = done ++ t :: rest → ∀ actual expected,
    t.reply.fault? = some (.invalidState actual expected) →
      metricsOf (done ++ [t]) = metricsOf done

/-! ## Counts of the operations -/

theorem Advisory.code_injective {a b : Advisory} (h : a.code = b.code) : a = b := by
  revert h; cases a <;> cases b <;> decide

theorem tally_advisories (advisories : List Advisory) (advisory : Advisory) :
    tally (.advisories advisory) (advisories.map fun found => (.advisories found, 1)) =
      (advisories.filter (·.code = advisory.code)).length := by
  induction advisories with
  | nil => rfl
  | cons found rest ih =>
      rw [List.map_cons, tally_cons, ih]
      by_cases h : found = advisory
      · simp [h, Nat.add_comm]
      · have hcode : found.code ≠ advisory.code := fun heq => h (Advisory.code_injective heq)
        simp [h, hcode]

theorem tally_advisories_of_ne (advisories : List Advisory)
    (h : ∀ advisory, .advisories advisory ≠ counter) :
    tally counter (advisories.map fun found => (.advisories found, 1)) = 0 := by
  induction advisories with
  | nil => rfl
  | cons found rest ih => rw [List.map_cons, tally_cons, ih, if_neg (h found)]

theorem Filter.advisoryCounts_eq (filter : Filter) (random : Uuid) :
    filter.advisoryCounts random =
      (filter.warnings random).map fun found => (.advisories found, 1) := by
  unfold advisoryCounts warnings
  cases (filter.validator.validate random filter.options).outcome <;> rfl

theorem countsOf_matches (count : Nat) :
    countsOf (List.replicate count Filter.matchEffect) =
      List.replicate count (.eventsMatched, 1) := by
  induction count with
  | zero => rfl
  | succ count ih => rw [List.replicate_succ, List.replicate_succ, ← ih]; rfl

theorem countsOf_processEffects (events : List Event) (processed : Processed) :
    countsOf (Filter.processEffects events processed) =
      (.eventsIn, events.length) :: List.replicate processed.matched (.eventsMatched, 1) ++
        match processed.outcome with
        | .ok produced => [(.eventsOut, produced.length)]
        | .error _ => [] := by
  rw [Filter.processEffects, countsOf_append, countsOf_append, countsOf_matches]
  cases processed.outcome <;> rfl

theorem batchSize_eq_zero {call : Call} (h : ∀ events, call ≠ .process events) :
    call.batchSize = 0 := by
  cases call with
  | process events => exact absurd rfl (h events)
  | _ => rfl

theorem sum_batchSize_eq_zero {exchanges : List Exchange}
    (h : ∀ x ∈ exchanges, ∀ events, x.call ≠ .process events) :
    (exchanges.map (·.call.batchSize)).sum = 0 := by
  rw [List.sum_eq_zero_iff_forall_eq_nat]
  intro size hsize
  obtain ⟨exchange, hmem, rfl⟩ := List.mem_map.1 hsize
  exact batchSize_eq_zero (h exchange hmem)

namespace Filter

/-- A start counts its warnings, and then its failure if it fails. -/
theorem countsOf_register_of_created (hstate : filter.state = .created)
    (collaborators : Collaborators) (random : Uuid) :
    ∃ failed : Option Stage,
      (filter.step ⟨.register random, collaborators⟩).failsToStart = failed.isSome ∧
        countsOf (filter.register collaborators random).effects =
          filter.advisoryCounts random ++
            failed.toList.map fun stage => (.startupFailures stage, 1) := by
  obtain ⟨effects, after, result, hstart, -⟩ := filter.start_started collaborators random
  have hcounts := countsOf_start collaborators random filter
  rw [hstart] at hcounts
  cases result with
  | ok =>
      obtain ⟨fields, hregister⟩ := register_of_completed hstate hstart
      refine ⟨none, ?_, ?_⟩
      · rw [step_register, Transition.failsToStart, hregister]
        rfl
      · rw [hregister, countsOf_append, hcounts, countsOf_record, countsOf_nil]
        rfl
  | error failure =>
      obtain ⟨stage, fault⟩ := failure
      have hcounted : countsOf (startFailure stage fault) = [(.startupFailures stage, 1)] := rfl
      refine ⟨some stage, ?_, ?_⟩
      · rw [step_register, Transition.failsToStart, register_of_failed hstate hstart]
        simpa using hstate
      · rw [register_of_failed hstate hstart, countsOf_append, countsOf_append, hcounts, hcounted,
          countsOf_release, List.append_nil]
        rfl

theorem balanced_idle {t : Transition} (hidle : t.Idle) (hreply : t.reply.batchSize = 0)
    (hstarts : t.failsToStart = false) (hwarnings : t.warnings = []) : t.Balanced where
  events_in := by rw [Transition.exchanges, hidle.1]; rfl
  events_out := by rw [hidle.1, hreply]; rfl
  events_matched := by
    unfold Transition.matched
    rw [hidle.1]
    split <;> simp
  failures := by rw [hidle.1, hstarts]; rfl
  warned advisory := by rw [hidle.1, hwarnings]; rfl

theorem balanced_register (filter : Filter) (collaborators : Collaborators) (random : Uuid) :
    (filter.step ⟨.register random, collaborators⟩).Balanced := by
  by_cases hstate : filter.state = .created
  · have hunprocessed : ∀ x ∈ (filter.step ⟨.register random, collaborators⟩).exchanges,
        ∀ events, x.call ≠ .process events := fun x hx events => filter.not_process_register hx
    have hwarnings : (filter.step ⟨.register random, collaborators⟩).warnings =
        filter.warnings random := if_pos hstate
    have hquiet (counter : Counter) (hne : ∀ advisory, .advisories advisory ≠ counter) :
        tally counter (filter.advisoryCounts random) = 0 := by
      rw [filter.advisoryCounts_eq]
      exact tally_advisories_of_ne _ hne
    have hwarned (advisory : Advisory) :
        tally (.advisories advisory) (filter.advisoryCounts random) =
          ((filter.warnings random).filter (·.code = advisory.code)).length := by
      rw [filter.advisoryCounts_eq]
      exact tally_advisories _ advisory
    obtain ⟨failed, hfails, hcounts⟩ := countsOf_register_of_created hstate collaborators random
    refine ⟨?_, ?_, ?_, ?_, fun advisory => ?_⟩
    · rw [sum_batchSize_eq_zero hunprocessed, step_register, hcounts, tally_append,
        hquiet _ (by simp)]
      cases failed <;> rfl
    · rw [step_register, hcounts, tally_append, hquiet _ (by simp)]
      cases failed <;> rfl
    · rw [step_register, hcounts, tally_append, hquiet _ (by simp)]
      cases failed <;> rfl
    · rw [hfails, step_register, hcounts]
      cases failed with
      | none => simp [Stage.all, hquiet]
      | some stage => cases stage <;> simp [Stage.all, hquiet]
    · rw [hwarnings, step_register, hcounts, tally_append, hwarned]
      cases failed <;> rfl
  · refine balanced_idle (filter.obeys_step ⟨.register random, collaborators⟩ hstate).2 rfl ?_ ?_
    · rw [step_register, register_of_ne_created hstate]
      simpa [Transition.failsToStart] using hstate
    · exact if_neg hstate

theorem balanced_multiFilter (filter : Filter) (collaborators : Collaborators)
    (events : List Event) : (filter.step ⟨.multiFilter events, collaborators⟩).Balanced := by
  rw [step_multiFilter]
  unfold multiFilter
  split
  · generalize hprocessed :
      collaborators.process filter.batches (Event.addTags filter.addTags) events = processed
    have hcalls := callsOf_processEffects events processed
    have hcounts := countsOf_processEffects events processed
    refine ⟨?_, ?_, ?_, ?_, fun advisory => ?_⟩
    · rw [hcounts, Transition.exchanges, exchangesOf, hcalls]
      cases processed.outcome <;> simp [tally_replicate, Call.batchSize]
    · rw [hcounts]
      rcases processed with ⟨matched, _ | produced⟩ <;> simp [tally_replicate, Reply.batchSize]
    · rw [hcounts, Transition.matched, hcalls]
      cases processed.outcome <;> simp [tally_replicate, hprocessed]
    · rw [hcounts]
      cases processed.outcome <;> simp [tally_replicate, Stage.all, Transition.failsToStart]
    · rw [hcounts]
      cases processed.outcome <;> simp [tally_replicate, Transition.warnings]
  · exact balanced_idle ⟨rfl, rfl⟩ rfl rfl rfl

theorem balanced_close (filter : Filter) (collaborators : Collaborators) :
    (filter.step ⟨.close, collaborators⟩).Balanced := by
  have hunprocessed : ∀ x ∈ (filter.step ⟨.close, collaborators⟩).exchanges,
      ∀ events, x.call ≠ .process events := fun x hx events => filter.not_process_close hx
  have hcounts : countsOf (filter.step ⟨.close, collaborators⟩).effects = [] := by
    rw [step_close, close]
    split
    · rfl
    · rw [countsOf_append, countsOf_release]
      rfl
  refine ⟨?_, ?_, ?_, ?_, fun advisory => ?_⟩
  · rw [hcounts, sum_batchSize_eq_zero hunprocessed, tally_nil]
  all_goals rw [hcounts]; rfl

/-- The counts of every operation fit what it has done. -/
theorem balanced_step (filter : Filter) (turn : Turn) : (filter.step turn).Balanced := by
  obtain ⟨operation, collaborators⟩ := turn
  cases operation with
  | register random => exact filter.balanced_register collaborators random
  | filterOne event => exact balanced_idle ⟨rfl, rfl⟩ rfl rfl rfl
  | multiFilter events => exact filter.balanced_multiFilter collaborators events
  | close => exact filter.balanced_close collaborators

/-! ## Runs -/

theorem created_of_step {turn : Turn} (h : (filter.step turn).after.state = .created) :
    filter.state = .created := by
  rcases filter.state_next_step turn with hsame | hnext
  · exact hsame ▸ h
  · rw [h] at hnext
    cases hstate : filter.state <;> rw [hstate] at hnext <;> simp [FilterState.next] at hnext

theorem not_failsToStart_of_ne_created (hstate : filter.state ≠ .created) (turns : List Turn) :
    ∀ t ∈ filter.run turns, t.failsToStart = false := by
  induction turns generalizing filter with
  | nil => simp [run]
  | cons turn rest ih =>
      intro t hmem
      rcases List.mem_cons.1 hmem with rfl | hmem
      · unfold Transition.failsToStart
        rw [filter.step_before]
        split
        · simpa using hstate
        · rfl
      · exact ih (fun hcreated => hstate (created_of_step hcreated)) t hmem

theorem ne_created_of_failsToStart {turn : Turn} (h : (filter.step turn).failsToStart = true) :
    (filter.step turn).after.state ≠ .created := by
  obtain ⟨operation, collaborators⟩ := turn
  cases operation with
  | register random =>
      rw [step_register] at h ⊢
      unfold Transition.failsToStart at h
      split at h
      · have hstate : filter.state = .created := by simpa using h
        rcases register_of_created hstate collaborators random with
          ⟨-, hrunning, -⟩ | ⟨fault, -, hfailed, -⟩
        · simp [hrunning]
        · simp [hfailed]
      · cases h
  | filterOne event => cases h
  | multiFilter events => cases h
  | close => cases h

/-- A start fails once at most, for it leaves the filter in a state that cannot be started. -/
theorem failsToStart_once (filter : Filter) (turns : List Turn) :
    ((filter.run turns).filter Transition.failsToStart).length ≤ 1 := by
  induction turns generalizing filter with
  | nil => simp [run]
  | cons turn rest ih =>
      rw [run, List.filter_cons]
      split
      · rename_i hfails
        have hstate := ne_created_of_failsToStart hfails
        have hnone := not_failsToStart_of_ne_created hstate rest
        rw [List.filter_eq_nil_iff.2 fun t ht => by simp [hnone t ht]]
        simp
      · exact ih _

end Filter

/-- The failures of a run are its starts that failed. -/
theorem sum_failures {transitions : List Transition} (h : ∀ t ∈ transitions, t.Balanced) :
    (Stage.all.map fun stage => (metricsOf transitions).value (.startupFailures stage)).sum =
      (transitions.filter Transition.failsToStart).length := by
  simp only [value_metricsOf]
  induction transitions with
  | nil => rfl
  | cons t rest ih =>
      have hrest := ih fun t ht => h t (List.mem_cons_of_mem _ ht)
      have hfirst := (h t List.mem_cons_self).failures
      simp only [List.map_cons, List.sum_cons]
      rw [List.sum_map_add, hfirst, hrest, List.filter_cons]
      split <;> simp [Nat.add_comm]

namespace Filter

theorem run_take (filter : Filter) (turns : List Turn) (count : Nat) :
    (filter.run turns).take count = filter.run (turns.take count) := by
  induction turns generalizing filter count with
  | nil => simp [run]
  | cons turn rest ih =>
      cases count with
      | zero => rfl
      | succ count => simp [run, ih]

theorem balanced_run (filter : Filter) (turns : List Turn) :
    ∀ t ∈ filter.run turns, t.Balanced := by
  induction turns generalizing filter with
  | nil => simp [run]
  | cons turn rest ih =>
      intro t hmem
      rcases List.mem_cons.1 hmem with rfl | hmem
      · exact filter.balanced_step turn
      · exact ih _ t hmem

theorem Sound.ranTo (h : filter.Sound) (turns : List Turn) : (filter.ranTo turns).Sound := by
  induction turns generalizing filter with
  | nil => exact h
  | cons turn rest ih => exact ih (h.step turn)

theorem Sound.accounted (h : filter.Sound) (turns : List Turn) :
    Accounted (filter.run turns) := by
  have hbalanced := filter.balanced_run turns
  have hfailures := sum_failures hbalanced
  refine ⟨?_, ?_, ?_, ?_, ?_, ?_, ?_⟩
  · rw [value_metricsOf, history, List.map_flatMap, List.flatMap_def, List.sum_flatten,
      List.map_map]
    exact congrArg List.sum (List.map_congr_left fun t ht => (hbalanced t ht).events_in)
  · rw [value_metricsOf]
    exact congrArg List.sum (List.map_congr_left fun t ht => (hbalanced t ht).events_out)
  · rw [value_metricsOf]
    exact congrArg List.sum (List.map_congr_left fun t ht => (hbalanced t ht).events_matched)
  · rintro ⟨t, hmem, hfails⟩
    have hmost := filter.failsToStart_once turns
    have hleast := List.length_pos_of_mem (List.mem_filter.2 ⟨hmem, hfails⟩)
    omega
  · intro hnone
    rw [hfailures, List.filter_eq_nil_iff.2 fun t ht => by simp [hnone t ht]]
    rfl
  · intro advisory
    rw [value_metricsOf, List.filter_flatMap, List.length_flatMap]
    exact congrArg List.sum (List.map_congr_left fun t ht => (hbalanced t ht).warned advisory)
  · intro done t rest hrun actual expected hfault
    obtain ⟨earlier, turn, later, rfl, rfl, -⟩ := run_split hrun
    have hsound := h.ranTo earlier
    obtain ⟨-, -, hidle⟩ := hsound.states_differ turn hfault
    rw [metricsOf, metricsOf, List.flatMap_append]
    simp [hidle.1]

/-- However a filter is used, its counters account for all that it has done, at every point. -/
theorem accounted_run (options : Options) (validator : Validator) (addTags : List String)
    (geoipManager : Option String) (turns : List Turn) (count : Nat) :
    Accounted (((built options validator addTags geoipManager).run turns).take count) := by
  rw [run_take]
  exact (sound_built options validator addTags geoipManager).accounted _

end Filter

end ClusterLink
