import ClusterLink.Proofs.Filter.Start

/-!
# Runs of a filter

A run is a list of operations on one filter, each with the collaborators that answer while it goes
on, so that no answer depends on another. Its history is every call that it makes, in order.
-/

namespace ClusterLink

inductive Operation where
  | register (random : Uuid)
  | filterOne (event : Event)
  | multiFilter (events : List Event)
  | close

/-- An operation, and the collaborators that answer its calls. -/
structure Turn where
  operation : Operation
  collaborators : Collaborators

inductive Reply where
  | registered (result : Except FilterFault Unit)
  | single (result : Except FilterFault Event)
  | batch (result : Except FilterFault (List Event))
  | closed

/-- One operation: the filter before and after it, its effects, and what it returns. -/
structure Transition where
  before : Filter
  turn : Turn
  effects : List Effect
  reply : Reply
  after : Filter

/-- A call, and the collaborators that answer it. -/
structure Exchange where
  collaborators : Collaborators
  call : Call

namespace Filter

def built (options : Options) (validator : Validator) (addTags : List String)
    (geoipManager : Option String) : Filter := { options, validator, addTags, geoipManager }

def step (filter : Filter) (turn : Turn) : Transition :=
  match turn.operation with
  | .register random =>
      let done := filter.register turn.collaborators random
      ⟨filter, turn, done.effects, .registered done.result, done.filter⟩
  | .filterOne event =>
      let done := filter.filterOne event
      ⟨filter, turn, done.effects, .single done.result, done.filter⟩
  | .multiFilter events =>
      let done := filter.multiFilter turn.collaborators events
      ⟨filter, turn, done.effects, .batch done.result, done.filter⟩
  | .close =>
      let done := filter.close
      ⟨filter, turn, done.effects, .closed, done.filter⟩

@[simp] theorem step_register (filter : Filter) (random : Uuid) (collaborators : Collaborators) :
    filter.step ⟨.register random, collaborators⟩ =
      ⟨filter, ⟨.register random, collaborators⟩, (filter.register collaborators random).effects,
        .registered (filter.register collaborators random).result,
        (filter.register collaborators random).filter⟩ := rfl

@[simp] theorem step_filterOne (filter : Filter) (event : Event) (collaborators : Collaborators) :
    filter.step ⟨.filterOne event, collaborators⟩ =
      ⟨filter, ⟨.filterOne event, collaborators⟩, [], .single (.error .singleEventUnsupported),
        filter⟩ := rfl

@[simp] theorem step_multiFilter (filter : Filter) (events : List Event)
    (collaborators : Collaborators) :
    filter.step ⟨.multiFilter events, collaborators⟩ =
      ⟨filter, ⟨.multiFilter events, collaborators⟩,
        (filter.multiFilter collaborators events).effects,
        .batch (filter.multiFilter collaborators events).result,
        (filter.multiFilter collaborators events).filter⟩ := rfl

@[simp] theorem step_close (filter : Filter) (collaborators : Collaborators) :
    filter.step ⟨.close, collaborators⟩ =
      ⟨filter, ⟨.close, collaborators⟩, filter.close.effects, .closed, filter.close.filter⟩ := rfl

def run (filter : Filter) : List Turn → List Transition
  | [] => []
  | turn :: rest => filter.step turn :: (filter.step turn).after.run rest

def ranTo (filter : Filter) (turns : List Turn) : Filter :=
  turns.foldl (fun filter turn => (filter.step turn).after) filter

/-- Where a run is cut, both parts are runs. -/
theorem run_split {filter : Filter} {turns : List Turn} {done rest : List Transition}
    {transition : Transition} (h : filter.run turns = done ++ transition :: rest) :
    ∃ earlier turn later, done = filter.run earlier ∧
      transition = (filter.ranTo earlier).step turn ∧ rest = transition.after.run later := by
  induction done generalizing filter turns with
  | nil =>
      cases turns with
      | nil => cases h
      | cons turn later =>
          cases h
          exact ⟨[], turn, later, rfl, rfl, rfl⟩
  | cons first done ih =>
      cases turns with
      | nil => cases h
      | cons turn turns =>
          rw [run, List.cons_append, List.cons.injEq] at h
          obtain ⟨rfl, h⟩ := h
          obtain ⟨earlier, next, later, rfl, htransition, hrest⟩ := ih h
          exact ⟨turn :: earlier, next, later, rfl, htransition, hrest⟩

theorem step_before (filter : Filter) (turn : Turn) : (filter.step turn).before = filter := by
  unfold step
  split <;> rfl

end Filter

def exchangesOf (collaborators : Collaborators) (effects : List Effect) : List Exchange :=
  (callsOf effects).map (Exchange.mk collaborators)

@[simp] theorem exchangesOf_append (collaborators : Collaborators) (effects others : List Effect) :
    exchangesOf collaborators (effects ++ others) =
      exchangesOf collaborators effects ++ exchangesOf collaborators others := by
  rw [exchangesOf, callsOf_append, List.map_append]
  rfl

def Transition.exchanges (transition : Transition) : List Exchange :=
  exchangesOf transition.turn.collaborators transition.effects

def history (transitions : List Transition) : List Exchange :=
  transitions.flatMap Transition.exchanges

theorem history_cons (transition : Transition) (transitions : List Transition) :
    history (transition :: transitions) = transition.exchanges ++ history transitions :=
  List.flatMap_cons

end ClusterLink
