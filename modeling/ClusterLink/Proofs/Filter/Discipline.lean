import ClusterLink.Proofs.Filter.Phases

/-!
# Discipline of calls

Whatever its collaborators answer, and in whatever order it is used, a filter builds one engine at
most, has it process events only after both checks, closes it once and before the provider of GeoIP
databases, and calls nothing afterwards.
-/

namespace ClusterLink

/-- The rules for the calls of a run. -/
structure Disciplined (transitions : List Transition) : Prop where
  /-- At most one engine is asked for. -/
  one_engine : ((history transitions).filter fun x => x.call.asksEngine).length ≤ 1
  /-- Events are processed only by an open engine for the frozen connection, after both checks. -/
  processed_ready : ∀ done t rest, transitions = done ++ t :: rest →
    ∀ x ∈ t.exchanges, ∀ events, x.call = .process events →
      t.exchanges = [x] ∧
        (∃ connection, t.before.connection = some connection ∧ Ready (history done) connection) ∧
        ∀ y ∈ history done, y.call.closesEngine = false
  /-- An engine is closed at most once, and only if one was built. -/
  closed_once : ((history transitions).filter fun x => x.call.closesEngine).length ≤ 1
  closed_built : ∀ before x after, history transitions = before ++ x :: after →
    x.call.closesEngine = true → ∃ y ∈ before, y.BuiltSome
  /-- Once a close has returned or a start has failed, an engine that was built has been closed. -/
  released_closed : ∀ done t rest, transitions = done ++ t :: rest → t.Releases →
    (∃ x ∈ history (done ++ [t]), x.BuiltSome) →
      ((history (done ++ [t])).filter fun x => x.call.closesEngine).length = 1
  /-- A provider is closed at most once, only if the engine was to use it, and after the engine. -/
  geoip_once : ((history transitions).filter fun x => x.call.closesGeoip).length ≤ 1
  geoip_last : ∀ before x after provider, history transitions = before ++ x :: after →
    x.call = .closeGeoip provider →
      (∃ y ∈ before, y.Handed provider) ∧
        ((∃ y ∈ history transitions, y.BuiltSome) → ∃ y ∈ before, y.call.closesEngine = true)
  /-- Once a close has returned or a start has failed, nothing is called. -/
  released_silent : ∀ done t rest, transitions = done ++ t :: rest → t.Releases →
    ∀ later ∈ rest, later.exchanges = []

variable {calls : List Exchange}

theorem Orderly.asks_once (h : Orderly calls) :
    (calls.filter fun x => x.call.asksEngine).length ≤ 1 :=
  length_filter_le_one fun before x after heq hasks => (h before x after heq).first_engine hasks

theorem Orderly.closes_once (h : Orderly calls) :
    (calls.filter fun x => x.call.closesEngine).length ≤ 1 :=
  length_filter_le_one fun before x after heq hcloses =>
    ((h before x after heq).open_engine hcloses).2

theorem Orderly.closes_geoip_once (h : Orderly calls) :
    (calls.filter fun x => x.call.closesGeoip).length ≤ 1 :=
  length_filter_le_one fun before x after heq hcloses => (h before x after heq).open_geoip hcloses

theorem Orderly.closes_built (h : Orderly calls) {before after : List Exchange} {x : Exchange}
    (heq : calls = before ++ x :: after) (hcloses : x.call.closesEngine = true) :
    ∃ y ∈ before, y.BuiltSome := ((h before x after heq).open_engine hcloses).1

/-- No engine is built after a provider is closed, since its engine was asked for before. -/
theorem Orderly.geoip_last (h : Orderly calls) {before after : List Exchange} {x : Exchange}
    {provider : String} (heq : calls = before ++ x :: after)
    (hcall : x.call = .closeGeoip provider) :
    (∃ y ∈ before, y.Handed provider) ∧
      ((∃ y ∈ calls, y.BuiltSome) → ∃ y ∈ before, y.call.closesEngine = true) := by
  have hallowed := h before x after heq
  simp only [Allowed, hcall] at hallowed
  obtain ⟨⟨handing, hhanding, hhanded⟩, -, hclosed⟩ := hallowed
  refine ⟨⟨handing, hhanding, hhanded⟩, ?_⟩
  rintro ⟨y, hy, hbuilt⟩
  rw [heq] at hy
  rcases List.mem_append.1 hy with hy | hy
  · exact hclosed ⟨y, hy, hbuilt⟩
  rcases List.mem_cons.1 hy with rfl | hy
  · obtain ⟨client, connection, source, hasked, -⟩ := hbuilt
    rw [hcall] at hasked
    cases hasked
  · obtain ⟨between, last, rfl⟩ := List.append_of_mem hy
    have hlate := h (before ++ x :: between) y last (by simp [heq])
    obtain ⟨client, connection, source, hasked, -⟩ := hbuilt
    simp only [Allowed, hasked] at hlate
    obtain ⟨client', connection', hfirst⟩ := hhanded
    have hsecond := hlate handing (List.mem_append_left _ hhanding)
    rw [hfirst] at hsecond
    cases hsecond

theorem exists_mem_iff_length_filter {chosen : Exchange → Bool} :
    (∃ x ∈ calls, chosen x = true) ↔ 0 < (calls.filter chosen).length := by
  simp [List.length_pos_iff_exists_mem]

theorem Filter.built_phase (options : Options) (validator : Validator) (addTags : List String)
    (geoipManager : Option String) : Phase [] (built options validator addTags geoipManager) :=
  .created rfl ⟨rfl, rfl, rfl⟩ rfl

section Cut

variable {filter : Filter} {turns : List Turn} {done rest : List Transition} {t : Transition}

/-- Every transition of a run starts from a phase that fits the calls before it. -/
theorem Phase.cut (hphase : Phase [] filter) (h : filter.run turns = done ++ t :: rest) :
    ∃ before turn later, t = Filter.step before turn ∧ rest = t.after.run later ∧
      Phase (history done) before ∧ Orderly (history done) := by
  obtain ⟨earlier, turn, later, rfl, ht, hrest⟩ := Filter.run_split h
  have hearlier := hphase.run Orderly.nil earlier
  rw [List.nil_append] at hearlier
  exact ⟨filter.ranTo earlier, turn, later, ht, hrest, hearlier⟩

/-- After a transition that gives up all, nothing is held and an engine that was built is closed. -/
theorem Phase.cut_releases (hphase : Phase [] filter) (h : filter.run turns = done ++ t :: rest)
    (hreleases : t.Releases) :
    t.after.Finished ∧ t.after.Empty ∧ Orderly (history (done ++ [t])) ∧
      ((∃ x ∈ history (done ++ [t]), x.BuiltSome) →
        ∃ x ∈ history (done ++ [t]), x.call.closesEngine = true) := by
  obtain ⟨before, turn, later, rfl, -, hbefore, horderly⟩ := hphase.cut h
  obtain ⟨hafter, hstill⟩ := hbefore.step horderly turn
  have hfinished := Filter.finished_of_releases hreleases
  obtain ⟨hempty, hclosed⟩ := hafter.released_of_finished hfinished
  have hhistory : history (done ++ [before.step turn]) =
      history done ++ (before.step turn).exchanges := by simp [history]
  rw [hhistory]
  exact ⟨hfinished, hempty, hstill, hclosed⟩

end Cut

/-- Every run of a filter that has just been built keeps the rules. -/
theorem disciplined_run (options : Options) (validator : Validator) (addTags : List String)
    (geoipManager : Option String) (turns : List Turn) :
    Disciplined ((Filter.built options validator addTags geoipManager).run turns) := by
  have hphase := Filter.built_phase options validator addTags geoipManager
  generalize Filter.built options validator addTags geoipManager = filter at hphase ⊢
  -- The phase of the filter carries the induction; the order of all calls is what it leaves behind.
  obtain ⟨-, horder⟩ := hphase.run Orderly.nil turns
  rw [List.nil_append] at horder
  refine ⟨horder.asks_once, ?_, horder.closes_once, fun _ _ _ => horder.closes_built, ?_,
    horder.closes_geoip_once, fun _ _ _ _ => horder.geoip_last, ?_⟩
  · intro done t rest h x hx events hcall
    obtain ⟨before, turn, later, rfl, -, hbefore, -⟩ := hphase.cut h
    rw [Filter.step_before]
    exact hbefore.processed hx hcall
  · intro done t rest h hreleases hbuilt
    obtain ⟨-, -, horderly, hclosed⟩ := hphase.cut_releases h hreleases
    have hmost := horderly.closes_once
    have hleast := exists_mem_iff_length_filter.1 (hclosed hbuilt)
    omega
  · intro done t rest h hreleases
    obtain ⟨before, turn, later, -, rfl, -, -⟩ := hphase.cut h
    obtain ⟨hfinished, hempty, -, -⟩ := hphase.cut_releases h hreleases
    exact Filter.run_of_finished hfinished hempty later

end ClusterLink
