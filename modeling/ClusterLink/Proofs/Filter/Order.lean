import ClusterLink.Proofs.Filter.Runs
import Mathlib.Data.List.Induction

/-!
# Order of calls

Which calls may follow which: one engine at most is asked for, it is closed at most once, and a
provider of GeoIP databases that it was given is closed after it. A filter that holds what it has
called for gives it up in this order.
-/

namespace ClusterLink

/-! ## Orderly histories -/

namespace Call

def asksEngine : Call → Bool
  | .buildEngine _ _ _ => true
  | _ => false

def closesEngine : Call → Bool
  | .closeEngine => true
  | _ => false

def closesGeoip : Call → Bool
  | .closeGeoip _ => true
  | _ => false

/-- Whether the call neither asks for an engine nor closes anything. -/
def isFree : Call → Bool
  | .buildEngine _ _ _ | .closeEngine | .closeGeoip _ => false
  | _ => true

theorem isFree_spec {call : Call} (h : call.isFree = true) :
    call.asksEngine = false ∧ call.closesEngine = false ∧ call.closesGeoip = false := by
  cases call <;> simp [isFree, asksEngine, closesEngine, closesGeoip] at h ⊢

end Call

namespace Exchange

def Built (exchange : Exchange) (client : Nat) (connection : Connection) (source : GeoipSource) :
    Prop :=
  exchange.call = .buildEngine client connection source ∧
    exchange.collaborators.buildEngine client connection source = .ok ()

def BuiltSome (exchange : Exchange) : Prop :=
  ∃ client connection source, exchange.Built client connection source

theorem BuiltSome.asksEngine {exchange : Exchange} (h : exchange.BuiltSome) :
    exchange.call.asksEngine = true := by
  obtain ⟨client, connection, source, hcall, -⟩ := h
  rw [hcall]
  rfl

theorem BuiltSome.not_free {exchange : Exchange} (h : exchange.BuiltSome) :
    ¬ exchange.call.isFree = true := by
  obtain ⟨client, connection, source, hcall, -⟩ := h
  rw [hcall]
  simp [Call.isFree]

def Handed (exchange : Exchange) (provider : String) : Prop :=
  ∃ client connection, exchange.call = .buildEngine client connection (.managed provider)

end Exchange

/-- Whether the call may be made after other calls. -/
def Allowed (before : List Exchange) (exchange : Exchange) : Prop :=
  match exchange.call with
  | .buildEngine _ _ _ => ∀ x ∈ before, x.call.asksEngine = false
  | .closeEngine =>
      (∃ x ∈ before, x.BuiltSome) ∧ ∀ x ∈ before, x.call.closesEngine = false
  | .closeGeoip provider =>
      (∃ x ∈ before, x.Handed provider) ∧ (∀ x ∈ before, x.call.closesGeoip = false) ∧
        ((∃ x ∈ before, x.BuiltSome) → ∃ x ∈ before, x.call.closesEngine = true)
  | _ => True

def Orderly (calls : List Exchange) : Prop :=
  ∀ before exchange after, calls = before ++ exchange :: after → Allowed before exchange

variable {calls others before after : List Exchange} {exchange : Exchange}
  {collaborators : Collaborators} {filter : Filter}

theorem allowed_of_isFree (h : exchange.call.isFree = true) : Allowed before exchange := by
  unfold Allowed
  cases hcall : exchange.call <;> simp [hcall, Call.isFree] at h ⊢

theorem Allowed.first_engine (h : Allowed before exchange)
    (hasks : exchange.call.asksEngine = true) : ∀ x ∈ before, x.call.asksEngine = false := by
  unfold Allowed at h
  cases hcall : exchange.call <;> simp [hcall, Call.asksEngine] at hasks h ⊢
  exact h

theorem Allowed.open_engine (h : Allowed before exchange)
    (hcloses : exchange.call.closesEngine = true) :
    (∃ x ∈ before, x.BuiltSome) ∧ ∀ x ∈ before, x.call.closesEngine = false := by
  unfold Allowed at h
  cases hcall : exchange.call <;> simp [hcall, Call.closesEngine] at hcloses h ⊢
  exact h

theorem Allowed.open_geoip (h : Allowed before exchange)
    (hcloses : exchange.call.closesGeoip = true) : ∀ x ∈ before, x.call.closesGeoip = false := by
  unfold Allowed at h
  cases hcall : exchange.call <;> simp [hcall, Call.closesGeoip] at hcloses h ⊢
  exact h.2.1

theorem Orderly.nil : Orderly [] := by
  intro before exchange after h
  simp at h

theorem Orderly.concat (h : Orderly calls) (hallowed : Allowed calls exchange) :
    Orderly (calls ++ [exchange]) := by
  intro before other after heq
  -- The longer list is cut at its last call, or where the shorter list is already cut.
  rcases List.eq_nil_or_concat after with rfl | ⟨init, last, rfl⟩
  · obtain ⟨rfl, hsame⟩ := List.append_inj' heq rfl
    cases hsame
    exact hallowed
  · rw [List.concat_eq_append, ← List.cons_append, ← List.append_assoc] at heq
    obtain ⟨hcalls, -⟩ := List.append_inj' heq rfl
    exact h before other init hcalls

theorem Orderly.append_free (h : Orderly calls) (hfree : ∀ x ∈ others, x.call.isFree = true) :
    Orderly (calls ++ others) := by
  induction others generalizing calls with
  | nil => simpa using h
  | cons first rest ih =>
      rw [List.forall_mem_cons] at hfree
      have hfirst := h.concat (allowed_of_isFree hfree.1)
      simpa using ih hfirst hfree.2

/-- Of calls that may not follow each other there is at most one. -/
theorem length_filter_le_one {chosen : Exchange → Bool}
    (h : ∀ before exchange after, calls = before ++ exchange :: after → chosen exchange = true →
      ∀ x ∈ before, chosen x = false) : (calls.filter chosen).length ≤ 1 := by
  -- From the end, since the hypothesis looks back from a chosen call.
  induction calls using List.reverseRecOn with
  | nil => simp
  | append_singleton init last ih =>
      rw [List.filter_append, List.length_append]
      by_cases hlast : chosen last = true
      · have hinit := h init last [] rfl hlast
        have hnone : init.filter chosen = [] := by simpa using hinit
        rw [hnone]
        simp [hlast]
      · have hle := ih fun before exchange after heq hchosen =>
          h before exchange (after ++ [last]) (by simp [heq]) hchosen
        simpa [hlast] using hle

/-! ## Releasing -/

/-- What the filter holds is what has been called for, and none of it has been closed. -/
structure Holding (calls : List Exchange) (filter : Filter) : Prop where
  built_iff : (∃ x ∈ calls, x.BuiltSome) ↔ filter.engine ≠ none
  handed : ∀ provider, filter.geoip = some (.managed provider) → ∃ x ∈ calls, x.Handed provider
  unclosed : ∀ x ∈ calls, x.call.closesEngine = false ∧ x.call.closesGeoip = false

structure Filter.Empty (filter : Filter) : Prop where
  engine_eq : filter.engine = none
  geoip_eq : filter.geoip = none
  client_eq : filter.client = none

theorem Holding.orderly_engineRelease (hholding : Holding calls filter) (h : Orderly calls)
    (collaborators : Collaborators) :
    Orderly (calls ++ exchangesOf collaborators filter.engineRelease) := by
  unfold Filter.engineRelease
  split
  · rename_i client hengine
    refine h.concat ⟨hholding.built_iff.2 ?_, fun x hx => (hholding.unclosed x hx).1⟩
    simp [hengine]
  · simpa [exchangesOf] using h

theorem Holding.closed_engineRelease (hholding : Holding calls filter)
    (hbuilt : ∃ x ∈ calls, x.BuiltSome) (collaborators : Collaborators) :
    ∃ x ∈ exchangesOf collaborators filter.engineRelease, x.call.closesEngine = true := by
  have hsome := hholding.built_iff.1 hbuilt
  unfold Filter.engineRelease
  split
  · exact ⟨⟨collaborators, .closeEngine⟩, List.mem_singleton_self _, rfl⟩
  · exact absurd ‹_› hsome

theorem mem_engineRelease (h : exchange ∈ exchangesOf collaborators filter.engineRelease) :
    exchange.call = .closeEngine := by
  unfold Filter.engineRelease at h
  split at h
  · cases List.mem_singleton.1 h
    rfl
  · cases h

/-- The provider of GeoIP databases is closed after the engine, if there is one. -/
theorem Holding.orderly_geoipRelease (hholding : Holding calls filter) (h : Orderly calls)
    (collaborators : Collaborators) :
    Orderly (calls ++ exchangesOf collaborators filter.engineRelease ++
      exchangesOf collaborators filter.geoipRelease) := by
  have hengine := hholding.orderly_engineRelease h collaborators
  unfold Filter.geoipRelease
  split
  · rename_i provider hgeoip
    refine hengine.concat ⟨?_, ?_, ?_⟩
    · obtain ⟨x, hx, hhanded⟩ := hholding.handed provider hgeoip
      exact ⟨x, List.mem_append_left _ hx, hhanded⟩
    · intro x hx
      rcases List.mem_append.1 hx with hx | hx
      · exact (hholding.unclosed x hx).2
      · rw [mem_engineRelease hx]
        rfl
    · rintro ⟨x, hx, hbuilt⟩
      rcases List.mem_append.1 hx with hx | hx
      · obtain ⟨closing, hmem, hcloses⟩ :=
          hholding.closed_engineRelease ⟨x, hx, hbuilt⟩ collaborators
        exact ⟨closing, List.mem_append_right _ hmem, hcloses⟩
      · obtain ⟨client, connection, source, hcall, -⟩ := hbuilt
        rw [mem_engineRelease hx] at hcall
        cases hcall
  · simpa [exchangesOf] using hengine

/-- Giving up what a filter holds is orderly. -/
theorem Holding.orderly_release (hholding : Holding calls filter) (h : Orderly calls)
    (collaborators : Collaborators) :
    Orderly (calls ++ exchangesOf collaborators filter.release.effects) := by
  have hgeoip := hholding.orderly_geoipRelease h collaborators
  have hclient : ∀ x ∈ exchangesOf collaborators filter.clientRelease, x.call.isFree = true := by
    unfold Filter.clientRelease
    split
    · intro x hx
      cases List.mem_singleton.1 hx
      rfl
    · simp [exchangesOf]
  simpa [Filter.release] using hgeoip.append_free hclient

theorem call_of_mem_release
    (h : exchange ∈ exchangesOf collaborators filter.release.effects) :
    exchange.call = .closeEngine ∨ (∃ provider, exchange.call = .closeGeoip provider) ∨
      ∃ client, exchange.call = .releaseClient client := by
  rw [Filter.release, exchangesOf_append, exchangesOf_append, List.mem_append,
    List.mem_append] at h
  rcases h with (h | h) | h
  · exact .inl (mem_engineRelease h)
  · unfold Filter.geoipRelease at h
    split at h
    · cases List.mem_singleton.1 h
      exact .inr (.inl ⟨_, rfl⟩)
    · cases h
  · unfold Filter.clientRelease at h
    split at h
    · cases List.mem_singleton.1 h
      exact .inr (.inr ⟨_, rfl⟩)
    · cases h

theorem asksEngine_of_mem_release
    (h : exchange ∈ exchangesOf collaborators filter.release.effects) :
    exchange.call.asksEngine = false := by
  rcases call_of_mem_release h with hcall | ⟨_, hcall⟩ | ⟨_, hcall⟩ <;> rw [hcall] <;> rfl

/-- Giving up what a filter holds closes the engine that was built. -/
theorem Holding.closed_release (hholding : Holding calls filter) (collaborators : Collaborators)
    (hbuilt : ∃ x ∈ calls ++ exchangesOf collaborators filter.release.effects, x.BuiltSome) :
    ∃ x ∈ calls ++ exchangesOf collaborators filter.release.effects,
      x.call.closesEngine = true := by
  obtain ⟨x, hx, hsome⟩ := hbuilt
  rcases List.mem_append.1 hx with hx | hx
  · obtain ⟨closing, hmem, hcloses⟩ := hholding.closed_engineRelease ⟨x, hx, hsome⟩ collaborators
    refine ⟨closing, List.mem_append_right _ ?_, hcloses⟩
    rw [Filter.release, exchangesOf_append, exchangesOf_append, List.append_assoc]
    exact List.mem_append_left _ hmem
  · have hasks := hsome.asksEngine
    rw [asksEngine_of_mem_release hx] at hasks
    cases hasks

end ClusterLink
