import ClusterLink.Proofs.Traced
import ClusterLink.Target

/-!
# Rules of targets

A target is accepted exactly when one of the two ways to name a cluster is used and it is not
empty. A list of hosts is read host by host.
-/

namespace ClusterLink.Target

variable {options : Options} {target : Target}

inductive Follows (options : Options) : Target → Prop
  | hosts {texts : List String} {endpoints : List Endpoint} (hhosts : options.hosts = some texts)
      (hcloudId : options.cloudId = none) (hnonempty : texts ≠ [])
      (hread : List.Forall₂ (fun text endpoint => Endpoint.read text = .ok endpoint)
        texts endpoints) : Follows options (.hosts endpoints)
  | cloudId {identifier : String} (hhosts : options.hosts = none)
      (hcloudId : options.cloudId = some identifier) (hnonempty : identifier ≠ "") :
      Follows options (.cloudId identifier)

theorem readHost_eq_ok_iff {text : String} {endpoint : Endpoint} :
    readHost text = .ok endpoint ↔ Endpoint.read text = .ok endpoint := by
  unfold readHost
  cases Endpoint.read text <;> simp

theorem readHost_eq_error_iff {text : String} {violation : Violation} :
    readHost text = .error violation ↔
      ∃ fault, Endpoint.read text = .error fault ∧ violation = .invalidHost text fault.reason := by
  unfold readHost
  cases Endpoint.read text <;> simp [eq_comm]

theorem readHosts_eq_ok_iff {texts : List String} {endpoints : List Endpoint} :
    readHosts texts = .ok endpoints ↔
      List.Forall₂ (fun text endpoint => Endpoint.read text = .ok endpoint) texts endpoints := by
  rw [readHosts, mapM_eq_ok_iff]
  simp only [readHost_eq_ok_iff]

/-- A target is accepted exactly when options follow one of the two ways to name a cluster. -/
theorem ofOptions_eq_ok_iff : ofOptions options = .ok target ↔ Follows options target := by
  unfold ofOptions
  constructor
  · intro h
    split at h
    · cases h
    · cases h
    · rename_i identifier hhosts hcloudId
      split at h
      · cases h
      · rename_i hnonempty
        cases h
        exact .cloudId hhosts hcloudId (by simpa using hnonempty)
    · cases h
    · rename_i texts hne hhosts hcloudId
      obtain ⟨endpoints, hread, rfl⟩ := map_eq_ok_iff.1 h
      refine .hosts hhosts hcloudId ?_ (readHosts_eq_ok_iff.1 hread)
      rintro rfl
      exact hne rfl
    · cases h
  · intro h
    cases h with
    | hosts hhosts hcloudId hnonempty hread =>
        rw [hhosts, hcloudId]
        obtain ⟨first, rest, rfl⟩ := List.exists_cons_of_ne_nil hnonempty
        exact map_eq_ok_iff.2 ⟨_, readHosts_eq_ok_iff.2 hread, rfl⟩
    | cloudId hhosts hcloudId hnonempty =>
        rw [hhosts, hcloudId]
        simp [hnonempty]

theorem Follows.unique {other : Target} (h : Follows options target)
    (hother : Follows options other) : target = other := by
  rw [← ofOptions_eq_ok_iff] at h hother
  simpa [h] using hother

/-- A target made of hosts has at least one. -/
theorem Follows.endpoints_ne_nil {endpoints : List Endpoint}
    (h : Follows options (.hosts endpoints)) : endpoints ≠ [] := by
  cases h with
  | hosts hhosts hcloudId hnonempty hread =>
      rintro rfl
      cases hread
      exact hnonempty rfl

end ClusterLink.Target
