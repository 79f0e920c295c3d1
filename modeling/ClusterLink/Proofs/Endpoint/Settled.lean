import ClusterLink.Proofs.Endpoint.Text
import ClusterLink.Proofs.Hosts

/-!
# Settled endpoints

An endpoint that is settled leaves nothing open. It is in agreement with the endpoints that it was
settled with, implies the use of TLS that it was settled for, and is read from its own text.
-/

namespace ClusterLink

variable {tlsEnabled : Bool}

namespace Endpoint

variable {endpoint : Endpoint} {endpoints : List Endpoint}

theorem isEmpty_pathOrRoot (endpoint : Endpoint) : endpoint.pathOrRoot.isEmpty = false := by
  unfold pathOrRoot
  split
  · split
    · decide
    · rename_i hpath
      simpa using hpath
  · decide

theorem pathOrRoot_settled (endpoint : Endpoint) :
    (endpoint.settled tlsEnabled).pathOrRoot = endpoint.pathOrRoot := by
  have hpath : (endpoint.settled tlsEnabled).path = some endpoint.pathOrRoot := rfl
  rw [pathOrRoot, hpath]
  dsimp only
  rw [isEmpty_pathOrRoot, if_neg Bool.false_ne_true]

@[simp] theorem settled_settled (endpoint : Endpoint) :
    (endpoint.settled tlsEnabled).settled tlsEnabled = endpoint.settled tlsEnabled := by
  have hpath : (endpoint.settled tlsEnabled).pathOrRoot = endpoint.pathOrRoot :=
    pathOrRoot_settled endpoint
  rw [settled, hpath]
  rfl

theorem Kept.settled (h : endpoint.Kept) : (endpoint.settled tlsEnabled).Kept := by
  refine ⟨h.host, h.host_ne_empty, ?_⟩
  rintro path hpath
  have hroot : Path.read? defaultPath.toList = some defaultPath.toList := by decide
  obtain rfl : endpoint.pathOrRoot = path := by simpa [Endpoint.settled] using hpath
  unfold pathOrRoot
  cases hgiven : endpoint.path with
  | none => exact hroot
  | some given =>
      dsimp only
      split_ifs
      · exact hroot
      · exact h.path_eq given hgiven

/-- A settled endpoint is read from its own text. -/
theorem Kept.read_settled (h : endpoint.Kept) :
    read (endpoint.settled tlsEnabled).text = .ok (endpoint.settled tlsEnabled) := by
  have hkept : (endpoint.settled tlsEnabled).Kept := h.settled
  cases tlsEnabled with
  | true => exact hkept.read_text rfl (by decide) (by decide)
  | false => exact hkept.read_text rfl (by decide) (by decide)

theorem InAgreement.settled (h : InAgreement tlsEnabled endpoints) :
    InAgreement tlsEnabled (endpoints.map (Endpoint.settled tlsEnabled)) := by
  obtain ⟨path, hpath⟩ := h
  refine ⟨path, fun endpoint hmem => ?_⟩
  obtain ⟨source, hsource, rfl⟩ := List.mem_map.1 hmem
  refine ⟨source.pathOrRoot_settled.trans (hpath source hsource).path_eq, ?_⟩
  rintro scheme ⟨⟩
  rfl

end Endpoint

/-- Settled hosts imply the use of TLS that they are settled for. -/
theorem Target.implies_settled {endpoints : List Endpoint} (hnonempty : endpoints ≠ []) :
    (Target.hosts (endpoints.map (Endpoint.settled tlsEnabled))).Implies tlsEnabled := by
  have hschemes : ∀ endpoint ∈ endpoints.map (Endpoint.settled tlsEnabled),
      endpoint.scheme = some (schemeFor tlsEnabled) := by
    intro endpoint hmem
    obtain ⟨source, -, rfl⟩ := List.mem_map.1 hmem
    rfl
  cases tlsEnabled with
  | true => exact .secure hschemes
  | false => exact .plain (by simpa using hnonempty) hschemes

theorem forall₂_read_settled {texts : List String} {endpoints : List Endpoint}
    (h : List.Forall₂ (fun text endpoint => Endpoint.read text = .ok endpoint) texts endpoints) :
    List.Forall₂ (fun text endpoint => Endpoint.read text = .ok endpoint)
      ((endpoints.map (Endpoint.settled tlsEnabled)).map Endpoint.text)
      (endpoints.map (Endpoint.settled tlsEnabled)) := by
  induction h with
  | nil => exact .nil
  | cons hfirst _ ih => exact .cons (Endpoint.kept_of_read hfirst).read_settled ih

end ClusterLink
