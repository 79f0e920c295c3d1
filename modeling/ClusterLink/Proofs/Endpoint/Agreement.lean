import ClusterLink.Proofs.Endpoint.Settled

/-!
# Agreement of lists of endpoints

A list is brought into agreement exactly if all of its endpoints fit its first one and the use of
TLS, and the first endpoint that does not fit is the reason if it is not. A list in agreement stays
as it is, for one use of TLS only, and tells which one.
-/

namespace ClusterLink

namespace Endpoint

variable {endpoint : Endpoint} {endpoints found : List Endpoint} {path : String}
  {tlsEnabled : Bool} {violation : Violation}

/-- The path that counts: the one of the endpoint unless it is empty, and the root otherwise. -/
def effectivePath (endpoint : Endpoint) : String :=
  (endpoint.path.filter fun path => path ≠ "").getD "/"

theorem pathOrRoot_eq_effectivePath (endpoint : Endpoint) :
    endpoint.pathOrRoot = endpoint.effectivePath := by
  rw [pathOrRoot, effectivePath]
  cases endpoint.path with
  | none => rfl
  | some path => by_cases hpath : path = "" <;> simp [Option.filter, hpath, defaultPath]

@[mk_iff]
structure Fits (path scheme : String) (endpoint : Endpoint) : Prop where
  path_eq : endpoint.effectivePath = path
  scheme_eq : endpoint.scheme = none ∨ endpoint.scheme = some scheme

theorem forall_scheme_iff :
    (∀ scheme ∈ endpoint.scheme, scheme = schemeFor tlsEnabled) ↔
      endpoint.scheme = none ∨ endpoint.scheme = some (schemeFor tlsEnabled) := by
  cases endpoint.scheme <;> simp

theorem agrees_iff_fits :
    endpoint.Agrees tlsEnabled path ↔ endpoint.Fits path (schemeFor tlsEnabled) := by
  rw [fits_iff, ← pathOrRoot_eq_effectivePath, ← forall_scheme_iff]
  exact ⟨fun h => ⟨h.path_eq, h.scheme_eq⟩, fun h => ⟨h.1, h.2⟩⟩

/-- Why an endpoint does not fit: a wrong path counts before a wrong scheme. -/
def offence (path : String) (tlsEnabled : Bool) (endpoint : Endpoint) : Violation :=
  if endpoint.effectivePath ≠ path then .pathMismatch
  else .schemeMismatch (if tlsEnabled then "https" else "http") tlsEnabled

theorem agree_eq_error_iff_offence :
    endpoint.agree path tlsEnabled = .error violation ↔
      ¬ endpoint.Fits path (schemeFor tlsEnabled) ∧
        violation = endpoint.offence path tlsEnabled := by
  rw [agree_eq_error_iff, pathOrRoot_eq_effectivePath, offence]
  by_cases hpath : endpoint.effectivePath = path
  · have hscheme : (∃ scheme ∈ endpoint.scheme, scheme ≠ schemeFor tlsEnabled) ↔
        ¬ endpoint.Fits path (schemeFor tlsEnabled) := by
      rw [fits_iff, ← forall_scheme_iff]
      simp [hpath]
    rw [hscheme, if_neg (not_not_intro hpath)]
    simp only [hpath, ne_eq, not_true_eq_false, false_and, false_or, true_and]
    rfl
  · have hfits : ¬ endpoint.Fits path (schemeFor tlsEnabled) := fun h => hpath h.path_eq
    simp [hpath, hfits]

theorem exists_agree_eq_ok_iff :
    (∃ found, endpoint.agree path tlsEnabled = .ok found) ↔
      endpoint.Fits path (schemeFor tlsEnabled) := by
  simp only [agree_eq_ok_iff, agrees_iff_fits, exists_and_left, exists_eq, and_true]

theorem settled_eq_of_fits (h : endpoint.Fits path (schemeFor tlsEnabled)) :
    endpoint.settled tlsEnabled =
      ⟨some (schemeFor tlsEnabled), endpoint.host, some (endpoint.port.getD 9200), some path⟩ := by
  rw [settled, pathOrRoot_eq_effectivePath, h.path_eq]
  rfl

/-- Settled for one use of TLS, an endpoint does not agree with the other one. -/
theorem agree_settled_not (hpath : endpoint.pathOrRoot = path) :
    (endpoint.settled tlsEnabled).agree path (!tlsEnabled) =
      .error (.schemeMismatch (schemeFor !tlsEnabled) (!tlsEnabled)) := by
  refine agree_eq_error_iff.2 (.inr ⟨endpoint.pathOrRoot_settled.trans hpath, ?_, rfl⟩)
  refine ⟨schemeFor tlsEnabled, rfl, ?_⟩
  cases tlsEnabled <;> decide

end Endpoint

variable {endpoints found : List Endpoint} {flag : Option Bool} {tlsEnabled : Bool}

/--
An empty list stays empty, and no other one is touched before the use of TLS is known. Then a list
is brought into agreement exactly if every endpoint has the path of the first one and no other
scheme than the right one. If not, the first endpoint that offends is the reason.
-/
theorem normalizeHosts_spec (flag : Option Bool) (first : Endpoint) (rest : List Endpoint)
    (tlsEnabled : Bool) :
    let scheme := if tlsEnabled then "https" else "http"
    let path := first.effectivePath
    normalizeHosts [] flag = .ok [] ∧
      normalizeHosts (first :: rest) none = .error .prematureNormalization ∧
      (∀ found, normalizeHosts (first :: rest) (some tlsEnabled) = .ok found ↔
        (∀ host ∈ first :: rest, host.Fits path scheme) ∧
          found = (first :: rest).map fun host =>
            ⟨some scheme, host.host, some (host.port.getD 9200), some path⟩) ∧
      ∀ violation, normalizeHosts (first :: rest) (some tlsEnabled) = .error violation ↔
        ∃ before host after, first :: rest = before ++ host :: after ∧
          (∀ earlier ∈ before, earlier.Fits path scheme) ∧ ¬ host.Fits path scheme ∧
          violation = host.offence path tlsEnabled := by
  intro scheme path
  have hscheme : schemeFor tlsEnabled = scheme := rfl
  have hrun : normalizeHosts (first :: rest) (some tlsEnabled) =
      (first :: rest).mapM (Endpoint.agree path tlsEnabled) := by
    rw [normalizeHosts, Endpoint.pathOrRoot_eq_effectivePath]
  refine ⟨rfl, rfl, fun found => ?_, fun violation => ?_⟩
  · rw [hrun, mapM_agree_eq_ok_iff]
    simp only [Endpoint.agrees_iff_fits]
    refine and_congr_right fun hfits => ?_
    have hsettled : (first :: rest).map (Endpoint.settled tlsEnabled) =
        (first :: rest).map fun host =>
          ⟨some scheme, host.host, some (host.port.getD 9200), some path⟩ :=
      List.map_congr_left fun host hmem => Endpoint.settled_eq_of_fits (hfits host hmem)
    rw [hsettled]
  · rw [hrun, mapM_eq_error_iff]
    simp only [Endpoint.exists_agree_eq_ok_iff, Endpoint.agree_eq_error_iff_offence, hscheme]

/-! ## A list in agreement -/

theorem normalizeHosts_settled (h : Endpoint.InAgreement tlsEnabled endpoints) :
    normalizeHosts (endpoints.map (Endpoint.settled tlsEnabled)) (some tlsEnabled) =
      .ok (endpoints.map (Endpoint.settled tlsEnabled)) := by
  refine normalizeHosts_eq_ok_iff.2 ⟨h.settled, ?_⟩
  rw [List.map_map]
  exact List.map_congr_left fun endpoint _ => endpoint.settled_settled.symm

/-- The first host already contradicts the other use of TLS. -/
theorem normalizeHosts_settled_not (hnonempty : endpoints ≠ []) :
    normalizeHosts (endpoints.map (Endpoint.settled tlsEnabled)) (some !tlsEnabled) =
      .error (.schemeMismatch (schemeFor !tlsEnabled) (!tlsEnabled)) := by
  obtain ⟨first, rest, rfl⟩ := List.exists_cons_of_ne_nil hnonempty
  rw [List.map_cons, normalizeHosts, Endpoint.pathOrRoot_settled]
  exact mapM_eq_error_iff.2
    ⟨[], _, _, rfl, List.forall_mem_nil _, Endpoint.agree_settled_not rfl⟩

/--
A list in agreement stays as it is. Unless it is empty, it does so for one use of TLS only, which
its hosts imply, and the other one is refused for the scheme.
-/
theorem normalizeHosts_fixed (h : normalizeHosts endpoints flag = .ok found) :
    normalizeHosts found flag = .ok found ∧
      (found ≠ [] → ∃ tlsEnabled, flag = some tlsEnabled ∧
        (Target.hosts found).inferTls = .ok tlsEnabled ∧
        normalizeHosts found (some !tlsEnabled) =
          .error (.schemeMismatch (if tlsEnabled then "http" else "https") (!tlsEnabled)) ∧
        ∀ other, normalizeHosts found other = .ok found ↔ other = flag) := by
  obtain _ | ⟨first, rest⟩ := endpoints
  · cases h
    exact ⟨rfl, fun hnonempty => absurd rfl hnonempty⟩
  obtain _ | tlsEnabled := flag
  · cases h
  obtain ⟨hagree, rfl⟩ := normalizeHosts_eq_ok_iff.1 h
  have hnonempty : first :: rest ≠ [] := List.cons_ne_nil first rest
  have hfixed := normalizeHosts_settled hagree
  have hother : normalizeHosts ((first :: rest).map (Endpoint.settled tlsEnabled))
      (some !tlsEnabled) = .error (.schemeMismatch (schemeFor !tlsEnabled) (!tlsEnabled)) :=
    normalizeHosts_settled_not hnonempty
  refine ⟨hfixed, fun _ => ⟨tlsEnabled, rfl, ?_, ?_, fun other => ?_⟩⟩
  · exact Target.inferTls_eq_ok_iff.2 (Target.implies_settled hnonempty)
  · rw [hother]
    cases tlsEnabled <;> rfl
  · constructor
    · intro hsame
      cases other with
      | none => cases hsame
      | some other =>
          refine congrArg some (by_contra fun hne => ?_)
          rw [Bool.eq_not_of_ne hne, hother] at hsame
          cases hsame
    · rintro rfl
      exact hfixed

theorem normalizeHosts_fixed_emptyPath :
    let found : List Endpoint :=
      [⟨some "https", "a.example", some 9200, some "/"⟩,
        ⟨some "https", "b.example", some 9243, some "/"⟩]
    normalizeHosts [⟨none, "a.example", none, none⟩,
        ⟨some "https", "b.example", some 9243, some ""⟩] (some true) = .ok found ∧
      normalizeHosts found (some true) = .ok found ∧
      (Target.hosts found).inferTls = .ok true ∧
      normalizeHosts found (some false) = .error (.schemeMismatch "http" false) := by
  intro found
  have hrun : normalizeHosts [⟨none, "a.example", none, none⟩,
      ⟨some "https", "b.example", some 9243, some ""⟩] (some true) = .ok found := by
    decide
  obtain ⟨hfixed, hnonempty⟩ := normalizeHosts_fixed hrun
  obtain ⟨tlsEnabled, hflag, himplied, hother, -⟩ := hnonempty (List.cons_ne_nil _ _)
  cases hflag
  exact ⟨hrun, hfixed, himplied, hother⟩

end ClusterLink
