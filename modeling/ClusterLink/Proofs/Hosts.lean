import ClusterLink.Proofs.Target.Rules
import ClusterLink.Validation

/-!
# Hosts in agreement

What a target says of the use of TLS, when hosts agree with each other and with the use of TLS, and
what they are once they do. Hosts that cannot be brought into agreement are never accepted.
-/

namespace ClusterLink

variable {tlsEnabled : Bool}

/-! ## Use of TLS -/

namespace Target

/-- What a target says of the use of TLS. -/
inductive Implies : Target → Bool → Prop
  | managed (identifier : String) : Implies (.cloudId identifier) true
  | openHosts {endpoints : List Endpoint}
      (hschemes : ∀ endpoint ∈ endpoints, endpoint.scheme = none) :
      Implies (.hosts endpoints) true
  | secure {endpoints : List Endpoint}
      (hschemes : ∀ endpoint ∈ endpoints, endpoint.scheme = some Endpoint.secureScheme) :
      Implies (.hosts endpoints) true
  | plain {endpoints : List Endpoint} (hnonempty : endpoints ≠ [])
      (hschemes : ∀ endpoint ∈ endpoints, endpoint.scheme = some Endpoint.plainScheme) :
      Implies (.hosts endpoints) false

theorem inferTls_hosts (endpoints : List Endpoint) :
    (Target.hosts endpoints).inferTls =
      if ∀ endpoint ∈ endpoints, endpoint.scheme = none then .ok true
      else if ∀ endpoint ∈ endpoints, endpoint.scheme = some Endpoint.secureScheme then .ok true
      else if ∀ endpoint ∈ endpoints, endpoint.scheme = some Endpoint.plainScheme then .ok false
      else .error .mixedProtocols := by
  simp [inferTls]

theorem inferTls_eq_ok_iff {target : Target} :
    target.inferTls = .ok tlsEnabled ↔ target.Implies tlsEnabled := by
  cases target with
  | cloudId identifier =>
      constructor
      · intro h
        cases h
        exact .managed identifier
      · rintro ⟨⟩
        rfl
  | hosts endpoints =>
      rw [inferTls_hosts]
      constructor
      · intro h
        split_ifs at h with hopen hsecure hplain
        · cases h
          exact .openHosts hopen
        · cases h
          exact .secure hsecure
        · cases h
          refine .plain ?_ hplain
          rintro rfl
          simp at hopen
      · intro h
        cases h with
        | openHosts hopen => rw [if_pos hopen]
        | secure hsecure => rw [if_pos hsecure, ite_self]
        | plain hnonempty hplain =>
            obtain ⟨first, rest, rfl⟩ := List.exists_cons_of_ne_nil hnonempty
            have hfirst := hplain first List.mem_cons_self
            have hopen : ¬ ∀ endpoint ∈ first :: rest, endpoint.scheme = none := fun h => by
              simp [h first List.mem_cons_self] at hfirst
            have hsecure : ¬ ∀ endpoint ∈ first :: rest,
                endpoint.scheme = some Endpoint.secureScheme := fun h => by
              rw [h first List.mem_cons_self] at hfirst
              simp [Endpoint.secureScheme, Endpoint.plainScheme] at hfirst
            rw [if_neg hopen, if_neg hsecure, if_pos hplain]

end Target

def Options.UsesTls (options : Options) (target : Target) (tlsEnabled : Bool) : Prop :=
  options.sslEnabled = some tlsEnabled ∨ options.sslEnabled = none ∧ target.Implies tlsEnabled

theorem Validator.resolveTlsEnabled_eq_ok_iff {options : Options} {target : Target} :
    (resolveTlsEnabled options target).outcome = .ok tlsEnabled ↔
      options.UsesTls target tlsEnabled := by
  unfold resolveTlsEnabled Options.UsesTls
  cases hgiven : options.sslEnabled with
  | some enabled => simp
  | none => simp [Target.inferTls_eq_ok_iff]

theorem Options.UsesTls.unique {options : Options} {target : Target} {other : Bool}
    (h : options.UsesTls target tlsEnabled) (hother : options.UsesTls target other) :
    tlsEnabled = other := by
  rw [← Validator.resolveTlsEnabled_eq_ok_iff] at h hother
  simpa [h] using hother

/-! ## Agreement -/

namespace Endpoint

variable {endpoint : Endpoint} {path : String}

/-- The endpoint with all that it leaves open, where TLS is used or not. -/
def settled (tlsEnabled : Bool) (endpoint : Endpoint) : Endpoint :=
  { scheme := some (schemeFor tlsEnabled)
    host := endpoint.host
    port := some (endpoint.port.getD defaultPort)
    path := some endpoint.pathOrRoot }

/-- The endpoint has this path and no other scheme than the one that goes with the use of TLS. -/
structure Agrees (tlsEnabled : Bool) (path : String) (endpoint : Endpoint) : Prop where
  path_eq : endpoint.pathOrRoot = path
  scheme_eq : ∀ scheme ∈ endpoint.scheme, scheme = schemeFor tlsEnabled

theorem withScheme_filled (endpoint : Endpoint) (tlsEnabled : Bool) :
    endpoint.filled.withScheme (schemeFor tlsEnabled) = endpoint.settled tlsEnabled := by
  cases tlsEnabled <;> rfl

theorem agree_eq_ok_iff {found : Endpoint} :
    endpoint.agree path tlsEnabled = .ok found ↔
      endpoint.Agrees tlsEnabled path ∧ found = endpoint.settled tlsEnabled := by
  unfold agree
  by_cases hpath : endpoint.pathOrRoot = path
  · rw [if_neg (not_not_intro hpath)]
    cases hscheme : endpoint.scheme with
    | none =>
        have hagrees : endpoint.Agrees tlsEnabled path := ⟨hpath, by simp [hscheme]⟩
        simp [hagrees, withScheme_filled, eq_comm]
    | some scheme =>
        by_cases hsame : scheme = schemeFor tlsEnabled
        · have hagrees : endpoint.Agrees tlsEnabled path := ⟨hpath, by simp [hscheme, hsame]⟩
          have hfilled : endpoint.filled = endpoint.settled tlsEnabled := by
            simp [filled, settled, hscheme, hsame]
          simp [hagrees, hsame, hfilled, eq_comm]
        · have hagrees : ¬ endpoint.Agrees tlsEnabled path := fun h =>
            hsame (h.scheme_eq scheme hscheme)
          simp [hagrees, hsame]
  · have hagrees : ¬ endpoint.Agrees tlsEnabled path := fun h => hpath h.path_eq
    simp [hagrees, hpath]

theorem agree_eq_error_iff {violation : Violation} :
    endpoint.agree path tlsEnabled = .error violation ↔
      endpoint.pathOrRoot ≠ path ∧ violation = .pathMismatch ∨
        endpoint.pathOrRoot = path ∧
          (∃ scheme ∈ endpoint.scheme, scheme ≠ schemeFor tlsEnabled) ∧
            violation = .schemeMismatch (schemeFor tlsEnabled) tlsEnabled := by
  unfold agree
  by_cases hpath : endpoint.pathOrRoot = path
  · rw [if_neg (not_not_intro hpath)]
    cases hscheme : endpoint.scheme with
    | none => simp [hpath]
    | some scheme => by_cases hsame : scheme = schemeFor tlsEnabled <;> simp [hpath, hsame, eq_comm]
  · simp [hpath, eq_comm]

/-- All of the endpoints have one path and no other scheme than the one that goes with TLS. -/
def InAgreement (tlsEnabled : Bool) (endpoints : List Endpoint) : Prop :=
  ∃ path, ∀ endpoint ∈ endpoints, endpoint.Agrees tlsEnabled path

end Endpoint

theorem mapM_agree_eq_ok_iff {path : String} {endpoints found : List Endpoint} :
    endpoints.mapM (Endpoint.agree path tlsEnabled) = .ok found ↔
      (∀ endpoint ∈ endpoints, endpoint.Agrees tlsEnabled path) ∧
        found = endpoints.map (Endpoint.settled tlsEnabled) := by
  rw [mapM_eq_ok_iff]
  simp only [Endpoint.agree_eq_ok_iff]
  induction endpoints generalizing found with
  | nil => simp
  | cons endpoint rest ih =>
      cases found with
      | nil => simp
      | cons first others =>
          rw [List.forall₂_cons, ih]
          simp only [List.forall_mem_cons, List.map_cons, List.cons.injEq]
          tauto

theorem normalizeHosts_eq_ok_iff {endpoints found : List Endpoint} :
    normalizeHosts endpoints (some tlsEnabled) = .ok found ↔
      Endpoint.InAgreement tlsEnabled endpoints ∧
        found = endpoints.map (Endpoint.settled tlsEnabled) := by
  cases endpoints with
  | nil => simp [normalizeHosts, Endpoint.InAgreement, eq_comm]
  | cons first rest =>
      rw [normalizeHosts, mapM_agree_eq_ok_iff]
      refine and_congr_left' ⟨fun h => ⟨_, h⟩, ?_⟩
      rintro ⟨path, h⟩
      rwa [(h first List.mem_cons_self).path_eq]

namespace Target

def InAgreement (tlsEnabled : Bool) : Target → Prop
  | .hosts endpoints => Endpoint.InAgreement tlsEnabled endpoints
  | .cloudId _ => True

def settled (tlsEnabled : Bool) : Target → Target
  | .hosts endpoints => .hosts (endpoints.map (Endpoint.settled tlsEnabled))
  | .cloudId identifier => .cloudId identifier

end Target

theorem Validator.settleTarget_eq_ok_iff {target found : Target} :
    (settleTarget target tlsEnabled).outcome = .ok found ↔
      target.InAgreement tlsEnabled ∧ found = target.settled tlsEnabled := by
  unfold settleTarget
  cases target with
  | cloudId identifier => simp [Target.InAgreement, Target.settled, eq_comm]
  | hosts endpoints =>
      simp only [Traced.bind_eq, Traced.outcome_andThen_eq_ok, Traced.outcome_lift,
        normalizeHosts_eq_ok_iff, Target.InAgreement, Target.settled]
      constructor
      · rintro ⟨hosts, ⟨hagree, rfl⟩, h⟩
        refine ⟨hagree, Eq.symm ?_⟩
        cases endpoints <;> simpa using h
      · rintro ⟨hagree, rfl⟩
        refine ⟨_, ⟨hagree, rfl⟩, ?_⟩
        cases endpoints <;> simp

end ClusterLink
