import ClusterLink.Proofs.Endpoint.Clean

/-!
# Hosts whose schemes imply no use of TLS

Hosts are refused as mixed if their schemes differ. They are also refused so if they share a scheme
that goes with no use of TLS, and such hosts cannot be brought into agreement whatever is said of
TLS. No other hosts are refused.
-/

namespace ClusterLink

variable {texts : List String} {endpoints rest : List Endpoint} {first : Endpoint}
  {given : Option String} {scheme : String}

def SchemesDiffer (endpoints : List Endpoint) : Prop :=
  ∃ first ∈ endpoints, ∃ second ∈ endpoints, first.scheme ≠ second.scheme

instance (endpoints : List Endpoint) : Decidable (SchemesDiffer endpoints) :=
  inferInstanceAs (Decidable (∃ _ ∈ endpoints, ∃ _ ∈ endpoints, _))

/-- All of the endpoints have this scheme, and no use of TLS goes with it. -/
structure ShareForeignScheme (scheme : String) (endpoints : List Endpoint) : Prop where
  clean : Endpoint.IsCleanScheme scheme.toList
  ne_secure : scheme ≠ "https"
  ne_plain : scheme ≠ "http"
  scheme_eq : ∀ endpoint ∈ endpoints, endpoint.scheme = some scheme

/-! ## Uniform lists -/

theorem SchemesDiffer.not_forall (h : SchemesDiffer endpoints) :
    ¬ ∀ endpoint ∈ endpoints, endpoint.scheme = given := by
  obtain ⟨first, hfirst, second, hsecond, hne⟩ := h
  intro hall
  exact hne ((hall first hfirst).trans (hall second hsecond).symm)

/-- Where schemes do not differ, the first endpoint speaks for all of them. -/
theorem forall_scheme_iff_head (h : ¬ SchemesDiffer (first :: rest)) :
    (∀ endpoint ∈ first :: rest, endpoint.scheme = given) ↔ first.scheme = given := by
  constructor
  · intro hall
    exact hall first List.mem_cons_self
  · rintro rfl endpoint hmem
    by_contra hne
    exact h ⟨endpoint, hmem, first, List.mem_cons_self, hne⟩

/-- What is not implied is refused as mixed: schemes that differ, and any other shared scheme. -/
theorem Target.inferTls_eq_mixed_iff :
    (Target.hosts (first :: rest)).inferTls = .error .mixedProtocols ↔
      SchemesDiffer (first :: rest) ∨
        ∃ scheme, scheme ≠ "https" ∧ scheme ≠ "http" ∧
          ∀ endpoint ∈ first :: rest, endpoint.scheme = some scheme := by
  rw [inferTls_hosts]
  by_cases hdiffer : SchemesDiffer (first :: rest)
  · simp only [if_neg hdiffer.not_forall, hdiffer, true_or]
  · simp only [forall_scheme_iff_head hdiffer, hdiffer, false_or]
    cases hscheme : first.scheme with
    | none => simp
    | some scheme =>
        by_cases hsecure : scheme = "https"
        · simp [hsecure, Endpoint.secureScheme]
        · by_cases hplain : scheme = "http" <;>
            simp [hsecure, hplain, Endpoint.secureScheme, Endpoint.plainScheme]

/-- A foreign scheme contradicts either use of TLS. -/
theorem ShareForeignScheme.normalizeHosts_ne_ok
    (h : ShareForeignScheme scheme (first :: rest)) (tlsEnabled : Bool) (found : List Endpoint) :
    normalizeHosts (first :: rest) (some tlsEnabled) ≠ .ok found := by
  intro hfound
  obtain ⟨⟨path, hagree⟩, -⟩ := normalizeHosts_eq_ok_iff.1 hfound
  have hfirst : first.scheme = some scheme := h.scheme_eq first List.mem_cons_self
  have hsame := (hagree first List.mem_cons_self).scheme_eq scheme hfirst
  cases tlsEnabled with
  | true => exact h.ne_secure hsame
  | false => exact h.ne_plain hsame

/-! ## Lists that are read -/

/--
Of the lists of hosts that are read, those are refused as mixed in which schemes differ or one
foreign scheme is shared. The latter are refused for every use of TLS that may be said.
-/
theorem mixed_iff_of_readHosts (hread : Target.readHosts texts = .ok endpoints)
    (hnonempty : texts ≠ []) :
    ((Target.hosts endpoints).inferTls = .error .mixedProtocols ↔
      SchemesDiffer endpoints ∨ ∃ scheme, ShareForeignScheme scheme endpoints) ∧
      ∀ scheme, ShareForeignScheme scheme endpoints → ∀ tlsEnabled found,
        normalizeHosts endpoints (some tlsEnabled) ≠ .ok found := by
  obtain ⟨text, others, rfl⟩ := List.exists_cons_of_ne_nil hnonempty
  obtain ⟨first, rest, hfirst, -, rfl⟩ :=
    List.forall₂_cons_left_iff.1 (Target.readHosts_eq_ok_iff.1 hread)
  refine ⟨?_, fun scheme h => h.normalizeHosts_ne_ok⟩
  rw [Target.inferTls_eq_mixed_iff]
  refine or_congr_right (exists_congr fun scheme => ?_)
  constructor
  · rintro ⟨hsecure, hplain, hall⟩
    have hclean : Endpoint.IsCleanScheme scheme.toList :=
      (Endpoint.clean_of_read hfirst).scheme scheme (hall first List.mem_cons_self)
    exact ⟨hclean, hsecure, hplain, hall⟩
  · intro h
    exact ⟨h.ne_secure, h.ne_plain, h.scheme_eq⟩

/-- Two hosts that agree in a scheme, in letters of any case, which goes with no use of TLS. -/
theorem mixed_gopherHosts :
    let endpoints : List Endpoint :=
      [⟨some "gopher", "a.example", none, none⟩, ⟨some "gopher", "b.example", some 70, none⟩]
    Target.readHosts ["gopher://a.example", "Gopher://b.example:70"] = .ok endpoints ∧
      (Target.hosts endpoints).inferTls = .error .mixedProtocols ∧
      ∀ tlsEnabled found, normalizeHosts endpoints (some tlsEnabled) ≠ .ok found := by
  intro endpoints
  have hread :
      Target.readHosts ["gopher://a.example", "Gopher://b.example:70"] = .ok endpoints := by
    decide +kernel
  have hletters : "gopher".toList = ['g', 'o', 'p', 'h', 'e', 'r'] := rfl
  have hlower : ∀ c ∈ ['o', 'p', 'h', 'e', 'r'], c.isLower = true :=
    List.all_eq_true.1 (by decide)
  have hclean : Endpoint.IsCleanScheme "gopher".toList := by
    rw [hletters]
    exact ⟨by decide, fun c hmem => .inl (hlower c hmem)⟩
  have hshared : ShareForeignScheme "gopher" endpoints :=
    ⟨hclean, by decide, by decide, by decide⟩
  obtain ⟨hmixed, hrefused⟩ := mixed_iff_of_readHosts hread (by decide)
  exact ⟨hread, hmixed.2 (.inr ⟨"gopher", hshared⟩), hrefused "gopher" hshared⟩

/-- A single host that is refused as mixed, though there is no other one to differ from. -/
theorem mixed_loneHost :
    Target.readHosts ["ftp://a.example"] = .ok [⟨some "ftp", "a.example", none, none⟩] ∧
      (Target.hosts [⟨some "ftp", "a.example", none, none⟩]).inferTls =
        .error .mixedProtocols ∧
      ¬ SchemesDiffer [⟨some "ftp", "a.example", none, none⟩] := by
  refine ⟨?_, ?_, ?_⟩ <;> decide +kernel

end ClusterLink
