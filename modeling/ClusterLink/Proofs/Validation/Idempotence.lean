import ClusterLink.Proofs.Endpoint.Settled
import ClusterLink.Proofs.Validation.OtherHosts

/-!
# Hosts that are given as they are settled

The hosts of an accepted connection can be given in place of the hosts that they come from. Their
texts are read as they are, they imply the use of TLS that was settled for them, and nothing is left
open that could be filled otherwise, so the connection and its advisories stay the same.
-/

namespace ClusterLink

variable {options : Options} {random : Uuid} {validator : Validator} {validated : Validated}
  {tlsEnabled : Bool} {connection : Connection}

def Options.withHosts (options : Options) (endpoints : List Endpoint) : Options :=
  { options with hosts := some (endpoints.map Endpoint.text) }

theorem Options.UsesTls.withHosts {target : Target} {endpoints : List Endpoint}
    (h : options.UsesTls target tlsEnabled) (hnonempty : endpoints ≠ []) :
    (options.withHosts (endpoints.map (Endpoint.settled tlsEnabled))).UsesTls
      (.hosts (endpoints.map (Endpoint.settled tlsEnabled))) tlsEnabled := by
  rcases h with hgiven | ⟨hopen, -⟩
  · exact .inl hgiven
  · exact .inr ⟨hopen, Target.implies_settled hnonempty⟩

/-- Options with their settled hosts are accepted on the way to the same connection. -/
theorem Accepts.withHosts {endpoints : List Endpoint} (otherRandom : Uuid)
    (h : Accepts validator random options (.hosts endpoints) tlsEnabled connection)
    (hid : options.id.isSome = true) :
    Accepts validator otherRandom
      (options.withHosts (endpoints.map (Endpoint.settled tlsEnabled)))
      (.hosts (endpoints.map (Endpoint.settled tlsEnabled))) tlsEnabled connection := by
  have hnonempty := h.target_follows.endpoints_ne_nil
  have hread := h.target_follows.forall₂_read
  have hsame := h.naming otherRandom hid (by simpa using hnonempty) (forall₂_read_settled hread)
    (h.uses_tls.withHosts hnonempty) (Endpoint.InAgreement.settled h.in_agreement)
  have htarget : connection.target = (Target.hosts
      (endpoints.map (Endpoint.settled tlsEnabled))).settled tlsEnabled := by
    rw [h.target_eq]
    simp [Target.settled]
  rwa [← htarget] at hsame

/--
The hosts of an accepted connection may stand for the hosts of the options: their texts give the
same connection and the same advisories.
-/
theorem validate_withHosts (hid : options.id.isSome = true) (hhosts : options.hosts.isSome = true)
    (h : (validator.validate random options).outcome = .ok validated) :
    ∃ endpoints, validated.connection.target = .hosts endpoints ∧
      ∀ otherRandom, (validator.validate otherRandom (options.withHosts endpoints)).outcome =
        .ok validated := by
  obtain ⟨target, tlsEnabled, haccepts, hadvisories⟩ := Validator.validate_eq_ok_iff.1 h
  have htarget := haccepts.target_follows
  cases htarget with
  | @hosts texts endpoints _ _ _ _ =>
      refine ⟨endpoints.map (Endpoint.settled tlsEnabled), haccepts.target_eq, ?_⟩
      intro otherRandom
      exact Validator.validate_eq_ok_iff.2
        ⟨_, tlsEnabled, haccepts.withHosts otherRandom hid, hadvisories⟩
  | cloudId hmissing hcloudId hnonempty =>
      rw [hmissing] at hhosts
      cases hhosts

def Options.respelledHosts : Options where
  id := some "filter"
  hosts := some ["HTTP://[2001:DB8:0:0::1]:9201/base/../x y", "http://esé2/%2e/x y"]
  username := some "elastic"
  password := some ⟨"changeme"⟩

def Connection.respelledHosts : Connection where
  id := "filter"
  target := .hosts [⟨some "http", "[2001:db8::1]", some 9201, some "/x%20y"⟩,
    ⟨some "http", "es%C3%A92", some 9200, some "/x%20y"⟩]
  credentials := .basic "elastic" ⟨"changeme"⟩

theorem validate_respelledHosts :
    (Validator.validate ⟨.sealing, .unavailable⟩ ⟨[]⟩ .respelledHosts).outcome =
        .ok ⟨.respelledHosts, [.credentialsOverHttp]⟩ ∧
      (Validator.validate ⟨.sealing, .unavailable⟩ ⟨[]⟩
        { Options.respelledHosts with
          hosts := some
            ["http://[2001:db8::1]:9201/x%20y", "http://es%C3%A92:9200/x%20y"] }).outcome =
        .ok ⟨.respelledHosts, [.credentialsOverHttp]⟩ := by
  have haccepted : (Validator.validate ⟨.sealing, .unavailable⟩ ⟨[]⟩ .respelledHosts).outcome =
      .ok ⟨.respelledHosts, [.credentialsOverHttp]⟩ := by decide +kernel
  obtain ⟨endpoints, htarget, hagain⟩ := validate_withHosts rfl rfl haccepted
  cases htarget
  exact ⟨haccepted, hagain ⟨[]⟩⟩

end ClusterLink
