import ClusterLink.Proofs.Validation.Acceptance

/-!
# Options with other hosts

Whatever options say besides their hosts is followed in the same way when they name other hosts, so
they are accepted as soon as the other hosts are read, imply the same use of TLS and agree.
-/

namespace ClusterLink

variable {options : Options} {random : Uuid} {validator : Validator} {tlsEnabled : Bool}
  {connection : Connection}

def Options.naming (options : Options) (texts : List String) : Options :=
  { options with hosts := some texts }

theorem Options.value?_naming {key : OptionKey} (hkey : isTlsOnly key.name = true)
    (texts : List String) :
    (options.naming texts).value? key = options.value? key := by
  cases key <;> first | rfl | exact absurd hkey (by decide)

theorem Identity.Follows.naming {identity : Option Identity}
    (h : Identity.Follows options identity) (texts : List String) :
    Identity.Follows (options.naming texts) identity := by
  cases h with
  | absent hcertificate hkey hpassphrase hkeystore hpassword =>
      exact .absent hcertificate hkey hpassphrase hkeystore hpassword
  | certificateKey hcertificate hkey hpassphrase hnonempty hkeystore hpassword =>
      exact .certificateKey hcertificate hkey hpassphrase hnonempty hkeystore hpassword
  | keystore hcertificate hkey hpassphrase hkeystore hpassword hnonempty =>
      exact .keystore hcertificate hkey hpassphrase hkeystore hpassword hnonempty

theorem Trust.Follows.naming {systemTrust : SystemTrust} {mode : VerificationMode}
    {trust : Trust} (h : Trust.Follows options systemTrust mode trust) (texts : List String) :
    Trust.Follows (options.naming texts) systemTrust mode trust := by
  cases h with
  | unverified htruststore hpassword hauthorities =>
      exact .unverified htruststore hpassword hauthorities
  | truststore hmode htruststore hpassword hnonempty hauthorities =>
      exact .truststore hmode htruststore hpassword hnonempty hauthorities
  | certificateAuthorities hmode htruststore hpassword hauthorities hnonempty =>
      exact .certificateAuthorities hmode htruststore hpassword hauthorities hnonempty
  | system hmode htruststore hpassword hauthorities havailable =>
      exact .system hmode htruststore hpassword hauthorities havailable

theorem Tls.Follows.naming {systemTrust : SystemTrust} {tls : Tls}
    (h : Tls.Follows options systemTrust tlsEnabled tls) (texts : List String) :
    Tls.Follows (options.naming texts) systemTrust tlsEnabled tls := by
  cases h with
  | disabled hnone =>
      refine .disabled fun key hkey => ?_
      rw [Options.value?_naming hkey]
      exact hnone key hkey
  | enabled hmode hidentity htrust =>
      exact .enabled hmode (hidentity.naming texts) (htrust.naming texts)

theorem Credentials.Follows.naming {credentials : Credentials}
    (h : Credentials.Follows options credentials) (texts : List String) :
    Credentials.Follows (options.naming texts) credentials := by
  cases h with
  | none husername hpassword hapiKey hcloudAuth =>
      exact .none husername hpassword hapiKey hcloudAuth
  | basic husername hpassword hnamed hnonempty hapiKey hcloudAuth =>
      exact .basic husername hpassword hnamed hnonempty hapiKey hcloudAuth
  | apiKey husername hpassword hapiKey hnonempty hcloudAuth =>
      exact .apiKey husername hpassword hapiKey hnonempty hcloudAuth
  | cloudAuth husername hpassword hapiKey hcloudAuth hspells =>
      exact .cloudAuth husername hpassword hapiKey hcloudAuth hspells

theorem Options.Names.named {otherRandom : Uuid} {id : String} (h : options.Names random id)
    (hid : options.id.isSome = true) (texts : List String) :
    (options.naming texts).Names otherRandom id := by
  rcases h with hgiven | ⟨hmissing, -⟩
  · exact .inl hgiven
  · rw [hmissing] at hid
    cases hid

theorem Target.Follows.forall₂_read {endpoints : List Endpoint}
    (h : Target.Follows options (.hosts endpoints)) :
    List.Forall₂ (fun text endpoint => Endpoint.read text = .ok endpoint)
      (options.hosts.getD []) endpoints := by
  cases h with
  | hosts hhosts hcloudId hnonempty hread =>
      rw [hhosts]
      exact hread

/-- Accepted options are accepted with other hosts in the place of theirs. -/
theorem Accepts.naming {endpoints others : List Endpoint} {texts : List String} (otherRandom : Uuid)
    (h : Accepts validator random options (.hosts endpoints) tlsEnabled connection)
    (hid : options.id.isSome = true) (hnonempty : texts ≠ [])
    (hread : List.Forall₂ (fun text endpoint => Endpoint.read text = .ok endpoint) texts others)
    (huses : (options.naming texts).UsesTls (.hosts others) tlsEnabled)
    (hagree : Endpoint.InAgreement tlsEnabled others) :
    Accepts validator otherRandom (options.naming texts) (.hosts others) tlsEnabled
      { connection with target := (Target.hosts others).settled tlsEnabled } where
  target_follows := by
    cases h.target_follows with
    | hosts hhosts hcloudId htexts _ => exact .hosts rfl hcloudId hnonempty hread
  names := h.names.named hid texts
  uses_tls := huses
  tls_follows := h.tls_follows.naming texts
  files_sealed := h.files_sealed
  credentials_follow := h.credentials_follow.naming texts
  in_agreement := hagree
  target_eq := rfl
  pipelineName_eq := h.pipelineName_eq
  geoip_eq := h.geoip_eq

end ClusterLink
