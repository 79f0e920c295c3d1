import ClusterLink.Options.Basic

/-!
# Options that are given

The names of the options that are given are in strictly ascending order, and a name is among them
exactly when it is the name of an option that has a value. Options are what they give.
-/

namespace ClusterLink

theorem OptionKey.byName_ascending : (byName.map name).Pairwise (· < ·) := by decide +kernel

namespace Options

variable {options other : Options} {name : String}

theorem isSupplied_iff :
    options.isSupplied name = true ↔ ∃ key : OptionKey, key.name = name ∧ options.gives key := by
  constructor
  · intro h
    obtain ⟨key, hkey, hname⟩ := List.mem_map.1 (List.contains_iff_mem.1 h)
    exact ⟨key, hname, (List.mem_filter.1 hkey).2⟩
  · rintro ⟨key, rfl, hgives⟩
    rw [options.isSupplied_name, hgives]

theorem isSupplied_eq_false_iff (key : OptionKey) :
    options.isSupplied key.name = false ↔ options.value? key = none := by
  rw [options.isSupplied_name, gives, Option.isSome_eq_false_iff, Option.isNone_iff_eq_none]

theorem supplied_ascending (options : Options) : options.supplied.Pairwise (· < ·) := by
  have hsublist := (List.filter_sublist (p := options.gives) (l := OptionKey.byName)).map
    OptionKey.name
  exact OptionKey.byName_ascending.sublist hsublist

/-- Options that give the same for every key are the same. -/
theorem ext_value? (h : ∀ key, options.value? key = other.value? key) : options = other := by
  have htext := Option.map_injective fun _ _ => OptionValue.text.inj
  have hflag := Option.map_injective fun _ _ => OptionValue.flag.inj
  have hsecret := Option.map_injective fun _ _ => OptionValue.secret.inj
  have htexts := Option.map_injective fun _ _ => OptionValue.texts.inj
  obtain ⟨⟩ := options
  obtain ⟨⟩ := other
  rw [mk.injEq]
  exact ⟨htext (h .id), htexts (h .hosts), htext (h .cloudId), hflag (h .sslEnabled),
    htext (h .sslVerificationMode), htext (h .sslCertificate), htext (h .sslKey),
    hsecret (h .sslKeyPassphrase), htext (h .sslKeystorePath), hsecret (h .sslKeystorePassword),
    htext (h .sslTruststorePath), hsecret (h .sslTruststorePassword),
    htexts (h .sslCertificateAuthorities), htext (h .username), hsecret (h .password),
    hsecret (h .cloudAuth), hsecret (h .apiKey), htext (h .geoipDatabaseDirectory),
    htext (h .pipelineName)⟩

end Options

end ClusterLink
