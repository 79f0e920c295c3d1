import ClusterLink.Endpoint.Reading
import ClusterLink.Proofs.Endpoint.IPv6
import ClusterLink.Proofs.Text.Letters

/-!
# Hosts that are read again

A host is kept as a compressed address in brackets or as a name in visible ASCII. Either is read as
itself, holds nothing that ends the authority part, and is cut off whole at the colon of a port.
-/

namespace ClusterLink.Endpoint

open Text

variable {text host tail : List Char} {c : Char}

inductive IsHost : List Char → Prop
  | address {groups : List Nat} (haddress : IPv6.IsAddress groups) :
      IsHost ('[' :: IPv6.write groups ++ [']'])
  | name {host : List Char} (hvisible : ∀ c ∈ host, isVisibleAscii c = true)
      (hallowed : ∀ c ∈ host, isForbiddenInHost c = false) : IsHost host

/-- The characters that a host is made of: visible ones that neither end it nor follow user info. -/
def isHostChar (c : Char) : Bool := isVisibleAscii c && !endsAuthority c && c != '@'

/-! ## Characters -/

theorem isVisibleAscii_iff : isVisibleAscii c = true ↔ 0x20 < c.toNat ∧ c.toNat < 0x7F := by
  simp [isVisibleAscii]

theorem isVisibleAscii_of_isAlphanum (h : c.isAlphanum = true) :
    isVisibleAscii c = true := by
  rw [isAlphanum_iff, isAlpha_iff, isUpper_iff, isLower_iff, isDigit_iff] at h
  rw [isVisibleAscii_iff]
  omega

theorem isVisibleAscii_of_hexDigit? (h : (hexDigit? c).isSome = true) :
    isVisibleAscii c = true := by
  obtain ⟨n, hn⟩ := Option.isSome_iff_exists.1 h
  obtain ⟨hlow, hhigh, -⟩ := bounds_of_hexDigit? hn
  have hvisible : 0x20 < c.val.toNat ∧ c.val.toNat < 0x7F := by omega
  exact isVisibleAscii_iff.2 hvisible

theorem ne_of_hexDigit? {other : Char} (h : (hexDigit? c).isSome = true)
    (hother : hexDigit? other = none) : c ≠ other := by
  rintro rfl
  rw [hother] at h
  cases h

theorem isHostChar_of_hexDigit? (h : (hexDigit? c).isSome = true) : isHostChar c = true := by
  have hslash : c ≠ '/' := ne_of_hexDigit? h (by decide)
  have hquery : c ≠ '?' := ne_of_hexDigit? h (by decide)
  have hfragment : c ≠ '#' := ne_of_hexDigit? h (by decide)
  have hat : c ≠ '@' := ne_of_hexDigit? h (by decide)
  simp [isHostChar, isVisibleAscii_of_hexDigit? h, endsAuthority, *]

theorem isHostChar_of_allowed (hvisible : isVisibleAscii c = true)
    (hallowed : isForbiddenInHost c = false) : isHostChar c = true := by
  simp_all [isHostChar, isForbiddenInHost, endsAuthority]

theorem mem_literal {groups : List Nat} (h : c ∈ '[' :: IPv6.write groups ++ [']']) :
    c = '[' ∨ c = ':' ∨ (hexDigit? c).isSome = true ∨ c = ']' := by
  simp only [List.cons_append, List.mem_cons, List.mem_append, List.not_mem_nil, or_false] at h
  rcases h with hopen | hinside | hclose
  · exact .inl hopen
  · rcases IPv6.mem_write hinside with hcolon | hdigit
    · exact .inr (.inl hcolon)
    · exact .inr (.inr (.inl hdigit))
  · exact .inr (.inr (.inr hclose))

theorem IsHost.isHostChar_of_mem (h : IsHost host) : ∀ c ∈ host, isHostChar c = true := by
  intro c hmem
  cases h with
  | address haddress =>
      rcases mem_literal hmem with rfl | rfl | hdigit | rfl
      · decide
      · decide
      · exact isHostChar_of_hexDigit? hdigit
      · decide
  | name hvisible hallowed => exact isHostChar_of_allowed (hvisible c hmem) (hallowed c hmem)

theorem isVisibleAscii_of_isHostChar (h : isHostChar c = true) : isVisibleAscii c = true := by
  simp_all [isHostChar]

theorem endsAuthority_of_isHostChar (h : isHostChar c = true) : endsAuthority c = false := by
  simp_all [isHostChar]

theorem ne_at_of_isHostChar (h : isHostChar c = true) : c ≠ '@' := by
  simp_all [isHostChar]

/-! ## Reading -/

theorem readHost_address {groups : List Nat} (h : IPv6.IsAddress groups) :
    readHost ('[' :: IPv6.write groups ++ [']']) = .ok ('[' :: IPv6.write groups ++ [']']) := by
  have hreverse : (IPv6.write groups ++ [']']).reverse = ']' :: (IPv6.write groups).reverse := by
    simp
  have hread : IPv6.read? (IPv6.write groups).reverse.reverse = some groups := by
    rw [List.reverse_reverse, IPv6.read?_write h]
  simp only [List.cons_append, readHost, hreverse, hread]

theorem readHost_name (hbracket : host.head? ≠ some '[') :
    readHost host =
      if host.any isForbiddenInHost then .error .invalidCharacter
      else .ok (percentEncode isVisibleAscii host) := by
  cases host with
  | nil => rfl
  | cons c rest =>
      have hc : c ≠ '[' := by simpa using hbracket
      simp [readHost, hc]

theorem isHost_of_readHost (h : readHost text = .ok host) : IsHost host := by
  by_cases hbracket : text.head? = some '['
  · obtain ⟨rest, rfl⟩ := List.head?_eq_some_iff.1 hbracket
    rw [readHost] at h
    split at h
    · split at h
      · rename_i groups hread
        cases h
        exact .address (IPv6.isAddress_of_read? hread)
      · cases h
    · cases h
  · rw [readHost_name hbracket] at h
    split_ifs at h with hforbidden
    cases h
    have hallowed : ∀ c ∈ text, isForbiddenInHost c = false := by simpa using hforbidden
    refine .name ?_ ?_
    · exact forall_mem_percentEncode (fun _ _ hkeep => hkeep) (by decide) (by decide)
    · intro c hmem
      have hdigits : ∀ n < 16, isForbiddenInHost (upperHexDigit n) = false := by decide
      rcases mem_percentEncode hmem with ⟨hsource, -⟩ | rfl | ⟨n, hn, rfl⟩
      · exact hallowed c hsource
      · decide
      · exact hdigits n hn

/-- A host that is kept is read as itself. -/
theorem IsHost.readHost_eq (h : IsHost host) : readHost host = .ok host := by
  cases h with
  | address haddress => exact readHost_address haddress
  | name hvisible hallowed =>
      have hbracket : host.head? ≠ some '[' := by
        intro hhead
        obtain ⟨rest, rfl⟩ := List.head?_eq_some_iff.1 hhead
        exact absurd (hallowed '[' List.mem_cons_self) (by decide)
      have hany : host.any isForbiddenInHost = false := by simpa using hallowed
      rw [readHost_name hbracket, hany, percentEncode_of_all hvisible]
      rfl

/-! ## Host and port -/

/-- Characters that are neither brackets nor a colon outside brackets belong to the host. -/
theorem splitHost_append {inside : Bool}
    (h : ∀ c ∈ host, c ≠ '[' ∧ c ≠ ']' ∧ (inside = false → c ≠ ':')) :
    splitHost inside (host ++ tail) =
      (host ++ (splitHost inside tail).1, (splitHost inside tail).2) := by
  induction host with
  | nil => rfl
  | cons c rest ih =>
      rw [List.forall_mem_cons] at h
      obtain ⟨⟨hopen, hclose, hcolon⟩, hrest⟩ := h
      have hinside : (c == ':' && !inside) = false := by
        cases inside <;> simp_all
      rw [List.cons_append, splitHost, hinside, if_neg Bool.false_ne_true,
        if_neg (by simpa using hopen), if_neg (by simpa using hclose), ih hrest]
      rfl

theorem splitHost_bracket (rest : List Char) (inside : Bool) :
    splitHost inside ('[' :: rest) = ('[' :: (splitHost true rest).1, (splitHost true rest).2) := by
  simp [splitHost]

/-- A host that is kept is cut off as a whole. -/
theorem IsHost.splitHost_append (h : IsHost host) :
    splitHost false (host ++ tail) =
      (host ++ (splitHost false tail).1, (splitHost false tail).2) := by
  cases h with
  | @address groups haddress =>
      have hinside : ∀ c ∈ IPv6.write groups, c ≠ '[' ∧ c ≠ ']' ∧ (true = false → c ≠ ':') := by
        intro c hmem
        rcases IPv6.mem_write hmem with rfl | hdigit
        · decide
        · exact ⟨ne_of_hexDigit? hdigit (by decide), ne_of_hexDigit? hdigit (by decide), by simp⟩
      have hclose : splitHost true (']' :: tail) =
          (']' :: (splitHost false tail).1, (splitHost false tail).2) := by
        simp [splitHost]
      rw [List.append_assoc, List.cons_append, splitHost_bracket, Endpoint.splitHost_append hinside,
        List.singleton_append, hclose]
      simp
  | name hvisible hallowed =>
      refine Endpoint.splitHost_append fun c hmem => ?_
      have hc := hallowed c hmem
      refine ⟨?_, ?_, fun _ => ?_⟩ <;> rintro rfl <;> exact absurd hc (by decide)

end ClusterLink.Endpoint
