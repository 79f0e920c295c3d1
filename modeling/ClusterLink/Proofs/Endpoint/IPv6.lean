import ClusterLink.Endpoint.IPv6
import ClusterLink.Proofs.Text.Hex
import ClusterLink.Proofs.Text.Split
import Mathlib.Tactic.SplitIfs

/-!
# Addresses that are written and read

What is read as an address is eight groups of 16 bits, and the compressed text of any eight such
groups is read as these groups again. The two colons of the compression are the first ones of the
text that stand together, since no group is written without a digit.
-/

namespace ClusterLink.Endpoint.IPv6

open Text

variable {dotted : Bool} {text digits : List Char} {groups : List Nat} {group : Nat}

structure IsAddress (groups : List Nat) : Prop where
  length_eq : groups.length = 8
  lt_of_mem : ∀ group ∈ groups, group < 65536

/-! ## What is read -/

theorem lt_of_readGroup? (h : readGroup? digits = some group) : group < 65536 := by
  unfold readGroup? at h
  split_ifs at h with hlength
  simp only [Bool.or_eq_true, decide_eq_true_eq, not_or] at hlength
  have hvalue := lt_of_hexValue? h
  have hpow : 16 ^ digits.length ≤ 16 ^ 4 := Nat.pow_le_pow_right (by omega) (by omega)
  omega

theorem le_of_readByte? {value : Nat} (h : readByte? digits = some value) : value ≤ 255 := by
  unfold readByte? at h
  split_ifs at h
  dsimp only at h
  split_ifs at h with hbound
  cases h
  exact hbound

theorem lt_of_mem_readQuad? (h : readQuad? text = some groups) :
    ∀ group ∈ groups, group < 65536 := by
  unfold readQuad? at h
  split at h
  · simp only [Option.bind_eq_bind, Option.bind_eq_some_iff] at h
    obtain ⟨a, ha, b, hb, c, hc, d, hd, h⟩ := h
    cases h
    have ha := le_of_readByte? ha
    have hb := le_of_readByte? hb
    have hc := le_of_readByte? hc
    have hd := le_of_readByte? hd
    simp only [List.mem_cons, List.not_mem_nil, or_false, forall_eq_or_imp, forall_eq]
    omega
  · cases h

theorem lt_of_mem_readGroup? (h : (readGroup? digits).map (fun group => [group]) = some groups) :
    ∀ group ∈ groups, group < 65536 := by
  obtain ⟨found, hfound, rfl⟩ := Option.map_eq_some_iff.1 h
  have hlt := lt_of_readGroup? hfound
  simpa using hlt

theorem lt_of_mem_readLast? (h : readLast? text = some groups) :
    ∀ group ∈ groups, group < 65536 := by
  unfold readLast? at h
  split_ifs at h
  · exact lt_of_mem_readQuad? h
  · exact lt_of_mem_readGroup? h

theorem lt_of_mem_readGroups? {texts : List (List Char)}
    (h : readGroups? dotted texts = some groups) : ∀ group ∈ groups, group < 65536 := by
  fun_induction readGroups? dotted texts generalizing groups with
  | case1 =>
      cases h
      simp
  | case2 last => exact lt_of_mem_readLast? h
  | case3 last => exact lt_of_mem_readGroup? h
  | case4 first others hothers found foundGroups hgroups hgroup ih =>
      cases h
      rw [List.forall_mem_cons]
      exact ⟨lt_of_readGroup? hgroup, ih hgroups⟩
  | case5 => cases h

theorem lt_of_mem_readSide? (h : readSide? dotted text = some groups) :
    ∀ group ∈ groups, group < 65536 := by
  unfold readSide? at h
  split_ifs at h
  · cases h
    simp
  · exact lt_of_mem_readGroups? h

theorem isAddress_of_read? (h : read? text = some groups) : IsAddress groups := by
  unfold read? at h
  split at h
  · split at h
    · rename_i high low hhigh hlow
      split_ifs at h with hlength
      cases h
      have hhighs := lt_of_mem_readSide? hhigh
      have hlows := lt_of_mem_readSide? hlow
      constructor
      · simp only [List.length_append, List.length_replicate]
        omega
      · intro group hmem
        simp only [List.mem_append, List.mem_replicate] at hmem
        rcases hmem with (hmem | ⟨-, rfl⟩) | hmem
        · exact hhighs group hmem
        · omega
        · exact hlows group hmem
    · cases h
  · split at h
    · rename_i found hfound
      split_ifs at h with hlength
      cases h
      exact ⟨hlength, lt_of_mem_readGroups? hfound⟩
    · cases h

/-! ## Digits of groups -/

theorem not_mem_toDigits {c : Char} (hc : hexDigit? c = none) : c ∉ Nat.toDigits 16 group := by
  intro hmem
  have hdigit := isSome_hexDigit?_of_mem_toDigits hmem
  rw [hc] at hdigit
  cases hdigit

theorem readGroup?_toDigits (h : group < 65536) :
    readGroup? (Nat.toDigits 16 group) = some group := by
  have hlength : (Nat.toDigits 16 group).length ≤ 4 :=
    (Nat.length_toDigits_le_iff (by omega) (by omega)).2 h
  have hnonempty : (Nat.toDigits 16 group).isEmpty = false := by simp
  unfold readGroup?
  rw [hnonempty, if_neg (by simpa using hlength), hexValue?_toDigits]

theorem readLast?_toDigits (h : group < 65536) :
    readLast? (Nat.toDigits 16 group) = some [group] := by
  have hdot : ¬ (Nat.toDigits 16 group).contains '.' = true := by
    rw [List.contains_iff_mem]
    exact not_mem_toDigits (by decide)
  rw [readLast?, if_neg hdot, readGroup?_toDigits h, Option.map_some]

theorem readGroups?_toDigits (h : ∀ group ∈ groups, group < 65536) :
    readGroups? dotted (groups.map (Nat.toDigits 16)) = some groups := by
  induction groups with
  | nil => rfl
  | cons first others ih =>
      rw [List.forall_mem_cons] at h
      cases others with
      | nil =>
          rw [List.map_singleton, readGroups?, readLast?_toDigits h.1, readGroup?_toDigits h.1]
          exact ite_self _
      | cons second rest =>
          have hrest := ih h.2
          rw [List.map_cons] at hrest
          rw [List.map_cons, List.map_cons, readGroups?, readGroup?_toDigits h.1, hrest]
          simp

/-! ## Groups between colons -/

theorem writeGroups_cons_cons (first second : Nat) (rest : List Nat) :
    writeGroups (first :: second :: rest) =
      Nat.toDigits 16 first ++ ':' :: writeGroups (second :: rest) := by
  simp [writeGroups, List.intercalate_cons_cons]

theorem exists_writeGroups_cons (first : Nat) (rest : List Nat) :
    ∃ c others, writeGroups (first :: rest) = c :: others ∧ c ≠ ':' := by
  obtain ⟨c, others, hdigits⟩ :=
    List.exists_cons_of_ne_nil (Nat.toDigits_ne_nil : Nat.toDigits 16 first ≠ [])
  have hcolon : ':' ∉ Nat.toDigits 16 first := not_mem_toDigits (by decide)
  rw [hdigits, List.mem_cons, not_or] at hcolon
  cases rest with
  | nil => exact ⟨c, others, by simp [writeGroups, hdigits], Ne.symm hcolon.1⟩
  | cons second rest =>
      exact ⟨c, _, by rw [writeGroups_cons_cons, hdigits, List.cons_append], Ne.symm hcolon.1⟩

theorem pieces_writeGroups (hnonempty : groups ≠ []) :
    pieces ':' (writeGroups groups) = groups.map (Nat.toDigits 16) := by
  refine pieces_intercalate (fun part hmem => ?_) (by simpa using hnonempty)
  obtain ⟨group, -, rfl⟩ := List.mem_map.1 hmem
  exact not_mem_toDigits (by decide)

theorem readSide?_writeGroups (h : ∀ group ∈ groups, group < 65536) :
    readSide? dotted (writeGroups groups) = some groups := by
  cases groups with
  | nil => rfl
  | cons first rest =>
      obtain ⟨c, others, hwritten, -⟩ := exists_writeGroups_cons first rest
      have hnonempty : (writeGroups (first :: rest)).isEmpty = false := by
        rw [hwritten]
        rfl
      rw [readSide?, hnonempty, pieces_writeGroups (List.cons_ne_nil _ _)]
      exact readGroups?_toDigits h

/-- Groups hold no two colons that stand together. -/
theorem splitFirst_writeGroups (groups : List Nat) (tail : List Char) :
    splitFirst [':', ':'] (writeGroups groups ++ tail) =
      (splitFirst [':', ':'] tail).map fun halves =>
        (writeGroups groups ++ halves.1, halves.2) := by
  induction groups with
  | nil => simp [writeGroups]
  | cons first others ih =>
      have hcolon : ':' ∉ Nat.toDigits 16 first := not_mem_toDigits (by decide)
      cases others with
      | nil =>
          have hsingle : writeGroups [first] = Nat.toDigits 16 first := by simp [writeGroups]
          rw [hsingle, splitFirst_append_left hcolon]
      | cons second rest =>
          obtain ⟨c, others, hwritten, hc⟩ := exists_writeGroups_cons second rest
          have hlead :
              dropLead? [':', ':'] (':' :: (writeGroups (second :: rest) ++ tail)) = none := by
            simp [hwritten, dropLead?, Ne.symm hc]
          rw [writeGroups_cons_cons, List.append_assoc, splitFirst_append_left hcolon,
            List.cons_append, splitFirst, hlead, ih, Option.map_map, Option.map_map]
          simp [Function.comp_def]

/-! ## Runs of zero groups -/

theorem append_of_leadingZeros (groups : List Nat) :
    groups = List.replicate (leadingZeros groups) 0 ++ groups.drop (leadingZeros groups) := by
  fun_induction leadingZeros groups with
  | case1 groups ih => rw [List.replicate_succ, List.cons_append, List.drop_succ_cons, ← ih]
  | case2 => rfl

/-- The longest run is a run of zero groups, wherever it is. -/
theorem append_of_longestZeroRun (groups : List Nat) :
    groups = groups.take (longestZeroRun groups).1 ++
      (List.replicate (longestZeroRun groups).2 0 ++
        groups.drop ((longestZeroRun groups).1 + (longestZeroRun groups).2)) := by
  induction groups with
  | nil => rfl
  | cons group groups ih =>
      rw [longestZeroRun]
      split
      · have hzeros := append_of_leadingZeros (group :: groups)
        simpa using hzeros
      · dsimp only
        rw [Nat.add_right_comm, List.take_succ_cons, List.drop_succ_cons, List.cons_append, ← ih]

/-! ## Reading what is written -/

/-- The text of an address is read as the address. -/
theorem read?_write (h : IsAddress groups) : read? (write groups) = some groups := by
  unfold write
  dsimp only
  split_ifs with hshort
  · have hnonempty : groups ≠ [] := by
      rintro rfl
      cases h.length_eq
    have hsplit := splitFirst_writeGroups groups []
    rw [List.append_nil] at hsplit
    have hnone : splitFirst [':', ':'] (writeGroups groups) = none := hsplit
    rw [read?, hnone, pieces_writeGroups hnonempty]
    dsimp only
    rw [readGroups?_toDigits h.lt_of_mem]
    exact if_pos h.length_eq
  · generalize hrun : longestZeroRun groups = run at *
    have hgroups := append_of_longestZeroRun groups
    rw [hrun] at hgroups
    have hlength := congrArg List.length hgroups
    rw [List.length_append, List.length_append, List.length_replicate, h.length_eq] at hlength
    have hsplit := splitFirst_writeGroups (groups.take run.1)
      ([':', ':'] ++ writeGroups (groups.drop (run.1 + run.2)))
    have hhigh : ∀ group ∈ groups.take run.1, group < 65536 := fun group hmem =>
      h.lt_of_mem group (List.mem_of_mem_take hmem)
    have hlow : ∀ group ∈ groups.drop (run.1 + run.2), group < 65536 := fun group hmem =>
      h.lt_of_mem group (List.mem_of_mem_drop hmem)
    rw [splitFirst_of_dropLead? (dropLead?_eq_some_iff.2 rfl)] at hsplit
    rw [read?, List.append_assoc, hsplit]
    simp only [Option.map_some, List.append_nil, readSide?_writeGroups hhigh,
      readSide?_writeGroups hlow]
    rw [if_pos (by omega), List.append_assoc]
    -- The groups that are left out are as many as the run has.
    have hzeros :
        8 - ((groups.take run.1).length + (groups.drop (run.1 + run.2)).length) = run.2 := by
      omega
    rw [hzeros, ← hgroups]

/-- A text of an address holds digits and colons only. -/
theorem mem_write {c : Char} (h : c ∈ write groups) : c = ':' ∨ (hexDigit? c).isSome = true := by
  have hgroups : ∀ groups : List Nat, c ∈ writeGroups groups →
      c = ':' ∨ (hexDigit? c).isSome = true := by
    intro groups hmem
    induction groups with
    | nil => simp [writeGroups] at hmem
    | cons first others ih =>
        cases others with
        | nil =>
            have hsingle : writeGroups [first] = Nat.toDigits 16 first := by simp [writeGroups]
            rw [hsingle] at hmem
            exact .inr (isSome_hexDigit?_of_mem_toDigits hmem)
        | cons second rest =>
            rw [writeGroups_cons_cons, List.mem_append, List.mem_cons] at hmem
            rcases hmem with hdigit | hcolon | hrest
            · exact .inr (isSome_hexDigit?_of_mem_toDigits hdigit)
            · exact .inl hcolon
            · exact ih hrest
  unfold write at h
  dsimp only at h
  split_ifs at h
  · exact hgroups _ h
  · rw [List.append_assoc, List.mem_append, List.mem_append] at h
    rcases h with hhigh | hcolons | hlow
    · exact hgroups _ hhigh
    · exact .inl (by simpa using hcolons)
    · exact hgroups _ hlow

end ClusterLink.Endpoint.IPv6
