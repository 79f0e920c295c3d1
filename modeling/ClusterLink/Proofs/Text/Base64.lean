import ClusterLink.Text.Base64
import Mathlib.Algebra.Group.Nat.Defs
import Mathlib.Data.List.Induction

/-!
# Bytes in base 64

The letters of an encoded text say the bits of the bytes, six bits each, and there is no other text
that does. The decoder gives the bytes back, however many of them are left over from the groups of
three.
-/

namespace ClusterLink.Text.Base64

variable {c : Char} {bytes : List UInt8} {text : List Char} {width value n : Nat}

/-! ## Bits -/

def bits : Nat → Nat → List Bool
  | 0, _ => []
  | width + 1, n => n.testBit width :: bits width n

def bitsOf (bytes : List UInt8) : List Bool := bytes.flatMap fun byte => bits 8 byte.toNat

theorem bits_add (high low n : Nat) :
    bits (high + low) n = bits high (n / 2 ^ low) ++ bits low n := by
  induction high with
  | zero => rw [Nat.zero_add, bits, List.nil_append]
  | succ high ih =>
      rw [Nat.succ_add, bits, bits, ih, Nat.testBit_div_two_pow, List.cons_append]

theorem bits_mod (h : width ≤ value) (n : Nat) : bits width (n % 2 ^ value) = bits width n := by
  induction width with
  | zero => rfl
  | succ width ih =>
      rw [bits, bits, ih (by omega), Nat.testBit_mod_two_pow]
      simp [Nat.lt_of_succ_le h]

theorem bits_zero (width : Nat) : bits width 0 = List.replicate width false := by
  induction width with
  | zero => rfl
  | succ width ih => rw [bits, ih, Nat.zero_testBit, List.replicate_succ]

/-- Bits that are shifted in are not set. -/
theorem bits_mul (width n : Nat) : bits width (n * 2 ^ width) = List.replicate width false := by
  rw [← bits_mod (Nat.le_refl width), Nat.mul_mod_left, bits_zero]

theorem length_bits (width n : Nat) : (bits width n).length = width := by
  induction width with
  | zero => rfl
  | succ width ih => rw [bits, List.length_cons, ih]

theorem testBit_eq_of_bits {other : Nat} (h : bits width n = bits width other) {i : Nat}
    (hi : i < width) : n.testBit i = other.testBit i := by
  induction width with
  | zero => cases hi
  | succ width ih =>
      obtain ⟨hhigh, hlow⟩ := List.cons.inj h
      rcases Nat.lt_succ_iff_lt_or_eq.1 hi with hlower | rfl
      · exact ih hlow hlower
      · exact hhigh

theorem eq_of_bits {other : Nat} (hn : n < 2 ^ width) (hother : other < 2 ^ width)
    (h : bits width n = bits width other) : n = other := by
  refine Nat.eq_of_testBit_eq fun i => ?_
  rcases Nat.lt_or_ge i width with hi | hi
  · exact testBit_eq_of_bits h hi
  · have hpower : 2 ^ width ≤ 2 ^ i := Nat.pow_le_pow_right Nat.two_pos hi
    rw [Nat.testBit_lt_two_pow (Nat.lt_of_lt_of_le hn hpower),
      Nat.testBit_lt_two_pow (Nat.lt_of_lt_of_le hother hpower)]

def number (width : Nat) (digits : List Nat) : Nat :=
  digits.foldl (fun n digit => 2 ^ width * n + digit) 0

theorem flatMap_bits {digits : List Nat} (h : ∀ digit ∈ digits, digit < 2 ^ width) :
    digits.flatMap (bits width) = bits (digits.length * width) (number width digits) := by
  induction digits using List.reverseRecOn with
  | nil => rw [List.length_nil, Nat.zero_mul]; rfl
  | append_singleton digits digit ih =>
      obtain ⟨hdigits, hdigit⟩ := List.forall_mem_append.1 h
      have hlast : digit < 2 ^ width := hdigit digit (List.mem_singleton.2 rfl)
      have hnumber :
          number width (digits ++ [digit]) = 2 ^ width * number width digits + digit := by
        simp [number]
      have hhigh : (2 ^ width * number width digits + digit) / 2 ^ width = number width digits := by
        rw [Nat.mul_add_div (Nat.two_pow_pos width), Nat.div_eq_of_lt hlast, Nat.add_zero]
      have hlow : bits width (2 ^ width * number width digits + digit) = bits width digit := by
        rw [← bits_mod (Nat.le_refl width), Nat.mul_add_mod, Nat.mod_eq_of_lt hlast]
      rw [List.flatMap_append, ih hdigits, List.flatMap_singleton, List.length_append,
        List.length_singleton, Nat.succ_mul, hnumber, bits_add, hhigh, hlow]

/--
Digits of six bits say the bits of bytes if they make up the same number, once the zeros behind the
last byte are counted in.
-/
theorem flatMap_bits_eq {values : List Nat} {zeros : Nat} (hsixes : ∀ value ∈ values, value < 64)
    (hlength : values.length * 6 = bytes.length * 8 + zeros)
    (hnumber : number 6 values = number 8 (bytes.map UInt8.toNat) * 2 ^ zeros) :
    values.flatMap (bits 6) = bitsOf bytes ++ List.replicate zeros false := by
  have hbytes : ∀ value ∈ bytes.map UInt8.toNat, value < 2 ^ 8 := by
    intro value hvalue
    obtain ⟨byte, -, rfl⟩ := List.mem_map.1 hvalue
    exact byte.toNat_lt
  have hbits : bitsOf bytes = bits (bytes.length * 8) (number 8 (bytes.map UInt8.toNat)) := by
    rw [← List.length_map UInt8.toNat, ← flatMap_bits hbytes, List.flatMap_map, bitsOf]
  rw [flatMap_bits hsixes, hlength, hnumber, bits_add, Nat.mul_div_cancel _ (Nat.two_pow_pos zeros),
    bits_mul, hbits]

/-! ## Letters -/

theorem letter_mem_alphabet (value : Nat) : letter value ∈ alphabet := by
  rw [letter, List.getD_eq_getElem?_getD]
  cases hfound : alphabet[value]? with
  | none => decide
  | some found => exact List.mem_of_getElem? hfound

theorem value?_letter (h : value < 64) : value? (letter value) = some value := by
  have hall : ∀ value < 64, value? (letter value) = some value := by decide
  exact hall value h

theorem letter_ne_mark (value : Nat) : letter value ≠ '=' := by
  have hmark : '=' ∉ alphabet := by decide
  exact fun h => hmark (h ▸ letter_mem_alphabet value)

/-! ## Encoded texts -/

/--
A text writes bytes in base 64: its letters say the bits of the bytes in groups of six, with as many
zeros behind the last bit as its group lacks, and marks fill up the last four letters.
-/
inductive Writes (bytes : List UInt8) : List Char → Prop
  | intro {values : List Nat} {zeros marks : Nat} (sixes : ∀ value ∈ values, value < 64)
      (bits_eq : values.flatMap (bits 6) = bitsOf bytes ++ List.replicate zeros false)
      (fewZeros : zeros < 6) (fewMarks : marks < 4) (fours : 4 ∣ values.length + marks) :
      Writes bytes (values.map letter ++ List.replicate marks '=')

/-- What is written for bytes goes on with what is written for others behind a full group. -/
theorem Writes.append {values : List Nat} (h : Writes bytes text) {group : List UInt8}
    (hsixes : ∀ value ∈ values, value < 64) (hlength : values.length * 6 = group.length * 8)
    (hfours : 4 ∣ values.length)
    (hnumber : number 6 values = number 8 (group.map UInt8.toNat)) :
    Writes (group ++ bytes) (values.map letter ++ text) := by
  obtain @⟨others, zeros, marks, hothers, hbits, hzeros, hmarks, hrest⟩ := h
  have hgroup : values.flatMap (bits 6) = bitsOf group := by
    have hexact := @flatMap_bits_eq group values 0 hsixes hlength
      (by rw [hnumber, Nat.pow_zero, Nat.mul_one])
    rwa [List.replicate_zero, List.append_nil] at hexact
  rw [← List.append_assoc, ← List.map_append]
  refine .intro (List.forall_mem_append.2 ⟨hsixes, hothers⟩) ?_ hzeros hmarks ?_
  · rw [List.flatMap_append, hgroup, hbits, bitsOf, bitsOf, bitsOf, List.flatMap_append,
      List.append_assoc]
  · rw [List.length_append, Nat.add_assoc]
    exact Nat.dvd_add hfours hrest

theorem writes_encode (bytes : List UInt8) : Writes bytes (encode bytes) := by
  fun_induction encode bytes with
  | case1 => exact @Writes.intro [] [] 0 0 nofun rfl (by decide) (by decide) (Nat.dvd_zero 4)
  | case2 a n =>
      have ha : a.toNat < 256 := a.toNat_lt
      have hn : n = a.toNat * 16 := rfl
      have hsixes : ∀ value ∈ [n / 64, n % 64], value < 64 := by
        simp only [List.forall_mem_cons, List.not_mem_nil, false_imp_iff, forall_const, and_true]
        omega
      have hnumber : number 6 [n / 64, n % 64] = number 8 ([a].map UInt8.toNat) * 2 ^ 4 := by
        simp only [number, List.map_cons, List.map_nil, List.foldl_cons, List.foldl_nil]
        omega
      exact @Writes.intro _ _ 4 2 hsixes (flatMap_bits_eq hsixes rfl hnumber) (by decide)
        (by decide) (Nat.dvd_refl 4)
  | case3 a b n =>
      have ha : a.toNat < 256 := a.toNat_lt
      have hb : b.toNat < 256 := b.toNat_lt
      have hn : n = (a.toNat * 256 + b.toNat) * 4 := rfl
      have hsixes : ∀ value ∈ [n / 4096, n / 64 % 64, n % 64], value < 64 := by
        simp only [List.forall_mem_cons, List.not_mem_nil, false_imp_iff, forall_const, and_true]
        omega
      have hnumber : number 6 [n / 4096, n / 64 % 64, n % 64] =
          number 8 ([a, b].map UInt8.toNat) * 2 ^ 2 := by
        simp only [number, List.map_cons, List.map_nil, List.foldl_cons, List.foldl_nil]
        omega
      exact @Writes.intro _ _ 2 1 hsixes (flatMap_bits_eq hsixes rfl hnumber) (by decide)
        (by decide) (Nat.dvd_refl 4)
  | case4 a b c rest n ih =>
      have ha : a.toNat < 256 := a.toNat_lt
      have hb : b.toNat < 256 := b.toNat_lt
      have hc : c.toNat < 256 := c.toNat_lt
      have hn : n = (a.toNat * 256 + b.toNat) * 256 + c.toNat := rfl
      have hsixes : ∀ value ∈ [n / 262144, n / 4096 % 64, n / 64 % 64, n % 64], value < 64 := by
        simp only [List.forall_mem_cons, List.not_mem_nil, false_imp_iff, forall_const, and_true]
        omega
      have hnumber : number 6 [n / 262144, n / 4096 % 64, n / 64 % 64, n % 64] =
          number 8 ([a, b, c].map UInt8.toNat) := by
        simp only [number, List.map_cons, List.map_nil, List.foldl_cons, List.foldl_nil]
        omega
      exact ih.append hsixes rfl (Nat.dvd_refl 4) hnumber

theorem length_flatMap_bits (values : List Nat) :
    (values.flatMap (bits width)).length = values.length * width := by
  induction values with
  | nil => rw [List.flatMap_nil, List.length_nil, List.length_nil, Nat.zero_mul]
  | cons value values ih =>
      rw [List.flatMap_cons, List.length_append, length_bits, ih, List.length_cons, Nat.succ_mul,
        Nat.add_comm]

theorem eq_of_flatMap_bits {values others : List Nat}
    (hvalues : ∀ value ∈ values, value < 2 ^ width)
    (hothers : ∀ value ∈ others, value < 2 ^ width) (hlength : values.length = others.length)
    (h : values.flatMap (bits width) = others.flatMap (bits width)) : values = others := by
  induction values generalizing others with
  | nil => exact (List.length_eq_zero_iff.1 hlength.symm).symm
  | cons value values ih =>
      cases others with
      | nil => cases hlength
      | cons other others =>
          obtain ⟨hvalue, hrest⟩ := List.forall_mem_cons.1 hvalues
          obtain ⟨hother, hothersRest⟩ := List.forall_mem_cons.1 hothers
          rw [List.flatMap_cons, List.flatMap_cons] at h
          obtain ⟨hfirst, htail⟩ := List.append_inj h (by rw [length_bits, length_bits])
          rw [eq_of_bits hvalue hother hfirst,
            ih hrest hothersRest (Nat.succ.inj hlength) htail]

/-- Bytes are written by one text only. -/
theorem Writes.unique {other : List Char} (h : Writes bytes text) (hother : Writes bytes other) :
    text = other := by
  obtain @⟨values, zeros, marks, hsixes, hbits, hzeros, hmarks, hfours⟩ := h
  obtain @⟨others, fill, signs, hothers, hsame, hfill, hsigns, hgroups⟩ := hother
  -- The number of bits leaves only one number of zeros and of letters, and these one of marks.
  have hlength := congrArg List.length hbits
  have hlengthSame := congrArg List.length hsame
  rw [length_flatMap_bits, List.length_append, List.length_replicate] at hlength hlengthSame
  obtain rfl : zeros = fill := by omega
  have hcount : values.length = others.length := by omega
  obtain rfl : marks = signs := by omega
  rw [eq_of_flatMap_bits hsixes hothers hcount (hbits.trans hsame.symm)]

theorem writes_iff : Writes bytes text ↔ text = encode bytes := by
  constructor
  · exact fun h => h.unique (writes_encode bytes)
  · rintro rfl
    exact writes_encode bytes

theorem Writes.mem_alphabet (h : Writes bytes text) (hc : c ∈ text) : c ∈ alphabet ∨ c = '=' := by
  obtain ⟨-, -, -, -, -⟩ := h
  rcases List.mem_append.1 hc with hletter | hmark
  · obtain ⟨value, -, rfl⟩ := List.mem_map.1 hletter
    exact .inl (letter_mem_alphabet value)
  · exact .inr (List.eq_of_mem_replicate hmark)

/-! ## Decoding -/

theorem ofNat_of_eq {byte : UInt8} (h : n % 256 = byte.toNat) : UInt8.ofNat n = byte := by
  rw [← UInt8.toNat_inj, UInt8.toNat_ofNat', h]

/-- A full group is read alike wherever it stands: padding is never taken for its last letter. -/
theorem decode?_letters {w x y z : Nat} (hw : w < 64) (hx : x < 64) (hy : y < 64) (hz : z < 64) :
    decode? (letter w :: letter x :: letter y :: letter z :: text) =
      (decode? text).map fun bytes =>
        UInt8.ofNat ((((w * 64 + x) * 64 + y) * 64 + z) / 65536) ::
        UInt8.ofNat ((((w * 64 + x) * 64 + y) * 64 + z) / 256) ::
        UInt8.ofNat (((w * 64 + x) * 64 + y) * 64 + z) :: bytes := by
  rw [decode?]
  · rw [value?_letter hw, value?_letter hx, value?_letter hy, value?_letter hz]
    cases decode? text <;> rfl
  · rintro - h
    exact absurd h (letter_ne_mark z)
  · intro h
    exact absurd h (letter_ne_mark z)

/-- Every text that was encoded is decoded to the bytes it was made from. -/
theorem decode?_encode (bytes : List UInt8) : decode? (encode bytes) = some bytes := by
  fun_induction encode bytes with
  | case1 => rfl
  | case2 a n =>
      have ha : a.toNat < 256 := a.toNat_lt
      have hn : n = a.toNat * 16 := rfl
      have hfirst : value? (letter (n / 64)) = some (n / 64) := value?_letter (by omega)
      have hsecond : value? (letter (n % 64)) = some (n % 64) := value?_letter (by omega)
      have hjoined : n / 64 * 64 + n % 64 = n := Nat.div_add_mod' n 64
      have hbyte : UInt8.ofNat (n / 16) = a := ofNat_of_eq (by omega)
      have hrest : n % 16 = 0 := by omega
      rw [decode?, hfirst, hsecond]
      simp only [Option.bind_eq_bind, Option.bind_some, hjoined, hrest, hbyte, if_true]
  | case3 a b n =>
      have ha : a.toNat < 256 := a.toNat_lt
      have hb : b.toNat < 256 := b.toNat_lt
      have hn : n = (a.toNat * 256 + b.toNat) * 4 := rfl
      have hfirst : value? (letter (n / 4096)) = some (n / 4096) := value?_letter (by omega)
      have hsecond : value? (letter (n / 64 % 64)) = some (n / 64 % 64) := value?_letter (by omega)
      have hthird : value? (letter (n % 64)) = some (n % 64) := value?_letter (by omega)
      have hjoined : (n / 4096 * 64 + n / 64 % 64) * 64 + n % 64 = n := by omega
      have hhigh : UInt8.ofNat (n / 1024) = a := ofNat_of_eq (by omega)
      have hlow : UInt8.ofNat (n / 4) = b := ofNat_of_eq (by omega)
      have hrest : n % 4 = 0 := by omega
      rw [decode?, hfirst, hsecond, hthird]
      · simp only [Option.bind_eq_bind, Option.bind_some, hjoined, hrest, hhigh, hlow, if_true]
      · exact letter_ne_mark _
  | case4 a b c rest n ih =>
      have ha : a.toNat < 256 := a.toNat_lt
      have hb : b.toNat < 256 := b.toNat_lt
      have hc : c.toNat < 256 := c.toNat_lt
      have hn : n = (a.toNat * 256 + b.toNat) * 256 + c.toNat := rfl
      have hjoined : ((n / 262144 * 64 + n / 4096 % 64) * 64 + n / 64 % 64) * 64 + n % 64 = n := by
        omega
      have hhigh : UInt8.ofNat (n / 65536) = a := ofNat_of_eq (by omega)
      have hmiddle : UInt8.ofNat (n / 256) = b := ofNat_of_eq (by omega)
      have hlow : UInt8.ofNat n = c := ofNat_of_eq (by omega)
      rw [decode?_letters (by omega) (by omega) (by omega) (by omega), ih, hjoined, hhigh, hmiddle,
        hlow, Option.map_some]

end ClusterLink.Text.Base64
