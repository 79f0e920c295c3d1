import ClusterLink.Decimal.Binary64

/-!
# Numerals that are read in steps

A numeral is taken as a significand of at most 64 bits and a power of ten. The significand, the
power and their product or quotient are rounded one after the other, so the result may differ in the
last place from the number that is nearest to the numeral.
-/

namespace ClusterLink

/-- A significand and the power of ten that it is scaled by. -/
structure Numeral where
  significand : Nat
  power : Int
deriving DecidableEq, Repr

namespace Numeral

/-- One more than the greatest significand. -/
def bound : Nat := Nat.pow 2 64

/--
The significand of leading digits, and the number of digits after those that are taken: the first
digit that finds no room ends the significand, whatever stands after it.
-/
def takeDigits : Nat → List Char → Nat × Nat
  | significand, [] => (significand, 0)
  | significand, c :: rest =>
      let grown := 10 * significand + (c.toNat - '0'.toNat)
      if grown < bound then takeDigits grown rest else (significand, rest.length + 1)

/--
The numeral with these digits before and after the point, times a power of ten. Each digit before
the point that finds no room raises the power; one after the point is ignored.
-/
def ofDigits (whole decimals : List Char) (power : Int) : Numeral :=
  let (start, skipped) := takeDigits 0 whole
  let (significand, ignored) := takeDigits start decimals
  let taken : Int := (decimals.length : Int) - ignored
  ⟨significand, power + skipped - taken⟩

end Numeral

namespace Binary64

def maxTenPower : Nat := 308

def tenPower (power : Nat) : Binary64 := ofQuotient false (Nat.pow 10 power) 1

def ofScaled (negative : Bool) (a b : Nat) (exponent : Int) : Binary64 :=
  let (n, d) := unscaled a b (-exponent)
  ofQuotient negative n d

/-- The product of two finite numbers, rounded; the sign is that of the first one. -/
def times : Binary64 → Binary64 → Binary64
  | finite negative a i, finite _ b j => ofScaled negative (a * b) 1 (i + j)
  | other, _ => other

def dividedBy : Binary64 → Binary64 → Binary64
  | finite negative a i, finite _ b j => ofScaled negative a b (i - j)
  | other, _ => other

def isZero : Binary64 → Bool
  | finite _ significand _ => significand == 0
  | _ => false

/--
A number divided by ten to a power, by as many of the greatest powers as there are in it and then by
the rest; `fuel` bounds the number of divisions. Zero is divided no further.
-/
def loweredBy : Nat → Nat → Binary64 → Binary64
  | 0, _, value => value
  | fuel + 1, power, value =>
      if power ≤ maxTenPower then value.dividedBy (tenPower power)
      else if value.isZero then value
      else loweredBy fuel (power - maxTenPower) (value.dividedBy (tenPower maxTenPower))

/-- The value of a numeral in steps; only zero can be raised by a power that is out of range. -/
def ofNumeral (negative : Bool) (numeral : Numeral) : Binary64 :=
  let start := ofQuotient negative numeral.significand 1
  let power := numeral.power.natAbs
  if numeral.power < 0 then loweredBy (power + 1) power start
  else if power ≤ maxTenPower then start.times (tenPower power)
  else if start.isZero then start
  else infinite negative

example : ofNumeral false ⟨5, -324⟩ = ofDecimal false 5 (-324) := by decide +kernel
example : ofNumeral false ⟨3, -40⟩ ≠ ofDecimal false 3 (-40) := by decide +kernel
example : ofNumeral true ⟨1, 309⟩ = infinite true := by decide +kernel
example : Numeral.ofDigits "18446744073709551619".toList "04".toList 0
    = ⟨18446744073709551610, 0⟩ := by decide +kernel

end Binary64

end ClusterLink
