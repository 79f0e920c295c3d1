/-!
# Numbers in 64 bits

Numbers of 53 significant binary digits, as a significand and a power of two. A decimal numeral is
read as the nearest of them; a numeral halfway between two goes to the even significand.
-/

namespace ClusterLink

inductive Binary64 where
  | nan
  | infinite (negative : Bool)
  | finite (negative : Bool) (significand : Nat) (exponent : Int)
deriving DecidableEq, Repr, Inhabited

namespace Binary64

/-- The quotient of two numbers, rounded to the nearest integer; a half goes to the even one. -/
def roundedQuotient (a b : Nat) : Nat :=
  let quotient := a / b
  let rest := 2 * (a % b)
  if rest > b || (rest == b && quotient % 2 == 1) then quotient + 1 else quotient

def unscaled (a b : Nat) (exponent : Int) : Nat × Nat :=
  if exponent < 0 then (a * Nat.pow 2 (-exponent).toNat, b)
  else (a, b * Nat.pow 2 exponent.toNat)

def minExponent : Int := -1074

def maxExponent : Int := 971

/-- The exponent under which a positive quotient has 53 digits, or the least exponent. -/
def exponentOf (a b : Nat) : Int :=
  let low : Int := (Nat.log2 a : Int) - (Nat.log2 b : Int) - 53
  let (n, d) := unscaled a b low
  let fitting := if n / d ≥ Nat.pow 2 53 then low + 1 else low
  max fitting minExponent

def ofQuotient (negative : Bool) (a b : Nat) : Binary64 :=
  if a = 0 then finite negative 0 minExponent
  else
    let exponent := exponentOf a b
    let (n, d) := unscaled a b exponent
    let rounded := roundedQuotient n d
    let (significand, exponent) :=
      if rounded = Nat.pow 2 53 then (Nat.pow 2 52, exponent + 1) else (rounded, exponent)
    if exponent > maxExponent then infinite negative else finite negative significand exponent

/-- Powers of ten beyond this one are out of range whatever the digits. -/
def decimalBound : Int := 400

def ofDecimal (negative : Bool) (digits : Nat) (exponent : Int) : Binary64 :=
  let magnitude := exponent + (Nat.toDigits 10 digits).length
  if digits = 0 then finite negative 0 minExponent
  else if magnitude > decimalBound then infinite negative
  else if magnitude < -decimalBound then finite negative 0 minExponent
  else if exponent < 0 then ofQuotient negative digits (Nat.pow 10 (-exponent).toNat)
  else ofQuotient negative (digits * Nat.pow 10 exponent.toNat) 1

example : ofDecimal false 15 (-1) = finite false (3 * 2 ^ 51) (-52) := by decide +kernel
example : ofDecimal false 5 (-324) = finite false 1 (-1074) := by decide +kernel
example : ofDecimal true 18 307 = infinite true := by decide +kernel

end Binary64

end ClusterLink
