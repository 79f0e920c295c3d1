import ClusterLink.Decimal.Binary64

/-!
# The shortest decimal numeral

The numeral with the fewest digits that is read back as the same number, and of those the nearest.
Two layouts are in use: one writes all numbers positionally, the other only those between `1e-5`
and `1e16`. Of two numerals that are equally near, the former takes the greater one and the latter
the one with an even last digit.
-/

namespace ClusterLink.Binary64

/-- The ends of the interval of numbers that round to a significand, in quarters of a unit. -/
def quarterBounds (significand : Nat) (exponent : Int) : Nat × Nat :=
  let low := if significand = Nat.pow 2 52 ∧ exponent > minExponent then 1 else 2
  (4 * significand - low, 4 * significand + 2)

/-- The factors of `digits * 10 ^ power` and of `quarters * 2 ^ exponent` over one denominator. -/
def commonFactors (power exponent : Int) : Nat × Nat :=
  (Nat.pow 10 power.toNat * Nat.pow 2 (-exponent).toNat,
    Nat.pow 2 exponent.toNat * Nat.pow 10 (-power).toNat)

/-- Which of two equally near neighbours is taken. -/
inductive Half where
  | up
  | toEven
deriving DecidableEq, Repr

/-- The nearer neighbour of a number that lies `rest` out of `unit` above `below`. -/
def nearer (half : Half) (below rest unit : Nat) : Nat :=
  if 2 * rest < unit then below
  else if unit < 2 * rest then below + 1
  else
    match half with
    | .up => below + 1
    | .toEven => if below % 2 = 0 then below else below + 1

/--
The digits on the decimal grid `10 ^ power` that are nearest to a number and round to it, if one of
the two neighbours of the number on this grid does.
-/
def onGrid? (half : Half) (significand : Nat) (exponent power : Int) : Option Nat :=
  let (unit, quarter) := commonFactors power (exponent - 2)
  let (low, high) := quarterBounds significand exponent
  let value := 4 * significand * quarter
  let below := value / unit
  let rounds (digits : Nat) : Bool :=
    let point := digits * unit
    if significand % 2 = 0 then low * quarter ≤ point && point ≤ high * quarter
    else low * quarter < point && point < high * quarter
  match rounds below && below != 0, rounds (below + 1) with
  | true, true => some (nearer half below (value - below * unit) unit)
  | true, false => some below
  | false, true => some (below + 1)
  | false, false => none

/-- The first hit on the grids from `10 ^ power` down, at most `steps` of them. -/
def coarsest (half : Half) : Nat → Nat → Int → Int → Nat × Int
  | 0, _, _, power => (0, power)
  | steps + 1, significand, exponent, power =>
      match onGrid? half significand exponent power with
      | some digits => (digits, power)
      | none => coarsest half steps significand exponent (power - 1)

def shortest (half : Half) (significand : Nat) (exponent : Int) : List Char × Int :=
  let (digits, power) := coarsest half 650 significand exponent 310
  (Nat.toDigits 10 digits, power)

def positional (digits : List Char) (power : Int) : List Char :=
  let size : Int := digits.length
  let places := size + power
  if power ≥ 0 then digits ++ List.replicate power.toNat '0' ++ ['.', '0']
  else if places > 0 then digits.take places.toNat ++ '.' :: digits.drop places.toNat
  else ['0', '.'] ++ List.replicate (-places).toNat '0' ++ digits

def scientific (digits : List Char) (power : Int) : List Char :=
  let exponent := power + digits.length - 1
  let mantissa :=
    match digits with
    | first :: rest => if rest.isEmpty then [first] else first :: '.' :: rest
    | [] => []
  mantissa ++ 'e' :: (if exponent < 0 then '-' else '+') :: Nat.toDigits 10 exponent.natAbs

inductive Layout where
  | positionalAlways
  | positionalInRange
deriving DecidableEq, Repr

def Layout.half : Layout → Half
  | .positionalAlways => .up
  | .positionalInRange => .toEven

def text (layout : Layout) : Binary64 → String
  | nan => "NaN"
  | infinite negative => if negative then "-inf" else "inf"
  | finite negative significand exponent =>
      let body :=
        if significand = 0 then ['0', '.', '0']
        else
          let (digits, power) := shortest layout.half significand exponent
          let places := power + digits.length
          if layout = .positionalAlways ∨ (-5 < places ∧ places ≤ 16) then
            positional digits power
          else scientific digits power
      String.ofList (if negative then '-' :: body else body)

example : (ofDecimal false 15 (-1)).text .positionalInRange = "1.5" := by decide +kernel
example : (ofDecimal false 1 16).text .positionalInRange = "1e+16" := by decide +kernel
example : (ofDecimal true 15 (-8)).text .positionalInRange = "-1.5e-7" := by decide +kernel
example : (ofDecimal false 1 16).text .positionalAlways = "10000000000000000.0" := by
  decide +kernel
example : (ofDecimal false 100000000000000025 (-2)).text .positionalInRange
    = "1000000000000000.2" := by decide +kernel
example : (ofDecimal false 100000000000000025 (-2)).text .positionalAlways
    = "1000000000000000.3" := by decide +kernel
example : (ofDecimal false 5 (-324)).text .positionalInRange = "5e-324" := by decide +kernel

end ClusterLink.Binary64
