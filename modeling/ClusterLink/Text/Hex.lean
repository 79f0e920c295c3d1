/-!
# Hexadecimal digits

Digits are written in one case and read in both.
-/

namespace ClusterLink.Text

def upperHexDigit (n : Nat) : Char := "0123456789ABCDEF".toList.getD n '0'

def lowerHexDigit (n : Nat) : Char := "0123456789abcdef".toList.getD n '0'

def hexDigit? (c : Char) : Option Nat :=
  if '0' ≤ c ∧ c ≤ '9' then some (c.toNat - '0'.toNat)
  else if 'a' ≤ c ∧ c ≤ 'f' then some (c.toNat - 'a'.toNat + 10)
  else if 'A' ≤ c ∧ c ≤ 'F' then some (c.toNat - 'A'.toNat + 10)
  else none

def hexValue? (digits : List Char) : Option Nat :=
  digits.foldlM (fun value c => (hexDigit? c).map (16 * value + ·)) 0

def lowerHex : Nat → Nat → List Char
  | 0, _ => []
  | size + 1, n => lowerHex size (n / 16) ++ [lowerHexDigit (n % 16)]

theorem hexDigit?_upperHexDigit {n : Nat} (h : n < 16) : hexDigit? (upperHexDigit n) = some n := by
  revert n; decide

theorem hexDigit?_lowerHexDigit {n : Nat} (h : n < 16) : hexDigit? (lowerHexDigit n) = some n := by
  revert n; decide

example : hexValue? "00fF".toList = some 255 := by decide
example : hexValue? "g".toList = none := by decide
example : lowerHex 4 0xd83d = "d83d".toList := by decide

end ClusterLink.Text
