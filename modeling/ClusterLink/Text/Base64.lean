/-!
# Base64

Bytes in groups of three, each group as four letters of the standard alphabet; a group that is not
full is padded with `=`. The decoder accepts what the encoder writes.
-/

namespace ClusterLink.Text.Base64

def alphabet : List Char :=
  "ABCDEFGHIJKLMNOPQRSTUVWXYZabcdefghijklmnopqrstuvwxyz0123456789+/".toList

def letter (value : Nat) : Char := alphabet.getD value 'A'

def value? (c : Char) : Option Nat := alphabet.findIdx? (· == c)

def encode : List UInt8 → List Char
  | [] => []
  | [a] =>
      let n := a.toNat * 16
      [letter (n / 64), letter (n % 64), '=', '=']
  | [a, b] =>
      let n := (a.toNat * 256 + b.toNat) * 4
      [letter (n / 4096), letter (n / 64 % 64), letter (n % 64), '=']
  | a :: b :: c :: rest =>
      let n := (a.toNat * 256 + b.toNat) * 256 + c.toNat
      letter (n / 262144) :: letter (n / 4096 % 64) :: letter (n / 64 % 64) ::
        letter (n % 64) :: encode rest

/-- The bytes of full groups; padding stands in the last group only, and no bit behind it is set. -/
def decode? : List Char → Option (List UInt8)
  | [] => some []
  | [a, b, '=', '='] => do
      let n := (← value? a) * 64 + (← value? b)
      if n % 16 = 0 then some [UInt8.ofNat (n / 16)] else none
  | [a, b, c, '='] => do
      let n := ((← value? a) * 64 + (← value? b)) * 64 + (← value? c)
      if n % 4 = 0 then some [UInt8.ofNat (n / 1024), UInt8.ofNat (n / 4)] else none
  | a :: b :: c :: d :: rest => do
      let n := (((← value? a) * 64 + (← value? b)) * 64 + (← value? c)) * 64 + (← value? d)
      let bytes ← decode? rest
      some (UInt8.ofNat (n / 65536) :: UInt8.ofNat (n / 256) :: UInt8.ofNat n :: bytes)
  | _ => none

def ofString (text : String) : String := String.ofList (encode text.toUTF8.toList)

example : ofString "id:secret" = "aWQ6c2VjcmV0" := by decide +kernel
example : ofString "a" = "YQ==" ∧ ofString "ab" = "YWI=" := by decide +kernel
example : decode? "YWI=".toList = some [97, 98] ∧ decode? "YWJ=".toList = none := by decide

end ClusterLink.Text.Base64
