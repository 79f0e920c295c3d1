import ClusterLink.Text.Hex

/-!
# Random identifiers

Sixteen random bytes with the version and the variant of a random identifier set in them, written
as hexadecimal digits with or without dashes.
-/

namespace ClusterLink

structure Uuid where
  bytes : List UInt8
deriving DecidableEq, Repr

namespace Uuid

/-- Sets version 4 in the seventh byte and the variant in the ninth. -/
def ofRandom (bytes : List UInt8) : Uuid :=
  ⟨bytes.mapIdx fun index byte =>
    if index = 6 then (byte &&& 0x0F) ||| 0x40
    else if index = 8 then (byte &&& 0x3F) ||| 0x80
    else byte⟩

def digits (bytes : List UInt8) : List Char :=
  bytes.flatMap fun byte =>
    [Text.lowerHexDigit (byte.toNat / 16), Text.lowerHexDigit (byte.toNat % 16)]

def simple (uuid : Uuid) : String := String.ofList (digits uuid.bytes)

def hyphenated (uuid : Uuid) : String :=
  let text := digits uuid.bytes
  let group (first size : Nat) : String := String.ofList ((text.drop first).take size)
  "-".intercalate [group 0 8, group 8 4, group 12 4, group 16 4, group 20 12]

example : (ofRandom (List.replicate 16 0xFF)).hyphenated
    = "ffffffff-ffff-4fff-bfff-ffffffffffff" := by decide +kernel

end Uuid

end ClusterLink
