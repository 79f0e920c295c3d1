import ClusterLink.Text.Hex

/-!
# Percent encoding

A character outside a chosen set is written as its UTF-8 bytes, each as `%` and two upper-case
hexadecimal digits. A percent sign that already stands in the text is left alone.
-/

namespace ClusterLink.Text

def percentByte (b : UInt8) : List Char :=
  ['%', upperHexDigit (b.toNat / 16), upperHexDigit (b.toNat % 16)]

def percentChar (keep : Char → Bool) (c : Char) : List Char :=
  if keep c then [c] else (String.utf8EncodeChar c).flatMap percentByte

def percentEncode (keep : Char → Bool) (text : List Char) : List Char :=
  text.flatMap (percentChar keep)

theorem percentEncode_of_all {keep : Char → Bool} {text : List Char}
    (h : ∀ c ∈ text, keep c = true) : percentEncode keep text = text := by
  induction text with
  | nil => rfl
  | cons c text ih =>
      simp only [List.mem_cons, forall_eq_or_imp] at h
      simp [percentEncode, percentChar, h.1, List.flatMap_cons]
      exact ih h.2

/-- Printable ASCII other than the space: what an opaque host name may keep. -/
def isVisibleAscii (c : Char) : Bool := 0x20 < c.toNat && c.toNat < 0x7F

end ClusterLink.Text
