/-!
# Paths of the system

The system has paths as bytes. A text is the path of its UTF-8 bytes, and not every path is one of a
text.
-/

namespace ClusterLink

structure SystemPath where
  bytes : List UInt8
deriving DecidableEq, Inhabited

namespace SystemPath

def ofText (text : String) : SystemPath := ⟨text.toUTF8.data.toList⟩

def text? (path : SystemPath) : Option String := String.fromUTF8? ⟨path.bytes.toArray⟩

/-- A path has a text exactly if its bytes are those of the text. -/
theorem text?_eq_some_iff {path : SystemPath} {text : String} :
    path.text? = some text ↔ path = ofText text := by
  obtain ⟨bytes⟩ := path
  constructor
  · intro h
    unfold text? String.fromUTF8? at h
    split at h
    · cases h
      rfl
    · cases h
  · rintro ⟨⟩
    exact dif_pos text.isValidUTF8

example : text? ⟨[0xC3, 0xA9]⟩ = some "é" := by decide
example : text? ⟨[0xE9]⟩ = none := by decide

end SystemPath

end ClusterLink
