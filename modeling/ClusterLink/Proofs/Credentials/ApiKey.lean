import ClusterLink.Credentials
import ClusterLink.Proofs.Text.Base64
import ClusterLink.Proofs.Text.Split

/-!
# Both spellings of an API key

A key is spelled as an id and a key, or as these two in base 64. Both give the same header, since no
encoded text holds a colon and so none is encoded a second time.
-/

namespace ClusterLink.ApiKey

open Text

variable {text : List Char} {value : String}

/-- One half of an API key: a text that is not empty and holds no colon. -/
def IsPart (text : List Char) : Prop := text ≠ [] ∧ ':' ∉ text

instance : Decidable (IsPart text) := inferInstanceAs (Decidable (_ ∧ _))

theorem isIdAndKey_iff :
    isIdAndKey text = true ↔ ∃ id key, IsPart id ∧ IsPart key ∧ text = id ++ ':' :: key := by
  constructor
  · intro h
    rw [isIdAndKey] at h
    split at h
    case h_1 id key hcut =>
      obtain ⟨rfl, hid⟩ := splitFirst_eq_some_iff.1 hcut
      simp only [Bool.and_eq_true, Bool.not_eq_true', List.isEmpty_eq_false_iff,
        List.contains_eq_mem, decide_eq_false_iff_not] at h
      exact ⟨id, key, ⟨h.1.1, hid⟩, ⟨h.1.2, h.2⟩, rfl⟩
    case h_2 => cases h
  · rintro ⟨id, key, hid, hkey, rfl⟩
    simp [isIdAndKey, splitFirst_append hid.2, hid.1, hkey.1, hkey.2]

theorem colon_not_mem_encode (bytes : List UInt8) : ':' ∉ Base64.encode bytes := by
  intro hcolon
  have hletter : ':' ∈ Base64.alphabet ∨ ':' = '=' :=
    (Base64.writes_encode bytes).mem_alphabet hcolon
  revert hletter
  decide

theorem isIdAndKey_encode (bytes : List UInt8) : isIdAndKey (Base64.encode bytes) = false := by
  rw [Bool.eq_false_iff]
  intro h
  obtain ⟨id, key, -, -, htext⟩ := isIdAndKey_iff.1 h
  exact colon_not_mem_encode bytes (htext ▸ List.mem_append_right id List.mem_cons_self)

theorem authorization_of_idAndKey (h : isIdAndKey value.toList = true) :
    authorization ⟨⟨value⟩⟩ = ⟨"ApiKey " ++ Base64.ofString value⟩ := by
  simp [authorization, h]

theorem authorization_of_other (h : isIdAndKey value.toList = false) :
    authorization ⟨⟨value⟩⟩ = ⟨"ApiKey " ++ value⟩ := by
  simp [authorization, h]

/--
An id and a key are sent as the text that writes them in base 64, from which their bytes can be read
back, and this text as a key of its own is sent alike. Every other value is sent as it is.
-/
theorem authorization_spellings :
    (∀ id key : String, IsPart id.toList → IsPart key.toList →
      ∃ encoded : String,
        (∀ text : String,
          Base64.Writes (id ++ ":" ++ key).toUTF8.toList text.toList ↔ text = encoded) ∧
        Base64.decode? encoded.toList = some (id ++ ":" ++ key).toUTF8.toList ∧
        authorization ⟨⟨id ++ ":" ++ key⟩⟩ = ⟨"ApiKey " ++ encoded⟩ ∧
        authorization ⟨⟨encoded⟩⟩ = ⟨"ApiKey " ++ encoded⟩) ∧
    ∀ value : String,
      (¬ ∃ id key : String, IsPart id.toList ∧ IsPart key.toList ∧ value = id ++ ":" ++ key) →
        authorization ⟨⟨value⟩⟩ = ⟨"ApiKey " ++ value⟩ := by
  constructor
  · intro id key hid hkey
    have hvalue : isIdAndKey (id ++ ":" ++ key).toList = true :=
      isIdAndKey_iff.2 ⟨id.toList, key.toList, hid, hkey, by simp⟩
    have hencoded : isIdAndKey (Base64.ofString (id ++ ":" ++ key)).toList = false := by
      rw [Base64.ofString, String.toList_ofList, isIdAndKey_encode]
    refine ⟨Base64.ofString (id ++ ":" ++ key), ?_, ?_, authorization_of_idAndKey hvalue,
      authorization_of_other hencoded⟩
    · intro text
      rw [Base64.writes_iff, ← String.toList_inj, Base64.ofString, String.toList_ofList]
    · rw [Base64.ofString, String.toList_ofList, Base64.decode?_encode]
  · intro value hother
    refine authorization_of_other (Bool.eq_false_iff.2 fun h => hother ?_)
    obtain ⟨id, key, hid, hkey, htext⟩ := isIdAndKey_iff.1 h
    refine ⟨String.ofList id, String.ofList key, ?_, ?_, ?_⟩
    · rwa [String.toList_ofList]
    · rwa [String.toList_ofList]
    · rw [← String.toList_inj, htext]
      simp

theorem authorization_spellings_cyrillic :
    (∃ encoded : String,
      (∀ text : String,
        Base64.Writes ("ключ" ++ ":" ++ "é=\n").toUTF8.toList text.toList ↔ text = encoded) ∧
      Base64.decode? encoded.toList = some ("ключ" ++ ":" ++ "é=\n").toUTF8.toList ∧
      authorization ⟨⟨"ключ" ++ ":" ++ "é=\n"⟩⟩ = ⟨"ApiKey " ++ encoded⟩ ∧
      authorization ⟨⟨encoded⟩⟩ = ⟨"ApiKey " ++ encoded⟩) ∧
    authorization ⟨⟨"a:b:c"⟩⟩ = ⟨"ApiKey " ++ "a:b:c"⟩ := by
  have hother : ¬ ∃ id key : String,
      IsPart id.toList ∧ IsPart key.toList ∧ "a:b:c" = id ++ ":" ++ key := by
    rintro ⟨id, key, hid, hkey, hvalue⟩
    have htext : isIdAndKey "a:b:c".toList = true :=
      isIdAndKey_iff.2 ⟨id.toList, key.toList, hid, hkey, by rw [hvalue]; simp⟩
    exact absurd htext (by decide)
  exact ⟨authorization_spellings.1 "ключ" "é=\n" (by decide) (by decide),
    authorization_spellings.2 "a:b:c" hother⟩

end ClusterLink.ApiKey
