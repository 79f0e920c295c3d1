/-!
# Cutting text by bytes

Places in a text that are counted in bytes. A text is only cut between two characters.
-/

namespace ClusterLink.Text

/-- The characters of a text, each with the byte that it starts at if the first one is at `start`. -/
def placed (start : Nat) : List Char → List (Nat × Char)
  | [] => []
  | c :: text => (start, c) :: placed (start + c.utf8Size) text

def dropBytes? (count : Nat) : List Char → Option (List Char)
  | [] => if count = 0 then some [] else none
  | c :: text =>
      if count = 0 then some (c :: text)
      else if count < c.utf8Size then none
      else dropBytes? (count - c.utf8Size) text

def takeBytes? (count : Nat) : List Char → Option (List Char)
  | [] => if count = 0 then some [] else none
  | c :: text =>
      if count = 0 then some []
      else if count < c.utf8Size then none
      else (takeBytes? (count - c.utf8Size) text).map (c :: ·)

theorem takeBytes?_append_dropBytes? {count : Nat} {text front rest : List Char}
    (hfront : takeBytes? count text = some front) (hrest : dropBytes? count text = some rest) :
    front ++ rest = text := by
  induction text generalizing count front with
  | nil => simp_all [takeBytes?, dropBytes?]
  | cons c text ih =>
      unfold takeBytes? at hfront
      unfold dropBytes? at hrest
      split at hfront
      · simp_all
      · split at hfront
        · simp at hfront
        · simp only [Option.map_eq_some_iff] at hfront
          obtain ⟨found, hfound, rfl⟩ := hfront
          simp_all [ih hfound]

example : dropBytes? 2 "éa".toList = some ['a'] := by decide +kernel
example : dropBytes? 1 "éa".toList = none := by decide +kernel
example : takeBytes? 3 "éab".toList = some ['é', 'a'] := by decide +kernel

end ClusterLink.Text
