import ClusterLink.Traced

/-!
# Access to files

Files with credentials have to be readable and must not be writable. What can be read and written
is answered by a probe; every question is kept in the trail.
-/

namespace ClusterLink

/-- Answers whether a path can be read and written. -/
structure Probe where
  readable : String → Bool
  writable : String → Bool

namespace Probe

def askReadable (probe : Probe) (label path : String) : Traced Bool := do
  Traced.note (.askedReadable label path)
  pure (probe.readable path)

def askWritable (probe : Probe) (path : String) : Traced Bool := do
  Traced.note (.askedWritable path)
  pure (probe.writable path)

/-- Refuses a path that cannot be read, and then a path that can be written. -/
def ensureSealed (probe : Probe) (label path : String) : Traced Unit := do
  if !(← probe.askReadable label path) then
    Traced.refuse (.unreadablePath label path)
  else if ← probe.askWritable path then
    Traced.refuse (.writablePath label path)
  else pure ()

theorem ensureSealed_eq (probe : Probe) (label path : String) :
    probe.ensureSealed label path =
      if probe.readable path then
        ⟨[.askedReadable label path, .askedWritable path],
          if probe.writable path then .error (.writablePath label path) else .ok ()⟩
      else ⟨[.askedReadable label path], .error (.unreadablePath label path)⟩ := by
  cases hr : probe.readable path <;> cases hw : probe.writable path <;>
    simp [ensureSealed, askReadable, askWritable, Traced.note, Traced.refuse, hr, hw]

def ensureAllSealed (probe : Probe) (label : String) : List String → Traced Unit
  | [] => pure ()
  | path :: rest => do
      probe.ensureSealed label path
      probe.ensureAllSealed label rest

end Probe

end ClusterLink
