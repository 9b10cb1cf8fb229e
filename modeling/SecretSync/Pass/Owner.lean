import SecretSync.Pass.Program

namespace SecretSync

/-- A Secret as it is, or the last that is known of a deleted one. -/
inductive Sighting where
  | live (s : Secret)
  | tombstone (key : String) (s : Option Secret)

namespace Sighting

def object : Sighting → Except PassError Secret
  | .live s => .ok s
  | .tombstone _ (some s) => .ok s
  | .tombstone key none =>
    .error (.undecodable ("error decoding object tombstone for '" ++ key ++ "'"))

end Sighting

namespace Pass

def skip (reason : String) : Pass (Option Binding) := do
  count (.skipped reason)
  pure none

/-- The binding that controls a Secret, if it can be found. -/
def findOwner (s : Secret) : Pass (Option Binding) := do
  match s.metadata.controller? with
  | none => skip "no_controller"
  | some owner =>
    if owner.kind = Binding.kind then
      match ← ask (.getBinding ⟨s.metadata.space.getD "", owner.name⟩) with
      | .ok (some b) => pure (some b)
      | _ => skip "orphaned"
    else
      skip "foreign_controller"

def resolve (e : Sighting) : Pass (Option Binding) := do
  match e.object with
  | .ok s => findOwner s
  | .error e => throw e

end Pass

end SecretSync
