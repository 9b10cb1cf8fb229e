import SecretSync.Resource.Binding

/-!
Copies of stored objects, kept up to date by the events of a watch. The objects of a new list are
gathered aside and replace the shown ones when the list is complete.
-/
namespace SecretSync

inductive WatchEvent (α : Type) where
  | init
  | initApply (a : α)
  | initDone
  | apply (a : α)
  | delete (a : α)

/-- Absent keys stand before all others. -/
instance [KeyOrder κ] : KeyOrder (Option κ) where
  before
    | none, some _ => true
    | some a, some b => KeyOrder.before a b
    | _, none => false
  irrefl
    | none => rfl
    | some a => KeyOrder.irrefl a
  trans {a b c} h k := by
    cases a <;> cases b <;> cases c <;> simp_all
    exact KeyOrder.trans h k
  total a b := by
    cases a <;> cases b <;> simp
    exact KeyOrder.total _ _

/-- A namespace that may be absent, and a name. -/
abbrev CacheKey := Option String × String

def Meta.cacheKey (m : Meta) : CacheKey := (m.space, m.name.getD "")

structure Reflector (α : Type) where
  shown : Table CacheKey α
  buffer : Table CacheKey α

namespace Reflector

def empty : Reflector α := ⟨Table.empty, Table.empty⟩

instance : Inhabited (Reflector α) := ⟨empty⟩

/-- The copies after an event, under the key that an object's metadata gives. -/
def see (metadata : α → Meta) (r : Reflector α) : WatchEvent α → Reflector α
  | .init => { r with buffer := Table.empty }
  | .initApply a => { r with buffer := r.buffer.insert (metadata a).cacheKey a }
  | .initDone => ⟨r.buffer, Table.empty⟩
  | .apply a => { r with shown := r.shown.insert (metadata a).cacheKey a }
  | .delete a => { r with shown := r.shown.erase (metadata a).cacheKey }

/-- The object of a key, or one of that name that has no namespace at all. -/
def get? (r : Reflector α) (k : Key) : Option α :=
  match r.shown.get? (some k.space, k.name) with
  | some a => some a
  | none => r.shown.get? (none, k.name)

end Reflector

end SecretSync
