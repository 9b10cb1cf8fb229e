import SecretSync.Table

/-!
Names of resources and their text form: "namespace/name", or the bare name when the namespace is
empty.
-/
namespace SecretSync

structure Key where
  space : String
  name : String
  deriving DecidableEq, Repr

namespace Key

/-- Keys stand in the order of their namespaces, then of their names. -/
instance : KeyOrder Key where
  before a b := KeyOrder.before (a.space, a.name) (b.space, b.name)
  irrefl a := KeyOrder.irrefl (a.space, a.name)
  trans h k := KeyOrder.trans (κ := String × String) h k
  total a b := by
    rcases KeyOrder.total (a.space, a.name) (b.space, b.name) with h | h | h
    · exact .inl h
    · refine .inr (.inl ?_)
      cases a
      cases b
      cases h
      rfl
    · exact .inr (.inr h)

def render (k : Key) : String := if k.space = "" then k.name else k.space ++ "/" ++ k.name

/-- The parts between slashes. There is always at least one. -/
def parts : List Char → List (List Char)
  | [] => [[]]
  | c :: rest =>
    if c = '/' then [] :: parts rest
    else
      match parts rest with
      | [] => [[c]]
      | p :: ps => (c :: p) :: ps

/-- Reads a text with at most one slash and no empty part. -/
def parse? (text : String) : Option Key :=
  match parts text.toList with
  | [name] => if name = [] then none else some ⟨"", String.ofList name⟩
  | [space, name] =>
    if space = [] ∨ name = [] then none else some ⟨String.ofList space, String.ofList name⟩
  | _ => none

end Key

end SecretSync
