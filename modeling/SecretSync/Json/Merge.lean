import SecretSync.Json.Basic

/-!
Merge patches on JSON values, as in RFC 7386: null takes a member away, objects merge member by
member, and any other value replaces what was there.
-/
namespace SecretSync.Json

/-- Writes a member in its place, or at the end when there is none of its name. -/
def setMember (name : String) (value : Json) : List (String × Json) → List (String × Json)
  | [] => [(name, value)]
  | m :: rest => if m.1 = name then (name, value) :: rest else m :: setMember name value rest

def dropMember (name : String) (members : List (String × Json)) : List (String × Json) :=
  members.filter fun m => decide (m.1 ≠ name)

/-- The members of an object, and none of any other value. -/
def membersOf : Json → List (String × Json)
  | .object members => members
  | _ => []

mutual

/-- The value that a patch makes of another. -/
def patched (target : Json) : Json → Json
  | .object patch => .object (patchedMembers (membersOf target) patch)
  | other => other

def patchedMembers (members : List (String × Json)) : List (String × Json) → List (String × Json)
  | [] => members
  | (name, .null) :: rest => patchedMembers (dropMember name members) rest
  | (name, patch) :: rest =>
    patchedMembers (setMember name (patched ((member? members name).getD .null) patch) members) rest

end

end SecretSync.Json
