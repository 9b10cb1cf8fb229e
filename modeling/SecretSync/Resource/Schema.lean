import SecretSync.Json.Basic

namespace SecretSync

/-- What a schema says besides the shape of its values. -/
structure SchemaNotes where
  title : Option String
  description : Option String
  default : Option String
  nullable : Bool

inductive Schema where
  | text (notes : SchemaNotes) (choices : Option (List String))
  | object (notes : SchemaNotes) (properties : List (String × Schema)) (required : List String)

namespace SchemaNotes

def describe (description : String) : SchemaNotes := ⟨none, some description, none, false⟩

end SchemaNotes

namespace Schema

def nullMember (n : SchemaNotes) : Option Json := if n.nullable then some (.bool true) else none

mutual

def toJson : Schema → Json
  | .text n choices =>
    Json.present
      [("default", n.default.map .string),
       ("description", n.description.map .string),
       ("enum", choices.map fun l => .array (l.map .string)),
       ("nullable", nullMember n),
       ("title", n.title.map .string),
       ("type", some (.string "string"))]
  | .object n properties required =>
    Json.present
      [("description", n.description.map .string),
       ("nullable", nullMember n),
       ("properties", some (.object (propertiesJson properties))),
       ("required", if required.isEmpty then none else some (.array (required.map .string))),
       ("title", n.title.map .string),
       ("type", some (.string "object"))]

def propertiesJson : List (String × Schema) → List (String × Json)
  | [] => []
  | (name, s) :: rest => (name, s.toJson) :: propertiesJson rest

end

def admitsText (choices : Option (List String)) (s : String) : Bool :=
  match choices with
  | none => true
  | some l => l.contains s

mutual

/-- Whether a value has the form that a schema asks for. -/
def admits : Schema → Json → Bool
  | .text n _, .null => n.nullable
  | .text _ choices, .string s => admitsText choices s
  | .object n _ _, .null => n.nullable
  | .object _ properties required, .object members =>
    required.all (fun r => (Json.member? members r).isSome) && admitsMembers properties members
  | _, _ => false

/-- Whether the members that have a schema are admitted by it. -/
def admitsMembers : List (String × Schema) → List (String × Json) → Bool
  | [], _ => true
  | (name, s) :: rest, members =>
    (match Json.member? members name with
      | none => true
      | some j => s.admits j) && admitsMembers rest members

end

end Schema

end SecretSync
