import SecretSync.Proofs.Json.Written
import SecretSync.Resource.Schema

namespace SecretSync

namespace Json

def isOfType (type : Json) : Json → Bool
  | .string _ => type = .string "string"
  | .object _ => type = .string "object"
  | .array _ => type = .string "array"
  | .bool _ => type = .string "boolean"
  | .whole _ => type = .string "integer" || type = .string "number"
  | .real _ => type = .string "number"
  | .null | .unreadable => false

def hasMembers (names : List Json) : Json → Bool
  | .object members => names.all fun n => (n.asString?.bind (member? members)).isSome
  | _ => true

/-- Whether a value obeys a keyword that looks at no values inside it. Titles, descriptions and
defaults ask for nothing. -/
def obeys (word : String) (s j : Json) : Bool :=
  if word = "type" then isOfType s j
  else if word = "enum" then (s.asArray?.getD []).contains j
  else if word = "required" then hasMembers (s.asArray?.getD []) j
  else true

def isNullable (keywords : List (String × Json)) : Bool :=
  decide (member? keywords "nullable" = some (.bool true))

mutual

/-- Whether a value conforms to a schema: it obeys all keywords, or it is null and may be. -/
def conforms : (schema : Json) → Json → Bool
  | .object keywords, j => (decide (j = .null) && isNullable keywords) || conformsAll keywords j
  | _, _ => false
termination_by structural schema => schema

def conformsAll : List (String × Json) → Json → Bool
  | [], _ => true
  | (word, s) :: rest, j =>
    (if word = "properties" then conformsInside s j else obeys word s j) && conformsAll rest j
termination_by structural keywords => keywords

def conformsInside : (properties : Json) → Json → Bool
  | .object properties, .object members => conformsMembers properties members
  | _, _ => true
termination_by structural properties => properties

def conformsMembers : List (String × Json) → List (String × Json) → Bool
  | [], _ => true
  | (name, s) :: rest, members =>
    (match member? members name with
      | none => true
      | some j => conforms s j) && conformsMembers rest members
termination_by structural properties => properties

end

def conformsTo (word : String) (s : Option Json) (j : Json) : Bool :=
  s.all fun s => if word = "properties" then conformsInside s j else obeys word s j

theorem conformsTo_type (type j : Json) : conformsTo "type" (some type) j = isOfType type j := rfl

theorem conformsTo_properties (properties j : Json) :
    conformsTo "properties" (some properties) j = conformsInside properties j := rfl

theorem conformsTo_note {word : String} (note : word ∉ ["type", "enum", "required", "properties"])
    (s : Option Json) (j : Json) : conformsTo word s j = true := by
  simp only [List.mem_cons, List.not_mem_nil, or_false, not_or] at note
  cases s <;> simp [conformsTo, obeys, note]

theorem conformsAll_written (keywords : List (String × Option Json)) (j : Json) :
    conformsAll (written keywords) j =
      keywords.all fun m => conformsTo m.1 m.2 j := by
  induction keywords with
  | nil => rfl
  | cons m rest ih =>
    obtain ⟨word, _ | s⟩ := m
    · simpa [conformsTo] using ih
    · simp [conformsAll, conformsTo, ih]

theorem isNullable_written {n : SchemaNotes} {keywords : List (String × Option Json)}
    (once : (keywords.map Prod.fst).Nodup) (inside : ("nullable", Schema.nullMember n) ∈ keywords) :
    isNullable (written keywords) = n.nullable := by
  rw [isNullable, member?_written once inside, Schema.nullMember]
  cases n.nullable <;> rfl

end Json

namespace Schema

open Json

theorem conformsTo_enum (choices : Option (List String)) (s : String) :
    conformsTo "enum" (choices.map fun l => .array (l.map .string)) (.string s) =
      admitsText choices s := by
  cases choices with
  | none => rfl
  | some l =>
    rw [Bool.eq_iff_iff]
    simp [conformsTo, obeys, asArray?, admitsText]

theorem conformsTo_required (required : List String) (members : List (String × Json)) :
    conformsTo "required" (if required = [] then none else some (.array (required.map .string)))
      (.object members) = required.all fun r => (member? members r).isSome := by
  cases required with
  | nil => rfl
  | cons r rest => simp [conformsTo, obeys, asArray?, hasMembers, asString?, Function.comp_def]

mutual

/-- A value conforms to the text of a schema if and only if the schema admits it. -/
theorem conforms_toJson : ∀ (s : Schema) (j : Json), conforms s.toJson j = s.admits j
  | .text n choices, j => by
    rw [toJson, present, conforms, conformsAll_written,
      isNullable_written (n := n) (by simp) (by simp)]
    cases j <;> simp [conformsTo_enum, conformsTo_type, conformsTo_note, isOfType, admits]
  | .object n properties required, j => by
    rw [toJson, present, conforms, conformsAll_written,
      isNullable_written (n := n) (by simp) (by simp)]
    cases j <;> simp [conformsTo_required, conformsTo_properties, conformsTo_type, conformsTo_note,
      conformsInside, isOfType, admits, conformsMembers_propertiesJson properties, Bool.and_comm]

theorem conformsMembers_propertiesJson : ∀ (properties : List (String × Schema))
    (members : List (String × Json)),
    conformsMembers (propertiesJson properties) members = admitsMembers properties members
  | [], _ => rfl
  | (name, s) :: rest, members => by
    rw [propertiesJson, conformsMembers, admitsMembers, conformsMembers_propertiesJson rest]
    cases member? members name with
    | none => rfl
    | some j => simp only [conforms_toJson s j]

end

end Schema

end SecretSync
