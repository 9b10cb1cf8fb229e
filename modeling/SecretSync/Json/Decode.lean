import SecretSync.Json.Writer
import SecretSync.Text.Quoted

/-!
Reading records from JSON values. A record is an object, whose unknown members do not matter, or an
array of its fields in their order, where fields with a default may be left out at the end.
-/
namespace SecretSync.Json

/-- What a JSON value is called in an error. -/
def describe : Json → String
  | .null => "null"
  | .bool b => "boolean `" ++ (if b then "true" else "false") ++ "`"
  | .whole n => "integer `" ++ toString n ++ "`"
  | .real x => "floating point `" ++ writeReal x ++ "`"
  | .string s => "string " ++ Text.quote s
  | .array _ => "sequence"
  | .object _ => "map"
  | .unreadable => "unreadable text"

inductive DecodeError where
  | wrongType (found expected : String)
  | missing (field : String)
  | repeated (field : String)
  | tooShort (length : Nat) (record : String) (fields : Nat)
  | tooLong (length : Nat)
  | unknownVariant (found expected : String)
  | notOneMember
  | invalid (text : String)
  deriving DecidableEq, Repr

def DecodeError.message : DecodeError → String
  | .wrongType found expected => "invalid type: " ++ found ++ ", expected " ++ expected
  | .missing field => "missing field `" ++ field ++ "`"
  | .repeated field => "duplicate field `" ++ field ++ "`"
  | .tooShort length record fields =>
    "invalid length " ++ toString length ++ ", expected struct " ++ record ++ " with " ++
      toString fields ++ " elements"
  | .tooLong length =>
    "invalid length " ++ toString length ++ ", expected fewer elements in array"
  | .unknownVariant found expected =>
    "unknown variant `" ++ found ++ "`, expected `" ++ expected ++ "`"
  | .notOneMember => "invalid value: map, expected map with a single key"
  | .invalid text => text

abbrev Decoded := Except DecodeError

def wrong (j : Json) (expected : String) : Decoded α := .error (.wrongType j.describe expected)

def decodeString : Json → Decoded String
  | .string s => .ok s
  | j => wrong j "a string"

def decodeBool : Json → Decoded Bool
  | .bool b => .ok b
  | j => wrong j "a boolean"

/-- A whole number with a sign and some bits besides it. -/
def decodeInt (bits : Nat) : Json → Decoded Int
  | .whole n =>
    let bound : Int := Nat.pow 2 bits
    if -bound ≤ n ∧ n < bound then .ok n else wrong (.whole n) "a whole number"
  | j => wrong j "a whole number"

def decodeAny (j : Json) : Decoded Json :=
  if j.readable then .ok j.canonical else wrong .unreadable "a value"

/-- Null is no value. -/
def decodeOption (f : Json → Decoded α) : Json → Decoded (Option α)
  | .null => .ok none
  | j => (f j).map some

/-- A member that may be left out. Two members of one name are refused. -/
def optional (members : List (String × Json)) (name : String) (f : Json → Decoded α) :
    Decoded (Option α) :=
  match members.filter fun m => m.1 = name with
  | [] => .ok none
  | [m] => (f m.2).map some
  | _ => .error (.repeated name)

/-- A member that may be left out or be null. Of several of one name all must decode, and the last
one counts. -/
def field (members : List (String × Json)) (name : String) (f : Json → Decoded α) :
    Decoded (Option α) :=
  (members.filter fun m => m.1 = name).foldlM (fun _ m => decodeOption f m.2) none

def require (name : String) : Option α → Decoded α
  | some a => .ok a
  | none => .error (.missing name)

def decodeList (f : Json → Decoded α) : Json → Decoded (List α)
  | .array items => items.mapM f
  | j => wrong j "a sequence"

def decodeTable (f : Json → Decoded α) : Json → Decoded (Table String α)
  | .object members =>
    members.foldlM (fun t m => (f m.2).map fun a => t.insert m.1 a) Table.empty
  | j => wrong j "a map"

end SecretSync.Json
