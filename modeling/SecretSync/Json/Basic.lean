import SecretSync.Numeric.Binary64
import SecretSync.Table

namespace SecretSync

/-- A value, or `unreadable` for text in the form of one that stands for none: half a surrogate
pair, a number beyond all numbers, or a nesting that is too deep. -/
inductive Json where
  | null
  | bool (b : Bool)
  | whole (n : Int)
  | real (x : Binary64)
  | string (s : String)
  | array (items : List Json)
  | object (members : List (String × Json))
  | unreadable

namespace Json

instance : Inhabited Json := ⟨.null⟩

def nat (n : Nat) : Json := .whole n

def text? : Option String → Json
  | none => .null
  | some s => .string s

mutual

def decideEq : (a b : Json) → Decidable (a = b)
  | .null, b =>
    match b with
    | .null => isTrue rfl
    | .bool _ | .whole _ | .real _ | .string _ | .array _ | .object _ | .unreadable =>
      isFalse nofun
  | .bool x, b =>
    match b with
    | .bool y => decidable_of_iff (x = y) (by simp)
    | .null | .whole _ | .real _ | .string _ | .array _ | .object _ | .unreadable => isFalse nofun
  | .whole x, b =>
    match b with
    | .whole y => decidable_of_iff (x = y) (by simp)
    | .null | .bool _ | .real _ | .string _ | .array _ | .object _ | .unreadable => isFalse nofun
  | .real x, b =>
    match b with
    | .real y => decidable_of_iff (x = y) (by simp)
    | .null | .bool _ | .whole _ | .string _ | .array _ | .object _ | .unreadable => isFalse nofun
  | .string x, b =>
    match b with
    | .string y => decidable_of_iff (x = y) (by simp)
    | .null | .bool _ | .whole _ | .real _ | .array _ | .object _ | .unreadable => isFalse nofun
  | .array x, b =>
    match b with
    | .array y => @decidable_of_iff _ (x = y) (by simp) (decideItems x y)
    | .null | .bool _ | .whole _ | .real _ | .string _ | .object _ | .unreadable => isFalse nofun
  | .object x, b =>
    match b with
    | .object y => @decidable_of_iff _ (x = y) (by simp) (decideMembers x y)
    | .null | .bool _ | .whole _ | .real _ | .string _ | .array _ | .unreadable => isFalse nofun
  | .unreadable, b =>
    match b with
    | .unreadable => isTrue rfl
    | .null | .bool _ | .whole _ | .real _ | .string _ | .array _ | .object _ => isFalse nofun

def decideItems : (a b : List Json) → Decidable (a = b)
  | [], [] => isTrue rfl
  | [], _ :: _ => isFalse (by simp)
  | _ :: _, [] => isFalse (by simp)
  | x :: xs, y :: ys =>
    have := decideEq x y
    have := decideItems xs ys
    decidable_of_iff (x = y ∧ xs = ys) (by simp)

def decideMembers : (a b : List (String × Json)) → Decidable (a = b)
  | [], [] => isTrue rfl
  | [], _ :: _ => isFalse (by simp)
  | _ :: _, [] => isFalse (by simp)
  | (k, x) :: xs, (l, y) :: ys =>
    have := decideEq x y
    have := decideMembers xs ys
    decidable_of_iff (k = l ∧ x = y ∧ xs = ys) (by simp [and_assoc])

end

instance : DecidableEq Json := decideEq

mutual

/-- Whether every part of a value could be read. -/
def readable : Json → Bool
  | .unreadable => false
  | .array items => readableItems items
  | .object members => readableMembers members
  | _ => true

def readableItems : List Json → Bool
  | [] => true
  | j :: rest => j.readable && readableItems rest

def readableMembers : List (String × Json) → Bool
  | [] => true
  | (_, j) :: rest => j.readable && readableMembers rest

end

/-- The members in name order; of two with one name the later one stays. -/
def sorted (members : List (String × Json)) : List (String × Json) :=
  (Table.ofList members).entries

mutual

/-- A value with the members of all its objects sorted. -/
def canonical : Json → Json
  | .array items => .array (canonicalItems items)
  | .object members => .object (sorted (canonicalMembers members))
  | j => j

def canonicalItems : List Json → List Json
  | [] => []
  | j :: rest => j.canonical :: canonicalItems rest

def canonicalMembers : List (String × Json) → List (String × Json)
  | [] => []
  | (k, j) :: rest => (k, j.canonical) :: canonicalMembers rest

end

/-- The last member of a name. -/
def member? (members : List (String × Json)) (name : String) : Option Json :=
  members.foldl (fun found m => if m.1 = name then some m.2 else found) none

/-- A member that is present, even as null. -/
def field? (name : String) : Json → Option Json
  | .object members => member? members name
  | _ => none

/-- A member that is present and not null. -/
def given? (name : String) (j : Json) : Option Json :=
  match j.field? name with
  | some .null => none
  | found => found

def asString? : Json → Option String
  | .string s => some s
  | _ => none

def asBool? : Json → Option Bool
  | .bool b => some b
  | _ => none

def asInt? : Json → Option Int
  | .whole n => some n
  | _ => none

def asArray? : Json → Option (List Json)
  | .array items => some items
  | _ => none

/-- The members that have a value. -/
def present (members : List (String × Option Json)) : Json :=
  .object (members.filterMap fun m => m.2.map (m.1, ·))

def ofTable (t : Table String α) (f : α → Json) : Json :=
  .object (t.entries.map fun e => (e.1, f e.2))

end Json

end SecretSync
