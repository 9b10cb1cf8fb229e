import SecretSync.Proofs.Json.ReadBack
import SecretSync.Proofs.Resource.RoundTrip
import Mathlib.Data.List.Basic
import Mathlib.Logic.Relation

/-!
The forms of a spec. Each of its records is an object or an array, and shows the values of its
fields by their names or their places. Reading a spec gives what it shows, and that stays when
unknown members are added anywhere or a type is left out that is the default.
-/
namespace SecretSync

namespace Json

theorem bind_eq_ok {x : Decoded α} {next : α → Decoded β} {b : β} :
    x >>= next = .ok b ↔ ∃ a, x = .ok a ∧ next a = .ok b := by
  refine ⟨steps_of_ok, ?_⟩
  rintro ⟨a, rfl, read⟩
  exact read

theorem require_eq_ok {name : String} {found : Option α} {a : α} :
    require name found = .ok a ↔ found = some a := by
  cases found <;> simp [require]

end Json

open Json (Decoded decodeString require bind_eq_ok require_eq_ok)

/-- What is given for a field shows a value: it is one value that does, or nothing where there is a
default. -/
def Shows (R : Json → α → Prop) (default : Option α) : List Json → α → Prop
  | [], a => default = some a
  | [j], a => R j a
  | _, _ => False

inductive SpecPart where
  | spec
  | vault
  | object
  | output
  deriving DecidableEq

namespace SpecPart

/-- The fields in the order of their declaration, with the records that they hold. -/
def fields : SpecPart → List (String × Option SpecPart)
  | spec => [("vault", some vault), ("outputSecret", some output)]
  | vault => [("name", none), ("object", some object)]
  | object => [("name", none), ("type", none)]
  | output => [("name", none), ("keyName", none), ("type", none)]

def names (p : SpecPart) : List String := p.fields.map Prod.fst

def Formed (p : SpecPart) : Json → Prop
  | .object _ => True
  | .array items => items.length ≤ p.names.length
  | _ => False

def valuesOf (name : String) (members : List (String × Json)) : List Json :=
  (members.filter fun m => m.1 = name).map Prod.snd

/-- All that is given for a field, by its name or its place. -/
def given (p : SpecPart) (name : String) : Json → List Json
  | .object members => valuesOf name members
  | .array items => items[p.names.idxOf name]?.toList
  | _ => []

end SpecPart

def ShowsText (j : Json) (s : String) : Prop := j = .string s

/-- A type is shown by its name, or by an object with that name over null. -/
def ObjectType.Shown (j : Json) (t : ObjectType) : Prop :=
  j = .string t.name ∨ j = .object [(t.name, .null)]

structure VaultObject.Shown (j : Json) (o : VaultObject) : Prop where
  formed : SpecPart.object.Formed j
  name : Shows ShowsText none (SpecPart.object.given "name" j) o.name
  type : Shows ObjectType.Shown (some .secret) (SpecPart.object.given "type" j) o.type

structure VaultSource.Shown (j : Json) (v : VaultSource) : Prop where
  formed : SpecPart.vault.Formed j
  name : Shows ShowsText none (SpecPart.vault.given "name" j) v.name
  object : Shows VaultObject.Shown none (SpecPart.vault.given "object" j) v.object

structure Output.Shown (j : Json) (o : Output) : Prop where
  formed : SpecPart.output.Formed j
  name : Shows ShowsText none (SpecPart.output.given "name" j) o.name
  keyName : Shows ShowsText none (SpecPart.output.given "keyName" j) o.keyName
  type : Shows ShowsText (some Output.defaultType) (SpecPart.output.given "type" j) o.type

structure Binding.Spec.Shown (j : Json) (s : Binding.Spec) : Prop where
  formed : SpecPart.spec.Formed j
  vault : Shows VaultSource.Shown none (SpecPart.spec.given "vault" j) s.vault
  output : Shows Output.Shown none (SpecPart.spec.given "outputSecret" j) s.output

/-- What a decoder reads of a value is what the value shows. -/
def Exact (f : Json → Decoded α) (R : Json → α → Prop) : Prop :=
  ∀ j a, f j = .ok a ↔ R j a

section Fields

variable {f : Json → Decoded α} {R : Json → α → Prop} {a d : α}

def readGiven (name : String) (f : Json → Decoded α) : List Json → Decoded (Option α)
  | [] => .ok none
  | [j] => (f j).map some
  | _ => .error (.repeated name)

theorem optional_eq_readGiven (m : List (String × Json)) (name : String) (f : Json → Decoded α) :
    Json.optional m name f = readGiven name f (SpecPart.valuesOf name m) := by
  unfold Json.optional SpecPart.valuesOf
  generalize (m.filter fun m => m.1 = name) = found
  match found with
  | [] | [_] | _ :: _ :: _ => rfl

theorem defaultItem_eq_readGiven (index : Nat) (items : List Json) (name : String)
    (f : Json → Decoded α) : defaultItem index items f = readGiven name f items[index]?.toList := by
  unfold defaultItem
  cases items[index]? <;> rfl

theorem readGiven_eq_some (exact : Exact f R) {name : String} {xs : List Json} :
    readGiven name f xs = .ok (some a) ↔ Shows R none xs a := by
  match xs with
  | [] => exact ⟨nofun, nofun⟩
  | [j] =>
    rw [Shows, ← exact j a, readGiven]
    cases f j <;> simp [Except.map]
  | _ :: _ :: _ => exact ⟨nofun, nofun⟩

theorem readGiven_default (exact : Exact f R) {name : String} {xs : List Json} :
    (∃ found, readGiven name f xs = .ok found ∧ found.getD d = a) ↔ Shows R (some d) xs a := by
  match xs with
  | [] => simp [readGiven, Shows]
  | [j] =>
    rw [Shows, ← exact j a, readGiven]
    cases f j <;> simp [Except.map]
  | _ :: _ :: _ => simp [readGiven, Shows]

theorem item_eq_ok (exact : Exact f R) {record : String} {fields index : Nat} {items : List Json} :
    item record fields index items f = .ok a ↔ Shows R none items[index]?.toList a := by
  rw [item]
  cases items[index]? with
  | none => exact ⟨nofun, nofun⟩
  | some j => exact exact j a

theorem record_array {name : String} {ofMembers : List (String × Json) → Decoded α}
    {ofItems : List Json → Decoded α} {fields : Nat} {items : List Json} :
    record name ofMembers ofItems fields (.array items) = .ok a ↔
      items.length ≤ fields ∧ ofItems items = .ok a := by
  rw [record, bind_eq_ok]
  constructor
  · rintro ⟨b, read, fits⟩
    split_ifs at fits with long
    cases fits
    exact ⟨Nat.le_of_not_lt long, read⟩
  · rintro ⟨fits, read⟩
    exact ⟨a, read, if_neg (Nat.not_lt_of_le fits)⟩

end Fields

theorem exact_text : Exact decodeString ShowsText := by
  intro j s
  cases j <;> simp [decodeString, ShowsText, Json.wrong]

theorem exact_objectType : Exact ObjectType.ofJson ObjectType.Shown := by
  rintro j ⟨⟩
  unfold ObjectType.ofJson ObjectType.Shown
  split
  · simp [ObjectType.ofName, ObjectType.name]
  · simp [ObjectType.ofName, ObjectType.name]
  · -- a name over another value than null
    rename_i filled
    constructor
    · intro read
      obtain ⟨_, -, read⟩ := Json.steps_of_ok read
      cases read
    · rintro (⟨⟨⟩⟩ | same)
      cases same
      exact (filled rfl).elim
  · rename_i many
    constructor
    · nofun
    · rintro (⟨⟨⟩⟩ | same)
      cases same
      exact (many _ _ rfl).elim
  · rename_i no_text no_name _ _
    constructor
    · nofun
    · rintro (rfl | rfl)
      · exact (no_text _ rfl).elim
      · exact (no_name _ rfl).elim

theorem exact_vaultObject : Exact VaultObject.ofJson VaultObject.Shown := by
  intro j o
  cases j with
  | object m =>
    change VaultObject.ofMembers m = _ ↔ _
    simp only [VaultObject.ofMembers, bind_eq_ok, require_eq_ok, optional_eq_readGiven]
    constructor
    · rintro ⟨_, name, type, typed, _, rfl, same⟩
      cases same
      exact ⟨trivial, (readGiven_eq_some exact_text).1 name,
        (readGiven_default exact_objectType).1 ⟨type, typed, rfl⟩⟩
    · rintro ⟨-, name, type⟩
      obtain ⟨type, typed, same⟩ := (readGiven_default exact_objectType).2 type
      exact ⟨_, (readGiven_eq_some exact_text).2 name, type, typed, _, rfl, same ▸ rfl⟩
  | array items =>
    rw [VaultObject.ofJson, record_array]
    simp only [VaultObject.ofItems, bind_eq_ok, item_eq_ok exact_text,
      defaultItem_eq_readGiven _ _ "type"]
    constructor
    · rintro ⟨fits, name, named, type, typed, same⟩
      cases same
      exact ⟨fits, named, (readGiven_default exact_objectType).1 ⟨type, typed, rfl⟩⟩
    · rintro ⟨fits, name, type⟩
      obtain ⟨type, typed, same⟩ := (readGiven_default exact_objectType).2 type
      exact ⟨fits, _, name, type, typed, same ▸ rfl⟩
  | _ => exact ⟨nofun, fun shown => shown.formed.elim⟩

theorem exact_vaultSource : Exact VaultSource.ofJson VaultSource.Shown := by
  intro j v
  cases j with
  | object m =>
    change VaultSource.ofMembers m = _ ↔ _
    simp only [VaultSource.ofMembers, bind_eq_ok, require_eq_ok, optional_eq_readGiven]
    constructor
    · rintro ⟨_, name, _, object, _, rfl, _, rfl, same⟩
      cases same
      exact ⟨trivial, (readGiven_eq_some exact_text).1 name,
        (readGiven_eq_some exact_vaultObject).1 object⟩
    · rintro ⟨-, name, object⟩
      exact ⟨_, (readGiven_eq_some exact_text).2 name, _,
        (readGiven_eq_some exact_vaultObject).2 object, _, rfl, _, rfl, rfl⟩
  | array items =>
    rw [VaultSource.ofJson, record_array]
    simp only [VaultSource.ofItems, bind_eq_ok, item_eq_ok exact_text, item_eq_ok exact_vaultObject]
    constructor
    · rintro ⟨fits, _, name, _, object, same⟩
      cases same
      exact ⟨fits, name, object⟩
    · rintro ⟨fits, name, object⟩
      exact ⟨fits, _, name, _, object, rfl⟩
  | _ => exact ⟨nofun, fun shown => shown.formed.elim⟩

theorem exact_output : Exact Output.ofJson Output.Shown := by
  intro j o
  cases j with
  | object m =>
    change Output.ofMembers m = _ ↔ _
    simp only [Output.ofMembers, bind_eq_ok, require_eq_ok, optional_eq_readGiven]
    constructor
    · rintro ⟨_, keyName, _, name, type, typed, _, rfl, _, rfl, same⟩
      cases same
      exact ⟨trivial, (readGiven_eq_some exact_text).1 name,
        (readGiven_eq_some exact_text).1 keyName,
        (readGiven_default exact_text).1 ⟨type, typed, rfl⟩⟩
    · rintro ⟨-, name, keyName, type⟩
      obtain ⟨type, typed, same⟩ := (readGiven_default exact_text).2 type
      exact ⟨_, (readGiven_eq_some exact_text).2 keyName, _,
        (readGiven_eq_some exact_text).2 name, type, typed, _, rfl, _, rfl, same ▸ rfl⟩
  | array items =>
    rw [Output.ofJson, record_array]
    simp only [Output.ofItems, bind_eq_ok, item_eq_ok exact_text,
      defaultItem_eq_readGiven _ _ "type"]
    constructor
    · rintro ⟨fits, _, name, _, keyName, type, typed, same⟩
      cases same
      exact ⟨fits, name, keyName, (readGiven_default exact_text).1 ⟨type, typed, rfl⟩⟩
    · rintro ⟨fits, name, keyName, type⟩
      obtain ⟨type, typed, same⟩ := (readGiven_default exact_text).2 type
      exact ⟨fits, _, name, _, keyName, type, typed, same ▸ rfl⟩
  | _ => exact ⟨nofun, fun shown => shown.formed.elim⟩

theorem exact_spec : Exact Binding.Spec.ofJson Binding.Spec.Shown := by
  intro j s
  cases j with
  | object m =>
    change Binding.Spec.ofMembers m = _ ↔ _
    simp only [Binding.Spec.ofMembers, bind_eq_ok, require_eq_ok, optional_eq_readGiven]
    constructor
    · rintro ⟨_, output, _, vault, _, rfl, _, rfl, same⟩
      cases same
      exact ⟨trivial, (readGiven_eq_some exact_vaultSource).1 vault,
        (readGiven_eq_some exact_output).1 output⟩
    · rintro ⟨-, vault, output⟩
      exact ⟨_, (readGiven_eq_some exact_output).2 output, _,
        (readGiven_eq_some exact_vaultSource).2 vault, _, rfl, _, rfl, rfl⟩
  | array items =>
    rw [Binding.Spec.ofJson, record_array]
    simp only [Binding.Spec.ofItems, bind_eq_ok, item_eq_ok exact_vaultSource,
      item_eq_ok exact_output]
    constructor
    · rintro ⟨fits, _, vault, _, output, same⟩
      cases same
      exact ⟨fits, vault, output⟩
    · rintro ⟨fits, vault, output⟩
      exact ⟨fits, _, vault, _, output, rfl⟩
  | _ => exact ⟨nofun, fun shown => shown.formed.elim⟩

namespace SpecPart

def Value : SpecPart → Type
  | spec => Binding.Spec
  | vault => VaultSource
  | object => VaultObject
  | output => SecretSync.Output

def Shown : (p : SpecPart) → Json → p.Value → Prop
  | spec => Binding.Spec.Shown
  | vault => VaultSource.Shown
  | object => VaultObject.Shown
  | output => SecretSync.Output.Shown

def Default : SpecPart → Json → Prop
  | object, j => ObjectType.Shown j .secret
  | output, j => ShowsText j SecretSync.Output.defaultType
  | _, _ => False

/-- One value in place of another changes nothing of what is shown. -/
def Keeps (p : SpecPart) (j j' : Json) : Prop := ∀ a, p.Shown j a → p.Shown j' a

/-- What is given for a field in place of other values: the same, or nothing in place of a default
type, or a record that shows all that the one before did. -/
inductive Kept (p : SpecPart) (name : String) : List Json → List Json → Prop where
  | same (xs : List Json) : p.Kept name xs xs
  | left {j : Json} (front back : List Json) (type : name = "type") (default : p.Default j) :
      p.Kept name (front ++ j :: back) (front ++ back)
  | changed {q : SpecPart} {j j' : Json} (front back : List Json)
      (inside : (name, some q) ∈ p.fields) (keeps : q.Keeps j j') :
      p.Kept name (front ++ j :: back) (front ++ j' :: back)

section Kept

variable {p q : SpecPart} {name : String} {xs ys front back : List Json} {j j' : Json}
  {R : Json → α → Prop} {default : Option α} {a d : α}

theorem shows_changed (keeps : ∀ a, R j a → R j' a)
    (shows : Shows R default (front ++ j :: back) a) : Shows R default (front ++ j' :: back) a := by
  match front, back with
  | [], [] => exact keeps a shows
  | [], _ :: _ | [_], _ | _ :: _ :: _, _ => exact shows.elim

theorem shows_left (default : ∀ a, R j a → d = a)
    (shows : Shows R (some d) (front ++ j :: back) a) : Shows R (some d) (front ++ back) a := by
  match front, back with
  | [], [] => exact congrArg some (default a shows)
  | [], _ :: _ | [_], _ | _ :: _ :: _, _ => exact shows.elim

theorem Kept.plain (kept : p.Kept name xs ys) (untyped : name ≠ "type")
    (bare : ∀ q, (name, some q) ∉ p.fields) (shows : Shows R none xs a) : Shows R none ys a := by
  cases kept with
  | same => exact shows
  | left _ _ type => exact absurd type untyped
  | changed _ _ inside => exact absurd inside (bare _)

theorem Kept.type (kept : p.Kept "type" xs ys) (bare : ∀ q, ("type", some q) ∉ p.fields)
    (default : ∀ j a, p.Default j → R j a → d = a) (shows : Shows R (some d) xs a) :
    Shows R (some d) ys a := by
  cases kept with
  | same => exact shows
  | left _ _ _ carried => exact shows_left (fun a => default _ a carried) shows
  | changed _ _ inside => exact absurd inside (bare _)

theorem Kept.part (q : SpecPart) {a : q.Value} (kept : p.Kept name xs ys) (untyped : name ≠ "type")
    (only : ∀ q', (name, some q') ∈ p.fields → q' = q) (shows : Shows q.Shown none xs a) :
    Shows q.Shown none ys a := by
  cases kept with
  | same => exact shows
  | left _ _ type => exact absurd type untyped
  | changed _ _ inside keeps =>
    obtain rfl := only _ inside
    exact shows_changed keeps shows

theorem keeps_of_kept (formed : p.Formed j → p.Formed j')
    (kept : ∀ name ∈ p.names, p.Kept name (p.given name j) (p.given name j')) : p.Keeps j j' := by
  intro a shown
  cases p with
  | spec =>
    refine ⟨formed shown.formed, ?_, ?_⟩
    · exact (kept "vault" (by decide)).part vault (by decide) (by simp [fields]) shown.vault
    · exact (kept "outputSecret" (by decide)).part output (by decide) (by simp [fields]) shown.output
  | vault =>
    refine ⟨formed shown.formed, ?_, ?_⟩
    · exact (kept "name" (by decide)).plain (by decide) (by simp [fields]) shown.name
    · exact (kept "object" (by decide)).part object (by decide) (by simp [fields]) shown.object
  | object =>
    refine ⟨formed shown.formed, ?_, ?_⟩
    · exact (kept "name" (by decide)).plain (by decide) (by simp [fields]) shown.name
    · exact (kept "type" (by decide)).type (by simp [fields]) (fun _ _ _ _ => rfl) shown.type
  | output =>
    refine ⟨formed shown.formed, ?_, ?_, ?_⟩
    · exact (kept "name" (by decide)).plain (by decide) (by simp [fields]) shown.name
    · exact (kept "keyName" (by decide)).plain (by decide) (by simp [fields]) shown.keyName
    · refine (kept "type" (by decide)).type (by simp [fields]) ?_ shown.type
      intro j a carried read
      exact Json.string.inj (carried.symm.trans read)

end Kept

/-- One change to a value of a part: a member with an unknown name is added, a default type is left
out, or a record inside of it is changed so. -/
inductive Respelled : SpecPart → Json → Json → Prop where
  | extra {p : SpecPart} {name : String} (front back : List (String × Json)) (value : Json)
      (unknown : name ∉ p.names) :
      Respelled p (.object (front ++ back)) (.object (front ++ (name, value) :: back))
  | member_left {p : SpecPart} {j : Json} (front back : List (String × Json))
      (default : p.Default j) :
      Respelled p (.object (front ++ ("type", j) :: back)) (.object (front ++ back))
  | item_left {p : SpecPart} {j : Json} (items : List Json)
      (place : items.length = p.names.idxOf "type") (default : p.Default j) :
      Respelled p (.array (items ++ [j])) (.array items)
  | member {p q : SpecPart} {name : String} {j j' : Json} (front back : List (String × Json))
      (inside : (name, some q) ∈ p.fields) (respelled : Respelled q j j') :
      Respelled p (.object (front ++ (name, j) :: back)) (.object (front ++ (name, j') :: back))
  | item {p q : SpecPart} {name : String} {j j' : Json} (front back : List Json)
      (place : front.length = p.names.idxOf name) (inside : (name, some q) ∈ p.fields)
      (respelled : Respelled q j j') :
      Respelled p (.array (front ++ j :: back)) (.array (front ++ j' :: back))

section Respelled

variable {p : SpecPart} {name other : String} {j j' : Json}

theorem valuesOf_append (front back : List (String × Json)) :
    valuesOf name (front ++ back) = valuesOf name front ++ valuesOf name back := by
  rw [valuesOf, valuesOf, valuesOf, List.filter_append, List.map_append]

theorem valuesOf_cons_self (back : List (String × Json)) :
    valuesOf name ((name, j) :: back) = j :: valuesOf name back := by
  rw [valuesOf, Json.filter_here (m := (name, j)) rfl]
  rfl

theorem valuesOf_cons_of_ne (apart : other ≠ name) (back : List (String × Json)) :
    valuesOf name ((other, j) :: back) = valuesOf name back := by
  rw [valuesOf, Json.filter_elsewhere apart]
  rfl

theorem getElem?_at (front back : List Json) (j : Json) :
    (front ++ j :: back)[front.length]? = some j := by simp

theorem getElem?_elsewhere {front back : List Json} {index : Nat} (apart : index ≠ front.length)
    (j j' : Json) : (front ++ j :: back)[index]? = (front ++ j' :: back)[index]? := by
  rw [List.getElem?_append, List.getElem?_append]
  split_ifs with before
  · rfl
  · obtain ⟨k, later⟩ := Nat.exists_eq_add_of_lt (show front.length < index by omega)
    have place : index - front.length = k + 1 := by omega
    rw [place, List.getElem?_cons_succ, List.getElem?_cons_succ]

theorem getElem?_before_last {items : List Json} {index : Nat} (apart : index ≠ items.length)
    (j : Json) : (items ++ [j])[index]? = items[index]? := by
  rw [List.getElem?_append]
  split_ifs with before
  · rfl
  · rw [List.getElem?_eq_none (by simp; omega), List.getElem?_eq_none (by omega)]

/-- A change like that leaves all that is shown, by induction on where it is made. -/
theorem Respelled.keeps (respelled : Respelled p j j') : p.Keeps j j' := by
  induction respelled with
  | @extra p new front back value unknown =>
    refine keeps_of_kept id fun name known => ?_
    have apart : new ≠ name := fun same => unknown (same ▸ known)
    rw [given, given, valuesOf_append, valuesOf_append, valuesOf_cons_of_ne apart]
    exact .same _
  | member_left front back default =>
    refine keeps_of_kept id fun name known => ?_
    rw [given, given, valuesOf_append, valuesOf_append]
    by_cases type : "type" = name
    · subst type
      rw [valuesOf_cons_self]
      exact .left _ _ rfl default
    · rw [valuesOf_cons_of_ne type]
      exact .same _
  | @item_left p j items place default =>
    refine keeps_of_kept (fun fits => Nat.le_trans (by simp) fits) fun name known => ?_
    rw [given, given]
    by_cases type : name = "type"
    · subst type
      rw [← place, List.getElem?_concat_length, List.getElem?_eq_none (Nat.le_refl _)]
      exact .left [] [] rfl default
    · have apart : p.names.idxOf name ≠ items.length := fun same =>
        type ((List.idxOf_inj known).1 (same.trans place))
      rw [getElem?_before_last apart]
      exact .same _
  | @member p q held j j' front back inside _ keeps =>
    refine keeps_of_kept id fun name known => ?_
    rw [given, given, valuesOf_append, valuesOf_append]
    by_cases here : held = name
    · subst here
      rw [valuesOf_cons_self, valuesOf_cons_self]
      exact .changed _ _ inside keeps
    · rw [valuesOf_cons_of_ne here, valuesOf_cons_of_ne here]
      exact .same _
  | @item p q held j j' front back place inside _ keeps =>
    refine keeps_of_kept (fun fits => Nat.le_trans (by simp) fits) fun name known => ?_
    rw [given, given]
    by_cases here : name = held
    · subst here
      rw [← place, getElem?_at, getElem?_at]
      exact .changed [] [] inside keeps
    · have apart : p.names.idxOf name ≠ front.length := fun same =>
        here ((List.idxOf_inj known).1 (same.trans place))
      rw [getElem?_elsewhere apart j j']
      exact .same _

end Respelled

end SpecPart

namespace Binding

theorem Spec.read?_write (s : Spec) : Json.read? s.toJson.write = some s.toJson := by
  have shallow : s.toJson.nesting = 3 := rfl
  exact Json.read?_write rfl (by omega)

theorem Status.read?_write (s : Status) : Json.read? s.toJson.write = some s.toJson := by
  have plain : s.toJson.plain := by obtain ⟨_ | _, _ | _⟩ := s <;> rfl
  have shallow : s.toJson.nesting = 1 := by obtain ⟨_ | _, _ | _⟩ := s <;> rfl
  exact Json.read?_write plain (by omega)

/-- A spec and a status are read back from what is written of them, and from its text. A spec is
read of just those values that show it, and written as an object that is read as the same spec.
Unknown members in any of its records, and types left out that are the default, do not matter. -/
theorem forms_read_alike :
    (∀ s : Spec, Spec.ofJson s.toJson = .ok s ∧
      (Json.read? s.toJson.write).map Spec.ofJson = some (.ok s)) ∧
    (∀ s : Status, Status.ofJson s.toJson = .ok s ∧
      (Json.read? s.toJson.write).map Status.ofJson = some (.ok s)) ∧
    (∀ j s, Spec.ofJson j = .ok s ↔ Spec.Shown j s) ∧
    (∀ j s, Spec.ofJson j = .ok s →
      ∃ members, s.toJson = .object members ∧ Spec.ofJson (.object members) = .ok s) ∧
    ∀ j j' s, Spec.ofJson j = .ok s → Relation.ReflTransGen (SpecPart.Respelled .spec) j j' →
      Spec.ofJson j' = .ok s := by
  refine ⟨fun s => ⟨s.ofJson_toJson, ?_⟩, fun s => ⟨s.ofJson_toJson, ?_⟩, exact_spec,
    fun j s _ => ⟨_, rfl, s.ofJson_toJson⟩, ?_⟩
  · rw [s.read?_write, Option.map_some, s.ofJson_toJson]
  · rw [s.read?_write, Option.map_some, s.ofJson_toJson]
  · intro j j' s read changes
    induction changes with
    | refl => exact read
    | tail _ last ih => exact (exact_spec _ s).2 (last.keeps s ((exact_spec _ s).1 ih))

def Spec.password : Spec := ⟨⟨"kv1", "db-pass", .secret⟩, ⟨"db-secret", "password", "Opaque"⟩⟩

/-- An array of the vault, which is an array too, and of the output, with both types. -/
def scattered : Json :=
  .array
    [.array
      [.string "kv1",
       .object [("name", .string "db-pass"), ("type", .object [("secret", .null)])]],
     .object
      [("name", .string "db-secret"), ("type", .string "Opaque"), ("keyName", .string "password")]]

def untyped : Json :=
  .array
    [.array [.string "kv1", .object [("name", .string "db-pass")]],
     .object
      [("name", .string "db-secret"), ("keyName", .string "password"), ("note", .array [.null])]]

theorem respelled_scattered :
    Relation.ReflTransGen (SpecPart.Respelled .spec) scattered untyped := by
  have vault : ("vault", some SpecPart.vault) ∈ SpecPart.spec.fields := by decide
  have object : ("object", some SpecPart.object) ∈ SpecPart.vault.fields := by decide
  have output : ("outputSecret", some SpecPart.output) ∈ SpecPart.spec.fields := by decide
  -- the type of the object, then that of the output, then the member
  refine .head (.item [] [_] rfl vault
    (.item [_] [] rfl object (.member_left [_] [] (.inr rfl)))) ?_
  refine .head (.item [_] [] rfl output (.member_left [_] [_] rfl)) ?_
  exact .single (.item [_] [] rfl output (.extra [_, _] [] _ (by decide)))

theorem untyped_read_as_scattered :
    Spec.ofJson scattered = .ok .password ∧ Spec.ofJson untyped = .ok .password := by
  have read : Spec.ofJson scattered = .ok .password := rfl
  exact ⟨read, forms_read_alike.2.2.2.2 _ _ _ read respelled_scattered⟩

end Binding

end SecretSync
