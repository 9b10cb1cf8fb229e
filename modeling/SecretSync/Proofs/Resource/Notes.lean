import SecretSync.Proofs.Json.Canonical
import SecretSync.Proofs.Time.Stamp
import SecretSync.Resource.Codec

namespace SecretSync

open Json (Decoded decodeString decodeOption field written readsBack_string readsBack_list)

namespace Json

theorem steps_of_ok {x : Decoded α} {next : α → Decoded β} {b : β} (read : x >>= next = .ok b) :
    ∃ a, x = .ok a ∧ next a = .ok b := by
  cases x with
  | error e => cases read
  | ok a => exact ⟨a, rfl, read⟩

theorem read_of_field {members : List (String × Json)} {name : String} {f : Json → Decoded α}
    {found : Option α} (read : field members name f = .ok found) :
    ∀ a, found = some a → ∃ j, j ≠ .null ∧ f j = .ok a := by
  rintro a rfl
  unfold field at read
  have onward : ∀ (l : List (String × Json)) (start : Option α),
      l.foldlM (fun _ m => decodeOption f m.2) start = .ok (some a) →
        start = some a ∨ ∃ j, j ≠ .null ∧ f j = .ok a := by
    intro l
    induction l with
    | nil =>
      intro start same
      exact .inl (Except.ok.inj same)
    | cons m rest ih =>
      intro start read
      rw [List.foldlM_cons] at read
      obtain ⟨b, first, later⟩ := steps_of_ok read
      obtain rfl | there := ih b later
      · obtain ⟨value, given⟩ := ok_of_decodeOption first
        exact .inr ⟨m.2, given, value⟩
      · exact .inr there
  exact (onward _ none read).resolve_left (by rintro ⟨⟩)

theorem read_of_optional {members : List (String × Json)} {name : String} {f : Json → Decoded α}
    {a : α} (read : Json.optional members name f = .ok (some a)) : ∃ j, f j = .ok a := by
  unfold Json.optional at read
  split at read
  · cases read
  · next m _ =>
    cases value : f m.2 with
    | error e =>
      rw [value] at read
      cases read
    | ok b =>
      rw [value] at read
      cases read
      exact ⟨m.2, value⟩
  · cases read

theorem read_of_list {f : Json → Decoded α} {j : Json} {l : List α}
    (read : decodeList f j = .ok l) : ∀ a ∈ l, ∃ j, f j = .ok a := by
  cases j with
  | array items =>
    change items.mapM f = _ at read
    induction items generalizing l with
    | nil =>
      cases read
      nofun
    | cons j rest ih =>
      rw [List.mapM_cons] at read
      obtain ⟨b, first, read⟩ := steps_of_ok read
      obtain ⟨bs, later, same⟩ := steps_of_ok read
      cases same
      intro a inside
      obtain rfl | inside := List.mem_cons.1 inside
      · exact ⟨j, first⟩
      · exact ih later a inside
  | _ => cases read

end Json

namespace Moment

theorem ofJson_toJson {m : Moment} (readable : m.Readable) : ofJson m.toJson = .ok m.told := by
  unfold ofJson toJson
  rw [readsBack_string.back]
  simp only [bind, Except.bind, parse?_rfc3339 readable]
  rfl

theorem readable_of_ofJson {j : Json} {m : Moment} (read : ofJson j = .ok m) : m.Readable := by
  obtain ⟨s, -, read⟩ := Json.steps_of_ok read
  cases parsed : parse? s with
  | none =>
    rw [parsed] at read
    cases read
  | some n =>
    rw [parsed] at read
    cases read
    exact readable_of_parse? parsed

theorem readable_of_field {members : List (String × Json)} {name : String}
    {found : Option Moment} (read : field members name ofJson = .ok found) :
    ∀ m, found = some m → m.Readable := by
  intro m there
  obtain ⟨j, -, value⟩ := Json.read_of_field read m there
  exact readable_of_ofJson value

theorem readable_map_told {found : Option Moment} (readable : ∀ m, found = some m → m.Readable) :
    ∀ m, found.map told = some m → m.Readable := by
  intro m there
  obtain ⟨n, known, rfl⟩ := Option.map_eq_some_iff.1 there
  exact readable_told (readable n known)

end Moment

namespace ManagedFields

structure Readable (f : ManagedFields) : Prop where
  fields : ∀ j, f.fields = some j → j.Settled ∧ j ≠ .null
  time : ∀ m, f.time = some m → m.Readable

/-- The fields as their text tells them. -/
def told (f : ManagedFields) : ManagedFields := { f with time := f.time.map Moment.told }

def members (f : ManagedFields) : List (String × Option Json) :=
  [("apiVersion", f.apiVersion.map .string),
   ("fieldsType", f.fieldsType.map .string),
   ("fieldsV1", f.fields),
   ("manager", f.manager.map .string),
   ("operation", f.operation.map .string),
   ("subresource", f.subresource.map .string),
   ("time", f.time.map Moment.toJson)]

theorem once (f : ManagedFields) : (f.members.map Prod.fst).Nodup := by simp [members]

theorem field_text (f : ManagedFields) (name : String) (value : Option String)
    (inside : (name, value.map .string) ∈ f.members) :
    field (written f.members) name decodeString = .ok value :=
  Json.field_written f.once inside readsBack_string

theorem ofJson_toJson {f : ManagedFields} (readable : f.Readable) :
    ofJson f.toJson = .ok f.told := by
  have version := f.field_text "apiVersion" f.apiVersion (List.mem_of_getElem? (i := 0) rfl)
  have kind := f.field_text "fieldsType" f.fieldsType (List.mem_of_getElem? (i := 1) rfl)
  have manager := f.field_text "manager" f.manager (List.mem_of_getElem? (i := 3) rfl)
  have operation := f.field_text "operation" f.operation (List.mem_of_getElem? (i := 4) rfl)
  have subresource := f.field_text "subresource" f.subresource (List.mem_of_getElem? (i := 5) rfl)
  have fields : field (written f.members) "fieldsV1" Json.decodeAny = .ok f.fields := by
    have inside : ("fieldsV1", f.fields.map id) ∈ f.members := by
      rw [Option.map_id]
      exact List.mem_of_getElem? (i := 2) rfl
    have read := Json.field_written_as id f.once inside fun j there =>
      ⟨(readable.fields j there).2, (readable.fields j there).1.decodeAny⟩
    rwa [Option.map_id] at read
  have time : field (written f.members) "time" Moment.ofJson = .ok (f.time.map Moment.told) :=
    Json.field_written_as Moment.told f.once (List.mem_of_getElem? (i := 6) rfl) fun m there =>
      ⟨by rintro ⟨⟩, Moment.ofJson_toJson (readable.time m there)⟩
  change ofJson (.object (written f.members)) = _
  rw [ofJson, version, kind, fields, manager, operation, subresource, time]
  rfl

theorem readable_of_ofJson {j : Json} {f : ManagedFields} (read : ofJson j = .ok f) :
    f.Readable := by
  cases j with
  | object m =>
    obtain ⟨_, -, read⟩ := Json.steps_of_ok read
    obtain ⟨_, -, read⟩ := Json.steps_of_ok read
    obtain ⟨fields, any, read⟩ := Json.steps_of_ok read
    obtain ⟨_, -, read⟩ := Json.steps_of_ok read
    obtain ⟨_, -, read⟩ := Json.steps_of_ok read
    obtain ⟨_, -, read⟩ := Json.steps_of_ok read
    obtain ⟨time, moment, read⟩ := Json.steps_of_ok read
    cases read
    refine ⟨fun k there => ?_, Moment.readable_of_field moment⟩
    obtain ⟨j, given, value⟩ := Json.read_of_field any k there
    exact Json.settled_of_decodeAny value given
  | _ => cases read

theorem readable_told {f : ManagedFields} (readable : f.Readable) : f.told.Readable where
  fields := readable.fields
  time := Moment.readable_map_told readable.time

theorem told_told (f : ManagedFields) : f.told.told = f.told := by
  simp only [told, Option.map_map, Function.comp_def, Moment.told_told]

end ManagedFields

namespace Bookkeeping

def Fits (n : Int) : Prop := Json.decodeInt 63 (.whole n) = .ok n

structure Readable (n : Bookkeeping) : Prop where
  created : ∀ m, n.created = some m → m.Readable
  grace : ∀ x, n.deletionGraceSeconds = some x → Fits x
  deleted : ∀ m, n.deleted = some m → m.Readable
  generation : ∀ x, n.generation = some x → Fits x
  managed : ∀ l, n.managedFields = some l → ∀ f ∈ l, f.Readable

def told (n : Bookkeeping) : Bookkeeping :=
  { n with
    created := n.created.map Moment.told
    deleted := n.deleted.map Moment.told
    managedFields := n.managedFields.map fun l => l.map ManagedFields.told }

theorem readable_empty : Bookkeeping.empty.Readable := by
  constructor <;> nofun

theorem once (n : Bookkeeping) : (n.members.map Prod.fst).Nodup := by simp [members]

theorem fits_of_decodeInt {j : Json} {n : Int} (read : Json.decodeInt 63 j = .ok n) : Fits n := by
  cases j with
  | whole m =>
    have same : m = n := by
      unfold Json.decodeInt at read
      dsimp only at read
      split at read
      · exact Except.ok.inj read
      · cases read
    subst same
    exact read
  | _ => cases read

theorem fits_of_field {members : List (String × Json)} {name : String} {found : Option Int}
    (read : field members name (Json.decodeInt 63) = .ok found) :
    ∀ x, found = some x → Fits x := by
  intro x there
  obtain ⟨j, -, value⟩ := Json.read_of_field read x there
  exact fits_of_decodeInt value

theorem readable_of_ofMembers {m : List (String × Json)} {n : Bookkeeping}
    (read : ofMembers m = .ok n) : n.Readable := by
  obtain ⟨_, created, read⟩ := Json.steps_of_ok read
  obtain ⟨_, grace, read⟩ := Json.steps_of_ok read
  obtain ⟨_, deleted, read⟩ := Json.steps_of_ok read
  obtain ⟨_, -, read⟩ := Json.steps_of_ok read
  obtain ⟨_, -, read⟩ := Json.steps_of_ok read
  obtain ⟨_, generation, read⟩ := Json.steps_of_ok read
  obtain ⟨_, managed, read⟩ := Json.steps_of_ok read
  obtain ⟨_, -, read⟩ := Json.steps_of_ok read
  cases read
  refine ⟨Moment.readable_of_field created, fits_of_field grace, Moment.readable_of_field deleted,
    fits_of_field generation, fun l there f inside => ?_⟩
  obtain ⟨j, -, value⟩ := Json.read_of_field managed l there
  obtain ⟨k, value⟩ := Json.read_of_list value f inside
  exact ManagedFields.readable_of_ofJson value

theorem decodeList_told {l : List ManagedFields} (readable : ∀ f ∈ l, f.Readable) :
    Json.decodeList ManagedFields.ofJson (.array (l.map ManagedFields.toJson)) =
      .ok (l.map ManagedFields.told) := by
  change (l.map ManagedFields.toJson).mapM ManagedFields.ofJson = _
  induction l with
  | nil => rfl
  | cons f rest ih =>
    obtain ⟨first, later⟩ := List.forall_mem_cons.1 readable
    rw [List.map_cons, List.mapM_cons, ManagedFields.ofJson_toJson first, ih later]
    rfl

theorem field_moment (n : Bookkeeping) (name : String) {value : Option Moment}
    (readable : ∀ m, value = some m → m.Readable)
    (inside : (name, value.map Moment.toJson) ∈ n.members) :
    field (written n.members) name Moment.ofJson = .ok (value.map Moment.told) :=
  Json.field_written_as Moment.told n.once inside fun m there =>
    ⟨by rintro ⟨⟩, Moment.ofJson_toJson (readable m there)⟩

theorem field_whole (n : Bookkeeping) (name : String) {value : Option Int}
    (fits : ∀ x, value = some x → Fits x) (inside : (name, value.map .whole) ∈ n.members) :
    field (written n.members) name (Json.decodeInt 63) = .ok value := by
  have read := Json.field_written_as id n.once inside fun x there =>
    ⟨by rintro ⟨⟩, fits x there⟩
  rwa [Option.map_id] at read

/-- Notes are read back as their text tells them. -/
theorem ofMembers_members {n : Bookkeeping} (readable : n.Readable) :
    ofMembers (written n.members) = .ok n.told := by
  have created := n.field_moment "creationTimestamp" readable.created
    (List.mem_of_getElem? (i := 0) rfl)
  have grace := n.field_whole "deletionGracePeriodSeconds" readable.grace
    (List.mem_of_getElem? (i := 1) rfl)
  have deleted := n.field_moment "deletionTimestamp" readable.deleted
    (List.mem_of_getElem? (i := 2) rfl)
  have finalizers : field (written n.members) "finalizers" (Json.decodeList decodeString) =
      .ok n.finalizers :=
    Json.field_written n.once (List.mem_of_getElem? (i := 3) rfl)
      (readsBack_list readsBack_string.back)
  have generateName : field (written n.members) "generateName" decodeString =
      .ok n.generateName :=
    Json.field_written n.once (List.mem_of_getElem? (i := 4) rfl) readsBack_string
  have generation := n.field_whole "generation" readable.generation
    (List.mem_of_getElem? (i := 5) rfl)
  have managed : field (written n.members) "managedFields"
      (Json.decodeList ManagedFields.ofJson) =
        .ok (n.managedFields.map fun l => l.map ManagedFields.told) :=
    Json.field_written_as _ n.once (List.mem_of_getElem? (i := 6) rfl) fun l there =>
      ⟨by rintro ⟨⟩, decodeList_told (readable.managed l there)⟩
  have selfLink : field (written n.members) "selfLink" decodeString = .ok n.selfLink :=
    Json.field_written n.once (List.mem_of_getElem? (i := 7) rfl) readsBack_string
  rw [ofMembers, created, grace, deleted, finalizers, generateName, generation, managed, selfLink]
  rfl

theorem readable_told {n : Bookkeeping} (readable : n.Readable) : n.told.Readable where
  created := Moment.readable_map_told readable.created
  grace := readable.grace
  deleted := Moment.readable_map_told readable.deleted
  generation := readable.generation
  managed l there f inside := by
    obtain ⟨k, known, rfl⟩ := Option.map_eq_some_iff.1 there
    obtain ⟨g, kept, rfl⟩ := List.mem_map.1 inside
    exact ManagedFields.readable_told (readable.managed k known g kept)

theorem told_told (n : Bookkeeping) : n.told.told = n.told := by
  simp only [told, Option.map_map, List.map_map, Function.comp_def, Moment.told_told,
    ManagedFields.told_told]

end Bookkeeping

end SecretSync
