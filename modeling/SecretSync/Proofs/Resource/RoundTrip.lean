import SecretSync.Api.Exchange
import SecretSync.Proofs.Json.Patch
import SecretSync.Proofs.Resource.Notes
import SecretSync.Proofs.Text.Base64
import SecretSync.Resource.Codec

namespace SecretSync

open Json (decodeOption written readsBack_string readsBack_bool readsBack_table readsBack_texts
  readsBack_list)

theorem OwnerReference.ofJson_toJson (o : OwnerReference) : ofJson o.toJson = .ok o := by
  obtain ⟨_, _, _, _, _ | _, _ | _⟩ := o <;> rfl

namespace Meta

def ownMembers (m : Meta) : List (String × Option Json) :=
  [("annotations", m.annotations.map fun t => Json.ofTable t .string),
   ("labels", m.labels.map fun t => Json.ofTable t .string),
   ("name", m.name.map .string),
   ("namespace", m.space.map .string),
   ("ownerReferences", m.owners.map fun l => .array (l.map OwnerReference.toJson)),
   ("resourceVersion", m.resourceVersion.map .string),
   ("uid", m.uid.map .string)]

theorem toJson_eq (m : Meta) : m.toJson = .object (written (m.ownMembers ++ m.notes.members)) := rfl

theorem once (m : Meta) : ((m.ownMembers ++ m.notes.members).map Prod.fst).Nodup := by
  simp [ownMembers, Bookkeeping.members]

theorem notes_ofMembers (m : Meta) (back : List (String × Json)) :
    Bookkeeping.ofMembers (written m.ownMembers ++ back) = Bookkeeping.ofMembers back := by
  unfold Bookkeeping.ofMembers
  simp (disch := simp [ownMembers]) only [Json.field_written_append]

theorem field_own (m : Meta) (name : String) (value : Option α) {g : α → Json}
    {f : Json → Json.Decoded α} (reads : Json.ReadsBack f g)
    (inside : (name, value.map g) ∈ m.ownMembers) :
    Json.field (written (m.ownMembers ++ m.notes.members)) name f = .ok value :=
  Json.field_written m.once (List.mem_append_left _ inside) reads

/-- Metadata as its text tells it. -/
def told (m : Meta) : Meta := { m with notes := m.notes.told }

theorem ofJson_toJson {m : Meta} (readable : m.notes.Readable) :
    ofJson m.toJson = .ok m.told := by
  have annotations := m.field_own "annotations" m.annotations readsBack_texts
    (List.mem_of_getElem? (i := 0) rfl)
  have labels := m.field_own "labels" m.labels readsBack_texts (List.mem_of_getElem? (i := 1) rfl)
  have name := m.field_own "name" m.name readsBack_string (List.mem_of_getElem? (i := 2) rfl)
  have space := m.field_own "namespace" m.space readsBack_string
    (List.mem_of_getElem? (i := 3) rfl)
  have owners := m.field_own "ownerReferences" m.owners
    (readsBack_list OwnerReference.ofJson_toJson) (List.mem_of_getElem? (i := 4) rfl)
  have version := m.field_own "resourceVersion" m.resourceVersion readsBack_string
    (List.mem_of_getElem? (i := 5) rfl)
  have uid := m.field_own "uid" m.uid readsBack_string (List.mem_of_getElem? (i := 6) rfl)
  have notes : Bookkeeping.ofMembers (written (m.ownMembers ++ m.notes.members)) =
      .ok m.notes.told := by
    rw [written, List.filterMap_append, notes_ofMembers]
    exact Bookkeeping.ofMembers_members readable
  rw [toJson_eq, ofJson, annotations, labels, name, space, owners, version, uid, notes]
  rfl

theorem readable_of_ofJson {j : Json} {m : Meta} (read : ofJson j = .ok m) : m.notes.Readable := by
  cases j with
  | object members =>
    obtain ⟨_, -, read⟩ := Json.steps_of_ok read
    obtain ⟨_, -, read⟩ := Json.steps_of_ok read
    obtain ⟨_, -, read⟩ := Json.steps_of_ok read
    obtain ⟨_, -, read⟩ := Json.steps_of_ok read
    obtain ⟨_, -, read⟩ := Json.steps_of_ok read
    obtain ⟨_, -, read⟩ := Json.steps_of_ok read
    obtain ⟨_, -, read⟩ := Json.steps_of_ok read
    obtain ⟨notes, noted, read⟩ := Json.steps_of_ok read
    cases read
    exact Bookkeeping.readable_of_ofMembers noted
  | _ => cases read

end Meta

namespace Secret

def members (s : Secret) : List (String × Option Json) :=
  [("apiVersion", some (.string "v1")),
   ("data", s.data.map fun t => Json.ofTable t fun b => .string (Text.Base64.encode b)),
   ("immutable", s.immutable.map .bool),
   ("kind", some (.string "Secret")),
   ("metadata", some s.metadata.toJson),
   ("stringData", s.stringData.map fun t => Json.ofTable t .string),
   ("type", s.type.map .string)]

theorem toJson_eq (s : Secret) : s.toJson = .object (written s.members) := rfl

theorem once (s : Secret) : (s.members.map Prod.fst).Nodup := by simp [members]

theorem decodeBytes_encode (b : Text.Bytes) :
    decodeBytes (.string (Text.Base64.encode b)) = .ok b := by
  rw [decodeBytes, Text.Base64.decode?_encode]

theorem expectText_written (s : Secret) (name text : String)
    (inside : (name, some (.string text)) ∈ s.members) :
    expectText (written s.members) name text = .ok () := by
  rw [expectText, Json.filter_written s.once inside]
  have same : (if text = text then Except.ok () else
      Except.error (Json.DecodeError.unknownVariant text text)) = Except.ok () := if_pos rfl
  exact congrArg (· >>= fun _ => pure ()) same

theorem field_member (s : Secret) (name : String) (value : Option α) {g : α → Json}
    {f : Json → Json.Decoded α} (reads : Json.ReadsBack f g)
    (inside : (name, value.map g) ∈ s.members) :
    Json.field (written s.members) name f = .ok value :=
  Json.field_written s.once inside reads

def told (s : Secret) : Secret := { s with metadata := s.metadata.told }

theorem told_told (s : Secret) : s.told.told = s.told := by
  simp only [told, Meta.told, Bookkeeping.told_told]

theorem ofJson_toJson {s : Secret} (readable : s.metadata.notes.Readable) :
    ofJson s.toJson = .ok s.told := by
  have version := s.expectText_written "apiVersion" "v1" (List.mem_of_getElem? (i := 0) rfl)
  have kind := s.expectText_written "kind" "Secret" (List.mem_of_getElem? (i := 3) rfl)
  have data := s.field_member "data" s.data (readsBack_table decodeBytes_encode)
    (List.mem_of_getElem? (i := 1) rfl)
  have immutable := s.field_member "immutable" s.immutable readsBack_bool
    (List.mem_of_getElem? (i := 2) rfl)
  have stringData := s.field_member "stringData" s.stringData readsBack_texts
    (List.mem_of_getElem? (i := 5) rfl)
  have type := s.field_member "type" s.type readsBack_string (List.mem_of_getElem? (i := 6) rfl)
  have metadata : Json.field (written s.members) "metadata" Meta.ofJson =
      .ok (some s.metadata.told) := by
    have inside : ("metadata", some s.metadata.toJson) ∈ s.members :=
      List.mem_of_getElem? (i := 4) rfl
    rw [Json.field, Json.filter_written s.once inside]
    change (decodeOption Meta.ofJson s.metadata.toJson >>= pure) = _
    rw [Json.decodeOption_of_ne (by rw [Meta.toJson_eq]; rintro ⟨⟩), Meta.ofJson_toJson readable]
    rfl
  rw [toJson_eq, ofJson, version, data, immutable, kind, metadata, stringData, type]
  rfl

theorem readable_of_ofJson {j : Json} {s : Secret} (read : ofJson j = .ok s) :
    s.metadata.notes.Readable := by
  cases j with
  | object members =>
    obtain ⟨_, -, read⟩ := Json.steps_of_ok read
    obtain ⟨_, -, read⟩ := Json.steps_of_ok read
    obtain ⟨_, -, read⟩ := Json.steps_of_ok read
    obtain ⟨_, -, read⟩ := Json.steps_of_ok read
    obtain ⟨metadata, found, read⟩ := Json.steps_of_ok read
    obtain ⟨_, -, read⟩ := Json.steps_of_ok read
    obtain ⟨_, -, read⟩ := Json.steps_of_ok read
    cases read
    cases metadata with
    | none => exact Bookkeeping.readable_empty
    | some m =>
      obtain ⟨j, -, value⟩ := Json.read_of_field found m rfl
      exact Meta.readable_of_ofJson value
  | _ => cases read

end Secret

theorem read_of_item {name : String} {fields index : Nat} {items : List Json}
    {f : Json → Json.Decoded α} {a : α} (read : item name fields index items f = .ok a) :
    ∃ j, f j = .ok a := by
  unfold item at read
  split at read
  · exact ⟨_, read⟩
  · cases read

namespace Binding

theorem Spec.ofJson_toJson (s : Spec) : ofJson s.toJson = .ok s := by
  obtain ⟨⟨_, _, ⟨⟩⟩, _⟩ := s
  rfl

theorem Status.ofJson_toJson (s : Status) : ofJson s.toJson = .ok s := by
  obtain ⟨_ | _, _ | _⟩ := s <;> rfl

/-- What is written of a binding, with any status in it. -/
def membersWith (b : Binding) (status : Option Json) : List (String × Option Json) :=
  [("apiVersion", some (.string apiVersion)),
   ("kind", some (.string kind)),
   ("metadata", some b.metadata.toJson),
   ("spec", some b.spec.toJson),
   ("status", status)]

def told (b : Binding) : Binding := { b with metadata := b.metadata.told }

theorem ofJson_membersWith {b : Binding} (readable : b.metadata.notes.Readable) {j : Option Json}
    {status : Option Status} (read : j.elim (.ok none) (decodeOption Status.ofJson) = .ok status) :
    ofJson (.object (written (b.membersWith j))) = .ok { b.told with status := status } := by
  have once : ((b.membersWith j).map Prod.fst).Nodup := by simp [membersWith]
  have metadata : Json.optional (written (b.membersWith j)) "metadata" Meta.ofJson =
      .ok (some b.metadata.told) := by
    have inside : ("metadata", some b.metadata.toJson) ∈ b.membersWith j :=
      List.mem_of_getElem? (i := 2) rfl
    rw [Json.optional, Json.filter_written once inside]
    exact congrArg (Except.map some) (Meta.ofJson_toJson readable)
  have spec : Json.optional (written (b.membersWith j)) "spec" Spec.ofJson = .ok (some b.spec) := by
    have inside : ("spec", some b.spec.toJson) ∈ b.membersWith j :=
      List.mem_of_getElem? (i := 3) rfl
    rw [Json.optional, Json.filter_written once inside]
    exact congrArg (Except.map some) b.spec.ofJson_toJson
  have found : Json.optional (written (b.membersWith j)) "status" (decodeOption Status.ofJson) =
      .ok (j.map fun _ => status) := by
    have inside : ("status", j) ∈ b.membersWith j := List.mem_of_getElem? (i := 4) rfl
    rw [Json.optional, Json.filter_written once inside]
    cases j with
    | none => rfl
    | some j => exact congrArg (Except.map some) read
  change ofMembers _ = _
  rw [ofMembers, metadata, spec, found]
  cases j with
  | none =>
    cases read
    rfl
  | some j => rfl

theorem ofJson_toJson {b : Binding} (readable : b.metadata.notes.Readable) :
    ofJson b.toJson = .ok b.told := by
  refine ofJson_membersWith (j := b.status.map Status.toJson) readable ?_
  cases b.status with
  | none => rfl
  | some s => exact congrArg (Except.map some) s.ofJson_toJson

theorem readable_of_ofJson {j : Json} {b : Binding} (read : ofJson j = .ok b) :
    b.metadata.notes.Readable := by
  cases j with
  | object members =>
    obtain ⟨metadata, found, read⟩ := Json.steps_of_ok read
    obtain ⟨_, -, read⟩ := Json.steps_of_ok read
    obtain ⟨_, -, read⟩ := Json.steps_of_ok read
    obtain ⟨m, there, read⟩ := Json.steps_of_ok read
    obtain ⟨_, -, read⟩ := Json.steps_of_ok read
    cases read
    cases metadata with
    | none => cases there
    | some n =>
      cases there
      obtain ⟨j, value⟩ := Json.read_of_optional found
      exact Meta.readable_of_ofJson value
  | array items =>
    obtain ⟨a, made, read⟩ := Json.steps_of_ok read
    obtain ⟨m, item, made⟩ := Json.steps_of_ok made
    obtain ⟨_, -, made⟩ := Json.steps_of_ok made
    obtain ⟨_, -, made⟩ := Json.steps_of_ok made
    cases made
    have same : m = b.metadata := by
      split at read
      · cases read
      · cases read
        rfl
    obtain ⟨j, value⟩ := read_of_item item
    exact same ▸ Meta.readable_of_ofJson value
  | _ => cases read

/-- The two members of a status are read as the patch has them. -/
theorem Status.ofMembers_patched (members : List (String × Json))
    (onceUpdate : (members.filter fun m => m.1 = "lastAzureUpdate").length ≤ 1)
    (onceHash : (members.filter fun m => m.1 = "secretHash").length ≤ 1) (s : Status) :
    ofMembers (Json.patchedMembers members
      [("lastAzureUpdate", Json.text? s.lastUpdate), ("secretHash", Json.text? s.secretHash)]) =
        .ok s := by
  obtain ⟨update, updated, isUpdate⟩ := Json.optional_patched_text onceUpdate s.lastUpdate
  have stillOnce : ((Json.patchedMembers members
      [("lastAzureUpdate", Json.text? s.lastUpdate)]).filter
        fun m => m.1 = "secretHash").length ≤ 1 := by
    rwa [Json.filter_patchedMembers (by simp)]
  obtain ⟨hash, hashed, isHash⟩ := Json.optional_patched_text stillOnce s.secretHash
  rw [Json.patchedMembers_cons, ofMembers, Json.optional_patched_other (by simp), updated, hashed]
  change Except.ok (Status.mk hash.join update.join) = _
  rw [isHash, isUpdate]

theorem Status.decode_patched {old : Json} {was : Option Status}
    (read : decodeOption ofJson old = .ok was) (s : Status) :
    decodeOption ofJson (Json.patched old s.toJson) = .ok (some s) := by
  have merged : ofMembers (Json.patchedMembers (Json.membersOf old)
      [("lastAzureUpdate", Json.text? s.lastUpdate), ("secretHash", Json.text? s.secretHash)]) =
        .ok s := by
    cases old with
    | object members =>
      obtain ⟨earlier, readEarlier⟩ : ∃ earlier, ofMembers members = .ok earlier := by
        change (ofMembers members).map some = _ at read
        cases result : ofMembers members with
        | error e =>
          rw [result] at read
          cases read
        | ok earlier => exact ⟨earlier, rfl⟩
      obtain ⟨_, update, rest⟩ := Json.steps_of_ok readEarlier
      obtain ⟨_, hash, -⟩ := Json.steps_of_ok rest
      exact ofMembers_patched members (Json.once_of_optional update) (Json.once_of_optional hash) s
    -- a patch of anything else starts from no members
    | _ => exact ofMembers_patched [] (Nat.zero_le 1) (Nat.zero_le 1) s
  rw [toJson, Json.patched]
  exact congrArg (Except.map some) merged

theorem optional_patched_status {members : List (String × Json)} {was : Option (Option Status)}
    (read : Json.optional members "status" (decodeOption Status.ofJson) = .ok was)
    (status : Option Status) :
    ∃ found, Json.optional (Json.patchedMembers members
      [("status", (status.map Status.toJson).getD .null)]) "status" (decodeOption Status.ofJson) =
        .ok found ∧ found.join = status := by
  cases status with
  | none => exact ⟨none, Json.optional_dropped members "status" _, rfl⟩
  | some s =>
    obtain ⟨_, decoded⟩ := Json.decoded_of_optional read
    have given : s.toJson ≠ .null := by rintro ⟨⟩
    have set := Json.optional_set (Json.once_of_optional read) given (decodeOption Status.ofJson)
    rw [Status.decode_patched decoded] at set
    exact ⟨_, set, rfl⟩

/-- A text that reads as a binding reads, once patched, as the binding with the new status. -/
theorem ofJson_patched_object {members : List (String × Json)} {stored : Binding}
    (read : ofJson (.object members) = .ok stored) (b : Binding) :
    ofJson (Json.patched (.object members) (Exchange.statusPatch b)) =
      .ok { stored with status := b.status } := by
  obtain ⟨metadata, metadataRead, read⟩ := Json.steps_of_ok read
  obtain ⟨spec, specRead, read⟩ := Json.steps_of_ok read
  obtain ⟨_, statusRead, read⟩ := Json.steps_of_ok read
  obtain ⟨m, metadataThere, read⟩ := Json.steps_of_ok read
  obtain ⟨s, specThere, read⟩ := Json.steps_of_ok read
  cases read
  obtain ⟨status, statusNow, isStatus⟩ := optional_patched_status statusRead b.status
  rw [Exchange.statusPatch, Json.patched, Json.membersOf]
  change ofMembers _ = _
  rw [ofMembers, Json.optional_patched_other (by simp), metadataRead,
    Json.optional_patched_other (by simp), specRead, statusNow]
  change (Json.require "metadata" metadata >>= fun m => Json.require "spec" spec >>= fun s =>
    pure (Binding.mk m s status.join)) = _
  rw [metadataThere, specThere, isStatus]
  rfl

/-- A stored binding takes the status of another from its patch, and nothing else. -/
theorem ofJson_patched {stored : Binding} (readable : stored.metadata.notes.Readable)
    (b : Binding) : ofJson (Json.patched stored.toJson (Exchange.statusPatch b)) =
      .ok { stored.told with status := b.status } :=
  ofJson_patched_object (ofJson_toJson readable) b

end Binding

end SecretSync
