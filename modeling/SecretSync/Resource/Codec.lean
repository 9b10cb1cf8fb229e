import SecretSync.Json.Decode
import SecretSync.Resource.Binding
import SecretSync.Text.Base64
import SecretSync.Time.Stamp

namespace SecretSync

open Json (Decoded DecodeError decodeString decodeOption field optional require wrong)

namespace OwnerReference

def toJson (o : OwnerReference) : Json :=
  Json.present
    [("apiVersion", some (.string o.apiVersion)),
     ("blockOwnerDeletion", o.blockOwnerDeletion.map .bool),
     ("controller", o.controller.map .bool),
     ("kind", some (.string o.kind)),
     ("name", some (.string o.name)),
     ("uid", some (.string o.uid))]

end OwnerReference

def OwnerReference.ofJson : Json → Decoded OwnerReference
  | .object m => do
    let apiVersion ← field m "apiVersion" decodeString
    let block ← field m "blockOwnerDeletion" Json.decodeBool
    let controller ← field m "controller" Json.decodeBool
    let kind ← field m "kind" decodeString
    let name ← field m "name" decodeString
    let uid ← field m "uid" decodeString
    pure ⟨apiVersion.getD "", kind.getD "", name.getD "", uid.getD "", controller, block⟩
  | j => wrong j "OwnerReference"

def Moment.ofJson (j : Json) : Decoded Moment := do
  let s ← decodeString j
  match Moment.parse? s with
  | some m => pure m
  | none => .error (.invalid "invalid time")

def Moment.toJson (m : Moment) : Json := .string m.rfc3339

namespace ManagedFields

def toJson (f : ManagedFields) : Json :=
  Json.present
    [("apiVersion", f.apiVersion.map .string),
     ("fieldsType", f.fieldsType.map .string),
     ("fieldsV1", f.fields),
     ("manager", f.manager.map .string),
     ("operation", f.operation.map .string),
     ("subresource", f.subresource.map .string),
     ("time", f.time.map Moment.toJson)]

def ofJson : Json → Decoded ManagedFields
  | .object m => do
    let apiVersion ← field m "apiVersion" decodeString
    let fieldsType ← field m "fieldsType" decodeString
    let fields ← field m "fieldsV1" Json.decodeAny
    let manager ← field m "manager" decodeString
    let operation ← field m "operation" decodeString
    let subresource ← field m "subresource" decodeString
    let time ← field m "time" Moment.ofJson
    pure ⟨apiVersion, fieldsType, fields, manager, operation, subresource, time⟩
  | j => wrong j "ManagedFieldsEntry"

end ManagedFields

namespace Bookkeeping

/-- The members of an object's metadata that are not its own. -/
def members (n : Bookkeeping) : List (String × Option Json) :=
  [("creationTimestamp", n.created.map Moment.toJson),
   ("deletionGracePeriodSeconds", n.deletionGraceSeconds.map .whole),
   ("deletionTimestamp", n.deleted.map Moment.toJson),
   ("finalizers", n.finalizers.map fun l => .array (l.map .string)),
   ("generateName", n.generateName.map .string),
   ("generation", n.generation.map .whole),
   ("managedFields", n.managedFields.map fun l => .array (l.map ManagedFields.toJson)),
   ("selfLink", n.selfLink.map .string)]

def ofMembers (m : List (String × Json)) : Decoded Bookkeeping := do
  let created ← field m "creationTimestamp" Moment.ofJson
  let grace ← field m "deletionGracePeriodSeconds" (Json.decodeInt 63)
  let deleted ← field m "deletionTimestamp" Moment.ofJson
  let finalizers ← field m "finalizers" (Json.decodeList decodeString)
  let generateName ← field m "generateName" decodeString
  let generation ← field m "generation" (Json.decodeInt 63)
  let managed ← field m "managedFields" (Json.decodeList ManagedFields.ofJson)
  let selfLink ← field m "selfLink" decodeString
  pure ⟨created, grace, deleted, finalizers, generateName, generation, managed, selfLink⟩

end Bookkeeping

namespace Meta

def toJson (m : Meta) : Json :=
  Json.present <|
    [("annotations", m.annotations.map fun t => Json.ofTable t .string),
     ("labels", m.labels.map fun t => Json.ofTable t .string),
     ("name", m.name.map .string),
     ("namespace", m.space.map .string),
     ("ownerReferences", m.owners.map fun l => .array (l.map OwnerReference.toJson)),
     ("resourceVersion", m.resourceVersion.map .string),
     ("uid", m.uid.map .string)] ++ m.notes.members

def ofJson : Json → Decoded Meta
  | .object m => do
    let annotations ← field m "annotations" (Json.decodeTable decodeString)
    let labels ← field m "labels" (Json.decodeTable decodeString)
    let name ← field m "name" decodeString
    let space ← field m "namespace" decodeString
    let owners ← field m "ownerReferences" (Json.decodeList OwnerReference.ofJson)
    let resourceVersion ← field m "resourceVersion" decodeString
    let uid ← field m "uid" decodeString
    let notes ← Bookkeeping.ofMembers m
    pure ⟨name, space, uid, resourceVersion, labels, annotations, owners, notes⟩
  | j => wrong j "ObjectMeta"

end Meta

namespace Secret

def toJson (s : Secret) : Json :=
  Json.present
    [("apiVersion", some (.string "v1")),
     ("data", s.data.map fun t => Json.ofTable t fun b => .string (Text.Base64.encode b)),
     ("immutable", s.immutable.map .bool),
     ("kind", some (.string "Secret")),
     ("metadata", some s.metadata.toJson),
     ("stringData", s.stringData.map fun t => Json.ofTable t .string),
     ("type", s.type.map .string)]

/-- Null is the empty value; anything else is text in base 64. -/
def decodeBytes : Json → Decoded Text.Bytes
  | .null => .ok []
  | .string s =>
    match Text.Base64.decode? s with
    | some b => .ok b
    | none => .error (.invalid "invalid base 64")
  | j => wrong j "a byte string"

/-- Every member of a name must be one certain text. -/
def expectText (members : List (String × Json)) (name expected : String) : Decoded Unit :=
  (members.filter fun m => m.1 = name).forM fun m => do
    let s ← decodeString m.2
    if s = expected then pure () else .error (.unknownVariant s expected)

/-- Reads a Secret. Its version and kind are compared if they are there. -/
def ofJson : Json → Decoded Secret
  | .object m => do
    expectText m "apiVersion" "v1"
    let data ← field m "data" (Json.decodeTable decodeBytes)
    let immutable ← field m "immutable" Json.decodeBool
    expectText m "kind" "Secret"
    let metadata ← field m "metadata" Meta.ofJson
    let stringData ← field m "stringData" (Json.decodeTable decodeString)
    let type ← field m "type" decodeString
    pure ⟨metadata.getD Meta.empty, data, stringData, type, immutable⟩
  | j => wrong j "Secret"

end Secret

/-- Reads a record from its members, or from an array of its fields. -/
def record (name : String) (ofMembers : List (String × Json) → Decoded α)
    (ofItems : List Json → Decoded α) (fields : Nat) : Json → Decoded α
  | .object members => ofMembers members
  | .array items => do
    let a ← ofItems items
    if fields < items.length then .error (.tooLong items.length) else .ok a
  | j => wrong j ("struct " ++ name)

/-- The item of an array that holds a field, or the error for an array that is too short. -/
def item (name : String) (fields index : Nat) (items : List Json) (f : Json → Decoded α) :
    Decoded α :=
  match items[index]? with
  | some j => f j
  | none => .error (.tooShort index name fields)

def defaultItem (index : Nat) (items : List Json) (f : Json → Decoded α) : Decoded (Option α) :=
  match items[index]? with
  | some j => (f j).map some
  | none => .ok none

namespace ObjectType

def name : ObjectType → String
  | .secret => "secret"

def ofName (s : String) : Decoded ObjectType :=
  if s = "secret" then .ok .secret else .error (.unknownVariant s "secret")

/-- The name of a type, or an object with that name over null. -/
def ofJson : Json → Decoded ObjectType
  | .string s => ofName s
  | .object [(s, .null)] => ofName s
  | .object [(s, j)] => do
    let _ ← ofName s
    wrong j "unit"
  | .object _ => .error .notOneMember
  | j => wrong j "string or map"

end ObjectType

namespace VaultObject

def toJson (o : VaultObject) : Json :=
  .object [("name", .string o.name), ("type", .string o.type.name)]

def ofMembers (m : List (String × Json)) : Decoded VaultObject := do
  let name ← optional m "name" decodeString
  let type ← optional m "type" ObjectType.ofJson
  let name ← require "name" name
  pure ⟨name, type.getD .secret⟩

def ofItems (items : List Json) : Decoded VaultObject := do
  let name ← item "AzureKeyVaultObject" 2 0 items decodeString
  let type ← defaultItem 1 items ObjectType.ofJson
  pure ⟨name, type.getD .secret⟩

def ofJson : Json → Decoded VaultObject := record "AzureKeyVaultObject" ofMembers ofItems 2

end VaultObject

namespace VaultSource

def toJson (v : VaultSource) : Json :=
  .object [("name", .string v.name), ("object", v.object.toJson)]

def ofMembers (m : List (String × Json)) : Decoded VaultSource := do
  let name ← optional m "name" decodeString
  let object ← optional m "object" VaultObject.ofJson
  let name ← require "name" name
  let object ← require "object" object
  pure ⟨name, object⟩

def ofItems (items : List Json) : Decoded VaultSource := do
  let name ← item "AzureKeyVault" 2 0 items decodeString
  let object ← item "AzureKeyVault" 2 1 items VaultObject.ofJson
  pure ⟨name, object⟩

def ofJson : Json → Decoded VaultSource := record "AzureKeyVault" ofMembers ofItems 2

end VaultSource

namespace Output

def defaultType : String := "Opaque"

def toJson (o : Output) : Json :=
  .object
    [("keyName", .string o.keyName), ("name", .string o.name), ("type", .string o.type)]

def ofMembers (m : List (String × Json)) : Decoded Output := do
  let keyName ← optional m "keyName" decodeString
  let name ← optional m "name" decodeString
  let type ← optional m "type" decodeString
  let name ← require "name" name
  let keyName ← require "keyName" keyName
  pure ⟨name, keyName, type.getD defaultType⟩

def ofItems (items : List Json) : Decoded Output := do
  let name ← item "OutputSecret" 3 0 items decodeString
  let keyName ← item "OutputSecret" 3 1 items decodeString
  let type ← defaultItem 2 items decodeString
  pure ⟨name, keyName, type.getD defaultType⟩

def ofJson : Json → Decoded Output := record "OutputSecret" ofMembers ofItems 3

end Output

namespace Binding

namespace Spec

def toJson (s : Spec) : Json :=
  .object [("outputSecret", s.output.toJson), ("vault", s.vault.toJson)]

def ofMembers (m : List (String × Json)) : Decoded Spec := do
  let output ← optional m "outputSecret" Output.ofJson
  let vault ← optional m "vault" VaultSource.ofJson
  let vault ← require "vault" vault
  let output ← require "outputSecret" output
  pure ⟨vault, output⟩

def ofItems (items : List Json) : Decoded Spec := do
  let vault ← item "AzureKeyVaultSecretSpec" 2 0 items VaultSource.ofJson
  let output ← item "AzureKeyVaultSecretSpec" 2 1 items Output.ofJson
  pure ⟨vault, output⟩

def ofJson : Json → Decoded Spec := record "AzureKeyVaultSecretSpec" ofMembers ofItems 2

end Spec

namespace Status

def toJson (s : Status) : Json :=
  .object [("lastAzureUpdate", Json.text? s.lastUpdate), ("secretHash", Json.text? s.secretHash)]

def ofMembers (m : List (String × Json)) : Decoded Status := do
  let lastUpdate ← optional m "lastAzureUpdate" (decodeOption decodeString)
  let secretHash ← optional m "secretHash" (decodeOption decodeString)
  pure ⟨secretHash.join, lastUpdate.join⟩

def ofItems (items : List Json) : Decoded Status := do
  let secretHash ← defaultItem 0 items (decodeOption decodeString)
  let lastUpdate ← defaultItem 1 items (decodeOption decodeString)
  pure ⟨secretHash.join, lastUpdate.join⟩

def ofJson : Json → Decoded Status := record "AzureKeyVaultSecretStatus" ofMembers ofItems 2

end Status

/-- A status is left out when there is none; a status that is there shows all its fields. -/
def toJson (b : Binding) : Json :=
  Json.present
    [("apiVersion", some (.string apiVersion)),
     ("kind", some (.string kind)),
     ("metadata", some b.metadata.toJson),
     ("spec", some b.spec.toJson),
     ("status", b.status.map Status.toJson)]

def ofMembers (m : List (String × Json)) : Decoded Binding := do
  let metadata ← optional m "metadata" Meta.ofJson
  let spec ← optional m "spec" Spec.ofJson
  let status ← optional m "status" (decodeOption Status.ofJson)
  let metadata ← require "metadata" metadata
  let spec ← require "spec" spec
  pure ⟨metadata, spec, status.join⟩

def ofItems (items : List Json) : Decoded Binding := do
  let metadata ← item kind 3 0 items Meta.ofJson
  let spec ← item kind 3 1 items Spec.ofJson
  let status ← item kind 3 2 items (decodeOption Status.ofJson)
  pure ⟨metadata, spec, status⟩

/-- Reads a stored binding. Its version and kind are not compared. -/
def ofJson : Json → Decoded Binding := record kind ofMembers ofItems 3

end Binding

end SecretSync
