import SecretSync.Digest.Md5
import SecretSync.Resource.Secret
import SecretSync.Time.Moment

namespace SecretSync

inductive ObjectType where
  | secret
  deriving DecidableEq, Repr

structure VaultObject where
  name : String
  type : ObjectType
  deriving DecidableEq, Repr

structure VaultSource where
  name : String
  object : VaultObject
  deriving DecidableEq, Repr

structure Output where
  name : String
  keyName : String
  type : String
  deriving DecidableEq, Repr

namespace Binding

structure Spec where
  vault : VaultSource
  output : Output
  deriving DecidableEq, Repr

/-- The digest of the value last written, and when it was written. -/
structure Status where
  secretHash : Option String
  lastUpdate : Option String
  deriving DecidableEq, Repr

def Status.empty : Status := ⟨none, none⟩

def group : String := "azure-keyvault-controller.spv.no"

def version : String := "v1alpha1"

def apiVersion : String := group ++ "/" ++ version

def kind : String := "AzureKeyVaultSecret"

end Binding

structure Binding where
  metadata : Meta
  spec : Binding.Spec
  status : Option Binding.Status
  deriving DecidableEq

namespace Binding

def key (b : Binding) : String := b.metadata.key.render

/-- The digest in the status, empty when nothing was written yet. -/
def observedHash (b : Binding) : String := (b.status.bind Status.secretHash).getD ""

def outputKey (b : Binding) : Key := ⟨b.metadata.space.getD "", b.spec.output.name⟩

/-- The owner reference of a binding that has a name and an identity. -/
def ownerReference? (b : Binding) : Option OwnerReference := do
  let name ← b.metadata.name
  let uid ← b.metadata.uid
  pure ⟨apiVersion, kind, name, uid, some true, none⟩

/-- The Secret to write for a value: owned by the binding, with the value as its only text. -/
def desired (b : Binding) (owner : OwnerReference) (value : String) : Secret where
  metadata :=
    { Meta.empty with
      name := some b.spec.output.name
      space := b.metadata.space
      owners := some [owner] }
  data := none
  stringData := some (Table.empty.insert b.spec.output.keyName value)
  type := some b.spec.output.type
  immutable := none

/-- The status after a Secret was written at a moment. -/
def observe (b : Binding) (s : Secret) (now : Moment) : Status :=
  ⟨some (Digest.contentHash ((s.value? b.spec.output.keyName).getD "")), some now.rfc3339⟩

end Binding

/-- Whether a controller reference names the identity of a binding. -/
def Meta.controlledBy (m : Meta) (b : Binding) : Bool :=
  match m.controller?, b.metadata.uid with
  | some owner, some uid => owner.uid = uid
  | _, _ => false

end SecretSync
