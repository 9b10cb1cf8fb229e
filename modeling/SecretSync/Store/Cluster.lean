import SecretSync.Resource.Binding
import SecretSync.Store.Error

/-!
A cluster in memory: Secrets and bindings under their keys. Every write gets a new resource
version, an update must name the version it replaces, and a status write leaves the rest of a
binding as it is. Calls can be made to fail; successful writes are kept in a journal.
-/
namespace SecretSync

inductive Write where
  | createSecret (key : Key)
  | updateSecret (key : Key)
  | updateStatus (key : Key) (secretHash : Option String)
  deriving DecidableEq, Repr

inductive Operation where
  | getSecret
  | createSecret
  | updateSecret
  | getBinding
  | listBindings
  | updateStatus
  deriving DecidableEq, Repr

def Operation.name : Operation → String
  | .getSecret => "GetSecret"
  | .createSecret => "CreateSecret"
  | .updateSecret => "UpdateSecret"
  | .getBinding => "GetRef"
  | .listBindings => "ListRefs"
  | .updateStatus => "UpdateStatus"

/-- The key of an object to be written, which must name both parts. -/
def Meta.writeKey (m : Meta) : Except StoreError Key :=
  match m.space, m.name with
  | none, _ => .error (.missingField "metadata.namespace")
  | some _, none => .error (.missingField "metadata.name")
  | some space, some name => .ok ⟨space, name⟩

structure Cluster where
  secrets : Table Key Secret
  bindings : Table Key Binding
  journal : List Write
  failures : Operation → Nat
  versions : Nat
  identities : Nat

namespace Cluster

abbrev Answer (α : Type) := Except StoreError α × Cluster

def empty : Cluster := ⟨Table.empty, Table.empty, [], fun _ => 0, 0, 0⟩

instance : Inhabited Cluster := ⟨empty⟩

/-- The next calls of an operation fail, as many as told. -/
def failNext (c : Cluster) (op : Operation) (times : Nat) : Cluster :=
  { c with failures := fun o => if o = op then times else c.failures o }

/-- Answers a call, or lets it fail while failures of its operation are left. -/
def attempt (c : Cluster) (op : Operation) (call : Answer α) : Answer α :=
  if 0 < c.failures op then
    (.error (.unavailable ("injected failure for " ++ op.name)), c.failNext op (c.failures op - 1))
  else call

def nextVersion (c : Cluster) : String := toString (c.versions + 1)

def nextIdentity (c : Cluster) : String := "uid-" ++ toString (c.identities + 1)

def drawVersion (c : Cluster) : String × Cluster :=
  (c.nextVersion, { c with versions := c.versions + 1 })

/-- A binding with an identity. One without gets a new one. -/
def identify (c : Cluster) (b : Binding) : Binding × Cluster :=
  ({ b with
      metadata := { b.metadata with uid := some (b.metadata.uid.getD c.nextIdentity) } },
    { c with identities := if b.metadata.uid.isNone then c.identities + 1 else c.identities })

/-- Adds or replaces a binding, at a version that was drawn for it. -/
def storeBinding (c : Cluster) (b : Binding) (version : String) : Binding × Cluster :=
  let b : Binding := { b with metadata := { b.metadata with resourceVersion := some version } }
  (b, { c with bindings := c.bindings.insert b.metadata.key b })

/-- The identity and the version are drawn first, and the binding is stored after that. -/
def insertBinding (c : Cluster) (b : Binding) : Binding × Cluster :=
  let (b, c) := c.identify b
  let (version, c) := c.drawVersion
  c.storeBinding b version

def removeBinding (c : Cluster) (k : Key) : Option Binding × Cluster :=
  (c.bindings.get? k, { c with bindings := c.bindings.erase k })

/-- Adds or replaces a Secret as it is, with its texts folded, at a version that was drawn for it. -/
def storeSecret (c : Cluster) (s : Secret) (version : String) : Secret × Cluster :=
  let s : Secret :=
    { s.folded with metadata := { s.metadata with resourceVersion := some version } }
  (s, { c with secrets := c.secrets.insert s.metadata.key s })

def insertSecret (c : Cluster) (s : Secret) : Secret × Cluster :=
  let (version, c) := c.drawVersion
  c.storeSecret s version

def removeSecret (c : Cluster) (k : Key) : Option Secret × Cluster :=
  (c.secrets.get? k, { c with secrets := c.secrets.erase k })

def clearJournal (c : Cluster) : Cluster := { c with journal := [] }

def getSecret (c : Cluster) (k : Key) : Answer (Option Secret) :=
  c.attempt .getSecret (.ok (c.secrets.get? k), c)

def getBinding (c : Cluster) (k : Key) : Answer (Option Binding) :=
  c.attempt .getBinding (.ok (c.bindings.get? k), c)

/-- All bindings in the order of their keys. -/
def listBindings (c : Cluster) : Answer (List Binding) :=
  c.attempt .listBindings (.ok c.bindings.values, c)

/-- A Secret as it is stored when it is created: folded, with a version and an identity. -/
def created (c : Cluster) (s : Secret) : Secret :=
  { s.folded with
    metadata :=
      { s.metadata with resourceVersion := some c.nextVersion, uid := some c.nextIdentity } }

def createSecret (c : Cluster) (s : Secret) : Answer Secret :=
  match s.metadata.writeKey with
  | .error e => (.error e, c)
  | .ok k =>
    c.attempt .createSecret <|
      match c.secrets.get? k with
      | some _ => (.error (.conflict "Secret" k.render "already exists"), c)
      | none =>
        (.ok (c.created s),
          { c with
            secrets := c.secrets.insert k (c.created s)
            versions := c.versions + 1
            identities := c.identities + 1
            journal := c.journal ++ [.createSecret k] })

/-- A Secret as it is stored over another: only its texts, with the identity of the other. -/
def replaced (c : Cluster) (s existing : Secret) : Secret :=
  { ({ s with data := none } : Secret).folded with
    metadata :=
      { s.metadata with
        resourceVersion := some c.nextVersion
        uid := existing.metadata.uid } }

/-- Whether a Secret may replace another: it names no version, or the version of the other. -/
def fresh (s existing : Secret) : Bool :=
  match s.metadata.resourceVersion with
  | none => true
  | some version => existing.metadata.resourceVersion = some version

def updateSecret (c : Cluster) (s : Secret) : Answer Secret :=
  match s.metadata.writeKey with
  | .error e => (.error e, c)
  | .ok k =>
    c.attempt .updateSecret <|
      match c.secrets.get? k with
      | none => (.error (.notFound "Secret" k.render), c)
      | some existing =>
        if fresh s existing then
          (.ok (c.replaced s existing),
            { c with
              secrets := c.secrets.insert k (c.replaced s existing)
              versions := c.versions + 1
              journal := c.journal ++ [.updateSecret k] })
        else (.error (.conflict "Secret" k.render "the object has been modified"), c)

/-- A stored binding with the status of another, at a new version. -/
def restated (c : Cluster) (b existing : Binding) : Binding :=
  { existing with
    status := b.status
    metadata := { existing.metadata with resourceVersion := some c.nextVersion } }

def updateStatus (c : Cluster) (b : Binding) : Answer Binding :=
  match b.metadata.writeKey with
  | .error e => (.error e, c)
  | .ok k =>
    c.attempt .updateStatus <|
      match c.bindings.get? k with
      | none => (.error (.notFound Binding.kind k.render), c)
      | some existing =>
        (.ok (c.restated b existing),
          { c with
            bindings := c.bindings.insert k (c.restated b existing)
            versions := c.versions + 1
            journal := c.journal ++ [.updateStatus k (b.status.bind Binding.Status.secretHash)] })

end Cluster

end SecretSync
