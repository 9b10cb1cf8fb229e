import SecretSync.Json.Basic
import SecretSync.Resource.Key
import SecretSync.Time.Moment

namespace SecretSync

structure OwnerReference where
  apiVersion : String
  kind : String
  name : String
  uid : String
  controller : Option Bool
  blockOwnerDeletion : Option Bool
  deriving DecidableEq

/-- The fields of an object that a client has written. -/
structure ManagedFields where
  apiVersion : Option String
  fieldsType : Option String
  fields : Option Json
  manager : Option String
  operation : Option String
  subresource : Option String
  time : Option Moment
  deriving DecidableEq

/-- What the API server notes about an object. It is kept and otherwise not looked at. -/
structure Bookkeeping where
  created : Option Moment
  deletionGraceSeconds : Option Int
  deleted : Option Moment
  finalizers : Option (List String)
  generateName : Option String
  generation : Option Int
  managedFields : Option (List ManagedFields)
  selfLink : Option String
  deriving DecidableEq

def Bookkeeping.empty : Bookkeeping := ⟨none, none, none, none, none, none, none, none⟩

structure Meta where
  name : Option String
  space : Option String
  uid : Option String
  resourceVersion : Option String
  labels : Option (Table String String)
  annotations : Option (Table String String)
  owners : Option (List OwnerReference)
  notes : Bookkeeping
  deriving DecidableEq

namespace Meta

def empty : Meta := ⟨none, none, none, none, none, none, none, .empty⟩

instance : Inhabited Meta := ⟨empty⟩

/-- Absent parts are empty. -/
def key (m : Meta) : Key := ⟨m.space.getD "", m.name.getD ""⟩

/-- The first owner that is marked as the controller. -/
def controller? (m : Meta) : Option OwnerReference :=
  (m.owners.getD []).find? fun o => o.controller = some true

end Meta

end SecretSync
