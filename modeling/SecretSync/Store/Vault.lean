import SecretSync.Resource.Binding

namespace SecretSync

inductive VaultError where
  | unavailable (vault : String)
  | notFound (object vault : String)
  | failed (text : String)
  deriving DecidableEq, Repr

def VaultError.message : VaultError → String
  | .unavailable vault => "vault '" ++ vault ++ "' unavailable"
  | .notFound object vault => "secret '" ++ object ++ "' not found in vault '" ++ vault ++ "'"
  | .failed text => text

structure Vault where
  values : Table (String × String) String
  failures : Nat
  reads : Nat
  deriving DecidableEq

namespace Vault

def empty : Vault := ⟨Table.empty, 0, 0⟩

instance : Inhabited Vault := ⟨empty⟩

def set (v : Vault) (vault object value : String) : Vault :=
  { v with values := v.values.insert (vault, object) value }

def remove (v : Vault) (vault object : String) : Vault :=
  { v with values := v.values.erase (vault, object) }

/-- The next reads fail, as many as told. -/
def failNext (v : Vault) (times : Nat) : Vault := { v with failures := times }

/-- The value a binding points at, if reads do not fail. -/
def value? (v : Vault) (b : Binding) : Option String :=
  v.values.get? (b.spec.vault.name, b.spec.vault.object.name)

/-- Reads the value a binding points at. Failed reads count too. -/
def read (v : Vault) (b : Binding) : Except VaultError String × Vault :=
  let v := { v with reads := v.reads + 1 }
  if 0 < v.failures then
    (.error (.unavailable b.spec.vault.name), { v with failures := v.failures - 1 })
  else
    match v.value? b with
    | some value => (.ok value, v)
    | none => (.error (.notFound b.spec.vault.object.name b.spec.vault.name), v)

/-- The address of a vault. A name that is an address already stays. -/
def url (name : String) : String :=
  if "https://".toList.isPrefixOf name.toList then name
  else "https://" ++ name ++ ".vault.azure.net/"

end Vault

end SecretSync
