import SecretSync.Api.Http
import SecretSync.Resource.Codec
import SecretSync.Watch.Reflector

namespace SecretSync

open Json (Decoded decodeString field optional require)

/-- How objects of one kind are read, and what they say about themselves. -/
structure ObjectKind (α : Type) where
  decode : Json → Decoded α
  metadata : α → Meta

namespace ObjectKind

def binding : ObjectKind Binding := ⟨Binding.ofJson, Binding.metadata⟩

def secret : ObjectKind Secret := ⟨Secret.ofJson, Secret.metadata⟩

end ObjectKind

/-- What a line means to the one who watches. After a fault the watch goes on; when the place in the
history is lost, everything has to be listed again. -/
inductive Notice (α : Type) where
  | change (e : WatchEvent α)
  | progress
  | fault
  | lost

namespace Notice

/-- A changed object, which has to say what version it is. -/
def ofObject (k : ObjectKind α) (event : α → WatchEvent α) (j : Json) : Decoded (Notice α) := do
  let a ← k.decode j
  if (k.metadata a).resourceVersion.getD "" = "" then pure .lost else pure (.change (event a))

/-- How far a watch has come: a version without an object. -/
def ofBookmark : Json → Decoded (Notice α)
  | .object m => do
    let _ ← require "apiVersion" (← optional m "apiVersion" decodeString)
    let _ ← require "kind" (← optional m "kind" decodeString)
    match ← require "metadata" (← optional m "metadata" pure) with
    | .object m =>
      let _ ← require "resourceVersion" (← optional m "resourceVersion" decodeString)
      let _ ← optional m "annotations" (Json.decodeTable decodeString)
      pure .progress
    | j => Json.wrong j "metadata"
  | j => Json.wrong j "a bookmark"

/-- An error of the server. History that is gone cannot be told any more. -/
def ofFailure (j : Json) : Decoded (Notice α) := do
  let f ← ApiFailure.ofJson j
  if f.code = 410 then pure .lost else pure .fault

def ofType (k : ObjectKind α) (type : String) (object : Json) : Decoded (Notice α) :=
  match type with
  | "ADDED" => ofObject k .apply object
  | "MODIFIED" => ofObject k .apply object
  | "DELETED" => ofObject k .delete object
  | "BOOKMARK" => ofBookmark object
  | "ERROR" => ofFailure object
  | _ => .error (.unknownVariant type "ADDED")

def read (k : ObjectKind α) : Json → Decoded (Notice α)
  | .object m => do
    let type ← require "type" (← optional m "type" decodeString)
    let object ← require "object" (← optional m "object" pure)
    ofType k type object
  | j => Json.wrong j "a line of a watch"

/-- A line that cannot be read is a fault. -/
def ofLine (k : ObjectKind α) (j : Json) : Notice α :=
  match read k j with
  | .ok n => n
  | .error _ => .fault

end Notice

end SecretSync
