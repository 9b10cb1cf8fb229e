import SecretSync.Api.Uri
import SecretSync.Json.Decode
import SecretSync.Json.Reader
import SecretSync.Store.Error

namespace SecretSync

inductive Method where
  | post
  | put
  | patch
  deriving DecidableEq, Repr

def Method.name : Method → String
  | .post => "POST"
  | .put => "PUT"
  | .patch => "PATCH"

structure HttpRequest where
  method : Method
  target : String
  contentType : String
  body : Json

/-- A body that is a JSON value, or text that may be anything. -/
inductive Body where
  | json (j : Json)
  | text (s : String)

namespace Body

def json? : Body → Option Json
  | .json j => some j
  | .text s => Json.read? s

def raw : Body → String
  | .json j => j.write
  | .text s => s

end Body

structure HttpResponse where
  status : Nat
  body : Body

/-- What an error response says. -/
structure ApiFailure where
  code : Nat
  message : String
  deriving DecidableEq, Repr

namespace ApiFailure

open Json (Decoded decodeString optional require wrong)

def decodeCode : Json → Decoded Nat
  | .whole n => if 0 ≤ n ∧ n < 65536 then .ok n.toNat else wrong (.whole n) "a code"
  | j => wrong j "a code"

def ofMembers (m : List (String × Json)) : Decoded ApiFailure := do
  let code ← optional m "code" decodeCode
  let message ← optional m "message" decodeString
  let _ ← optional m "reason" decodeString
  let status ← optional m "status" decodeString
  let _ ← require "status" status
  let code ← require "code" code
  pure ⟨code, message.getD ""⟩

def ofItems : List Json → Decoded ApiFailure
  | [status, message, reason, code] => do
    let _ ← decodeString status
    let message ← decodeString message
    let _ ← decodeString reason
    pure ⟨← decodeCode code, message⟩
  | items => .error (.tooShort items.length "Status" 4)

/-- Reads a status from its members, or from an array of all of them. -/
def ofJson : Json → Decoded ApiFailure
  | .object m => ofMembers m
  | .array items => ofItems items
  | j => wrong j "a status"

/-- The failure in an error response. A body that is no status is quoted whole. -/
def ofResponse (r : HttpResponse) : ApiFailure :=
  match r.body.json?.map ofJson with
  | some (.ok f) => f
  | _ => ⟨r.status, Text.quote r.body.raw⟩

end ApiFailure

/-- Reads an object from a response, or the error that it tells of. -/
def HttpResponse.read (decode : Json → Json.Decoded α) (r : HttpResponse) : Except StoreError α :=
  if 400 ≤ r.status ∧ r.status < 600 then
    let f := ApiFailure.ofResponse r
    .error (.api f.code f.message)
  else
    match r.body.json?.map decode with
    | some (.ok a) => .ok a
    | _ => .error .transport

end SecretSync
