import SecretSync.Api.Http
import SecretSync.Controller.Settings
import SecretSync.Resource.Codec

/-!
The writes of the stores as single exchanges with the API server. Creating keeps the server's error
code; replacing a Secret and writing a status give a conflict and a missing object their own errors.
-/
namespace SecretSync

/-- A request, unless none can be made, and how its response is read. `none` stands for no
response at all. -/
structure Exchange (α : Type) where
  request : Option HttpRequest
  read : Option HttpResponse → Except StoreError α

namespace Exchange

def run (e : Exchange α) (send : HttpRequest → σ → Option HttpResponse × σ) (s : σ) :
    Except StoreError α × σ :=
  match e.request with
  | none => (e.read none, s)
  | some q =>
    let (r, s) := send q s
    (e.read r, s)

def readWith (decode : Json → Json.Decoded α) : Option HttpResponse → Except StoreError α
  | none => .error .transport
  | some r => r.read decode

/-- A request, if its target can be sent. -/
def request? (method : Method) (target contentType : String) (body : Json) : Option HttpRequest :=
  (Uri.parse target).toOption.map fun u => ⟨method, u.sent, contentType, body⟩

def secretsPath (space : String) : String := "/api/v1/namespaces/" ++ space ++ "/secrets"

def secretPath (k : Key) : String := secretsPath k.space ++ "/" ++ k.name

def statusPath (space name : String) : String :=
  "/apis/" ++ Binding.apiVersion ++ "/namespaces/" ++ space ++ "/azurekeyvaultsecrets/" ++ name ++
    "/status"

def createSecret (s : Secret) : Except StoreError (Exchange Secret) :=
  match s.metadata.space with
  | none => .error (.missingField "metadata.namespace")
  | some space =>
    .ok ⟨request? .post (secretsPath space ++ "?") "application/json" s.toJson,
      readWith Secret.ofJson⟩

/-- A conflict and a missing object by the names of the store. -/
def named (kind key : String) (conflicts : Bool) : Except StoreError α → Except StoreError α
  | .error (.api code message) =>
    if code = 409 ∧ conflicts = true then .error (.conflict kind key message)
    else if code = 404 then .error (.notFound kind key)
    else .error (.api code message)
  | r => r

/-- The parts of a key that a write needs. -/
def target (m : Meta) : Except StoreError Key :=
  match m.space, m.name with
  | none, _ => .error (.missingField "metadata.namespace")
  | some _, none => .error (.missingField "metadata.name")
  | some space, some name => .ok ⟨space, name⟩

/-- A request for one object, which must have a name. -/
def objectRequest? (k : Key) (method : Method) (path contentType : String) (body : Json) :
    Option HttpRequest :=
  if k.name = "" then none else request? method path contentType body

def replaceSecret (s : Secret) : Except StoreError (Exchange Secret) := do
  let k ← target s.metadata
  pure
    ⟨objectRequest? k .put (secretPath k ++ "?") "application/json" s.toJson,
      fun r => named "Secret" k.render true (readWith Secret.ofJson r)⟩

/-- The patch that writes a status: no status takes the old one away. -/
def statusPatch (b : Binding) : Json :=
  .object [("status", (b.status.map Binding.Status.toJson).getD .null)]

def patchStatus (b : Binding) : Except StoreError (Exchange Binding) := do
  let k ← target b.metadata
  pure
    ⟨objectRequest? k .patch
        (statusPath k.space k.name ++ "?&fieldManager=" ++ controllerName)
        "application/merge-patch+json" (statusPatch b),
      fun r => named Binding.kind k.render false (readWith Binding.ofJson r)⟩

end Exchange

end SecretSync
