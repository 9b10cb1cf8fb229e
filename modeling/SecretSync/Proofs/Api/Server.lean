import SecretSync.Proofs.Api.Address
import SecretSync.Proofs.Pass.Evaluation
import SecretSync.Proofs.Resource.RoundTrip

/-!
An API server that keeps a cluster and applies the rules of the cluster to the requests that reach
it. A write through it ends like the same write to the cluster, with one exception: that a created
Secret is there already comes back under the server's code and not as a conflict.
-/
namespace SecretSync

/-- The texts in which a server tells of errors. -/
abbrev Wording := StoreError → String

namespace ApiServer

inductive Route where
  | secrets (space : String)
  | secret (k : Key)
  | status (k : Key)

def route? (q : HttpRequest) : Option Route :=
  match q.method, Uri.segments q.target with
  | .post, ["", "api", "v1", "namespaces", space, "secrets"] => some (.secrets space)
  | .put, ["", "api", "v1", "namespaces", space, "secrets", name] => some (.secret ⟨space, name⟩)
  | .patch, ["", "apis", group, version, "namespaces", space, plural, name, "status"] =>
    if group = Binding.group ∧ version = Binding.version ∧ plural = Binding.plural then
      some (.status ⟨space, name⟩)
    else none
  | _, _ => none

def failure (code : Nat) (message : String) : HttpResponse :=
  ⟨code, .json (.object
    [("apiVersion", .string "v1"), ("code", .nat code), ("kind", .string "Status"),
      ("message", .string message), ("status", .string "Failure")])⟩

def codeOf : StoreError → Nat
  | .conflict .. => 409
  | .notFound .. => 404
  | _ => 422

def respond (wording : Wording) (toJson : α → Json) (r : Cluster.Answer α) :
    Option HttpResponse × Cluster :=
  match r with
  | (.ok a, c) => (some ⟨200, .json (toJson a)⟩, c)
  | (.error e, c) => (some (failure (codeOf e) (wording e)), c)

def refuse (code : Nat) (message : String) (c : Cluster) : Option HttpResponse × Cluster :=
  (some (failure code message), c)

def withSecret (wording : Wording) (q : HttpRequest) (c : Cluster) (fits : Secret → Bool)
    (call : Secret → Cluster.Answer Secret) : Option HttpResponse × Cluster :=
  match Secret.ofJson q.body with
  | .error e => refuse 400 e.message c
  | .ok s =>
    if fits s then respond wording Secret.toJson (call s)
    else refuse 400 "the object does not belong to the address" c

def patchStatus (wording : Wording) (k : Key) (q : HttpRequest) (c : Cluster) :
    Option HttpResponse × Cluster :=
  match c.bindings.get? k with
  | none => respond wording Binding.toJson (.error (.notFound Binding.kind k.render), c)
  | some stored =>
    match Binding.ofJson (Json.patched stored.toJson q.body) with
    | .error e => refuse 400 e.message c
    | .ok b =>
      respond wording Binding.toJson (c.updateStatus
        { b with metadata := { b.metadata with space := some k.space, name := some k.name } })

def serve (wording : Wording) (q : HttpRequest) (c : Cluster) : Option HttpResponse × Cluster :=
  match route? q with
  | none => refuse 404 "the server could not find the requested resource" c
  | some (.secrets space) =>
    withSecret wording q c (fun s => s.metadata.space = some space) c.createSecret
  | some (.secret k) =>
    withSecret wording q c (fun s => s.metadata.space = some k.space ∧ s.metadata.name = some k.name)
      c.updateSecret
  | some (.status k) => patchStatus wording k q c

/-- A write through the server, unless no request can be made for it. -/
def through (wording : Wording) (x : Except StoreError (Exchange α)) (c : Cluster) :
    Cluster.Answer α :=
  match x with
  | .error e => (.error e, c)
  | .ok x => x.run (serve wording) c

def heardCreating (wording : Wording) : StoreError → StoreError
  | .conflict kind key text => .api 409 (wording (.conflict kind key text))
  | e => e

def heardReplacing (wording : Wording) : StoreError → StoreError
  | .conflict kind key text => .conflict kind key (wording (.conflict kind key text))
  | e => e

variable {wording : Wording} {c : Cluster} {k : Key} {s : Secret} {b : Binding}

theorem ofJson_failure {code : Nat} (small : code < 65536) (message : String) :
    (failure code message).body.json?.map ApiFailure.ofJson = some (.ok ⟨code, message⟩) := by
  have bound : (code : Int) < 65536 := by omega
  have decoded : ApiFailure.decodeCode (.nat code) = .ok code := by
    simp [Json.nat, ApiFailure.decodeCode, bound]
  have found {α : Type} (f : Json → Json.Decoded α) : Json.optional
      [("apiVersion", .string "v1"), ("code", .nat code), ("kind", .string "Status"),
        ("message", .string message), ("status", .string "Failure")] "code" f =
      (f (.nat code)).map some := rfl
  change some (ApiFailure.ofMembers _) = _
  rw [ApiFailure.ofMembers, found, decoded]
  rfl

theorem read_failure (e : StoreError) (decode : Json → Json.Decoded α) :
    (failure (codeOf e) (wording e)).read decode = .error (.api (codeOf e) (wording e)) := by
  have bounds : 400 ≤ codeOf e ∧ codeOf e < 600 := by cases e <;> simp [codeOf]
  have inside : 400 ≤ (failure (codeOf e) (wording e)).status ∧
      (failure (codeOf e) (wording e)).status < 600 := bounds
  rw [HttpResponse.read, if_pos inside, ApiFailure.ofResponse, ofJson_failure (by omega)]

theorem read_respond {toJson : α → Json} {decode : Json → Json.Decoded α} {told : α → α}
    {r : Cluster.Answer α} (back : ∀ a, r.1 = .ok a → decode (toJson a) = .ok (told a)) :
    Exchange.readWith decode (respond wording toJson r).1 =
      (r.1.map told).mapError fun e => .api (codeOf e) (wording e) := by
  obtain ⟨e | a, c⟩ := r
  · exact read_failure e decode
  · have fine : ¬ (400 ≤ 200 ∧ 200 < 600) := by decide
    have read : (Body.json (toJson a)).json?.map decode = some (.ok (told a)) :=
      congrArg some (back a rfl)
    change HttpResponse.read decode ⟨200, .json (toJson a)⟩ = .ok (told a)
    rw [HttpResponse.read, if_neg fine, read]

theorem respond_after (toJson : α → Json) (r : Cluster.Answer α) :
    (respond wording toJson r).2 = r.2 := by
  obtain ⟨e | a, c⟩ := r <;> rfl

theorem withSecret_ok {q : HttpRequest} {fits : Secret → Bool}
    {call : Secret → Cluster.Answer Secret} (body : Secret.ofJson q.body = .ok s) (fit : fits s) :
    withSecret wording q c fits call = respond wording Secret.toJson (call s) := by
  unfold withSecret
  rw [body]
  exact if_pos fit

theorem through_ok {x : Exchange α} {q : HttpRequest} {toJson : α → Json} {r : Cluster.Answer α}
    (request : x.request = some q) (served : serve wording q c = respond wording toJson r) :
    through wording (.ok x) c = (x.read (respond wording toJson r).1, r.2) := by
  rw [through, Exchange.run, request]
  dsimp only
  rw [served, respond_after]

section Creating

theorem serve_secrets (wording : Wording) (c : Cluster) {q : HttpRequest} {space : String}
    (route : route? q = some (.secrets space))
    (body : Secret.ofJson q.body = .ok s) (inside : s.metadata.space = some space) :
    serve wording q c = respond wording Secret.toJson (c.createSecret s) := by
  rw [serve, route]
  exact withSecret_ok body (decide_eq_true inside)

theorem created_told (c : Cluster) (s : Secret) : c.created s.told = (c.created s).told := by
  obtain ⟨_, _, texts, _, _⟩ := s
  cases texts <;> rfl

theorem through_createSecret (calm : c.failures .createSecret = 0)
    (named : s.metadata.name ≠ none) (readable : s.metadata.notes.Readable)
    (addressable : ∀ k, s.metadata.writeKey = .ok k → k.Addressable) :
    through wording (Exchange.createSecret s) c =
      ((c.createSecret s.told).1.mapError (heardCreating wording), (c.createSecret s.told).2) := by
  obtain ⟨name, called⟩ := Option.ne_none_iff_exists'.1 named
  have same : s.told.metadata.writeKey = s.metadata.writeKey := rfl
  cases inside : s.metadata.space with
  | none =>
    have nowhere : s.metadata.writeKey = .error (.missingField "metadata.namespace") := by
      rw [Meta.writeKey, inside]
    rw [Exchange.createSecret, inside, Cluster.createSecret, same, nowhere]
    rfl
  | some space =>
    have ready : s.metadata.writeKey = .ok ⟨space, name⟩ := by rw [Meta.writeKey, inside, called]
    have reaches := Exchange.reaches_secrets (addressable _ ready)
    have request := Exchange.request?_of_reaches reaches .post "application/json" s.toJson
    have route : route? ⟨.post, Exchange.secretsPath space ++ "?", "application/json", s.toJson⟩ =
        some (.secrets space) := by
      rw [route?, reaches.segments]
      rfl
    have served := serve_secrets wording c route (Secret.ofJson_toJson readable) inside
    rw [Exchange.createSecret, inside]
    refine (through_ok request served).trans (Prod.ext ?_ rfl)
    have written := Cluster.createSecret_calm calm (same.trans ready)
    have back : ∀ a, (c.createSecret s.told).1 = .ok a → Secret.ofJson a.toJson = .ok a.told := by
      intro a stored
      obtain ⟨-, -, -, rfl, -⟩ := Cluster.createSecret_ok stored
      exact Secret.ofJson_toJson (Bookkeeping.readable_told readable)
    dsimp only
    rw [read_respond back, written]
    cases c.secrets.get? ⟨space, name⟩ with
    | some _ => rfl
    | none =>
      refine congrArg Except.ok ?_
      rw [created_told, Secret.told_told]

end Creating

section Replacing

theorem error_of_writeKey {m : Meta} {e : StoreError} (unready : m.writeKey = .error e) :
    ∃ field, e = .missingField field := by
  unfold Meta.writeKey at unready
  split at unready
  · cases unready
    exact ⟨_, rfl⟩
  · cases unready
    exact ⟨_, rfl⟩
  · cases unready

theorem serve_secret (wording : Wording) (c : Cluster) {q : HttpRequest}
    (route : route? q = some (.secret k))
    (body : Secret.ofJson q.body = .ok s) (ready : s.metadata.writeKey = .ok k) :
    serve wording q c = respond wording Secret.toJson (c.updateSecret s) := by
  rw [serve, route]
  exact withSecret_ok body (decide_eq_true (Meta.writeKey_ok ready))

theorem replaced_told (c : Cluster) (s existing : Secret) :
    c.replaced s.told existing = (c.replaced s existing).told := by
  obtain ⟨_, _, texts, _, _⟩ := s
  cases texts <;> rfl

theorem through_replaceSecret (calm : c.failures .updateSecret = 0)
    (readable : s.metadata.notes.Readable)
    (addressable : ∀ k, s.metadata.writeKey = .ok k → k.Addressable) :
    through wording (Exchange.replaceSecret s) c =
      ((c.updateSecret s.told).1.mapError (heardReplacing wording),
        (c.updateSecret s.told).2) := by
  have target : Exchange.target s.metadata = s.metadata.writeKey := rfl
  have same : s.told.metadata.writeKey = s.metadata.writeKey := rfl
  cases ready : s.metadata.writeKey with
  | error e =>
    obtain ⟨field, rfl⟩ := error_of_writeKey ready
    rw [Exchange.replaceSecret, Cluster.updateSecret, target, same, ready]
    rfl
  | ok k =>
    have here := addressable k ready
    have reaches := Exchange.reaches_secret here
    have request :=
      Exchange.objectRequest?_of_reaches here reaches .put "application/json" s.toJson
    have route : route? ⟨.put, Exchange.secretPath k ++ "?", "application/json", s.toJson⟩ =
        some (.secret k) := by
      rw [route?, reaches.segments]
      rfl
    have served := serve_secret wording c route (Secret.ofJson_toJson readable) (same.trans ready)
    rw [Exchange.replaceSecret, target, ready]
    refine (through_ok request served).trans (Prod.ext ?_ rfl)
    have written := Cluster.updateSecret_calm calm (same.trans ready)
    have back : ∀ a, (c.updateSecret s.told).1 = .ok a → Secret.ofJson a.toJson = .ok a.told := by
      intro a stored
      obtain ⟨-, -, -, -, -, rfl, -⟩ := Cluster.updateSecret_ok stored
      exact Secret.ofJson_toJson (Bookkeeping.readable_told readable)
    dsimp only
    rw [read_respond back, written]
    cases c.secrets.get? k with
    | none => rfl
    | some existing =>
      dsimp only
      split
      · refine congrArg Except.ok ?_
        rw [replaced_told, Secret.told_told]
      · rfl

end Replacing

section Telling

theorem updateStatus_no_conflict (calm : c.failures .updateStatus = 0) (kind key text : String) :
    (c.updateStatus b).1 ≠ .error (.conflict kind key text) := by
  intro answer
  cases ready : b.metadata.writeKey with
  | error e =>
    obtain ⟨field, rfl⟩ := error_of_writeKey ready
    rw [Cluster.updateStatus, ready] at answer
    cases answer
  | ok k =>
    rw [Cluster.updateStatus_calm calm ready] at answer
    cases there : c.bindings.get? k with
    | none =>
      rw [there] at answer
      cases answer
    | some stored =>
      rw [there] at answer
      cases answer

theorem serve_status (wording : Wording) {q : HttpRequest} (route : route? q = some (.status k))
    (body : q.body = Exchange.statusPatch b) (ready : b.metadata.writeKey = .ok k)
    (calm : c.failures .updateStatus = 0)
    (readable : ∀ stored, c.bindings.get? k = some stored → stored.metadata.notes.Readable) :
    serve wording q c = respond wording Binding.toJson (c.updateStatus b) := by
  rw [serve, route]
  dsimp only
  rw [patchStatus, Cluster.updateStatus_calm calm ready, body]
  cases there : c.bindings.get? k with
  | none => rfl
  | some stored =>
    dsimp only
    rw [Binding.ofJson_patched (readable stored there)]
    dsimp only
    rw [Cluster.updateStatus_calm calm (k := k) rfl, there]
    rfl

theorem through_patchStatus (calm : c.failures .updateStatus = 0)
    (readable : ∀ k stored, b.metadata.writeKey = .ok k → c.bindings.get? k = some stored →
      stored.metadata.notes.Readable)
    (addressable : ∀ k, b.metadata.writeKey = .ok k → k.Addressable) :
    through wording (Exchange.patchStatus b) c =
      ((c.updateStatus b).1.map Binding.told, (c.updateStatus b).2) := by
  have target : Exchange.target b.metadata = b.metadata.writeKey := rfl
  cases ready : b.metadata.writeKey with
  | error e =>
    rw [Exchange.patchStatus, Cluster.updateStatus, target, ready]
    rfl
  | ok k =>
    have here := addressable k ready
    have reaches := Exchange.reaches_status here
    have request := Exchange.objectRequest?_of_reaches here reaches .patch
      "application/merge-patch+json" (Exchange.statusPatch b)
    have route : route? ⟨.patch, Exchange.statusPath k.space k.name ++ "?&fieldManager=" ++
        controllerName, "application/merge-patch+json", Exchange.statusPatch b⟩ =
        some (.status k) := by
      rw [route?, reaches.segments]
      rfl
    have served := serve_status wording route rfl ready calm fun stored => readable k stored ready
    rw [Exchange.patchStatus, target, ready]
    refine (through_ok request served).trans (Prod.ext ?_ rfl)
    have back : ∀ a, (c.updateStatus b).1 = .ok a → Binding.ofJson a.toJson = .ok a.told := by
      intro a stored
      obtain ⟨j, existing, ready, there, rfl, -⟩ := Cluster.updateStatus_ok stored
      exact Binding.ofJson_toJson (readable j existing ready there)
    dsimp only
    rw [read_respond back, Cluster.updateStatus_calm calm ready]
    cases c.bindings.get? k <;> rfl

end Telling

end ApiServer

end SecretSync
