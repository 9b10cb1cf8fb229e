import SecretSync.Api.Exchange
import SecretSync.Pass.Event

/-!
The recorder of events. An event that repeats a published one, of the same kind and reason and about
the same object, is not published anew: the first one is patched, and keeps its message.
-/
namespace SecretSync

/-- What an event says about the object that it is about. -/
structure Subject where
  name : Option String
  space : Option String
  uid : Option String
  deriving DecidableEq, Repr

namespace Subject

def ofMeta (m : Meta) : Subject := ⟨m.name, m.space, m.uid⟩

def toJson (s : Subject) : Json :=
  Json.present
    [("apiVersion", some (.string Binding.apiVersion)),
     ("kind", some (.string Binding.kind)),
     ("name", s.name.map .string),
     ("namespace", s.space.map .string),
     ("uid", s.uid.map .string)]

end Subject

/-- An event under a name of its own. -/
structure Publication where
  name : String
  subject : Subject
  event : Event

namespace Publication

open Json (Decoded decodeString field require)

def toJson (p : Publication) (instanceName : String) : Json :=
  .object
    [("action", .string "Reconcile"),
     ("note", .string p.event.message),
     ("reason", .string p.event.reason),
     ("regarding", p.subject.toJson),
     ("reportingController", .string controllerName),
     ("reportingInstance", .string instanceName),
     ("type", .string p.event.severity.name)]

/-- A record of which only the form is looked at. -/
def form (check : List (String × Json) → Decoded Unit) : Json → Decoded Unit
  | .object m => check m
  | j => Json.wrong j "a record"

def texts (m : List (String × Json)) (names : List String) : Decoded Unit :=
  names.forM fun name => do let _ ← field m name decodeString

def checkReference : Json → Decoded Unit :=
  form fun m =>
    texts m ["apiVersion", "fieldPath", "kind", "name", "namespace", "resourceVersion", "uid"]

/-- A series has a last time. -/
def checkSeries : Json → Decoded Unit :=
  form fun m => do
    let _ ← field m "count" (Json.decodeInt 31)
    let last ← field m "lastObservedTime" Moment.ofJson
    let _ ← require "lastObservedTime" last

/-- The form of an event that the API server gives back. -/
def check : Json → Decoded Unit :=
  form fun m => do
    Secret.expectText m "apiVersion" "events.k8s.io/v1"
    Secret.expectText m "kind" "Event"
    texts m ["action", "note", "reason", "reportingController", "reportingInstance", "type"]
    let _ ← field m "deprecatedCount" (Json.decodeInt 31)
    let _ ← field m "deprecatedFirstTimestamp" Moment.ofJson
    let _ ← field m "deprecatedLastTimestamp" Moment.ofJson
    let _ ← field m "deprecatedSource" (form fun source => texts source ["component", "host"])
    let _ ← field m "eventTime" Moment.ofJson
    let _ ← field m "metadata" Meta.ofJson
    let _ ← field m "regarding" checkReference
    let _ ← field m "related" checkReference
    let _ ← field m "series" checkSeries

end Publication

structure Recorder where
  instanceName : String
  published : List Publication

namespace Recorder

def make (instanceName : String) : Recorder := ⟨instanceName, []⟩

/-- The publication that an event repeats. -/
def known? (r : Recorder) (subject : Subject) (e : Event) : Option Publication :=
  r.published.find? fun p =>
    p.subject = subject ∧ p.event.severity = e.severity ∧ p.event.reason = e.reason

/-- The name of the next publication: that of its subject and a serial number of 16 digits. -/
def nextName (r : Recorder) (subject : Subject) : String :=
  let digits := (Nat.toDigits 16 r.published.length).leftpad 16 '0'
  subject.name.getD controllerName ++ "." ++ String.ofList digits

def eventsPath (space : String) : String :=
  "/apis/events.k8s.io/v1/namespaces/" ++ space ++ "/events"

def path (p : Publication) : String := eventsPath (p.subject.space.getD "default")

def create (r : Recorder) (p : Publication) : Exchange Unit :=
  ⟨Exchange.request? .post (path p ++ "?") "application/json" (p.toJson r.instanceName),
    Exchange.readWith Publication.check⟩

def repeated (r : Recorder) (p : Publication) : Exchange Unit :=
  ⟨Exchange.request? .patch (path p ++ "/" ++ p.name ++ "?") "application/merge-patch+json"
      (p.toJson r.instanceName),
    Exchange.readWith Publication.check⟩

/-- Records an event. Whether that succeeds is not told; an event counts as published when the
answer has the form of an event. -/
def record (r : Recorder) (subject : Subject) (e : Event)
    (send : HttpRequest → σ → Option HttpResponse × σ) (s : σ) : Recorder × σ :=
  match r.known? subject e with
  | some p => (r, ((r.repeated p).run send s).2)
  | none =>
    let p : Publication := ⟨r.nextName subject, subject, e⟩
    match (r.create p).run send s with
    | (.ok _, s) => ({ r with published := r.published ++ [p] }, s)
    | (.error _, s) => (r, s)

end Recorder

end SecretSync
