import SecretSync.Watch.Notice

/-!
A watcher of one kind of object. It lists all of them, then reads the lines of a watch, and starts
over when it has lost its place. After an error it waits before it goes on.
-/
namespace SecretSync

/-- What the API server has for a watcher: some lists that fail, then a list of objects as often as
it is asked for, and for the first watch some lines, which all come after a while. -/
structure Feed where
  failedLists : Nat
  objects : List Json
  lines : List Json
  delayMillis : Nat

/-- What a watcher does next. Between its list and the wait for lines it asks for a watch. Errors in
a row are counted. -/
inductive Watcher.Phase where
  | listing
  | asking
  | following (lines : List Json) (errors : Nat)

structure Watcher (α : Type) where
  kind : ObjectKind α
  feed : Feed
  phase : Watcher.Phase
  copy : Reflector α
  listed : Bool

namespace Watcher

def make (kind : ObjectKind α) (feed : Feed) : Watcher α :=
  ⟨kind, feed, .listing, Reflector.empty, false⟩

/-- The wait after an error that follows some others: 0.8 seconds, doubled each time and from then
on a little more, at most 30. -/
def retryMillis (errors : Nat) : Nat :=
  if errors = 0 then 800 else min (800 * Nat.pow 2 errors + 1) 30000

/-- What comes of reading: events, where it stopped, and how long to wait if it was at an error. -/
structure Turn (α : Type) where
  events : List (WatchEvent α)
  phase : Phase
  wait : Option Nat

/-- Reads lines up to an error. -/
def follow (k : ObjectKind α) : List Json → Nat → Turn α
  | [], errors => ⟨[], .following [] errors, none⟩
  | line :: rest, errors =>
    match Notice.ofLine k line with
    | .change e =>
      let t := follow k rest 0
      { t with events := e :: t.events }
    | .progress => follow k rest errors
    | .fault => ⟨[], .following rest (errors + 1), some (retryMillis errors)⟩
    | .lost => ⟨[], .listing, some (retryMillis errors)⟩

/-- Asks for a list. One object that cannot be read spoils it. That a list was asked for is an event
by itself, so no errors come in a row here. -/
def list (k : ObjectKind α) (f : Feed) : Turn α × Feed :=
  if f.failedLists = 0 then
    match f.objects.mapM k.decode with
    | .ok items => (⟨.init :: items.map .initApply ++ [.initDone], .asking, none⟩, f)
    | .error _ => (⟨[.init], .listing, some (retryMillis 0)⟩, f)
  else
    (⟨[.init], .listing, some (retryMillis 0)⟩, { f with failedLists := f.failedLists - 1 })

def turn (w : Watcher α) : Turn α × Feed :=
  match w.phase with
  | .listing => list w.kind w.feed
  | .asking => (⟨[], .asking, none⟩, w.feed)
  | .following lines errors => (follow w.kind lines errors, w.feed)

def see (w : Watcher α) (e : WatchEvent α) : Watcher α :=
  { w with
    copy := w.copy.see w.kind.metadata e
    listed := match e with
      | .initDone => true
      | _ => w.listed }

/-- Goes on as far as it can: the events on the way, the watcher after them, and how long it
waits. -/
def wake (w : Watcher α) : List (WatchEvent α) × Watcher α × Option Nat :=
  let (t, feed) := w.turn
  (t.events, { t.events.foldl see w with phase := t.phase, feed := feed }, t.wait)

/-- Opens the watch that is asked for, and tells how long its lines take. Later watches have
none. -/
def open? (w : Watcher α) : Option (Watcher α × Nat) :=
  match w.phase with
  | .asking =>
    some ({ w with phase := .following w.feed.lines 0, feed := { w.feed with lines := [] } },
      w.feed.delayMillis)
  | _ => none

end Watcher

end SecretSync
