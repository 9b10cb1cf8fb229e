import SecretSync.Controller.Basic
import SecretSync.Watch.Watcher

/-!
An operator: a controller with the watches that feed it. Every event first changes the copy that its
watcher keeps and is then handed on: a binding that is applied is queued, and a Secret that is
applied or deleted queues its owner. Watches that have been started go on for good, also when the
run of the controller that waited for them has ended.
-/
namespace SecretSync

namespace Controller

/-- A deleted binding needs nothing: the Secrets it owns go with it. -/
def onBinding (c : Controller) : WatchEvent Binding → Controller
  | .initApply b => c.enqueue b
  | .apply b => c.enqueue b
  | _ => c

def onSecret (c : Controller) : WatchEvent Secret → Controller
  | .initApply s => c.handleSighting (.live s)
  | .apply s => c.handleSighting (.live s)
  | .delete s =>
    let k := s.metadata.key
    c.handleSighting (.tombstone (k.space ++ "/" ++ k.name) (some s))
  | _ => c

/-- Sets an alarm for a watch some milliseconds from now. -/
def setNews (c : Controller) (millis : Nat) (loop : Nat) (source : Source) : Controller :=
  { c with alarms := c.alarms.set (c.instant + millis) (.news loop source) }

end Controller

/-- The two watches of one run of the controller, which starts when both have listed. -/
structure WatchLoop where
  bindings : Watcher Binding
  secrets : Watcher Secret
  running : Bool
  ready : Bool

namespace WatchLoop

def make (bindings secrets : Feed) : WatchLoop :=
  ⟨Watcher.make .binding bindings, Watcher.make .secret secrets, true, false⟩

/-- Both lists are in for the first time, and someone waits for them. -/
def due (l : WatchLoop) : Bool := l.running && !l.ready && l.bindings.listed && l.secrets.listed

end WatchLoop

structure Operator where
  controller : Controller
  loops : List WatchLoop

namespace Operator

def make (c : Controller) : Operator := ⟨c, []⟩

def onController (o : Operator) (f : Controller → Controller) : Operator :=
  { o with controller := f o.controller }

/-- Lets a watcher go on and hands its events to the controller. -/
def handOn (w : Watcher α) (onEvent : Controller → WatchEvent α → Controller) (loop : Nat)
    (source : Source) (c : Controller) : Watcher α × Controller :=
  let (events, w, wait) := w.wake
  let c := events.foldl onEvent c
  match wait with
  | none => (w, c)
  | some millis => (w, c.setNews millis loop source)

def wake (o : Operator) (loop : Nat) (source : Source) : Operator :=
  match o.loops[loop]?, source with
  | none, _ => o
  | some l, .bindings =>
    let (w, c) := handOn l.bindings Controller.onBinding loop source o.controller
    ⟨c, o.loops.set loop { l with bindings := w }⟩
  | some l, .secrets =>
    let (w, c) := handOn l.secrets Controller.onSecret loop source o.controller
    ⟨c, o.loops.set loop { l with secrets := w }⟩

/-- An alarm of the controller goes off, or a watcher gets what it waits for. -/
def ring (o : Operator) : Alarm → Operator
  | .news loop source => o.wake loop source
  | a => o.onController fun c => c.ring a

/-- Opens the watch that a watcher asks for, if it does. -/
def openWatch (w : Watcher α) (loop : Nat) (source : Source) (c : Controller) :
    Watcher α × Controller :=
  match w.open? with
  | none => (w, c)
  | some (w, millis) => (w, c.setNews millis loop source)

/-- When both lists of a loop are in, the controller starts; its ticker is set before the watches
wait for their lines. -/
def settleLoop (o : Operator) (loop : Nat) : Operator :=
  match o.loops[loop]? with
  | none => o
  | some l =>
    let c := if l.due then o.controller.workOff.launch else o.controller
    let (bindings, c) := openWatch l.bindings loop .bindings c
    let (secrets, c) := openWatch l.secrets loop .secrets c
    ⟨c, o.loops.set loop
      { l with bindings := bindings, secrets := secrets, ready := l.ready || l.due }⟩

/-- What remains to be done at an instant when its alarms have gone off. -/
def settle (o : Operator) : Operator :=
  ((List.range o.loops.length).foldl settleLoop o).onController Controller.workOff

/-- What happens at an instant: the alarms in their order, then the work of the workers. -/
def arrive (o : Operator) (instant : Nat) : Operator :=
  let (due, c) := o.controller.reach instant
  (due.foldl ring { o with controller := c }).settle

/-- Lets time pass. What happens at an instant sets no alarm for the same instant. -/
def advance (o : Operator) (millis : Nat) : Operator :=
  let next? (o : Operator) := o.controller.next?
  let target := o.controller.instant + millis
  (Timers.passTime next? arrive target (millis + 1) o).onController
    fun c => { c with instant := target }

/-- Another loop, whose watchers list at once. -/
def launch (o : Operator) (l : WatchLoop) : Operator :=
  let loop := o.loops.length
  ((({ o with loops := o.loops ++ [l] }).wake loop .bindings).wake loop .secrets).settle

/-- Ends the run of a loop at once. -/
def kill (o : Operator) (loop : Nat) : Operator :=
  match o.loops[loop]? with
  | none => o
  | some l =>
    ⟨if l.ready then o.controller.kill else o.controller,
      o.loops.set loop { l with running := false }⟩

/-- Runs a loop for some milliseconds: what has become of it, and the operator without the run. -/
def watch (o : Operator) (l : WatchLoop) (millis : Nat) : WatchLoop × Operator :=
  let loop := o.loops.length
  let o := (o.launch l).advance millis
  (o.loops[loop]?.getD l, o.kill loop)

end Operator

end SecretSync
