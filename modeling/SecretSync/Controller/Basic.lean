import SecretSync.Controller.Schedule
import SecretSync.Controller.Settings
import SecretSync.Pass.World
import SecretSync.Queue.Station
import SecretSync.Time.Timers

/-!
The controller: a queue for spec syncs, fed by changes, and one for vault polls, fed by a ticker.
What one worker does with one key comes in three parts, taking the key, running its pass and
finishing it, so that several workers can be at it in any order.
-/
namespace SecretSync

inductive Lane where
  | spec
  | poll
  deriving DecidableEq, Repr

namespace Lane

def name : Lane → String
  | .spec => "spec_sync"
  | .poll => "vault_poll"

def pass (key : String) : Lane → Pass Unit
  | .spec => Pass.specSync key
  | .poll => Pass.vaultPoll key

end Lane

/-- What a watch tells about. -/
inductive Source where
  | bindings
  | secrets
  deriving DecidableEq, Repr

/-- What a timer of a controller stands for: a run looks again at what is due for a poll, a key
comes back, or one of the watches beside the controller can go on. -/
inductive Alarm where
  | tick (run : Nat)
  | add (lane : Lane) (key : String)
  | news (loop : Nat) (source : Source)
  deriving DecidableEq, Repr

/-- `instant` is in milliseconds. A run has workers and a ticker; `runs` are going on, numbered from
zero. `called` are the lanes whose workers have something to look at, in the order of the calls. -/
structure Controller where
  world : World
  specs : Station
  polls : Station
  schedule : Schedule
  alarms : Timers Alarm
  instant : Nat
  workers : Nat
  maxRetries : Nat
  runs : Nat
  called : List Lane

namespace Controller

def make (s : Settings) (world : World) : Controller where
  world := world
  specs := Station.make Lane.spec.name s.backoff
  polls := Station.make Lane.poll.name s.backoff
  schedule := Schedule.make s.pollInterval s.slowPollInterval s.maxFailures.toNat
  alarms := Timers.empty
  instant := 0
  workers := max s.workers.toNat 1
  maxRetries := s.maxRetries.toNat
  runs := 0
  called := []

def station (c : Controller) : Lane → Station
  | .spec => c.specs
  | .poll => c.polls

def setStation (c : Controller) (lane : Lane) (s : Station) : Controller :=
  match lane with
  | .spec => { c with specs := s }
  | .poll => { c with polls := s }

def setMetrics (c : Controller) (m : Metrics) : Controller :=
  { c with world := { c.world with metrics := m } }

/-- Changes the station of a lane, which may report to the metrics. -/
def change (c : Controller) (lane : Lane) (f : Station → Metrics → Station × Metrics) :
    Controller :=
  let (s, m) := f (c.station lane) c.world.metrics
  (c.setStation lane s).setMetrics m

/-- Calls the workers of a lane, if there are any. -/
def call (c : Controller) (lane : Lane) : Controller :=
  if c.runs = 0 ∨ lane ∈ c.called then c else { c with called := c.called ++ [lane] }

def add (c : Controller) (lane : Lane) (key : String) : Controller :=
  (c.change lane fun s m => s.add key m).call lane

def enqueue (c : Controller) (b : Binding) : Controller := c.add .spec b.key

def runPass (c : Controller) (p : Pass α) : Except PassError α × Controller :=
  let (r, w) := c.world.run p
  (r, { c with world := w })

/-- Queues the owner of a watched Secret. A sighting that shows no object is dropped. -/
def handleSighting (c : Controller) (e : Sighting) : Controller :=
  match c.runPass (Pass.resolve e) with
  | (.ok (some owner), c) => c.enqueue owner
  | (_, c) => c

/-- Queues every binding that is due for a vault poll. -/
def enqueueDue (c : Controller) : Controller :=
  match c.world.call Cluster.listBindings with
  | (.error _, w) => { c with world := w }
  | (.ok bindings, w) =>
    let (due, schedule) := c.schedule.due (bindings.map Binding.key) (c.instant * 1000000)
    due.foldl (fun (c : Controller) key => c.add .poll key)
      { c with world := w, schedule := schedule }

def take? (c : Controller) (lane : Lane) : Option (String × Controller) :=
  ((c.station lane).take? c.world.metrics).map fun (key, s, m) =>
    (key, (c.setStation lane s).setMetrics m)

/-- Takes note of the end of a poll. Retries in between do not count. -/
def recordPoll (c : Controller) (lane : Lane) (key : String) (outcome : Outcome) : Controller :=
  match lane, outcome with
  | .poll, .synced => { c with schedule := c.schedule.record key true }
  | .poll, .dropped => { c with schedule := c.schedule.record key false }
  | _, _ => c

def setAlarm (c : Controller) (delay : Span) (a : Alarm) : Controller :=
  { c with alarms := c.alarms.set (Timers.deadline c.instant delay) a }

/-- Lets a key come back after a delay, if there is one. -/
def addLater (c : Controller) (lane : Lane) (key : String) : Option Span → Controller
  | none => c
  | some delay => c.setAlarm delay (.add lane key)

/-- Decides what becomes of a key after its pass. -/
def settle (c : Controller) (lane : Lane) (key : String) (result : Except PassError Unit) :
    Outcome × Controller :=
  let m := c.world.metrics.observeDuration lane.name Binary64.zero
  let (outcome, delay, s, m) := (c.station lane).settle c.maxRetries key result m
  (outcome, ((c.setStation lane s).setMetrics m).addLater lane key delay)

/-- A worker is done with a key: its result is settled, then the key may be handed out again. -/
def finish (c : Controller) (lane : Lane) (key : String) (result : Except PassError Unit) :
    Outcome × Controller :=
  let (outcome, c) := c.settle lane key result
  (outcome, (c.recordPoll lane key outcome).change lane fun s m => s.finish key m)

/-- What a worker did at one go. -/
inductive Worked where
  | outcome (o : Outcome)
  | pending
  | closed
  deriving DecidableEq, Repr

/-- A worker takes a key, runs its pass and finishes it, if a key waits. -/
def work (c : Controller) (lane : Lane) : Worked × Controller :=
  if (c.station lane).queue.closed then (.closed, c)
  else
    match c.take? lane with
    | none => (.pending, c)
    | some (key, c) =>
      let (result, c) := c.runPass (lane.pass key)
      let (outcome, c) := c.finish lane key result
      (.outcome outcome, c)

/-- Works on keys until none waits, at most as many as told. -/
def workMany : Nat → Lane → Controller → Controller
  | 0, _, c => c
  | fuel + 1, lane, c =>
    match c.work lane with
    | (.outcome _, c) => workMany fuel lane c
    | (_, c) => c

/-- Works on keys until none waits. At one instant a key comes back at most once per retry. -/
def drain (c : Controller) (lane : Lane) : Controller :=
  workMany ((c.station lane).queue.length * (c.maxRetries + 2)) lane c

/-- The workers that were called take what waits, lane by lane in the order of the calls. -/
def workOff (c : Controller) : Controller := { c.called.foldl drain c with called := [] }

/-- The time between ticks, at least a second. -/
def period (c : Controller) : Span := c.schedule.normal.max (Span.ofSeconds 1)

/-- Queues what is due for a poll and sets the next tick. -/
def tick (c : Controller) (run : Nat) : Controller :=
  let c := c.enqueueDue
  { c with alarms := c.alarms.set (c.instant + c.period.millisUp) (.tick run) }

/-- Another run: its workers are called, and its first tick comes before they look. -/
def launch (c : Controller) : Controller :=
  ((({ c with runs := c.runs + 1 } : Controller).call .spec).call .poll).tick c.runs

/-- The last run ends at once; the queues stay open. -/
def kill (c : Controller) : Controller :=
  { c with runs := c.runs - 1, alarms := c.alarms.without (.tick (c.runs - 1)), called := [] }

/-- No key is handed out any more in either queue. -/
def shutDown (c : Controller) : Controller :=
  { c with specs := c.specs.close, polls := c.polls.close }

/-- Starts a run. A run that was going on ends after the first tick of the new one, and closes the
queues before a worker looks. -/
def start (c : Controller) : Controller :=
  if c.runs = 0 then c.launch.workOff else c.kill.launch.shutDown.workOff

def stop (c : Controller) : Bool × Controller :=
  if c.runs = 0 then (false, c) else (true, c.shutDown.kill)

/-- An alarm goes off. The news of a watch are for those who run it. -/
def ring (c : Controller) : Alarm → Controller
  | .tick run => c.tick run
  | .add lane key => c.add lane key
  | .news _ _ => c

/-- The alarms that go off at an instant. -/
def reach (c : Controller) (instant : Nat) : List Alarm × Controller :=
  let instant := max c.instant instant
  let (due, alarms) := c.alarms.due instant
  (due, { c with instant := instant, alarms := alarms })

def next? (c : Controller) : Option Nat := c.alarms.earliest?

def summary (c : Controller) : String :=
  "Controller \x7b spec_queue_len: " ++ toString c.specs.queue.length ++ ", poll_queue_len: " ++
    toString c.polls.queue.length ++ ", workers: " ++ toString c.workers ++ ", max_retries: " ++
    toString c.maxRetries ++ ", .. \x7d"

end Controller

end SecretSync
