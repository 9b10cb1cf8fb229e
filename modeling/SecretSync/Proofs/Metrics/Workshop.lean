import SecretSync.Proofs.Metrics.Counts
import SecretSync.Proofs.Pass.Debts
import SecretSync.Proofs.Pass.Reachable
import SecretSync.Proofs.Race.Path

/-!
Workers on queues of their own names. Everything that a worker does with a key is a step of its own:
taking it, each call of the pass, each count, each use of the queue. Other workers may come in
between, and so may anybody who uses the queues.
-/
namespace SecretSync

structure Worker (ι : Type) where
  queue : ι
  lane : Lane
  maxRetries : Nat

/-- The queues, no two of one name, and those who work on them. -/
structure Setup (ι : Type) where
  name : ι → String
  backoff : ι → Backoff
  crew : List (Worker ι)
  distinct : Function.Injective name

/-- How far a worker is with the result of a pass: its duration is observed, the result is counted,
and the error if there is one; then the outcome is judged, and counted if the key is dropped. What
follows is the queue: a key that is put back counts as such and waits out its delay. -/
inductive Settling where
  | timed
  | counted
  | noted
  | judged (o : Outcome)
  | booked (o : Outcome)
  | delayed (o : Outcome) (delay : Span)
  | settled (o : Outcome)

inductive Task where
  | free
  | gone
  | busy (key : String) (rest : Program (Except PassError Unit))
  | settling (key : String) (r : Except PassError Unit) (stage : Settling)

namespace Task

def ofFound (lane : Lane) : Station.Found → Task
  | .key k => .busy k (lane.pass k).run
  | .closed => .gone
  | .nothing => .free

variable {ι : Type}

/-- The next step of a worker that does not wait for an answer. `seconds` is how long a pass took
that has ended now. -/
def step (w : Worker ι) (seconds : Binary64) (s : Station) (m : Metrics) :
    Task → Task × Station × Metrics
  | .free =>
    let (found, s, m) := s.look m
    (.ofFound w.lane found, s, m)
  | .gone => (.gone, s, m)
  | .busy key (.ask q next) => (.busy key (.ask q next), s, m)
  | .busy key (.done r) =>
    (.settling key r .timed, s, m.observeDuration w.lane.name seconds)
  | .settling key r .timed =>
    (.settling key r .counted, s, m.countReconciliation s.name (Metrics.resultLabel r.isOk))
  | .settling key (.ok u) .counted => (.settling key (.ok u) .noted, s, m)
  | .settling key (.error e) .counted =>
    (.settling key (.error e) .noted, s, m.countError s.name e.kind)
  | .settling key r .noted =>
    (.settling key r (.judged (.decide (s.queue.requeueCount key) w.maxRetries r)), s, m)
  | .settling key r (.judged o) =>
    (.settling key r (.booked o), s, if o = .dropped then m.countDropped s.name else m)
  | .settling key r (.booked (.requeued n)) =>
    let (t, m) := s.update (s.queue.countRequeue key) m
    (.settling key r (.delayed (.requeued n) (s.backoff.delay (s.queue.requeueCount key))), t, m)
  | .settling key r (.booked o) =>
    let (t, m) := s.update (s.queue.forget key) m
    (.settling key r (.settled o), t, m)
  | .settling key r (.delayed o delay) =>
    let (t, m) := s.update (s.queue.addAfter key delay).1 m
    (.settling key r (.settled o), t, m)
  | .settling key _ (.settled _) =>
    let (t, m) := s.finish key m
    (.free, t, m)

end Task

structure Desk (ι : Type) where
  worker : Worker ι
  task : Task

/-- What a worker answers about a key that it has finished. -/
structure Handled (ι : Type) where
  worker : Worker ι
  key : String
  result : Except PassError Unit
  outcome : Outcome

def Desk.handled? {ι : Type} (d : Desk ι) : Option (Handled ι) :=
  match d.task with
  | .settling key r (.settled o) => some ⟨d.worker, key, r, o⟩
  | _ => none

inductive QueueUse where
  | add (key : String)
  | addAfter (key : String) (delay : Span)
  | addLimited (key : String)
  | forget (key : String)
  | take
  | finish (key : String)
  | close

/-- A use of a queue. A timer that is set by it adds its key later, as anybody may. -/
def Station.use (s : Station) (m : Metrics) : QueueUse → Station × Metrics
  | .add key => s.add key m
  | .addAfter key delay => s.update (s.queue.addAfter key delay).1 m
  | .addLimited key => s.update (s.queue.addLimited s.backoff key).1 m
  | .forget key => s.update (s.queue.forget key) m
  | .take => ((s.take? m).map Prod.snd).getD (s, m)
  | .finish key => s.finish key m
  | .close => (s.close, m)

/-- `calls` are those of the passes so far. -/
structure Workshop (ι : Type) where
  world : World
  stations : ι → Station
  desks : List (Desk ι)
  handled : List (Handled ι)
  calls : List Call

inductive WorkshopMove (ι : Type) where
  /-- Anybody changes something stored, or makes calls fail. -/
  | edit (e : Edit)
  /-- A watched object is passed over. -/
  | skip (reason : String)
  /-- A read of the vault is counted. -/
  | read (seconds : Binary64) (success : Bool)
  | use (i : ι) (u : QueueUse)
  /-- A worker does its next step. -/
  | work (desk : Nat) (seconds : Binary64)

namespace Workshop

variable {ι : Type} [DecidableEq ι]

def start (s : Setup ι) (w : World) : Workshop ι where
  world := { w with metrics := Metrics.empty }
  stations := fun i => Station.make (s.name i) (s.backoff i)
  desks := s.crew.map fun w => ⟨w, .free⟩
  handled := []
  calls := []

def setMetrics (t : Workshop ι) (m : Metrics) : Workshop ι :=
  { t with world := { t.world with metrics := m } }

def setStation (t : Workshop ι) (i : ι) (s : Station) : Workshop ι :=
  { t with stations := Function.update t.stations i s }

def setTask (t : Workshop ι) (desk : Nat) (d : Desk ι) (task : Task) : Workshop ι :=
  { t with desks := t.desks.set desk { d with task := task } }

def call (t : Workshop ι) (desk : Nat) (d : Desk ι) (key : String) (q : Request)
    (next : q.Answer → Program (Except PassError Unit)) : Workshop ι :=
  { t.setTask desk d (.busy key (next (World.answer q t.world).1)) with
    world := (World.answer q t.world).2
    calls := t.calls ++ [t.world.callBy desk q] }

def stride (t : Workshop ι) (desk : Nat) (d : Desk ι) (seconds : Binary64) : Workshop ι :=
  let (task, s, m) := d.task.step d.worker seconds (t.stations d.worker.queue) t.world.metrics
  { ((t.setStation d.worker.queue s).setMetrics m).setTask desk d task with
    handled := t.handled ++ d.handled?.toList }

def work (t : Workshop ι) (desk : Nat) (seconds : Binary64) : Workshop ι :=
  match t.desks[desk]? with
  | none => t
  | some ⟨w, .busy key (.ask q next)⟩ => t.call desk ⟨w, .busy key (.ask q next)⟩ key q next
  | some d => t.stride desk d seconds

def move (t : Workshop ι) : WorkshopMove ι → Workshop ι
  | .edit e => { t with world := { t.world.edit e with metrics := t.world.metrics } }
  | .skip reason => t.setMetrics (t.world.metrics.countSkipped reason)
  | .read seconds success => t.setMetrics (t.world.metrics.countVaultRead seconds success)
  | .use i u =>
    let (s, m) := (t.stations i).use t.world.metrics u
    (t.setStation i s).setMetrics m
  | .work desk seconds => t.work desk seconds

def moves (t : Workshop ι) (ms : List (WorkshopMove ι)) : Workshop ι := ms.foldl move t

variable {t : Workshop ι}

/-- What a move is: something beside the queues, a use of a queue, or the step of a worker. -/
inductive Turn (t : Workshop ι) : Workshop ι → Prop
  | aside {w : World} (counts : t.world.metrics.Labelled → t.world.metrics.Counts w.metrics none)
    (depth : w.metrics.depth = t.world.metrics.depth) : Turn t { t with world := w }
  | use (i : ι) (u : QueueUse) :
    Turn t ((t.setStation i ((t.stations i).use t.world.metrics u).1).setMetrics
      ((t.stations i).use t.world.metrics u).2)
  | call {desk : Nat} {d : Desk ι} {key : String} {q : Request}
    {next : q.Answer → Program (Except PassError Unit)} (there : t.desks[desk]? = some d)
    (asks : d.task = .busy key (.ask q next)) : Turn t (t.call desk d key q next)
  | stride {desk : Nat} {d : Desk ι} (seconds : Binary64) (there : t.desks[desk]? = some d)
    (alone : ∀ key q next, d.task ≠ .busy key (.ask q next)) : Turn t (t.stride desk d seconds)
  | stay : Turn t t

theorem turn (t : Workshop ι) (m : WorkshopMove ι) : t.Turn (t.move m) := by
  cases m with
  | edit e => exact .aside (fun labelled => .refl labelled) rfl
  | skip | read => exact .aside (fun labelled => Metrics.counts_beside labelled _ _ _ _ _) rfl
  | use i u => exact .use i u
  | work desk seconds =>
    simp only [move, work]
    split
    · exact .stay
    · exact .call ‹_› rfl
    · rename_i d alone there
      refine .stride seconds there fun key q next asks => ?_
      obtain ⟨w, task⟩ := d
      cases asks
      exact alone w key q next rfl

end Workshop

section Settling

variable {ι : Type} (w : Worker ι) (seconds : Binary64) (s : Station) (m : Metrics)

theorem Outcome.decide_eq_synced {requeues maxRetries : Nat} {r : Except PassError Unit} :
    Outcome.decide requeues maxRetries r = .synced ↔ r.isOk = true := by
  cases r with
  | ok u => exact iff_of_true rfl rfl
  | error e =>
    refine iff_of_false ?_ Bool.false_ne_true
    unfold Outcome.decide
    dsimp only
    split_ifs <;> nofun

theorem Station.update_again (s : Station) (p q : WorkQueue) (m : Metrics)
    (same : p.length = s.queue.length) :
    (s.update p m).1.update q (s.update p m).2 = s.update q m := by
  simp [update, report, same]

/-- A worker with nobody in between settles the result of its pass as the station does at one go. -/
theorem Task.settle_in_steps (key : String) (r : Except PassError Unit) :
    let next (a : Task × Station × Metrics) := a.1.step w seconds a.2.1 a.2.2
    let settled := s.settle w.maxRetries key r (m.observeDuration w.lane.name seconds)
    next^[match settled.1 with
      | .requeued _ => 7
      | _ => 6] (.busy key (.done r), s, m) =
        (.settling key r (.settled settled.1), settled.2.2) := by
  intro next settled
  simp only [settled, Station.settle, WorkQueue.settle]
  cases r with
  | ok u =>
    simp [next, step, Outcome.decide, Metrics.countOutcome, Metrics.resultLabel, Except.isOk,
      Except.toBool]
  | error e =>
    cases decided : Outcome.decide (s.queue.requeueCount key) w.maxRetries (.error e) with
    | synced => exact absurd (Outcome.decide_eq_synced.1 decided) Bool.false_ne_true
    | requeued n =>
      simp [next, step, decided, Metrics.countOutcome, Metrics.resultLabel, Except.isOk,
        Except.toBool, WorkQueue.addLimited]
      exact s.update_again _ _ _ rfl
    | dropped =>
      simp [next, step, decided, Metrics.countOutcome, Metrics.resultLabel, Except.isOk,
        Except.toBool]

end Settling

end SecretSync
