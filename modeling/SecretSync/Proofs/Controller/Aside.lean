import SecretSync.Proofs.Queue.SingleFlight
import SecretSync.Watch.Loop
import Mathlib.Data.List.Perm.Basic
import Mathlib.Data.List.Nodup

/-!
What a controller does beside handing out keys and finishing them: whatever is added, comes back or
is settled, what is worked on stays the same, and a queue that is closed stays as it is.
-/
namespace SecretSync

namespace WorkQueue

variable {q r p : WorkQueue}

/-- What was done with a queue, other than to take or to finish a key. A closed queue stays closed
and keeps what waits in it. -/
structure Kept (q r : WorkQueue) : Prop where
  tidy : q.Tidy → r.Tidy
  processing : r.processing = q.processing
  closed : q.closed = true → r.closed = true
  waiting : q.closed = true → r.waiting = q.waiting

theorem Kept.refl (q : WorkQueue) : q.Kept q := ⟨id, rfl, id, fun _ => rfl⟩

theorem Kept.of_eq (same : r = q) : q.Kept r := same ▸ .refl q

theorem Kept.trans (h : q.Kept r) (k : r.Kept p) : q.Kept p where
  tidy := k.tidy ∘ h.tidy
  processing := k.processing.trans h.processing
  closed := k.closed ∘ h.closed
  waiting := fun closed => (k.waiting (h.closed closed)).trans (h.waiting closed)

theorem kept_add (q : WorkQueue) (key : String) : q.Kept (q.add key) where
  tidy := fun tidy => tidy.add key
  processing := q.processing_add key
  closed := (q.closed_add key).trans
  waiting := fun closed => by rw [add, if_pos (.inl closed)]

theorem kept_close (q : WorkQueue) : q.Kept q.close := ⟨Tidy.close, rfl, fun _ => rfl, fun _ => rfl⟩

theorem kept_countRequeue (q : WorkQueue) (key : String) : q.Kept (q.countRequeue key) :=
  ⟨fun tidy => tidy.countRequeue key, rfl, id, fun _ => rfl⟩

theorem kept_forget (q : WorkQueue) (key : String) : q.Kept (q.forget key) :=
  ⟨fun tidy => tidy.forget key, rfl, id, fun _ => rfl⟩

theorem kept_addAfter (q : WorkQueue) (key : String) (delay : Span) :
    q.Kept (q.addAfter key delay).1 := by
  unfold addAfter
  split_ifs
  · exact q.kept_add key
  · exact .refl q

theorem kept_settle (q : WorkQueue) (b : Backoff) (maxRetries : Nat) (key : String)
    (r : Except PassError Unit) : q.Kept (q.settle b maxRetries key r).2.1 := by
  unfold settle
  cases Outcome.decide (q.requeueCount key) maxRetries r with
  | requeued n => exact (q.kept_countRequeue key).trans (kept_addAfter _ key _)
  | synced => exact q.kept_forget key
  | dropped => exact q.kept_forget key

theorem waiting_finish_closed (closed : q.closed = true) (key : String) :
    (q.finish key).waiting = q.waiting := by
  simp [finish, closed]

theorem perm_cons_without {keys : List String} {key : String} (nodup : keys.Nodup)
    (there : key ∈ keys) : keys.Perm (key :: without keys key) := by
  have erased : keys.erase key = without keys key := by
    rw [nodup.erase_eq_filter, without]
    congr 1
    funext k
    by_cases same : k = key <;> simp [same]
  exact erased ▸ List.perm_cons_erase there

end WorkQueue

namespace Station

def Found.key? : Found → Option String
  | .key k => some k
  | _ => none

theorem look_cases (s : Station) (m : Metrics) :
    (∃ key, (s.look m).1 = .key key ∧ s.queue.take? = some (key, (s.look m).2.1.queue)) ∨
      ((∀ key, (s.look m).1 ≠ .key key) ∧ (s.look m).2.1.queue = s.queue) := by
  unfold look
  dsimp only
  split_ifs with closed
  · exact .inr ⟨fun _ => nofun, rfl⟩
  · cases taken : s.queue.take? with
    | none =>
      right
      simp [take?, taken]
    | some r =>
      left
      exact ⟨r.1, by simp [take?, taken], by simp [take?, taken, update]⟩

theorem look_closed {s : Station} (closed : s.queue.closed = true) (m : Metrics) :
    (s.look m).1 = .closed := by
  simp [look, closed]

end Station

namespace Controller

variable {c d e : Controller}

structure Kept (c d : Controller) : Prop where
  workers : d.workers = c.workers
  queue : ∀ lane, (c.station lane).queue.Kept (d.station lane).queue

theorem Kept.refl (c : Controller) : c.Kept c := ⟨rfl, fun _ => .refl _⟩

theorem Kept.trans (h : c.Kept d) (k : d.Kept e) : c.Kept e where
  workers := k.workers.trans h.workers
  queue := fun lane => (h.queue lane).trans (k.queue lane)

theorem Kept.of_stations (workers : d.workers = c.workers)
    (stations : ∀ lane, d.station lane = c.station lane) : c.Kept d :=
  ⟨workers, fun lane => .of_eq (congrArg Station.queue (stations lane))⟩

@[simp] theorem station_setStation (c : Controller) (lane other : Lane) (s : Station) :
    (c.setStation lane s).station other = if other = lane then s else c.station other := by
  cases lane <;> cases other <;> rfl

@[simp] theorem station_setMetrics (c : Controller) (m : Metrics) (lane : Lane) :
    (c.setMetrics m).station lane = c.station lane := by
  cases lane <;> rfl

theorem station_change (c : Controller) (lane other : Lane)
    (f : Station → Metrics → Station × Metrics) :
    (c.change lane f).station other =
      if other = lane then (f (c.station lane) c.world.metrics).1 else c.station other :=
  (station_setMetrics _ _ other).trans (c.station_setStation lane other _)

@[simp] theorem workers_setStation (c : Controller) (lane : Lane) (s : Station) :
    (c.setStation lane s).workers = c.workers := by
  cases lane <;> rfl

theorem kept_setStation (c : Controller) (lane : Lane) {s : Station}
    (kept : (c.station lane).queue.Kept s.queue) : c.Kept (c.setStation lane s) where
  workers := c.workers_setStation lane s
  queue := by
    intro other
    rw [station_setStation]
    split_ifs with same
    · exact same ▸ kept
    · exact .refl _

theorem kept_setMetrics (c : Controller) (m : Metrics) : c.Kept (c.setMetrics m) :=
  .of_stations rfl (c.station_setMetrics m)

theorem kept_call (c : Controller) (lane : Lane) : c.Kept (c.call lane) := by
  unfold call
  split_ifs
  · exact .refl c
  · exact .of_stations rfl fun other => by cases other <;> rfl

theorem kept_add (c : Controller) (lane : Lane) (key : String) : c.Kept (c.add lane key) :=
  ((c.kept_setStation lane ((c.station lane).queue.kept_add key)).trans
    (kept_setMetrics _ _)).trans (kept_call _ lane)

theorem kept_handleSighting (c : Controller) (s : Sighting) : c.Kept (c.handleSighting s) := by
  have ran : c.Kept (c.runPass (Pass.resolve s)).2 :=
    .of_stations rfl fun lane => by cases lane <;> rfl
  unfold handleSighting
  split
  · rename_i owner d found
    rw [found] at ran
    exact ran.trans (d.kept_add .spec owner.key)
  · rename_i d _ found
    rw [found] at ran
    exact ran

theorem kept_onBinding (c : Controller) (e : WatchEvent Binding) : c.Kept (c.onBinding e) := by
  cases e with
  | apply b => exact c.kept_add .spec b.key
  | initApply b => exact c.kept_add .spec b.key
  | _ => exact .refl c

theorem kept_onSecret (c : Controller) (e : WatchEvent Secret) : c.Kept (c.onSecret e) := by
  cases e with
  | apply s => exact c.kept_handleSighting _
  | initApply s => exact c.kept_handleSighting _
  | delete s => exact c.kept_handleSighting _
  | _ => exact .refl c

theorem kept_addAll (keys : List String) (c : Controller) (lane : Lane) :
    c.Kept (keys.foldl (fun (c : Controller) key => c.add lane key) c) := by
  induction keys generalizing c with
  | nil => exact .refl c
  | cons key rest ih => exact (c.kept_add lane key).trans (ih _)

theorem kept_enqueueDue (c : Controller) : c.Kept c.enqueueDue := by
  unfold enqueueDue
  split
  · exact .of_stations rfl fun lane => by cases lane <;> rfl
  · rename_i bindings w _
    obtain ⟨due, schedule⟩ := c.schedule.due (bindings.map Binding.key) (c.instant * 1000000)
    have noted : c.Kept { c with world := w, schedule := schedule } :=
      .of_stations rfl fun lane => by cases lane <;> rfl
    exact noted.trans (kept_addAll due _ .poll)

theorem kept_tick (c : Controller) (run : Nat) : c.Kept (c.tick run) :=
  c.kept_enqueueDue.trans (.of_stations rfl fun lane => by cases lane <;> rfl)

theorem kept_ring (c : Controller) (a : Alarm) : c.Kept (c.ring a) := by
  cases a with
  | tick run => exact c.kept_tick run
  | add lane key => exact c.kept_add lane key
  | news loop source => exact .refl c

theorem kept_launch (c : Controller) : c.Kept c.launch := by
  have counted : c.Kept { c with runs := c.runs + 1 } :=
    .of_stations rfl fun lane => by cases lane <;> rfl
  exact ((counted.trans (kept_call _ .spec)).trans (kept_call _ .poll)).trans (kept_tick _ c.runs)

theorem kept_reach (c : Controller) (instant : Nat) : c.Kept (c.reach instant).2 :=
  .of_stations rfl fun lane => by cases lane <;> rfl

theorem kept_addLater (c : Controller) (lane : Lane) (key : String) (delay : Option Span) :
    c.Kept (c.addLater lane key delay) := by
  cases delay with
  | none => exact .refl c
  | some delay => exact .of_stations rfl fun other => by cases other <;> rfl

theorem kept_settle (c : Controller) (lane : Lane) (key : String) (r : Except PassError Unit) :
    c.Kept (c.settle lane key r).2 := by
  have settled := (c.station lane).queue.kept_settle (c.station lane).backoff c.maxRetries key r
  exact ((c.kept_setStation lane settled).trans (kept_setMetrics _ _)).trans
    (kept_addLater _ lane key _)

theorem kept_recordPoll (c : Controller) (lane : Lane) (key : String) (o : Outcome) :
    c.Kept (c.recordPoll lane key o) := by
  unfold recordPoll
  split
  · exact .of_stations rfl fun other => by cases other <;> rfl
  · exact .of_stations rfl fun other => by cases other <;> rfl
  · exact .refl c

def close (c : Controller) (lane : Lane) : Controller := c.setStation lane (c.station lane).close

theorem kept_close (c : Controller) (lane : Lane) : c.Kept (c.close lane) :=
  c.kept_setStation lane (c.station lane).queue.kept_close

end Controller

end SecretSync
