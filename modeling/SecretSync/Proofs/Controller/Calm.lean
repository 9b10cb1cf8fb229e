import SecretSync.Proofs.Pass.Evaluation
import SecretSync.Proofs.Watch.Intake

namespace SecretSync

def Secret.parent? (s : Secret) : Option Key :=
  match s.metadata.controller? with
  | none => none
  | some owner =>
    if owner.kind = Binding.kind then some ⟨s.metadata.space.getD "", owner.name⟩ else none

theorem WorkQueue.Expects.add {q : WorkQueue} {k : String} (expected : q.Expects k)
    (key : String) : (q.add key).Expects k := by
  cases isOpen : q.closed with
  | true =>
    have same : q.add key = q := if_pos (.inl isOpen)
    rw [same]
    exact expected
  | false => exact (expects_add isOpen key k).2 (.inl expected)

theorem WorkQueue.expects_added (q : WorkQueue) (key : String) :
    (q.add key).closed = true ∨ (q.add key).Expects key := by
  cases isOpen : q.closed with
  | true => exact .inl ((q.closed_add key).trans isOpen)
  | false => exact .inr ((expects_add isOpen key key).2 (.inr rfl))

namespace Timers

theorem mem_set {ts : Timers α} {instant : Nat} {a : α} {t : Nat × α} :
    t ∈ (ts.set instant a).pending ↔ t = (instant, a) ∨ t ∈ ts.pending :=
  mem_place

theorem due_or_left {ts : Timers α} {t : Nat × α} (pending : t ∈ ts.pending) (instant : Nat) :
    t.2 ∈ (ts.due instant).1 ∨ t ∈ (ts.due instant).2.pending := by
  rw [← List.takeWhile_append_dropWhile (p := fun t => t.1 ≤ instant) (l := ts.pending)] at pending
  rcases List.mem_append.1 pending with fires | left
  · exact .inl (List.mem_map_of_mem fires)
  · exact .inr left

end Timers

namespace World

variable {w : World}

theorem idle_listBindings (w : World) : Idle w (w.call Cluster.listBindings).2 :=
  ⟨w.cluster.listBindings_same, rfl⟩

theorem run_ask (q : Request) (w : World) :
    run (Pass.ask q) w = (.ok (answer q w).1, (answer q w).2) := rfl

theorem idle_skip (reason : String) (w : World) : Idle w (run (Pass.skip reason) w).2 :=
  ⟨.refl w.cluster, rfl⟩

theorem idle_findOwner (s : Secret) (w : World) : Idle w (run (Pass.findOwner s) w).2 := by
  unfold Pass.findOwner
  cases s.metadata.controller? with
  | none => exact idle_skip _ w
  | some owner =>
    dsimp only
    split_ifs
    · rw [run_bind, run_ask]
      have looked := idle_answer (.getBinding ⟨s.metadata.space.getD "", owner.name⟩) w rfl
      dsimp only
      split
      · exact looked
      · exact looked.trans (idle_skip _ _)
    · exact idle_skip _ w

theorem idle_resolve (e : Sighting) (w : World) : Idle w (run (Pass.resolve e) w).2 := by
  unfold Pass.resolve
  cases e.object with
  | ok s => exact idle_findOwner s w
  | error e => exact .refl w

theorem findOwner_parent {s : Secret} {k : Key} {b : Binding} (parent : s.parent? = some k)
    (calm : w.cluster.failures .getBinding = 0) (found : w.cluster.bindings.get? k = some b) :
    (run (Pass.findOwner s) w).1 = .ok (some b) := by
  unfold Secret.parent? at parent
  unfold Pass.findOwner
  cases owned : s.metadata.controller? with
  | none => simp [owned] at parent
  | some owner =>
    simp only [owned] at parent
    split_ifs at parent with kind
    cases parent
    dsimp only
    rw [if_pos kind, run_bind, run_ask]
    have looked : (answer (.getBinding ⟨s.metadata.space.getD "", owner.name⟩) w).1 =
        .ok (some b) := by
      change (w.cluster.getBinding _).1 = _
      rw [Cluster.getBinding, Cluster.attempt_calm calm, found]
    dsimp only
    rw [looked]
    rfl

end World

namespace Controller

/-- Nothing stored is touched, and whatever was to come for the spec syncs still is. -/
structure Calm (c d : Controller) : Prop where
  idle : Idle c.world d.world
  closed : c.specs.queue.closed = true → d.specs.queue.closed = true
  expects : ∀ k, c.specs.queue.Expects k → d.specs.queue.Expects k
  alarms : ∀ t ∈ c.alarms.pending, t ∈ d.alarms.pending

theorem Calm.refl (c : Controller) : c.Calm c := ⟨.refl _, id, fun _ h => h, fun _ h => h⟩

theorem Calm.trans {c d e : Controller} (h : c.Calm d) (k : d.Calm e) : c.Calm e where
  idle := h.idle.trans k.idle
  closed := k.closed ∘ h.closed
  expects := fun key before => k.expects key (h.expects key before)
  alarms := fun t before => k.alarms t (h.alarms t before)

variable {c : Controller}

theorem Calm.of_specs {d : Controller} (idle : Idle c.world d.world) (specs : d.specs = c.specs)
    (alarms : ∀ t ∈ c.alarms.pending, t ∈ d.alarms.pending) : c.Calm d where
  idle := idle
  closed := by
    rw [specs]
    exact id
  expects := by
    rw [specs]
    exact fun _ => id
  alarms := alarms

theorem calm_call (c : Controller) (lane : Lane) : c.Calm (c.call lane) := by
  unfold call
  split_ifs
  · exact .refl c
  · exact .of_specs (.refl _) rfl fun _ => id

theorem calm_place (c : Controller) (lane : Lane) {s : Station} (m : Metrics)
    (closed : lane = .spec → c.specs.queue.closed = true → s.queue.closed = true)
    (expects : lane = .spec → ∀ k, c.specs.queue.Expects k → s.queue.Expects k) :
    c.Calm ((c.setStation lane s).setMetrics m) := by
  cases lane with
  | spec => exact ⟨⟨.refl _, rfl⟩, closed rfl, expects rfl, fun _ => id⟩
  | poll => exact .of_specs ⟨.refl _, rfl⟩ rfl fun _ => id

theorem calm_add (c : Controller) (lane : Lane) (key : String) : c.Calm (c.add lane key) := by
  refine Calm.trans (c.calm_place lane _ ?_ ?_) (calm_call _ lane)
  · rintro rfl closed
    exact (c.specs.queue.closed_add key).trans closed
  · rintro rfl k expected
    exact expected.add key

theorem calm_runPass (c : Controller) {p : Pass α} (idle : Idle c.world (World.run p c.world).2) :
    c.Calm (c.runPass p).2 :=
  .of_specs idle rfl fun _ => id

theorem calm_handleSighting (c : Controller) (e : Sighting) : c.Calm (c.handleSighting e) := by
  have resolved := c.calm_runPass (World.idle_resolve e c.world)
  unfold handleSighting
  split
  · rename_i owner d same
    rw [same] at resolved
    exact resolved.trans (d.calm_add .spec owner.key)
  · rename_i d _ same
    rw [same] at resolved
    exact resolved

theorem calm_onBinding (c : Controller) (e : WatchEvent Binding) : c.Calm (c.onBinding e) := by
  cases e with
  | apply b => exact c.calm_add .spec b.key
  | initApply b => exact c.calm_add .spec b.key
  | _ => exact .refl c

theorem calm_onSecret (c : Controller) (e : WatchEvent Secret) : c.Calm (c.onSecret e) := by
  cases e with
  | apply s => exact c.calm_handleSighting _
  | initApply s => exact c.calm_handleSighting _
  | delete s => exact c.calm_handleSighting _
  | _ => exact .refl c

theorem calm_setAlarm (c : Controller) (instant : Nat) (a : Alarm) :
    c.Calm { c with alarms := c.alarms.set instant a } :=
  .of_specs (.refl _) rfl fun _ before => Timers.mem_set.2 (.inr before)

theorem calm_addAll (keys : List String) (c : Controller) (lane : Lane) :
    c.Calm (keys.foldl (fun (c : Controller) key => c.add lane key) c) := by
  induction keys generalizing c with
  | nil => exact .refl c
  | cons key rest ih => exact (c.calm_add lane key).trans (ih _)

theorem calm_enqueueDue (c : Controller) : c.Calm c.enqueueDue := by
  have listed := World.idle_listBindings c.world
  unfold enqueueDue
  split
  · rename_i e w same
    rw [same] at listed
    exact .of_specs listed rfl fun _ => id
  · rename_i bindings w same
    rw [same] at listed
    obtain ⟨due, schedule⟩ := c.schedule.due (bindings.map Binding.key) (c.instant * 1000000)
    have noted : c.Calm { c with world := w, schedule := schedule } :=
      .of_specs listed rfl fun _ => id
    exact noted.trans (calm_addAll due _ .poll)

theorem calm_tick (c : Controller) (run : Nat) : c.Calm (c.tick run) :=
  c.calm_enqueueDue.trans (calm_setAlarm _ _ _)

theorem calm_launch (c : Controller) : c.Calm c.launch := by
  have counted : c.Calm { c with runs := c.runs + 1 } := .of_specs (.refl _) rfl fun _ => id
  exact ((counted.trans (calm_call _ .spec)).trans (calm_call _ .poll)).trans (calm_tick _ c.runs)

theorem calm_ring (c : Controller) (a : Alarm) : c.Calm (c.ring a) := by
  cases a with
  | tick run => exact c.calm_tick run
  | add lane key => exact c.calm_add lane key
  | news loop source => exact .refl c

theorem calm_shutDown (c : Controller) : c.Calm c.shutDown where
  idle := .refl _
  closed := fun _ => rfl
  expects := fun _ => id
  alarms := fun _ => id

theorem calm_addLater (c : Controller) (lane : Lane) (key : String) (delay : Option Span) :
    c.Calm (c.addLater lane key delay) := by
  cases delay with
  | none => exact .refl c
  | some delay => exact c.calm_setAlarm _ _

theorem calm_recordPoll (c : Controller) (lane : Lane) (key : String) (o : Outcome) :
    c.Calm (c.recordPoll lane key o) := by
  unfold recordPoll
  split
  · exact .of_specs (.refl _) rfl fun _ => id
  · exact .of_specs (.refl _) rfl fun _ => id
  · exact .refl c

theorem calm_settle (c : Controller) (lane : Lane) (key : String) (r : Except PassError Unit) :
    c.Calm (c.settle lane key r).2 := by
  refine Calm.trans (c.calm_place lane _ ?_ ?_) (calm_addLater _ lane key _)
  · rintro rfl closed
    rcases c.specs.queue.settle_cases c.specs.backoff c.maxRetries key r with
      ⟨n, back⟩ | ⟨-, same, -⟩
    · change (c.specs.queue.settle c.specs.backoff c.maxRetries key r).2.1.closed = true
      rw [back]
      exact (WorkQueue.closed_add _ key).trans closed
    · exact same.trans closed
  · rintro rfl k expected
    rcases c.specs.queue.settle_cases c.specs.backoff c.maxRetries key r with
      ⟨n, back⟩ | ⟨-, -, same⟩
    · change (c.specs.queue.settle c.specs.backoff c.maxRetries key r).2.1.Expects k
      rw [back]
      exact WorkQueue.Expects.add (q := c.specs.queue.countRequeue key) expected key
    · exact (same k).2 expected

theorem calm_finish (c : Controller) (lane : Lane) (key : String) (r : Except PassError Unit) :
    c.Calm (c.finish lane key r).2 := by
  have settled := c.calm_settle lane key r
  unfold finish
  generalize c.settle lane key r = after at settled ⊢
  obtain ⟨outcome, d⟩ := after
  refine (settled.trans (d.calm_recordPoll lane key outcome)).trans (calm_place _ lane _ ?_ ?_)
  · rintro rfl closed
    exact (WorkQueue.closed_finish _ key).trans closed
  · rintro rfl k expected
    exact (WorkQueue.expects_finish _ key k).2 expected

theorem alarms_finish (c : Controller) (key : String) (r : Except PassError Unit) :
    (c.finish .spec key r).2.alarms = match (c.settling key r).2.2 with
      | none => c.alarms
      | some delay => c.alarms.set (Timers.deadline c.instant delay) (.add .spec key) := by
  change ((((c.setStation .spec _).setMetrics _).addLater .spec key
    (c.settling key r).2.2).recordPoll .spec key _).alarms = _
  cases (c.settling key r).2.2 with
  | none => rfl
  | some delay => rfl

theorem outcome_finish (c : Controller) (lane : Lane) (key : String) (r : Except PassError Unit) :
    (c.finish lane key r).1 =
      .decide ((c.station lane).queue.requeueCount key) c.maxRetries r := by
  change ((c.station lane).queue.settle (c.station lane).backoff c.maxRetries key r).1 = _
  unfold WorkQueue.settle
  dsimp only
  cases Outcome.decide ((c.station lane).queue.requeueCount key) c.maxRetries r <;> rfl

theorem back_of_requeued {key : String} {r : Except PassError Unit} {n : Nat}
    (again : (c.finish .spec key r).1 = .requeued n) :
    let d := (c.finish .spec key r).2
    d.specs.queue.closed = true ∨ d.specs.queue.Expects key ∨
      ∃ instant, (instant, Alarm.add .spec key) ∈ d.alarms.pending := by
  intro d
  rw [outcome_finish] at again
  have settled : c.settling key r =
      (.requeued n, c.specs.queue.addLimited c.specs.backoff key) := by
    rw [settling, WorkQueue.settle]
    change Outcome.decide (c.specs.queue.requeueCount key) _ _ = _ at again
    rw [again]
  cases isOpen : c.specs.queue.closed with
  | true => exact .inl ((c.calm_finish .spec key r).closed isOpen)
  | false =>
    right
    unfold WorkQueue.addLimited WorkQueue.addAfter at settled
    split_ifs at settled with zero
    · left
      refine (expects_finish isOpen key key r).2 (.inr ?_)
      rw [putBack?, settled]
    · right
      have alarms := c.alarms_finish key r
      rw [settled] at alarms
      change d.alarms = _ at alarms
      rw [alarms]
      exact ⟨_, Timers.mem_set.2 (.inl rfl)⟩

theorem calm_take {key : String} {d : Controller} (taken : c.take? .poll = some (key, d)) :
    c.Calm d := by
  obtain ⟨⟨found, s, m⟩, -, same⟩ := Option.map_eq_some_iff.1 taken
  cases same
  exact .of_specs ⟨.refl _, rfl⟩ rfl fun _ => id

theorem take_spec {key : String} {d : Controller} (taken : c.take? .spec = some (key, d)) :
    Idle c.world d.world ∧ d.alarms = c.alarms ∧ d.specs.queue.closed = c.specs.queue.closed ∧
      ∀ k, c.specs.queue.Expects k → k = key ∨ d.specs.queue.Expects k := by
  obtain ⟨closed, -, -, rest⟩ := WorkQueue.expects_take (take?_cases taken)
  obtain ⟨⟨found, s, m⟩, -, same⟩ := Option.map_eq_some_iff.1 taken
  cases same
  exact ⟨⟨.refl _, rfl⟩, rfl, closed, rest⟩

theorem handleSighting_found {e : Sighting} {b : Binding} {d : Controller}
    (resolved : c.runPass (Pass.resolve e) = (.ok (some b), d)) :
    c.handleSighting e = d.enqueue b := by
  rw [handleSighting, resolved]

theorem queue_onDeleted {s : Secret} {k : Key} {b : Binding} (parent : s.parent? = some k)
    (calm : c.world.cluster.failures .getBinding = 0)
    (found : c.world.cluster.bindings.get? k = some b) :
    (c.onSecret (.delete s)).specs.queue = c.specs.queue.add b.key := by
  have owner : (c.world.run (Pass.findOwner s)).1 = .ok (some b) :=
    World.findOwner_parent parent calm found
  have resolved : c.runPass (Pass.findOwner s) =
      (.ok (some b), { c with world := (c.world.run (Pass.findOwner s)).2 }) :=
    Prod.ext owner rfl
  have queued : c.onSecret (.delete s) =
      Controller.enqueue { c with world := (c.world.run (Pass.findOwner s)).2 } b :=
    handleSighting_found resolved
  rw [queued, enqueue, queue_add]

end Controller

end SecretSync
