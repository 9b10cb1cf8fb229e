import SecretSync.Proofs.Controller.Calm
import SecretSync.Proofs.Pass.Convergence
import SecretSync.Proofs.Queue.Crew
import Mathlib.Data.List.Induction

/-!
The controller at work while output Secrets are deleted from outside and stores and vaults fail: a
Secret that is missing is somebody's business until it is there again, or until it is given up in
one of a few ways. It does not stay missing otherwise.
-/
namespace SecretSync

structure Errand where
  lane : Lane
  key : String
  rest : Program (Except PassError Unit)

/-- The controller with what is under way: alarms that have gone off and are not seen to yet,
passes, and events that are not handled yet. A deleted Secret is kept with the name it had. -/
structure Upkeep where
  controller : Controller
  ringing : List Alarm
  errands : List Errand
  applied : List Binding
  deleted : List (Key × Secret)

inductive UpkeepMove where
  /-- Anybody changes something stored, or makes calls fail. -/
  | edit (e : Edit)
  /-- An applied binding is handled. -/
  | tell (event : Nat)
  /-- A deleted Secret is handled. -/
  | bury (event : Nat)
  | sight (s : Secret)
  | add (lane : Lane) (key : String)
  | launch
  | wait (instant : Nat)
  /-- An alarm that has gone off is seen to. -/
  | ring (alarm : Nat)
  | take (lane : Lane)
  /-- A pass makes its next call. -/
  | call (errand : Nat)
  | finish (errand : Nat)
  | shutDown

/-- No other key is read from the text of this one, as it is from a name with a slash in it and no
namespace. -/
def Key.Legible (k : Key) : Prop := ∀ j, Key.parse? k.render = some j → j = k

def World.applied (w : World) : Edit → List Binding
  | .insertBinding b => [(w.cluster.insertBinding b).1]
  | _ => []

def World.deleted (w : World) : Edit → List (Key × Secret)
  | .removeSecret k => (w.cluster.secrets.get? k).toList.map fun s => (k, s)
  | _ => []

namespace Upkeep

def start (s : Settings) (w : World) : Upkeep :=
  ⟨Controller.make s w, [], [], w.cluster.bindings.values, []⟩

/-- A move. What is not there is not handled. -/
def move (u : Upkeep) : UpkeepMove → Upkeep
  | .edit e =>
    { u with
      controller := { u.controller with world := u.controller.world.edit e }
      applied := u.applied ++ u.controller.world.applied e
      deleted := u.deleted ++ u.controller.world.deleted e }
  | .tell i =>
    match u.applied[i]? with
    | none => u
    | some b =>
      { u with
        controller := u.controller.onBinding (.apply b)
        applied := u.applied.eraseIdx i }
  | .bury i =>
    match u.deleted[i]? with
    | none => u
    | some (_, s) =>
      { u with
        controller := u.controller.onSecret (.delete s)
        deleted := u.deleted.eraseIdx i }
  | .sight s => { u with controller := u.controller.onSecret (.apply s) }
  | .add lane key => { u with controller := u.controller.add lane key }
  | .launch => { u with controller := u.controller.launch }
  | .wait instant =>
    { u with
      controller := (u.controller.reach instant).2
      ringing := u.ringing ++ (u.controller.reach instant).1 }
  | .ring i =>
    match u.ringing[i]? with
    | none => u
    | some a => { u with controller := u.controller.ring a, ringing := u.ringing.eraseIdx i }
  | .take lane =>
    match u.controller.take? lane with
    | none => u
    | some (key, c) =>
      { u with controller := c, errands := u.errands ++ [⟨lane, key, (lane.pass key).run⟩] }
  | .call i =>
    match u.errands[i]? with
    | some ⟨lane, key, .ask q next⟩ =>
      let r := World.answer q u.controller.world
      { u with
        controller := { u.controller with world := r.2 }
        errands := u.errands.set i ⟨lane, key, next r.1⟩ }
    | _ => u
  | .finish i =>
    match u.errands[i]? with
    | some ⟨lane, key, .done r⟩ =>
      { u with controller := (u.controller.finish lane key r).2, errands := u.errands.eraseIdx i }
    | _ => u
  | .shutDown => { u with controller := u.controller.shutDown }

def run (u : Upkeep) (ms : List UpkeepMove) : Upkeep := ms.foldl move u

theorem run_append (u : Upkeep) (before after : List UpkeepMove) :
    u.run (before ++ after) = (u.run before).run after :=
  List.foldl_append

abbrev cluster (u : Upkeep) : Cluster := u.controller.world.cluster

abbrev specQueue (u : Upkeep) : WorkQueue := u.controller.specs.queue

def Has (u : Upkeep) (out : Key) : Prop := ∃ s, u.cluster.secrets.get? out = some s

end Upkeep

/-- A spec sync in this phase does not know of the Secret yet, or has failed. -/
def Phase.Uneasy (out : Key) : Phase → Prop
  | .start | .failed _ => True
  | .found b | .vacant b | .fetched b _ => b.outputKey = out
  | _ => False

def Errand.Uneasy (j : Errand) (k out : Key) : Prop :=
  j.lane = .spec ∧ j.key = k.render ∧ ∃ p : Phase, p.Uneasy out ∧
    Program.Leads (Phase.Step j.key .spec) p j.rest (Phase.Ends j.key .spec)

namespace Upkeep

/-- A spec sync of the binding at `k` is under way or to come, or would be if the queue were not
closed. What is deleted under the name `out` counts as well, although it can turn out to lead to
another binding. -/
inductive Cares (u : Upkeep) (k out : Key) : Prop
  | closed (h : u.specQueue.closed = true)
  | expected (h : u.specQueue.Expects k.render)
  | timed {instant : Nat} (h : (instant, Alarm.add .spec k.render) ∈ u.controller.alarms.pending)
  | ringing (h : Alarm.add .spec k.render ∈ u.ringing)
  | applied {b : Binding} (h : b ∈ u.applied) (own : b.key = k.render)
  | deleted {s : Secret} (h : (out, s) ∈ u.deleted)
  | working {j : Errand} (h : j ∈ u.errands) (uneasy : j.Uneasy k out)

/-- How a missing Secret of a binding is given up: a spec sync of the binding is dropped, or a
deleted Secret does not lead to the binding, because it names another or because it cannot be looked
up. -/
inductive GivesUp (u : Upkeep) (k out : Key) : UpkeepMove → Prop
  | dropped {i : Nat} {r : Except PassError Unit}
    (errand : u.errands[i]? = some ⟨.spec, k.render, .done r⟩)
    (drops : (u.controller.finish .spec k.render r).1 = .dropped) : GivesUp u k out (.finish i)
  | foreign {i : Nat} {s : Secret} (event : u.deleted[i]? = some (out, s))
    (other : s.parent? ≠ some k) : GivesUp u k out (.bury i)
  | unresolved {i : Nat} {s : Secret} (event : u.deleted[i]? = some (out, s))
    (fails : 0 < u.cluster.failures .getBinding) : GivesUp u k out (.bury i)

variable {u v : Upkeep} {k out : Key}

/-- What follows if it follows from each of the ways in which the Secret is cared for. What is still
as it was needs no second look. -/
theorem Cares.onward {P : Prop} (cares : u.Cares k out) (stays : v.Cares k out → P)
    (closed : u.specQueue.closed = true → v.specQueue.closed = true)
    (expected : u.specQueue.Expects k.render → v.specQueue.Expects k.render ∨ P)
    (timed : ∀ instant, (instant, Alarm.add .spec k.render) ∈ u.controller.alarms.pending →
      (instant, Alarm.add .spec k.render) ∈ v.controller.alarms.pending ∨ P)
    (ringing : Alarm.add .spec k.render ∈ u.ringing → Alarm.add .spec k.render ∈ v.ringing ∨ P)
    (applied : ∀ b ∈ u.applied, b.key = k.render → b ∈ v.applied ∨ P)
    (deleted : ∀ s, (out, s) ∈ u.deleted → (out, s) ∈ v.deleted ∨ P)
    (working : ∀ j ∈ u.errands, j.Uneasy k out → (∃ j ∈ v.errands, j.Uneasy k out) ∨ P) : P := by
  cases cares with
  | closed h => exact stays (.closed (closed h))
  | expected h => exact (expected h).elim (fun h => stays (.expected h)) id
  | timed h => exact (timed _ h).elim (fun h => stays (.timed h)) id
  | ringing h => exact (ringing h).elim (fun h => stays (.ringing h)) id
  | applied h own => exact (applied _ h own).elim (fun h => stays (.applied h own)) id
  | deleted h => exact (deleted _ h).elim (fun h => stays (.deleted h)) id
  | working h uneasy =>
    exact (working _ h uneasy).elim (fun ⟨_, h, uneasy⟩ => stays (.working h uneasy)) id

theorem Cares.calmly {P : Prop} (cares : u.Cares k out) (stays : v.Cares k out → P)
    (calm : u.controller.Calm v.controller)
    (ringing : Alarm.add .spec k.render ∈ u.ringing → Alarm.add .spec k.render ∈ v.ringing ∨ P)
    (applied : ∀ b ∈ u.applied, b.key = k.render → b ∈ v.applied ∨ P)
    (deleted : ∀ s, (out, s) ∈ u.deleted → (out, s) ∈ v.deleted ∨ P)
    (working : ∀ j ∈ u.errands, j.Uneasy k out → (∃ j ∈ v.errands, j.Uneasy k out) ∨ P) : P :=
  cares.onward stays calm.closed (fun h => .inl (calm.expects _ h))
    (fun _ h => .inl (calm.alarms _ h)) ringing applied deleted working

theorem Cares.calm {c : Controller} (cares : u.Cares k out) (calm : u.controller.Calm c) :
    ({ u with controller := c } : Upkeep).Cares k out :=
  cares.calmly (v := { u with controller := c }) id calm .inl (fun _ h _ => .inl h)
    (fun _ h => .inl h) (fun j h uneasy => .inl ⟨j, h, uneasy⟩)

theorem Cares.of_queue {key : String} (queue : v.specQueue = u.specQueue.add key)
    (own : key = k.render) : v.Cares k out := by
  subst own
  rcases u.specQueue.expects_added k.render with closed | expected
  · exact .closed (queue ▸ closed)
  · exact .expected (queue ▸ expected)

theorem cares_tell (cares : u.Cares k out) (i : Nat) : (u.move (.tell i)).Cares k out := by
  simp only [move]
  split
  · exact cares
  · rename_i b event
    refine cares.calmly id (u.controller.calm_onBinding (.apply b)) .inl ?_ (fun _ h => .inl h)
      (fun j h uneasy => .inl ⟨j, h, uneasy⟩)
    intro b' there own
    rcases mem_eraseIdx_or there i with stays | told
    · exact .inl stays
    · cases told.symm.trans event
      exact .inr (.of_queue (u.controller.queue_onBinding (.apply b)) own)

theorem cares_ring (cares : u.Cares k out) (i : Nat) : (u.move (.ring i)).Cares k out := by
  simp only [move]
  split
  · exact cares
  · rename_i a rings
    refine cares.calmly id (u.controller.calm_ring a) ?_ (fun _ h _ => .inl h) (fun _ h => .inl h)
      (fun j h uneasy => .inl ⟨j, h, uneasy⟩)
    intro there
    rcases mem_eraseIdx_or there i with stays | seen
    · exact .inl stays
    · cases seen.symm.trans rings
      exact .inr (.of_queue (u.controller.queue_add k.render) rfl)

theorem cares_wait (cares : u.Cares k out) (instant : Nat) :
    (u.move (.wait instant)).Cares k out := by
  refine cares.onward (v := u.move (.wait instant)) id id .inl ?_
    (fun h => .inl (List.mem_append_left _ h)) (fun _ h _ => .inl h) (fun _ h => .inl h)
    (fun j h uneasy => .inl ⟨j, h, uneasy⟩)
  intro t pending
  rcases Timers.due_or_left pending (max u.controller.instant instant) with fires | left
  · exact .inr (.ringing (List.mem_append_right _ fires))
  · exact .inl left

theorem cares_bury (cares : u.Cares k out) (sound : u.cluster.Sound) {b : Binding}
    (stored : u.cluster.bindings.get? k = some b) (i : Nat) :
    (u.move (.bury i)).Cares k out ∨ u.GivesUp k out (.bury i) := by
  simp only [move]
  split
  · exact .inl cares
  · rename_i name s event
    refine cares.calmly .inl (u.controller.calm_onSecret (.delete s)) .inl (fun _ h _ => .inl h) ?_
      (fun j h uneasy => .inl ⟨j, h, uneasy⟩)
    intro s' there
    rcases mem_eraseIdx_or there i with stays | handled
    · exact .inl stays
    · right
      cases handled.symm.trans event
      by_cases parent : s.parent? = some k
      · by_cases calm : u.cluster.failures .getBinding = 0
        · have own : b.key = k.render := by rw [Binding.key, sound.placed stored]
          exact .inl (.of_queue (Controller.queue_onDeleted parent calm stored) own)
        · exact .inr (.unresolved handled (Nat.pos_of_ne_zero calm))
      · exact .inr (.foreign handled parent)

theorem cares_take (cares : u.Cares k out) (lane : Lane) : (u.move (.take lane)).Cares k out := by
  simp only [move]
  split
  · exact cares
  · rename_i key c taken
    cases lane with
    | poll =>
      exact cares.calmly id (Controller.calm_take taken) .inl (fun _ h _ => .inl h)
        (fun _ h => .inl h) (fun j h uneasy => .inl ⟨j, List.mem_append_left _ h, uneasy⟩)
    | spec =>
      obtain ⟨-, alarms, closed, rest⟩ := Controller.take_spec taken
      refine cares.onward id closed.trans ?_ (fun _ h => .inl (alarms ▸ h)) .inl
        (fun _ h _ => .inl h) (fun _ h => .inl h)
        (fun j h uneasy => .inl ⟨j, List.mem_append_left _ h, uneasy⟩)
      intro expected
      rcases rest k.render expected with rfl | later
      · refine .inr (.working (List.mem_append_right _ List.mem_cons_self) ⟨rfl, rfl, .start, ?_⟩)
        exact ⟨trivial, Pass.leads_pass .spec⟩
      · exact .inl later

theorem uneasy_step {key : String} {p t : Phase} {q : Request} {r : q.Answer} {w : World}
    {b : Binding} (answered : (World.answer q w).1 = r)
    (taken : Phase.Step key .spec p q r t) (uneasy : p.Uneasy out)
    (legible : ∀ j, Key.parse? key = some j → j = k) (stored : w.cluster.bindings.get? k = some b)
    (own : b.outputKey = out) :
    t.Uneasy out ∨ ∃ s, (World.answer q w).2.cluster.secrets.get? out = some s := by
  cases taken with
  | gone parsed =>
    cases legible _ parsed
    have gone := Cluster.getBinding_ok answered
    exact nomatch gone.symm.trans stored
  | found parsed =>
    cases legible _ parsed
    cases (Cluster.getBinding_ok answered).symm.trans stored
    exact .inl own
  | lookupFailed => exact .inl trivial
  | @present d e =>
    right
    cases uneasy
    have same := (w.cluster.getSecret_same d.outputKey).secrets
    refine ⟨e, ?_⟩
    change (w.cluster.getSecret d.outputKey).2.secrets.get? d.outputKey = some e
    rw [same]
    exact Cluster.getSecret_ok answered
  | vacant => exact .inl uneasy
  | searchFailed => exact .inl trivial
  | supplied => exact .inl uneasy
  | supplyFailed => exact .inl trivial
  | created owned =>
    right
    obtain ⟨-, placed⟩ := Cluster.placed_created owned answered
    cases uneasy
    exact ⟨_, placed.get?⟩
  | createFailed => exact .inl trivial
  | recorded => exact uneasy.elim
  | unrecorded => exact uneasy.elim
  | noted => exact .inl uneasy
  | counted => exact .inl uneasy
  | timed => exact .inl uneasy

theorem mem_set_or {l : List α} {a : α} (h : a ∈ l) (i : Nat) (x : α) :
    a ∈ l.set i x ∨ l[i]? = some a := by
  obtain ⟨j, there⟩ := List.mem_iff_getElem?.1 h
  by_cases same : i = j
  · exact .inr (same ▸ there)
  · exact .inl (List.mem_of_getElem? (by rw [List.getElem?_set_ne same, there]))

theorem cares_call (cares : u.Cares k out) (legible : k.Legible) {b : Binding}
    (stored : u.cluster.bindings.get? k = some b) (own : b.outputKey = out) (i : Nat) :
    (u.move (.call i)).Cares k out ∨ (u.move (.call i)).Has out := by
  simp only [move]
  split
  · rename_i lane key q next errand
    refine cares.onward .inl id .inl (fun _ => .inl) .inl (fun _ h _ => .inl h) (fun _ h => .inl h)
      ?_
    intro j there uneasy
    rcases mem_set_or there i ⟨lane, key, next (World.answer q u.controller.world).1⟩ with
      stays | called
    · exact .inl ⟨j, stays, uneasy⟩
    · cases called.symm.trans errand
      obtain ⟨rfl, rfl, p, uneasy, leads⟩ := uneasy
      obtain ⟨t, taken, leads⟩ := leads (World.answer q u.controller.world).1
      rcases uneasy_step rfl taken uneasy legible stored own with uneasy | there'
      · have inside := (List.getElem?_eq_some_iff.1 errand).1
        exact .inl ⟨_, List.mem_set inside _, rfl, rfl, t, uneasy, leads⟩
      · exact .inr (.inr there')
  · exact .inl cares

theorem error_of_uneasy {key : String} {p : Phase} {r : Except PassError Unit}
    (ends : Phase.Ends key .spec p r) (uneasy : p.Uneasy out) : ∃ e, r = .error e := by
  cases ends with
  | gone => exact uneasy.elim
  | present => exact uneasy.elim
  | created => exact uneasy.elim
  | unrecorded => exact uneasy.elim
  | invalid => exact ⟨_, rfl⟩
  | nameless => exact ⟨_, rfl⟩
  | anonymous => exact ⟨_, rfl⟩
  | failed => exact ⟨_, rfl⟩

theorem cares_finish (cares : u.Cares k out) (i : Nat) :
    (u.move (.finish i)).Cares k out ∨ u.GivesUp k out (.finish i) := by
  simp only [move]
  split
  · rename_i lane key r errand
    refine cares.calmly .inl (u.controller.calm_finish lane key r) .inl (fun _ h _ => .inl h)
      (fun _ h => .inl h) ?_
    intro j there uneasy
    rcases mem_eraseIdx_or there i with stays | finished
    · exact .inl ⟨j, stays, uneasy⟩
    · right
      cases finished.symm.trans errand
      obtain ⟨rfl, rfl, p, uneasy, ends⟩ := uneasy
      cases outcome : (u.controller.finish .spec k.render r).1 with
      | synced =>
        obtain ⟨e, rfl⟩ := error_of_uneasy ends uneasy
        rw [Controller.outcome_finish, Outcome.decide] at outcome
        split_ifs at outcome
      | requeued n =>
        left
        rcases Controller.back_of_requeued outcome with closed | expected | ⟨instant, timed⟩
        · exact .closed closed
        · exact .expected expected
        · exact .timed timed
      | dropped => exact .inr (.dropped finished outcome)
  · exact .inl cares

theorem cares_edit (cares : u.Cares k out) (e : Edit) : (u.move (.edit e)).Cares k out :=
  cares.onward (v := u.move (.edit e)) id id .inl (fun _ => .inl) .inl
    (fun _ h _ => .inl (List.mem_append_left _ h)) (fun _ h => .inl (List.mem_append_left _ h))
    (fun j h uneasy => .inl ⟨j, h, uneasy⟩)

/-- A Secret that is cared for still is after a move, or it is there, or it is given up. -/
theorem cares_move (cares : u.Cares k out) (sound : u.cluster.Sound) (legible : k.Legible)
    {b : Binding}
    (stored : u.cluster.bindings.get? k = some b) (own : b.outputKey = out) (m : UpkeepMove) :
    (u.move m).Cares k out ∨ (u.move m).Has out ∨ u.GivesUp k out m := by
  cases m with
  | edit e => exact .inl (cares_edit cares e)
  | tell i => exact .inl (cares_tell cares i)
  | bury i => exact (cares_bury cares sound stored i).imp_right .inr
  | sight s => exact .inl (cares.calm (u.controller.calm_onSecret (.apply s)))
  | add lane key => exact .inl (cares.calm (u.controller.calm_add lane key))
  | launch => exact .inl (cares.calm u.controller.calm_launch)
  | wait instant => exact .inl (cares_wait cares instant)
  | ring i => exact .inl (cares_ring cares i)
  | take lane => exact .inl (cares_take cares lane)
  | call i => exact (cares_call cares legible stored own i).imp_right .inl
  | finish i => exact (cares_finish cares i).imp_right .inr
  | shutDown => exact .inl (cares.calm u.controller.calm_shutDown)

theorem world_move (u : Upkeep) (m : UpkeepMove) :
    Idle u.controller.world (u.move m).controller.world ∨
      ∃ e, (u.move m).controller.world = u.controller.world.edit e ∧
        (m = .edit e ∨ ∃ q, e = .request q) := by
  cases m with
  | edit e => exact .inr ⟨e, rfl, .inl rfl⟩
  | tell i =>
    left
    simp only [move]
    split
    · exact .refl _
    · exact (u.controller.calm_onBinding _).idle
  | bury i =>
    left
    simp only [move]
    split
    · exact .refl _
    · exact (u.controller.calm_onSecret _).idle
  | sight s => exact .inl (u.controller.calm_onSecret (.apply s)).idle
  | add lane key => exact .inl (u.controller.calm_add lane key).idle
  | launch => exact .inl u.controller.calm_launch.idle
  | wait instant => exact .inl (.refl _)
  | ring i =>
    left
    simp only [move]
    split
    · exact .refl _
    · exact (u.controller.calm_ring _).idle
  | take lane =>
    left
    simp only [move]
    split
    · exact .refl _
    · rename_i key c taken
      cases lane with
      | spec => exact (Controller.take_spec taken).1
      | poll => exact (Controller.calm_take taken).idle
  | call i =>
    simp only [move]
    split
    · rename_i q next _
      exact .inr ⟨.request q, rfl, .inr ⟨q, rfl⟩⟩
    · exact .inl (.refl _)
  | finish i =>
    left
    simp only [move]
    split
    · exact (u.controller.calm_finish _ _ _).idle
    · exact .refl _
  | shutDown => exact .inl (.refl _)

theorem there_insert {t : Table Key Secret} (there : ∃ s, t.get? out = some s) (j : Key)
    (s : Secret) : ∃ s', (t.insert j s).get? out = some s' := by
  rw [Table.get?_insert]
  split_ifs
  · exact ⟨s, rfl⟩
  · exact there

/-- A Secret that is there stays, whatever its content, unless it is deleted. -/
theorem there_edit {w : World} (there : ∃ s, w.cluster.secrets.get? out = some s) (e : Edit) :
    (∃ s, (w.edit e).cluster.secrets.get? out = some s) ∨ e = .removeSecret out := by
  cases e with
  | insertSecret s => exact .inl (there_insert there _ _)
  | removeSecret j =>
    by_cases same : j = out
    · exact .inr (same ▸ rfl)
    · left
      change ∃ s, (w.cluster.secrets.erase j).get? out = some s
      rw [Table.get?_erase_of_ne _ same]
      exact there
  | request q =>
    left
    cases q with
    | createSecret s =>
      change ∃ t, (w.cluster.createSecret s).2.secrets.get? out = some t
      rcases w.cluster.createSecret_cases s with ⟨-, same⟩ | ⟨j, -, -, call⟩
      · rw [same.secrets]
        exact there
      · rw [call]
        exact there_insert there j _
    | updateSecret s =>
      change ∃ t, (w.cluster.updateSecret s).2.secrets.get? out = some t
      rcases w.cluster.updateSecret_cases s with ⟨-, same⟩ | ⟨j, existing, -, -, -, call⟩
      · rw [same.secrets]
        exact there
      · rw [call]
        exact there_insert there j _
    | _ =>
      change ∃ s, (World.answer _ w).2.cluster.secrets.get? out = some s
      rw [World.secrets_answer w (by simp) (by simp)]
      exact there
  | _ => exact .inl there

/-- A binding that is stored was there before, but for its status and version, unless it has just
been applied. -/
theorem stored_edit {w : World} {e : Edit} {b : Binding}
    (stored : (w.edit e).cluster.bindings.get? k = some b) :
    (∃ a, w.cluster.bindings.get? k = some a ∧ a.Alike b) ∨ b ∈ w.applied e := by
  have before (same : (w.edit e).cluster.bindings = w.cluster.bindings) :
      (∃ a, w.cluster.bindings.get? k = some a ∧ a.Alike b) ∨ b ∈ w.applied e :=
    .inl ⟨b, same ▸ stored, .refl b⟩
  cases e with
  | insertBinding d =>
    change (w.cluster.bindings.insert d.metadata.key (w.cluster.insertBinding d).1).get? k =
      some b at stored
    rw [Table.get?_insert] at stored
    split_ifs at stored
    · exact .inr (List.mem_singleton.2 (Option.some.inj stored).symm)
    · exact .inl ⟨b, stored, .refl b⟩
  | removeBinding j =>
    change (w.cluster.bindings.erase j).get? k = some b at stored
    rw [Table.get?_erase] at stored
    split_ifs at stored
    exact .inl ⟨b, stored, .refl b⟩
  | request q =>
    cases q with
    | updateStatus d =>
      rcases w.cluster.updateStatus_cases d with ⟨-, same, -⟩ | ⟨j, existing, -, found, call⟩
      · exact before same.bindings
      · change (w.cluster.updateStatus d).2.bindings.get? k = some b at stored
        rw [call] at stored
        change (w.cluster.bindings.insert j _).get? k = some b at stored
        rw [Table.get?_insert] at stored
        split_ifs at stored with same
        · cases Option.some.inj stored
          exact .inl ⟨existing, same ▸ found, Binding.alike_restated _ _ _⟩
        · exact .inl ⟨b, stored, .refl b⟩
    | _ => exact before (World.bindings_answer w (by simp))
  | _ => exact before rfl

theorem sound_move (sound : u.cluster.Sound) (m : UpkeepMove) : (u.move m).cluster.Sound := by
  rcases u.world_move m with idle | ⟨e, world, -⟩
  · exact sound.grows idle.cluster.grows
  · rw [cluster, world]
    exact sound.grows (World.grows_edit _ e)

theorem has_move (has : u.Has out) (k : Key) (m : UpkeepMove) :
    (u.move m).Has out ∨ (u.move m).Cares k out := by
  rcases u.world_move m with idle | ⟨e, world, same⟩
  · left
    rw [Has, cluster, idle.cluster.secrets]
    exact has
  · rcases there_edit has e with there | rfl
    · left
      rw [Has, cluster, world]
      exact there
    · rcases same with rfl | ⟨q, none⟩
      · obtain ⟨s, found⟩ := has
        refine .inr (.deleted (s := s) (List.mem_append_right _ ?_))
        simp [World.deleted, found]
      · exact nomatch none

theorem stored_move (sound : u.cluster.Sound) {m : UpkeepMove} {b : Binding}
    (stored : (u.move m).cluster.bindings.get? k = some b) (out : Key) :
    (∃ a, u.cluster.bindings.get? k = some a ∧ a.outputKey = b.outputKey) ∨
      (u.move m).Cares k out := by
  have placed := (sound_move sound m).placed stored
  rcases u.world_move m with idle | ⟨e, world, same⟩
  · rw [cluster, idle.cluster.bindings] at stored
    exact .inl ⟨b, stored, rfl⟩
  · rw [cluster, world] at stored
    rcases stored_edit stored with ⟨a, found, alike⟩ | applied
    · exact .inl ⟨a, found, alike.outputKey.symm⟩
    · rcases same with rfl | ⟨q, rfl⟩
      · refine .inr (.applied (List.mem_append_right _ applied) ?_)
        rw [Binding.key, placed]
      · exact nomatch applied

/-- In the course of a run the Secret was given up, and it has been missing ever since. -/
def Forsaken (u : Upkeep) (k out : Key) (ms : List UpkeepMove) : Prop :=
  ∃ before m after, ms = before ++ m :: after ∧ (u.run before).GivesUp k out m ∧
    ∀ during, during <+: after → ¬ (u.run (before ++ m :: during)).Has out

theorem run_snoc (u : Upkeep) (ms : List UpkeepMove) (m : UpkeepMove) :
    u.run (ms ++ [m]) = (u.run ms).move m :=
  u.run_append ms [m]

theorem Forsaken.begin {ms : List UpkeepMove} {m : UpkeepMove} (gives : (u.run ms).GivesUp k out m)
    (missing : ¬ (u.run (ms ++ [m])).Has out) : u.Forsaken k out (ms ++ [m]) := by
  refine ⟨ms, m, [], rfl, gives, ?_⟩
  intro during early
  rw [List.prefix_nil.1 early]
  exact missing

theorem Forsaken.still {ms : List UpkeepMove} {m : UpkeepMove} (forsaken : u.Forsaken k out ms)
    (missing : ¬ (u.run (ms ++ [m])).Has out) : u.Forsaken k out (ms ++ [m]) := by
  obtain ⟨before, m', after, rfl, gives, gone⟩ := forsaken
  refine ⟨before, m', after ++ [m], by simp, gives, ?_⟩
  intro during early
  rcases List.prefix_concat_iff.1 early with rfl | early
  · simpa using missing
  · exact gone during early

theorem sound_run (sound : u.cluster.Sound) (ms : List UpkeepMove) : (u.run ms).cluster.Sound := by
  induction ms generalizing u with
  | nil => exact sound
  | cons m rest ih => exact ih (sound_move sound m)

/-- At any time the Secret of a stored binding is cared for, or is there, or is forsaken. -/
theorem kept_run (sound : u.cluster.Sound)
    (told : ∀ k b, u.cluster.bindings.get? k = some b → b ∈ u.applied) (ms : List UpkeepMove)
    (legible : k.Legible) {b : Binding}
    (stored : (u.run ms).cluster.bindings.get? k = some b) :
    (u.run ms).Cares k b.outputKey ∨ (u.run ms).Has b.outputKey ∨
      u.Forsaken k b.outputKey ms := by
  -- from the end: what is stored last says which Secret it is about
  induction ms using List.reverseRecOn generalizing b with
  | nil =>
    have own : b.key = k.render := by rw [Binding.key, sound.placed stored]
    exact .inl (.applied (told k b stored) own)
  | append_singleton ms m ih =>
    by_cases has : (u.run (ms ++ [m])).Has b.outputKey
    · exact .inr (.inl has)
    · have missing := has
      have sound := sound_run sound ms
      rw [run_snoc] at stored has ⊢
      rcases stored_move sound stored b.outputKey with ⟨a, found, same⟩ | cares
      · rcases same ▸ ih found with cares | there | forsaken
        · rcases cares_move cares sound legible found same m with cares | there | gives
          · exact .inl cares
          · exact absurd there has
          · exact .inr (.inr (.begin gives missing))
        · rcases has_move there k m with there | cares
          · exact absurd there has
          · exact .inl cares
        · exact .inr (.inr (forsaken.still missing))
      · exact .inl cares

structure AtRest (u : Upkeep) (lane : Lane) : Prop where
  queue : ∀ key, ¬ (u.controller.station lane).queue.Expects key
  alarms : ∀ t ∈ u.controller.alarms.pending, ∀ key, t.2 ≠ .add lane key
  ringing : ∀ a ∈ u.ringing, ∀ key, a ≠ .add lane key
  errands : ∀ j ∈ u.errands, j.lane ≠ lane

theorem AtRest.careless (rest : u.AtRest .spec) (told : u.applied = []) (buried : u.deleted = [])
    (isOpen : u.specQueue.closed = false) : ¬ u.Cares k out := by
  intro cares
  cases cares with
  | closed h => exact nomatch isOpen.symm.trans h
  | expected h => exact rest.queue _ h
  | timed h => exact rest.alarms _ h _ rfl
  | ringing h => exact rest.ringing _ h _ rfl
  | applied h => exact nomatch told ▸ h
  | deleted h => exact nomatch buried ▸ h
  | working h uneasy => exact rest.errands _ h uneasy.1

theorem told_start {s : Settings} {w : World} {b : Binding}
    (stored : w.cluster.bindings.get? k = some b) : b ∈ (start s w).applied :=
  List.mem_map_of_mem (f := Prod.snd) (Table.mem_entries_iff.2 stored)

/-- Whatever is deleted and whatever fails: when the spec syncs have come to rest and every event is
handled, the output Secret of every stored binding is there, or it has been missing ever since it
was given up, because a spec sync of the binding was dropped or the deleted Secret did not lead to
the binding. -/
theorem missing_secret_was_given_up (s : Settings) {w : World} (reachable : w.Reachable)
    (ms : List UpkeepMove) {k : Key} {b : Binding} (legible : k.Legible)
    (stored : ((start s w).run ms).cluster.bindings.get? k = some b)
    (rest : ((start s w).run ms).AtRest .spec) (told : ((start s w).run ms).applied = [])
    (buried : ((start s w).run ms).deleted = [])
    (isOpen : ((start s w).run ms).specQueue.closed = false) :
    (∃ t, ((start s w).run ms).cluster.secrets.get? b.outputKey = some t) ∨
      ∃ before m after, ms = before ++ m :: after ∧
        ((start s w).run before).GivesUp k b.outputKey m ∧
        ∀ during, during <+: after →
          ¬ ∃ t, ((start s w).run (before ++ m :: during)).cluster.secrets.get? b.outputKey =
            some t := by
  have sound : (start s w).cluster.Sound := reachable.sound
  rcases kept_run sound (fun _ _ => told_start) ms legible stored with cares | has | forsaken
  · exact absurd cares (rest.careless told buried isOpen)
  · exact .inl has
  · exact .inr forsaken

def outcome? (u : Upkeep) : UpkeepMove → Option (Lane × String × Outcome)
  | .finish i =>
    match u.errands[i]? with
    | some ⟨lane, key, .done r⟩ => some (lane, key, (u.controller.finish lane key r).1)
    | _ => none
  | _ => none

def work (lane : Lane) : List UpkeepMove :=
  .take lane :: List.replicate 8 (.call 0) ++ [.finish 0]

def impatient : Settings := { Settings.standard with maxRetries := 1 }

/-- The Secret is made and then deleted, and the vault cannot be read for as long as the retry
takes. Then there is a tick, and the binding is polled. -/
def forsaking : List UpkeepMove :=
  .tell 0 :: work .spec ++
    [.edit (.removeSecret ⟨"default", "db-secret"⟩),
      .edit (.vault ((Vault.sample "old").failNext 2)), .bury 0] ++
    work .spec ++ [.wait 5, .ring 0] ++ work .spec ++ [.launch] ++ work .poll

abbrev afterForsaking : Upkeep := (start impatient (.sample "old")).run forsaking

theorem afterForsaking_controller : (∀ lane ∈ [Lane.spec, .poll],
      (afterForsaking.controller.station lane).queue = .empty) ∧
    afterForsaking.controller.alarms.pending = [(60005, .tick 0)] ∧
    afterForsaking.ringing = [] ∧ afterForsaking.errands.length = 0 ∧
    afterForsaking.applied = [] ∧ afterForsaking.deleted = [] := by
  decide +kernel

theorem afterForsaking_cluster :
    afterForsaking.cluster.bindings.get? ⟨"default", "db-cred"⟩ = some .synced ∧
    afterForsaking.cluster.secrets.get? ⟨"default", "db-secret"⟩ = none := by
  decide +kernel

theorem specQueue_eq (u : Upkeep) : u.specQueue = (u.controller.station .spec).queue := rfl

theorem afterForsaking_queue (lane : Lane) :
    (afterForsaking.controller.station lane).queue = .empty :=
  afterForsaking_controller.1 lane (by cases lane <;> simp)

theorem afterForsaking_atRest (lane : Lane) : afterForsaking.AtRest lane := by
  obtain ⟨-, alarms, ringing, errands, -⟩ := afterForsaking_controller
  constructor
  · intro key
    rw [afterForsaking_queue]
    simp [WorkQueue.Expects, WorkQueue.empty]
  · simp [alarms]
  · simp [ringing]
  · simp [List.eq_nil_of_length_eq_zero errands]

theorem forsaken_secret_was_given_up :
    Key.Legible ⟨"default", "db-cred"⟩ ∧
    afterForsaking.cluster.bindings.get? ⟨"default", "db-cred"⟩ = some .synced ∧
    afterForsaking.AtRest .spec ∧ afterForsaking.applied = [] ∧ afterForsaking.deleted = [] ∧
    afterForsaking.specQueue.closed = false ∧
    ∃ before m after, forsaking = before ++ m :: after ∧
      ((start impatient (.sample "old")).run before).GivesUp ⟨"default", "db-cred"⟩
        ⟨"default", "db-secret"⟩ m := by
  obtain ⟨stored, missing⟩ := afterForsaking_cluster
  obtain ⟨-, -, -, -, told, buried⟩ := afterForsaking_controller
  have legible : Key.Legible ⟨"default", "db-cred"⟩ := by
    intro j parsed
    have own : Key.parse? (Key.render ⟨"default", "db-cred"⟩) = some ⟨"default", "db-cred"⟩ := by
      decide +kernel
    exact Option.some.inj (parsed.symm.trans own)
  have rest := afterForsaking_atRest .spec
  have isOpen : afterForsaking.specQueue.closed = false := by
    rw [specQueue_eq, afterForsaking_queue]
    rfl
  refine ⟨legible, stored, rest, told, buried, isOpen, ?_⟩
  have given := missing_secret_was_given_up impatient (World.sample_reachable "old") forsaking
    (b := .synced) legible
  rw [← afterForsaking] at given
  rcases given stored rest told buried isOpen with there | ⟨before, m, after, cut, gives, -⟩
  · rw [show Binding.synced.outputKey = ⟨"default", "db-secret"⟩ from rfl, missing] at there
    obtain ⟨t, there⟩ := there
    exact nomatch there
  · exact ⟨before, m, after, cut, gives⟩

/-- Nothing is left to do in either lane and the last poll went well, since the status tells of the
value in the vault. The Secret is missing all the same. -/
theorem deleted_secret_stays_missing :
    (World.sample "old").Reachable ∧ Key.parse? "default/db-cred" = some ⟨"default", "db-cred"⟩ ∧
    afterForsaking.cluster.bindings.get? ⟨"default", "db-cred"⟩ = some .synced ∧
    (∀ lane, afterForsaking.AtRest lane ∧
      (afterForsaking.controller.station lane).queue.processing = [] ∧
      (afterForsaking.controller.station lane).queue.closed = false) ∧
    afterForsaking.applied = [] ∧ afterForsaking.deleted = [] ∧
    (collect move outcome? (start impatient (.sample "old")) forsaking).getLast? =
      some (.poll, "default/db-cred", .synced) ∧
    Binding.synced.outputKey = ⟨"default", "db-secret"⟩ ∧
    afterForsaking.cluster.secrets.get? ⟨"default", "db-secret"⟩ = none := by
  obtain ⟨stored, missing⟩ := afterForsaking_cluster
  obtain ⟨-, -, -, -, told, buried⟩ := afterForsaking_controller
  refine ⟨World.sample_reachable "old", by decide +kernel, stored, ?_, told, buried,
    by decide +kernel, rfl, missing⟩
  intro lane
  have queue := afterForsaking_queue lane
  exact ⟨afterForsaking_atRest lane, congrArg WorkQueue.processing queue,
    congrArg WorkQueue.closed queue⟩

end Upkeep

end SecretSync
