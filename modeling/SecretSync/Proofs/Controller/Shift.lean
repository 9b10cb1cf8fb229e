import SecretSync.Proofs.Controller.Aside
import SecretSync.Proofs.Pass.Reachable
import Mathlib.Logic.Function.Basic

/-!
A run of a controller, from the start of its workers until it returns: in each lane as many workers
as are set look for keys, run their passes call by call, settle the results and finish the keys,
and anybody else may come in between.
-/
namespace SecretSync

/-- What a worker is at: looking for a key, at the pass over one, about to finish one whose result is
settled, or gone. -/
inductive Duty where
  | free
  | busy (key : String) (rest : Program (Except PassError Unit))
  | settled (key : String)
  | gone

namespace Duty

def key? : Duty → Option String
  | .busy key _ => some key
  | .settled key => some key
  | _ => none

def isGone : Duty → Bool
  | .gone => true
  | _ => false

def ofFound (lane : Lane) : Station.Found → Duty
  | .key k => .busy k (lane.pass k).run
  | .closed => .gone
  | .nothing => .free

end Duty

/-- How far a run is: its workers are to be started, it waits for the word to stop, it has closed
the queue of the spec syncs, it waits for its workers, or it has returned. -/
inductive Progress where
  | planned
  | looping
  | closing
  | joining
  | returned
  deriving DecidableEq

/-- A controller and its run. `ringing` are the alarms that have gone off and are not seen to yet,
and `told` says that the run has the word to stop. -/
structure Shift where
  controller : Controller
  ringing : List Alarm
  posts : Lane → List Duty
  told : Bool
  progress : Progress

inductive ShiftMove where
  /-- Anybody changes something stored, or makes calls fail. -/
  | edit (e : Edit)
  | binding (e : WatchEvent Binding)
  | secret (e : WatchEvent Secret)
  | sighting (s : Sighting)
  | add (lane : Lane) (key : String)
  /-- What is due for a poll is queued. -/
  | tick
  | wait (instant : Nat)
  /-- An alarm that has gone off is seen to. -/
  | ring (alarm : Nat)
  | tell
  /-- Anybody closes a queue. -/
  | close (lane : Lane)
  /-- The run does its next step. -/
  | run
  | look (lane : Lane) (worker : Nat)
  /-- A pass makes its next call. -/
  | call (lane : Lane) (worker : Nat)
  /-- The result of a pass is settled. -/
  | settle (lane : Lane) (worker : Nat)
  | finish (lane : Lane) (worker : Nat)

def ShiftMove.own : ShiftMove → Bool
  | .run | .look .. | .call .. | .settle .. | .finish .. => true
  | _ => false

namespace Shift

def start (s : Settings) (w : World) : Shift :=
  let c := Controller.make s w
  ⟨c, [], fun _ => List.replicate c.workers .free, false, .planned⟩

abbrev queue (u : Shift) (lane : Lane) : WorkQueue := (u.controller.station lane).queue

def post? (u : Shift) (lane : Lane) (worker : Nat) : Option Duty := (u.posts lane)[worker]?

def put (u : Shift) (c : Controller) (lane : Lane) (worker : Nat) (p : Duty) : Shift :=
  { u with
    controller := c
    posts := Function.update u.posts lane ((u.posts lane).set worker p) }

def deserted (u : Shift) : Bool := (u.posts .spec ++ u.posts .poll).all Duty.isGone

/-- The next step of a run. It stops when it is told to, and returns when all its workers have. -/
def advance (u : Shift) : Shift :=
  match u.progress with
  | .planned => { u with controller := u.controller.launch, progress := .looping }
  | .looping =>
    if u.told then { u with controller := u.controller.close .spec, progress := .closing } else u
  | .closing => { u with controller := u.controller.close .poll, progress := .joining }
  | .joining => if u.deserted then { u with progress := .returned } else u
  | .returned => u

/-- A move. A worker does only what its post is about, and looks for a key when it is started. -/
def move (u : Shift) : ShiftMove → Shift
  | .edit e => { u with controller := { u.controller with world := u.controller.world.edit e } }
  | .binding e => { u with controller := u.controller.onBinding e }
  | .secret e => { u with controller := u.controller.onSecret e }
  | .sighting s => { u with controller := u.controller.handleSighting s }
  | .add lane key => { u with controller := u.controller.add lane key }
  | .tick => { u with controller := u.controller.enqueueDue }
  | .wait instant =>
    { u with
      controller := (u.controller.reach instant).2
      ringing := u.ringing ++ (u.controller.reach instant).1 }
  | .ring i =>
    match u.ringing[i]? with
    | none => u
    | some a => { u with controller := u.controller.ring a, ringing := u.ringing.eraseIdx i }
  | .tell => { u with told := true }
  | .close lane => { u with controller := u.controller.close lane }
  | .run => u.advance
  | .look lane i =>
    match u.post? lane i with
    | some .free =>
      if u.progress = .planned then u
      else
        let (found, s, m) := (u.controller.station lane).look u.controller.world.metrics
        u.put ((u.controller.setStation lane s).setMetrics m) lane i (.ofFound lane found)
    | _ => u
  | .call lane i =>
    match u.post? lane i with
    | some (.busy key (.ask q next)) =>
      let r := World.answer q u.controller.world
      u.put { u.controller with world := r.2 } lane i (.busy key (next r.1))
    | _ => u
  | .settle lane i =>
    match u.post? lane i with
    | some (.busy key (.done r)) =>
      let (outcome, c) := u.controller.settle lane key r
      u.put (c.recordPoll lane key outcome) lane i (.settled key)
    | _ => u
  | .finish lane i =>
    match u.post? lane i with
    | some (.settled key) =>
      u.put (u.controller.change lane fun s m => s.finish key m) lane i .free
    | _ => u

def run (u : Shift) (ms : List ShiftMove) : Shift := ms.foldl move u

def handed? (lane : Lane) (u : Shift) : ShiftMove → Option String
  | .look l i =>
    match u.post? l i with
    | some .free =>
      if u.progress = .planned ∨ l ≠ lane then none
      else ((u.controller.station l).look u.controller.world.metrics).1.key?
    | _ => none
  | _ => none

def done? (lane : Lane) (u : Shift) : ShiftMove → Option String
  | .finish l i =>
    match u.post? l i with
    | some (.settled key) => if l = lane then some key else none
    | _ => none
  | _ => none

variable {u : Shift} {m : ShiftMove} {lane : Lane} {key : String}

def held (u : Shift) (lane : Lane) : List String := (u.posts lane).filterMap Duty.key?

theorem held_put {l : Lane} {i : Nat} {p : Duty} (there : u.post? l i = some p) (c : Controller)
    (q : Duty) :
    (p.key?.toList ++ (u.put c l i q).held l).Perm (q.key?.toList ++ u.held l) := by
  obtain ⟨inside, rfl⟩ := List.getElem?_eq_some_iff.1 there
  have posts : (u.put c l i q).posts l = (u.posts l).set i q := Function.update_self ..
  have split : u.posts l = (u.posts l).take i ++ (u.posts l)[i] :: (u.posts l).drop (i + 1) := by
    rw [List.getElem_cons_drop, List.take_append_drop]
  rw [held, held, posts, List.set_eq_take_append_cons_drop, if_pos inside]
  conv_rhs => rw [split]
  simp only [List.filterMap_append, List.filterMap_cons]
  rw [List.perm_iff_count]
  intro k
  cases (u.posts l)[i].key? <;> cases q.key? <;> simp [List.count_cons] <;> omega

theorem held_put_other {l : Lane} (other : lane ≠ l) (c : Controller) (i : Nat) (q : Duty) :
    (u.put c l i q).held lane = u.held lane :=
  congrArg (List.filterMap Duty.key?) (Function.update_of_ne other ..)

theorem held_put_same {l : Lane} {i : Nat} {p q : Duty} (there : u.post? l i = some p)
    (same : q.key? = p.key?) (c : Controller) (lane : Lane) :
    ((u.put c l i q).held lane).Perm (u.held lane) := by
  by_cases own : lane = l
  · subst own
    have put := held_put there c q
    rw [same] at put
    exact (List.perm_append_left_iff _).1 put
  · rw [held_put_other own]

/-- What a move is: one of the run or of a worker that can make it, or one beside them. -/
inductive Turn (u : Shift) : ShiftMove → Shift → Prop
  | aside {m : ShiftMove} {v : Shift} (kept : u.controller.Kept v.controller)
    (posts : v.posts = u.posts) (progress : v.progress = u.progress)
    (told : u.told = true → v.told = true) (handed : ∀ lane, handed? lane u m = none)
    (done : ∀ lane, done? lane u m = none) : Turn u m v
  | run : Turn u .run u.advance
  | look {l : Lane} {i : Nat} {found : Station.Found} {s : Station} {m : Metrics}
    (there : u.post? l i = some .free) (started : u.progress ≠ .planned)
    (looked : (u.controller.station l).look u.controller.world.metrics = (found, s, m)) :
    Turn u (.look l i)
      (u.put ((u.controller.setStation l s).setMetrics m) l i (.ofFound l found))
  | call {l : Lane} {i : Nat} {key : String} {q : Request}
    {next : q.Answer → Program (Except PassError Unit)}
    (there : u.post? l i = some (.busy key (.ask q next))) :
    Turn u (.call l i)
      (u.put { u.controller with world := (World.answer q u.controller.world).2 } l i
        (.busy key (next (World.answer q u.controller.world).1)))
  | settle {l : Lane} {i : Nat} {key : String} {r : Except PassError Unit}
    (there : u.post? l i = some (.busy key (.done r))) :
    Turn u (.settle l i)
      (u.put ((u.controller.settle l key r).2.recordPoll l key (u.controller.settle l key r).1) l i
        (.settled key))
  | finish {l : Lane} {i : Nat} {key : String} (there : u.post? l i = some (.settled key)) :
    Turn u (.finish l i) (u.put (u.controller.change l fun s m => s.finish key m) l i .free)

theorem Turn.still (handed : ∀ lane, handed? lane u m = none)
    (done : ∀ lane, done? lane u m = none) : u.Turn m u :=
  .aside (.refl _) rfl rfl id handed done

theorem turn (u : Shift) (m : ShiftMove) : u.Turn m (u.move m) := by
  cases m with
  | edit e =>
    refine .aside (.of_stations rfl fun lane => ?_) rfl rfl id (fun _ => rfl) fun _ => rfl
    cases lane <;> rfl
  | binding e => exact .aside (u.controller.kept_onBinding e) rfl rfl id (fun _ => rfl) fun _ => rfl
  | secret e => exact .aside (u.controller.kept_onSecret e) rfl rfl id (fun _ => rfl) fun _ => rfl
  | sighting s =>
    exact .aside (u.controller.kept_handleSighting s) rfl rfl id (fun _ => rfl) fun _ => rfl
  | add l key => exact .aside (u.controller.kept_add l key) rfl rfl id (fun _ => rfl) fun _ => rfl
  | tick => exact .aside u.controller.kept_enqueueDue rfl rfl id (fun _ => rfl) fun _ => rfl
  | wait instant =>
    exact .aside (u.controller.kept_reach instant) rfl rfl id (fun _ => rfl) fun _ => rfl
  | ring i =>
    simp only [move]
    split
    · exact .still (fun _ => rfl) fun _ => rfl
    · exact .aside (u.controller.kept_ring _) rfl rfl id (fun _ => rfl) fun _ => rfl
  | tell => exact .aside (.refl _) rfl rfl (fun _ => rfl) (fun _ => rfl) fun _ => rfl
  | close l => exact .aside (u.controller.kept_close l) rfl rfl id (fun _ => rfl) fun _ => rfl
  | run => exact .run
  | look l i =>
    simp only [move]
    split
    · rename_i there
      split_ifs with planned
      · exact .still (fun _ => by simp [handed?, there, planned]) fun _ => rfl
      · exact .look there planned rfl
    · exact .still (fun _ => by simp only [handed?]) fun _ => rfl
  | call l i =>
    simp only [move]
    split
    · exact .call ‹_›
    · exact .still (fun _ => rfl) fun _ => rfl
  | settle l i =>
    simp only [move]
    split
    · exact .settle ‹_›
    · exact .still (fun _ => rfl) fun _ => rfl
  | finish l i =>
    simp only [move]
    split
    · exact .finish ‹_›
    · exact .still (fun _ => rfl) fun _ => by simp only [done?]

inductive Stride (u : Shift) : Shift → Prop
  | launch (planned : u.progress = .planned) :
    Stride u { u with controller := u.controller.launch, progress := .looping }
  | stop (looping : u.progress = .looping) (told : u.told = true) :
    Stride u { u with controller := u.controller.close .spec, progress := .closing }
  | close (closing : u.progress = .closing) :
    Stride u { u with controller := u.controller.close .poll, progress := .joining }
  | join (joining : u.progress = .joining) (deserted : u.deserted = true) :
    Stride u { u with progress := .returned }
  | stay : Stride u u

theorem stride (u : Shift) : Stride u u.advance := by
  unfold advance
  split
  · exact .launch ‹_›
  · split_ifs with told
    · exact .stop ‹_› told
    · exact .stay
  · exact .close ‹_›
  · split_ifs with deserted
    · exact .join ‹_› deserted
    · exact .stay
  · exact .stay

theorem posts_advance (u : Shift) : u.advance.posts = u.posts := by
  have stride := u.stride
  generalize u.advance = v at stride ⊢
  cases stride <;> rfl

theorem kept_advance (u : Shift) : u.controller.Kept u.advance.controller := by
  have stride := u.stride
  generalize u.advance = v at stride ⊢
  cases stride with
  | launch => exact u.controller.kept_launch
  | stop => exact u.controller.kept_close .spec
  | close => exact u.controller.kept_close .poll
  | join => exact .refl _
  | stay => exact .refl _

/-- What a move does in a lane: it hands out no key and finishes none, or it hands one out to a
worker, or a worker finishes the one it had. -/
inductive Effect (u : Shift) (m : ShiftMove) (v : Shift) (lane : Lane) : Prop
  | kept (queue : (u.queue lane).Kept (v.queue lane)) (held : (v.held lane).Perm (u.held lane))
    (handed : handed? lane u m = none) (done : done? lane u m = none)
  | handed {key : String} (taken : (u.queue lane).take? = some (key, v.queue lane))
    (held : (v.held lane).Perm (key :: u.held lane)) (handed : handed? lane u m = some key)
    (done : done? lane u m = none)
  | done {key : String} (finished : v.queue lane = (u.queue lane).finish key)
    (held : (u.held lane).Perm (key :: v.held lane)) (handed : handed? lane u m = none)
    (done : done? lane u m = some key)

theorem Effect.of_put {l : Lane} {i : Nat} {p q : Duty} {c : Controller}
    (there : u.post? l i = some p) (same : q.key? = p.key?) (kept : u.controller.Kept c)
    (handed : handed? lane u m = none) (done : done? lane u m = none) :
    u.Effect m (u.put c l i q) lane :=
  .kept (kept.queue lane) (held_put_same there same c lane) handed done

theorem effect_look {l : Lane} {i : Nat} {found : Station.Found} {s : Station} {m : Metrics}
    (there : u.post? l i = some .free) (started : u.progress ≠ .planned)
    (looked : (u.controller.station l).look u.controller.world.metrics = (found, s, m)) :
    u.Effect (.look l i)
      (u.put ((u.controller.setStation l s).setMetrics m) l i (.ofFound l found)) lane := by
  let c := (u.controller.setStation l s).setMetrics m
  have handed : handed? lane u (.look l i) = if l = lane then found.key? else none := by
    simp only [handed?, there, started, false_or, ite_not, looked]
  have queue : (c.station lane).queue = if lane = l then s.queue else u.queue lane := by
    rw [Controller.station_setMetrics, Controller.station_setStation, apply_ite Station.queue]
  have cases := (u.controller.station l).look_cases u.controller.world.metrics
  rw [looked] at cases
  rcases cases with ⟨key, rfl, taken⟩ | ⟨nothing, same⟩
  · by_cases own : lane = l
    · subst own
      rw [if_pos rfl] at handed queue
      refine .handed (taken.trans ?_) (held_put there c _) handed rfl
      exact congrArg (fun q => some (key, q)) queue.symm
    · rw [if_neg own] at queue
      rw [if_neg (Ne.symm own)] at handed
      exact .kept (.of_eq queue) (.of_eq (held_put_other own ..)) handed rfl
  · have keyless : found.key? = none ∧ (Duty.ofFound l found).key? = none := by
      cases found with
      | key k => exact absurd rfl (nothing k)
      | _ => exact ⟨rfl, rfl⟩
    rw [keyless.1, ite_self] at handed
    refine .of_put there keyless.2 ?_ handed rfl
    exact (u.controller.kept_setStation l (same ▸ .refl _)).trans (Controller.kept_setMetrics _ _)

theorem effect_finish {l : Lane} {i : Nat} {key : String}
    (there : u.post? l i = some (.settled key)) :
    u.Effect (.finish l i) (u.put (u.controller.change l fun s m => s.finish key m) l i .free)
      lane := by
  let c := u.controller.change l fun s m => s.finish key m
  have done : done? lane u (.finish l i) = if l = lane then some key else none := by
    simp only [done?, there]
  have station := u.controller.station_change l lane fun s m => s.finish key m
  by_cases own : lane = l
  · subst own
    rw [if_pos rfl] at done station
    exact .done (congrArg Station.queue station) (held_put there c .free).symm rfl done
  · rw [if_neg own] at station
    rw [if_neg (Ne.symm own)] at done
    exact .kept (.of_eq (congrArg Station.queue station)) (.of_eq (held_put_other own ..)) rfl done

theorem effect (u : Shift) (m : ShiftMove) (lane : Lane) : u.Effect m (u.move m) lane := by
  have turn := u.turn m
  generalize u.move m = v at turn ⊢
  cases turn with
  | aside kept posts _ _ handed done =>
    have held : v.held lane = u.held lane := by rw [Shift.held, posts, Shift.held]
    exact .kept (kept.queue lane) (.of_eq held) (handed lane) (done lane)
  | run =>
    have held : u.advance.held lane = u.held lane := by
      rw [Shift.held, posts_advance, Shift.held]
    exact .kept (u.kept_advance.queue lane) (.of_eq held) rfl rfl
  | look there started looked => exact effect_look there started looked
  | call there =>
    refine .of_put there rfl ?_ rfl rfl
    exact .of_stations rfl fun lane => by cases lane <;> rfl
  | settle there =>
    refine .of_put there rfl ?_ rfl rfl
    exact (u.controller.kept_settle ..).trans (Controller.kept_recordPoll ..)
  | finish there => exact effect_finish there

structure Staffed (u v : Shift) : Prop where
  workers : v.controller.workers = u.controller.workers
  length : ∀ lane, (v.posts lane).length = (u.posts lane).length
  gone : ∀ lane i, u.post? lane i = some .gone → v.post? lane i = some .gone

theorem Staffed.of_posts {v : Shift} (kept : u.controller.Kept v.controller)
    (posts : v.posts = u.posts) : u.Staffed v where
  workers := kept.workers
  length := fun lane => by rw [posts]
  gone := fun lane i gone => by rwa [post?, posts]

theorem Staffed.trans {v w : Shift} (h : u.Staffed v) (k : v.Staffed w) : u.Staffed w where
  workers := k.workers.trans h.workers
  length := fun lane => (k.length lane).trans (h.length lane)
  gone := fun lane i gone => k.gone lane i (h.gone lane i gone)

theorem post?_put {l : Lane} {i : Nat} {p : Duty} (there : u.post? l i = some p) (c : Controller)
    (q : Duty) (lane : Lane) (j : Nat) :
    (u.put c l i q).post? lane j = if lane = l ∧ j = i then some q else u.post? lane j := by
  by_cases own : lane = l
  · subst own
    have posts : (u.put c lane i q).posts lane = (u.posts lane).set i q :=
      Function.update_self ..
    have inside : i < (u.posts lane).length := (List.getElem?_eq_some_iff.1 there).1
    rw [post?, posts, List.getElem?_set]
    by_cases same : i = j
    · simp [same, same ▸ inside]
    · simp [same, Ne.symm same, post?]
  · have posts : (u.put c l i q).posts lane = u.posts lane := Function.update_of_ne own ..
    rw [post?, posts, if_neg (own ·.1), post?]

theorem staffed_put {l : Lane} {i : Nat} {p : Duty} (there : u.post? l i = some p)
    (present : p ≠ .gone) {c : Controller} (workers : c.workers = u.controller.workers) (q : Duty) :
    u.Staffed (u.put c l i q) where
  workers := workers
  length := by
    intro lane
    by_cases own : lane = l
    · subst own
      simp [put]
    · simp [put, own]
  gone := by
    intro lane j gone
    rw [post?_put there]
    split_ifs with same
    · obtain ⟨rfl, rfl⟩ := same
      exact absurd (Option.some.inj (there.symm.trans gone)) present
    · exact gone

theorem staffed_move (u : Shift) (m : ShiftMove) : u.Staffed (u.move m) := by
  have turn := u.turn m
  generalize u.move m = v at turn ⊢
  cases turn with
  | aside kept posts => exact .of_posts kept posts
  | run => exact .of_posts u.kept_advance u.posts_advance
  | look there =>
    refine staffed_put there nofun ?_ _
    exact u.controller.workers_setStation ..
  | call there =>
    refine staffed_put there nofun ?_ _
    rfl
  | settle there =>
    refine staffed_put there nofun ?_ _
    exact ((u.controller.kept_settle ..).trans (Controller.kept_recordPoll ..)).workers
  | finish there =>
    refine staffed_put there nofun ?_ _
    exact u.controller.workers_setStation ..

theorem staffed_run (u : Shift) (ms : List ShiftMove) : u.Staffed (u.run ms) := by
  induction ms generalizing u with
  | nil => exact .of_posts (.refl _) rfl
  | cons m rest ih => exact (u.staffed_move m).trans (ih (u.move m))

theorem deserted_iff : u.deserted = true ↔ ∀ lane, ∀ p ∈ u.posts lane, p = .gone := by
  have gone (p : Duty) : p.isGone = true ↔ p = .gone := by cases p <;> simp [Duty.isGone]
  simp only [deserted, List.all_eq_true, List.mem_append, gone]
  constructor
  · intro all lane p there
    cases lane with
    | spec => exact all p (.inl there)
    | poll => exact all p (.inr there)
  · rintro all p (there | there)
    · exact all .spec p there
    · exact all .poll p there

theorem Staffed.deserted {v : Shift} (staffed : u.Staffed v) (deserted : u.deserted = true) :
    v.deserted = true := by
  rw [deserted_iff] at deserted ⊢
  intro lane p there
  obtain ⟨i, inside, rfl⟩ := List.mem_iff_getElem.1 there
  have before : i < (u.posts lane).length := staffed.length lane ▸ inside
  have gone : u.post? lane i = some .gone := by
    rw [post?, List.getElem?_eq_getElem before, deserted lane _ (List.getElem_mem before)]
  have still := staffed.gone lane i gone
  rw [post?, List.getElem?_eq_getElem inside] at still
  exact Option.some.inj still

theorem held_deserted (deserted : u.deserted = true) (lane : Lane) : u.held lane = [] := by
  rw [held, List.filterMap_eq_nil_iff]
  intro p there
  rw [deserted_iff.1 deserted lane p there]
  rfl

end Shift

end SecretSync
