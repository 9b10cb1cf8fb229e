import SecretSync.Proofs.Controller.Listing
import SecretSync.Proofs.Controller.Schedule
import SecretSync.Proofs.Controller.Shift
import SecretSync.Proofs.Queue.Delivery

/-!
What a schedule counts against a key in a run of a controller: the polls that were dropped since one
succeeded, or since a tick listed the bindings without it. Retries, spec syncs and ticks that could
not list are not counted. A tick may list the bindings at one time and go through its list at
another, and a result may be settled before the schedule is told, with anything in between.
-/
namespace SecretSync

namespace Controller

variable {c : Controller}

section Schedule

theorem schedule_setStation (c : Controller) (lane : Lane) (s : Station) :
    (c.setStation lane s).schedule = c.schedule := by
  cases lane <;> rfl

theorem schedule_call (c : Controller) (lane : Lane) : (c.call lane).schedule = c.schedule := by
  unfold call
  split_ifs <;> rfl

theorem schedule_add (c : Controller) (lane : Lane) (key : String) :
    (c.add lane key).schedule = c.schedule :=
  (schedule_call _ lane).trans (c.schedule_setStation lane _)

theorem schedule_addAll (keys : List String) (c : Controller) (lane : Lane) :
    (keys.foldl (fun (c : Controller) key => c.add lane key) c).schedule = c.schedule := by
  induction keys generalizing c with
  | nil => rfl
  | cons key rest ih => exact (ih _).trans (c.schedule_add lane key)

theorem schedule_handleSighting (c : Controller) (e : Sighting) :
    (c.handleSighting e).schedule = c.schedule := by
  have ran : (c.runPass (Pass.resolve e)).2.schedule = c.schedule := rfl
  unfold handleSighting
  split
  · rename_i owner d found
    rw [found] at ran
    exact (d.schedule_add .spec owner.key).trans ran
  · rename_i d _ found
    rw [found] at ran
    exact ran

theorem schedule_onBinding (c : Controller) (e : WatchEvent Binding) :
    (c.onBinding e).schedule = c.schedule := by
  cases e with
  | apply b => exact c.schedule_add .spec b.key
  | initApply b => exact c.schedule_add .spec b.key
  | _ => rfl

theorem schedule_onSecret (c : Controller) (e : WatchEvent Secret) :
    (c.onSecret e).schedule = c.schedule := by
  cases e with
  | apply s => exact c.schedule_handleSighting _
  | initApply s => exact c.schedule_handleSighting _
  | delete s => exact c.schedule_handleSighting _
  | _ => rfl

theorem schedule_queueDue (c : Controller) (keys : List String) :
    (c.queueDue keys).schedule = (c.schedule.due keys (c.instant * 1000000)).2 :=
  schedule_addAll _ _ .poll

theorem schedule_settle (c : Controller) (lane : Lane) (key : String)
    (r : Except PassError Unit) : (c.settle lane key r).2.schedule = c.schedule := by
  have later (c : Controller) (delay : Option Span) :
      (c.addLater lane key delay).schedule = c.schedule := by
    cases delay <;> rfl
  exact (later _ _).trans (c.schedule_setStation lane _)

end Schedule

end Controller

/-- What a run tells of polls and of what is beside them: a result was settled, or a tick went
through its list at an instant, or had none. -/
inductive Note where
  | outcome (lane : Lane) (key : String) (o : Outcome)
  | ticked (list : Option (List String)) (instant : Nat)
  deriving DecidableEq

namespace Note

def query? : Note → Option Schedule.Query
  | .outcome .poll key .synced => some (.record key true)
  | .outcome .poll key .dropped => some (.record key false)
  | .ticked (some keys) instant => some (.due keys (instant * 1000000))
  | _ => none

/-- A poll of the key succeeded, or a tick had a list without it. -/
def clears (key : String) : Note → Bool
  | .outcome .poll k .synced => k = key
  | .ticked (some keys) _ => key ∉ keys
  | _ => false

def drops (key : String) : Note → Bool
  | .outcome .poll k .dropped => k = key
  | _ => false

/-- A retry, the end of a spec sync, or a tick without a list. -/
def Aside : Note → Prop
  | .outcome lane _ o => lane = .spec ∨ ∃ attempt, o = .requeued attempt
  | .ticked list _ => list = none

def Distinct : Note → Prop
  | .ticked (some keys) _ => keys.Nodup
  | _ => True

theorem query?_aside {n : Note} (h : n.Aside) : n.query? = none := by
  cases n with
  | outcome lane key o =>
    rcases h with rfl | ⟨attempt, rfl⟩
    · rfl
    · cases lane <;> rfl
  | ticked list instant =>
    cases h
    rfl

theorem Distinct.query {n : Note} (h : n.Distinct) {q : Schedule.Query}
    (asked : n.query? = some q) : q.Distinct := by
  cases n with
  | outcome lane key o => cases lane <;> cases o <;> cases asked <;> trivial
  | ticked list instant =>
    cases list with
    | none => exact nomatch asked
    | some keys =>
      cases asked
      exact h

end Note

/-- How many polls of a key were dropped since one succeeded or a tick had a list without it. -/
def droppedSince (notes : List Note) (key : String) : Nat :=
  (since (Note.clears key) notes).countP (Note.drops key)

theorem droppedSince_snoc (notes : List Note) (n : Note) (key : String) :
    droppedSince (notes ++ [n]) key =
      if n.clears key then 0 else droppedSince notes key + if n.drops key then 1 else 0 := by
  rw [droppedSince, since_snoc]
  split
  · rfl
  · rw [List.countP_cons, droppedSince]

namespace Schedule

def hear (s : Schedule) (n? : Option Note) : Schedule :=
  match n?.bind Note.query? with
  | none => s
  | some q => (s.ask q).2

theorem ask_counts (s : Schedule) {n : Note} {q : Query} (asked : n.query? = some q)
    (key : String) :
    (s.ask q).1.clears key = n.clears key ∧ (s.ask q).1.fails key = n.drops key := by
  cases n with
  | outcome lane k o =>
    cases lane <;> cases o <;> cases asked <;>
      simp [ask, Entry.clears, Entry.fails, Note.clears, Note.drops]
  | ticked list instant =>
    cases list <;> cases asked
    exact ⟨rfl, rfl⟩

theorem uncounted_of_query {n : Note} (silent : n.query? = none) (key : String) :
    n.clears key = false ∧ n.drops key = false := by
  cases n with
  | outcome lane k o => cases lane <;> cases o <;> first | exact ⟨rfl, rfl⟩ | exact nomatch silent
  | ticked list instant =>
    cases list with
    | none => exact ⟨rfl, rfl⟩
    | some keys => exact nomatch silent

/-- The failures that a schedule counts over what it was told are the dropped polls of the notes. -/
theorem failuresIn_notes (s : Schedule) (notes : List Note) (key : String) :
    failuresIn (s.log (notes.filterMap Note.query?)) key = droppedSince notes key := by
  -- from the end, where both counts begin
  induction notes using List.reverseRecOn with
  | nil => rfl
  | append_singleton before n ih =>
    rw [List.filterMap_append, droppedSince_snoc, ← ih]
    cases asked : n.query? with
    | none =>
      obtain ⟨clears, drops⟩ := uncounted_of_query asked key
      simp [asked, clears, drops]
    | some q =>
      have one : [n].filterMap Note.query? = [q] := by simp [asked]
      obtain ⟨clears, drops⟩ :=
        (s.after (before.filterMap Note.query?)).ask_counts asked key
      rw [one, log_append, ← clears, ← drops]
      exact failuresIn_snoc _ _ key

end Schedule

namespace Controller

variable {c : Controller}

def ticked (c : Controller) : Note := .ticked c.listing c.instant

theorem distinct_ticked (plain : c.world.cluster.Plain) : c.ticked.Distinct := by
  unfold ticked
  cases listed : c.listing with
  | none => trivial
  | some keys => exact nodup_listing plain listed

theorem schedule_enqueueDue (c : Controller) :
    c.enqueueDue.schedule = c.schedule.hear (some c.ticked) := by
  rw [enqueueDue_eq, ticked]
  cases c.listing with
  | none => rfl
  | some keys => exact c.listed.schedule_queueDue keys

theorem schedule_recordPoll (c : Controller) (lane : Lane) (key : String) (o : Outcome) :
    (c.recordPoll lane key o).schedule = c.schedule.hear (some (.outcome lane key o)) := by
  cases lane <;> cases o <;> rfl

theorem ticked_call (c : Controller) (lane : Lane) : (c.call lane).ticked = c.ticked := by
  unfold call
  split_ifs <;> rfl

theorem schedule_launch (c : Controller) :
    c.launch.schedule = c.schedule.hear (some c.ticked) := by
  refine (schedule_enqueueDue _).trans ?_
  rw [schedule_call, schedule_call, ticked_call, ticked_call]
  rfl

end Controller

namespace Shift

variable {u : Shift}

def note? (u : Shift) : ShiftMove → Option Note
  | .tick => some u.controller.ticked
  | .ring i =>
    match u.ringing[i]? with
    | some (.tick _) => some u.controller.ticked
    | _ => none
  | .run => if u.progress = .planned then some u.controller.ticked else none
  | .settle lane i =>
    match u.post? lane i with
    | some (.busy key (.done r)) => some (.outcome lane key (u.controller.settle lane key r).1)
    | _ => none
  | _ => none

theorem schedule_advance (u : Shift) :
    u.advance.controller.schedule = u.controller.schedule.hear (u.note? .run) := by
  have stride := u.stride
  unfold note?
  by_cases planned : u.progress = .planned
  · rw [if_pos planned, advance, planned]
    exact u.controller.schedule_launch
  · rw [if_neg planned]
    generalize u.advance = v at stride ⊢
    cases stride with
    | launch first => exact absurd first planned
    | _ => rfl

/-- A move changes the schedule by what its note has for it, and no other way. -/
theorem schedule_move (u : Shift) (m : ShiftMove) :
    (u.move m).controller.schedule = u.controller.schedule.hear (u.note? m) := by
  cases m with
  | binding e => exact u.controller.schedule_onBinding e
  | secret e => exact u.controller.schedule_onSecret e
  | sighting s => exact u.controller.schedule_handleSighting s
  | add lane key => exact u.controller.schedule_add lane key
  | tick => exact u.controller.schedule_enqueueDue
  | ring i =>
    simp only [move, note?]
    cases u.ringing[i]? with
    | none => rfl
    | some a =>
      cases a with
      | tick run => exact u.controller.schedule_enqueueDue
      | add lane key => exact u.controller.schedule_add lane key
      | news loop source => rfl
  | close lane => exact u.controller.schedule_setStation lane _
  | run => exact u.schedule_advance
  | look lane i =>
    simp only [move]
    split
    · split_ifs
      · rfl
      · exact u.controller.schedule_setStation lane _
    · rfl
  | call lane i =>
    simp only [move]
    split <;> rfl
  | settle lane i =>
    simp only [move, note?]
    cases u.post? lane i with
    | none => rfl
    | some p =>
      cases p with
      | busy key rest =>
        cases rest with
        | ask q next => rfl
        | done r =>
          refine (Controller.schedule_recordPoll ..).trans ?_
          rw [Controller.schedule_settle]
      | _ => rfl
  | finish lane i =>
    simp only [move]
    split
    · exact u.controller.schedule_setStation lane _
    · rfl
  | _ => rfl

theorem distinct_note (plain : u.controller.world.cluster.Plain) {m : ShiftMove} {n : Note}
    (told : u.note? m = some n) : n.Distinct := by
  have ticked := Controller.distinct_ticked plain
  unfold note? at told
  split at told
  · cases told
    exact ticked
  · split at told
    · cases told
      exact ticked
    · exact nomatch told
  · split_ifs at told
    cases told
    exact ticked
  · split at told
    · cases told
      trivial
    · exact nomatch told
  · exact nomatch told

theorem plain_move (plain : u.controller.world.cluster.Plain) {m : ShiftMove}
    (named : ∀ b, m = .edit (.insertBinding b) → '/' ∉ b.metadata.key.name.toList) :
    (u.move m).controller.world.cluster.Plain := by
  have aside {c : Controller} (calm : u.controller.Calm c) : c.world.cluster.Plain :=
    plain.of_bindings calm.idle.cluster.bindings
  cases m with
  | edit e => exact World.plain_edit plain fun b same => named b (congrArg ShiftMove.edit same)
  | binding e => exact aside (u.controller.calm_onBinding e)
  | secret e => exact aside (u.controller.calm_onSecret e)
  | sighting s => exact aside (u.controller.calm_handleSighting s)
  | add lane key => exact aside (u.controller.calm_add lane key)
  | tick => exact aside u.controller.calm_enqueueDue
  | wait instant => exact plain
  | ring i =>
    simp only [move]
    split
    · exact plain
    · exact aside (u.controller.calm_ring _)
  | tell => exact plain
  | close lane => cases lane <;> exact plain
  | run =>
    have stride := u.stride
    simp only [move]
    generalize u.advance = v at stride ⊢
    cases stride with
    | launch => exact aside u.controller.calm_launch
    | _ => exact plain
  | look lane i =>
    simp only [move]
    split
    · split_ifs
      · exact plain
      · cases lane <;> exact plain
    · exact plain
  | call lane i =>
    simp only [move]
    split
    · exact World.plain_answer plain _
    · exact plain
  | settle lane i =>
    simp only [move]
    split
    · exact aside ((u.controller.calm_settle ..).trans (Controller.calm_recordPoll ..))
    · exact plain
  | finish lane i =>
    simp only [move]
    split
    · cases lane <;> exact plain
    · exact plain

end Shift

/-- A run of a controller in which ticks and the ends of passes may be cut in two. `lists` are those
of ticks that are not gone through yet, and `reports` are results that the schedule is not told of
yet. -/
structure Tally where
  shift : Shift
  lists : List (List String)
  reports : List (Lane × String × Outcome)

inductive TallyMove where
  | shift (m : ShiftMove)
  /-- A tick looks at the bindings. -/
  | list
  /-- A tick goes through its list. -/
  | sweep (tick : Nat)
  /-- The result of a pass is settled. -/
  | settle (lane : Lane) (worker : Nat)
  /-- The schedule is told of a result. -/
  | report (result : Nat)

namespace Tally

def start (s : Settings) (w : World) : Tally := ⟨.start s w, [], []⟩

abbrev controller (t : Tally) : Controller := t.shift.controller

def withController (t : Tally) (c : Controller) : Tally :=
  { t with shift := { t.shift with controller := c } }

def move (t : Tally) : TallyMove → Tally
  | .shift m => { t with shift := t.shift.move m }
  | .list =>
    { t.withController t.controller.listed with
      lists := t.lists ++ t.controller.listing.toList }
  | .sweep i =>
    match t.lists[i]? with
    | none => t
    | some keys =>
      { t.withController (t.controller.queueDue keys) with lists := t.lists.eraseIdx i }
  | .settle lane i =>
    match t.shift.post? lane i with
    | some (.busy key (.done r)) =>
      let (outcome, c) := t.controller.settle lane key r
      { t with
        shift := t.shift.put c lane i (.settled key)
        reports := t.reports ++ [(lane, key, outcome)] }
    | _ => t
  | .report i =>
    match t.reports[i]? with
    | none => t
    | some (lane, key, outcome) =>
      { t.withController (t.controller.recordPoll lane key outcome) with
        reports := t.reports.eraseIdx i }

def run (t : Tally) (ms : List TallyMove) : Tally := ms.foldl move t

def note? (t : Tally) : TallyMove → Option Note
  | .shift m => t.shift.note? m
  | .list =>
    match t.controller.listing with
    | none => some (.ticked none t.controller.instant)
    | some _ => none
  | .sweep i => t.lists[i]?.map fun keys => .ticked (some keys) t.controller.instant
  | .settle .. => none
  | .report i => t.reports[i]?.map fun (lane, key, outcome) => .outcome lane key outcome

def notes (t : Tally) (ms : List TallyMove) : List Note := collect move note? t ms

variable {t : Tally}

theorem eraseIdx_snoc (l : List α) (a : α) : (l ++ [a]).eraseIdx l.length = l := by
  rw [List.eraseIdx_append_of_length_le (Nat.le_refl _), Nat.sub_self, List.eraseIdx_cons_zero,
    List.append_nil]

/-- A tick that lists and then goes through its list is whole when nothing comes in between. -/
theorem sweep_list {keys : List String} (listed : t.controller.listing = some keys) :
    (t.move .list).move (.sweep t.lists.length) = t.move (.shift .tick) := by
  have queued : t.controller.enqueueDue = t.controller.listed.queueDue keys := by
    rw [Controller.enqueueDue_eq, listed]
  simp only [move, listed, Option.toList_some, List.getElem?_concat_length, eraseIdx_snoc,
    withController, controller, Shift.move, queued]

theorem report_settle {lane : Lane} {i : Nat} {key : String} {r : Except PassError Unit}
    (there : t.shift.post? lane i = some (.busy key (.done r))) :
    (t.move (.settle lane i)).move (.report t.reports.length) =
      t.move (.shift (.settle lane i)) := by
  simp only [move, there, List.getElem?_concat_length, eraseIdx_snoc, withController, controller,
    Shift.move, Shift.put]

theorem schedule_move (t : Tally) (m : TallyMove) :
    (t.move m).controller.schedule = t.controller.schedule.hear (t.note? m) := by
  cases m with
  | shift m => exact t.shift.schedule_move m
  | list =>
    simp only [note?]
    cases t.controller.listing <;> rfl
  | sweep i =>
    simp only [move, note?]
    cases t.lists[i]? with
    | none => rfl
    | some keys => exact t.controller.schedule_queueDue keys
  | settle lane i =>
    simp only [move]
    split
    · exact t.controller.schedule_settle lane _ _
    · rfl
  | report i =>
    simp only [move, note?]
    cases t.reports[i]? with
    | none => rfl
    | some r => exact t.controller.schedule_recordPoll r.1 r.2.1 r.2.2

theorem schedule_run (t : Tally) (ms : List TallyMove) :
    (t.run ms).controller.schedule =
      t.controller.schedule.after ((t.notes ms).filterMap Note.query?) := by
  induction ms generalizing t with
  | nil => rfl
  | cons m rest ih =>
    change ((t.move m).run rest).controller.schedule = _
    rw [ih, schedule_move, notes, notes, collect, List.filterMap_append]
    cases t.note? m with
    | none => rfl
    | some n =>
      cases asked : n.query? <;> simp [Schedule.hear, Schedule.after, asked]

structure Distinct (t : Tally) : Prop where
  plain : t.controller.world.cluster.Plain
  lists : ∀ keys ∈ t.lists, keys.Nodup

theorem distinct_start (s : Settings) {w : World} (plain : w.cluster.Plain) :
    (start s w).Distinct :=
  ⟨plain, nofun⟩

theorem Distinct.move (h : t.Distinct) {m : TallyMove}
    (named : ∀ b, m = .shift (.edit (.insertBinding b)) → '/' ∉ b.metadata.key.name.toList) :
    (t.move m).Distinct := by
  cases m with
  | shift m => exact ⟨Shift.plain_move h.plain fun b same => named b (congrArg _ same), h.lists⟩
  | list =>
    refine ⟨?_, fun keys there => ?_⟩
    · exact h.plain.of_bindings t.controller.world.cluster.listBindings_same.bindings
    · rcases List.mem_append.1 there with before | new
      · exact h.lists keys before
      · exact Controller.nodup_listing h.plain (Option.mem_toList.1 new)
  | sweep i =>
    simp only [Tally.move]
    split
    · exact h
    · rename_i keys _
      refine ⟨?_, fun keys there => h.lists keys (List.mem_of_mem_eraseIdx there)⟩
      exact h.plain.of_bindings (t.controller.calm_queueDue keys).idle.cluster.bindings
  | settle lane i =>
    simp only [Tally.move]
    split
    · exact ⟨h.plain.of_bindings (t.controller.calm_settle lane _ _).idle.cluster.bindings, h.lists⟩
    · exact h
  | report i =>
    simp only [Tally.move]
    split
    · exact h
    · exact ⟨h.plain.of_bindings (t.controller.calm_recordPoll ..).idle.cluster.bindings, h.lists⟩

theorem Distinct.note (h : t.Distinct) {m : TallyMove} {n : Note} (told : t.note? m = some n) :
    n.Distinct := by
  cases m with
  | shift m => exact Shift.distinct_note h.plain told
  | list =>
    simp only [note?] at told
    split at told
    · cases told
      trivial
    · exact nomatch told
  | sweep i =>
    obtain ⟨keys, there, rfl⟩ := Option.map_eq_some_iff.1 told
    exact h.lists keys (List.mem_of_getElem? there)
  | settle lane i => exact nomatch told
  | report i =>
    obtain ⟨r, _, rfl⟩ := Option.map_eq_some_iff.1 told
    trivial

theorem Distinct.notes (h : t.Distinct) {ms : List TallyMove}
    (named : ∀ b, .shift (.edit (.insertBinding b)) ∈ ms → '/' ∉ b.metadata.key.name.toList) :
    ∀ n ∈ t.notes ms, n.Distinct := by
  induction ms generalizing t with
  | nil => exact nofun
  | cons m rest ih =>
    intro n there
    rcases List.mem_append.1 there with here | later
    · exact h.note (Option.mem_toList.1 here)
    · refine ih (h.move ?_) ?_ n later
      · exact fun b same => named b (same ▸ List.mem_cons_self)
      · exact fun b among => named b (List.mem_cons_of_mem m among)

/-- In a run of a controller in which no name of a binding has a slash, the schedule counts for a
key the dropped polls since one succeeded or a tick had a list without the key, as far as it can
count. A retry, the end of a spec sync and a tick without a list leave the schedule as it is, and so
does all that has nothing to do with polls. A tick that is cut in two is a whole one when nothing comes
in between, and so is the end of a pass. -/
theorem failures_count_dropped_polls (settings : Settings) (clock : Moment) (ms : List TallyMove)
    (named : ∀ b, .shift (.edit (.insertBinding b)) ∈ ms → '/' ∉ b.metadata.key.name.toList) :
    let t := start settings (.start clock)
    (∀ key, (t.run ms).controller.schedule.failures key =
      min (droppedSince (t.notes ms) key) (UInt32.size - 1)) ∧
    (∀ m, (∀ n, (t.run ms).note? m = some n → n.Aside) →
      ((t.run ms).move m).controller.schedule = (t.run ms).controller.schedule) ∧
    (∀ keys, (t.run ms).controller.listing = some keys →
      ((t.run ms).move .list).move (.sweep (t.run ms).lists.length) =
        (t.run ms).move (.shift .tick)) ∧
    ∀ lane i key r, (t.run ms).shift.post? lane i = some (.busy key (.done r)) →
      ((t.run ms).move (.settle lane i)).move (.report (t.run ms).reports.length) =
        (t.run ms).move (.shift (.settle lane i)) := by
  intro t
  refine ⟨fun key => ?_, fun m aside => ?_, fun _ listed => sweep_list listed,
    fun _ _ _ _ there => report_settle there⟩
  · have distinct : ∀ n ∈ t.notes ms, n.Distinct :=
      (distinct_start settings Cluster.plain_empty).notes named
    rw [schedule_run, Schedule.failures_after rfl, Schedule.failuresIn_notes]
    intro q there
    obtain ⟨n, told, asked⟩ := List.mem_filterMap.1 there
    exact (distinct n told).query asked
  · rw [schedule_move]
    cases told : (t.run ms).note? m with
    | none => rfl
    | some n => simp [Schedule.hear, Note.query?_aside (aside n told)]

/-- The only poll of the sample binding finds no value in the vault and may not be tried again. -/
def losing : List TallyMove :=
  [.shift (.edit (.insertBinding .sample)), .shift .run, .shift (.look .poll 0),
    .shift (.call .poll 0), .shift (.call .poll 0), .shift (.call .poll 0),
    .settle .poll 0, .report 0, .shift (.finish .poll 0),
    .shift (.edit (.failNext .listBindings 1))]

def leaving : List TallyMove :=
  [.shift .tick, .shift (.edit (.removeBinding ⟨"default", "db-cred"⟩)), .list, .sweep 0]

abbrev impatient : Settings := { Settings.standard with maxRetries := 0 }

abbrev lost : Tally := (start impatient (.start ⟨0, 0⟩)).run losing

abbrev left : Tally := (start impatient (.start ⟨0, 0⟩)).run (losing ++ leaving)

theorem dropped_poll_counts_until_unlisted :
    lost.controller.schedule.failures "default/db-cred" = 1 ∧
    (lost.move (.shift .tick)).controller.schedule = lost.controller.schedule ∧
    left.controller.schedule.failures "default/db-cred" = 0 := by
  have plain : '/' ∉ Binding.sample.metadata.key.name.toList := by decide
  obtain ⟨counted, aside, -⟩ :=
    failures_count_dropped_polls impatient ⟨0, 0⟩ losing (by simp [losing, plain])
  obtain ⟨forgotten, -⟩ := failures_count_dropped_polls impatient ⟨0, 0⟩ (losing ++ leaving)
    (by simp [losing, leaving, plain])
  have once : min (droppedSince ((start impatient (.start ⟨0, 0⟩)).notes losing) "default/db-cred")
      (UInt32.size - 1) = 1 := by decide +kernel
  have never : min (droppedSince ((start impatient (.start ⟨0, 0⟩)).notes (losing ++ leaving))
      "default/db-cred") (UInt32.size - 1) = 0 := by decide +kernel
  have told : lost.note? (.shift .tick) = some (.ticked none 0) := by decide +kernel
  refine ⟨(counted "default/db-cred").trans once, aside (.shift .tick) fun n same => ?_,
    (forgotten "default/db-cred").trans never⟩
  rw [told] at same
  cases same
  rfl

end Tally

end SecretSync
