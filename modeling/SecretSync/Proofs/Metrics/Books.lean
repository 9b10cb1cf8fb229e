import SecretSync.Proofs.Metrics.Workshop

namespace SecretSync

open Metrics (Line Counts)

section Entries

variable {ι : Type}

def kindLines : Except PassError Unit → List Line
  | .ok _ => []
  | .error e => [.kind e.kind]

def Settling.lines (r : Except PassError Unit) : Settling → List Line
  | .timed => []
  | .counted => [.ofResult r.isOk]
  | .noted | .judged _ => .ofResult r.isOk :: kindLines r
  | .booked o | .delayed o _ | .settled o =>
    .ofResult r.isOk :: (kindLines r ++ if o = .dropped then [.dropped] else [])

/-- What has been counted of a result. A duration goes by the lane of the worker, all else by its
queue. -/
def Settling.entries (name : ι → String) (w : Worker ι) (r : Except PassError Unit)
    (stage : Settling) : List (String × Line) :=
  (w.lane.name, .duration) :: (stage.lines r).map fun l => (name w.queue, l)

def Settling.judged? : Settling → Option Outcome
  | .judged o | .booked o | .delayed o _ | .settled o => some o
  | _ => none

def Desk.entries (name : ι → String) (d : Desk ι) : List (String × Line) :=
  match d.task with
  | .settling _ r stage => stage.entries name d.worker r
  | _ => []

def Handled.entries (name : ι → String) (h : Handled ι) : List (String × Line) :=
  (Settling.settled h.outcome).entries name h.worker h.result

end Entries

theorem Desk.handled?_eq_some {ι : Type} {d : Desk ι} {h : Handled ι}
    (answered : d.handled? = some h) :
    h.worker = d.worker ∧ d.task = .settling h.key h.result (.settled h.outcome) := by
  unfold handled? at answered
  split at answered
  · rename_i key r o task
    cases answered
    exact ⟨rfl, task⟩
  · nomatch answered

section Step

variable {ι : Type} {name : ι → String} {w : Worker ι} {seconds : Binary64} {s : Station}
  {m : Metrics}

theorem Station.counts_update (labelled : m.Labelled) (s : Station) (q : WorkQueue) :
    Counts m (s.update q m).2 none := by
  obtain ⟨depth, same⟩ := s.update_metrics q m
  rw [same]
  exact Metrics.counts_beside labelled depth _ _ _ _

theorem Station.look_change (s : Station) (m : Metrics) : ∃ bell,
    (∃ q, (s.look m).2 = update { s with bell := bell } q m) ∨
      (s.look m).2 = ({ s with bell := bell }, m) := by
  refine ⟨{ s.bell with permit := false }, ?_⟩
  unfold look take?
  dsimp only
  split_ifs
  · exact .inr rfl
  · cases s.queue.take? with
    | none => exact .inr rfl
    | some taken => exact .inl ⟨taken.2, rfl⟩

/-- A step enters what its worker has come to by it. -/
theorem Desk.step_counts (labelled : m.Labelled) {d : Desk ι} (name : ι → String)
    (named : s.name = name d.worker.queue) (seconds : Binary64) :
    ∃ entry, Counts m (d.task.step d.worker seconds s m).2.2 entry ∧
      Desk.entries name ⟨d.worker, (d.task.step d.worker seconds s m).1⟩ ++
          d.handled?.toList.flatMap (Handled.entries name) =
        d.entries name ++ entry.toList := by
  obtain ⟨w, task⟩ := d
  fun_cases Task.step w seconds s m task with
  | case1 found t n looked =>
    refine ⟨none, ?_, by cases found <;> rfl⟩
    obtain ⟨bell, ⟨q, same⟩ | same⟩ := s.look_change m
    · rw [looked] at same
      cases same
      exact Station.counts_update labelled _ q
    · rw [looked] at same
      cases same
      exact .refl labelled
  | case2 => exact ⟨none, .refl labelled, rfl⟩
  | case3 => exact ⟨none, .refl labelled, rfl⟩
  | case4 key r => exact ⟨_, Metrics.counts_duration labelled _ _, rfl⟩
  | case5 key r =>
    refine ⟨some (name w.queue, .ofResult r.isOk), ?_, rfl⟩
    exact named ▸ Metrics.counts_reconciliation labelled s.name r.isOk
  | case6 key u => exact ⟨none, .refl labelled, rfl⟩
  | case7 key e =>
    refine ⟨some (name w.queue, .kind e.kind), ?_, rfl⟩
    exact named ▸ Metrics.counts_error labelled s.name e
  | case8 key r => exact ⟨none, .refl labelled, rfl⟩
  | case9 key r o =>
    -- of the outcomes only this one has a line of its own
    by_cases lost : o = .dropped
    · refine ⟨some (name w.queue, .dropped), ?_, ?_⟩
      · rw [if_pos lost]
        exact named ▸ Metrics.counts_dropped labelled s.name
      · simp [Desk.entries, Desk.handled?, Settling.entries, Settling.lines, lost]
    · refine ⟨none, ?_, ?_⟩
      · rw [if_neg lost]
        exact .refl labelled
      · simp [Desk.entries, Desk.handled?, Settling.entries, Settling.lines, lost]
  | case10 key r n t m' updated =>
    have counts := Station.counts_update labelled s (s.queue.countRequeue key)
    exact ⟨none, updated ▸ counts, rfl⟩
  | case11 key r o other t m' updated =>
    have counts := Station.counts_update labelled s (s.queue.forget key)
    exact ⟨none, updated ▸ counts, rfl⟩
  | case12 key r o delay t m' updated =>
    have counts := Station.counts_update labelled s (s.queue.addAfter key delay).1
    exact ⟨none, updated ▸ counts, rfl⟩
  | case13 key r o t m' updated =>
    have counts := Station.counts_update labelled s (s.queue.finish key)
    have updated : s.update (s.queue.finish key) m = (t, m') := updated
    exact ⟨none, updated ▸ counts, by simp [Desk.entries, Desk.handled?, Handled.entries]⟩

structure Station.Reports (s : Station) (m : Metrics) (t : Station) (n : Metrics) : Prop where
  name : t.name = s.name
  gauged : s.Gauged m → t.Gauged n
  others : ∀ q, q ≠ s.name → n.gauge q = m.gauge q

/-- A bell may change besides, or a queue without its length. -/
theorem Station.Reports.beside {s' t : Station} {n : Metrics} (reports : s'.Reports m t n)
    (name : s'.name = s.name) (length : s'.queue.length = s.queue.length) : s.Reports m t n where
  name := reports.name.trans name
  gauged := by
    intro gauged
    apply reports.gauged
    rw [Gauged, name, length]
    exact gauged
  others := name ▸ reports.others

theorem Station.reports_same (s : Station) {n : Metrics} (depth : n.depth = m.depth) :
    s.Reports m s n where
  name := rfl
  gauged := by
    intro gauged
    rw [Gauged, Metrics.gauge, depth]
    exact gauged
  others := fun q _ => by rw [Metrics.gauge, depth, Metrics.gauge]

theorem Station.reports_update (s : Station) (m : Metrics) (q : WorkQueue) :
    s.Reports m (s.update q m).1 (s.update q m).2 :=
  ⟨rfl, fun gauged => gauged.update q, fun _ other => s.gauge_update q m other⟩

theorem Station.reports_look (s : Station) (m : Metrics) :
    s.Reports m (s.look m).2.1 (s.look m).2.2 := by
  obtain ⟨bell, ⟨q, same⟩ | same⟩ := s.look_change m
  · rw [same]
    exact (reports_update { s with bell := bell } m q).beside rfl rfl
  · rw [same]
    exact (reports_same { s with bell := bell } rfl).beside rfl rfl

theorem Station.reports_use (s : Station) (m : Metrics) (u : QueueUse) :
    s.Reports m (s.use m u).1 (s.use m u).2 := by
  cases u with
  | take =>
    simp only [use, take?]
    cases s.queue.take? with
    | none => exact s.reports_same rfl
    | some taken => exact s.reports_update m taken.2
  | close => exact (reports_same s.close rfl).beside rfl rfl
  | _ => exact s.reports_update m _

theorem Station.counts_use (labelled : m.Labelled) (s : Station) (u : QueueUse) :
    Counts m (s.use m u).2 none := by
  cases u with
  | take =>
    simp only [use, take?]
    cases s.queue.take? with
    | none => exact .refl labelled
    | some taken => exact s.counts_update labelled taken.2
  | close => exact .refl labelled
  | _ => exact s.counts_update labelled _

theorem Task.step_reports (w : Worker ι) (seconds : Binary64) (s : Station) (m : Metrics)
    (task : Task) : s.Reports m (task.step w seconds s m).2.1 (task.step w seconds s m).2.2 := by
  fun_cases Task.step w seconds s m task with
  | case1 found t n looked =>
    have reports := s.reports_look m
    rwa [looked] at reports
  | case9 key r o =>
    refine s.reports_same ?_
    dsimp only
    split_ifs <;> rfl
  | case10 key r n t m' updated => exact updated ▸ s.reports_update m _
  | case11 key r o other t m' updated => exact updated ▸ s.reports_update m _
  | case12 key r o delay t m' updated => exact updated ▸ s.reports_update m _
  | case13 key r o t m' updated =>
    have updated : s.update (s.queue.finish key) m = (t, m') := updated
    exact updated ▸ s.reports_update m _
  | _ => exact s.reports_same rfl

/-- The outcome is success exactly if the pass had none but a good end. -/
def Task.Fits : Task → Prop
  | .settling _ r stage => ∀ o, stage.judged? = some o → (o = .synced ↔ r.isOk = true)
  | _ => True

theorem Task.Fits.step {task : Task} (fits : task.Fits) : (task.step w seconds s m).1.Fits := by
  fun_cases Task.step w seconds s m task with
  | case1 found => cases found <;> trivial
  | case8 key r =>
    rintro o ⟨⟩
    exact Outcome.decide_eq_synced
  | case3 => exact fits
  | case4 => exact nofun
  | case13 => trivial
  | _ => exact fits

end Step

theorem count_flatMap_set {α β : Type} [BEq β] (f : α → List β) {l : List α} {i : Nat}
    {a : α} (there : l[i]? = some a) (b : α) (x : β) :
    ((l.set i b).flatMap f).count x + (f a).count x = (l.flatMap f).count x + (f b).count x := by
  obtain ⟨inside, rfl⟩ := List.getElem?_eq_some_iff.1 there
  have split : l = l.take i ++ l[i] :: l.drop (i + 1) := by
    rw [List.getElem_cons_drop, List.take_append_drop]
  rw [List.set_eq_take_append_cons_drop, if_pos inside]
  conv_rhs => rw [split]
  simp only [List.flatMap_append, List.flatMap_cons, List.count_append]
  omega

namespace World

theorem metrics_answer (q : Request) (w : World) : ∃ created updated skipped,
    (answer q w).2.metrics =
      { w.metrics with created := created, updated := updated, skipped := skipped } := by
  cases q with
  | count c => cases c <;> exact ⟨_, _, _, rfl⟩
  | _ => exact ⟨_, _, _, rfl⟩

end World

namespace Workshop

section Desks

variable {ι : Type} {t : Workshop ι}

def entries (name : ι → String) (t : Workshop ι) : List (String × Line) :=
  t.handled.flatMap (Handled.entries name) ++ t.desks.flatMap (Desk.entries name)

variable {desk : Nat} {d : Desk ι}

theorem count_setTask (name : ι → String) (there : t.desks[desk]? = some d) (task : Task)
    (x : String × Line) :
    ((t.setTask desk d task).entries name).count x + (d.entries name).count x =
      (t.entries name).count x + (Desk.entries name ⟨d.worker, task⟩).count x := by
  have set := count_flatMap_set (Desk.entries name) there ⟨d.worker, task⟩ x
  simp only [entries, setTask, List.count_append]
  omega

theorem forall_setTask {P : Desk ι → Prop} (all : ∀ d ∈ t.desks, P d) {task : Task}
    (own : P ⟨d.worker, task⟩) : ∀ e ∈ (t.setTask desk d task).desks, P e := by
  intro e inside
  rcases List.mem_or_eq_of_mem_set inside with old | rfl
  · exact all e old
  · exact own

end Desks

/-- The counts are those of the entries, the gauges show the depths, and an outcome is success if the
pass ended well. -/
structure Books {ι : Type} (s : Setup ι) (t : Workshop ι) : Prop where
  names : ∀ i, (t.stations i).name = s.name i
  crew : ∀ d ∈ t.desks, d.worker ∈ s.crew
  hired : ∀ h ∈ t.handled, h.worker ∈ s.crew
  fits : ∀ d ∈ t.desks, d.task.Fits
  answers : ∀ h ∈ t.handled, h.outcome = .synced ↔ h.result.isOk = true
  labelled : t.world.metrics.Labelled
  entered : ∀ q l, t.world.metrics.read q l = (t.entries s.name).count (q, l)
  gauged : ∀ i, (t.stations i).Gauged t.world.metrics

variable {ι : Type} {s : Setup ι} {t u : Workshop ι}

theorem Books.call {desk : Nat} {d : Desk ι} {key : String} {q : Request}
    {next : q.Answer → Program (Except PassError Unit)} (books : Books s t)
    (there : t.desks[desk]? = some d) (asks : d.task = .busy key (.ask q next)) :
    Books s (t.call desk d key q next) := by
  obtain ⟨created, updated, skipped, same⟩ := World.metrics_answer q t.world
  have named := books.crew d (List.mem_of_getElem? there)
  exact
    { books with
      crew := forall_setTask books.crew named
      fits := forall_setTask books.fits trivial
      labelled := by
        change (World.answer q t.world).2.metrics.Labelled
        rw [same]
        exact ⟨books.labelled.results, books.labelled.kinds⟩
      entered := fun label l => by
        have set := count_setTask s.name there
          (.busy key (next (World.answer q t.world).1)) (label, l)
        have here : d.entries s.name = [] := by rw [Desk.entries, asks]
        have read : (World.answer q t.world).2.metrics.read label l =
            t.world.metrics.read label l := by
          rw [same]
          cases l <;> rfl
        rw [here] at set
        exact read.trans ((books.entered label l).trans set.symm)
      gauged := fun i => by
        have depth : (World.answer q t.world).2.metrics.depth = t.world.metrics.depth := by
          rw [same]
        exact ((t.stations i).reports_same depth).gauged (books.gauged i) }

variable [DecidableEq ι]

theorem gauged_setStation (books : Books s t) {i : ι} {st : Station} {m : Metrics}
    (reports : (t.stations i).Reports t.world.metrics st m) (j : ι) :
    (Function.update t.stations i st j).Gauged m := by
  by_cases same : j = i
  · subst same
    rw [Function.update_self]
    exact reports.gauged (books.gauged j)
  · rw [Function.update_of_ne same, Station.Gauged, reports.others]
    · exact books.gauged j
    · rw [books.names, books.names]
      exact s.distinct.ne same

theorem names_setStation (books : Books s t) {i : ι} {st : Station} {m : Metrics}
    (reports : (t.stations i).Reports t.world.metrics st m) (j : ι) :
    (Function.update t.stations i st j).name = s.name j := by
  by_cases same : j = i
  · subst same
    rw [Function.update_self, reports.name, books.names]
  · rw [Function.update_of_ne same, books.names]

theorem stride_eq {desk : Nat} {d : Desk ι} {seconds : Binary64} {task : Task} {st : Station}
    {m : Metrics} (stepped : d.task.step d.worker seconds (t.stations d.worker.queue)
      t.world.metrics = (task, st, m)) :
    t.stride desk d seconds =
      { ((t.setStation d.worker.queue st).setMetrics m).setTask desk d task with
        handled := t.handled ++ d.handled?.toList } := by
  simp only [stride, stepped]

theorem Books.stride {desk : Nat} {d : Desk ι} (books : Books s t)
    (there : t.desks[desk]? = some d) (seconds : Binary64) :
    Books s (t.stride desk d seconds) := by
  have inside := List.mem_of_getElem? there
  obtain ⟨task, st, m, stepped⟩ : ∃ task st m, d.task.step d.worker seconds
      (t.stations d.worker.queue) t.world.metrics = (task, st, m) := ⟨_, _, _, rfl⟩
  have reports :=
    d.task.step_reports d.worker seconds (t.stations d.worker.queue) t.world.metrics
  have fits : (d.task.step d.worker seconds (t.stations d.worker.queue)
      t.world.metrics).1.Fits := (books.fits d inside).step
  obtain ⟨entry, counts, grown⟩ :=
    d.step_counts books.labelled s.name (books.names d.worker.queue) seconds
  rw [stepped] at reports fits counts grown
  dsimp only at reports fits counts grown
  rw [stride_eq stepped]
  exact
    { names := names_setStation books reports
      crew := forall_setTask books.crew (books.crew d inside)
      hired := fun h past => by
        rcases List.mem_append.1 past with past | now
        · exact books.hired h past
        · rw [(Desk.handled?_eq_some (Option.mem_toList.1 now)).1]
          exact books.crew d inside
      fits := forall_setTask books.fits fits
      answers := fun h past => by
        rcases List.mem_append.1 past with past | now
        · exact books.answers h past
        · have fits := books.fits d inside
          rw [(Desk.handled?_eq_some (Option.mem_toList.1 now)).2] at fits
          exact fits h.outcome rfl
      labelled := counts.labelled
      entered := fun q l => by
        have set := count_flatMap_set (Desk.entries s.name) there ⟨d.worker, task⟩ (q, l)
        have grown := congrArg (List.count (q, l)) grown
        have one : entry.toList.count (q, l) = if entry = some (q, l) then 1 else 0 := by
          cases entry <;> simp [List.count_singleton]
        rw [List.count_append, List.count_append, one] at grown
        change m.read q l = ((t.handled ++ d.handled?.toList).flatMap _ ++
          (t.desks.set desk ⟨d.worker, task⟩).flatMap _).count (q, l)
        rw [counts.read, books.entered q l, entries, List.flatMap_append]
        simp only [List.count_append]
        omega
      gauged := gauged_setStation books reports }

theorem Books.turn (books : Books s t) (turn : t.Turn u) : Books s u := by
  cases turn with
  | stay => exact books
  | aside counts depth =>
    have counts := counts books.labelled
    exact
      { books with
        labelled := counts.labelled
        entered := fun q l => (counts.read q l).trans (books.entered q l)
        gauged := fun i => ((t.stations i).reports_same depth).gauged (books.gauged i) }
  | use i u =>
    have reports := (t.stations i).reports_use t.world.metrics u
    have counts := Station.counts_use books.labelled (t.stations i) u
    exact
      { books with
        names := names_setStation books reports
        labelled := counts.labelled
        entered := fun q l => (counts.read q l).trans (books.entered q l)
        gauged := gauged_setStation books reports }
  | @call desk d key q next there asks => exact books.call there asks
  | stride seconds there alone => exact books.stride there seconds

theorem Books.moves (books : Books s t) (ms : List (WorkshopMove ι)) : Books s (t.moves ms) := by
  induction ms generalizing t with
  | nil => exact books
  | cons m rest ih => exact ih (books.turn (t.turn m))

end Workshop

end SecretSync
