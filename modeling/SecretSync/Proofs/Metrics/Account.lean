import SecretSync.Proofs.Metrics.Books
import Mathlib.Algebra.BigOperators.Group.List.Basic
import Mathlib.Algebra.GroupWithZero.Nat

/-!
The counts account for every key that workers finish or are settling, and for every Secret that
passes store. They run ahead of the answers while a key is settled, so they are exact when a worker
has just finished one only if workers give way only while they wait.
-/
namespace SecretSync

open Metrics (Line)

def Call.due? (c : Call) : Option Counter := c.request.due? c.answer

/-- What has been counted of the result that a worker is settling. -/
def Desk.underway {ι : Type} (d : Desk ι) : List Line :=
  match d.task with
  | .settling _ r stage => .duration :: stage.lines r
  | _ => []

/-- What a worker has stored and is about to count. -/
def Desk.owed? {ι : Type} (d : Desk ι) : Option Counter :=
  match d.task with
  | .busy _ rest => Debt.next? rest
  | _ => none

section Alone

variable {ι : Type} {d : Desk ι} {w : Worker ι} {task : Task}

theorem Desk.owed?_alone (alone : ∀ key q next, d.task ≠ .busy key (.ask q next)) :
    d.owed? = none := by
  unfold owed?
  split
  · rename_i key rest busy
    cases rest with
    | done r => rfl
    | ask q next => exact absurd busy (alone key q next)
  · rfl

theorem Desk.owed?_of_pays (pays : ∀ key rest, task = .busy key rest → Debt.Pays none rest) :
    Desk.owed? ⟨w, task⟩ = none := by
  cases task with
  | busy key rest => exact (pays key rest rfl).next
  | _ => rfl

theorem Task.step_pays (w : Worker ι) (seconds : Binary64) (s : Station) (m : Metrics)
    (alone : ∀ key q next, task ≠ .busy key (.ask q next)) :
    ∀ key rest, (task.step w seconds s m).1 = .busy key rest → Debt.Pays none rest := by
  fun_cases Task.step w seconds s m task with
  | case1 found =>
    intro key rest now
    cases found with
    | key k =>
      cases now
      exact Debt.pays_pass w.lane _
    | closed | nothing => cases now
  | case3 key q next => exact absurd rfl (alone key q next)
  | _ =>
    intro key rest now
    cases now

end Alone

/-- A worker waits for a key, for an answer, or for nothing any more. -/
def Task.waits : Task → Bool
  | .free | .gone => true
  | .busy _ (.ask q _) => !q.isCount
  | _ => false

def Outcome.isRequeued : Outcome → Bool
  | .requeued _ => true
  | _ => false

/-- The queues are named for the lanes that they are worked on by. -/
def Setup.Matched {ι : Type} (s : Setup ι) : Prop := ∀ w ∈ s.crew, w.lane.name = s.name w.queue

def Metrics.total (m : Metrics) : Counter → Nat
  | .created => m.created
  | .updated => m.updated
  | .skipped _ => 0

namespace Workshop

variable {ι : Type} {t u : Workshop ι} {desk : Nat} {d : Desk ι}

def stored (t : Workshop ι) : List Counter := t.calls.filterMap Call.due?

def owed (t : Workshop ι) : List Counter := t.desks.filterMap Desk.owed?

/-- What was stored and is not counted yet is what passes are going to count. -/
structure Debts (t : Workshop ι) : Prop where
  pays : ∀ d ∈ t.desks, ∀ key rest, d.task = .busy key rest → Debt.Pays d.owed? rest
  balance : ∀ c, c = .created ∨ c = .updated →
    t.world.metrics.total c + t.owed.count c = t.stored.count c

theorem count_owed (there : t.desks[desk]? = some d) (task : Task) (c : Counter) :
    (t.setTask desk d task).owed.count c + d.owed?.toList.count c =
      t.owed.count c + (Desk.owed? ⟨d.worker, task⟩).toList.count c := by
  simp only [owed, setTask, List.filterMap_eq_flatMap_toList]
  exact count_flatMap_set (fun d => d.owed?.toList) there ⟨d.worker, task⟩ c

theorem balance_step {owed left : Option Counter} {q : Request} {w : World}
    (taken : Debt.Step owed q (World.answer q w).1 left) {c : Counter}
    (stored : c = .created ∨ c = .updated) :
    (World.answer q w).2.metrics.total c + left.toList.count c =
      w.metrics.total c + (q.due? (World.answer q w).1).toList.count c + owed.toList.count c := by
  generalize answered : (World.answer q w).1 = r at taken
  cases taken with
  | asked other =>
    have same : (World.answer q w).2.metrics = w.metrics := by
      cases q <;> first | rfl | exact nomatch other
    rw [same]
    simp
  | @paid c' r known =>
    rcases known with rfl | rfl <;> rcases stored with rfl | rfl <;> rfl

theorem Debts.call {key : String} {q : Request}
    {next : q.Answer → Program (Except PassError Unit)} (debts : Debts t)
    (there : t.desks[desk]? = some d) (asks : d.task = .busy key (.ask q next)) :
    Debts (t.call desk d key q next) := by
  have pays := debts.pays d (List.mem_of_getElem? there) key _ asks
  obtain ⟨left, taken, rest⟩ := pays (World.answer q t.world).1
  have owes : Desk.owed? ⟨d.worker, .busy key (next (World.answer q t.world).1)⟩ = left :=
    Debt.Pays.next rest
  constructor
  · refine forall_setTask debts.pays ?_
    rintro key' rest' ⟨⟩
    rw [owes]
    exact rest
  · intro c stored
    have set := count_owed there (.busy key (next (World.answer q t.world).1)) c
    have before := debts.balance c stored
    have step := balance_step taken stored
    -- what the answer gives to count is stored by now, and owed until the next call
    have past : (t.call desk d key q next).stored =
        t.stored ++ (q.due? (World.answer q t.world).1).toList := by
      change (t.calls ++ [t.world.callBy desk q]).filterMap Call.due? = _
      rw [List.filterMap_append, List.filterMap_eq_flatMap_toList Call.due? [_],
        List.flatMap_singleton]
      rfl
    rw [past, List.count_append]
    rw [owes] at set
    change (World.answer q t.world).2.metrics.total c + (t.setTask desk d _).owed.count c = _
    omega

theorem total_same {m n : Metrics} {entry : Option (String × Line)} (counts : m.Counts n entry)
    (c : Counter) : n.total c = m.total c := by
  cases c with
  | created => exact counts.created
  | updated => exact counts.updated
  | skipped => rfl

theorem Debts.stride [DecidableEq ι] (debts : Debts t) (labelled : t.world.metrics.Labelled)
    (there : t.desks[desk]? = some d) (alone : ∀ key q next, d.task ≠ .busy key (.ask q next))
    (seconds : Binary64) : Debts (t.stride desk d seconds) := by
  obtain ⟨task, st, m, stepped⟩ : ∃ task st m, d.task.step d.worker seconds
      (t.stations d.worker.queue) t.world.metrics = (task, st, m) := ⟨_, _, _, rfl⟩
  have pays := Task.step_pays d.worker seconds (t.stations d.worker.queue) t.world.metrics alone
  obtain ⟨entry, counts, -⟩ :=
    d.step_counts labelled (fun i => (t.stations i).name) rfl seconds
  rw [stepped] at pays counts
  rw [stride_eq stepped]
  constructor
  · refine forall_setTask debts.pays fun key rest now => ?_
    rw [Desk.owed?_of_pays pays]
    exact pays key rest now
  · intro c stored
    have set := count_owed there task c
    rw [Desk.owed?_alone alone, Desk.owed?_of_pays pays] at set
    have before := debts.balance c stored
    change m.total c + (t.setTask desk d task).owed.count c = _
    rw [total_same counts]
    change _ = t.stored.count c
    omega

theorem Debts.turn [DecidableEq ι] (debts : Debts t) (labelled : t.world.metrics.Labelled)
    (turn : t.Turn u) : Debts u := by
  cases turn with
  | stay => exact debts
  | aside counts depth =>
    refine ⟨debts.pays, fun c stored => ?_⟩
    exact (congrArg (· + _) (total_same (counts labelled) c)).trans (debts.balance c stored)
  | use i u =>
    refine ⟨debts.pays, fun c stored => ?_⟩
    have counts := Station.counts_use labelled (t.stations i) u
    exact (congrArg (· + _) (total_same counts c)).trans (debts.balance c stored)
  | call there asks => exact debts.call there asks
  | stride seconds there alone => exact debts.stride labelled there alone seconds

section Exact

variable {s : Setup ι}

/-- What workers have answered about the keys of a queue. -/
def outcomes [DecidableEq ι] (t : Workshop ι) (i : ι) : List Outcome :=
  (t.handled.filter fun h => h.worker.queue = i).map Handled.outcome

def underway [DecidableEq ι] (t : Workshop ι) (i : ι) : List Line :=
  (t.desks.filter fun d => d.worker.queue = i).flatMap Desk.underway

/-- The counts of a queue are those of the answers and of the results that are being settled. -/
structure Tallied [DecidableEq ι] (s : Setup ι) (t : Workshop ι) (i : ι) : Prop where
  success : t.world.metrics.read (s.name i) .success =
    (t.outcomes i).count .synced + (t.underway i).count .success
  failure : t.world.metrics.read (s.name i) .failure =
    (t.outcomes i).countP Outcome.isRequeued + (t.outcomes i).count .dropped +
      (t.underway i).count .failure
  kinds : (PassError.kinds.map fun k => t.world.metrics.read (s.name i) (.kind k)).sum =
    (t.outcomes i).countP Outcome.isRequeued + (t.outcomes i).count .dropped +
      (PassError.kinds.map fun k => (t.underway i).count (.kind k)).sum
  dropped : t.world.metrics.read (s.name i) .dropped =
    (t.outcomes i).count .dropped + (t.underway i).count .dropped
  duration : s.Matched → t.world.metrics.read (s.name i) .duration =
    (t.outcomes i).length + (t.underway i).count .duration

/-- No worker of a queue is settling the result of a pass. -/
def Calm (t : Workshop ι) (i : ι) : Prop :=
  ∀ d ∈ t.desks, d.worker.queue = i → ∀ key r stage, d.task ≠ .settling key r stage

/-- The counts of a queue are those of the answers. -/
structure Exact [DecidableEq ι] (s : Setup ι) (t : Workshop ι) (i : ι) : Prop where
  success : t.world.metrics.read (s.name i) .success = (t.outcomes i).count .synced
  failure : t.world.metrics.read (s.name i) .failure =
    (t.outcomes i).countP Outcome.isRequeued + (t.outcomes i).count .dropped
  kinds : t.world.metrics.read (s.name i) .failure =
    (PassError.kinds.map fun k => t.world.metrics.read (s.name i) (.kind k)).sum
  dropped : t.world.metrics.read (s.name i) .dropped = (t.outcomes i).count .dropped
  duration : s.Matched → t.world.metrics.read (s.name i) .duration =
    t.world.metrics.read (s.name i) .success + t.world.metrics.read (s.name i) .failure

end Exact

end Workshop

section Answers

variable {ι : Type} [DecidableEq ι] {name : ι → String} {i : ι} {r : Except PassError Unit}
  {l : Line}

theorem count_ofQueue (distinct : Function.Injective name) (q i : ι) (ls : List Line) (l : Line) :
    (ls.map fun l => (name q, l)).count (name i, l) = if q = i then ls.count l else 0 := by
  induction ls with
  | nil => simp
  | cons first rest ih =>
    rw [List.map_cons, List.count_cons, List.count_cons, ih]
    by_cases own : q = i
    · simp [own]
    · simp [own, distinct.ne own]

theorem duration_not_mem (r : Except PassError Unit) (stage : Settling) :
    Line.duration ∉ stage.lines r := by
  cases r <;> cases stage <;>
    simp [Settling.lines, kindLines, Line.ofResult, Except.isOk, Except.toBool]

theorem Settling.count_entries (distinct : Function.Injective name) {w : Worker ι}
    (stage : Settling) (plain : l ≠ .duration ∨ w.lane.name = name w.queue) :
    (stage.entries name w r).count (name i, l) =
      if w.queue = i then (.duration :: stage.lines r).count l else 0 := by
  rw [entries, List.count_cons, count_ofQueue distinct, List.count_cons]
  by_cases timed : l = .duration
  · have named := plain.resolve_left fun other => other timed
    rw [timed, named]
    by_cases own : w.queue = i
    · simp [own]
    · simp [own, distinct.ne own]
  · simp [Ne.symm timed]

theorem Handled.count_entries (distinct : Function.Injective name) (h : Handled ι) (i : ι)
    (other : l ≠ .duration) : (h.entries name).count (name i, l) =
      if h.worker.queue = i then ((Settling.settled h.outcome).lines h.result).count l else 0 := by
  rw [entries, Settling.count_entries distinct _ (.inl other), List.count_cons]
  simp [Ne.symm other]

theorem Settling.count_lines (r : Except PassError Unit) (o : Outcome) :
    ((settled o).lines r).count .success = (if r.isOk then 1 else 0) ∧
    ((settled o).lines r).count .failure = (if r.isOk then 0 else 1) ∧
    ((settled o).lines r).count .dropped = (if o = .dropped then 1 else 0) ∧
    (PassError.kinds.map fun k => ((settled o).lines r).count (.kind k)).sum =
      ((settled o).lines r).count .failure := by
  have once : ∀ kind ∈ PassError.kinds,
      (PassError.kinds.map fun k => if kind = k then 1 else 0).sum = 1 := by decide
  cases r with
  | ok u => cases o <;> simp [lines, kindLines, Line.ofResult, Except.isOk, Except.toBool]
  | error e =>
    have kinds := once e.kind e.kind_mem
    cases o <;> simp [lines, kindLines, Line.ofResult, Except.isOk, Except.toBool, List.count_cons,
      kinds]

theorem count_answers {hs : List (Handled ι)} {P : Outcome → Bool} {x : String × Line}
    (each : ∀ h ∈ hs,
      (h.entries name).count x = if h.worker.queue = i ∧ P h.outcome then 1 else 0) :
    (hs.flatMap (Handled.entries name)).count x =
      ((hs.filter fun h => h.worker.queue = i).map Handled.outcome).countP P := by
  induction hs with
  | nil => rfl
  | cons h rest ih =>
    obtain ⟨here, others⟩ := List.forall_mem_cons.1 each
    rw [List.flatMap_cons, List.count_append, here, ih others, List.filter_cons]
    by_cases own : h.worker.queue = i
    · simp [own, List.countP_cons, Nat.add_comm]
    · simp [own]

theorem sum_kinds (distinct : Function.Injective name) (i : ι) (hs : List (Handled ι)) :
    (PassError.kinds.map fun k =>
      (hs.flatMap (Handled.entries name)).count (name i, .kind k)).sum =
        (hs.flatMap (Handled.entries name)).count (name i, .failure) := by
  induction hs with
  | nil => rfl
  | cons h rest ih =>
    have kind (k : String) := h.count_entries distinct i (l := .kind k) nofun
    have failure := h.count_entries distinct i (l := .failure) nofun
    -- one kind at most has an entry of this key, and it has one if the failure has
    have here : (PassError.kinds.map fun k => (h.entries name).count (name i, .kind k)).sum =
        (h.entries name).count (name i, .failure) := by
      obtain ⟨-, -, -, kinds⟩ := Settling.count_lines h.result h.outcome
      simp only [kind, failure]
      by_cases own : h.worker.queue = i
      · simpa only [if_pos own] using kinds
      · simp [own]
    simp only [List.flatMap_cons, List.count_append, List.sum_map_add, here, ih]

theorem failures_split (outcomes : List Outcome) :
    outcomes.countP (fun o => decide (o ≠ .synced)) =
      outcomes.countP Outcome.isRequeued + outcomes.count .dropped := by
  induction outcomes with
  | nil => rfl
  | cons o rest ih =>
    rw [List.countP_cons, List.countP_cons, List.count_cons, ih]
    cases o <;> simp [Outcome.isRequeued] <;> omega

theorem length_split (outcomes : List Outcome) : outcomes.length =
    outcomes.count .synced + (outcomes.countP Outcome.isRequeued + outcomes.count .dropped) := by
  rw [← failures_split, List.length_eq_countP_add_countP fun o => o == Outcome.synced, List.count]
  simp

end Answers

namespace Workshop

variable {ι : Type} [DecidableEq ι] {s : Setup ι} {t : Workshop ι} {i : ι} {l : Line}

theorem count_underway {ds : List (Desk ι)} (distinct : Function.Injective s.name)
    (plain : ∀ d ∈ ds, l ≠ .duration ∨ d.worker.lane.name = s.name d.worker.queue) :
    (ds.flatMap (Desk.entries s.name)).count (s.name i, l) =
      ((ds.filter fun d => d.worker.queue = i).flatMap Desk.underway).count l := by
  induction ds with
  | nil => rfl
  | cons d rest ih =>
    obtain ⟨here, others⟩ := List.forall_mem_cons.1 plain
    have own : (d.entries s.name).count (s.name i, l) =
        if d.worker.queue = i then d.underway.count l else 0 := by
      obtain ⟨w, task⟩ := d
      cases task with
      | settling key r stage => exact stage.count_entries distinct here
      | _ => simp [Desk.entries, Desk.underway]
    rw [List.flatMap_cons, List.count_append, own, ih others, List.filter_cons]
    by_cases same : d.worker.queue = i
    · simp [same]
    · simp [same]

/-- Each count is made up of the keys that were finished and those that are being settled. -/
theorem Books.read_eq (books : Books s t) (plain : l ≠ .duration ∨ s.Matched) :
    t.world.metrics.read (s.name i) l =
      (t.handled.flatMap (Handled.entries s.name)).count (s.name i, l) +
        (t.underway i).count l := by
  rw [books.entered, entries, List.count_append, count_underway s.distinct, underway]
  exact fun d there => plain.imp_right fun matched => matched d.worker (books.crew d there)

theorem Books.tallied (books : Books s t) (i : ι) : Tallied s t i := by
  have read (l : Line) (other : l ≠ .duration) := books.read_eq (i := i) (.inl other)
  have answers (l : Line) (other : l ≠ .duration) (P : Outcome → Bool)
      (each : ∀ h ∈ t.handled, ((Settling.settled h.outcome).lines h.result).count l =
        if P h.outcome then 1 else 0) :
      (t.handled.flatMap (Handled.entries s.name)).count (s.name i, l) =
        (t.outcomes i).countP P := by
    refine count_answers fun h past => ?_
    rw [h.count_entries s.distinct i other, each h past, ite_and]
  have failures : (t.handled.flatMap (Handled.entries s.name)).count (s.name i, .failure) =
      (t.outcomes i).countP Outcome.isRequeued + (t.outcomes i).count .dropped := by
    rw [← failures_split]
    refine answers .failure nofun (fun o => decide (o ≠ .synced)) fun h past => ?_
    rw [(Settling.count_lines h.result h.outcome).2.1]
    simp only [decide_eq_true_eq, ne_eq, books.answers h past, ite_not]
  constructor
  · rw [read .success nofun]
    refine congrArg (· + _) (answers .success nofun (· == .synced) fun h past => ?_)
    rw [(Settling.count_lines h.result h.outcome).1]
    simp only [beq_iff_eq, books.answers h past]
  · rw [read .failure nofun, failures]
  · have kind (k : String) := read (.kind k) nofun
    simp only [kind, List.sum_map_add, sum_kinds s.distinct, failures]
  · rw [read .dropped nofun]
    refine congrArg (· + _) (answers .dropped nofun (· == .dropped) fun h past => ?_)
    rw [(Settling.count_lines h.result h.outcome).2.2.1]
    simp only [beq_iff_eq]
  · intro matched
    have all : (t.handled.flatMap (Handled.entries s.name)).count (s.name i, .duration) =
        (t.outcomes i).countP fun _ => true := by
      refine count_answers fun h past => ?_
      have named := matched h.worker (books.hired h past)
      rw [Handled.entries, Settling.count_entries s.distinct _ (.inr named), List.count_cons_self,
        List.count_eq_zero.2 (duration_not_mem _ _)]
      simp
    rw [books.read_eq (.inr matched), all, List.countP_true]

theorem underway_of_calm (calm : t.Calm i) : t.underway i = [] := by
  rw [underway, List.flatMap_eq_nil_iff]
  intro d inside
  obtain ⟨there, own⟩ := List.mem_filter.1 inside
  unfold Desk.underway
  split
  · rename_i key r stage settling
    exact absurd settling (calm d there (of_decide_eq_true own) key r stage)
  · rfl

theorem Tallied.exact (tallied : Tallied s t i) (calm : t.Calm i) : Exact s t i := by
  obtain ⟨success, failure, kinds, dropped, duration⟩ := tallied
  have none : (PassError.kinds.map fun k => ([] : List Line).count (.kind k)).sum = 0 := rfl
  rw [underway_of_calm calm] at success failure kinds dropped duration
  rw [none] at kinds
  refine ⟨success, failure, failure.trans kinds.symm, dropped, fun matched => ?_⟩
  rw [duration matched, success, failure, length_split]
  rfl

section Cooperation

variable {desk : Nat} {m : WorkshopMove ι}

/-- A worker is in the middle of something that it does not have to wait for. -/
def Hurries (t : Workshop ι) (desk : Nat) : Prop :=
  ∃ d, t.desks[desk]? = some d ∧ d.task.waits = false

/-- In a run a worker gives way only while it waits for a key or for an answer. -/
def Cooperative : Workshop ι → List (WorkshopMove ι) → Prop
  | _, [] => True
  | t, m :: ms =>
    (∀ desk, t.Hurries desk → ∃ seconds, m = .work desk seconds) ∧ Cooperative (t.move m) ms

theorem Cooperative.last {ms : List (WorkshopMove ι)} (cooperative : Cooperative t (ms ++ [m])) :
    ∀ desk, (t.moves ms).Hurries desk → ∃ seconds, m = .work desk seconds := by
  induction ms generalizing t with
  | nil => exact cooperative.1
  | cons first rest ih => exact ih cooperative.2

end Cooperation

section Account

end Account

end Workshop

end SecretSync
