import SecretSync.Proofs.Queue.Delivery
import Mathlib.Logic.Function.Iterate

/-!
Workers on one queue, lock by lock: what a worker does with a key after its pass comes in steps, and
anybody else may come in between. No retry is lost on the way: a key that counts as put back has a
timer or work to come, or a worker is still at it.
-/
namespace SecretSync

theorem mem_eraseIdx_or {l : List α} {a : α} (h : a ∈ l) (i : Nat) :
    a ∈ l.eraseIdx i ∨ l[i]? = some a := by
  obtain ⟨j, there⟩ := List.mem_iff_getElem?.1 h
  by_cases same : j = i
  · exact .inr (same ▸ there)
  · exact .inl (List.mem_eraseIdx_iff_getElem?.2 ⟨j, same, there⟩)

inductive Stage where
  | working
  | judged (r : Except PassError Unit) (o : Outcome)
  | counted (r : Except PassError Unit) (attempt : Nat) (delay : Span)
  | settled

structure Hand where
  key : String
  stage : Stage

structure Report where
  key : String
  result : Except PassError Unit
  outcome : Outcome
  deriving DecidableEq

/-- The answer that the next step of a worker gives. A key is answered as put back when it is added
again or gets its timer. -/
def Hand.report? : Hand → Option Report
  | ⟨_, .judged _ (.requeued _)⟩ => none
  | ⟨key, .judged r o⟩ => some ⟨key, r, o⟩
  | ⟨key, .counted r n _⟩ => some ⟨key, r, .requeued n⟩
  | _ => none

theorem Hand.report?_judged {o : Outcome} (last : ∀ n, o ≠ .requeued n) (key : String)
    (r : Except PassError Unit) : Hand.report? ⟨key, .judged r o⟩ = some ⟨key, r, o⟩ := by
  cases o with
  | requeued n => exact absurd rfl (last n)
  | _ => rfl

/-- What happens to a queue with workers. A pass gives any result, and timers go off in any
order. -/
inductive CrewMove where
  | add (key : String)
  | addAfter (key : String) (delay : Span)
  | fire (timer : Nat)
  /-- A worker does its next step. `r` is what its pass gives, if that ends now. -/
  | work (worker : Nat) (r : Except PassError Unit)
  | close

/-- `timers` are the keys that timers will bring back, each with the delay it was set for, and
`hands` is what each worker is at. -/
structure Crew where
  queue : WorkQueue
  timers : List (String × Span)
  hands : Nat → Option Hand

namespace WorkQueue

variable {q q' : WorkQueue} {key : String}

@[simp] theorem requeues_add (q : WorkQueue) (key : String) :
    (q.add key).requeues = q.requeues := by
  unfold add
  split_ifs <;> rfl

@[simp] theorem requeues_finish (q : WorkQueue) (key : String) :
    (q.finish key).requeues = q.requeues := by
  simp only [finish]
  split_ifs <;> rfl

@[simp] theorem requeues_addAfter (q : WorkQueue) (key : String) (delay : Span) :
    (q.addAfter key delay).1.requeues = q.requeues := by
  unfold addAfter
  split_ifs
  · exact q.requeues_add key
  · rfl

theorem requeues_take (taken : q.take? = some (key, q')) : q'.requeues = q.requeues := by
  obtain ⟨-, rest, -, rfl⟩ := take?_eq_some taken
  rfl

theorem requeueCount_congr (same : q'.requeues = q.requeues) (k : String) :
    q'.requeueCount k = q.requeueCount k := by
  rw [requeueCount, same, requeueCount]

theorem requeueCount_countRequeue (q : WorkQueue) (key k : String) :
    (q.countRequeue key).requeueCount k =
      if k = key then min (q.requeueCount key + 1) (UInt32.size - 1) else q.requeueCount k := by
  simp only [requeueCount, countRequeue, Table.get?_insert, eq_comm (a := k)]
  split_ifs <;> rfl

theorem requeueCount_forget (q : WorkQueue) (key k : String) :
    (q.forget key).requeueCount k = if k = key then 0 else q.requeueCount k := by
  simp only [requeueCount, forget, Table.get?_erase, eq_comm (a := k)]
  split_ifs <;> rfl

end WorkQueue

namespace Crew

def start : Crew := ⟨WorkQueue.empty, [], fun _ => none⟩

def delayed (s : Crew) (key : String) (r : WorkQueue × Option Span) : Crew :=
  { s with queue := r.1, timers := s.timers ++ (r.2.map fun delay => (key, delay)).toList }

/-- What it takes to bring a key back after a delay: it is added at once if there is nothing to wait
for, and gets a timer for just that delay if there is. -/
def Schedules (s : Crew) (key : String) (delay : Span) (t : Crew) : Prop :=
  if delay.nanos = 0 then t.queue = s.queue.add key ∧ t.timers = s.timers
  else t.queue = s.queue ∧ t.timers = s.timers ++ [(key, delay)]

def put (s : Crew) (worker : Nat) (q : WorkQueue) (h : Option Hand) : Crew :=
  { s with queue := q, hands := Function.update s.hands worker h }

def work (b : Backoff) (m : Nat) (s : Crew) (worker : Nat) (r : Except PassError Unit) : Crew :=
  match s.hands worker with
  | none =>
    match s.queue.take? with
    | none => s
    | some (key, q) => s.put worker q (some ⟨key, .working⟩)
  | some ⟨key, .working⟩ =>
    s.put worker s.queue (some ⟨key, .judged r (.decide (s.queue.requeueCount key) m r)⟩)
  | some ⟨key, .judged r (.requeued n)⟩ =>
    s.put worker (s.queue.countRequeue key)
      (some ⟨key, .counted r n (b.delay (s.queue.requeueCount key))⟩)
  | some ⟨key, .judged _ _⟩ => s.put worker (s.queue.forget key) (some ⟨key, .settled⟩)
  | some ⟨key, .counted _ _ delay⟩ =>
    let t := s.delayed key (s.queue.addAfter key delay)
    t.put worker t.queue (some ⟨key, .settled⟩)
  | some ⟨key, .settled⟩ => s.put worker (s.queue.finish key) none

/-- A move. A timer that is not set does not fire, and a worker that finds no key goes on
waiting. -/
def move (b : Backoff) (m : Nat) (s : Crew) : CrewMove → Crew
  | .add key => { s with queue := s.queue.add key }
  | .addAfter key delay => s.delayed key (s.queue.addAfter key delay)
  | .fire timer =>
    match s.timers[timer]? with
    | none => s
    | some (key, _) => { s with queue := s.queue.add key, timers := s.timers.eraseIdx timer }
  | .work worker r => s.work b m worker r
  | .close => { s with queue := s.queue.close }

def handed? (s : Crew) : CrewMove → Option String
  | .work worker _ =>
    match s.hands worker with
    | none => s.queue.take?.map Prod.fst
    | some _ => none
  | _ => none

def report? (s : Crew) : CrewMove → Option Report
  | .work worker _ => (s.hands worker).bind Hand.report?
  | _ => none

def moves (b : Backoff) (m : Nat) (s : Crew) (ms : List CrewMove) : Crew := ms.foldl (move b m) s

variable {b : Backoff} {m : Nat} {s : Crew} {worker : Nat} {r : Except PassError Unit}

/-- A worker with nobody in between settles the result of its pass as the queue does at one go, and
answers the same. -/
theorem settle_in_steps {key : String} (hand : s.hands worker = some ⟨key, .working⟩)
    (r : Except PassError Unit) :
    let settled := s.queue.settle b m key r
    ∃ n, let t := (fun t : Crew => t.work b m worker r)^[n] s
      t.report? (.work worker r) = some ⟨key, r, settled.1⟩ ∧
      t.work b m worker r =
        (s.delayed key settled.2).put worker settled.2.1 (some ⟨key, .settled⟩) := by
  intro settled
  have judged : s.work b m worker r = s.put worker s.queue
      (some ⟨key, .judged r (.decide (s.queue.requeueCount key) m r)⟩) := by
    simp only [work, hand]
  simp only [settled, WorkQueue.settle]
  cases decided : Outcome.decide (s.queue.requeueCount key) m r with
  | requeued n =>
    refine ⟨2, ?_⟩
    simp only [Function.iterate_succ, Function.iterate_zero, Function.comp_apply, id_eq, judged,
      decided]
    simp [work, report?, Hand.report?, put, delayed, WorkQueue.addLimited]
  | synced =>
    refine ⟨1, ?_⟩
    rw [Function.iterate_one, judged, decided]
    simp [work, report?, Hand.report?, put, delayed]
  | dropped =>
    refine ⟨1, ?_⟩
    rw [Function.iterate_one, judged, decided]
    simp [work, report?, Hand.report?, put, delayed]

theorem moves_append (b : Backoff) (m : Nat) (s : Crew) (before after : List CrewMove) :
    s.moves b m (before ++ after) = (s.moves b m before).moves b m after :=
  List.foldl_append

def key? (s : Crew) (worker : Nat) : Option String := (s.hands worker).map Hand.key

theorem hands_put (s : Crew) (worker other : Nat) (q : WorkQueue) (h : Option Hand) :
    (s.put worker q h).hands other = if other = worker then h else s.hands other :=
  Function.update_apply s.hands worker h other

theorem hands_put_self (s : Crew) (worker : Nat) (q : WorkQueue) (h : Option Hand) :
    (s.put worker q h).hands worker = h := by
  rw [hands_put, if_pos rfl]

theorem key?_put (s : Crew) (worker other : Nat) (q : WorkQueue) (h : Option Hand) :
    (s.put worker q h).key? other = if other = worker then h.map Hand.key else s.key? other := by
  rw [key?, hands_put, apply_ite (Option.map Hand.key)]
  rfl

theorem key?_of_hands {h : Hand} (hand : s.hands worker = some h) :
    s.key? worker = some h.key := by
  rw [key?, hand, Option.map_some]

theorem key?_put_same {key : String} {now : Stage} (hand : s.hands worker = some ⟨key, now⟩)
    (q : WorkQueue) (next : Stage) : (s.put worker q (some ⟨key, next⟩)).key? = s.key? := by
  funext other
  rw [key?_put]
  split_ifs with same
  · rw [same, key?_of_hands hand, Option.map_some]
  · rfl

structure Orderly (s : Crew) : Prop where
  tidy : s.queue.Tidy
  apart : ∀ i j k, s.key? i = some k → s.key? j = some k → i = j
  inside : ∀ k, k ∈ s.queue.processing ↔ ∃ worker, s.key? worker = some k

theorem orderly_start : start.Orderly where
  tidy := WorkQueue.tidy_empty
  apart := fun _ _ _ holds => nomatch holds
  inside := by simp [start, key?, WorkQueue.empty]

theorem Orderly.of_same {t : Crew} (o : s.Orderly) (tidy : t.queue.Tidy)
    (keys : t.key? = s.key?) (processing : t.queue.processing = s.queue.processing) :
    t.Orderly where
  tidy := tidy
  apart := keys ▸ o.apart
  inside := by
    rw [keys, processing]
    exact o.inside

theorem tidy_addAfter {q : WorkQueue} (tidy : q.Tidy) (key : String) (delay : Span) :
    (q.addAfter key delay).1.Tidy ∧ (q.addAfter key delay).1.processing = q.processing := by
  unfold WorkQueue.addAfter
  split_ifs
  · exact ⟨tidy.add key, q.processing_add key⟩
  · exact ⟨tidy, rfl⟩

theorem Orderly.took {key : String} {q : WorkQueue} (o : s.Orderly) (free : s.hands worker = none)
    (taken : s.queue.take? = some (key, q)) :
    (s.put worker q (some ⟨key, .working⟩)).Orderly := by
  obtain ⟨idle, processing⟩ := o.tidy.take_processing taken
  have nobody : ∀ i, s.key? i ≠ some key := fun i holds => idle ((o.inside key).2 ⟨i, holds⟩)
  have freed : s.key? worker = none := by rw [key?, free, Option.map_none]
  constructor
  · exact o.tidy.take taken
  · intro i j k
    simp only [key?_put, Option.map_some]
    split_ifs with first second second
    · intro _ _
      rw [first, second]
    · intro own other
      exact absurd (own ▸ other) (nobody j)
    · intro other own
      exact absurd (own ▸ other) (nobody i)
    · exact o.apart i j k
  · intro k
    change k ∈ q.processing ↔ _
    rw [processing, List.mem_append, List.mem_singleton, o.inside k]
    simp only [key?_put, Option.map_some]
    constructor
    · rintro (⟨i, holds⟩ | rfl)
      · refine ⟨i, ?_⟩
        rw [if_neg, holds]
        rintro rfl
        exact nomatch freed.symm.trans holds
      · exact ⟨worker, if_pos rfl⟩
    · rintro ⟨i, holds⟩
      split_ifs at holds with same
      · exact .inr (Option.some.inj holds).symm
      · exact .inl ⟨i, holds⟩

theorem Orderly.finished {key : String} (o : s.Orderly) (holds : s.key? worker = some key) :
    (s.put worker (s.queue.finish key) none).Orderly := by
  constructor
  · exact o.tidy.finish ((o.inside key).2 ⟨worker, holds⟩)
  · intro i j k
    simp only [key?_put, Option.map_none]
    split_ifs
    · intro none
      exact nomatch none
    · intro none
      exact nomatch none
    · intro _ none
      exact nomatch none
    · exact o.apart i j k
  · intro k
    change k ∈ (s.queue.finish key).processing ↔ _
    rw [WorkQueue.processing_finish, WorkQueue.mem_without, o.inside k]
    simp only [key?_put, Option.map_none]
    constructor
    · rintro ⟨⟨i, own⟩, other⟩
      refine ⟨i, ?_⟩
      rw [if_neg, own]
      rintro rfl
      exact other (Option.some.inj (own.symm.trans holds))
    · rintro ⟨i, own⟩
      split_ifs at own with same
      refine ⟨⟨i, own⟩, ?_⟩
      rintro rfl
      exact same (o.apart i worker k own holds)

theorem Orderly.work (o : s.Orderly) : (s.work b m worker r).Orderly := by
  fun_cases Crew.work b m s worker r with
  | case1 => exact o
  | case2 free key q taken => exact o.took free taken
  | case3 key hand =>
    exact o.of_same o.tidy (key?_put_same hand _ _) rfl
  | case4 key r n hand =>
    exact o.of_same (o.tidy.countRequeue key) (key?_put_same hand _ _) rfl
  | case5 key r o' other hand =>
    exact o.of_same (o.tidy.forget key) (key?_put_same hand _ _) rfl
  | case6 key r n delay hand t =>
    obtain ⟨tidy, processing⟩ := tidy_addAfter o.tidy key delay
    exact o.of_same tidy (key?_put_same (s := t) hand _ _) processing
  | case7 key hand => exact o.finished (key?_of_hands hand)

theorem Orderly.move (o : s.Orderly) (mv : CrewMove) : (s.move b m mv).Orderly := by
  cases mv with
  | add key => exact o.of_same (o.tidy.add key) rfl (s.queue.processing_add key)
  | addAfter key delay =>
    obtain ⟨tidy, processing⟩ := tidy_addAfter o.tidy key delay
    exact o.of_same tidy rfl processing
  | fire timer =>
    simp only [Crew.move]
    split
    · exact o
    · exact o.of_same (o.tidy.add _) rfl (s.queue.processing_add _)
  | work worker r => exact o.work
  | close => exact o.of_same o.tidy.close rfl rfl

theorem Orderly.moves (o : s.Orderly) (ms : List CrewMove) : (s.moves b m ms).Orderly := by
  induction ms generalizing s with
  | nil => exact o
  | cons mv rest ih => exact ih (o.move mv)

/-- Somebody will find work on the key: a timer brings it back or it is noted as work to come. A
closed queue takes no notes. -/
def Pending (s : Crew) (k : String) : Prop :=
  s.queue.closed = true ∨ k ∈ s.timers.map Prod.fst ∨ k ∈ s.queue.dirty

def Busy (s : Crew) (k : String) : Prop :=
  ∃ worker h, s.hands worker = some h ∧ h.key = k ∧ h.stage ≠ .settled

def Kept (s : Crew) : Prop := ∀ k, 0 < s.queue.requeueCount k → s.Pending k ∨ s.Busy k

variable {key k : String}

theorem pending_added (s : Crew) (timers : List (String × Span)) (key k : String) :
    Pending { s with queue := s.queue.add key, timers := timers } k ↔
      Pending { s with timers := timers } k ∨ k = key := by
  unfold Pending WorkQueue.add
  split_ifs with known
  · constructor
    · exact .inl
    · rintro (pending | rfl)
      · exact pending
      · exact known.elim .inl fun dirty => .inr (.inr dirty)
  · simp only [List.mem_append, List.mem_singleton]
    tauto
  · simp only [List.mem_append, List.mem_singleton]
    tauto

theorem pending_delayed (s : Crew) (key k : String) (delay : Span) :
    (s.delayed key (s.queue.addAfter key delay)).Pending k ↔ s.Pending k ∨ k = key := by
  unfold WorkQueue.addAfter
  split_ifs
  · simpa only [delayed, Option.map_none, Option.toList_none, List.append_nil] using
      s.pending_added s.timers key k
  · simp only [delayed, Pending, Option.map_some, Option.toList_some, List.map_append,
      List.map_singleton, List.mem_append, List.mem_singleton]
    tauto

theorem pending_fired {timer : Nat} {delay : Span} (due : s.timers[timer]? = some (key, delay))
    (pending : s.Pending k) :
    Pending { s with queue := s.queue.add key, timers := s.timers.eraseIdx timer } k := by
  rw [pending_added]
  by_cases same : k = key
  · exact .inr same
  · rcases pending with closed | timed | dirty
    · exact .inl (.inl closed)
    · obtain ⟨waits, set, rfl⟩ := List.mem_map.1 timed
      rcases mem_eraseIdx_or set timer with stays | fired
      · exact .inl (.inr (.inl (List.mem_map_of_mem stays)))
      · cases fired.symm.trans due
        exact absurd rfl same
    · exact .inl (.inr (.inr dirty))

theorem pending_work (pending : s.Pending k) :
    (s.work b m worker r).Pending k ∨ s.handed? (.work worker r) = some k := by
  fun_cases Crew.work b m s worker r with
  | case1 => exact .inl pending
  | case2 free key q taken =>
    simp only [handed?, free, taken, Option.map_some, Option.some.injEq]
    obtain ⟨-, rest, -, rfl⟩ := WorkQueue.take?_eq_some taken
    by_cases same : key = k
    · exact .inr same
    · rcases pending with closed | timed | dirty
      · exact .inl (.inl closed)
      · exact .inl (.inr (.inl timed))
      · exact .inl (.inr (.inr (WorkQueue.mem_without.2 ⟨dirty, Ne.symm same⟩)))
  | case3 => exact .inl pending
  | case4 => exact .inl pending
  | case5 => exact .inl pending
  | case6 key r n delay => exact .inl ((s.pending_delayed key k delay).2 (.inl pending))
  | case7 key =>
    left
    simp only [Pending, put, WorkQueue.closed_finish, WorkQueue.dirty_finish]
    exact pending

theorem pending_move (mv : CrewMove) (pending : s.Pending k) :
    (s.move b m mv).Pending k ∨ s.handed? mv = some k := by
  cases mv with
  | add key => exact .inl ((s.pending_added s.timers key k).2 (.inl pending))
  | addAfter key delay => exact .inl ((s.pending_delayed key k delay).2 (.inl pending))
  | fire timer =>
    simp only [move]
    split
    · exact .inl pending
    · rename_i key delay due
      exact .inl (pending_fired due pending)
  | work worker r => exact pending_work pending
  | close => exact .inl (.inl rfl)

theorem pending_moves (ms : List CrewMove) (pending : s.Pending k) :
    (s.moves b m ms).Pending k ∨ k ∈ collect (move b m) handed? s ms := by
  induction ms generalizing s with
  | nil => exact .inl pending
  | cons mv rest ih =>
    rcases pending_move (b := b) (m := m) mv pending with still | handed
    · refine (ih still).imp_right fun later => ?_
      exact List.mem_append_right _ later
    · refine .inr (List.mem_append_left _ ?_)
      rw [handed]
      exact List.mem_cons_self

theorem Busy.put (busy : s.Busy k) (worker : Nat) (q : WorkQueue) (h : Option Hand) :
    (s.put worker q h).Busy k ∨ ∃ h, s.hands worker = some h ∧ h.key = k ∧ h.stage ≠ .settled := by
  obtain ⟨other, held, hand, own, unsettled⟩ := busy
  by_cases same : other = worker
  · exact .inr ⟨held, same ▸ hand, own, unsettled⟩
  · exact .inl ⟨other, held, by rw [hands_put, if_neg same, hand], own, unsettled⟩

theorem busy_put_self (s : Crew) (worker : Nat) (q : WorkQueue) {h : Hand}
    (unsettled : h.stage ≠ .settled) : (s.put worker q (some h)).Busy h.key :=
  ⟨worker, h, hands_put_self .., rfl, unsettled⟩

theorem Busy.goesOn {now next : Stage} (busy : s.Busy k)
    (hand : s.hands worker = some ⟨key, now⟩) (unsettled : next ≠ .settled) (q : WorkQueue) :
    (s.put worker q (some ⟨key, next⟩)).Busy k := by
  rcases busy.put worker q (some ⟨key, next⟩) with busy | ⟨h, held, own, -⟩
  · exact busy
  · cases held.symm.trans hand
    exact own ▸ s.busy_put_self worker q (h := ⟨key, next⟩) unsettled

theorem busy_of_handed {mv : CrewMove} (handed : s.handed? mv = some k) :
    (s.move b m mv).Busy k := by
  cases mv with
  | work worker r =>
    cases free : s.hands worker with
    | none =>
      simp only [handed?, free, Option.map_eq_some_iff] at handed
      obtain ⟨⟨first, q⟩, taken, rfl⟩ := handed
      simp only [move, work, free, taken]
      exact s.busy_put_self worker q (h := ⟨first, .working⟩) (by simp)
    | some h => simp [handed?, free] at handed
  | _ => exact nomatch handed

/-- A worker that is at a key goes on with it, or lets it come back, or the key does not count. -/
theorem busy_work (b : Backoff) (m worker : Nat) (r : Except PassError Unit) (busy : s.Busy k) :
    (s.work b m worker r).Busy k ∨ (s.work b m worker r).Pending k ∨
      (s.work b m worker r).queue.requeueCount k = 0 := by
  fun_cases Crew.work b m s worker r with
  | case1 => exact .inl busy
  | case2 free key q taken =>
    rcases busy.put worker q _ with busy | ⟨h, hand, -⟩
    · exact .inl busy
    · exact nomatch free.symm.trans hand
  | case3 key hand => exact .inl (busy.goesOn hand (by simp) _)
  | case4 key r n hand => exact .inl (busy.goesOn hand (by simp) _)
  | case5 key r o other hand =>
    rcases busy.put worker (s.queue.forget key) _ with busy | ⟨h, held, rfl, -⟩
    · exact .inl busy
    · cases held.symm.trans hand
      exact .inr (.inr (by rw [put, WorkQueue.requeueCount_forget, if_pos rfl]))
  | case6 key r n delay hand t =>
    rcases Busy.put (s := t) busy worker t.queue _ with busy | ⟨h, held, rfl, -⟩
    · exact .inl busy
    · cases held.symm.trans hand
      exact .inr (.inl ((s.pending_delayed key key delay).2 (.inr rfl)))
  | case7 key hand =>
    rcases busy.put worker (s.queue.finish key) none with busy | ⟨h, held, -, unsettled⟩
    · exact .inl busy
    · cases held.symm.trans hand
      exact absurd rfl unsettled

theorem counts_work : 0 < (s.work b m worker r).queue.requeueCount k →
    0 < s.queue.requeueCount k ∨ (s.work b m worker r).Busy k := by
  fun_cases Crew.work b m s worker r with
  | case1 => exact .inl
  | case2 free key q taken =>
    intro counts
    have same := WorkQueue.requeueCount_congr (WorkQueue.requeues_take taken) k
    exact .inl (same ▸ counts)
  | case3 => exact .inl
  | case4 key r n hand =>
    intro counts
    by_cases same : k = key
    · subst same
      exact .inr (s.busy_put_self worker _ (h := ⟨k, .counted r n _⟩) (by simp))
    · rw [put, WorkQueue.requeueCount_countRequeue, if_neg same] at counts
      exact .inl counts
  | case5 key =>
    intro counts
    rw [put, WorkQueue.requeueCount_forget] at counts
    split_ifs at counts with same
    · exact absurd counts (Nat.lt_irrefl 0)
    · exact .inl counts
  | case6 key r n delay =>
    intro counts
    have same := WorkQueue.requeueCount_congr (s.queue.requeues_addAfter key delay) k
    exact .inl (same ▸ counts)
  | case7 key =>
    intro counts
    have same := WorkQueue.requeueCount_congr (s.queue.requeues_finish key) k
    exact .inl (same ▸ counts)

theorem Kept.work (kept : s.Kept) : (s.work b m worker r).Kept := by
  intro k counts
  rcases counts_work counts with before | busy
  · rcases kept k before with pending | busy
    · rcases pending_work (b := b) (m := m) pending with still | handed
      · exact .inl still
      · exact .inr (busy_of_handed (b := b) (m := m) handed)
    · rcases busy_work b m worker r busy with still | back | not
      · exact .inr still
      · exact .inl back
      · omega
  · exact .inr busy

theorem Kept.beside {t : Crew} (kept : s.Kept) (counts : t.queue.requeues = s.queue.requeues)
    (hands : t.hands = s.hands) (pending : ∀ k, s.Pending k → t.Pending k) : t.Kept := by
  intro k positive
  rw [WorkQueue.requeueCount_congr counts] at positive
  rcases kept k positive with waits | ⟨worker, h, hand, own, unsettled⟩
  · exact .inl (pending k waits)
  · exact .inr ⟨worker, h, by rw [hands, hand], own, unsettled⟩

theorem Kept.move (kept : s.Kept) (mv : CrewMove) : (s.move b m mv).Kept := by
  cases mv with
  | add key =>
    refine kept.beside (s.queue.requeues_add key) rfl fun k pending => ?_
    exact (s.pending_added s.timers key k).2 (.inl pending)
  | addAfter key delay =>
    refine kept.beside (s.queue.requeues_addAfter key delay) rfl fun k pending => ?_
    exact (s.pending_delayed key k delay).2 (.inl pending)
  | fire timer =>
    simp only [Crew.move]
    split
    · exact kept
    · rename_i key delay due
      exact kept.beside (s.queue.requeues_add key) rfl fun k pending => pending_fired due pending
  | work worker r => exact kept.work
  | close => exact kept.beside rfl rfl fun k _ => .inl rfl

theorem Kept.moves (kept : s.Kept) (ms : List CrewMove) : (s.moves b m ms).Kept := by
  induction ms generalizing s with
  | nil => exact kept
  | cons mv rest ih => exact ih (kept.move mv)

theorem kept_start : start.Kept := by
  intro k counts
  simp [start, WorkQueue.requeueCount, WorkQueue.empty] at counts

/-- A key is answered by the worker that has it, before its count is reset or after it went up. -/
theorem report_cases {mv : CrewMove} {rep : Report} (reported : s.report? mv = some rep) :
    ∃ worker r, mv = .work worker r ∧
      ((s.hands worker = some ⟨rep.key, .judged rep.result rep.outcome⟩ ∧
          ∀ n, rep.outcome ≠ .requeued n) ∨
        ∃ n delay, s.hands worker = some ⟨rep.key, .counted rep.result n delay⟩ ∧
          rep.outcome = .requeued n) := by
  cases mv with
  | work worker r =>
    refine ⟨worker, r, rfl, ?_⟩
    simp only [report?, Option.bind_eq_some_iff] at reported
    obtain ⟨⟨key, stage⟩, hand, reported⟩ := reported
    cases stage with
    | working => exact nomatch reported
    | judged r o =>
      cases o with
      | requeued n => exact nomatch reported
      | synced =>
        cases reported
        exact .inl ⟨hand, fun _ other => nomatch other⟩
      | dropped =>
        cases reported
        exact .inl ⟨hand, fun _ other => nomatch other⟩
    | counted r n delay =>
      cases reported
      exact .inr ⟨n, delay, hand, rfl⟩
    | settled => exact nomatch reported
  | _ => exact nomatch reported

theorem schedules_delayed (s : Crew) (key : String) (delay : Span) :
    s.Schedules key delay (s.delayed key (s.queue.addAfter key delay)) := by
  unfold Schedules WorkQueue.addAfter
  split_ifs
  · exact ⟨rfl, List.append_nil _⟩
  · exact ⟨rfl, rfl⟩

theorem pending_of_report {mv : CrewMove} {rep : Report} {n : Nat}
    (reported : s.report? mv = some rep) (again : rep.outcome = .requeued n) :
    (s.move b m mv).Pending rep.key := by
  obtain ⟨worker, r, rfl, ⟨-, last⟩ | ⟨a, delay, hand, -⟩⟩ := report_cases reported
  · exact absurd again (last n)
  · simp only [move, work, hand]
    exact (s.pending_delayed rep.key rep.key delay).2 (.inr rfl)

theorem count_of_report {mv : CrewMove} {rep : Report} (reported : s.report? mv = some rep)
    (last : ∀ n, rep.outcome ≠ .requeued n) :
    (s.move b m mv).queue.requeueCount rep.key = 0 := by
  obtain ⟨worker, r, rfl, ⟨hand, -⟩ | ⟨a, delay, -, again⟩⟩ := report_cases reported
  · have forgotten : s.work b m worker r =
        s.put worker (s.queue.forget rep.key) (some ⟨rep.key, .settled⟩) := by
      cases ended : rep.outcome with
      | requeued n => exact absurd ended (last n)
      | _ => simp only [work, hand, ended]
    rw [move, forgotten, put, WorkQueue.requeueCount_forget, if_pos rfl]
  · exact absurd again (last a)

end Crew

end SecretSync
