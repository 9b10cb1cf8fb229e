import SecretSync.Proofs.Queue.Crew
import Mathlib.Order.Nat

/-!
A key that was put back is handed out again. In a run without an end, in which timers go off and no
worker stops for good, the key leaves its timer, or the hands of the worker that still has it, and
then gets to the front of the line. Only the end of the queue can come before that.
-/
namespace SecretSync

namespace WorkQueue

variable {q q' : WorkQueue} {key : String}

structure Extends (q q' : WorkQueue) : Prop where
  dirty : q.dirty ⊆ q'.dirty
  waiting : q.waiting <+: q'.waiting

theorem Extends.of_same (dirty : q'.dirty = q.dirty) (waiting : q'.waiting = q.waiting) :
    q.Extends q' :=
  ⟨fun _ inside => dirty ▸ inside, waiting ▸ List.prefix_refl _⟩

theorem extends_add (q : WorkQueue) (key : String) : q.Extends (q.add key) := by
  unfold add
  split_ifs
  · exact .of_same rfl rfl
  · exact ⟨List.subset_append_left _ _, List.prefix_refl _⟩
  · exact ⟨List.subset_append_left _ _, List.prefix_append _ _⟩

theorem extends_addAfter (q : WorkQueue) (key : String) (delay : Span) :
    q.Extends (q.addAfter key delay).1 := by
  unfold addAfter
  split_ifs
  · exact q.extends_add key
  · exact .of_same rfl rfl

theorem extends_finish (q : WorkQueue) (key : String) : q.Extends (q.finish key) := by
  simp only [finish]
  split_ifs
  · exact ⟨fun _ => id, List.prefix_append _ _⟩
  · exact .of_same rfl rfl

theorem dirty_added (isOpen : q.closed = false) (key : String) : key ∈ (q.add key).dirty := by
  unfold add
  split_ifs with known
  · rw [isOpen] at known
    exact known.resolve_left (by simp)
  · simp
  · simp

theorem waiting_finish (isOpen : q.closed = false) (dirty : key ∈ q.dirty) :
    key ∈ (q.finish key).waiting := by
  simp only [finish]
  rw [if_pos ⟨dirty, by simp [isOpen]⟩]
  simp

end WorkQueue

/-- How many steps a worker has to go at most until it settles its key. -/
def Stage.stepsLeft : Stage → Nat
  | .working => 3
  | .judged _ _ => 2
  | .counted _ _ _ => 1
  | .settled => 0

namespace Crew

variable {b : Backoff} {m : Nat} {s : Crew} {worker : Nat} {k : String}

/-- A move lets everything to come be, or it hands out the key at the front of the line. -/
theorem move_extends (b : Backoff) (m : Nat) (s : Crew) (mv : CrewMove) :
    (s.handed? mv = none ∧ s.queue.Extends (s.move b m mv).queue) ∨
      ∃ key, s.handed? mv = some key ∧
        s.queue.waiting = key :: (s.move b m mv).queue.waiting ∧
        (s.move b m mv).queue.dirty = WorkQueue.without s.queue.dirty key := by
  cases mv with
  | add key => exact .inl ⟨rfl, s.queue.extends_add key⟩
  | addAfter key delay => exact .inl ⟨rfl, s.queue.extends_addAfter key delay⟩
  | fire timer =>
    refine .inl ⟨rfl, ?_⟩
    simp only [move]
    split
    · exact .of_same rfl rfl
    · exact s.queue.extends_add _
  | close => exact .inl ⟨rfl, .of_same rfl rfl⟩
  | work worker r =>
    simp only [handed?, move]
    fun_cases work b m s worker r with
    | case1 free none => exact .inl ⟨by simp [free, none], .of_same rfl rfl⟩
    | case2 free key q taken =>
      obtain ⟨-, rest, waits, rfl⟩ := WorkQueue.take?_eq_some taken
      exact .inr ⟨key, by simp [free, taken], waits, rfl⟩
    | case3 key hand => exact .inl ⟨by simp [hand], .of_same rfl rfl⟩
    | case4 key r n hand => exact .inl ⟨by simp [hand], .of_same rfl rfl⟩
    | case5 key r o last hand => exact .inl ⟨by simp [hand], .of_same rfl rfl⟩
    | case6 key r n delay hand t =>
      exact .inl ⟨by simp [hand], s.queue.extends_addAfter key delay⟩
    | case7 key hand => exact .inl ⟨by simp [hand], s.queue.extends_finish key⟩

theorem hands_move {mv : CrewMove} (other : ∀ r, mv ≠ .work worker r) :
    (s.move b m mv).hands worker = s.hands worker := by
  cases mv with
  | fire timer =>
    simp only [move]
    split <;> rfl
  | work worker' r =>
    have apart : worker ≠ worker' := fun same => other r (same ▸ rfl)
    simp only [move]
    fun_cases work b m s worker' r with
    | case1 => rfl
    | case6 => rw [hands_put, if_neg apart]; rfl
    | _ => rw [hands_put, if_neg apart]
  | _ => rfl

/-- A worker goes on with its key until it has settled it. -/
theorem hands_work {h : Hand} (hand : s.hands worker = some h) (unsettled : h.stage ≠ .settled)
    (r : Except PassError Unit) :
    ∃ next, (s.work b m worker r).hands worker = some ⟨h.key, next⟩ ∧
      next.stepsLeft < h.stage.stepsLeft := by
  fun_cases work b m s worker r with
  | case1 free => cases free.symm.trans hand
  | case2 free => cases free.symm.trans hand
  | case3 key hand' =>
    cases hand'.symm.trans hand
    exact ⟨_, hands_put_self .., by simp [Stage.stepsLeft]⟩
  | case4 key r n hand' =>
    cases hand'.symm.trans hand
    exact ⟨_, hands_put_self .., by simp [Stage.stepsLeft]⟩
  | case5 key r o last hand' =>
    cases hand'.symm.trans hand
    exact ⟨_, hands_put_self .., by simp [Stage.stepsLeft]⟩
  | case6 key r n delay hand' t =>
    cases hand'.symm.trans hand
    exact ⟨_, hands_put_self .., by simp [Stage.stepsLeft]⟩
  | case7 key hand' =>
    cases hand'.symm.trans hand
    exact absurd rfl unsettled

def stateAt (b : Backoff) (m : Nat) (f : Nat → CrewMove) : Nat → Crew
  | 0 => start
  | n + 1 => (stateAt b m f n).move b m (f n)

/-- Every key with a timer is brought back by one at some time, and a worker that has begun goes on
again and again. -/
structure Fair (b : Backoff) (m : Nat) (f : Nat → CrewMove) : Prop where
  timers : ∀ n, ∀ key ∈ (stateAt b m f n).timers.map Prod.fst, ∃ i timer delay,
    n ≤ i ∧ f i = .fire timer ∧ (stateAt b m f i).timers[timer]? = some (key, delay)
  workers : ∀ n worker r, f n = .work worker r → ∀ i, ∃ j r', i ≤ j ∧ f j = .work worker r'

/-- From the time `n` on the queue is open and never hands out the key. -/
def Unserved (b : Backoff) (m : Nat) (f : Nat → CrewMove) (k : String) (n : Nat) : Prop :=
  ∀ i, n ≤ i → (stateAt b m f i).queue.closed = false ∧ (stateAt b m f i).handed? (f i) ≠ some k

variable {f : Nat → CrewMove} {n i : Nat}

theorem orderly_stateAt (b : Backoff) (m : Nat) (f : Nat → CrewMove) (n : Nat) :
    (stateAt b m f n).Orderly := by
  induction n with
  | zero => exact orderly_start
  | succ n ih => exact ih.move (f n)

theorem Unserved.later (unserved : Unserved b m f k n) (later : n ≤ i) : Unserved b m f k i :=
  fun j le => unserved j (later.trans le)

theorem Unserved.dirty (unserved : Unserved b m f k n) (dirty : k ∈ (stateAt b m f n).queue.dirty)
    (later : n ≤ i) : k ∈ (stateAt b m f i).queue.dirty := by
  induction i, later using Nat.le_induction with
  | base => exact dirty
  | succ i later ih =>
    rcases move_extends b m (stateAt b m f i) (f i) with ⟨-, kept⟩ | ⟨key, handed, -, dirty⟩
    · exact kept.dirty ih
    · rw [stateAt, dirty, WorkQueue.mem_without]
      refine ⟨ih, ?_⟩
      rintro rfl
      exact (unserved i later).2 handed

/-- The key comes no further back in the line, and further to the front with every hand-out. -/
theorem Unserved.line_step (unserved : Unserved b m f k n)
    (waits : k ∈ (stateAt b m f n).queue.waiting) :
    k ∈ (stateAt b m f (n + 1)).queue.waiting ∧
      (stateAt b m f (n + 1)).queue.waiting.idxOf k +
          ((stateAt b m f n).handed? (f n)).toList.length ≤
        (stateAt b m f n).queue.waiting.idxOf k := by
  rcases move_extends b m (stateAt b m f n) (f n) with ⟨none, kept⟩ | ⟨key, handed, line, -⟩
  · obtain ⟨more, line⟩ := kept.waiting
    rw [stateAt, ← line, none, List.idxOf_append_of_mem waits]
    exact ⟨List.mem_append_left _ waits, by simp⟩
  · have other : key ≠ k := by
      rintro rfl
      exact (unserved n (Nat.le_refl n)).2 handed
    rw [line, List.mem_cons] at waits
    rw [stateAt, line, handed, List.idxOf_cons_ne _ other]
    exact ⟨waits.resolve_left (Ne.symm other), by simp⟩

theorem Unserved.line (unserved : Unserved b m f k n)
    (waits : k ∈ (stateAt b m f n).queue.waiting) (later : n ≤ i) :
    k ∈ (stateAt b m f i).queue.waiting ∧
      (stateAt b m f i).queue.waiting.idxOf k ≤ (stateAt b m f n).queue.waiting.idxOf k := by
  induction i, later using Nat.le_induction with
  | base => exact ⟨waits, Nat.le_refl _⟩
  | succ i later ih =>
    obtain ⟨still, before⟩ := ih
    obtain ⟨next, further⟩ := (unserved.later later).line_step still
    exact ⟨next, by omega⟩

theorem worked_before {h : Hand} (hand : (stateAt b m f n).hands worker = some h) :
    ∃ i r, f i = .work worker r := by
  induction n generalizing h with
  | zero => exact nomatch hand
  | succ n ih =>
    by_cases works : ∃ r, f n = .work worker r
    · exact ⟨n, works⟩
    · rw [stateAt, hands_move (not_exists.1 works)] at hand
      exact ih hand

theorem next_work (goes : ∀ i, ∃ j r, i ≤ j ∧ f j = .work worker r) (n : Nat) :
    ∃ j r, n ≤ j ∧ f j = .work worker r ∧
      (stateAt b m f j).hands worker = (stateAt b m f n).hands worker := by
  obtain ⟨j, r, later, works⟩ := goes n
  obtain ⟨d, rfl⟩ := Nat.exists_eq_add_of_le later
  -- another step of the same worker may come before that one
  induction d generalizing n with
  | zero => exact ⟨n, r, Nat.le_refl n, works, rfl⟩
  | succ d ih =>
    by_cases now : ∃ r, f n = .work worker r
    · obtain ⟨r', works⟩ := now
      exact ⟨n, r', Nat.le_refl n, works, rfl⟩
    · obtain ⟨j, r', le, works, same⟩ := ih (n + 1) (by omega) (by rw [← works]; congr 1; omega)
      refine ⟨j, r', by omega, works, ?_⟩
      rw [same, stateAt, hands_move (not_exists.1 now)]

theorem lets_go (goes : ∀ i, ∃ j r, i ≤ j ∧ f j = .work worker r) {h : Hand}
    (hand : (stateAt b m f n).hands worker = some h) :
    ∃ j r, n ≤ j ∧ f j = .work worker r ∧
      (stateAt b m f j).hands worker = some ⟨h.key, .settled⟩ := by
  induction left : h.stage.stepsLeft using Nat.strong_induction_on generalizing h n with
  | _ d ih =>
    obtain ⟨i, r, later, works, same⟩ := next_work (b := b) (m := m) goes n
    rw [hand] at same
    by_cases settled : h.stage = .settled
    · exact ⟨i, r, later, works, by rw [same, ← settled]⟩
    · obtain ⟨next, hand, fewer⟩ := hands_work (b := b) (m := m) same settled r
      have hand : (stateAt b m f (i + 1)).hands worker = some ⟨h.key, next⟩ := by
        rw [stateAt, works]
        exact hand
      obtain ⟨j, r', le, works, settled⟩ := ih _ (left ▸ fewer) hand rfl
      exact ⟨j, r', by omega, works, settled⟩

/-- A key with work to come gets to wait in the line. -/
theorem Unserved.waits (unserved : Unserved b m f k n) (fair : Fair b m f)
    (dirty : k ∈ (stateAt b m f n).queue.dirty) :
    ∃ i, n ≤ i ∧ k ∈ (stateAt b m f i).queue.waiting := by
  have orderly := orderly_stateAt b m f n
  rcases orderly.tidy.dirty_placed (unserved n (Nat.le_refl n)).1 k dirty with waits | works
  · exact ⟨n, Nat.le_refl n, waits⟩
  · obtain ⟨worker, holds⟩ := (orderly.inside k).1 works
    obtain ⟨⟨key, stage⟩, hand, rfl⟩ := Option.map_eq_some_iff.1 holds
    obtain ⟨i, r, begun⟩ := worked_before hand
    obtain ⟨j, r', later, works, settled⟩ := lets_go (fair.workers i worker r begun) hand
    refine ⟨j + 1, by omega, ?_⟩
    simp only [stateAt, works, move, work, settled, put]
    exact WorkQueue.waiting_finish (unserved j later).1 (unserved.dirty dirty later)

/-- As long as a key waits, some key is handed out again and again. -/
theorem Unserved.next_handed (unserved : Unserved b m f k n)
    (goes : ∀ i, ∃ j r, i ≤ j ∧ f j = .work worker r)
    (waits : k ∈ (stateAt b m f n).queue.waiting) :
    ∃ i key, n ≤ i ∧ (stateAt b m f i).handed? (f i) = some key := by
  have free : ∃ i, n ≤ i ∧ (stateAt b m f i).hands worker = none := by
    cases hand : (stateAt b m f n).hands worker with
    | none => exact ⟨n, Nat.le_refl n, hand⟩
    | some h =>
      obtain ⟨j, r, later, works, settled⟩ := lets_go goes hand
      refine ⟨j + 1, by omega, ?_⟩
      simp only [stateAt, works, move, work, settled]
      exact hands_put_self ..
  obtain ⟨i, later, free⟩ := free
  obtain ⟨j, r, le, works, same⟩ := next_work (b := b) (m := m) goes i
  have still := (unserved.line waits (later.trans le)).1
  have isOpen := (unserved j (later.trans le)).1
  cases line : (stateAt b m f j).queue.waiting with
  | nil => simp [line] at still
  | cons key rest =>
    refine ⟨j, key, by omega, ?_⟩
    simp [works, handed?, same, free, WorkQueue.take?, isOpen, line]

/-- A key does not wait forever. -/
theorem Unserved.not_waiting (unserved : Unserved b m f k n)
    (goes : ∀ i, ∃ j r, i ≤ j ∧ f j = .work worker r) :
    k ∉ (stateAt b m f n).queue.waiting := by
  intro waits
  induction place : (stateAt b m f n).queue.waiting.idxOf k using Nat.strong_induction_on
    generalizing n with
  | _ d ih =>
    -- some key is handed out before it, so it gets further to the front
    obtain ⟨i, key, later, handed⟩ := unserved.next_handed goes waits
    obtain ⟨still, before⟩ := unserved.line waits later
    obtain ⟨next, further⟩ := (unserved.later later).line_step still
    rw [handed, Option.toList_some, List.length_singleton] at further
    have past : n ≤ i + 1 := by omega
    exact ih _ (by omega) (unserved.later past) next rfl

theorem pending_handed (fair : Fair b m f) (begun : ∃ i r, f i = .work worker r)
    (pending : (stateAt b m f n).Pending k) :
    ∃ i, n ≤ i ∧ ((stateAt b m f i).queue.closed = true ∨
      (stateAt b m f i).handed? (f i) = some k) := by
  by_contra never
  have unserved : Unserved b m f k n := by
    intro i later
    simp only [not_exists, not_and, not_or, Bool.not_eq_true] at never
    exact never i later
  have dirty : ∃ i, n ≤ i ∧ k ∈ (stateAt b m f i).queue.dirty := by
    rcases pending with closed | timed | dirty
    · exact nomatch closed.symm.trans (unserved n (Nat.le_refl n)).1
    · obtain ⟨i, timer, delay, later, fires, due⟩ := fair.timers n k timed
      refine ⟨i + 1, by omega, ?_⟩
      simp only [stateAt, fires, move, due]
      exact WorkQueue.dirty_added (unserved i later).1 k
    · exact ⟨n, Nat.le_refl n, dirty⟩
  obtain ⟨i, later, dirty⟩ := dirty
  obtain ⟨j, le, waits⟩ := (unserved.later later).waits fair dirty
  obtain ⟨i, r, works⟩ := begun
  exact (unserved.later (later.trans le)).not_waiting (fair.workers i worker r works) waits

/-- Whatever workers do, and however delays are chosen, a key that counts as put back has a timer,
has work to come or is worked on, unless the queue is closed. A key that was answered as put back is
never lost: it is handed out again, or the queue is closed, or it has a timer, waits, or comes to
wait when the work on it ends. It is handed out again, unless the queue is closed, if timers go off
and no worker stops for good. -/
theorem retry_comes_back (b : Backoff) (m : Nat) :
    (∀ ms k, let s := start.moves b m ms
      0 < s.queue.requeueCount k → s.queue.closed = true ∨ k ∈ s.timers.map Prod.fst ∨
        k ∈ s.queue.dirty ∨ k ∈ s.queue.processing) ∧
    (∀ before mv later rep n, let s := start.moves b m before
      s.report? mv = some rep → rep.outcome = .requeued n →
      let t := (s.move b m mv).moves b m later
      rep.key ∈ collect (move b m) handed? (s.move b m mv) later ∨
        t.queue.closed = true ∨ rep.key ∈ t.timers.map Prod.fst ∨ rep.key ∈ t.queue.waiting ∨
        rep.key ∈ t.queue.dirty ∧ rep.key ∈ t.queue.processing) ∧
    ∀ f, Fair b m f → ∀ n rep a, (stateAt b m f n).report? (f n) = some rep →
      rep.outcome = .requeued a →
      ∃ i, n < i ∧ ((stateAt b m f i).queue.closed = true ∨
        (stateAt b m f i).handed? (f i) = some rep.key) := by
  refine ⟨?_, ?_, ?_⟩
  · intro ms k s counts
    have orderly : s.Orderly := orderly_start.moves ms
    rcases kept_start.moves ms k counts with (closed | timed | dirty) | ⟨i, h, hand, rfl, -⟩
    · exact .inl closed
    · exact .inr (.inl timed)
    · exact .inr (.inr (.inl dirty))
    · exact .inr (.inr (.inr ((orderly.inside h.key).2 ⟨i, key?_of_hands hand⟩)))
  · intro before mv later rep n s reported again t
    have orderly : t.Orderly := ((orderly_start.moves before).move mv).moves later
    have pending : (s.move b m mv).Pending rep.key := pending_of_report reported again
    rcases pending_moves (b := b) (m := m) later pending with (closed | timed | dirty) | handed
    · exact .inr (.inl closed)
    · exact .inr (.inr (.inl timed))
    · cases isOpen : t.queue.closed with
      | true => exact .inr (.inl rfl)
      | false =>
        rcases orderly.tidy.dirty_placed isOpen rep.key dirty with waits | works
        · exact .inr (.inr (.inr (.inl waits)))
        · exact .inr (.inr (.inr (.inr ⟨dirty, works⟩)))
    · exact .inl handed
  · intro f fair n rep a reported again
    have pending : (stateAt b m f (n + 1)).Pending rep.key := pending_of_report reported again
    obtain ⟨worker, r, works, -⟩ := report_cases reported
    exact pending_handed fair ⟨n, r, works⟩ pending

/-- A worker takes the only key and its first pass fails. It goes on forever. -/
def persistent : Nat → CrewMove
  | 0 => .add "default/a"
  | 2 => .work 0 (.error (.store (.unavailable "down")))
  | _ => .work 0 (.ok ())

theorem work_idle (b : Backoff) (m : Nat) (free : s.hands worker = none)
    (nothing : s.queue.take? = none) (r : Except PassError Unit) : s.work b m worker r = s := by
  simp only [work, free, nothing]

theorem persistent_rests (rests : 10 ≤ n) :
    stateAt (.make .zero .zero) 3 persistent n = stateAt (.make .zero .zero) 3 persistent 10 := by
  induction n, rests using Nat.le_induction with
  | base => rfl
  | succ n rests ih =>
    have works : persistent n = .work 0 (.ok ()) := by
      obtain ⟨d, rfl⟩ := Nat.exists_eq_add_of_le' rests
      rfl
    have free : (stateAt (.make .zero .zero) 3 persistent 10).hands 0 = none := rfl
    have nothing : (stateAt (.make .zero .zero) 3 persistent 10).queue.take? = none := by
      decide +kernel
    rw [stateAt, ih, works]
    exact work_idle (.make .zero .zero) 3 free nothing (.ok ())

theorem persistent_fair : Fair (.make .zero .zero) 3 persistent where
  timers := by
    intro n key timed
    have short : ∀ n ≤ 10, (stateAt (.make .zero .zero) 3 persistent n).timers = [] := by
      decide +kernel
    by_cases rests : 10 ≤ n
    · rw [persistent_rests rests, short 10 (Nat.le_refl _)] at timed
      exact nomatch timed
    · rw [short n (by omega)] at timed
      exact nomatch timed
  workers := by
    intro n worker r works i
    have only : worker = 0 := by
      unfold persistent at works
      split at works <;> cases works <;> rfl
    exact ⟨i + 3, .ok (), by omega, only ▸ rfl⟩

/-- The moves up to the answer, and those from there to the second pass. -/
def failing : List CrewMove := (List.range 4).map persistent

def secondPass : List CrewMove := [.work 0 (.ok ()), .work 0 (.ok ())]

def retried : List CrewMove := failing ++ .work 0 (.ok ()) :: secondPass

theorem failed_key_comes_back :
    let b := Backoff.make .zero .zero
    let failed : Report := ⟨"default/a", .error (.store (.unavailable "down")), .requeued 1⟩
    0 < (start.moves b 3 retried).queue.requeueCount "default/a" ∧
    "default/a" ∈ (start.moves b 3 retried).queue.processing ∧
    (start.moves b 3 failing).report? (.work 0 (.ok ())) = some failed ∧
    "default/a" ∈ collect (move b 3) handed?
      ((start.moves b 3 failing).move b 3 (.work 0 (.ok ()))) secondPass ∧
    Fair b 3 persistent ∧ (stateAt b 3 persistent 4).report? (persistent 4) = some failed ∧
    ∃ i, 4 < i ∧ ((stateAt b 3 persistent i).queue.closed = true ∨
      (stateAt b 3 persistent i).handed? (persistent i) = some "default/a") := by
  intro b failed
  have counts : 0 < (start.moves b 3 retried).queue.requeueCount "default/a" := by decide +kernel
  have reported : (start.moves b 3 failing).report? (.work 0 (.ok ())) = some failed := rfl
  have answered : (stateAt b 3 persistent 4).report? (persistent 4) = some failed := rfl
  obtain ⟨kept, found, back⟩ := retry_comes_back b 3
  refine ⟨counts, ?_, reported, ?_, persistent_fair, answered, ?_⟩
  · rcases kept retried "default/a" counts with closed | timed | dirty | works
    · exact absurd closed (by decide +kernel)
    · exact absurd timed (by decide +kernel)
    · exact absurd dirty (by decide +kernel)
    · exact works
  · rcases found failing (.work 0 (.ok ())) secondPass failed 1 reported rfl with
      handed | closed | timed | waits | ⟨dirty, -⟩
    · exact handed
    · exact absurd closed (by decide +kernel)
    · exact absurd timed (by decide +kernel)
    · exact absurd waits (by decide +kernel)
    · exact absurd dirty (by decide +kernel)
  · exact back persistent persistent_fair 4 failed 1 answered rfl

end Crew

end SecretSync
