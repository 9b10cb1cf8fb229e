import SecretSync.Proofs.Queue.Crew
import SecretSync.Proofs.Time.Backoff

/-!
How often a key is retried: the answers about a key count up from one, each with a longer delay, to
the ceiling and no further. The count of the key is read and changed in different steps of a worker,
while others come in between, and yet it is the number of retries in a row.
-/
namespace SecretSync

/-- What may be answered about a key after so many retries in a row: `m` is the ceiling. -/
inductive Report.After (b : Backoff) (m n : Nat) : Report → Prop
  | synced (key : String) : After b m n ⟨key, .ok (), .synced⟩
  | hopeless (key : String) {e : PassError} (lasts : e.retryable = false) :
    After b m n ⟨key, .error e, .dropped⟩
  | again (key : String) {e : PassError} (passes : e.retryable = true) (below : n < m) :
    After b m n ⟨key, .error e, .requeued (n + 1)⟩
  | exhausted (key : String) {e : PassError} (passes : e.retryable = true) (reached : n = m) :
    After b m n ⟨key, .error e, .dropped⟩

def Report.again (rep : Report) : Bool :=
  match rep.outcome with
  | .requeued _ => true
  | _ => false

/-- The retries in a row when this has been answered, if there were `n` before. -/
def Report.next (rep : Report) (n : Nat) : Nat := if rep.again then n + 1 else 0

variable {b : Backoff} {m n : Nat} {r : Except PassError Unit} {key : String}

theorem Outcome.decide_requeued {a : Nat} (h : Outcome.decide n m r = .requeued a) :
    a = n + 1 ∧ n < m ∧ ∃ e, r = .error e ∧ e.retryable = true := by
  cases r with
  | ok => exact nomatch h
  | error e =>
    simp only [Outcome.decide] at h
    split_ifs at h with again
    rw [Bool.and_eq_true, Nat.blt_eq] at again
    cases h
    exact ⟨rfl, again.2, e, rfl, again.1⟩

theorem Report.After.of_decide (below : n ≤ m) (key : String)
    (last : ∀ a, Outcome.decide n m r ≠ .requeued a) :
    Report.After b m n ⟨key, r, .decide n m r⟩ ∧
      Report.next ⟨key, r, .decide n m r⟩ n = 0 := by
  cases r with
  | ok => exact ⟨.synced key, rfl⟩
  | error e =>
    simp only [Outcome.decide] at last ⊢
    split_ifs with again
    · exact absurd rfl ((if_pos again ▸ last) (n + 1))
    · refine ⟨?_, rfl⟩
      rw [Bool.and_eq_true, Nat.blt_eq, not_and] at again
      cases lasts : e.retryable with
      | false => exact .hopeless key lasts
      | true => exact .exhausted key lasts (by have := again lasts; omega)

/-- What a worker that is this far knows about its key, which has been retried `n` times in a row
and has the given count. -/
def Stage.Fits (b : Backoff) (m n count : Nat) : Stage → Prop
  | .working => count = n
  | .judged r o => count = n ∧ o = .decide n m r
  | .counted r a delay =>
    count = n + 1 ∧ a = n + 1 ∧ delay = b.delay n ∧ n < m ∧ ∃ e, r = .error e ∧ e.retryable = true
  | .settled => count = n

namespace Crew

variable {s : Crew} {worker : Nat} {retries : String → Nat} {k : String}

/-- The counts are the numbers of retries in a row, but for a key that is just being put back. -/
structure Tracks (b : Backoff) (m : Nat) (retries : String → Nat) (s : Crew) : Prop where
  orderly : s.Orderly
  below : ∀ k, retries k ≤ m
  idle : ∀ k, (∀ worker, s.key? worker ≠ some k) → s.queue.requeueCount k = retries k
  held : ∀ worker h, s.hands worker = some h →
    h.stage.Fits b m (retries h.key) (s.queue.requeueCount h.key)

def tally (retries : String → Nat) : Option Report → String → Nat
  | none => retries
  | some rep => Function.update retries rep.key (rep.next (retries rep.key))

theorem tracks_start (b : Backoff) (m : Nat) : start.Tracks b m fun _ => 0 where
  orderly := orderly_start
  below := fun _ => Nat.zero_le m
  idle := by simp [start, WorkQueue.requeueCount, WorkQueue.empty]
  held := fun _ _ hand => nomatch hand

theorem Tracks.beside {t : Crew} (tracks : s.Tracks b m retries) (orderly : t.Orderly)
    (counts : t.queue.requeues = s.queue.requeues) (hands : t.hands = s.hands) :
    t.Tracks b m retries where
  orderly := orderly
  below := tracks.below
  idle := by
    intro k nobody
    rw [WorkQueue.requeueCount_congr counts]
    refine tracks.idle k fun i holds => nobody i ?_
    rw [key?, hands]
    exact holds
  held := by
    intro i h hand
    rw [WorkQueue.requeueCount_congr counts]
    exact tracks.held i h (hands ▸ hand)

theorem Tracks.fits {now : Stage} (tracks : s.Tracks b m retries)
    (hand : s.hands worker = some ⟨key, now⟩) :
    now.Fits b m (retries key) (s.queue.requeueCount key) :=
  tracks.held worker _ hand

/-- A worker goes on with its key, or takes it: nothing changes about the other keys. -/
theorem Tracks.goesOn {q : WorkQueue} {next : Stage} (tracks : s.Tracks b m retries)
    (orderly : (s.put worker q (some ⟨key, next⟩)).Orderly)
    (own : ∀ k, s.key? worker = some k → k = key)
    (counts : ∀ k ≠ key, q.requeueCount k = s.queue.requeueCount k) (below : n ≤ m)
    (fits : next.Fits b m n (q.requeueCount key)) :
    (s.put worker q (some ⟨key, next⟩)).Tracks b m (Function.update retries key n) where
  orderly := orderly
  below := by
    intro k
    rw [Function.update_apply]
    split_ifs
    · exact below
    · exact tracks.below k
  idle := by
    intro k nobody
    have other : k ≠ key := by
      rintro rfl
      exact nobody worker (by rw [key?_put, if_pos rfl, Option.map_some])
    change q.requeueCount k = _
    rw [counts k other, Function.update_of_ne other]
    refine tracks.idle k fun i holds => ?_
    by_cases here : i = worker
    · exact other (own k (here ▸ holds))
    · exact nobody i (by rw [key?_put, if_neg here, holds])
  held := by
    intro i h hand
    change h.stage.Fits b m _ (q.requeueCount h.key)
    rw [hands_put] at hand
    split_ifs at hand with here
    · cases hand
      rw [Function.update_self]
      exact fits
    · have other : h.key ≠ key := by
        intro this
        have there : (s.put worker q (some ⟨key, next⟩)).key? i = some key := by
          rw [key?_put, if_neg here, key?_of_hands hand, this]
        have self : (s.put worker q (some ⟨key, next⟩)).key? worker = some key := by
          rw [key?_put, if_pos rfl, Option.map_some]
        exact here (orderly.apart i worker key there self)
      rw [counts _ other, Function.update_of_ne other]
      exact tracks.held i h hand

theorem Tracks.goesOnQuietly {q : WorkQueue} {next : Stage} (tracks : s.Tracks b m retries)
    (orderly : (s.put worker q (some ⟨key, next⟩)).Orderly)
    (own : ∀ k, s.key? worker = some k → k = key)
    (counts : ∀ k ≠ key, q.requeueCount k = s.queue.requeueCount k)
    (fits : next.Fits b m (retries key) (q.requeueCount key)) :
    (s.put worker q (some ⟨key, next⟩)).Tracks b m retries := by
  have tracks := tracks.goesOn orderly own counts (tracks.below key) fits
  rwa [Function.update_eq_self] at tracks

theorem Tracks.finished (tracks : s.Tracks b m retries)
    (hand : s.hands worker = some ⟨key, .settled⟩) :
    (s.put worker (s.queue.finish key) none).Tracks b m retries where
  orderly := tracks.orderly.finished (key?_of_hands hand)
  below := tracks.below
  idle := by
    intro k nobody
    change (s.queue.finish key).requeueCount k = _
    rw [WorkQueue.requeueCount_congr (s.queue.requeues_finish key)]
    by_cases this : k = key
    · exact this ▸ tracks.held worker _ hand
    · refine tracks.idle k fun i holds => ?_
      by_cases here : i = worker
      · subst here
        exact this (Option.some.inj (holds.symm.trans (key?_of_hands hand)))
      · exact nobody i (by rw [key?_put, if_neg here, holds])
  held := by
    intro i h there
    rw [hands_put] at there
    split_ifs at there
    change h.stage.Fits b m _ ((s.queue.finish key).requeueCount h.key)
    rw [WorkQueue.requeueCount_congr (s.queue.requeues_finish key)]
    exact tracks.held i h there

theorem only_own {now : Stage} (hand : s.hands worker = some ⟨key, now⟩) (k : String)
    (holds : s.key? worker = some k) : k = key :=
  Option.some.inj (holds.symm.trans (key?_of_hands hand))

theorem unanswered {o : Option Report} {P : Report → Prop} (silent : o = none) :
    ∀ rep, o = some rep → P rep := by
  intro rep answered
  rw [silent] at answered
  cases answered

theorem Tracks.work (tracks : s.Tracks b m retries) (small : m < UInt32.size) :
    (s.work b m worker r).Tracks b m (tally retries (s.report? (.work worker r))) ∧
      ∀ rep, s.report? (.work worker r) = some rep → rep.After b m (retries rep.key) := by
  have orderly : (s.work b m worker r).Orderly := tracks.orderly.work
  revert orderly
  simp only [report?]
  fun_cases Crew.work b m s worker r with
  | case1 free =>
    intro _
    rw [free]
    exact ⟨tracks, unanswered rfl⟩
  | case2 free key q taken =>
    intro orderly
    rw [free]
    have own : ∀ k, s.key? worker = some k → k = key := by
      intro k holds
      rw [key?, free] at holds
      cases holds
    have same := WorkQueue.requeueCount_congr (WorkQueue.requeues_take taken)
    have idle : s.queue.requeueCount key = retries key := by
      refine tracks.idle key fun i holds => ?_
      exact (tracks.orderly.tidy.take_processing taken).1
        ((tracks.orderly.inside key).2 ⟨i, holds⟩)
    refine ⟨?_, unanswered rfl⟩
    exact tracks.goesOnQuietly orderly own (fun k _ => same k) ((same key).trans idle)
  | case3 key hand =>
    intro orderly
    rw [hand]
    have count : s.queue.requeueCount key = retries key := tracks.fits hand
    refine ⟨?_, unanswered rfl⟩
    exact tracks.goesOnQuietly orderly (only_own hand) (fun _ _ => rfl) ⟨count, by rw [count]⟩
  | case4 key r a hand =>
    intro orderly
    rw [hand]
    obtain ⟨count, judged⟩ := tracks.fits hand
    obtain ⟨rfl, below, e⟩ := Outcome.decide_requeued judged.symm
    refine ⟨?_, unanswered rfl⟩
    apply tracks.goesOnQuietly orderly (only_own hand)
    · intro k other
      rw [WorkQueue.requeueCount_countRequeue, if_neg other]
    · refine ⟨?_, rfl, by rw [count], below, e⟩
      -- the count is far from the number where it would stop
      rw [WorkQueue.requeueCount_countRequeue, if_pos rfl]
      omega
  | case5 key r o last hand =>
    intro orderly
    obtain ⟨count, rfl⟩ := tracks.fits hand
    rw [hand, Option.bind_some, Hand.report?_judged last]
    obtain ⟨answer, ended⟩ := Report.After.of_decide (b := b) (tracks.below key) key last
    constructor
    · apply tracks.goesOn orderly (only_own hand)
      · intro k other
        rw [WorkQueue.requeueCount_forget, if_neg other]
      · exact ended ▸ Nat.zero_le m
      · rw [WorkQueue.requeueCount_forget, if_pos rfl]
        exact ended.symm
    · intro rep same
      cases same
      exact answer
  | case6 key r a delay hand t =>
    intro orderly
    obtain ⟨count, rfl, rfl, below, e, rfl, passes⟩ := tracks.fits hand
    rw [hand]
    have added : t.Tracks b m retries :=
      tracks.beside (tracks.orderly.move (b := b) (m := m) (.addAfter key _))
        (s.queue.requeues_addAfter key _) rfl
    have count : t.queue.requeueCount key = retries key + 1 :=
      (WorkQueue.requeueCount_congr (s.queue.requeues_addAfter key _) key).trans count
    constructor
    · exact added.goesOn orderly (only_own (s := t) hand) (fun _ _ => rfl) below count
    · intro rep same
      cases same
      exact .again key passes below
  | case7 key hand =>
    intro _
    rw [hand]
    exact ⟨tracks.finished hand, unanswered rfl⟩

theorem Tracks.move (mv : CrewMove) (tracks : s.Tracks b m retries) (small : m < UInt32.size) :
    (s.move b m mv).Tracks b m (tally retries (s.report? mv)) ∧
      ∀ rep, s.report? mv = some rep → rep.After b m (retries rep.key) := by
  have orderly := tracks.orderly.move (b := b) (m := m) mv
  cases mv with
  | add key =>
    exact ⟨tracks.beside orderly (s.queue.requeues_add key) rfl, unanswered rfl⟩
  | addAfter key delay =>
    exact ⟨tracks.beside orderly (s.queue.requeues_addAfter key delay) rfl, unanswered rfl⟩
  | fire timer =>
    refine ⟨?_, unanswered rfl⟩
    revert orderly
    simp only [Crew.move]
    split
    · exact fun _ => tracks
    · rename_i key delay due
      exact fun orderly => tracks.beside orderly (s.queue.requeues_add key) rfl
  | work worker r => exact tracks.work small
  | close => exact ⟨tracks.beside orderly rfl rfl, unanswered rfl⟩

end Crew

/-- Answers about one key, each as it may be after those before it. -/
inductive Lawful (b : Backoff) (m : Nat) : Nat → List Report → Prop
  | nil (n : Nat) : Lawful b m n []
  | cons {n : Nat} {rep : Report} {rest : List Report} (answer : rep.After b m n)
    (later : Lawful b m (rep.next n) rest) : Lawful b m n (rep :: rest)

def retriesAfter (n : Nat) (reps : List Report) : Nat := reps.foldl (fun n rep => rep.next n) n

theorem Lawful.rest {before rest : List Report} (lawful : Lawful b m n (before ++ rest)) :
    Lawful b m (retriesAfter n before) rest := by
  induction before generalizing n with
  | nil => exact lawful
  | cons rep before ih =>
    cases lawful with
    | cons answer later => exact ih later

theorem Report.After.of_again {rep : Report} (answer : rep.After b m n) (again : rep.again = true) :
    rep.outcome = .requeued (n + 1) ∧ n < m := by
  cases answer with
  | again key passes below => exact ⟨rfl, below⟩
  | _ => simp [Report.again] at again

/-- Nothing is counted before a block of retries: nothing has been answered yet, or an answer that
ended the retries. -/
theorem retriesAfter_ended {before : List Report}
    (ended : ∀ rep ∈ before.getLast?, rep.again = false) : retriesAfter 0 before = 0 := by
  rcases List.eq_nil_or_concat before with rfl | ⟨first, rep, rfl⟩
  · rfl
  · rw [retriesAfter, List.concat_eq_append, List.foldl_append]
    exact if_neg (ne_true_of_eq_false (ended rep (by simp)))

/-- A block of retries counts up, and no further than the ceiling. -/
theorem Lawful.block {block after : List Report} (lawful : Lawful b m n (block ++ after))
    (below : n ≤ m) (again : ∀ rep ∈ block, rep.again = true) :
    n + block.length ≤ m ∧
    (∀ i (rep : Report), block[i]? = some rep → rep.outcome = .requeued (n + i + 1)) ∧
    Lawful b m (n + block.length) after := by
  induction block generalizing n with
  | nil => exact ⟨below, by simp, lawful⟩
  | cons first block ih =>
    cases lawful with
    | cons answer later =>
      obtain ⟨outcome, room⟩ := answer.of_again (again first List.mem_cons_self)
      rw [Report.next, if_pos (again first List.mem_cons_self)] at later
      obtain ⟨ceiling, answers, rest⟩ := ih later room fun rep inside =>
        again rep (List.mem_cons_of_mem _ inside)
      have length : n + (first :: block).length = n + 1 + block.length := by
        rw [List.length_cons]
        omega
      rw [length]
      refine ⟨ceiling, ?_, rest⟩
      intro i rep found
      cases i with
      | zero =>
        cases found
        exact outcome
      | succ i =>
        have shift : n + (i + 1) = n + 1 + i := by omega
        rw [shift]
        exact answers i rep found

namespace Crew

variable {s : Crew} {worker : Nat} {retries : String → Nat} {k : String}

def about (k : String) (reps : List Report) : List Report := reps.filter fun rep => rep.key = k

theorem about_append (k : String) (first rest : List Report) :
    about k (first ++ rest) = about k first ++ about k rest :=
  List.filter_append ..

theorem Tracks.moves (ms : List CrewMove) (tracks : s.Tracks b m retries)
    (small : m < UInt32.size) :
    (∃ after, (s.moves b m ms).Tracks b m after) ∧
      ∀ k, Lawful b m (retries k) (about k (collect (Crew.move b m) report? s ms)) := by
  induction ms generalizing s retries with
  | nil => exact ⟨⟨retries, tracks⟩, fun k => .nil _⟩
  | cons mv rest ih =>
    obtain ⟨next, answer⟩ := tracks.move mv small
    obtain ⟨last, later⟩ := ih next
    refine ⟨last, fun k => ?_⟩
    rw [collect, about_append]
    have later := later k
    cases reported : s.report? mv with
    | none =>
      rw [reported] at later
      exact later
    | some rep =>
      rw [reported, tally, Function.update_apply] at later
      by_cases own : rep.key = k
      · subst own
        rw [if_pos rfl] at later
        have alone : about rep.key (some rep).toList = [rep] := by simp [about]
        rw [alone]
        exact .cons (answer rep reported) later
      · rw [if_neg (Ne.symm own)] at later
        have nothing : about k (some rep).toList = [] := by simp [about, own]
        rw [nothing]
        exact later

theorem Tracks.count_le (tracks : s.Tracks b m retries) (k : String) :
    s.queue.requeueCount k ≤ m := by
  have below := tracks.below k
  by_cases nobody : ∀ worker, s.key? worker ≠ some k
  · exact tracks.idle k nobody ▸ below
  · obtain ⟨worker, holds⟩ := not_forall_not.1 nobody
    obtain ⟨⟨key, stage⟩, hand, rfl⟩ := Option.map_eq_some_iff.1 holds
    have fits := tracks.fits hand
    cases stage with
    | working => exact fits ▸ below
    | judged r o => exact fits.1 ▸ below
    | counted r a delay =>
      obtain ⟨count, -, -, room, -⟩ := fits
      change s.queue.requeueCount key ≤ m
      omega
    | settled => exact fits ▸ below

/-- A key that is answered as put back comes back after the delay for its retries so far. -/
theorem Tracks.schedules {mv : CrewMove} {rep : Report} {i : Nat} (tracks : s.Tracks b m retries)
    (reported : s.report? mv = some rep) (again : rep.outcome = .requeued (i + 1)) :
    s.Schedules rep.key (b.delay i) (s.move b m mv) := by
  obtain ⟨worker, r, rfl, ⟨-, last⟩ | ⟨a, delay, hand, counted⟩⟩ := report_cases reported
  · exact absurd again (last (i + 1))
  · obtain ⟨-, rfl, rfl, -⟩ := tracks.fits hand
    cases again.symm.trans counted
    simp only [Crew.move, Crew.work, hand]
    exact s.schedules_delayed rep.key _

/-- The answers about a key between two that end its retries put it back the first time, the second
time and so on, at most as often as the ceiling says. What comes next is as it has to be after so
many retries. A key that is put back for the `i + 1`st time gets a timer for the delay of the backoff
after `i` retries, or is added at once if that is zero. The delays do not get shorter and are between
the base and the cap, or the base if that is longer. When the retries end the count is zero, and it
never reaches the number where it would stop: it is at most the ceiling, and so is every attempt. A
worker with nobody in between does with a result what the queue does when it settles it. -/
theorem retries_up_to_ceiling (base cap : Span) (m : UInt32) (ms : List CrewMove) (k : String) :
    let b := Backoff.make base cap
    let s := start.moves b m.toNat ms
    (∀ before block after,
      about k (collect (move b m.toNat) report? start ms) = before ++ (block ++ after) →
      (∀ rep ∈ before.getLast?, rep.again = false) → (∀ rep ∈ block, rep.again = true) →
        block.length ≤ m.toNat ∧
        (∀ i (rep : Report), block[i]? = some rep → rep.outcome = .requeued (i + 1)) ∧
        ∀ rep ∈ after.head?, rep.After b m.toNat block.length) ∧
    (∀ before mv after rep, ms = before ++ mv :: after →
      (start.moves b m.toNat before).report? mv = some rep →
        (∀ i, rep.outcome = .requeued (i + 1) →
          (start.moves b m.toNat before).Schedules rep.key (b.delay i)
            (start.moves b m.toNat (before ++ [mv]))) ∧
        (rep.again = false →
          (start.moves b m.toNat (before ++ [mv])).queue.requeueCount rep.key = 0)) ∧
    (∀ i j, i ≤ j → base.nanos ≤ (b.delay i).nanos ∧ (b.delay i).nanos ≤ (b.delay j).nanos ∧
      (b.delay j).nanos ≤ max base.nanos cap.nanos) ∧
    s.queue.requeueCount k ≤ m.toNat ∧
    (∀ worker r n, s.hands worker = some ⟨k, .judged r (.requeued n)⟩ →
      n = s.queue.requeueCount k + 1 ∧ n ≤ m.toNat) ∧
    ∀ worker r, s.hands worker = some ⟨k, .working⟩ →
      let settled := s.queue.settle b m.toNat k r
      ∃ n, let t := (fun t : Crew => t.work b m.toNat worker r)^[n] s
        t.report? (.work worker r) = some ⟨k, r, settled.1⟩ ∧
        t.work b m.toNat worker r =
          (s.delayed k settled.2).put worker settled.2.1 (some ⟨k, .settled⟩) := by
  intro b s
  obtain ⟨⟨retries, tracks⟩, lawful⟩ := (tracks_start b m.toNat).moves ms m.toNat_lt
  refine ⟨?_, ?_, ?_, tracks.count_le k, ?_, fun _ r hand => settle_in_steps hand r⟩
  · intro before block after cut ended again
    have rest := (cut ▸ lawful k).rest
    rw [retriesAfter_ended ended] at rest
    obtain ⟨ceiling, answers, later⟩ := rest.block (Nat.zero_le _) again
    simp only [Nat.zero_add] at ceiling answers later
    refine ⟨ceiling, answers, ?_⟩
    intro rep first
    cases later with
    | nil => exact nomatch first
    | cons answer => exact Option.some.inj first ▸ answer
  · intro before mv after rep _ reported
    obtain ⟨⟨retries, tracks⟩, -⟩ := (tracks_start b m.toNat).moves before m.toNat_lt
    rw [moves_append]
    refine ⟨fun i again => tracks.schedules reported again, fun last => ?_⟩
    apply count_of_report reported
    rintro n again
    rw [Report.again, again] at last
    exact nomatch last
  · intro i j le
    have capped := b.delay_le_cap j
    have raised : b.cap.nanos = max cap.nanos base.nanos := Span.nanos_max cap base
    exact ⟨b.base_le_delay i, b.delay_mono le, by omega⟩
  · intro worker r n hand
    obtain ⟨count, judged⟩ := tracks.fits hand
    obtain ⟨rfl, room, -⟩ := Outcome.decide_requeued judged.symm
    exact ⟨by rw [count], room⟩

/-- A worker takes a key, and its pass fails, up to where it answers. -/
def failsOnce : List CrewMove :=
  [.work 0 (.ok ()), .work 0 (.error (.store (.unavailable "down"))), .work 0 (.ok ())]

def comesBack : List CrewMove := [.work 0 (.ok ()), .work 0 (.ok ()), .fire 0]

def failsTwice : List CrewMove :=
  .add "default/a" :: (failsOnce ++ comesBack ++ failsOnce ++ comesBack)

def answered (outcome : Outcome) : Report :=
  ⟨"default/a", .error (.store (.unavailable "down")), outcome⟩

theorem third_failure_is_last :
    let b := Backoff.make (.ofMillis 5) (.ofMillis 8)
    let moved := failsTwice ++ failsOnce
    let second := failsOnce ++ comesBack ++ failsOnce
    about "default/a" (collect (move b 2) report? start moved) =
      [answered (.requeued 1), answered (.requeued 2), answered .dropped] ∧
    (answered .dropped).After b 2 2 ∧
    (start.moves b 2 (.add "default/a" :: second ++ [.work 0 (.ok ())])).timers =
      [("default/a", .ofMillis 8)] ∧
    (start.moves b 2 moved).queue.requeueCount "default/a" = 0 := by
  intro b moved second
  have answers : about "default/a" (collect (move b 2) report? start moved) =
      [answered (.requeued 1), answered (.requeued 2), answered .dropped] := by decide +kernel
  obtain ⟨blocks, reports, -⟩ :=
    retries_up_to_ceiling (.ofMillis 5) (.ofMillis 8) 2 moved "default/a"
  refine ⟨answers, ?_, ?_, ?_⟩
  · have block := blocks [] [answered (.requeued 1), answered (.requeued 2)] [answered .dropped]
      answers (by simp) (by decide)
    exact block.2.2 (answered .dropped) rfl
  · let failed := start.moves b 2 (.add "default/a" :: second)
    have cut : moved = (.add "default/a" :: second) ++ .work 0 (.ok ()) ::
      ([.work 0 (.ok ()), .fire 0] ++ failsOnce) := rfl
    have reported : failed.report? (.work 0 (.ok ())) = some (answered (.requeued 2)) := by
      decide +kernel
    have again := (reports _ _ _ _ cut reported).1 1 rfl
    have waits : (b.delay 1).nanos ≠ 0 := by decide +kernel
    have timers : failed.timers ++ [("default/a", b.delay 1)] = [("default/a", .ofMillis 8)] := by
      decide +kernel
    rw [Schedules, if_neg waits] at again
    exact again.2.trans timers
  · exact (reports (failsTwice ++ failsOnce.take 2) (.work 0 (.ok ())) [] (answered .dropped) rfl
      (by decide +kernel)).2 rfl

end Crew

end SecretSync
