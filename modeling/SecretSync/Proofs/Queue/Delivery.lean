import SecretSync.Proofs.Queue.SingleFlight

namespace SecretSync

/-- What the moves of a run give, in their order. -/
def collect (move : σ → μ → σ) (give? : σ → μ → Option α) : σ → List μ → List α
  | _, [] => []
  | s, m :: rest => (give? s m).toList ++ collect move give? (move s m) rest

namespace WorkQueue

variable {q q' : WorkQueue} {key : String}

/-- One hand-out is owed for a key with work to come. -/
def owed (q : WorkQueue) (key : String) : Nat := if key ∈ q.dirty then 1 else 0

/-- What happened to the line of waiting keys and to the work to come: `noted` are the keys that
came to have work to come, `entered` those that began to wait, and `handed` those handed out. -/
structure Balanced (q q' : WorkQueue) (noted entered handed : List String) : Prop where
  line : q.waiting ++ entered = handed ++ q'.waiting
  owed : ∀ k, q.owed k + noted.count k = handed.count k + q'.owed k

theorem Balanced.refl (q : WorkQueue) : Balanced q q [] [] [] where
  line := by simp
  owed := by simp

theorem Balanced.trans {q'' : WorkQueue}
    {noted noted' entered entered' handed handed' : List String}
    (first : Balanced q q' noted entered handed)
    (second : Balanced q' q'' noted' entered' handed') :
    Balanced q q'' (noted ++ noted') (entered ++ entered') (handed ++ handed') where
  line := by
    calc q.waiting ++ (entered ++ entered')
        = handed ++ (q'.waiting ++ entered') := by
          rw [← List.append_assoc, first.line, List.append_assoc]
      _ = handed ++ handed' ++ q''.waiting := by rw [second.line, List.append_assoc]
  owed := by
    intro k
    have here := first.owed k
    have later := second.owed k
    simp only [List.count_append]
    omega

def unlisted (known : List String) (key? : Option String) : Option String :=
  key?.filter fun k => decide (k ∉ known)

theorem unlisted_of_mem {known : List String} (h : key ∈ known) :
    unlisted known (some key) = none := by
  simp [unlisted, Option.filter, h]

theorem unlisted_of_not_mem {known : List String} (h : key ∉ known) :
    unlisted known (some key) = some key := by
  simp [unlisted, Option.filter, h]

theorem owed_snoc {added : List String} (fresh : key ∉ q.dirty) (k : String) :
    q.owed k + [key].count k = ([] : List String).count k +
      owed { q with dirty := q.dirty ++ [key], waiting := added } k := by
  by_cases same : k = key
  · subst same
    simp [owed, fresh]
  · simp [owed, same, Ne.symm same]

theorem balanced_add (isOpen : q.closed = false) (key : String) :
    Balanced q (q.add key) (unlisted q.dirty (some key)).toList
      (unlisted q.processing (unlisted q.dirty (some key))).toList [] := by
  by_cases known : key ∈ q.dirty
  · have same : q.add key = q := if_pos (.inr known)
    rw [unlisted_of_mem known, same]
    exact Balanced.refl q
  · rw [unlisted_of_not_mem known]
    by_cases works : key ∈ q.processing
    · have added : q.add key = { q with dirty := q.dirty ++ [key] } := by
        simp [add, isOpen, known, works]
      rw [unlisted_of_mem works, added]
      exact ⟨by simp, owed_snoc known⟩
    · have added : q.add key =
          { q with dirty := q.dirty ++ [key], waiting := q.waiting ++ [key] } := by
        simp [add, isOpen, known, works]
      rw [unlisted_of_not_mem works, added]
      exact ⟨by simp, owed_snoc known⟩

theorem balanced_addAfter (isOpen : q.closed = false) (key : String) (delay : Span) :
    let now := if delay.nanos = 0 then some key else none
    Balanced q (q.addAfter key delay).1 (unlisted q.dirty now).toList
      (unlisted q.processing (unlisted q.dirty now)).toList [] := by
  unfold addAfter
  split_ifs
  · exact balanced_add isOpen key
  · exact Balanced.refl q

theorem Tidy.balanced_take (tidy : q.Tidy) (h : q.take? = some (key, q')) :
    Balanced q q' [] [] [key] := by
  obtain ⟨-, rest, waits, rfl⟩ := take?_eq_some h
  constructor
  · simp [waits]
  · intro k
    have dirty : key ∈ q.dirty := tidy.waiting_dirty key (by simp [waits])
    by_cases same : k = key
    · subst same
      simp [WorkQueue.owed, mem_without, dirty]
    · simp [WorkQueue.owed, mem_without, same, Ne.symm same]

theorem balanced_finish (isOpen : q.closed = false) (key : String) :
    Balanced q (q.finish key) [] (if key ∈ q.dirty then some key else none).toList [] where
  line := by
    by_cases again : key ∈ q.dirty <;> simp [finish, isOpen, again]
  owed := by simp [WorkQueue.owed]

end WorkQueue

namespace QueueInUse

open WorkQueue (Balanced unlisted)

variable {b : Backoff} {s : QueueInUse} {m : QueueMove} {k : String}

/-- The key that a move adds: directly, after no delay, or because its timer goes off. -/
def added? (b : Backoff) (s : QueueInUse) : QueueMove → Option String
  | .add key => some key
  | .addAfter key delay => if delay.nanos = 0 then some key else none
  | .addLimited key => if (b.delay (s.queue.requeueCount key)).nanos = 0 then some key else none
  | .fire timer => s.timers[timer]?
  | _ => none

def noted? (b : Backoff) (s : QueueInUse) (m : QueueMove) : Option String :=
  unlisted s.queue.dirty (s.added? b m)

/-- The key that begins to wait: one that is added while nobody works on it, or one that was added
again in flight and is finished now. -/
def entered? (b : Backoff) (s : QueueInUse) : QueueMove → Option String
  | .finish key => if key ∈ s.held ∧ key ∈ s.queue.dirty then some key else none
  | m => unlisted s.queue.processing (s.noted? b m)

def handed? (s : QueueInUse) : QueueMove → Option String
  | .take => s.queue.take?.map Prod.fst
  | _ => none

theorem delayed_queue (s : QueueInUse) (key : String) (r : WorkQueue × Option Span) :
    (s.delayed key r).queue = r.1 := by
  unfold delayed
  split <;> rfl

theorem move_balanced (o : s.Orderly) (isOpen : s.queue.closed = false) (m : QueueMove) :
    Balanced s.queue (s.move b m).queue (s.noted? b m).toList (s.entered? b m).toList
      (s.handed? m).toList := by
  cases m with
  | add key => exact WorkQueue.balanced_add isOpen key
  | addAfter key delay =>
    simp only [move, delayed_queue]
    exact WorkQueue.balanced_addAfter isOpen key delay
  | addLimited key =>
    have counted := WorkQueue.balanced_addAfter (q := s.queue.countRequeue key) isOpen key
      (b.delay (s.queue.requeueCount key))
    simp only [move, delayed_queue]
    -- counting a key as put back changes none of the lists
    exact ⟨counted.line, counted.owed⟩
  | fire timer =>
    cases due : s.timers[timer]? with
    | none =>
      simp only [move, noted?, entered?, handed?, added?, due]
      exact Balanced.refl s.queue
    | some key =>
      simp only [move, noted?, entered?, handed?, added?, due]
      exact WorkQueue.balanced_add isOpen key
  | forget key => exact ⟨(Balanced.refl s.queue).line, (Balanced.refl s.queue).owed⟩
  | take =>
    cases taken : s.queue.take? with
    | none =>
      simp only [move, noted?, entered?, handed?, added?, taken]
      exact Balanced.refl s.queue
    | some handed =>
      obtain ⟨key, q⟩ := handed
      simp only [move, noted?, entered?, handed?, added?, taken]
      exact o.tidy.balanced_take taken
  | finish key =>
    by_cases holds : key ∈ s.held
    · simp only [move, noted?, entered?, handed?, added?, holds, if_true, true_and]
      exact WorkQueue.balanced_finish isOpen key
    · simp only [move, noted?, entered?, handed?, added?, holds, if_false, false_and]
      exact Balanced.refl s.queue
  | close => exact ⟨(Balanced.refl s.queue).line, (Balanced.refl s.queue).owed⟩

theorem moves_balanced {ms : List QueueMove} (o : s.Orderly) (isOpen : s.queue.closed = false)
    (unclosed : .close ∉ ms) :
    Balanced s.queue (s.moves b ms).queue (collect (move b) (noted? b) s ms)
      (collect (move b) (entered? b) s ms) (collect (move b) handed? s ms) := by
  induction ms generalizing s with
  | nil => exact Balanced.refl s.queue
  | cons m rest ih =>
    obtain ⟨other, unclosed⟩ := not_or.1 (mt List.mem_cons.2 unclosed)
    have here := move_balanced (b := b) o isOpen m
    have later := ih (s := s.move b m) (o.move m) (open_move isOpen (Ne.symm other)) unclosed
    exact here.trans later

theorem owed_of_added (o : s.Orderly) (isOpen : s.queue.closed = false)
    (added : s.added? b m = some k) : (s.move b m).queue.owed k = 1 := by
  have balance := (move_balanced (b := b) o isOpen m).owed k
  have unhanded : s.handed? m = none := by
    cases m with
    | take => cases added
    | _ => rfl
  have noted : s.queue.owed k + (s.noted? b m).toList.count k = 1 := by
    rw [noted?, added, WorkQueue.owed]
    by_cases known : k ∈ s.queue.dirty
    · simp [WorkQueue.unlisted_of_mem known, known]
    · simp [WorkQueue.unlisted_of_not_mem known, known]
  rw [unhanded, noted] at balance
  simpa using balance.symm

/-- Before a queue is closed, the additions of a key that found no work to come for it are as many
as its hand-outs, and one more if there is work to come. After any addition of a key it is handed
out, or there is work to come and nothing was noted a second time. Keys are handed out in the order
in which they began to wait. -/
theorem additions_delivered (b : Backoff) (ms : List QueueMove) (unclosed : .close ∉ ms) :
    (∀ k, (collect (move b) (noted? b) start ms).count k =
      (collect (move b) handed? start ms).count k +
        if k ∈ (start.moves b ms).queue.dirty then 1 else 0) ∧
    (∀ before m during after k, ms = before ++ m :: (during ++ after) →
      (start.moves b before).added? b m = some k →
      let s := start.moves b (before ++ [m])
      k ∈ collect (move b) handed? s during ∨
        k ∈ (s.moves b during).queue.dirty ∧ k ∉ collect (move b) (noted? b) s during) ∧
    collect (move b) (entered? b) start ms =
      collect (move b) handed? start ms ++ (start.moves b ms).queue.waiting := by
  refine ⟨?_, ?_, ?_⟩
  · intro k
    have balance := (moves_balanced (b := b) orderly_start rfl unclosed).owed k
    have nothing : start.queue.owed k = 0 := by simp [WorkQueue.owed, start, WorkQueue.empty]
    rw [nothing, Nat.zero_add] at balance
    exact balance
  · rintro before m during after k rfl added
    intro s
    simp only [List.mem_append, List.mem_cons, not_or] at unclosed
    obtain ⟨unclosed, other, stillOpen, -⟩ := unclosed
    have orderly : (start.moves b before).Orderly := orderly_start.moves before
    have isOpen := open_moves (b := b) (s := start) rfl unclosed
    have last : s = (start.moves b before).move b m := moves_append b start before [m]
    have one : s.queue.owed k = 1 := last ▸ owed_of_added orderly isOpen added
    have balance := (moves_balanced (b := b) (s := s) (last ▸ orderly.move m)
      (last ▸ open_move isOpen (Ne.symm other)) stillOpen).owed k
    by_cases handed : k ∈ collect (move b) handed? s during
    · exact .inl handed
    · right
      rw [one, List.count_eq_zero_of_not_mem handed, Nat.zero_add] at balance
      have atMost : (s.moves b during).queue.owed k ≤ 1 := by
        unfold WorkQueue.owed
        split_ifs <;> omega
      constructor
      · by_contra clean
        simp [WorkQueue.owed, clean] at balance
      · rw [← List.count_eq_zero]
        omega
  · exact (moves_balanced orderly_start rfl unclosed).line

/-- A key is taken and added again in flight, by hand and by its timer, while another one waits. -/
def addedInFlight : List QueueMove :=
  [.add "default/a", .take, .addLimited "default/b", .addAfter "default/a" Backoff.standard.cap,
    .fire 1, .add "default/a", .fire 0, .finish "default/a", .take, .take]

theorem key_added_in_flight_delivered :
    .close ∉ addedInFlight ∧
    (collect (move .standard) (noted? .standard) start addedInFlight).count "default/a" = 2 ∧
    (collect (move .standard) handed? start addedInFlight).count "default/a" = 2 ∧
    collect (move .standard) (entered? .standard) start addedInFlight =
      ["default/a", "default/b", "default/a"] ∧
    collect (move .standard) handed? start addedInFlight =
      ["default/a", "default/b", "default/a"] := by
  have unclosed : .close ∉ addedInFlight := by decide
  obtain ⟨balance, -, line⟩ := additions_delivered .standard addedInFlight unclosed
  have handed : collect (move .standard) handed? start addedInFlight =
      ["default/a", "default/b", "default/a"] := by decide +kernel
  have nobody : (start.moves .standard addedInFlight).queue.waiting = [] := by decide +kernel
  have clean : (start.moves .standard addedInFlight).queue.dirty = [] := by decide +kernel
  rw [nobody, handed] at line
  have noted := balance "default/a"
  rw [clean, handed] at noted
  exact ⟨unclosed, noted, by rw [handed]; rfl, line, handed⟩

end QueueInUse

end SecretSync
