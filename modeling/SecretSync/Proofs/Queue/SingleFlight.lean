import SecretSync.Queue.Retry
import Mathlib.Data.List.Basic

namespace SecretSync

namespace WorkQueue

variable {q q' : WorkQueue} {key k : String}

/-- The lists of a queue fit together. While the queue is open, a key with work to come is in its
place: it waits, or is worked on. -/
structure Tidy (q : WorkQueue) : Prop where
  waiting_nodup : q.waiting.Nodup
  waiting_dirty : ∀ k ∈ q.waiting, k ∈ q.dirty
  waiting_idle : ∀ k ∈ q.waiting, k ∉ q.processing
  dirty_placed : q.closed = false → ∀ k ∈ q.dirty, k ∈ q.waiting ∨ k ∈ q.processing

theorem nodup_snoc {keys : List String} (absent : key ∉ keys) (nodup : keys.Nodup) :
    (keys ++ [key]).Nodup :=
  (List.perm_append_singleton key keys).nodup_iff.2 (List.nodup_cons.2 ⟨absent, nodup⟩)

theorem tidy_empty : empty.Tidy where
  waiting_nodup := List.nodup_nil
  waiting_dirty := by simp [empty]
  waiting_idle := by simp [empty]
  dirty_placed := by simp [empty]

@[simp] theorem processing_add (q : WorkQueue) (key : String) :
    (q.add key).processing = q.processing := by
  unfold add
  split_ifs <;> rfl

@[simp] theorem closed_add (q : WorkQueue) (key : String) : (q.add key).closed = q.closed := by
  unfold add
  split_ifs <;> rfl

theorem forall_snoc {keys : List String} {p : String → Prop} (all : ∀ k ∈ keys, p k)
    (last : p key) :
    ∀ k ∈ keys ++ [key], p k :=
  List.forall_mem_append.2 ⟨all, List.forall_mem_singleton.2 last⟩

theorem Tidy.add (tidy : q.Tidy) (key : String) : (q.add key).Tidy := by
  unfold WorkQueue.add
  split_ifs with known inside
  · exact tidy
  · constructor
    · exact tidy.waiting_nodup
    · intro k waits
      exact List.mem_append_left _ (tidy.waiting_dirty k waits)
    · exact tidy.waiting_idle
    · intro isOpen
      exact forall_snoc (tidy.dirty_placed isOpen) (.inr inside)
  · have fresh : key ∉ q.waiting := by
      intro waits
      exact known (.inr (tidy.waiting_dirty key waits))
    constructor
    · exact nodup_snoc fresh tidy.waiting_nodup
    · apply forall_snoc
      · intro k waits
        exact List.mem_append_left _ (tidy.waiting_dirty k waits)
      · exact List.mem_append_right _ List.mem_cons_self
    · exact forall_snoc tidy.waiting_idle inside
    · intro isOpen
      apply forall_snoc
      · intro k dirty
        rcases tidy.dirty_placed isOpen k dirty with waits | works
        · exact .inl (List.mem_append_left _ waits)
        · exact .inr works
      · exact .inl (List.mem_append_right _ List.mem_cons_self)

theorem take?_eq_some (h : q.take? = some (key, q')) :
    q.closed = false ∧ ∃ rest, q.waiting = key :: rest ∧
      q' = { q with
        waiting := rest
        dirty := without q.dirty key
        processing := if key ∈ q.processing then q.processing else q.processing ++ [key] } := by
  unfold take? at h
  split_ifs at h with closed
  cases waits : q.waiting with
  | nil => simp [waits] at h
  | cons first rest =>
    rw [waits] at h
    obtain ⟨rfl, rfl⟩ := Prod.mk.inj (Option.some.inj h)
    exact ⟨by simpa using closed, rest, rfl, rfl⟩

/-- A key that is handed out was not worked on, and is from then on. -/
theorem Tidy.take_processing (tidy : q.Tidy) (h : q.take? = some (key, q')) :
    key ∉ q.processing ∧ q'.processing = q.processing ++ [key] := by
  obtain ⟨-, rest, waits, rfl⟩ := take?_eq_some h
  have idle : key ∉ q.processing := tidy.waiting_idle key (by rw [waits]; exact List.mem_cons_self)
  exact ⟨idle, if_neg idle⟩

theorem Tidy.take (tidy : q.Tidy) (h : q.take? = some (key, q')) : q'.Tidy := by
  have works := (tidy.take_processing h).2
  obtain ⟨-, rest, waits, rfl⟩ := take?_eq_some h
  have nodup := tidy.waiting_nodup
  have inQueue := fun k (later : k ∈ rest) => waits ▸ List.mem_cons_of_mem key later
  rw [waits, List.nodup_cons] at nodup
  constructor
  · exact nodup.2
  · intro k later
    refine mem_without.2 ⟨tidy.waiting_dirty k (inQueue k later), ?_⟩
    rintro rfl
    exact nodup.1 later
  · intro k later
    rw [works, List.mem_append, List.mem_singleton]
    rintro (inside | rfl)
    · exact tidy.waiting_idle k (inQueue k later) inside
    · exact nodup.1 later
  · intro isOpen k dirty
    obtain ⟨dirty, other⟩ := mem_without.1 dirty
    rw [works]
    rcases tidy.dirty_placed isOpen k dirty with early | inside
    · rw [waits] at early
      exact .inl ((List.mem_cons.1 early).resolve_left other)
    · exact .inr (List.mem_append_left _ inside)

@[simp] theorem processing_finish (q : WorkQueue) (key : String) :
    (q.finish key).processing = without q.processing key := by
  simp only [finish]
  split_ifs <;> rfl

@[simp] theorem closed_finish (q : WorkQueue) (key : String) :
    (q.finish key).closed = q.closed := by
  simp only [finish]
  split_ifs <;> rfl

@[simp] theorem dirty_finish (q : WorkQueue) (key : String) :
    (q.finish key).dirty = q.dirty := by
  simp only [finish]
  split_ifs <;> rfl

/-- Ending work that was going on keeps a queue tidy. If nobody worked on the key it could come to
wait twice. -/
theorem Tidy.finish (tidy : q.Tidy) (works : key ∈ q.processing) : (q.finish key).Tidy := by
  have absent : key ∉ q.waiting := by
    intro waits
    exact tidy.waiting_idle key waits works
  have idle : ∀ k ∈ q.waiting, k ∉ without q.processing key := by
    intro k waits inside
    exact tidy.waiting_idle k waits (mem_without.1 inside).1
  simp only [WorkQueue.finish]
  split_ifs with again
  · constructor
    · exact nodup_snoc absent tidy.waiting_nodup
    · exact forall_snoc tidy.waiting_dirty again.1
    · exact forall_snoc idle fun inside => (mem_without.1 inside).2 rfl
    · intro isOpen k dirty
      rcases tidy.dirty_placed isOpen k dirty with waits | inside
      · exact .inl (List.mem_append_left _ waits)
      · by_cases same : k = key
        · exact .inl (List.mem_append_right _ (List.mem_singleton.2 same))
        · exact .inr (mem_without.2 ⟨inside, same⟩)
  · constructor
    · exact tidy.waiting_nodup
    · exact tidy.waiting_dirty
    · exact idle
    · intro isOpen k dirty
      rcases tidy.dirty_placed isOpen k dirty with waits | inside
      · exact .inl waits
      · refine .inr (mem_without.2 ⟨inside, ?_⟩)
        rintro rfl
        have stillOpen : q.closed = false := isOpen
        exact again ⟨dirty, by simp [stillOpen]⟩

theorem Tidy.close (tidy : q.Tidy) : q.close.Tidy where
  waiting_nodup := tidy.waiting_nodup
  waiting_dirty := tidy.waiting_dirty
  waiting_idle := tidy.waiting_idle
  dirty_placed := fun isOpen => nomatch isOpen

theorem Tidy.countRequeue (tidy : q.Tidy) (key : String) : (q.countRequeue key).Tidy :=
  ⟨tidy.waiting_nodup, tidy.waiting_dirty, tidy.waiting_idle, tidy.dirty_placed⟩

theorem Tidy.forget (tidy : q.Tidy) (key : String) : (q.forget key).Tidy :=
  ⟨tidy.waiting_nodup, tidy.waiting_dirty, tidy.waiting_idle, tidy.dirty_placed⟩

end WorkQueue

/-- What is done with a queue. Timers go off in any order, and any worker may take or finish. -/
inductive QueueMove where
  | add (key : String)
  | addAfter (key : String) (delay : Span)
  | addLimited (key : String)
  | fire (timer : Nat)
  | forget (key : String)
  | take
  | finish (key : String)
  | close
  deriving DecidableEq

/-- A queue in use: `timers` are the keys that timers will bring back, `held` the keys that were
handed out and are not finished yet, one entry for each hand-out. -/
structure QueueInUse where
  queue : WorkQueue
  timers : List String
  held : List String

namespace QueueInUse

def start : QueueInUse := ⟨WorkQueue.empty, [], []⟩

def delayed (s : QueueInUse) (key : String) (r : WorkQueue × Option Span) : QueueInUse :=
  match r.2 with
  | none => { s with queue := r.1 }
  | some _ => { s with queue := r.1, timers := s.timers ++ [key] }

/-- A move. A timer that is not set does not fire, a worker that finds no key goes on waiting, and
only a key that is held is finished. -/
def move (b : Backoff) (s : QueueInUse) : QueueMove → QueueInUse
  | .add key => { s with queue := s.queue.add key }
  | .addAfter key delay => s.delayed key (s.queue.addAfter key delay)
  | .addLimited key => s.delayed key (s.queue.addLimited b key)
  | .fire timer =>
    match s.timers[timer]? with
    | none => s
    | some key => { s with queue := s.queue.add key, timers := s.timers.eraseIdx timer }
  | .forget key => { s with queue := s.queue.forget key }
  | .take =>
    match s.queue.take? with
    | none => s
    | some (key, q) => { s with queue := q, held := s.held ++ [key] }
  | .finish key =>
    if key ∈ s.held then
      { s with queue := s.queue.finish key, held := s.held.erase key }
    else s
  | .close => { s with queue := s.queue.close }

def moves (b : Backoff) (s : QueueInUse) (ms : List QueueMove) : QueueInUse := ms.foldl (move b) s

variable {b : Backoff} {s : QueueInUse}

theorem moves_append (b : Backoff) (s : QueueInUse) (before after : List QueueMove) :
    s.moves b (before ++ after) = (s.moves b before).moves b after :=
  List.foldl_append

structure Orderly (s : QueueInUse) : Prop where
  tidy : s.queue.Tidy
  held_nodup : s.held.Nodup
  held_iff : ∀ k, k ∈ s.held ↔ k ∈ s.queue.processing

theorem orderly_start : start.Orderly where
  tidy := WorkQueue.tidy_empty
  held_nodup := List.nodup_nil
  held_iff := fun _ => Iff.rfl

theorem Orderly.of_processing {t : QueueInUse} (o : s.Orderly) (tidy : t.queue.Tidy)
    (held : t.held = s.held) (processing : t.queue.processing = s.queue.processing) :
    t.Orderly where
  tidy := tidy
  held_nodup := held ▸ o.held_nodup
  held_iff := by
    intro k
    rw [held, processing]
    exact o.held_iff k

theorem Orderly.addAfter (o : s.Orderly) {q : WorkQueue} (tidy : q.Tidy)
    (processing : q.processing = s.queue.processing) (key : String) (delay : Span) :
    (s.delayed key (q.addAfter key delay)).Orderly := by
  unfold WorkQueue.addAfter
  split_ifs
  · exact o.of_processing (tidy.add key) rfl ((q.processing_add key).trans processing)
  · exact o.of_processing tidy rfl processing

theorem Orderly.take (o : s.Orderly) : (s.move b .take).Orderly := by
  cases taken : s.queue.take? with
  | none =>
    simp only [move, taken]
    exact o
  | some handed =>
    obtain ⟨key, q⟩ := handed
    obtain ⟨idle, works⟩ := o.tidy.take_processing taken
    simp only [move, taken]
    constructor
    · exact o.tidy.take taken
    · have unheld : key ∉ s.held := fun holds => idle ((o.held_iff key).1 holds)
      exact WorkQueue.nodup_snoc unheld o.held_nodup
    · intro k
      simp only [works, List.mem_append, o.held_iff k]

theorem Orderly.finish (o : s.Orderly) (key : String) : (s.move b (.finish key)).Orderly := by
  simp only [move]
  split_ifs with holds
  · constructor
    · exact o.tidy.finish ((o.held_iff key).1 holds)
    · exact o.held_nodup.erase key
    · intro k
      rw [o.held_nodup.mem_erase_iff, WorkQueue.processing_finish, WorkQueue.mem_without,
        o.held_iff k]
      exact and_comm
  · exact o

theorem Orderly.move (o : s.Orderly) (m : QueueMove) : (s.move b m).Orderly := by
  cases m with
  | add key => exact o.of_processing (o.tidy.add key) rfl (s.queue.processing_add key)
  | addAfter key delay => exact o.addAfter o.tidy rfl key delay
  | addLimited key => exact o.addAfter (o.tidy.countRequeue key) rfl key _
  | fire timer =>
    simp only [QueueInUse.move]
    split
    · exact o
    · exact o.of_processing (o.tidy.add _) rfl (s.queue.processing_add _)
  | forget key => exact o.of_processing (o.tidy.forget key) rfl rfl
  | take => exact o.take
  | finish key => exact o.finish key
  | close => exact o.of_processing o.tidy.close rfl rfl

theorem Orderly.moves (o : s.Orderly) (ms : List QueueMove) : (s.moves b ms).Orderly := by
  induction ms generalizing s with
  | nil => exact o
  | cons m rest ih => exact ih (o.move m)

theorem closed_addAfter (s : QueueInUse) (q : WorkQueue) (key : String) (delay : Span) :
    (s.delayed key (q.addAfter key delay)).queue.closed = q.closed := by
  unfold WorkQueue.addAfter
  split_ifs
  · exact q.closed_add key
  · rfl

theorem open_move {m : QueueMove} (isOpen : s.queue.closed = false) (other : m ≠ .close) :
    (s.move b m).queue.closed = false := by
  cases m with
  | add key => exact (s.queue.closed_add key).trans isOpen
  | addAfter key delay => exact (s.closed_addAfter s.queue key delay).trans isOpen
  | addLimited key => exact (s.closed_addAfter (s.queue.countRequeue key) key _).trans isOpen
  | fire timer =>
    simp only [move]
    split
    · exact isOpen
    · exact (s.queue.closed_add _).trans isOpen
  | forget key => exact isOpen
  | take =>
    cases taken : s.queue.take? with
    | none => simpa only [move, taken] using isOpen
    | some handed =>
      obtain ⟨-, rest, -, after⟩ := WorkQueue.take?_eq_some taken
      simpa only [move, taken, after] using isOpen
  | finish key =>
    simp only [move]
    split_ifs
    · exact (s.queue.closed_finish key).trans isOpen
    · exact isOpen
  | close => exact absurd rfl other

theorem open_moves {ms : List QueueMove} (isOpen : s.queue.closed = false)
    (unclosed : .close ∉ ms) : (s.moves b ms).queue.closed = false := by
  induction ms generalizing s with
  | nil => exact isOpen
  | cons m rest ih =>
    obtain ⟨other, unclosed⟩ := not_or.1 (mt List.mem_cons.2 unclosed)
    exact ih (open_move isOpen (Ne.symm other)) unclosed

/-- However a queue is used, no key waits twice, a waiting key has work to come and nobody works on
it, and before the queue is closed a key with work to come either waits or is worked on. The keys
worked on are those that workers hold, so what a worker gets next is held by nobody. -/
theorem one_worker_per_key (b : Backoff) (ms : List QueueMove) :
    let s := start.moves b ms
    s.queue.waiting.Nodup ∧
    (∀ k ∈ s.queue.waiting, k ∈ s.queue.dirty ∧ k ∉ s.queue.processing) ∧
    (.close ∉ ms → ∀ k ∈ s.queue.dirty, Xor (k ∈ s.queue.waiting) (k ∈ s.queue.processing)) ∧
    s.held.Nodup ∧ (∀ k, k ∈ s.held ↔ k ∈ s.queue.processing) ∧
    ∀ key q, s.queue.take? = some (key, q) → key ∉ s.held := by
  intro s
  have orderly : s.Orderly := orderly_start.moves ms
  refine ⟨orderly.tidy.waiting_nodup, ?_, ?_, orderly.held_nodup, orderly.held_iff, ?_⟩
  · intro k waits
    exact ⟨orderly.tidy.waiting_dirty k waits, orderly.tidy.waiting_idle k waits⟩
  · intro unclosed k dirty
    have isOpen : s.queue.closed = false := open_moves rfl unclosed
    rcases orderly.tidy.dirty_placed isOpen k dirty with waits | works
    · exact .inl ⟨waits, orderly.tidy.waiting_idle k waits⟩
    · exact .inr ⟨works, fun waits => orderly.tidy.waiting_idle k waits works⟩
  · intro key q taken holds
    exact (orderly.tidy.take_processing taken).1 ((orderly.held_iff key).1 holds)

end QueueInUse

end SecretSync
