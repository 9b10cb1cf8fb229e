import SecretSync.Proofs.Queue.Crew

/-!
Finishes gone astray: work on a key is ended although nobody works on it. Such a finish changes
nothing, unless the queue is open and has work to come for the key. Then the key waits already, comes
to wait a second time, and two workers can have it at once.
-/
namespace SecretSync

namespace WorkQueue

variable {q : WorkQueue} {key : String}

/-- There is work to come for a key that nobody works on, so that its finish puts it in line. -/
structure Astray (q : WorkQueue) (key : String) : Prop where
  isOpen : q.closed = false
  dirty : key ∈ q.dirty
  idle : key ∉ q.processing

theorem without_absent {keys : List String} (absent : key ∉ keys) : without keys key = keys := by
  rw [without, List.filter_eq_self]
  intro k there
  exact decide_eq_true fun same => absent (same ▸ there)

theorem finish_astray (astray : q.Astray key) :
    q.finish key = { q with waiting := q.waiting ++ [key] } := by
  simp [finish, astray.isOpen, astray.dirty, without_absent astray.idle]

theorem finish_idle (idle : key ∉ q.processing) (harmless : ¬ q.Astray key) :
    q.finish key = q := by
  have settled : ¬ (key ∈ q.dirty ∧ !q.closed) := by
    rintro ⟨dirty, isOpen⟩
    exact harmless ⟨by simpa using isOpen, dirty, idle⟩
  simp only [finish, without_absent idle, if_neg settled]

theorem Tidy.waiting_of_astray (tidy : q.Tidy) (astray : q.Astray key) : key ∈ q.waiting :=
  (tidy.dirty_placed astray.isOpen key astray.dirty).resolve_right astray.idle

theorem Tidy.finish_harmless (tidy : q.Tidy) (harmless : ¬ q.Astray key) :
    (q.finish key).Tidy := by
  by_cases works : key ∈ q.processing
  · exact tidy.finish works
  · rw [finish_idle works harmless]
    exact tidy

end WorkQueue

namespace QueueInUse

variable {b : Backoff} {s : QueueInUse} {m : QueueMove}

/-- A move where any key may be finished at any time, whether somebody holds it or not. -/
def carelessMove (b : Backoff) (s : QueueInUse) : QueueMove → QueueInUse
  | .finish key => { s with queue := s.queue.finish key, held := s.held.erase key }
  | m => s.move b m

def carelessMoves (b : Backoff) (s : QueueInUse) (ms : List QueueMove) : QueueInUse :=
  ms.foldl (carelessMove b) s

def GoesAstray (s : QueueInUse) (m : QueueMove) : Prop :=
  ∃ key, m = .finish key ∧ s.queue.Astray key

theorem tidy_carelessMove (tidy : s.queue.Tidy) (harmless : ¬ s.GoesAstray m) :
    (s.carelessMove b m).queue.Tidy := by
  cases m with
  | add key => exact tidy.add key
  | addAfter key delay =>
    simp only [carelessMove, move, delayed_queue]
    exact (Crew.tidy_addAfter tidy key delay).1
  | addLimited key =>
    simp only [carelessMove, move, delayed_queue]
    exact (Crew.tidy_addAfter (tidy.countRequeue key) key _).1
  | fire timer =>
    simp only [carelessMove, move]
    split
    · exact tidy
    · exact tidy.add _
  | forget key => exact tidy.forget key
  | take =>
    simp only [carelessMove, move]
    split
    · exact tidy
    · exact tidy.take ‹_›
  | finish key => exact tidy.finish_harmless fun astray => harmless ⟨key, rfl, astray⟩
  | close => exact tidy.close

theorem repeats_of_astray (tidy : s.queue.Tidy) (astray : s.GoesAstray m) :
    ¬ (s.carelessMove b m).queue.waiting.Nodup := by
  obtain ⟨key, rfl, astray⟩ := astray
  simp only [carelessMove, WorkQueue.finish_astray astray]
  intro nodup
  obtain ⟨-, -, apart⟩ := List.nodup_append.1 nodup
  exact apart key (tidy.waiting_of_astray astray) key List.mem_cons_self rfl

/-- Up to the first finish gone astray the queue is tidy, and that one makes a key wait twice. -/
theorem nodup_iff_harmless (tidy : s.queue.Tidy) (ms : List QueueMove) :
    (∀ before, before <+: ms → (s.carelessMoves b before).queue.waiting.Nodup) ↔
      ∀ before m after, ms = before ++ m :: after → ¬ (s.carelessMoves b before).GoesAstray m := by
  induction ms generalizing s with
  | nil =>
    constructor
    · rintro - before m after cut
      simp at cut
    · intro _ before early
      rw [List.prefix_nil.1 early]
      exact tidy.waiting_nodup
  | cons first rest ih =>
    by_cases astray : s.GoesAstray first
    · constructor
      · intro nodup
        exact absurd (nodup [first] (by simp)) (repeats_of_astray tidy astray)
      · intro harmless
        exact absurd astray (harmless [] first rest rfl)
    · have ih := ih (tidy_carelessMove (b := b) tidy astray)
      constructor
      · intro nodup before m after cut
        cases before with
        | nil =>
          cases cut
          exact astray
        | cons _ before =>
          obtain ⟨rfl, later⟩ := List.cons.inj cut
          refine ih.1 (fun before early => ?_) before m after later
          exact nodup (first :: before) (List.cons_prefix_cons.2 ⟨rfl, early⟩)
      · intro harmless before early
        cases before with
        | nil => exact tidy.waiting_nodup
        | cons _ before =>
          obtain ⟨rfl, shorter⟩ := List.cons_prefix_cons.1 early
          refine ih.2 (fun before m after cut => ?_) before shorter
          exact harmless (_ :: before) m after (congrArg (List.cons _) cut)

/-- However a queue is used, if keys are finished whether or not they were handed out: a finish of a
key that nobody works on leaves the queue as it is, unless it goes astray, and then it puts the key
in line and changes nothing else. No key ever waits twice exactly if no finish goes astray. -/
theorem keys_wait_once_iff_none_astray (b : Backoff) (ms : List QueueMove) :
    (∀ key, key ∉ (start.carelessMoves b ms).queue.processing →
      let q := (start.carelessMoves b ms).queue
      (q.finish key = q ↔ ¬ q.Astray key) ∧
        (q.Astray key → q.finish key = { q with waiting := q.waiting ++ [key] })) ∧
    ((∀ before, before <+: ms → (start.carelessMoves b before).queue.waiting.Nodup) ↔
      ∀ before m after, ms = before ++ m :: after →
        ¬ ∃ key, m = .finish key ∧ (start.carelessMoves b before).queue.Astray key) := by
  refine ⟨fun key idle => ⟨⟨fun same astray => ?_, ?_⟩, ?_⟩, ?_⟩
  · rw [WorkQueue.finish_astray astray] at same
    simpa using congrArg WorkQueue.waiting same
  · exact WorkQueue.finish_idle idle
  · exact WorkQueue.finish_astray
  · exact nodup_iff_harmless WorkQueue.tidy_empty ms

/-- A key is added, and is finished while it waits. Two workers get it. -/
theorem waiting_key_finished_comes_twice :
    let s := start.carelessMoves .standard [.add "default/a"]
    let t := s.carelessMoves .standard [.finish "default/a"]
    "default/a" ∉ s.queue.processing ∧ s.queue.waiting = ["default/a"] ∧
    t.queue.waiting = ["default/a", "default/a"] ∧
    (t.carelessMoves .standard [.take, .take]).held = ["default/a", "default/a"] := by
  decide +kernel

end QueueInUse

end SecretSync
