import SecretSync.Proofs.Queue.SingleFlight
import SecretSync.Watch.Loop

namespace SecretSync

namespace WorkQueue

variable {q q' : WorkQueue} {key k : String}

/-- The key waits, or will wait again. -/
def Expects (q : WorkQueue) (key : String) : Prop := key ∈ q.waiting ∨ key ∈ q.dirty

theorem expects_add (isOpen : q.closed = false) (key k : String) :
    (q.add key).Expects k ↔ q.Expects k ∨ k = key := by
  unfold Expects add
  split_ifs with known inside
  · have dirty : key ∈ q.dirty := known.resolve_left (by simp [isOpen])
    constructor
    · exact .inl
    · rintro (expected | rfl)
      · exact expected
      · exact .inr dirty
  · simp only [List.mem_append, List.mem_singleton]
    tauto
  · simp only [List.mem_append, List.mem_singleton]
    tauto

theorem expects_finish (q : WorkQueue) (key k : String) :
    (q.finish key).Expects k ↔ q.Expects k := by
  simp only [Expects, finish]
  split_ifs with again
  · simp only [List.mem_append, List.mem_singleton]
    constructor
    · rintro ((waits | rfl) | dirty)
      · exact .inl waits
      · exact .inr again.1
      · exact .inr dirty
    · rintro (waits | dirty)
      · exact .inl (.inl waits)
      · exact .inr dirty
  · exact Iff.rfl

theorem expects_take (h : q.take? = some (key, q')) :
    q'.closed = q.closed ∧ q.Expects key ∧ (∀ k, q'.Expects k → q.Expects k) ∧
      ∀ k, q.Expects k → k = key ∨ q'.Expects k := by
  obtain ⟨-, rest, waits, rfl⟩ := take?_eq_some h
  refine ⟨rfl, .inl (by simp [waits]), ?_, ?_⟩
  · rintro k (later | dirty)
    · exact .inl (by simp [waits, later])
    · exact .inr (mem_without.1 dirty).1
  · rintro k (early | dirty)
    · rw [waits] at early
      rcases List.mem_cons.1 early with same | later
      · exact .inl same
      · exact .inr (.inl later)
    · by_cases same : k = key
      · exact .inl same
      · exact .inr (.inr (mem_without.2 ⟨dirty, same⟩))

/-- After a pass its key is back in the queue at once, or the queue expects what it did before. -/
theorem settle_cases (q : WorkQueue) (b : Backoff) (maxRetries : Nat) (key : String)
    (r : Except PassError Unit) :
    (∃ n, q.settle b maxRetries key r = (.requeued n, (q.countRequeue key).add key, none)) ∨
    ((∀ n p, q.settle b maxRetries key r ≠ (.requeued n, p, none)) ∧
      (q.settle b maxRetries key r).2.1.closed = q.closed ∧
      ∀ k, (q.settle b maxRetries key r).2.1.Expects k ↔ q.Expects k) := by
  unfold settle
  cases Outcome.decide (q.requeueCount key) maxRetries r with
  | requeued n =>
    simp only [addLimited, addAfter]
    split_ifs
    · exact .inl ⟨n, rfl⟩
    · exact .inr ⟨by simp, rfl, fun k => Iff.rfl⟩
  | synced => exact .inr ⟨by simp, rfl, fun k => Iff.rfl⟩
  | dropped => exact .inr ⟨by simp, rfl, fun k => Iff.rfl⟩

end WorkQueue

namespace WatchEvent

def brought? : WatchEvent α → Option α
  | .apply a => some a
  | .initApply a => some a
  | _ => none

end WatchEvent

namespace Controller

variable {c : Controller}

def settling (c : Controller) (key : String) (r : Except PassError Unit) :
    Outcome × WorkQueue × Option Span :=
  c.specs.queue.settle c.specs.backoff c.maxRetries key r

/-- The key of a pass, if its result puts it back at once. -/
def putBack? (c : Controller) (key : String) (r : Except PassError Unit) : Option String :=
  match c.settling key r with
  | (.requeued _, _, none) => some key
  | _ => none

theorem specs_call (c : Controller) (lane : Lane) : (c.call lane).specs = c.specs := by
  unfold call
  split_ifs <;> rfl

@[simp] theorem queue_add (c : Controller) (key : String) :
    (c.add .spec key).specs.queue = c.specs.queue.add key := by
  unfold add
  rw [specs_call]
  rfl

theorem queue_onBinding (c : Controller) (e : WatchEvent Binding) :
    (c.onBinding e).specs.queue = match e.brought? with
      | none => c.specs.queue
      | some b => c.specs.queue.add b.key := by
  cases e with
  | apply b => exact c.queue_add b.key
  | initApply b => exact c.queue_add b.key
  | _ => rfl

theorem take?_cases {key : String} {d : Controller} (h : c.take? .spec = some (key, d)) :
    c.specs.queue.take? = some (key, d.specs.queue) := by
  obtain ⟨⟨found, s, m⟩, taken, same⟩ := Option.map_eq_some_iff.1 h
  obtain ⟨⟨first, q⟩, handed, rest⟩ := Option.map_eq_some_iff.1 taken
  cases rest
  cases same
  exact handed

theorem specs_addLater (c : Controller) (lane : Lane) (key : String) (delay : Option Span) :
    (c.addLater lane key delay).specs = c.specs := by
  cases delay <;> rfl

theorem queue_settle (c : Controller) (key : String) (r : Except PassError Unit) :
    (c.settle .spec key r).2.specs.queue = (c.settling key r).2.1 :=
  congrArg Station.queue (specs_addLater _ .spec key _)

theorem queue_finish (c : Controller) (key : String) (r : Except PassError Unit) :
    (c.finish .spec key r).2.specs.queue = (c.settling key r).2.1.finish key :=
  congrArg (fun q => WorkQueue.finish q key) (c.queue_settle key r)

theorem closed_finish (c : Controller) (key : String) (r : Except PassError Unit) :
    (c.finish .spec key r).2.specs.queue.closed = c.specs.queue.closed := by
  rw [queue_finish, WorkQueue.closed_finish]
  rcases c.specs.queue.settle_cases c.specs.backoff c.maxRetries key r with ⟨n, back⟩ | ⟨-, same, -⟩
  · rw [settling, back]
    exact WorkQueue.closed_add _ key
  · exact same

theorem expects_finish (isOpen : c.specs.queue.closed = false) (key k : String)
    (r : Except PassError Unit) :
    (c.finish .spec key r).2.specs.queue.Expects k ↔
      c.specs.queue.Expects k ∨ c.putBack? key r = some k := by
  rw [queue_finish, WorkQueue.expects_finish]
  rcases c.specs.queue.settle_cases c.specs.backoff c.maxRetries key r with
    ⟨n, back⟩ | ⟨elsewhere, -, same⟩
  · have added := WorkQueue.expects_add (q := c.specs.queue.countRequeue key) isOpen key k
    rw [putBack?, settling, back, Option.some.injEq, eq_comm (a := key)]
    exact added
  · have stays : c.putBack? key r = none := by
      unfold putBack?
      split
      · rename_i n p back
        exact absurd back (elsewhere n p)
      · rfl
    rw [stays]
    exact (same k).trans (by simp)

end Controller

end SecretSync
