import SecretSync.Table

/-!
Work queues. A key waits once however often it is added, and a key that is worked on is not handed
out again before that work is done; if it was added meanwhile it waits again then.
-/
namespace SecretSync

/-- `dirty` are the keys with work to come, `processing` those handed out, and `requeues` counts how
often a key was put back after a failure. -/
structure WorkQueue where
  waiting : List String
  dirty : List String
  processing : List String
  requeues : Table String Nat
  closed : Bool
  deriving DecidableEq

namespace WorkQueue

def empty : WorkQueue := ⟨[], [], [], Table.empty, false⟩

instance : Inhabited WorkQueue := ⟨empty⟩

def without (keys : List String) (key : String) : List String :=
  keys.filter fun k => decide (k ≠ key)

theorem mem_without {keys : List String} {key k : String} :
    k ∈ without keys key ↔ k ∈ keys ∧ k ≠ key := by simp [without]

/-- Takes note of work on a key, which waits for it unless it waits or is worked on already. -/
def add (q : WorkQueue) (key : String) : WorkQueue :=
  if q.closed ∨ key ∈ q.dirty then q
  else if key ∈ q.processing then { q with dirty := q.dirty ++ [key] }
  else { q with dirty := q.dirty ++ [key], waiting := q.waiting ++ [key] }

/-- Hands out the key that has waited longest, unless the queue is closed. -/
def take? (q : WorkQueue) : Option (String × WorkQueue) :=
  if q.closed then none
  else
    match q.waiting with
    | [] => none
    | key :: rest =>
      some (key,
        { q with
          waiting := rest
          dirty := without q.dirty key
          processing := if key ∈ q.processing then q.processing else q.processing ++ [key] })

/-- Ends the work on a key. A key with work to come waits again. -/
def finish (q : WorkQueue) (key : String) : WorkQueue :=
  let q := { q with processing := without q.processing key }
  if key ∈ q.dirty ∧ !q.closed then { q with waiting := q.waiting ++ [key] } else q

def requeueCount (q : WorkQueue) (key : String) : Nat := (q.requeues.get? key).getD 0

/-- Counts a key as put back once more. The count stops at 2^32 - 1. -/
def countRequeue (q : WorkQueue) (key : String) : WorkQueue :=
  { q with requeues := q.requeues.insert key (min (q.requeueCount key + 1) (UInt32.size - 1)) }

def forget (q : WorkQueue) (key : String) : WorkQueue := { q with requeues := q.requeues.erase key }

/-- No key is handed out or added any more. -/
def close (q : WorkQueue) : WorkQueue := { q with closed := true }

def length (q : WorkQueue) : Nat := q.waiting.length

end WorkQueue

end SecretSync
