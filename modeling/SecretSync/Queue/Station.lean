import SecretSync.Queue.Doorbell
import SecretSync.Queue.Retry

namespace SecretSync

structure Station where
  name : String
  backoff : Backoff
  queue : WorkQueue
  bell : Doorbell
  deriving DecidableEq

namespace Station

def make (name : String) (backoff : Backoff) : Station :=
  ⟨name, backoff, WorkQueue.empty, Doorbell.silent⟩

instance : Inhabited Station := ⟨make "" Backoff.standard⟩

/-- Reports the depth of a queue that is not as long as before. -/
def report (s : Station) (before : Nat) (m : Metrics) : Metrics :=
  if s.queue.length = before then m else m.setDepth s.name s.queue.length

def update (s : Station) (q : WorkQueue) (m : Metrics) : Station × Metrics :=
  let t : Station :=
    { s with
      queue := q
      bell := if s.queue.length < q.length then s.bell.ring else s.bell }
  (t, t.report s.queue.length m)

def add (s : Station) (key : String) (m : Metrics) : Station × Metrics :=
  s.update (s.queue.add key) m

def finish (s : Station) (key : String) (m : Metrics) : Station × Metrics :=
  s.update (s.queue.finish key) m

def take? (s : Station) (m : Metrics) : Option (String × Station × Metrics) :=
  s.queue.take?.map fun (key, q) => (key, s.update q m)

/-- No key is handed out any more, and every sleeper is woken to learn it. -/
def close (s : Station) : Station :=
  { s with queue := s.queue.close, bell := s.bell.ringAll }

/-- Counts the result of a pass and decides what becomes of its key. -/
def settle (s : Station) (maxRetries : Nat) (key : String) (result : Except PassError Unit)
    (m : Metrics) : Outcome × Option Span × Station × Metrics :=
  let (outcome, q, delay) := s.queue.settle s.backoff maxRetries key result
  (outcome, delay, s.update q (m.countOutcome s.name result outcome))

/-- What a worker gets when it looks for a key. -/
inductive Found where
  | key (k : String)
  | closed
  | nothing
  deriving DecidableEq, Repr

/-- A worker looks for a key once, and does not sleep when there is none. -/
def look (s : Station) (m : Metrics) : Found × Station × Metrics :=
  let s := { s with bell := { s.bell with permit := false } }
  if s.queue.closed then (.closed, s, m)
  else
    match s.take? m with
    | some (key, s, m) => (.key key, s, m)
    | none => (.nothing, s, m)

/-- A worker looks for a key, and falls asleep when there is none. -/
def wait (s : Station) (worker : Nat) (m : Metrics) : Found × Station × Metrics :=
  match s.look m with
  | (.nothing, s, m) => (.nothing, { s with bell := (s.bell.listen worker).2 }, m)
  | found => found

/-- Lets woken workers run until none is left, at most as many as told. -/
def settleWaiters : Nat → Station → Metrics → List (Nat × Option String) →
    List (Nat × Option String) × Station × Metrics
  | 0, s, m, answers => (answers, s, m)
  | fuel + 1, s, m, answers =>
    match s.bell.rise? with
    | none => (answers, s, m)
    | some (worker, bell) =>
      match wait { s with bell := bell } worker m with
      | (.key k, s, m) => settleWaiters fuel s m (answers ++ [(worker, some k)])
      | (.closed, s, m) => settleWaiters fuel s m (answers ++ [(worker, none)])
      | (.nothing, s, m) => settleWaiters fuel s m answers

/-- The answers of the workers that were woken. -/
def serve (s : Station) (m : Metrics) : List (Nat × Option String) × Station × Metrics :=
  settleWaiters s.bell.woken.length s m []

end Station

end SecretSync
