import SecretSync.Metrics.Basic
import SecretSync.Pass.Error
import SecretSync.Queue.Basic
import SecretSync.Time.Backoff

namespace SecretSync

inductive Outcome where
  | synced
  | requeued (attempt : Nat)
  | dropped
  deriving DecidableEq, Repr

namespace Outcome

def decide (requeues maxRetries : Nat) : Except PassError Unit → Outcome
  | .ok _ => .synced
  | .error e =>
    if e.retryable && Nat.blt requeues maxRetries then .requeued (requeues + 1) else .dropped

end Outcome

namespace WorkQueue

/-- Adds a key at once if there is nothing to wait for. Otherwise a timer has to bring it back after
the delay that is given. -/
def addAfter (q : WorkQueue) (key : String) (delay : Span) : WorkQueue × Option Span :=
  if delay.nanos = 0 then (q.add key, none) else (q, some delay)

/-- Puts a key back, now or after a delay that grows with each time. -/
def addLimited (q : WorkQueue) (b : Backoff) (key : String) : WorkQueue × Option Span :=
  (q.countRequeue key).addAfter key (b.delay (q.requeueCount key))

/-- The queue after the result of a pass, and the delay after which the key comes back. -/
def settle (q : WorkQueue) (b : Backoff) (maxRetries : Nat) (key : String)
    (result : Except PassError Unit) : Outcome × WorkQueue × Option Span :=
  let outcome := Outcome.decide (q.requeueCount key) maxRetries result
  match outcome with
  | .requeued _ => (outcome, q.addLimited b key)
  | _ => (outcome, q.forget key, none)

end WorkQueue

namespace Metrics

/-- Counts a finished pass, its error, and the key if it was dropped. -/
def countOutcome (m : Metrics) (queue : String) (result : Except PassError Unit)
    (outcome : Outcome) : Metrics :=
  match result with
  | .ok _ => m.countReconciliation queue "success"
  | .error e =>
    let m := (m.countReconciliation queue "error").countError queue e.kind
    if outcome = .dropped then m.countDropped queue else m

end Metrics

end SecretSync
