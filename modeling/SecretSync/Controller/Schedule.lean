import SecretSync.Table
import SecretSync.Time.Span

/-!
Which bindings are due for a vault poll. Every tick polls all of them, except those that failed too
often in a row: they are polled at a longer interval until a poll succeeds.
-/
namespace SecretSync

/-- Failures in a row, and the instant of the last poll in nanoseconds. -/
structure PollState where
  failures : Nat
  lastPoll : Option Nat
  deriving DecidableEq, Repr

def PollState.fresh : PollState := ⟨0, none⟩

/-- `patience` is how many failures in a row slow a binding down; zero never does. -/
structure Schedule where
  normal : Span
  slow : Span
  patience : Nat
  states : Table String PollState
  deriving DecidableEq

namespace Schedule

def make (normal slow : Span) (patience : Nat) : Schedule := ⟨normal, slow, patience, Table.empty⟩

def slowed (s : Schedule) (p : PollState) : Bool := 0 < s.patience && s.patience ≤ p.failures

/-- Whether a binding in a state is polled at an instant. Time that runs back counts as none. -/
def isDue (s : Schedule) (p : PollState) (now : Nat) : Bool :=
  match p.lastPoll with
  | some last => !s.slowed p || s.slow.nanos ≤ now - last
  | none => true

def visit (s : Schedule) (now : Nat) (p : PollState) : PollState :=
  if s.isDue p now then { p with lastPoll := some now } else p

/-- The due keys of a list in its order, with the states left over and those of the list so far. -/
def sweep (s : Schedule) (now : Nat) (old current : Table String PollState) :
    List String → List String × Table String PollState
  | [] => ([], current)
  | key :: rest =>
    let p := (old.get? key).getD PollState.fresh
    let (due, current) := sweep s now (old.erase key) (current.insert key (s.visit now p)) rest
    (if s.isDue p now then key :: due else due, current)

/-- The keys to poll now. Keys that are not listed are forgotten. -/
def due (s : Schedule) (keys : List String) (now : Nat) : List String × Schedule :=
  let (keys, states) := s.sweep now s.states Table.empty keys
  (keys, { s with states := states })

/-- Takes note of how a poll ended. The count of failures stops at 2^32 - 1. -/
def record (s : Schedule) (key : String) (success : Bool) : Schedule :=
  { s with
    states := s.states.adjust key PollState.fresh fun p =>
      { p with failures := if success then 0 else min (p.failures + 1) (UInt32.size - 1) } }

def failures (s : Schedule) (key : String) : Nat :=
  ((s.states.get? key).map PollState.failures).getD 0

end Schedule

end SecretSync
