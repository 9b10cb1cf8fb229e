/-!
A bell for sleeping workers. A ring wakes the worker that has slept longest; when nobody sleeps it
is remembered, once, for the next worker that would fall asleep.
-/
namespace SecretSync

/-- `sleepers` and `woken` are workers in the order in which they fell asleep and were woken. -/
structure Doorbell where
  permit : Bool
  sleepers : List Nat
  woken : List Nat
  deriving DecidableEq, Repr

namespace Doorbell

def silent : Doorbell := ⟨false, [], []⟩

instance : Inhabited Doorbell := ⟨silent⟩

def ring (d : Doorbell) : Doorbell :=
  match d.sleepers with
  | [] => { d with permit := true }
  | w :: rest => { d with sleepers := rest, woken := d.woken ++ [w] }

/-- Wakes every sleeper. Nothing is remembered. -/
def ringAll (d : Doorbell) : Doorbell :=
  { d with sleepers := [], woken := d.woken ++ d.sleepers }

/-- A worker listens before it looks for work: it uses up a remembered ring, or joins the
sleepers. The flag tells that it used up a ring. -/
def listen (d : Doorbell) (worker : Nat) : Bool × Doorbell :=
  if d.permit then (true, { d with permit := false })
  else (false, { d with sleepers := d.sleepers ++ [worker] })

/-- A worker that found work stops listening. A ring meant for it goes to the next sleeper. -/
def leave (d : Doorbell) (worker : Nat) : Doorbell :=
  if worker ∈ d.sleepers then { d with sleepers := d.sleepers.filter fun w => decide (w ≠ worker) }
  else if worker ∈ d.woken then
    ring { d with woken := d.woken.filter fun w => decide (w ≠ worker) }
  else d

/-- A woken worker runs again. -/
def rise? (d : Doorbell) : Option (Nat × Doorbell) :=
  match d.woken with
  | [] => none
  | w :: rest => some (w, { d with woken := rest })

end Doorbell

end SecretSync
