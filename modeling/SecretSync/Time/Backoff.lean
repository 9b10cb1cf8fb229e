import SecretSync.Time.Span

namespace SecretSync

structure Backoff where
  base : Span
  cap : Span
  base_le_cap : base.nanos ≤ cap.nanos
  deriving DecidableEq

namespace Backoff

/-- A cap below the first delay is raised to it. -/
def make (base cap : Span) : Backoff :=
  ⟨base, cap.max base, by rw [Span.nanos_max]; omega⟩

def standard : Backoff := make (Span.ofMillis 5) (Span.ofMillis 1000000)

instance : Inhabited Backoff := ⟨standard⟩

/-- The delay after a number of earlier failures. The factor stops growing at 2^31. -/
def delay (b : Backoff) (failures : Nat) : Span :=
  match b.base.times? (Nat.pow 2 (min failures 31)) with
  | some d => d.min b.cap
  | none => b.cap

end Backoff

end SecretSync
