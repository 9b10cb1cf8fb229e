import SecretSync.Text.Decimal

namespace SecretSync

structure Span where
  nanos : Nat
  fits : nanos < UInt64.size * 1000000000
  deriving DecidableEq

namespace Span

def zero : Span := ⟨0, by decide⟩

instance : Inhabited Span := ⟨zero⟩

def ofNanos? (n : Nat) : Option Span :=
  if h : n < UInt64.size * 1000000000 then some ⟨n, h⟩ else none

def ofSeconds (n : UInt64) : Span :=
  ⟨n.toNat * 1000000000, Nat.mul_lt_mul_of_pos_right n.toNat_lt_size (by decide)⟩

def ofMillis (n : UInt64) : Span :=
  ⟨n.toNat * 1000000, Nat.mul_lt_mul'' n.toNat_lt_size (by decide)⟩

def seconds (s : Span) : Nat := s.nanos / 1000000000

def max (a b : Span) : Span := if a.nanos ≤ b.nanos then b else a

def min (a b : Span) : Span := if a.nanos ≤ b.nanos then a else b

/-- A multiple, unless it is too long. -/
def times? (s : Span) (n : Nat) : Option Span := ofNanos? (s.nanos * n)

/-- Whole milliseconds that are not shorter. -/
def millisUp (s : Span) : Nat := (s.nanos + 999999) / 1000000

/-- Seconds, a point and nine digits. -/
def render (s : Span) : String := toString s.seconds ++ "." ++ Text.pad 9 (s.nanos % 1000000000)

@[ext] theorem ext_nanos {a b : Span} (h : a.nanos = b.nanos) : a = b := by
  cases a
  cases b
  cases h
  rfl

theorem nanos_max (a b : Span) : (a.max b).nanos = Max.max a.nanos b.nanos := by
  unfold max
  split <;> omega

theorem nanos_min (a b : Span) : (a.min b).nanos = Min.min a.nanos b.nanos := by
  unfold min
  split <;> omega

end Span

end SecretSync
