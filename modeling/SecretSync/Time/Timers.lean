import SecretSync.Time.Span

/-!
Pending timers in the order in which they fire: by instant, and those of one instant in the order
they were set. Instants are whole milliseconds.
-/
namespace SecretSync

structure Timers (α : Type) where
  pending : List (Nat × α)
  deriving Repr

namespace Timers

def empty : Timers α := ⟨[]⟩

instance : Inhabited (Timers α) := ⟨empty⟩

/-- The longest delay there is: thirty years. -/
def longest : Nat := 86400 * 365 * 30 * 1000

/-- The first instant at which a delay has passed. -/
def deadline (now : Nat) (delay : Span) : Nat := now + min delay.millisUp longest

def place (instant : Nat) (a : α) : List (Nat × α) → List (Nat × α)
  | [] => [(instant, a)]
  | t :: rest => if instant < t.1 then (instant, a) :: t :: rest else t :: place instant a rest

def set (ts : Timers α) (instant : Nat) (a : α) : Timers α := ⟨place instant a ts.pending⟩

def earliest? (ts : Timers α) : Option Nat := ts.pending.head?.map Prod.fst

/-- The timers that fire by an instant, and those left. -/
def due (ts : Timers α) (instant : Nat) : List α × Timers α :=
  ((ts.pending.takeWhile fun t => t.1 ≤ instant).map Prod.snd,
    ⟨ts.pending.dropWhile fun t => t.1 ≤ instant⟩)

/-- The timers that do not stand for a given thing. -/
def without [DecidableEq α] (ts : Timers α) (a : α) : Timers α :=
  ⟨ts.pending.filter fun t => decide (t.2 ≠ a)⟩

/-- Goes from instant to instant as long as something is due by a target, at most as often as
told. -/
def passTime (next? : σ → Option Nat) (arrive : σ → Nat → σ) (target : Nat) : Nat → σ → σ
  | 0, s => s
  | fuel + 1, s =>
    match (next? s).filter fun t => t ≤ target with
    | none => s
    | some t => passTime next? arrive target fuel (arrive s t)

theorem mem_place {instant : Nat} {a : α} {l : List (Nat × α)} {t : Nat × α} :
    t ∈ place instant a l ↔ t = (instant, a) ∨ t ∈ l := by
  induction l with
  | nil => simp [place]
  | cons u l ih =>
    simp only [place]
    split
    · simp
    · simp only [List.mem_cons, ih]
      constructor
      · rintro (h | h | h)
        · exact .inr (.inl h)
        · exact .inl h
        · exact .inr (.inr h)
      · rintro (h | h | h)
        · exact .inr (.inl h)
        · exact .inl h
        · exact .inr (.inr h)

end Timers

end SecretSync
