import SecretSync.Time.Backoff
import Mathlib.Algebra.Group.Nat.Defs
import Mathlib.Tactic.SplitIfs

/-!
Delays between retries. A delay is the first one doubled once for every failure, up to the cap,
unless the cap is so far away that the factor stops growing before: then it is never reached. Kept
in words of 64 and 32 bits, the delay comes out the same, since every product that does not fit is
noticed.
-/
namespace SecretSync

namespace Span

/-- A span in words: its whole seconds, and what is left of it in nanoseconds. -/
structure Words where
  seconds : UInt64
  nanos : UInt32
  deriving DecidableEq

def mulChecked (a b : UInt64) : Option UInt64 :=
  if a.toNat * b.toNat < UInt64.size then some (a * b) else none

def addChecked (a b : UInt64) : Option UInt64 :=
  if a.toNat + b.toNat < UInt64.size then some (a + b) else none

namespace Words

def le (a b : Words) : Bool := a.seconds < b.seconds || (a.seconds = b.seconds && a.nanos ≤ b.nanos)

def max (a b : Words) : Words := if a.le b then b else a

def min (a b : Words) : Words := if a.le b then a else b

/-- A multiple: the product of the nanoseconds is made in a long word, and its whole seconds are
carried over to the others, unless these are too many. -/
def times? (w : Words) (factor : UInt32) : Option Words := do
  let product := w.nanos.toUInt64 * factor.toUInt64
  let seconds ← mulChecked w.seconds factor.toUInt64
  let seconds ← addChecked seconds (product / 1000000000)
  pure ⟨seconds, (product % 1000000000).toUInt32⟩

def delay (base cap : Words) (failures : UInt32) : Words :=
  let cap := cap.max base
  match base.times? (1 <<< if failures < 31 then failures else 31) with
  | some d => d.min cap
  | none => cap

end Words

def words (s : Span) : Words := ⟨.ofNat s.seconds, .ofNat (s.nanos % 1000000000)⟩

theorem seconds_words (s : Span) : s.words.seconds.toNat = s.nanos / 1000000000 := by
  have fits := s.fits
  exact UInt64.toNat_ofNat_of_lt' (by rw [seconds]; omega)

theorem nanos_words (s : Span) : s.words.nanos.toNat = s.nanos % 1000000000 :=
  UInt32.toNat_ofNat_of_lt' (Nat.lt_trans (Nat.mod_lt _ (by decide)) (by decide))

theorem eq_words {s : Span} {w : Words} (seconds : w.seconds.toNat = s.nanos / 1000000000)
    (nanos : w.nanos.toNat = s.nanos % 1000000000) : w = s.words := by
  have first : w.seconds = s.words.seconds := UInt64.toNat_inj.1 (by rw [seconds, seconds_words])
  have second : w.nanos = s.words.nanos := UInt32.toNat_inj.1 (by rw [nanos, nanos_words])
  cases w
  cases first
  cases second
  rfl

theorem le_words (a b : Span) : a.words.le b.words = decide (a.nanos ≤ b.nanos) := by
  rw [Bool.eq_iff_iff]
  simp only [Words.le, Bool.or_eq_true, Bool.and_eq_true, decide_eq_true_eq, UInt64.lt_iff_toNat_lt,
    ← UInt64.toNat_inj, UInt32.le_iff_toNat_le, seconds_words, nanos_words]
  omega

theorem max_words (a b : Span) : a.words.max b.words = (a.max b).words := by
  rw [Words.max, max, le_words]
  split_ifs <;> simp_all

theorem min_words (a b : Span) : a.words.min b.words = (a.min b).words := by
  rw [Words.min, min, le_words]
  split_ifs <;> simp_all

theorem mulChecked_of_lt {a b : UInt64} (fits : a.toNat * b.toNat < UInt64.size) :
    ∃ c, mulChecked a b = some c ∧ c.toNat = a.toNat * b.toNat :=
  ⟨a * b, if_pos fits, (UInt64.toNat_mul a b).trans (Nat.mod_eq_of_lt fits)⟩

theorem addChecked_of_lt {a b : UInt64} (fits : a.toNat + b.toNat < UInt64.size) :
    ∃ c, addChecked a b = some c ∧ c.toNat = a.toNat + b.toNat :=
  ⟨a + b, if_pos fits, (UInt64.toNat_add a b).trans (Nat.mod_eq_of_lt fits)⟩

/-- The product of the nanoseconds fits into a long word, whatever the factor. -/
theorem toNat_product (s : Span) (factor : UInt32) :
    (s.words.nanos.toUInt64 * factor.toUInt64).toNat = s.nanos % 1000000000 * factor.toNat := by
  have below : s.nanos % 1000000000 < 1000000000 := Nat.mod_lt _ (by decide)
  have bound : s.nanos % 1000000000 * factor.toNat < 1000000000 * UInt32.size :=
    Nat.mul_lt_mul'' below factor.toNat_lt_size
  rw [UInt64.toNat_mul, UInt32.toNat_toUInt64, UInt32.toNat_toUInt64, nanos_words]
  exact Nat.mod_eq_of_lt (Nat.lt_trans bound (by decide))

theorem times?_words (s : Span) (factor : UInt32) :
    s.words.times? factor = (s.times? factor.toNat).map words := by
  have product := s.toNat_product factor
  have seconds : s.words.seconds.toNat * factor.toUInt64.toNat =
      s.nanos / 1000000000 * factor.toNat := by
    rw [seconds_words, UInt32.toNat_toUInt64]
  have whole : s.nanos * factor.toNat = s.nanos / 1000000000 * factor.toNat * 1000000000 +
      s.nanos % 1000000000 * factor.toNat := by
    rw [Nat.mul_right_comm, ← Nat.add_mul, Nat.div_add_mod']
  have carry : (s.words.nanos.toUInt64 * factor.toUInt64 / 1000000000).toNat =
      s.nanos % 1000000000 * factor.toNat / 1000000000 := by
    rw [UInt64.toNat_div, product]
    rfl
  unfold Words.times? times? ofNanos?
  by_cases fits : s.nanos * factor.toNat < UInt64.size * 1000000000
  · obtain ⟨a, multiplied, isProduct⟩ := mulChecked_of_lt (a := s.words.seconds)
      (b := factor.toUInt64) (by omega)
    obtain ⟨b, added, isSum⟩ := addChecked_of_lt (a := a)
      (b := s.words.nanos.toUInt64 * factor.toUInt64 / 1000000000) (by omega)
    have left : (s.words.nanos.toUInt64 * factor.toUInt64 % 1000000000).toUInt32.toNat =
        s.nanos % 1000000000 * factor.toNat % 1000000000 := by
      rw [UInt64.toNat_toUInt32, UInt64.toNat_mod, product]
      change _ % 1000000000 % 4294967296 = _
      omega
    rw [dif_pos fits, multiplied]
    change (addChecked a _ >>= _) = _
    rw [added]
    exact congrArg some (eq_words (by dsimp only; omega) (by dsimp only; omega))
  · rw [dif_neg fits]
    by_cases first : s.words.seconds.toNat * factor.toUInt64.toNat < UInt64.size
    · obtain ⟨a, multiplied, isProduct⟩ := mulChecked_of_lt first
      rw [multiplied]
      change (addChecked a _ >>= _) = _
      rw [addChecked, if_neg (by omega)]
      rfl
    · rw [mulChecked, if_neg first]
      rfl

end Span

namespace Backoff

theorem nanos_delay (b : Backoff) (n : Nat) :
    (b.delay n).nanos = min (b.base.nanos * Nat.pow 2 (min n 31)) b.cap.nanos := by
  have fits := b.cap.fits
  unfold delay Span.times? Span.ofNanos?
  split
  · rename_i d found
    split_ifs at found with short
    cases found
    exact Span.nanos_min _ _
  · rename_i long
    split_ifs at long with short
    change ¬ b.base.nanos * Nat.pow 2 (min n 31) < _ at short
    omega

theorem delay_mono (b : Backoff) {i j : Nat} (le : i ≤ j) :
    (b.delay i).nanos ≤ (b.delay j).nanos := by
  rw [nanos_delay, nanos_delay]
  have exponent : min i 31 ≤ min j 31 := by omega
  have factor : Nat.pow 2 (min i 31) ≤ Nat.pow 2 (min j 31) :=
    Nat.pow_le_pow_right (by decide) exponent
  have product := Nat.mul_le_mul_left b.base.nanos factor
  omega

theorem base_le_delay (b : Backoff) (n : Nat) : b.base.nanos ≤ (b.delay n).nanos := by
  rw [nanos_delay]
  have factor : 0 < Nat.pow 2 (min n 31) := Nat.two_pow_pos (min n 31)
  have product := Nat.le_mul_of_pos_right b.base.nanos factor
  have cap := b.base_le_cap
  omega

theorem delay_le_cap (b : Backoff) (n : Nat) : (b.delay n).nanos ≤ b.cap.nanos := by
  rw [nanos_delay]
  exact Nat.min_le_right _ _

/-- The first delay doubled for every failure up to the cap, where a cap below the first delay is
raised to it. -/
def doubled (base cap : Span) (failures : Nat) : Nat :=
  min (base.nanos * 2 ^ failures) (max base.nanos cap.nanos)

/-- The factor stopped growing before the cap was reached. -/
structure Stalled (base cap : Span) (failures : Nat) : Prop where
  late : 31 < failures
  started : 0 < base.nanos
  short : base.nanos * 2 ^ 31 < cap.nanos

variable {base cap : Span} {n : Nat}

theorem nanos_delay_make (base cap : Span) (n : Nat) : ((make base cap).delay n).nanos =
    min (base.nanos * 2 ^ min n 31) (max base.nanos cap.nanos) := by
  have raised : (make base cap).cap.nanos = max cap.nanos base.nanos := Span.nanos_max cap base
  rw [nanos_delay, raised, Nat.max_comm]
  rfl

theorem Stalled.delay (stalled : Stalled base cap n) :
    ((make base cap).delay n).nanos = base.nanos * 2 ^ 31 := by
  have exponent : min n 31 = 31 := by have := stalled.late; omega
  have short := stalled.short
  rw [nanos_delay_make, exponent]
  omega

theorem Stalled.lt_doubled (stalled : Stalled base cap n) :
    ((make base cap).delay n).nanos < doubled base cap n := by
  have factor : 2 ^ 31 < 2 ^ n := Nat.pow_lt_pow_right (by decide) stalled.late
  have product := Nat.mul_lt_mul_of_pos_left factor stalled.started
  have short := stalled.short
  rw [stalled.delay, doubled]
  omega

theorem delay_of_not_stalled (moving : ¬ Stalled base cap n) :
    ((make base cap).delay n).nanos = doubled base cap n := by
  rw [nanos_delay_make, doubled]
  by_cases late : 31 < n
  · have exponent : min n 31 = 31 := by omega
    have factor : 2 ^ 31 ≤ 2 ^ n := Nat.pow_le_pow_right (by decide) (Nat.le_of_lt late)
    have product := Nat.mul_le_mul_left base.nanos factor
    rw [exponent]
    by_cases started : 0 < base.nanos
    · -- the cap was reached before the factor stopped
      have reached : cap.nanos ≤ base.nanos * 2 ^ 31 :=
        Nat.le_of_not_lt fun short => moving ⟨late, started, short⟩
      omega
    · have zero : base.nanos = 0 := by omega
      rw [zero, Nat.zero_mul, Nat.zero_mul]
  · have exponent : min n 31 = n := by omega
    rw [exponent]

theorem toNat_factor (n : UInt32) :
    ((1 : UInt32) <<< if n < 31 then n else 31).toNat = Nat.pow 2 (min n.toNat 31) := by
  have exponent : (if n < 31 then n else 31 : UInt32).toNat = min n.toNat 31 := by
    have small : n < 31 ↔ n.toNat < 31 := UInt32.lt_iff_toNat_lt
    split_ifs with h
    · rw [small] at h
      omega
    · rw [small] at h
      change 31 = _
      omega
  have least : min n.toNat 31 % 32 = min n.toNat 31 := by omega
  have fits : 2 ^ min n.toNat 31 < 2 ^ 32 := Nat.pow_lt_pow_right (by decide) (by omega)
  rw [UInt32.toNat_shiftLeft, exponent, least]
  change 1 <<< _ % 2 ^ 32 = _
  rw [Nat.one_shiftLeft]
  exact Nat.mod_eq_of_lt fits

theorem words_delay (base cap : Span) (n : UInt32) :
    Span.Words.delay base.words cap.words n = ((make base cap).delay n.toNat).words := by
  have raised : cap.words.max base.words = (make base cap).cap.words := Span.max_words cap base
  have first : (make base cap).base = base := rfl
  rw [Span.Words.delay, Span.times?_words, toNat_factor, raised, delay, first]
  cases base.times? (Nat.pow 2 (min n.toNat 31)) with
  | none => rfl
  | some d => exact Span.min_words d (make base cap).cap

/-- For every number of failures the delay is the first one doubled as often, up to the cap, if and
only if it does not stall; if it stalls it is 2^31 times the first one, for good. No word overflows
on the way. -/
theorem doubled_unless_stalled (base cap : Span) (n : UInt32) :
    (((make base cap).delay n.toNat).nanos = doubled base cap n.toNat ↔
      ¬ Stalled base cap n.toNat) ∧
    (Stalled base cap n.toNat → ((make base cap).delay n.toNat).nanos = base.nanos * 2 ^ 31) ∧
    Span.Words.delay base.words cap.words n = ((make base cap).delay n.toNat).words := by
  refine ⟨⟨fun exact stalled => ?_, delay_of_not_stalled⟩, Stalled.delay, words_delay base cap n⟩
  exact Nat.ne_of_lt stalled.lt_doubled exact

/-- From five milliseconds to a year: the delay stalls at about four months. -/
theorem year_is_never_reached :
    Stalled (.ofMillis 5) (.ofSeconds 31536000) 40 ∧
      ((make (.ofMillis 5) (.ofSeconds 31536000)).delay 40).nanos = 5000000 * 2 ^ 31 := by
  have stalled : Stalled (.ofMillis 5) (.ofSeconds 31536000) 40 :=
    ⟨by decide, by decide, by decide⟩
  exact ⟨stalled, (doubled_unless_stalled (.ofMillis 5) (.ofSeconds 31536000) 40).2.1 stalled⟩

theorem stalled_delay_is_too_short :
    doubled (.ofMillis 5) (.ofSeconds 31536000) 40 = 31536000 * 1000000000 ∧
      ((make (.ofMillis 5) (.ofSeconds 31536000)).delay 40).nanos ≠
        doubled (.ofMillis 5) (.ofSeconds 31536000) 40 := by
  decide

end Backoff

end SecretSync
