/-!
Numbers of 64 bits in binary floating point, computed exactly on natural numbers. A result is the
number nearest to the exact value, the even one of two.
-/
namespace SecretSync

/-- A finite number is `mantissa * 2 ^ exponent` with a sign, the mantissa below 2^53. -/
inductive Binary64 where
  | finite (negative : Bool) (mantissa : Nat) (exponent : Int)
  | infinite (negative : Bool)
  deriving DecidableEq, Repr

namespace Binary64

def zero : Binary64 := .finite false 0 (-1074)

instance : Inhabited Binary64 := ⟨zero⟩

def log2 (n : Nat) : Nat := Nat.log2 n

/-- The two sides of `num / den = quotient * 2 ^ e`, as a fraction without `e`. -/
def scale (num den : Nat) (e : Int) : Nat × Nat :=
  if 0 ≤ e then (num, den * Nat.pow 2 e.toNat) else (num * Nat.pow 2 (-e).toNat, den)

def roundQuotient (num den : Nat) : Nat :=
  let q := num / den
  let r := num % den
  if 2 * r < den then q
  else if den < 2 * r then q + 1
  else if q % 2 = 0 then q else q + 1

/-- The exponent at which `num / den` has 53 binary digits, or the least one. -/
def exponentOf (num den : Nat) : Int :=
  let guess := max ((log2 num : Int) - log2 den - 53) (-1074)
  let (n, d) := scale num den guess
  if n / d < Nat.pow 2 53 then guess else guess + 1

def ofRatio (negative : Bool) (num den : Nat) : Binary64 :=
  if num = 0 then .finite negative 0 (-1074)
  else
    let e := exponentOf num den
    let (n, d) := scale num den e
    let m := roundQuotient n d
    let (m, e) := if m = Nat.pow 2 53 then (Nat.pow 2 52, e + 1) else (m, e)
    if 971 < e then .infinite negative else .finite negative m e

def ofNat (n : Nat) : Binary64 := ofRatio false n 1

/-- A product `m * 2 ^ e` as a fraction. -/
def fraction (m : Nat) (e : Int) : Nat × Nat :=
  if 0 ≤ e then (m * Nat.pow 2 e.toNat, 1) else (m, Nat.pow 2 (-e).toNat)

def neg : Binary64 → Binary64
  | .finite s m e => .finite (!s) m e
  | .infinite s => .infinite (!s)

/-- The mantissa at a smaller exponent, with its sign. -/
def aligned (negative : Bool) (m : Nat) (e low : Int) : Int :=
  let n : Int := m * Nat.pow 2 (e - low).toNat
  if negative then -n else n

def add : Binary64 → Binary64 → Binary64
  | .infinite s, _ => .infinite s
  | _, .infinite s => .infinite s
  | .finite s m e, .finite t n f =>
    let low := min e f
    let sum := aligned s m e low + aligned t n f low
    if sum = 0 then .finite (s && t) 0 (-1074)
    else
      let (num, den) := fraction sum.natAbs low
      ofRatio (decide (sum < 0)) num den

def mul : Binary64 → Binary64 → Binary64
  | .finite s m e, .finite t n f =>
    let (num, den) := fraction (m * n) (e + f)
    ofRatio (s != t) num den
  | .infinite s, .finite t _ _ => .infinite (s != t)
  | .finite s _ _, .infinite t => .infinite (s != t)
  | .infinite s, .infinite t => .infinite (s != t)

/-- The quotient by a number other than zero. -/
def div : Binary64 → Binary64 → Binary64
  | .finite s m e, .finite t n f =>
    let (num, den) := fraction m (e - f)
    ofRatio (s != t) num (den * n)
  | .infinite s, .finite t _ _ => .infinite (s != t)
  | .finite s _ _, .infinite t => .finite (s != t) 0 (-1074)
  | .infinite s, .infinite t => .infinite (s != t)

def isZero : Binary64 → Bool
  | .finite _ m _ => m == 0
  | .infinite _ => false

def le : Binary64 → Binary64 → Bool
  | .infinite s, .infinite t => s || !t
  | .infinite s, .finite .. => s
  | .finite .., .infinite t => !t
  | .finite s m e, .finite t n f =>
    let low := min e f
    decide (aligned s m e low ≤ aligned t n f low)

/-- The least `j` up to a bound with `den ≤ num * 10 ^ j`. -/
def leadingZeros (den : Nat) : Nat → Nat → Nat
  | 0, _ => 0
  | bound + 1, num => if den ≤ num then 0 else leadingZeros den bound (num * 10) + 1

/-- The place of the first decimal digit of a positive fraction. -/
def decimalPlace (num den : Nat) : Int :=
  if den ≤ num then (toString (num / den)).length - 1 else -(leadingZeros den 400 num : Int)

/-- The halves of the gaps below and above `m * 2 ^ e`, in units of `2 ^ (e - 2)`. -/
def gaps (m : Nat) (e : Int) : Nat × Nat :=
  if m = Nat.pow 2 52 ∧ -1074 < e then (1, 2) else (2, 2)

/-- Where a number halfway between two digits goes: up, or to the even one. -/
inductive Tie where
  | up
  | even
  deriving DecidableEq, Repr

def Tie.goesUp (low : Nat) : Tie → Bool
  | .up => true
  | .even => low % 2 = 1

/-- Digits and decimal exponent with the given number of digits that read back, if there are any. -/
def candidate (tie : Tie) (m : Nat) (e : Int) (place : Int) (count : Nat) : Option (Nat × Int) :=
  let unit := place - count + 1
  let (below, above) := gaps m e
  let (vn, vd) := fraction (4 * m) (e - 2)
  let (ln, ld) := fraction (4 * m - below) (e - 2)
  let (hn, hd) := fraction (4 * m + above) (e - 2)
  let (un, ud) := if 0 ≤ unit then (Nat.pow 10 unit.toNat, 1) else (1, Nat.pow 10 (-unit).toNat)
  let low := vn * ud / (vd * un)
  let inside (c : Nat) : Bool :=
    if m % 2 = 0 then ln * ud ≤ c * un * ld && c * un * hd ≤ hn * ud
    else ln * ud < c * un * ld && c * un * hd < hn * ud
  let twice := 2 * vn * ud
  let half := (2 * low + 1) * un * vd
  let downNear : Bool := twice < half || (twice = half && !tie.goesUp low)
  match inside low, inside (low + 1) with
  | true, true => some (if downNear then low else low + 1, unit)
  | true, false => some (low, unit)
  | false, true => some (low + 1, unit)
  | false, false => none

/-- Ten of a unit as one of the next. -/
def carried : Nat × Int → Nat × Int
  | (10, exponent) => (1, exponent + 1)
  | d => d

/-- The fewest decimal digits that read back as a positive number. -/
def shortest (tie : Tie) (m : Nat) (e : Int) : Nat × Int :=
  let (num, den) := fraction m e
  let place := decimalPlace num den
  carried (((List.range 17).findSome? fun i => candidate tie m e place (i + 1)).getD (num / den, 0))

/-- Digits with a point, without an exponent. -/
def positional (digits : Nat) (exponent : Int) : String :=
  let s := (toString digits).toList
  if 0 ≤ exponent then String.ofList (s ++ List.replicate exponent.toNat '0')
  else
    let places := (-exponent).toNat
    let padded := List.replicate (places + 1 - s.length) '0' ++ s
    let cut := padded.length - places
    let tail := ((padded.drop cut).reverse.dropWhile (· == '0')).reverse
    String.ofList (padded.take cut ++ if tail.isEmpty then [] else '.' :: tail)

def display : Binary64 → String
  | .infinite s => if s then "-inf" else "inf"
  | .finite s m e =>
    let body := if m = 0 then "0" else
      let (digits, exponent) := shortest .up m e
      positional digits exponent
    if s then "-" ++ body else body

end Binary64

end SecretSync
