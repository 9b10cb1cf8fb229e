import SecretSync.Proofs.Text.Decimal
import SecretSync.Time.Notation
import Mathlib.Algebra.Group.Nat.Defs
import Mathlib.Data.List.Basic

namespace SecretSync.Span

open Text (isBlank isDecimalDigit readDigits trimChars)

inductive TimeUnit where
  | second
  | minute
  | hour
  | day
  deriving DecidableEq

namespace TimeUnit

def seconds : TimeUnit → Nat
  | second => 1
  | minute => 60
  | hour => 60 * 60
  | day => 24 * 60 * 60

/-- A unit may be written small or large. -/
def letters : TimeUnit → List Char
  | second => ['s', 'S']
  | minute => ['m', 'M']
  | hour => ['h', 'H']
  | day => ['d', 'D']

theorem seconds_pos (u : TimeUnit) : 0 < u.seconds := by
  cases u <;> decide

theorem solid (u : TimeUnit) : ∀ c ∈ u.letters, isBlank c = false := by
  have all : u.letters.all (fun c => !isBlank c) = true := by cases u <;> decide
  simpa using all

theorem not_digit (u : TimeUnit) : ∀ c ∈ u.letters, isDecimalDigit c = false := by
  have all : u.letters.all (fun c => !isDecimalDigit c) = true := by cases u <;> decide
  simpa using all

end TimeUnit

theorem unitSeconds?_eq_some {c : Char} {n : Nat} :
    unitSeconds? c = some n ↔ ∃ u : TimeUnit, c ∈ u.letters ∧ u.seconds = n := by
  constructor
  · intro found
    unfold unitSeconds? at found
    split_ifs at found with second minute hour day
    · exact ⟨.second, by simpa [TimeUnit.letters] using second, Option.some.inj found⟩
    · exact ⟨.minute, by simpa [TimeUnit.letters] using minute, Option.some.inj found⟩
    · exact ⟨.hour, by simpa [TimeUnit.letters] using hour, Option.some.inj found⟩
    · exact ⟨.day, by simpa [TimeUnit.letters] using day, Option.some.inj found⟩
  · rintro ⟨u, letter, rfl⟩
    have all : u.letters.all (fun c => unitSeconds? c = some u.seconds) = true := by
      cases u <;> decide
    exact of_decide_eq_true (List.all_eq_true.1 all c letter)

theorem split?_eq_some {text digits : List Char} {n : Nat} :
    split? text = some (digits, n) ↔
      ∃ c, text = digits ++ [c] ∧ unitSeconds? c = some n ∧ digits ≠ [] ∧
        ∀ d ∈ digits, isDecimalDigit d := by
  constructor
  · intro found
    obtain ⟨c, last, found⟩ := Option.bind_eq_some_iff.1 found
    obtain ⟨seconds, unit, found⟩ := Option.bind_eq_some_iff.1 found
    dsimp only at found
    split_ifs at found with number
    cases found
    rw [Bool.and_eq_true, Bool.not_eq_true', List.isEmpty_eq_false_iff, List.all_eq_true] at number
    exact ⟨c, (List.dropLast_append_getLast? c last).symm, unit, number⟩
  · rintro ⟨c, rfl, unit, filled, number⟩
    have front : (!digits.isEmpty && digits.all isDecimalDigit) = true := by
      rw [Bool.and_eq_true, Bool.not_eq_true', List.isEmpty_eq_false_iff, List.all_eq_true]
      exact ⟨filled, number⟩
    simp [split?, unit, front]

/-- A text spells so many of a unit, in ASCII digits and with any blanks around. -/
def Spells (text : String) (n : Nat) (u : TimeUnit) : Prop :=
  ∃ before digits letter after, text.toList = before ++ digits ++ letter :: after ∧
    (∀ c ∈ before ++ after, isBlank c) ∧ digits ≠ [] ∧ (∀ c ∈ digits, c.isDigit) ∧
    Nat.ofDigitChars 10 digits 0 = n ∧ letter ∈ u.letters

theorem spells_iff {text : String} {n : Nat} {u : TimeUnit} : Spells text n u ↔
    ∃ digits letter, trimChars text.toList = digits ++ [letter] ∧ digits ≠ [] ∧
      (∀ c ∈ digits, c.isDigit) ∧ Nat.ofDigitChars 10 digits 0 = n ∧ letter ∈ u.letters := by
  constructor
  · rintro ⟨before, digits, letter, after, text, blank, filled, number, value, unit⟩
    rw [List.forall_mem_append] at blank
    refine ⟨digits, letter, ?_, filled, number, value, unit⟩
    obtain ⟨d, ds, rfl⟩ := List.exists_cons_of_ne_nil filled
    have first := Text.isBlank_of_isDigit (number d List.mem_cons_self)
    rw [text, Text.trimChars_between blank.1 blank.2 first (u.solid letter unit)]
  · rintro ⟨digits, letter, trimmed, filled, number, value, unit⟩
    obtain ⟨before, after, whole, front, back⟩ := Text.exists_of_trimChars text.toList
    refine ⟨before, digits, letter, after, ?_, List.forall_mem_append.2 ⟨front, back⟩, filled,
      number, value, unit⟩
    rw [whole, trimmed]
    simp

theorem parse_of_spells {text : String} {n : Nat} {u : TimeUnit} (spelled : Spells text n u)
    (pos : 0 < n) (fits : n * u.seconds < UInt64.size) :
    parse text =
      .ok ⟨n * u.seconds * 1000000000, Nat.mul_lt_mul_of_pos_right fits (by decide)⟩ := by
  obtain ⟨digits, letter, trimmed, filled, number, value, unit⟩ := spells_iff.1 spelled
  have cut : split? (trimChars text.toList) = some (digits, u.seconds) :=
    split?_eq_some.2 ⟨letter, trimmed, unitSeconds?_eq_some.2 ⟨u, unit, rfl⟩, filled,
      fun d inside => Text.isDecimalDigit_of_isDigit (number d inside)⟩
  have bounded : n < UInt64.size :=
    Nat.lt_of_le_of_lt (Nat.le_mul_of_pos_right n u.seconds_pos) fits
  have read : readDigits UInt64.size 0 digits = .ok n :=
    (Text.readDigits_eq_ok (by decide)).2 ⟨number, value, bounded⟩
  have some : (trimChars text.toList).isEmpty = false := by
    rw [trimmed, List.isEmpty_eq_false_iff]
    simp
  simp only [parse, some, Bool.false_eq_true, if_false, cut, read, if_neg (Nat.ne_of_gt pos),
    dif_pos fits]

theorem spells_of_parse {text : String} {d : Span} (parsed : parse text = .ok d) :
    ∃ n u, Spells text n u ∧ 0 < n ∧ n * u.seconds < UInt64.size ∧
      d.nanos = n * u.seconds * 1000000000 := by
  unfold parse at parsed
  dsimp only at parsed
  split_ifs at parsed
  split at parsed
  · cases parsed
  rename_i digits seconds cut
  split at parsed
  · cases parsed
  rename_i n read
  split_ifs at parsed with zero fits
  cases parsed
  obtain ⟨letter, trimmed, unit, filled, -⟩ := split?_eq_some.1 cut
  obtain ⟨u, written, rfl⟩ := unitSeconds?_eq_some.1 unit
  obtain ⟨number, value, -⟩ := (Text.readDigits_eq_ok (by decide)).1 read
  exact ⟨n, u, spells_iff.2 ⟨digits, letter, trimmed, filled, number, value, written⟩,
    Nat.pos_of_ne_zero zero, fits, rfl⟩

theorem Spells.isDigit {text : String} {n : Nat} {u : TimeUnit} (spelled : Spells text n u)
    {c : Char} (inside : c ∈ text.toList) (digit : isDecimalDigit c) : c.isDigit := by
  obtain ⟨before, digits, letter, after, whole, blank, -, number, -, unit⟩ := spelled
  rw [whole, List.mem_append, List.mem_append, List.mem_cons] at inside
  have solid := Text.isBlank_of_isDecimalDigit digit
  obtain (front | here) | rfl | back := inside
  · exact absurd (blank c (List.mem_append_left after front)) (Bool.eq_false_iff.1 solid)
  · exact number c here
  · exact absurd digit (Bool.eq_false_iff.1 (u.not_digit c unit))
  · exact absurd (blank c (List.mem_append_right before back)) (Bool.eq_false_iff.1 solid)

theorem nanos_eq_iff (d : Span) (n : Nat) :
    d.nanos = n * 1000000000 ↔ d.seconds = n ∧ d.nanos % 1000000000 = 0 := by
  rw [seconds]
  omega

theorem parse_eq_ok_iff {text : String} {d : Span} : parse text = .ok d ↔
    ∃ n u, Spells text n u ∧ 0 < n ∧ n * u.seconds < UInt64.size ∧
      d.nanos = n * u.seconds * 1000000000 := by
  constructor
  · exact spells_of_parse
  · rintro ⟨n, u, spelled, pos, fits, nanos⟩
    rw [parse_of_spells spelled pos fits]
    exact congrArg Except.ok (ext_nanos nanos.symm)

/-- A text is read as a span if and only if it spells, between blanks, a number of a unit that is
not zero, where number and seconds fit into 64 bits. The span has just so many seconds, so it is
never zero, and every other text is refused, such as one with a digit that is not of ASCII. -/
theorem spelled_spans_are_read (text : String) :
    (∀ d : Span, parse text = .ok d ↔ ∃ n u, Spells text n u ∧ 1 ≤ n ∧ n < 2 ^ 64 ∧
      n * u.seconds < 2 ^ 64 ∧ d.seconds = n * u.seconds ∧ d.nanos % 1000000000 = 0) ∧
    ((∃ e, parse text = .error e) ↔
      ¬ ∃ n u, Spells text n u ∧ 1 ≤ n ∧ n < 2 ^ 64 ∧ n * u.seconds < 2 ^ 64) ∧
    (∀ c ∈ text.toList, isDecimalDigit c → c.isDigit = false → ∃ e, parse text = .error e) ∧
    ∀ d : Span, parse text = .ok d → d ≠ zero := by
  have small : ∀ {n : Nat} {u : TimeUnit}, n * u.seconds < 2 ^ 64 → n < 2 ^ 64 := fun fits =>
    Nat.lt_of_le_of_lt (Nat.le_mul_of_pos_right _ (TimeUnit.seconds_pos _)) fits
  refine ⟨fun d => ?_, ?_, fun c inside digit other => ?_, fun d parsed => ?_⟩
  · rw [parse_eq_ok_iff]
    constructor
    · rintro ⟨n, u, spelled, pos, fits, nanos⟩
      exact ⟨n, u, spelled, pos, small fits, fits, (nanos_eq_iff d _).1 nanos⟩
    · rintro ⟨n, u, spelled, pos, -, fits, length⟩
      exact ⟨n, u, spelled, pos, fits, (nanos_eq_iff d _).2 length⟩
  · constructor
    · rintro ⟨e, refused⟩ ⟨n, u, spelled, pos, -, fits⟩
      rw [parse_of_spells spelled pos fits] at refused
      cases refused
    · intro unspelled
      cases parsed : parse text with
      | error e => exact ⟨e, rfl⟩
      | ok d =>
        obtain ⟨n, u, spelled, pos, fits, -⟩ := spells_of_parse parsed
        exact absurd ⟨n, u, spelled, pos, small fits, fits⟩ unspelled
  · cases parsed : parse text with
    | error e => exact ⟨e, rfl⟩
    | ok d =>
      obtain ⟨n, u, spelled, -⟩ := spells_of_parse parsed
      exact absurd (spelled.isDigit inside digit) (Bool.eq_false_iff.1 other)
  · rintro rfl
    obtain ⟨n, u, -, pos, -, nanos⟩ := spells_of_parse parsed
    have seconds := Nat.mul_pos pos u.seconds_pos
    change 0 = _ at nanos
    omega

/-- The longest span that can be given in days, and a digit that has no value. -/
theorem longest_days_are_read :
    (∃ d, parse "\u2003213503982334601D\u00a0" = .ok d ∧ d.seconds = 213503982334601 * 86400 ∧
      d ≠ zero) ∧ ∃ e, parse "\u0663s" = .error e := by
  have spelled : Spells "\u2003213503982334601D\u00a0" 213503982334601 .day :=
    ⟨['\u2003'], "213503982334601".toList, 'D', ['\u00a0'], by decide +kernel,
      List.all_eq_true.1 (by decide), by decide +kernel, List.all_eq_true.1 (by decide +kernel),
      by decide +kernel, by decide⟩
  let d : Span := ⟨213503982334601 * 86400 * 1000000000, by decide⟩
  obtain ⟨read, -, -, lasts⟩ := spelled_spans_are_read "\u2003213503982334601D\u00a0"
  have parsed := (read d).2
    ⟨213503982334601, .day, spelled, by decide, by decide, by decide, by decide, by decide⟩
  refine ⟨⟨d, parsed, by decide, lasts d parsed⟩, ?_⟩
  exact (spelled_spans_are_read "\u0663s").2.2.1 '\u0663' (by decide +kernel) (by decide +kernel)
    (by decide)

end SecretSync.Span
