import SecretSync.Text.Blank
import SecretSync.Text.Decimal
import Mathlib.Data.List.TakeWhile
import Mathlib.Tactic.SplitIfs

namespace SecretSync.Text

section Digits

variable {c : Char}

theorem bounds_of_isDigit (digit : c.isDigit) : 48 ≤ c.toNat ∧ c.toNat ≤ 57 := by
  rw [Char.isDigit, Bool.and_eq_true, decide_eq_true_eq, decide_eq_true_eq] at digit
  exact ⟨UInt32.le_iff_toNat_le.1 digit.1, UInt32.le_iff_toNat_le.1 digit.2⟩

theorem isDigit_of_bounds (bounds : 48 ≤ c.toNat ∧ c.toNat ≤ 57) : c.isDigit := by
  rw [Char.isDigit, Bool.and_eq_true, decide_eq_true_eq, decide_eq_true_eq]
  exact ⟨UInt32.le_iff_toNat_le.2 bounds.1, UInt32.le_iff_toNat_le.2 bounds.2⟩

theorem isBlank_of_isDigit (digit : c.isDigit) : isBlank c = false := by
  have bounds := bounds_of_isDigit digit
  simp only [isBlank, Bool.or_eq_false_iff, Bool.and_eq_false_iff, decide_eq_false_iff_not,
    beq_eq_false_iff_ne]
  omega

theorem digit?_of_isDigit (digit : c.isDigit) : digit? c = some (c.toNat - '0'.toNat) :=
  if_pos (bounds_of_isDigit digit)

theorem digit?_eq_none (other : c.isDigit = false) : digit? c = none :=
  if_neg fun bounds => Bool.false_ne_true (other.symm.trans (isDigit_of_bounds bounds))

theorem isDecimalDigit_of_isDigit (digit : c.isDigit) : isDecimalDigit c := by
  have bounds := bounds_of_isDigit digit
  rw [isDecimalDigit, List.any_eq_true]
  exact ⟨0x30, List.mem_cons_self, by simp; omega⟩

theorem isBlank_of_isDecimalDigit (digit : isDecimalDigit c) : isBlank c = false := by
  have all : ∀ z ∈ zeros, ∀ k < 10, isBlank (Char.ofNat (z + k)) = false := by decide +kernel
  obtain ⟨z, script, bounds⟩ := List.any_eq_true.1 digit
  rw [Bool.and_eq_true, decide_eq_true_eq, decide_eq_true_eq] at bounds
  have here : z + (c.toNat - z) = c.toNat := by omega
  have solid := all z script (c.toNat - z) (by omega)
  rwa [here, Char.ofNat_toNat] at solid

theorem le_ofDigitChars (cs : List Char) (value : Nat) : value ≤ Nat.ofDigitChars 10 cs value := by
  induction cs generalizing value with
  | nil => exact Nat.le_refl value
  | cons c rest ih =>
    rw [Nat.ofDigitChars_cons]
    have later := ih (10 * value + (c.toNat - '0'.toNat))
    omega

/-- Digits are read if and only if all are ASCII digits and the number they make is below the bound:
on the way it only grows. -/
theorem readDigits_eq_ok {bound value n : Nat} {cs : List Char} (below : value < bound) :
    readDigits bound value cs = .ok n ↔
      (∀ c ∈ cs, c.isDigit) ∧ Nat.ofDigitChars 10 cs value = n ∧ n < bound := by
  induction cs generalizing value with
  | nil =>
    constructor
    · rintro ⟨⟩
      exact ⟨nofun, rfl, below⟩
    · rintro ⟨-, rfl, -⟩
      rfl
  | cons c rest ih =>
    rw [List.forall_mem_cons, readDigits]
    cases digit : c.isDigit with
    | false => simp [digit?_eq_none digit]
    | true =>
      rw [digit?_of_isDigit digit, Nat.ofDigitChars_cons, Nat.mul_comm 10 value]
      dsimp only
      split_ifs with fits
      · rw [ih fits]
        simp only [true_and]
      · have grows := le_ofDigitChars rest (value * 10 + (c.toNat - '0'.toNat))
        constructor
        · nofun
        · rintro ⟨-, rfl, most⟩
          omega

end Digits

section Numbers

variable {bound n : Nat} {text : String} {cs : List Char}

structure Digits (cs : List Char) (n : Nat) : Prop where
  filled : cs ≠ []
  ascii : ∀ c ∈ cs, c.isDigit
  value : Nat.ofDigitChars 10 cs 0 = n

/-- A text spells a number in ASCII digits, after a plus sign or without one. -/
def SpellsNat (text : String) (n : Nat) : Prop :=
  Digits text.toList n ∨ ∃ digits, text.toList = '+' :: digits ∧ Digits digits n

def SpellsMinus (text : String) (n : Nat) : Prop :=
  ∃ digits, text.toList = '-' :: digits ∧ Digits digits n

theorem Digits.head {c : Char} (h : Digits (c :: cs) n) : c.isDigit :=
  h.ascii c List.mem_cons_self

theorem readDigits_of_filled (pos : 0 < bound) (filled : cs ≠ []) :
    readDigits bound 0 cs = .ok n ↔ Digits cs n ∧ n < bound := by
  rw [readDigits_eq_ok pos]
  constructor
  · rintro ⟨ascii, value, below⟩
    exact ⟨⟨filled, ascii, value⟩, below⟩
  · rintro ⟨h, below⟩
    exact ⟨h.ascii, h.value, below⟩

theorem readNat_eq_ok (pos : 0 < bound) :
    readNat bound text.toList = .ok n ↔ SpellsNat text n ∧ n < bound := by
  unfold SpellsNat
  generalize text.toList = cs
  have signed (rest : List Char) : ¬ Digits ('+' :: rest) n := fun h => absurd h.head (by decide)
  unfold readNat
  split
  · constructor
    · nofun
    · rintro ⟨h | ⟨_, cut, -⟩, -⟩
      · exact absurd rfl h.filled
      · nomatch cut
  · constructor
    · nofun
    · rintro ⟨h | ⟨_, cut, h⟩, -⟩
      · exact absurd h (signed [])
      · cases cut
        exact absurd rfl h.filled
  · rename_i rest filled
    rw [readDigits_of_filled pos filled]
    simp [signed]
  · rename_i filled unsigned bare
    rw [readDigits_of_filled pos filled]
    constructor
    · exact fun ⟨h, below⟩ => ⟨.inl h, below⟩
    · rintro ⟨h | ⟨digits, cut, -⟩, below⟩
      · exact ⟨h, below⟩
      · exact absurd cut (bare digits)

theorem not_spellsNat_of_minus (signed : text.toList = '-' :: cs) : ¬ SpellsNat text n := by
  unfold SpellsNat
  rw [signed]
  rintro (h | ⟨_, cut, -⟩)
  · exact absurd h.head (by decide)
  · exact absurd (List.cons.inj cut).1 (by decide)

theorem readInt64_of_minus (signed : text.toList = '-' :: cs) {i : Int} :
    readInt64 text.toList = .ok i ↔ ∃ n : Nat, Digits cs n ∧ n ≤ Nat.pow 2 63 ∧ i = -n := by
  rw [signed]
  cases cs with
  | nil =>
    constructor
    · nofun
    · exact fun ⟨n, h, _⟩ => absurd rfl h.filled
  | cons c rest =>
    have read (n : Nat) : readDigits (Nat.pow 2 63 + 1) 0 (c :: rest) = .ok n ↔
        Digits (c :: rest) n ∧ n < Nat.pow 2 63 + 1 :=
      readDigits_of_filled (Nat.succ_pos _) (List.cons_ne_nil c rest)
    simp only [Nat.lt_succ_iff] at read
    rw [readInt64.eq_2 _ (by simp)]
    cases found : readDigits (Nat.pow 2 63 + 1) 0 (c :: rest) with
    | ok n =>
      obtain ⟨h, below⟩ := (read n).1 found
      constructor
      · rintro ⟨⟩
        exact ⟨n, h, below, rfl⟩
      · rintro ⟨m, h', -, rfl⟩
        rw [← h.value, h'.value]
    | error e =>
      constructor
      · cases e <;> nofun
      · rintro ⟨m, h, below, -⟩
        exact nomatch found.symm.trans ((read m).2 ⟨h, below⟩)

theorem readInt64_eq_ok {i : Int} : readInt64 text.toList = .ok i ↔
    (∃ n : Nat, SpellsNat text n ∧ n < Nat.pow 2 63 ∧ i = n) ∨
      ∃ n : Nat, SpellsMinus text n ∧ n ≤ Nat.pow 2 63 ∧ i = -n := by
  by_cases signed : ∃ cs, text.toList = '-' :: cs
  · obtain ⟨cs, signed⟩ := signed
    rw [readInt64_of_minus signed]
    have unsigned : ∀ n, ¬ SpellsNat text n := fun n => not_spellsNat_of_minus signed
    simp [unsigned, SpellsMinus, signed]
  · have bare : readInt64 text.toList = (readNat (Nat.pow 2 63) text.toList).map Int.ofNat :=
      readInt64.eq_3 _ (fun cut => signed ⟨_, cut⟩) fun rest cut => signed ⟨rest, cut⟩
    have unsigned : ∀ n, ¬ SpellsMinus text n := fun n ⟨cs, cut, _⟩ => signed ⟨cs, cut⟩
    rw [bare]
    cases found : readNat (Nat.pow 2 63) text.toList with
    | ok n =>
      obtain ⟨h, below⟩ := (readNat_eq_ok (by decide)).1 found
      constructor
      · rintro ⟨⟩
        exact .inl ⟨n, h, below, rfl⟩
      · rintro (⟨m, h', below, rfl⟩ | ⟨m, h', -⟩)
        · cases found.symm.trans ((readNat_eq_ok (by decide)).2 ⟨h', below⟩)
          rfl
        · exact absurd h' (unsigned m)
    | error e =>
      constructor
      · nofun
      · rintro (⟨m, h', below, -⟩ | ⟨m, h', -⟩)
        · exact nomatch found.symm.trans ((readNat_eq_ok (by decide)).2 ⟨h', below⟩)
        · exact absurd h' (unsigned m)

end Numbers

section Blanks

variable {before after rest : List Char} {c : Char}

theorem dropWhile_isBlank (blank : ∀ c ∈ before, isBlank c) (solid : isBlank c = false) :
    (before ++ c :: rest).dropWhile isBlank = c :: rest := by
  rw [List.dropWhile_append_of_pos blank, List.dropWhile_cons, solid]
  rfl

theorem trimChars_between {first last : Char} {inner : List Char} (front : ∀ c ∈ before, isBlank c)
    (back : ∀ c ∈ after, isBlank c) (firstSolid : isBlank first = false)
    (lastSolid : isBlank last = false) :
    trimChars (before ++ first :: inner ++ last :: after) = first :: inner ++ [last] := by
  have reversed : (first :: inner ++ last :: after).reverse =
      after.reverse ++ last :: (first :: inner).reverse := by simp
  have back' : ∀ c ∈ after.reverse, isBlank c := by simpa using back
  rw [trimChars, List.append_assoc, List.cons_append, dropWhile_isBlank front firstSolid,
    dropBlankEnd, ← List.cons_append, reversed, dropWhile_isBlank back' lastSolid]
  simp

theorem exists_of_trimChars (cs : List Char) :
    ∃ before after, cs = before ++ trimChars cs ++ after ∧
      (∀ c ∈ before, isBlank c) ∧ ∀ c ∈ after, isBlank c := by
  let rest := cs.dropWhile isBlank
  have front : cs.takeWhile isBlank ++ rest = cs := List.takeWhile_append_dropWhile
  have back : trimChars cs ++ (rest.reverse.takeWhile isBlank).reverse = rest := by
    rw [trimChars, dropBlankEnd, ← List.reverse_append, List.takeWhile_append_dropWhile,
      List.reverse_reverse]
  refine ⟨cs.takeWhile isBlank, (rest.reverse.takeWhile isBlank).reverse, ?_, ?_, ?_⟩
  · rw [List.append_assoc, back, front]
  · exact fun c inside => List.mem_takeWhile_imp inside
  · exact fun c inside => List.mem_takeWhile_imp (List.mem_reverse.1 inside)

end Blanks

end SecretSync.Text
