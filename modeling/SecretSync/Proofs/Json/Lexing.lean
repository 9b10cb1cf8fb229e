import SecretSync.Json.Reader
import SecretSync.Json.Writer
import SecretSync.Proofs.Text.Decimal
import SecretSync.Proofs.Text.Encoding
import Mathlib.Data.List.Forall2

namespace SecretSync.Json

mutual

/-- Whether a value is read back as it is: every part can be read, and all numbers are whole ones
of 64 bits. -/
def plain : Json → Bool
  | .real _ | .unreadable => false
  | .whole n => -Nat.pow 2 63 ≤ n ∧ n < Nat.pow 2 64
  | .array items => plainItems items
  | .object members => plainMembers members
  | _ => true

def plainItems : List Json → Bool
  | [] => true
  | j :: rest => j.plain && plainItems rest

def plainMembers : List (String × Json) → Bool
  | [] => true
  | (_, j) :: rest => j.plain && plainMembers rest

end

mutual

def tokens : Json → List Token
  | .string s => [.text (some s)]
  | .array items => .openArray :: [.comma].intercalate (tokensOfItems items) ++ [.closeArray]
  | .object members =>
    .openObject :: [.comma].intercalate (tokensOfMembers members) ++ [.closeObject]
  | j => [.literal j]

def tokensOfItems : List Json → List (List Token)
  | [] => []
  | j :: rest => j.tokens :: tokensOfItems rest

def tokensOfMembers : List (String × Json) → List (List Token)
  | [] => []
  | (k, j) :: rest => (.text (some k) :: .colon :: j.tokens) :: tokensOfMembers rest

end

namespace Lexer

variable {c : Char} {cs rest : List Char} {found : List Token} {read : List Nat}

/-- A number or a word ends here. -/
def Ends (rest : List Char) : Prop := ∀ c ∈ rest.head?, isNumberPart c = false ∧ c.isLower = false

/-- A text is cut into some tokens wherever numbers and words end behind it. -/
def Lexes (text : List Char) (ts : List Token) : Prop :=
  ∀ found rest, Ends rest → run .idle found (text ++ rest) = run .idle (ts.reverse ++ found) rest

section Strings

theorem code_not_half (c : Char) : isLow c.toNat = false ∧ isHigh c.toNat = false := by
  have valid := Text.Utf8.code_valid c
  change c.toNat < 0xD800 ∨ 0xDFFF < c.toNat ∧ c.toNat < 0x110000 at valid
  simp only [isLow, isHigh, Bool.and_eq_false_iff, decide_eq_false_iff_not]
  omega

theorem characters?_codes (found cs : List Char) :
    characters? found (cs.map Char.toNat) = some (cs.reverse ++ found) := by
  induction cs generalizing found with
  | nil => rfl
  | cons c rest ih =>
    obtain ⟨low, high⟩ := code_not_half c
    rw [List.map_cons, characters?.eq_def]
    simp [low, high, ih]

theorem hexDigits_small : ∀ n < 32,
    (hexDigits n).map hexValue? = [some 0, some 0, some (n / 16), some (n % 16)] := by
  decide +kernel

theorem run_hexDigits {n : Nat} (small : n < 32) (rest : List Char) :
    run (.unit read 0 0) found (hexDigits n ++ rest) = run (.text (n :: read)) found rest := by
  have digits := hexDigits_small n small
  simp only [List.map_eq_cons_iff, List.map_eq_nil_iff] at digits
  obtain ⟨a, _, whole, ha, b, _, rfl, hb, c, _, rfl, hc, d, _, rfl, hd, rfl⟩ := digits
  have value : (n / 16) * 16 + n % 16 = n := by omega
  rw [whole]
  simp [run, step, ha, hb, hc, hd, value]

/-- An escaped character is read as its code. -/
theorem run_escapeChar (c : Char) (rest : List Char) :
    run (.text read) found (escapeChar c ++ rest) = run (.text (c.toNat :: read)) found rest := by
  unfold escapeChar
  split_ifs with quote slash back feed line tab cr control
  · subst quote; rfl
  · subst slash; rfl
  · subst back; rfl
  · subst feed; rfl
  · subst line; rfl
  · subst tab; rfl
  · subst cr; rfl
  · exact run_hexDigits control rest
  · simp [run, step, quote, slash, control]

theorem run_escaped (cs rest : List Char) :
    run (.text read) found (cs.flatMap escapeChar ++ rest) =
      run (.text ((cs.map Char.toNat).reverse ++ read)) found rest := by
  induction cs generalizing read with
  | nil => rfl
  | cons c cs ih =>
    rw [List.flatMap_cons, List.append_assoc, run_escapeChar, ih]
    simp

theorem run_writeString (s : String) (rest : List Char) : run .idle found
    ((writeString s).toList ++ rest) = run .idle (.text (some s) :: found) rest := by
  have opened : run .idle found ((writeString s).toList ++ rest) =
      run (.text []) found (s.toList.flatMap escapeChar ++ '"' :: rest) := by
    rw [writeString, String.toList_ofList]
    simp [run, step, start]
  have codes : characters? [] (s.toList.map Char.toNat).reverse = some s.toList := by
    rw [← List.map_reverse, characters?_codes]
    simp
  rw [opened, run_escaped, List.append_nil]
  simp [run, step, codes]

end Strings

section Literals

/-- A state that gathers the characters of a literal while they are parts of it, and then reads what
it has gathered. -/
structure Gathers (state : List Char → State) (part : Char → Bool)
    (value? : List Char → Option Json) : Prop where
  more : ∀ {read : List Char} {c : Char}, part c → step (state read) c = some ([], state (c :: read))
  next : ∀ {read : List Char} {j : Json} {c : Char}, value? read.reverse = some j →
    isNumberPart c = false → c.isLower = false →
      step (state read) c = (start c).map fun r => (.literal j :: r.1, r.2)
  last : ∀ {read : List Char} {j : Json}, value? read.reverse = some j →
    finish (state read) = some [.literal j]

theorem gathers_word : Gathers .word Char.isLower word? where
  more letter := by simp only [step, letter, if_true]
  next {_ _ c} spelled _ word := by
    simp only [step, word, spelled, Bool.false_eq_true, if_false]
    cases start c <;> rfl
  last spelled := by simp [finish, spelled]

theorem gathers_number : Gathers .number isNumberPart number? where
  more part := by simp only [step, part, if_true]
  next {_ _ c} spelled number _ := by
    simp only [step, number, spelled, Bool.false_eq_true, if_false]
    cases start c <;> rfl
  last spelled := by simp [finish, spelled]

section Gathers

variable {state : List Char → State} {part : Char → Bool} {value? : List Char → Option Json}
  {read : List Char} {j : Json}

theorem Gathers.run_parts (gathers : Gathers state part value?) (parts : ∀ c ∈ cs, part c)
    (rest : List Char) :
    run (state read) found (cs ++ rest) = run (state (cs.reverse ++ read)) found rest := by
  induction cs generalizing read with
  | nil => rfl
  | cons c cs ih =>
    obtain ⟨here, later⟩ := List.forall_mem_cons.1 parts
    rw [List.cons_append, run, gathers.more here]
    dsimp only
    rw [List.reverse_nil, List.nil_append, ih later, List.reverse_cons, List.append_assoc]
    rfl

theorem Gathers.run_ended (gathers : Gathers state part value?)
    (spelled : value? read.reverse = some j) (ends : Ends rest) :
    run (state read) found rest = run .idle (.literal j :: found) rest := by
  cases rest with
  | nil =>
    have none : finish .idle = some [] := rfl
    rw [run, run, gathers.last spelled, none]
    simp
  | cons c rest =>
    obtain ⟨number, word⟩ := ends c rfl
    have here : step .idle c = start c := rfl
    rw [run, run, here, gathers.next spelled number word]
    cases start c <;> simp

theorem Gathers.lexes (gathers : Gathers state part value?) (spelled : value? (c :: cs) = some j)
    (first : start c = some ([], state [c])) (parts : ∀ d ∈ cs, part d) :
    Lexes (c :: cs) [.literal j] := by
  intro found rest ends
  have opened : run .idle found (c :: cs ++ rest) = run (state [c]) found (cs ++ rest) := by
    simp [run, step, first]
  rw [opened, gathers.run_parts parts, gathers.run_ended (by simpa using spelled) ends]
  rfl

end Gathers

theorem start_digit (digit : c.isDigit) : start c = some ([], .number [c]) := by
  have other : ∀ d : Char, d.isDigit = false → (c == d) = false := by
    intro d none
    rw [beq_eq_false_iff_ne]
    rintro rfl
    exact Bool.false_ne_true (none.symm.trans digit)
  simp [start, other, isNumberPart, digit]

def sign (negative : Bool) : List Char := if negative then ['-'] else []

theorem number?_digits {ds : List Char} (digits : ∀ c ∈ ds, c.isDigit) (filled : ds ≠ [])
    (lone : ds.head? = some '0' → ds.length = 1) (negative : Bool) :
    number? (sign negative ++ ds) = some (whole negative ds) := by
  have all : ds.takeWhile Char.isDigit = ds := List.takeWhile_eq_self_iff.2 digits
  have none : ds.dropWhile Char.isDigit = [] := List.dropWhile_eq_nil_iff.2 digits
  have nonempty : ds.isEmpty = false := List.isEmpty_eq_false_iff.2 filled
  have noZero : (ds.head? == some '0' && decide (1 < ds.length)) = false := by
    rw [Bool.and_eq_false_iff, beq_eq_false_iff_ne, decide_eq_false_iff_not]
    by_cases zero : ds.head? = some '0'
    · exact .inr (by rw [lone zero]; decide)
    · exact .inl zero
  cases negative with
  | true => simp [sign, number?, all, none, nonempty, noZero]
  | false =>
    unfold number?
    split
    rename_i minus rest signed
    split at signed
    · rename_i tail dash
      have begins : ds = '-' :: tail := dash
      exact absurd (digits '-' (begins ▸ List.mem_cons_self)) (by decide)
    · cases signed
      simp [sign, all, none, nonempty, noZero]

theorem exists_toDigits (n : Nat) : ∃ c cs, Nat.toDigits 10 n = c :: cs :=
  List.exists_cons_of_ne_nil Nat.toDigits_ne_nil

theorem head?_toDigits {n : Nat} (pos : 0 < n) : (Nat.toDigits 10 n).head? ≠ some '0' := by
  induction n using Nat.strongRecOn with
  | ind n ih =>
    rw [Nat.toDigits_eq_if (by decide)]
    split_ifs with small
    · have each : ∀ n < 10, 0 < n → [n.digitChar].head? ≠ some '0' := by decide
      exact each n small pos
    · have front := ih (n / 10) (by omega) (by omega)
      obtain ⟨c, cs, digits⟩ := exists_toDigits (n / 10)
      rw [digits] at front ⊢
      exact front

theorem lone_zero (n : Nat) (zero : (Nat.toDigits 10 n).head? = some '0') :
    (Nat.toDigits 10 n).length = 1 := by
  cases n with
  | zero => rfl
  | succ n => exact absurd zero (head?_toDigits (Nat.succ_pos n))

theorem digitsValue_toDigits (n : Nat) : digitsValue (Nat.toDigits 10 n) = n := by
  have turned : (fun n (c : Char) => n * 10 + (c.toNat - 48)) =
      fun n c => 10 * n + (c.toNat - '0'.toNat) := by
    funext n c
    rw [Nat.mul_comm]
    rfl
  rw [digitsValue, turned]
  exact Nat.ofDigitChars_ten_toDigits

theorem isDigit_toDigits (n : Nat) : ∀ c ∈ Nat.toDigits 10 n, c.isDigit := fun _ inside =>
  Nat.isDigit_of_mem_toDigits (by decide) (by decide) inside

theorem toList_toString (n : Int) :
    (toString n).toList = sign (n < 0) ++ Nat.toDigits 10 n.natAbs := by
  cases n with
  | ofNat m => exact Nat.toList_repr
  | negSucc m =>
    change ("-" ++ m.succ.repr).toList = _
    simp [sign]

theorem whole_toDigits {n : Int} (low : -Nat.pow 2 63 ≤ n) (high : n < Nat.pow 2 64) :
    whole (n < 0) (Nat.toDigits 10 n.natAbs) = .whole n := by
  rw [whole, digitsValue_toDigits]
  cases n with
  | ofNat m =>
    have plus : decide (Int.ofNat m < 0) = false := decide_eq_false (by simp)
    have fits : m < UInt64.size := Int.ofNat_lt.1 high
    rw [plus]
    exact if_pos fits
  | negSucc m =>
    have fits : m + 1 ≤ Nat.pow 2 63 := by omega
    rw [if_pos (decide_eq_true (Int.negSucc_lt_zero m)), Int.natAbs_negSucc,
      if_neg (Nat.succ_ne_zero m), if_pos fits]
    rfl

/-- The digits of a number of 64 bits are read as the number. -/
theorem lexes_whole {n : Int} (low : -Nat.pow 2 63 ≤ n) (high : n < Nat.pow 2 64) :
    Lexes (toString n).toList [.literal (.whole n)] := by
  have digits := isDigit_toDigits n.natAbs
  have parts : ∀ c ∈ Nat.toDigits 10 n.natAbs, isNumberPart c := fun c inside => by
    simp [isNumberPart, digits c inside]
  have spelled := number?_digits digits Nat.toDigits_ne_nil (lone_zero n.natAbs) (n < 0)
  rw [whole_toDigits low high] at spelled
  rw [toList_toString]
  cases negative : decide (n < 0) with
  | true =>
    rw [negative] at spelled
    exact gathers_number.lexes spelled rfl parts
  | false =>
    rw [negative] at spelled
    obtain ⟨c, cs, split⟩ := exists_toDigits n.natAbs
    rw [split] at digits parts spelled ⊢
    exact gathers_number.lexes spelled (start_digit (digits c List.mem_cons_self))
      fun d inside => parts d (List.mem_cons_of_mem _ inside)

theorem lexes_word {j : Json} (spelled : word? (c :: cs) = some j)
    (first : start c = some ([], .word [c])) (letters : cs.all Char.isLower) :
    Lexes (c :: cs) [.literal j] :=
  gathers_word.lexes spelled first (List.all_eq_true.1 letters)

end Literals

section Values

variable {text more : List Char} {t : Token} {ts us : List Token}

theorem lexes_nil : Lexes [] [] := fun _ _ _ => rfl

theorem lexes_cons (mark : start c = some ([t], .idle)) (later : Lexes more us) :
    Lexes (c :: more) (t :: us) := by
  intro found rest ends
  have first : run .idle found (c :: more ++ rest) = run .idle (t :: found) (more ++ rest) := by
    simp [run, step, mark]
  rw [first, later _ _ ends]
  simp

theorem lexes_append (first : Lexes text ts) (later : Lexes more us)
    (ends : ∀ rest, Ends (more ++ rest)) : Lexes (text ++ more) (ts ++ us) := by
  intro found rest behind
  rw [List.append_assoc, first _ _ (ends rest), later _ _ behind, List.reverse_append,
    List.append_assoc]

theorem ends_cons (mark : isNumberPart c = false ∧ c.isLower = false) (rest : List Char) :
    Ends (c :: rest) := by
  rintro _ ⟨⟩
  exact mark

theorem lexes_string (s : String) : Lexes (writeString s).toList [.text (some s)] :=
  fun _ rest _ => run_writeString s rest

theorem lexes_intercalate {texts : List (List Char)} {tss : List (List Token)}
    (each : List.Forall₂ Lexes texts tss) :
    Lexes ([','].intercalate texts) ([.comma].intercalate tss) := by
  induction each with
  | nil => exact lexes_nil
  | cons first later ih =>
    cases later with
    | nil => simpa using first
    | cons second later =>
      rw [List.intercalate_cons_cons, List.intercalate_cons_cons, List.append_assoc,
        List.append_assoc]
      exact lexes_append first (lexes_cons rfl ih) fun rest => ends_cons (by decide) _

theorem lexes_between {opening closing : Char} {o c : Token}
    (opens : start opening = some ([o], .idle)) (closes : start closing = some ([c], .idle))
    (ends : isNumberPart closing = false ∧ closing.isLower = false) (inner : Lexes text ts) :
    Lexes (opening :: text ++ [closing]) (o :: ts ++ [c]) :=
  lexes_cons opens (lexes_append inner (lexes_cons closes lexes_nil) fun _ => ends_cons ends _)

end Values

end Lexer

open Lexer

mutual

theorem lexes_write : ∀ j : Json, j.plain → Lexes j.write.toList j.tokens
  | .null, _ => lexes_word rfl rfl rfl
  | .bool true, _ => lexes_word rfl rfl rfl
  | .bool false, _ => lexes_word rfl rfl rfl
  | .whole n, bounds => by
    rw [plain, decide_eq_true_eq] at bounds
    exact lexes_whole bounds.1 bounds.2
  | .string s, _ => lexes_string s
  | .array items, every => by
    rw [plain] at every
    have text : (write (.array items)).toList =
        '[' :: [','].intercalate ((writeItems items).map String.toList) ++ [']'] := by
      rw [write, String.toList_append, String.toList_append, String.toList_intercalate]
      rfl
    rw [text, tokens]
    exact lexes_between rfl rfl (by decide) (lexes_intercalate (lexes_items items every))
  | .object members, every => by
    rw [plain] at every
    have text : (write (.object members)).toList =
        '\x7b' :: [','].intercalate ((writeMembers members).map String.toList) ++ ['\x7d'] := by
      rw [write, String.toList_append, String.toList_append, String.toList_intercalate]
      rfl
    rw [text, tokens]
    exact lexes_between rfl rfl (by decide) (lexes_intercalate (lexes_members members every))

theorem lexes_items : ∀ items : List Json, plainItems items →
    List.Forall₂ Lexes ((writeItems items).map String.toList) (tokensOfItems items)
  | [], _ => .nil
  | j :: rest, every => by
    rw [plainItems, Bool.and_eq_true] at every
    exact .cons (lexes_write j every.1) (lexes_items rest every.2)

theorem lexes_members : ∀ members : List (String × Json), plainMembers members →
    List.Forall₂ Lexes ((writeMembers members).map String.toList) (tokensOfMembers members)
  | [], _ => .nil
  | (k, j) :: rest, every => by
    rw [plainMembers, Bool.and_eq_true] at every
    have text : (writeString k ++ ":" ++ j.write).toList =
        (writeString k).toList ++ ':' :: j.write.toList := by
      simp
    rw [writeMembers, List.map_cons, text, tokensOfMembers]
    exact .cons (lexes_append (lexes_string k) (lexes_cons rfl (lexes_write j every.1))
      fun _ => ends_cons (by decide) _) (lexes_members rest every.2)

end

end SecretSync.Json
