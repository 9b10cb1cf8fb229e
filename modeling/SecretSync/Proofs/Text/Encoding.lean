import SecretSync.Text.Utf8

/-!
Reading the bytes of a text gives the text back, strictly and with replacement characters alike.
The reader is a state machine on bytes: a first byte says how many follow and bounds the next one,
and the bytes of one character lead it from one start to the next.
-/
namespace SecretSync.Text.Utf8

theorem scan_start (b : UInt8) (rest : Bytes) :
    scan .start (b :: rest) = (first b.toNat).1 ++ scan (first b.toNat).2 rest := rfl

theorem toNat_ofNat_of_lt {n : Nat} (h : n < 256) : (UInt8.ofNat n).toNat = n := by
  rw [UInt8.toNat_ofNat']
  exact Nat.mod_eq_of_lt h

theorem toNat_tail (n : Nat) : (UInt8.ofNat (n % 0x40 + 0x80)).toNat = 0x80 + n % 64 :=
  (toNat_ofNat_of_lt (by omega)).trans (Nat.add_comm _ _)

theorem scan_last {low high bits : Nat} (n : Nat) (rest : Bytes)
    (above : low ≤ 0x80 + n % 64) (below : 0x80 + n % 64 ≤ high) :
    scan (.inside 0 low high bits) (UInt8.ofNat (n % 0x40 + 0x80) :: rest) =
      some (Char.ofNat (bits * 64 + n % 64)) :: scan .start rest := by
  have six : (0x80 + n % 64) % 64 = n % 64 := by omega
  simp only [scan, next, toNat_tail, if_pos (And.intro above below), List.cons_append,
    List.nil_append, six]

/-- A byte inside a character adds six bits and frees the bounds of the next one. -/
theorem scan_inside {left low high bits : Nat} (n : Nat) (rest : Bytes)
    (above : low ≤ 0x80 + n % 64) (below : 0x80 + n % 64 ≤ high) :
    scan (.inside (left + 1) low high bits) (UInt8.ofNat (n % 0x40 + 0x80) :: rest) =
      scan (.inside left 0x80 0xBF (bits * 64 + n % 64)) rest := by
  have six : (0x80 + n % 64) % 64 = n % 64 := by omega
  simp only [scan, next, toNat_tail, if_pos (And.intro above below), List.nil_append, six]

theorem first_one {n : Nat} (h : n < 0x80) : first n = ([some (Char.ofNat n)], .start) := by
  simp only [first, if_pos h]

theorem first_two {n : Nat} (low : 2 ≤ n) (high : n < 32) :
    first (0xC0 + n) = ([], .inside 0 0x80 0xBF n) := by
  unfold first
  rw [if_neg (by omega), if_neg (by omega), if_pos (by omega), Nat.add_sub_cancel_left]

/-- The bounds after the first of three bytes: none for a shorter form, none for a surrogate. -/
theorem first_three {n t : Nat} (h : n < 16) (ht : t < 64) (long : n = 0 → 32 ≤ t)
    (plain : n = 13 → t < 32) :
    ∃ low high, first (0xE0 + n) = ([], .inside 1 low high n) ∧
      low ≤ 0x80 + t ∧ 0x80 + t ≤ high := by
  unfold first
  by_cases zero : n = 0
  · subst zero
    exact ⟨0xA0, 0xBF, rfl, by omega, by omega⟩
  · by_cases surrogate : n = 13
    · subst surrogate
      exact ⟨0x80, 0x9F, rfl, by omega, by omega⟩
    · refine ⟨0x80, 0xBF, ?_, by omega, by omega⟩
      rw [if_neg (by omega), if_neg (by omega), if_neg (by omega), if_neg (by omega),
        if_neg (by omega), if_pos (by omega), Nat.add_sub_cancel_left]

/-- The bounds after the first of four bytes: none for a shorter form, none past the last plane. -/
theorem first_four {n t : Nat} (h : n < 5) (ht : t < 64) (long : n = 0 → 16 ≤ t)
    (last : n = 4 → t < 16) :
    ∃ low high, first (0xF0 + n) = ([], .inside 2 low high n) ∧
      low ≤ 0x80 + t ∧ 0x80 + t ≤ high := by
  unfold first
  by_cases zero : n = 0
  · subst zero
    exact ⟨0x90, 0xBF, rfl, by omega, by omega⟩
  · by_cases four : n = 4
    · subst four
      exact ⟨0x80, 0x8F, rfl, by omega, by omega⟩
    · refine ⟨0x80, 0xBF, ?_, by omega, by omega⟩
      rw [if_neg (by omega), if_neg (by omega), if_neg (by omega), if_neg (by omega),
        if_neg (by omega), if_neg (by omega), if_neg (by omega), if_pos (by omega),
        Nat.add_sub_cancel_left]

theorem code_valid (c : Char) :
    c.val.toNat < 0xD800 ∨ 0xDFFF < c.val.toNat ∧ c.val.toNat < 0x110000 := by
  simpa [UInt32.isValidChar, Nat.isValidChar] using c.valid

/-- One case per length of a character: its bytes lead the reader from one start to the next. -/
theorem scan_char (c : Char) (rest : Bytes) :
    scan .start (String.utf8EncodeChar c ++ rest) = some c :: scan .start rest := by
  have valid := code_valid c
  have back : Char.ofNat c.val.toNat = c := Char.ofNat_toNat c
  unfold String.utf8EncodeChar
  generalize c.val.toNat = v at valid back
  dsimp only
  split
  · rename_i one
    rw [List.cons_append, List.nil_append, scan_start, toNat_ofNat_of_lt (by omega),
      first_one (by omega), back]
    rfl
  split
  · rename_i one two
    have lead : (UInt8.ofNat (v / 64 % 0x20 + 0xc0)).toNat = 0xC0 + v / 64 := by
      rw [toNat_ofNat_of_lt (by omega)]
      omega
    have code : v / 64 * 64 + v % 64 = v := by omega
    simp only [List.cons_append, List.nil_append]
    rw [scan_start, lead, first_two (by omega) (by omega), List.nil_append,
      scan_last v rest (by omega) (by omega), code, back]
  split
  · rename_i one two three
    have lead : (UInt8.ofNat (v / 4096 % 0x10 + 0xe0)).toNat = 0xE0 + v / 4096 := by
      rw [toNat_ofNat_of_lt (by omega)]
      omega
    have code : (v / 4096 * 64 + v / 64 % 64) * 64 + v % 64 = v := by omega
    obtain ⟨low, high, start, above, below⟩ := first_three (n := v / 4096) (t := v / 64 % 64)
      (by omega) (by omega) (by omega) (by omega)
    simp only [List.cons_append, List.nil_append]
    rw [scan_start, lead, start, List.nil_append, scan_inside (v / 64) _ above below,
      scan_last v rest (by omega) (by omega), code, back]
  · rename_i one two three
    have lead : (UInt8.ofNat (v / 262144 % 0x08 + 0xf0)).toNat = 0xF0 + v / 262144 := by
      rw [toNat_ofNat_of_lt (by omega)]
      omega
    have code :
        ((v / 262144 * 64 + v / 4096 % 64) * 64 + v / 64 % 64) * 64 + v % 64 = v := by omega
    obtain ⟨low, high, start, above, below⟩ := first_four (n := v / 262144) (t := v / 4096 % 64)
      (by omega) (by omega) (by omega) (by omega)
    simp only [List.cons_append, List.nil_append]
    rw [scan_start, lead, start, List.nil_append, scan_inside (v / 4096) _ above below,
      scan_inside (v / 64) _ (by omega) (by omega), scan_last v rest (by omega) (by omega), code,
      back]

theorem scan_chars (cs : List Char) :
    scan .start (cs.flatMap String.utf8EncodeChar) = cs.map some := by
  induction cs with
  | nil => rfl
  | cons c cs ih => rw [List.flatMap_cons, scan_char, ih, List.map_cons]

theorem units_encode (s : String) : units (encode s) = s.toList.map some := scan_chars s.toList

theorem decodeLossy_encode (s : String) : decodeLossy (encode s) = s := by
  have kept : (fun u : Option Char => u.getD '\uFFFD') ∘ some = id := rfl
  rw [decodeLossy, units_encode, List.map_map, kept, List.map_id, String.ofList_toList]

end SecretSync.Text.Utf8
