import SecretSync.Text.Base64

namespace SecretSync.Text.Base64

theorem value?_letter {n : Nat} (small : n < 64) : value? (letter n) = some n := by
  revert n
  decide

theorem letter_ne_padding {n : Nat} (small : n < 64) : letter n ≠ '=' := by
  revert n
  decide

theorem ofNat_eq {n : Nat} {a : UInt8} (same : n = a.toNat) : UInt8.ofNat n = a := by
  rw [same, UInt8.ofNat_toNat]

theorem decodeChars_one (a : UInt8) : decodeChars (encodeChars [a]) = some [a] := by
  have bound := a.toNat_lt
  rw [encodeChars, decodeChars, value?_letter (by omega), value?_letter (by omega)]
  change (if a.toNat % 4 * 16 % 16 = 0 then _ else _) = _
  rw [if_pos (by omega), ofNat_eq (a := a) (by omega)]

theorem decodeChars_two (a b : UInt8) : decodeChars (encodeChars [a, b]) = some [a, b] := by
  have boundA := a.toNat_lt
  have boundB := b.toNat_lt
  have full : letter (b.toNat % 16 * 4) ≠ '=' := letter_ne_padding (by omega)
  rw [encodeChars, decodeChars, value?_letter (by omega), value?_letter (by omega),
    value?_letter (by omega)]
  · change (if b.toNat % 16 * 4 % 4 = 0 then _ else _) = _
    rw [if_pos (by omega), ofNat_eq (a := a) (by omega), ofNat_eq (a := b) (by omega)]
  · exact full

theorem decodeChars_three (a b c : UInt8) (rest : Bytes) :
    decodeChars (encodeChars (a :: b :: c :: rest)) =
      (decodeChars (encodeChars rest)).map fun tail => a :: b :: c :: tail := by
  have boundA := a.toNat_lt
  have boundB := b.toNat_lt
  have boundC := c.toNat_lt
  have full : letter (c.toNat % 64) ≠ '=' := letter_ne_padding (by omega)
  rw [encodeChars, decodeChars, value?_letter (by omega), value?_letter (by omega),
    value?_letter (by omega), value?_letter (by omega)]
  · cases decodeChars (encodeChars rest) with
    | none => rfl
    | some tail =>
      change some (UInt8.ofNat _ :: UInt8.ofNat _ :: UInt8.ofNat _ :: tail) = _
      rw [ofNat_eq (a := a) (by omega), ofNat_eq (a := b) (by omega),
        ofNat_eq (a := c) (by omega)]
      rfl
  · exact fun _ last => absurd last full
  · exact fun last => absurd last full

/-- The groups of three, and then the short one. -/
theorem decodeChars_encodeChars (bytes : Bytes) : decodeChars (encodeChars bytes) = some bytes := by
  fun_induction encodeChars bytes with
  | case1 => rfl
  | case2 a => exact decodeChars_one a
  | case3 a b => exact decodeChars_two a b
  | case4 a b c rest ih =>
    have three := decodeChars_three a b c rest
    rw [encodeChars, ih] at three
    exact three

theorem decode?_encode (bytes : Bytes) : decode? (encode bytes) = some bytes := by
  rw [decode?, encode, String.toList_ofList, decodeChars_encodeChars]

end SecretSync.Text.Base64
