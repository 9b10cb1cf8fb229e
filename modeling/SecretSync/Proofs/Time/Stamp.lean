import SecretSync.Proofs.Text.Decimal
import SecretSync.Proofs.Time.Calendar

namespace SecretSync.Moment

open Text (digit?_of_isDigit isBlank_of_isDigit)

namespace Stamp

section Digits

variable {c : Char} {n : Nat}

structure Numeral (n : Nat) (cs : List Char) : Prop where
  digits : ∀ c ∈ cs, c.isDigit
  value : digitsValue cs = n
  length_pos : 0 < cs.length

theorem digitsValue_eq {cs : List Char} (digits : ∀ c ∈ cs, c.isDigit) :
    digitsValue cs = Nat.ofDigitChars 10 cs 0 := by
  have onward : ∀ start, cs.foldl (fun n c => n * 10 + (Text.digit? c).getD 0) start =
      Nat.ofDigitChars 10 cs start := by
    induction cs with
    | nil => exact fun _ => rfl
    | cons c rest ih =>
      intro start
      obtain ⟨first, later⟩ := List.forall_mem_cons.1 digits
      rw [List.foldl_cons, digit?_of_isDigit first, Nat.ofDigitChars_cons, ih later,
        Nat.mul_comm start 10]
      rfl
  exact onward 0

theorem toList_pad (width n : Nat) : (Text.pad width n).toList =
    List.replicate (width - (Nat.toDigits 10 n).length) '0' ++ Nat.toDigits 10 n := by
  simp only [Text.pad, Nat.toString_eq_ofList_toDigits, String.toList_append, String.toList_ofList,
    String.length_ofList]

theorem numeral_pad (width n : Nat) : Numeral n (Text.pad width n).toList := by
  have digits : ∀ c ∈ (Text.pad width n).toList, c.isDigit := by
    rw [toList_pad]
    intro c inside
    obtain zero | inside := List.mem_append.1 inside
    · rw [List.eq_of_mem_replicate zero]
      rfl
    · exact Nat.isDigit_of_mem_toDigits (by decide) (by decide) inside
  refine ⟨digits, ?_, ?_⟩
  · rw [digitsValue_eq digits, toList_pad, Nat.ofDigitChars_append, Nat.ofDigitChars_replicate_zero,
      Nat.mul_zero, Nat.ofDigitChars_ten_toDigits]
  · rw [toList_pad, List.length_append]
    exact Nat.add_pos_right _ Nat.length_toDigits_pos

theorem length_pad {width : Nat} (fits : n < Nat.pow 10 width) (wide : 0 < width) :
    (Text.pad width n).toList.length = width := by
  have short := (Nat.length_toDigits_le_iff (by decide) wide).2 fits
  rw [toList_pad, List.length_append, List.length_replicate]
  omega

end Digits

section Parts

variable {n width : Nat} {cs rest : List Char}

theorem Numeral.skipBlanks (numeral : Numeral n cs) : skipBlanks (cs ++ rest) = cs ++ rest := by
  obtain ⟨c, others, rfl⟩ := List.exists_cons_of_length_pos numeral.length_pos
  have digit := numeral.digits c List.mem_cons_self
  rw [Stamp.skipBlanks, List.cons_append, List.dropWhile_cons, isBlank_of_isDigit digit]
  rfl

theorem Numeral.number? (numeral : Numeral n cs) : number? cs = some n := by
  have some : cs.isEmpty = false := by
    rw [← Bool.not_eq_true, List.isEmpty_iff_length_eq_zero]
    exact Nat.ne_of_gt numeral.length_pos
  rw [Stamp.number?, some, numeral.value]
  rfl

theorem Numeral.takeWhile (numeral : Numeral n cs) : cs.takeWhile Char.isDigit = cs := by
  have whole : (cs ++ []).takeWhile Char.isDigit = cs ++ [] :=
    List.takeWhile_append_of_pos numeral.digits
  rwa [List.append_nil] at whole

theorem Numeral.take (numeral : Numeral n cs) (full : cs.length = width) :
    ((cs ++ rest).take width).takeWhile Char.isDigit = cs := by
  rw [List.take_left' full, numeral.takeWhile]

theorem Numeral.takeWhile_stop (numeral : Numeral n cs) (rest : List Char) {c : Char}
    (stop : c.isDigit = false) :
    (cs ++ c :: rest).takeWhile Char.isDigit = cs ∧
      (cs ++ c :: rest).dropWhile Char.isDigit = c :: rest := by
  rw [List.takeWhile_append_of_pos numeral.digits, List.dropWhile_append_of_pos numeral.digits,
    List.takeWhile_cons, List.dropWhile_cons, stop]
  exact ⟨List.append_nil _, rfl⟩

theorem part?_pad {low high : Nat} (least : low ≤ n) (most : n ≤ high) (fits : n < 100) :
    part? low high ((Text.pad 2 n).toList ++ rest) = some (n, rest) := by
  have numeral := numeral_pad 2 n
  have full : (Text.pad 2 n).toList.length = 2 := length_pad fits (by decide)
  simp only [part?, numeral.skipBlanks, numeral.take full, numeral.number?, List.drop_left]
  exact if_pos ⟨least, most⟩

theorem separator?_cons {c : Char} (solid : Text.isBlank c = false) :
    separator? c (c :: rest) = some rest := by
  rw [separator?, skipBlanks, List.dropWhile_cons, solid]
  exact if_pos rfl

theorem year?_render (year : Int) :
    year? ((renderYear year).toList ++ '-' :: rest) = some (year, '-' :: rest) := by
  have stop : ('-').isDigit = false := rfl
  have numeral := numeral_pad 4 year.natAbs
  obtain ⟨taken, left⟩ := numeral.takeWhile_stop rest stop
  by_cases past : year < 0
  · have text : (renderYear year).toList ++ '-' :: rest =
        '-' :: ((Text.pad 4 year.natAbs).toList ++ '-' :: rest) := by
      rw [renderYear, if_pos past, String.toList_append]
      rfl
    have value : -(year.natAbs : Int) = year := by omega
    rw [text]
    change (do
      let n ← number? (List.takeWhile Char.isDigit _)
      some (-(n : Int), List.dropWhile Char.isDigit _)) = _
    rw [taken, left, numeral.number?]
    exact congrArg (fun y => some (y, '-' :: rest)) value
  have value : (year.natAbs : Int) = year := by omega
  by_cases short : year ≤ 9999
  · have fits : year.natAbs < 10000 := by omega
    have full : (Text.pad 4 year.natAbs).toList.length = 4 := length_pad fits (by decide)
    have signless : ∀ c later, (Text.pad 4 year.natAbs).toList ++ '-' :: rest = c :: later →
        c.isDigit := by
      intro c later same
      obtain ⟨d, others, cons⟩ := List.exists_cons_of_length_pos numeral.length_pos
      have digit := numeral.digits d (cons ▸ List.mem_cons_self)
      rw [cons] at same
      cases same
      exact digit
    rw [renderYear, if_neg past, if_pos short, year?, numeral.skipBlanks]
    split
    · next same => exact absurd (signless _ _ same) (by decide)
    · next same => exact absurd (signless _ _ same) (by decide)
    · simp only [numeral.take full, numeral.number?, List.drop_left]
      exact congrArg (fun y => some (y, '-' :: rest)) value
  · have text : (renderYear year).toList ++ '-' :: rest =
        '+' :: ((Text.pad 4 year.natAbs).toList ++ '-' :: rest) := by
      rw [renderYear, if_neg past, if_neg short, String.toList_append]
      rfl
    rw [text]
    change (do
      let n ← number? (List.takeWhile Char.isDigit _)
      some ((n : Int), List.dropWhile Char.isDigit _)) = _
    rw [taken, left, numeral.number?]
    exact congrArg (fun y => some (y, '-' :: rest)) value

end Parts

def dateText (d : Date) : List Char :=
  (renderYear d.year).toList ++ '-' :: ((Text.pad 2 d.month).toList ++ '-' ::
    (Text.pad 2 d.day).toList)

theorem date?_dateText {day : Int} {d : Date} (dated : d = dateOfDay day)
    (least : -262143 ≤ d.year) (most : d.year ≤ 262142) (rest : List Char) :
    date? (dateText d ++ rest) = some (d, rest) := by
  obtain ⟨⟨month, months⟩, first, days⟩ : (1 ≤ d.month ∧ d.month ≤ 12) ∧ 1 ≤ d.day ∧ d.day ≤ 31 :=
    dated ▸ bounds_dateOfDay day
  have calendar : d.onCalendar = true := by
    rw [Date.onCalendar, dated, dayOfDate_dateOfDay]
    exact decide_eq_true rfl
  have text : dateText d ++ rest = (renderYear d.year).toList ++ '-' ::
      ((Text.pad 2 d.month).toList ++ '-' :: ((Text.pad 2 d.day).toList ++ rest)) := by
    simp only [dateText, List.append_assoc, List.cons_append]
  have dash : Text.isBlank '-' = false := by decide
  rw [text]
  simp only [date?, year?_render, separator?_cons dash, part?_pad month months (by omega),
    part?_pad first days (by omega), Option.bind_eq_bind, Option.bind_some]
  exact if_pos ⟨least, most, calendar⟩

/-- The text of a second of a day, with a second that may be a leap second. -/
def timeText (t second : Nat) : List Char :=
  (Text.pad 2 (t / 3600)).toList ++ ':' :: ((Text.pad 2 (t / 60 % 60)).toList ++ ':' ::
    (Text.pad 2 second).toList)

theorem time?_timeText {t second nanos : Nat} (inside : t < 86400)
    (told : (second = t % 60 ∧ nanos = 0) ∨
      (second = 60 ∧ t % 60 = 59 ∧ nanos = 1000000000)) :
    time? (timeText t second ++ ['Z']) = some (t, nanos, ['Z']) := by
  have text : timeText t second ++ ['Z'] = (Text.pad 2 (t / 3600)).toList ++ ':' ::
      ((Text.pad 2 (t / 60 % 60)).toList ++ ':' :: ((Text.pad 2 second).toList ++ ['Z'])) := by
    simp only [timeText, List.append_assoc, List.cons_append]
  have colon : Text.isBlank ':' = false := by decide
  have hour (rest : List Char) : part? 0 23 ((Text.pad 2 (t / 3600)).toList ++ rest) =
      some (t / 3600, rest) := part?_pad (Nat.zero_le _) (by omega) (by omega)
  have minute (rest : List Char) : part? 0 59 ((Text.pad 2 (t / 60 % 60)).toList ++ rest) =
      some (t / 60 % 60, rest) := part?_pad (Nat.zero_le _) (by omega) (by omega)
  have last (rest : List Char) : part? 0 60 ((Text.pad 2 second).toList ++ rest) =
      some (second, rest) := part?_pad (Nat.zero_le _) (by omega) (by omega)
  have whole : fraction? ['Z'] = some (0, ['Z']) := rfl
  rw [text]
  simp only [time?, hour, minute, last, separator?_cons colon, whole, Option.bind_eq_bind,
    Option.bind_some]
  obtain ⟨rfl, rfl⟩ | ⟨rfl, leap, rfl⟩ := told
  · have same : t / 3600 * 3600 + t / 60 % 60 * 60 + t % 60 = t := by omega
    rw [if_neg (by omega), same]
  · have same : t / 3600 * 3600 + t / 60 % 60 * 60 + 59 = t := by omega
    rw [if_pos rfl, same]

end Stamp

/-- A moment as far as its text tells it. -/
def told (m : Moment) : Moment := ⟨m.seconds, if m.nanos < 1000000000 then 0 else 1000000000⟩

/-- A moment that a clock or a text can give. -/
def Readable (m : Moment) : Prop := ofUnix? m.seconds m.nanos = some m

theorem toList_rfc3339 (m : Moment) : m.rfc3339.toList =
    Stamp.dateText m.date ++ 'T' :: (Stamp.timeText m.secondOfDay
      (if m.nanos < 1000000000 then m.secondOfDay % 60 else m.secondOfDay % 60 + 1) ++ ['Z']) := by
  have dash : "-".toList = ['-'] := by decide
  have colon : ":".toList = [':'] := by decide
  have start : "T".toList = ['T'] := by decide
  have stop : "Z".toList = ['Z'] := by decide
  simp only [rfc3339, Stamp.dateText, Stamp.timeText, String.toList_append, List.append_assoc,
    List.cons_append, List.nil_append, dash, colon, start, stop]

theorem readable_iff (m : Moment) : m.Readable ↔
    (-262143 ≤ m.date.year ∧ m.date.year ≤ 262142) ∧
      (m.nanos < 1000000000 ∨ m.nanos < 2000000000 ∧ m.secondOfDay % 60 = 59) := by
  unfold Readable ofUnix?
  dsimp only
  split
  · next fits => exact ⟨fun _ => ⟨⟨fits.1, fits.2.1⟩, fits.2.2⟩, fun _ => rfl⟩
  · next unfit => exact ⟨nofun, fun fits => absurd ⟨fits.1.1, fits.1.2, fits.2⟩ unfit⟩

theorem readable_told {m : Moment} (readable : m.Readable) : m.told.Readable := by
  obtain ⟨year, nanos⟩ := m.readable_iff.1 readable
  refine m.told.readable_iff.2 ⟨year, ?_⟩
  unfold told
  dsimp only
  split
  · exact .inl (by decide)
  · exact .inr ⟨by decide, (nanos.resolve_left ‹_›).2⟩

/-- A moment is read back to the second. -/
theorem parse?_rfc3339 {m : Moment} (readable : m.Readable) : parse? m.rfc3339 = some m.told := by
  obtain ⟨⟨least, most⟩, nanos⟩ := m.readable_iff.1 readable
  have dated (rest : List Char) : Stamp.date? (Stamp.dateText m.date ++ rest) =
      some (m.date, rest) := Stamp.date?_dateText rfl least most rest
  have inside : m.secondOfDay < 86400 := by
    rw [secondOfDay, Int.fmod_eq_emod_of_nonneg _ (by decide)]
    omega
  have timed : Stamp.time? (Stamp.timeText m.secondOfDay
      (if m.nanos < 1000000000 then m.secondOfDay % 60 else m.secondOfDay % 60 + 1) ++ ['Z']) =
        some (m.secondOfDay, m.told.nanos, ['Z']) := by
    refine Stamp.time?_timeText inside ?_
    unfold told
    dsimp only
    split
    · exact .inl ⟨rfl, rfl⟩
    · exact .inr ⟨by omega, by omega, rfl⟩
  have offset : Stamp.offset? (Stamp.skipBlanks ['Z']) = some (0, []) := by decide
  have seconds : dayOfDate m.date * 86400 + m.secondOfDay - 0 = m.seconds := by
    rw [date, dayOfDate_dateOfDay, secondOfDay, Int.fdiv_eq_ediv_of_nonneg _ (by decide),
      Int.fmod_eq_emod_of_nonneg _ (by decide)]
    omega
  have back : ofUnix? m.seconds m.told.nanos = some m.told := readable_told readable
  have ended : (Stamp.skipBlanks []).isEmpty = true := rfl
  simp only [parse?, toList_rfc3339, dated, timed, offset, Option.bind_eq_bind, Option.bind_some,
    if_pos ended, seconds]
  exact back

theorem told_told (m : Moment) : m.told.told = m.told := by
  unfold told
  dsimp only
  split <;> rfl

theorem readable_of_ofUnix? {seconds : Int} {nanos : Nat} {m : Moment}
    (made : ofUnix? seconds nanos = some m) : m.Readable := by
  have same : m = ⟨seconds, nanos⟩ := by
    unfold ofUnix? at made
    dsimp only at made
    split at made
    · exact (Option.some.inj made).symm
    · cases made
  subst same
  exact made

theorem readable_of_parse? {s : String} {m : Moment} (read : parse? s = some m) : m.Readable := by
  unfold parse? at read
  obtain ⟨⟨d, cs⟩, -, read⟩ := Option.bind_eq_some_iff.1 read
  cases cs with
  | nil => cases read
  | cons c cs =>
    dsimp only at read
    split at read
    · obtain ⟨⟨second, nanos, cs⟩, -, read⟩ := Option.bind_eq_some_iff.1 read
      obtain ⟨⟨offset, cs⟩, -, read⟩ := Option.bind_eq_some_iff.1 read
      dsimp only at read
      split at read
      · exact readable_of_ofUnix? read
      · cases read
    · cases read

end SecretSync.Moment
