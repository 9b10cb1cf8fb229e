import SecretSync.Time.Stamp

/-!
The calendar: a date leads back to the day it was made for. An era of 400 years has 97 leap days, so
the days of an era are told apart by the year, cut in March, and the day in it.
-/
namespace SecretSync.Moment

def yearOfEra (n : Nat) : Nat := (n - n / 1460 + n / 36524 - n / 146096) / 365

def startOfYear (y : Nat) : Nat := 365 * y + y / 4 - y / 100

section Era

variable {n c : Nat}

theorem yearOfEra_century (start : 36524 * c ≤ n) (stop : n < 36524 * (c + 1)) (few : c < 4) :
    yearOfEra n = (n - n / 1460 + c) / 365 ∧ yearOfEra n / 100 = c := by
  have century : n / 36524 = c := by omega
  have inside : n / 146096 = 0 := by omega
  rw [yearOfEra, century, inside]
  have cases : c = 0 ∨ c = 1 ∨ c = 2 ∨ c = 3 := by omega
  refine ⟨rfl, ?_⟩
  rcases cases with rfl | rfl | rfl | rfl <;> omega

/-- Of the leap days before a day, one may be that of its own year. -/
theorem leap_days (start : 36524 * c ≤ n) (stop : n < 36524 * (c + 1)) (few : c < 4) :
    yearOfEra n / 4 ≤ n / 1460 ∧ n / 1460 ≤ yearOfEra n / 4 + 1 := by
  obtain ⟨year, -⟩ := yearOfEra_century start stop few
  have most : c ≤ n / 1460 := by omega
  have less : n / 1460 ≤ 100 := by omega
  generalize yearOfEra n = y at year ⊢
  generalize leaps : n / 1460 = i at year most less ⊢
  constructor
  · omega
  · omega

theorem day_in_year (inside : n < 146097) :
    yearOfEra n < 400 ∧ startOfYear (yearOfEra n) ≤ n ∧ n ≤ startOfYear (yearOfEra n) + 365 := by
  by_cases last : n = 146096
  · subst last
    decide
  obtain ⟨c, century⟩ : ∃ c, n / 36524 = c := ⟨_, rfl⟩
  have few : c < 4 := by omega
  have start : 36524 * c ≤ n := by omega
  have stop : n < 36524 * (c + 1) := by omega
  obtain ⟨year, hundreds⟩ := yearOfEra_century start stop few
  obtain ⟨most, less⟩ := leap_days start stop few
  unfold startOfYear
  generalize yearOfEra n = y at year hundreds most less ⊢
  generalize leaps : n / 1460 = i at year most less
  omega

end Era

/-- The date of a day of a year that is cut in March. -/
def ofMarch (year : Int) (day : Nat) : Date :=
  let fifth := (5 * day + 2) / 153
  let month := if fifth < 10 then fifth + 3 else fifth - 9
  ⟨if month ≤ 2 then year + 1 else year, month, day - (153 * fifth + 2) / 5 + 1⟩

theorem dateOfDay_ofMarch (era : Int) {n : Nat} (inside : n < 146097) :
    dateOfDay (era * 146097 + n - 719468) =
      ofMarch (yearOfEra n + era * 400) (n - startOfYear (yearOfEra n)) := by
  have shifted : era * 146097 + n - 719468 + 719468 = era * 146097 + n := by omega
  have quotient : (era * 146097 + n : Int).fdiv 146097 = era := by
    rw [Int.fdiv_eq_ediv_of_nonneg _ (by decide)]
    omega
  have rest : ((era * 146097 + n : Int).fmod 146097).toNat = n := by
    rw [Int.fmod_eq_emod_of_nonneg _ (by decide)]
    omega
  simp only [dateOfDay, shifted, quotient, rest]
  rfl

section March

variable {year : Int} {day : Nat}

theorem month_ofMarch (inside : day ≤ 365) :
    1 ≤ (ofMarch year day).month ∧ (ofMarch year day).month ≤ 12 := by
  simp only [ofMarch]
  split <;> omega

theorem day_ofMarch : 1 ≤ (ofMarch year day).day ∧ (ofMarch year day).day ≤ 31 := by
  simp only [ofMarch]
  omega

/-- The months are cut in March again. -/
theorem fifth_ofMarch (year : Int) (inside : day ≤ 365) :
    ((ofMarch year day).month + 9) % 12 = (5 * day + 2) / 153 ∧
      (if (ofMarch year day).month ≤ 2 then (ofMarch year day).year - 1
        else (ofMarch year day).year) = year := by
  simp only [ofMarch]
  constructor
  · split <;> omega
  · split <;> split <;> omega

theorem dayOfDate_ofMarch {y : Nat} (era : Int) (few : y < 400) (inside : day ≤ 365) :
    dayOfDate (ofMarch (y + era * 400) day) = era * 146097 + startOfYear y + day - 719468 := by
  obtain ⟨fifth, cut⟩ := fifth_ofMarch (y + era * 400) inside
  have counted : (ofMarch (y + era * 400) day).day =
      day - (153 * ((5 * day + 2) / 153) + 2) / 5 + 1 := rfl
  generalize passed : (5 * day + 2) / 153 = months at fifth counted
  generalize ofMarch (y + era * 400) day = d at fifth cut counted ⊢
  have quotient : (y + era * 400 : Int).fdiv 400 = era := by
    rw [Int.fdiv_eq_ediv_of_nonneg _ (by decide)]
    omega
  have rest : (y + era * 400 : Int).fmod 400 = y := by
    rw [Int.fmod_eq_emod_of_nonneg _ (by decide)]
    omega
  have fifth : ((d.month : Int) + 9) % 12 = months := by omega
  simp only [dayOfDate, cut, quotient, rest, fifth, counted, startOfYear]
  omega

end March

theorem dayOfDate_dateOfDay (day : Int) : dayOfDate (dateOfDay day) = day := by
  obtain ⟨era, n, inside, rfl⟩ : ∃ (era : Int) (n : Nat), n < 146097 ∧
      day = era * 146097 + n - 719468 :=
    ⟨(day + 719468) / 146097, ((day + 719468) % 146097).toNat, by omega, by omega⟩
  obtain ⟨few, start, stop⟩ := day_in_year inside
  rw [dateOfDay_ofMarch era inside, dayOfDate_ofMarch era few (by omega)]
  omega

theorem bounds_dateOfDay (day : Int) :
    (1 ≤ (dateOfDay day).month ∧ (dateOfDay day).month ≤ 12) ∧
      1 ≤ (dateOfDay day).day ∧ (dateOfDay day).day ≤ 31 := by
  obtain ⟨era, n, inside, rfl⟩ : ∃ (era : Int) (n : Nat), n < 146097 ∧
      day = era * 146097 + n - 719468 :=
    ⟨(day + 719468) / 146097, ((day + 719468) % 146097).toNat, by omega, by omega⟩
  obtain ⟨-, -, stop⟩ := day_in_year inside
  rw [dateOfDay_ofMarch era inside]
  exact ⟨month_ofMarch (by omega), day_ofMarch⟩

end SecretSync.Moment
