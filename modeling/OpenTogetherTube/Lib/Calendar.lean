import Mathlib.Algebra.GroupWithZero.Nat
import Mathlib.Data.Nat.Find
import OpenTogetherTube.Lib.Decimal

/-!
# Dates from 1970 on

A time is a number of milliseconds since the beginning of 1970, without leap seconds.
`isoText` writes it as `YYYY-MM-DDTHH:mm:ss.sssZ`, with a sign and six digits for a year
past 9999.
-/

namespace OpenTogetherTube.Lib.Calendar

/-- The first day of a year, counted from the first of 1970. -/
def dayFromYear (year : Nat) : Nat :=
  365 * (year - 1970) + (year - 1969) / 4 + (year - 1601) / 400 - (year - 1901) / 100

/-- The year that a day lies in. -/
def yearFromDay (day : Nat) : Nat :=
  Nat.findGreatest (fun year => dayFromYear year ≤ day) (1970 + day / 365)

/-- How many days the months of a year have. -/
def monthLengths (year : Nat) : List Nat :=
  [31, if year % 4 = 0 ∧ (year % 100 ≠ 0 ∨ year % 400 = 0) then 29 else 28, 31, 30, 31, 30, 31,
    31, 30, 31, 30, 31]

/-- The month and its day, for a day counted from the first of `month`. -/
def monthAndDate : List Nat → Nat → Nat → Nat × Nat
  | [], month, day => (month, day + 1)
  | length :: later, month, day =>
      if day < length then (month, day + 1) else monthAndDate later (month + 1) (day - length)

/-- A year as the date format writes it. -/
def yearText (year : Nat) : List Char :=
  if year ≤ 9999 then padded 4 year else '+' :: padded 6 year

/-- The month of a day and its date in the month. -/
def dateInYear (day : Nat) : Nat × Nat :=
  monthAndDate (monthLengths (yearFromDay day)) 1 (day - dayFromYear (yearFromDay day))

/-- The hours of a time. -/
def hours (time : Nat) : List Char := padded 2 (time / 3600000 % 24)

/-- The minutes of a time. -/
def minutes (time : Nat) : List Char := padded 2 (time / 60000 % 60)

/-- The seconds of a time. -/
def seconds (time : Nat) : List Char := padded 2 (time / 1000 % 60)

/-- `toISOString`. -/
def isoText (time : Nat) : List Char :=
  let day := time / 86400000
  yearText (yearFromDay day) ++ '-' :: padded 2 (dateInYear day).1 ++
    '-' :: padded 2 (dateInYear day).2 ++ 'T' :: hours time ++ ':' :: minutes time ++
    ':' :: seconds time ++ '.' :: padded 3 (time % 1000) ++ ['Z']

theorem dayFromYear_succ_le (year : Nat) (since : 1970 ≤ year) :
    dayFromYear (year + 1) ≤ dayFromYear year + 366 := by
  unfold dayFromYear
  omega

theorem dayFromYear_least (year : Nat) : 365 * (year - 1970) ≤ dayFromYear year := by
  unfold dayFromYear
  omega

theorem dayFromYear_yearFromDay (day : Nat) : dayFromYear (yearFromDay day) ≤ day := by
  have start : dayFromYear 1970 ≤ day := Nat.zero_le day
  exact Nat.findGreatest_spec (P := fun year => dayFromYear year ≤ day)
    (Nat.le_add_right 1970 _) start

theorem since_yearFromDay (day : Nat) : 1970 ≤ yearFromDay day := by
  have start : dayFromYear 1970 ≤ day := Nat.zero_le day
  exact Nat.le_findGreatest (Nat.le_add_right 1970 _) start

theorem lt_dayFromYear_succ (day : Nat) : day < dayFromYear (yearFromDay day + 1) := by
  by_cases within : yearFromDay day + 1 ≤ 1970 + day / 365
  · exact Nat.lt_of_not_le (Nat.findGreatest_is_greatest
      (P := fun year => dayFromYear year ≤ day) (Nat.lt_succ_self _) within)
  · have least := dayFromYear_least (yearFromDay day + 1)
    omega

/-- Less than the days of a leap year have passed since the year began. -/
theorem dayInYear_lt (day : Nat) : day - dayFromYear (yearFromDay day) < 366 := by
  have since := since_yearFromDay day
  have next := dayFromYear_succ_le (yearFromDay day) since
  have before := lt_dayFromYear_succ day
  omega

theorem monthAndDate_month_le (lengths : List Nat) (month day : Nat) :
    (monthAndDate lengths month day).1 ≤ month + lengths.length := by
  induction lengths generalizing month day with
  | nil => exact le_rfl
  | cons length later ih =>
      unfold monthAndDate
      split
      · exact Nat.le_add_right _ _
      · have bound := ih (month + 1) (day - length)
        rw [List.length_cons]
        omega

theorem monthAndDate_date_le {lengths : List Nat} {most : Nat} (month : Nat) {day : Nat}
    (months : ∀ length ∈ lengths, length ≤ most) (within : day < lengths.sum + most) :
    (monthAndDate lengths month day).2 ≤ most := by
  induction lengths generalizing month day with
  | nil =>
      rw [List.sum_nil, Nat.zero_add] at within
      exact within
  | cons length later ih =>
      unfold monthAndDate
      rw [List.sum_cons] at within
      have short := months length List.mem_cons_self
      split
      · next inside => exact Nat.le_trans (Nat.succ_le_of_lt inside) short
      · exact ih (month + 1)
          (fun other listed => months other (List.mem_cons_of_mem _ listed)) (by omega)

/-- The months have at most 31 days and a year has at least 365. -/
theorem monthLengths_bounds (year : Nat) :
    (∀ length ∈ monthLengths year, length ≤ 31) ∧ 365 ≤ (monthLengths year).sum := by
  unfold monthLengths
  split <;> decide

theorem month_lt (day : Nat) : (dateInYear day).1 < 10 ^ 2 := by
  have month : (dateInYear day).1 ≤ 1 + 12 :=
    monthAndDate_month_le (monthLengths (yearFromDay day)) 1 _
  exact Nat.lt_of_le_of_lt month (by decide)

theorem date_le (day : Nat) : (dateInYear day).2 ≤ 31 := by
  have bounds := monthLengths_bounds (yearFromDay day)
  have short := dayInYear_lt day
  exact monthAndDate_date_le 1 bounds.1 (by omega)

/-- A year takes four digits, or a sign and six digits. -/
theorem length_yearText {day : Nat} (most : day ≤ 100000000) :
    (yearText (yearFromDay day)).length = if yearFromDay day ≤ 9999 then 4 else 7 := by
  have least := dayFromYear_least (yearFromDay day)
  have began := dayFromYear_yearFromDay day
  have year : yearFromDay day < 10 ^ 6 := by omega
  unfold yearText
  split
  · next early =>
      rw [length_padded (by decide) (Nat.lt_of_le_of_lt early (by decide : 9999 < 10 ^ 4))]
  · rw [List.length_cons, length_padded (by decide) year]

section Clock

variable (time : Nat)

theorem length_hours : (hours time).length = 2 :=
  length_padded (by decide) (Nat.lt_of_lt_of_le (Nat.mod_lt _ (by decide)) (by decide))

theorem length_minutes : (minutes time).length = 2 :=
  length_padded (by decide) (Nat.lt_of_lt_of_le (Nat.mod_lt _ (by decide)) (by decide))

theorem length_seconds : (seconds time).length = 2 :=
  length_padded (by decide) (Nat.lt_of_lt_of_le (Nat.mod_lt _ (by decide)) (by decide))

end Clock

section Layout

variable {time : Nat}

/-- Up to the year 9999 the time of day stands at the eleventh place. -/
theorem clock_isoText (most : time / 86400000 ≤ 100000000)
    (early : yearFromDay (time / 86400000) ≤ 9999) :
    ((isoText time).drop 11).take 8 = hours time ++ ':' :: minutes time ++ ':' :: seconds time := by
  have year := length_yearText most
  rw [if_pos early] at year
  have month := length_padded (by decide : 0 < 2) (month_lt (time / 86400000))
  have date := length_padded (by decide : 0 < 2)
    (Nat.lt_of_le_of_lt (date_le (time / 86400000)) (by decide : 31 < 10 ^ 2))
  have text : isoText time =
      (yearText (yearFromDay (time / 86400000)) ++
          '-' :: padded 2 (dateInYear (time / 86400000)).1 ++
          '-' :: padded 2 (dateInYear (time / 86400000)).2 ++ ['T']) ++
        ((hours time ++ ':' :: minutes time ++ ':' :: seconds time) ++
          '.' :: padded 3 (time % 1000) ++ ['Z']) := by
    simp [isoText]
  rw [text, List.drop_left' (by simp [year, month, date]), List.append_assoc,
    List.take_left' (by simp [length_hours, length_minutes, length_seconds])]

/-- The minutes and seconds stand three places on. -/
theorem shortClock_isoText (most : time / 86400000 ≤ 100000000)
    (early : yearFromDay (time / 86400000) ≤ 9999) :
    ((isoText time).drop 14).take 5 = minutes time ++ ':' :: seconds time := by
  have clock := clock_isoText most early
  have later : ((isoText time).drop 14).take 5 = ((((isoText time).drop 11).take 8).drop 3) := by
    rw [List.drop_take, List.drop_drop]
  rw [later, clock]
  have text : hours time ++ ':' :: minutes time ++ ':' :: seconds time =
      (hours time ++ [':']) ++ (minutes time ++ ':' :: seconds time) := by
    simp
  rw [text, List.drop_left' (by simp [length_hours])]

theorem date_isoText (most : time / 86400000 ≤ 100000000)
    (late : ¬ yearFromDay (time / 86400000) ≤ 9999) :
    ((isoText time).drop 11).take 8 =
      padded 2 (dateInYear (time / 86400000)).2 ++ 'T' :: hours time ++ ':' :: minutes time := by
  have year := length_yearText most
  rw [if_neg late] at year
  have month := length_padded (by decide : 0 < 2) (month_lt (time / 86400000))
  have date := length_padded (by decide : 0 < 2)
    (Nat.lt_of_le_of_lt (date_le (time / 86400000)) (by decide : 31 < 10 ^ 2))
  have text : isoText time =
      (yearText (yearFromDay (time / 86400000)) ++
          '-' :: padded 2 (dateInYear (time / 86400000)).1 ++ ['-']) ++
        ((padded 2 (dateInYear (time / 86400000)).2 ++ 'T' :: hours time ++ ':' :: minutes time) ++
          ':' :: seconds time ++ '.' :: padded 3 (time % 1000) ++ ['Z']) := by
    simp [isoText]
  rw [text, List.drop_left' (by simp [year, month]), List.append_assoc, List.append_assoc,
    List.take_left' (by simp [date, length_hours, length_minutes])]

end Layout

end OpenTogetherTube.Lib.Calendar
