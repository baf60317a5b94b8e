import Mathlib.Data.Rat.Cast.Order
import Mathlib.Tactic.NormNum
import Mathlib.Tactic.Linarith
import Mathlib.Tactic.Ring
import OpenTogetherTube.Lib.Calendar
import OpenTogetherTube.Common.Models

/-!
# Timestamps

`secondsToTimestamp` cuts the time of day out of a date that lies so many seconds after
the beginning of 1970, and `timestampToSeconds` reads up to three fields in base sixty.
-/

namespace OpenTogetherTube.Timestamp

open Lib

/-- `text.substr(start, length)`. -/
def substr (text : List Char) (start length : Nat) : List Char := (text.drop start).take length

/-- The digits that a text begins with, read as a whole number. -/
def leadingDigits (text : List Char) : Option ℤ :=
  let digits := text.takeWhile Char.isDigit
  if digits = [] then none else some (Nat.ofDigitChars 10 digits 0)

/-- `parseInt(text, 10)`. -/
def parseInt (text : List Char) : Number :=
  let read := match text.dropWhile isSpace with
    | '-' :: rest => (leadingDigits rest).map (- ·)
    | '+' :: rest => leadingDigits rest
    | rest => leadingDigits rest
  match read with
  | none => .nan
  | some value => .fin value

/-- Formats seconds as mm:ss below an hour and as hh:mm:ss from there on. There is no text
where the date is out of range and `toISOString` throws. -/
def secondsToTimestamp : Number → Option (List Char)
  | .fin seconds =>
      let posSeconds := |seconds|
      if 8640000000000000 < posSeconds * 1000 then none
      else
        let timeString := Calendar.isoText (posSeconds * 1000).floor.toNat
        let subTimeString :=
          if posSeconds ≥ 3600 then substr timeString 11 8 else substr timeString 14 5
        some (if seconds < 0 then '-' :: subTimeString else subTimeString)
  | _ => none

/-- `seconds + field * 60 ** i`. -/
def weigh (seconds field : Number) (i : Nat) : Number :=
  match seconds, field with
  | .fin seconds, .fin field => .fin (seconds + field * 60 ^ i)
  | _, _ => .nan

/-- The loop over the fields, of which the last one written comes first. -/
def sumFields : Nat → Number → List Number → Number
  | _, seconds, [] => seconds
  | i, seconds, field :: rest => sumFields (i + 1) (weigh seconds field i) rest

def timestampToSeconds (timestamp : List Char) : Except String Number :=
  if timestamp = [] then .error "Invalid timestamp"
  else
    let spl := ((timestamp.splitOn ':').map parseInt).reverse
    if 3 < spl.length ∨ spl.length = 0 then .error "Invalid timestamp"
    else .ok (sumFields 0 0 spl)

/-- What is written for a number of seconds reads back as that number. -/
def RoundTrips (seconds : ℤ) : Prop :=
  ∃ text, secondsToTimestamp (.fin seconds) = some text ∧
    timestampToSeconds text = .ok (.fin seconds)

section Reading

theorem isSpace_eq_false_of_isDigit {char : Char} (digit : char.isDigit = true) :
    isSpace char = false := by
  have bounds : 48 ≤ char.toNat ∧ char.toNat ≤ 57 := by
    simpa [Char.isDigit, UInt32.le_iff_toNat_le] using digit
  unfold isSpace
  simp [← UInt32.toNat_inj, UInt32.le_iff_toNat_le]
  omega

/-- Digits up to another character are read as the number they stand for. -/
theorem leadingDigits_padded (width number : Nat) {rest : List Char}
    (stops : ∀ char ∈ rest.head?, char.isDigit = false) :
    leadingDigits (padded width number ++ rest) = some (number : ℤ) := by
  have cut : rest.takeWhile Char.isDigit = [] := by
    cases rest with
    | nil => rfl
    | cons char rest => exact List.takeWhile_cons_of_neg (by simp [stops char rfl])
  have digits : (padded width number ++ rest).takeWhile Char.isDigit = padded width number := by
    rw [List.takeWhile_append_of_pos fun char member => isDigit_of_mem_padded member, cut,
      List.append_nil]
  unfold leadingDigits
  simp only [digits, if_neg (padded_ne_nil width number), ofDigitChars_padded]

theorem exists_padded_cons (width number : Nat) :
    ∃ digit rest, padded width number = digit :: rest ∧ digit.isDigit = true := by
  obtain ⟨digit, rest, written⟩ := List.exists_cons_of_ne_nil (padded_ne_nil width number)
  exact ⟨digit, rest, written, isDigit_of_mem_padded (written ▸ List.mem_cons_self)⟩

theorem parseInt_padded (width number : Nat) {rest : List Char}
    (stops : ∀ char ∈ rest.head?, char.isDigit = false) :
    parseInt (padded width number ++ rest) = .fin number := by
  have value := leadingDigits_padded width number stops
  obtain ⟨digit, later, written, isDigit⟩ := exists_padded_cons width number
  have kept : (padded width number ++ rest).dropWhile isSpace = padded width number ++ rest := by
    rw [written, List.cons_append]
    exact List.dropWhile_cons_of_neg (by simp [isSpace_eq_false_of_isDigit isDigit])
  unfold parseInt
  rw [kept]
  rw [written, List.cons_append] at value ⊢
  split
  · next sign => cases sign; cases isDigit
  · next sign => cases sign; cases isDigit
  · simp [value]

theorem parseInt_negated (width number : Nat) {rest : List Char}
    (stops : ∀ char ∈ rest.head?, char.isDigit = false) :
    parseInt ('-' :: (padded width number ++ rest)) = .fin (-number) := by
  have kept : ('-' :: (padded width number ++ rest)).dropWhile isSpace =
      '-' :: (padded width number ++ rest) := List.dropWhile_cons_of_neg (by decide)
  unfold parseInt
  rw [kept]
  simp [leadingDigits_padded width number stops]

/-- A sign is written for a negative number. -/
def signed (seconds : ℤ) (text : List Char) : List Char :=
  if seconds < 0 then '-' :: text else text

/-- What a field stands for behind the sign of a number. -/
def directed (seconds : ℤ) (field : Nat) : ℤ := if seconds < 0 then -field else field

/-- The sign reaches the field it stands before. -/
theorem parseInt_signed (seconds : ℤ) (width number : Nat) {rest : List Char}
    (stops : ∀ char ∈ rest.head?, char.isDigit = false) :
    parseInt (signed seconds (padded width number ++ rest)) = .fin (directed seconds number) := by
  unfold signed directed
  split
  · rw [parseInt_negated width number stops]
    push_cast
    rfl
  · rw [parseInt_padded width number stops]
    push_cast
    rfl

theorem parseInt_digits (width number : Nat) : parseInt (padded width number) = .fin number := by
  have read : parseInt (padded width number ++ []) = .fin number :=
    parseInt_padded width number (by simp)
  rwa [List.append_nil] at read

theorem parseInt_signed_digits (seconds : ℤ) (width number : Nat) :
    parseInt (signed seconds (padded width number)) = .fin (directed seconds number) := by
  have read : parseInt (signed seconds (padded width number ++ [])) = .fin (directed seconds number) :=
    parseInt_signed seconds width number (by simp)
  rwa [List.append_nil] at read

theorem timestampToSeconds_intercalate {fields : List (List Char)} (some : fields ≠ [])
    (few : fields.length ≤ 3) (plain : ∀ field ∈ fields, ':' ∉ field)
    (written : [':'].intercalate fields ≠ []) :
    timestampToSeconds ([':'].intercalate fields) =
      .ok (sumFields 0 0 (fields.map parseInt).reverse) := by
  have split := List.splitOn_intercalate ':' plain some
  have count : ((fields.map parseInt).reverse).length = fields.length := by simp
  have several : ¬ (3 < fields.length ∨ fields.length = 0) := by
    have := List.length_pos_iff.mpr some
    omega
  unfold timestampToSeconds
  simp only [if_neg written, split, count, if_neg several]

theorem not_mem_padded (width number : Nat) : ':' ∉ padded width number := by
  intro member
  have digit := isDigit_of_mem_padded member
  exact absurd digit (by decide)

theorem signed_append (seconds : ℤ) (text rest : List Char) :
    signed seconds (text ++ rest) = signed seconds text ++ rest := by
  unfold signed
  split <;> simp

theorem not_mem_signed (seconds : ℤ) {text : List Char} (plain : ':' ∉ text) :
    ':' ∉ signed seconds text := by
  unfold signed
  split
  · exact fun member => (List.mem_cons.mp member).elim (by decide) plain
  · exact plain

/-- Two fields, of which the first may go on with something that is no digit. -/
theorem read_two (seconds : ℤ) (first second : Nat) {rest : List Char} (plain : ':' ∉ rest)
    (stops : ∀ char ∈ rest.head?, char.isDigit = false) :
    timestampToSeconds (signed seconds (padded 2 first ++ rest ++ ':' :: padded 2 second)) =
      .ok (.fin (second + directed seconds first * 60 : ℤ)) := by
  have firstPlain : ':' ∉ signed seconds (padded 2 first ++ rest) :=
    not_mem_signed seconds fun member =>
      (List.mem_append.mp member).elim (not_mem_padded 2 first) plain
  have text : signed seconds (padded 2 first ++ rest ++ ':' :: padded 2 second) =
      [':'].intercalate [signed seconds (padded 2 first ++ rest), padded 2 second] := by
    rw [signed_append, List.intercalate_cons_cons, List.intercalate_singleton, List.append_assoc,
      List.singleton_append]
  have firstRead := parseInt_signed seconds 2 first stops
  rw [text, timestampToSeconds_intercalate (by simp) (by simp)]
  · simp only [List.map_cons, List.map_nil, List.reverse_cons, List.reverse_nil, List.nil_append,
      List.singleton_append, firstRead,
      parseInt_digits, sumFields, weigh]
    congr 2
    push_cast
    ring
  · intro field listed
    simp only [List.mem_cons, List.not_mem_nil, or_false] at listed
    rcases listed with rfl | rfl
    · exact firstPlain
    · exact not_mem_padded 2 second
  · rw [← text, signed_append]
    exact List.append_ne_nil_of_right_ne_nil _ (List.cons_ne_nil _ _)

theorem read_three (seconds : ℤ) (first second third : Nat) :
    timestampToSeconds
        (signed seconds (padded 2 first ++ ':' :: padded 2 second ++ ':' :: padded 2 third)) =
      .ok (.fin (third + second * 60 + directed seconds first * 3600 : ℤ)) := by
  have text : signed seconds (padded 2 first ++ ':' :: padded 2 second ++ ':' :: padded 2 third) =
      [':'].intercalate [signed seconds (padded 2 first), padded 2 second, padded 2 third] := by
    rw [signed_append, signed_append, List.intercalate_cons_cons, List.intercalate_cons_cons,
      List.intercalate_singleton]
    simp
  rw [text, timestampToSeconds_intercalate (by simp) (by simp)]
  · simp only [List.map_cons, List.map_nil, List.reverse_cons, List.reverse_nil, List.nil_append,
      List.cons_append, parseInt_signed_digits, parseInt_digits, sumFields, weigh]
    congr 2
    push_cast
    ring
  · intro field listed
    simp only [List.mem_cons, List.not_mem_nil, or_false] at listed
    rcases listed with rfl | rfl | rfl
    · exact not_mem_signed seconds (not_mem_padded 2 first)
    · exact not_mem_padded 2 second
    · exact not_mem_padded 2 third
  · rw [← text, signed_append]
    exact List.append_ne_nil_of_right_ne_nil _ (List.cons_ne_nil _ _)

end Reading

section Writing

variable {seconds : ℤ}

/-- A whole number of seconds in the range of dates. -/
theorem secondsToTimestamp_int (within : |seconds| ≤ 8640000000000) :
    secondsToTimestamp (.fin seconds) =
      some (signed seconds
        (if 3600 ≤ seconds.natAbs then substr (Calendar.isoText (seconds.natAbs * 1000)) 11 8
          else substr (Calendar.isoText (seconds.natAbs * 1000)) 14 5)) := by
  have size : |(seconds : ℚ)| = (seconds.natAbs : ℚ) := by
    rw [← Int.cast_abs, Int.abs_eq_natAbs, Int.cast_natCast]
  have inRange : ¬ 8640000000000000 < |(seconds : ℚ)| * 1000 := by
    have most : |(seconds : ℚ)| ≤ 8640000000000 := by exact_mod_cast within
    linarith
  have time : (|(seconds : ℚ)| * 1000).floor.toNat = seconds.natAbs * 1000 := by
    rw [size]
    have whole : ((seconds.natAbs : ℚ) * 1000) = (((seconds.natAbs : ℕ) * 1000 : ℤ) : ℚ) := by
      norm_cast
    rw [whole, Rat.floor_intCast]
    omega
  have hour : |(seconds : ℚ)| ≥ 3600 ↔ 3600 ≤ seconds.natAbs := by
    rw [size, ge_iff_le]
    exact_mod_cast Iff.rfl
  have negative : (seconds : ℚ) < 0 ↔ seconds < 0 := Int.cast_lt_zero
  simp only [secondsToTimestamp, if_neg inRange, time, hour, negative, signed]

theorem roundTrips_of_read {text : List Char} {value : ℤ}
    (written : secondsToTimestamp (.fin seconds) = some text)
    (read : timestampToSeconds text = .ok (.fin value)) : RoundTrips seconds ↔ value = seconds := by
  constructor
  · rintro ⟨other, writtenToo, same⟩
    obtain rfl := Option.some.inj (written.symm.trans writtenToo)
    have values := Except.ok.inj (read.symm.trans same)
    exact_mod_cast Number.fin.inj values
  · rintro rfl
    exact ⟨text, written, read⟩

end Writing

/-- A timestamp reads back as the number it was written for within a day from zero on, and
below zero where only the first field is not zero. -/
theorem roundTrips_iff (seconds : ℤ) (within : |seconds| ≤ 8640000000000) :
    RoundTrips seconds ↔
      (0 ≤ seconds ∧ seconds < 86400) ∨
        (-3600 < seconds ∧ seconds < 0 ∧ 60 ∣ seconds) ∨
        (-86400 < seconds ∧ seconds ≤ -3600 ∧ 3600 ∣ seconds) := by
  have written := secondsToTimestamp_int within
  have most : seconds.natAbs * 1000 / 86400000 ≤ 100000000 := by
    rw [Int.abs_eq_natAbs] at within
    omega
  by_cases hour : 3600 ≤ seconds.natAbs
  · rw [if_pos hour, substr] at written
    by_cases early : Calendar.yearFromDay (seconds.natAbs * 1000 / 86400000) ≤ 9999
    · rw [Calendar.clock_isoText most early] at written
      rw [roundTrips_of_read written (read_three seconds _ _ _)]
      unfold directed
      split <;> omega
    · -- The date stands in the place of the hours.
      rw [Calendar.date_isoText most early] at written
      have days := Calendar.date_le (seconds.natAbs * 1000 / 86400000)
      have far : 86400 ≤ seconds.natAbs := by
        by_contra near
        have first : seconds.natAbs * 1000 / 86400000 = 0 := by omega
        rw [first] at early
        exact early (by decide)
      rw [roundTrips_of_read written (read_two seconds _ _ _ _)]
      · unfold directed
        split <;> omega
      · exact fun member => (List.mem_cons.mp member).elim (by decide) (not_mem_padded 2 _)
      · simp
  · have early : Calendar.yearFromDay (seconds.natAbs * 1000 / 86400000) ≤ 9999 := by
      have first : seconds.natAbs * 1000 / 86400000 = 0 := by omega
      rw [first]
      decide
    rw [if_neg hour, substr, Calendar.shortClock_isoText most early, ← List.append_nil (Calendar.minutes _)]
      at written
    rw [roundTrips_of_read written (read_two seconds _ _ (by simp) (by simp))]
    unfold directed
    split <;> omega

/-- An hour and a half reads back, and so do two minutes below zero. -/
theorem roundTrips_iff_sample : RoundTrips 5400 ∧ RoundTrips (-120) :=
  ⟨(roundTrips_iff 5400 (by decide)).mpr (Or.inl (by decide)),
    (roundTrips_iff (-120) (by decide)).mpr (Or.inr (Or.inl (by decide)))⟩

/-- Half a minute below zero is written `-00:30` and read as half a minute. -/
theorem roundTrips_fails :
    ¬ ∀ seconds : ℤ, |seconds| ≤ 8640000000000 → RoundTrips seconds := by
  intro every
  obtain ⟨text, written, read⟩ := every (-30) (by decide)
  have text_eq : secondsToTimestamp (.fin (-30 : ℤ)) = some ['-', '0', '0', ':', '3', '0'] := by
    decide +kernel
  obtain rfl := Option.some.inj (text_eq.symm.trans written)
  have value : timestampToSeconds ['-', '0', '0', ':', '3', '0'] = .ok 30 := by
    decide +kernel
  have same := Number.fin.inj (Except.ok.inj (value.symm.trans read))
  norm_num at same

end OpenTogetherTube.Timestamp
