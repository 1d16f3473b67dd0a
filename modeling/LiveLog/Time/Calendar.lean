namespace LiveLog

/-!
# Days of the calendar

Dates of the proleptic Gregorian calendar. A date carries the proof that its
day exists, so moving to the next or to the previous day never leaves the
calendar. Dates are counted from the first of January 1970.
-/

/-- Whether a year has a twenty-ninth of February. -/
def isLeapYear (year : Int) : Bool :=
  decide (year % 4 = 0) && (decide (year % 100 ≠ 0) || decide (year % 400 = 0))

/-- The number of days of a month; none for what is no month. -/
def daysInMonth (year : Int) (month : Nat) : Nat :=
  match month with
  | 1 | 3 | 5 | 7 | 8 | 10 | 12 => 31
  | 4 | 6 | 9 | 11 => 30
  | 2 => if isLeapYear year then 29 else 28
  | _ => 0

/-- A day of the calendar. -/
structure Date where
  year : Int
  month : Nat
  day : Nat
  one_le_day : 1 ≤ day
  day_le : day ≤ daysInMonth year month
deriving DecidableEq

theorem one_le_daysInMonth {year : Int} {month : Nat} (h : 1 ≤ month) (h' : month ≤ 12) :
    1 ≤ daysInMonth year month := by
  have : month = 1 ∨ month = 2 ∨ month = 3 ∨ month = 4 ∨ month = 5 ∨ month = 6 ∨ month = 7 ∨
      month = 8 ∨ month = 9 ∨ month = 10 ∨ month = 11 ∨ month = 12 := by omega
  rcases this with h | h | h | h | h | h | h | h | h | h | h | h <;> subst h <;>
    simp [daysInMonth]
  split <;> omega

theorem month_of_daysInMonth {year : Int} {month : Nat} (h : 1 ≤ daysInMonth year month) :
    1 ≤ month ∧ month ≤ 12 := by
  unfold daysInMonth at h
  split at h <;> omega

namespace Date

/-- The date of a year, month and day, if there is one. -/
def of? (year : Int) (month day : Nat) : Option Date :=
  if h : 1 ≤ day ∧ day ≤ daysInMonth year month then some ⟨year, month, day, h.1, h.2⟩ else none

/-- The month of a date is one of the twelve. -/
theorem month_le (d : Date) : 1 ≤ d.month ∧ d.month ≤ 12 :=
  month_of_daysInMonth (Nat.le_trans d.one_le_day d.day_le)

/-- The day after. -/
def next (d : Date) : Date :=
  if h : d.day < daysInMonth d.year d.month then ⟨d.year, d.month, d.day + 1, by omega, h⟩
  else if hm : d.month < 12 then
    ⟨d.year, d.month + 1, 1, Nat.le_refl 1, one_le_daysInMonth (by omega) (by omega)⟩
  else ⟨d.year + 1, 1, 1, Nat.le_refl 1, one_le_daysInMonth (Nat.le_refl 1) (by omega)⟩

/-- The day before. -/
def previous (d : Date) : Date :=
  if h : 1 < d.day then
    ⟨d.year, d.month, d.day - 1, by omega, Nat.le_trans (Nat.sub_le _ _) d.day_le⟩
  else if hm : 1 < d.month then
    ⟨d.year, d.month - 1, daysInMonth d.year (d.month - 1),
      one_le_daysInMonth (by omega) (by have := d.month_le; omega), Nat.le_refl _⟩
  else ⟨d.year - 1, 12, 31, by omega, Nat.le_refl 31⟩

/-- The number of days since the first of January 1970. Years are counted from
March on, so that the day that comes and goes is a year's last. -/
def number (d : Date) : Int :=
  let y : Int := if d.month ≤ 2 then d.year - 1 else d.year
  let era := y / 400
  let yearOfEra := y % 400
  let dayOfYear : Int := (153 * ((d.month + 9) % 12) + 2) / 5 + d.day - 1
  let dayOfEra := yearOfEra * 365 + yearOfEra / 4 - yearOfEra / 100 + dayOfYear
  era * 146097 + dayOfEra - 719468

/-- Days around the ends of years, and the count at its origin. -/
example : (of? 2024 2 29).map next = of? 2024 3 1 ∧ (of? 2023 1 1).map previous = of? 2022 12 31 ∧
    (of? 1970 1 1).map number = some 0 ∧ (of? 2000 3 1).map number = some 11017 ∧
    of? 1900 2 29 = none := by decide

end Date

end LiveLog
