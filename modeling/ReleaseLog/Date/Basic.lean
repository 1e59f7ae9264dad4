import ReleaseLog.Text.Basic

/-!
# Dates

A date is a day of the Gregorian calendar, extended to all years (`0` is the year before `1`).
The years reach from -262143 to 262142. A date that does not exist cannot be built, so nothing
that holds a `Date` has to check it again.
-/

namespace ReleaseLog

/-- The year has a 29th of February. -/
def isLeapYear (year : Int) : Bool :=
  year % 4 == 0 && (year % 100 != 0 || year % 400 == 0)

/-- The number of days of a month; none for a number that is no month. -/
def daysInMonth (year : Int) : Nat → Nat
  | 2 => if isLeapYear year then 29 else 28
  | 4 | 6 | 9 | 11 => 30
  | 1 | 3 | 5 | 7 | 8 | 10 | 12 => 31
  | _ => 0

/-- The calendar has this day. -/
def IsDay (year : Int) (month day : Nat) : Prop :=
  -262143 ≤ year ∧ year ≤ 262142 ∧ 1 ≤ day ∧ day ≤ daysInMonth year month

instance (year : Int) (month day : Nat) : Decidable (IsDay year month day) := by
  unfold IsDay; infer_instance

theorem IsDay.month_le {year : Int} {month day : Nat} (h : IsDay year month day) :
    1 ≤ month ∧ month ≤ 12 := by
  obtain ⟨_, _, first, last⟩ := h
  unfold daysInMonth at last
  split at last <;> omega

theorem IsDay.day_le {year : Int} {month day : Nat} (h : IsDay year month day) :
    1 ≤ day ∧ day ≤ 31 := by
  obtain ⟨_, _, first, last⟩ := h
  unfold daysInMonth at last
  split at last <;> try split at last
  all_goals omega

/-- A day of the calendar. -/
structure Date where
  year : Int
  month : Nat
  day : Nat
  isDay : IsDay year month day
  deriving DecidableEq, Repr

namespace Date

/-- The date with these parts, if there is one. -/
def ofParts? (year : Int) (month day : Nat) : Option Date :=
  if h : IsDay year month day then some ⟨year, month, day, h⟩ else none

theorem ofParts?_parts (date : Date) :
    ofParts? date.year date.month date.day = some date := by
  simp [ofParts?, date.isDay]

/-- The first day of the year 1970. -/
def epoch : Date := ⟨1970, 1, 1, by decide⟩

/-- The date so many days after the beginning of 1970; beyond the last year, `epoch`.

Counted from the first of March of the year `0`, a date is made of 400-year spans of 146097 days,
in which a year ends with its leap day; the months from March on begin on day
`(153 * month + 2) / 5` of such a year. -/
def ofDaysSinceEpoch (days : Nat) : Date :=
  let fromMarch := days + 719468
  let spans := fromMarch / 146097
  let dayOfSpan := fromMarch % 146097
  let yearOfSpan :=
    (dayOfSpan - dayOfSpan / 1460 + dayOfSpan / 36524 - dayOfSpan / 146096) / 365
  let dayOfYear := dayOfSpan - (365 * yearOfSpan + yearOfSpan / 4 - yearOfSpan / 100)
  let monthFromMarch := (5 * dayOfYear + 2) / 153
  let day := dayOfYear - (153 * monthFromMarch + 2) / 5 + 1
  let month := if monthFromMarch < 10 then monthFromMarch + 3 else monthFromMarch - 9
  let year := spans * 400 + yearOfSpan + (if month ≤ 2 then 1 else 0)
  (ofParts? year month day).getD epoch

end Date
end ReleaseLog
