import ImigrAI.Foundations.Digits
import Mathlib.Order.Fin.Basic

/-!
# Instants

An aware `datetime` is the number of microseconds since the start of year 1 in UTC. The
order of instants is all that effective periods and entitlement windows need; the calendar
is needed for `isoformat`, which stands in the canonical payload of a rule set, and for the
label of a published version.
-/

namespace ImigrAI.Python

open Digits

/-- An aware `datetime`: microseconds since `datetime.min`, up to `datetime.max`. -/
abbrev Instant := Fin 315537897600000000

instance neZeroInstant : NeZero 315537897600000000 := ⟨by decide⟩

namespace Instant

/-- Days before each month of a common year; entry 0 is not used. -/
def daysBeforeMonth : List ℕ := [0, 0, 31, 59, 90, 120, 151, 181, 212, 243, 273, 304, 334]

/-- Days in each month of a common year; entry 0 is not used. -/
def daysInMonth : List ℕ := [0, 31, 28, 31, 30, 31, 30, 31, 31, 30, 31, 30, 31]

/-- Year, month and day of a day counted from the first of January of year 1, which is
day 0. -/
def yearMonthDay (dayIndex : ℕ) : ℕ × ℕ × ℕ :=
  let n400 := dayIndex / 146097
  let n := dayIndex % 146097
  let n100 := n / 36524
  let n := n % 36524
  let n4 := n / 1461
  let n := n % 1461
  let n1 := n / 365
  let n := n % 365
  let year := n400 * 400 + 1 + n100 * 100 + n4 * 4 + n1
  if n1 = 4 ∨ n100 = 4 then (year - 1, 12, 31)
  else
    let leapYear := n1 = 3 ∧ (n4 ≠ 24 ∨ n100 = 3)
    let month := (n + 50) / 32
    let preceding := daysBeforeMonth.getD month 0 + if 2 < month ∧ leapYear then 1 else 0
    if n < preceding then
      -- The estimate of the month is at most one too high.
      let earlier := month - 1
      let preceding :=
        preceding - (daysInMonth.getD earlier 0 + if earlier = 2 ∧ leapYear then 1 else 0)
      (year, earlier, n - preceding + 1)
    else (year, month, n - preceding + 1)

/-- The first instant of a day of the calendar, which has to be between the years 1 and 9999. -/
def ofDate (year month day : ℕ) : Option Instant :=
  let leapYear := year % 4 = 0 ∧ (year % 100 ≠ 0 ∨ year % 400 = 0)
  let dayIndex := (year - 1) * 365 + (year - 1) / 4 - (year - 1) / 100 + (year - 1) / 400 +
    daysBeforeMonth.getD month 0 + (if 2 < month ∧ leapYear then 1 else 0) + (day - 1)
  let days := daysInMonth.getD month 0 + if month = 2 ∧ leapYear then 1 else 0
  if bounds : 1 ≤ year ∧ 1 ≤ day ∧ day ≤ days ∧ dayIndex < 3652059 then
    some ⟨dayIndex * 86400000000, by omega⟩
  else none

def date (instant : Instant) : ℕ × ℕ × ℕ := yearMonthDay (instant / 86400000000)

def microsecondOfDay (instant : Instant) : ℕ := instant % 86400000000

def hour (instant : Instant) : ℕ := instant.microsecondOfDay / 3600000000

def minute (instant : Instant) : ℕ := instant.microsecondOfDay / 60000000 % 60

def second (instant : Instant) : ℕ := instant.microsecondOfDay / 1000000 % 60

def microsecond (instant : Instant) : ℕ := instant.microsecondOfDay % 1000000

/-- A number with leading zeros. -/
def padded (width value : ℕ) : String := String.ofList (fixedDigits 10 width value)

/-- `instant.astimezone(UTC).isoformat()`. -/
def isoformat (instant : Instant) : String :=
  let (year, month, day) := instant.date
  padded 4 year ++ "-" ++ padded 2 month ++ "-" ++ padded 2 day ++ "T" ++
    padded 2 instant.hour ++ ":" ++ padded 2 instant.minute ++ ":" ++ padded 2 instant.second ++
    (if instant.microsecond = 0 then "" else "." ++ padded 6 instant.microsecond) ++ "+00:00"

/-- The format `%Y%m%d%H%M%S`. -/
def compact (instant : Instant) : String :=
  let (year, month, day) := instant.date
  padded 4 year ++ padded 2 month ++ padded 2 day ++ padded 2 instant.hour ++
    padded 2 instant.minute ++ padded 2 instant.second

example : ofDate 2024 12 31 = some 63871200000000000 := by decide

example : isoformat 63871243200123456 = "2024-12-31T12:00:00.123456+00:00" := by decide

end Instant

end ImigrAI.Python
