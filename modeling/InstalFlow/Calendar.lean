import InstalFlow.Schema

/-!
# Calendar arithmetic

What the methods of `Date` compute, on numbers of milliseconds. Days, months
and years are those of UTC.
-/

namespace InstalFlow

/-- The calendar date of a day number, and back: days since 1970-01-01, UTC. -/
structure CalendarDate where
  year : ℤ
  month : ℤ
  day : ℤ

namespace CalendarDate

def ofDays (days : ℤ) : CalendarDate :=
  let z := days + 719468
  let era := z / 146097
  let doe := z % 146097
  let yoe := (doe - doe / 1460 + doe / 36524 - doe / 146096) / 365
  let doy := doe - (365 * yoe + yoe / 4 - yoe / 100)
  let mp := (5 * doy + 2) / 153
  let month := if mp < 10 then mp + 3 else mp - 9
  { year := yoe + era * 400 + if month ≤ 2 then 1 else 0
    month
    day := doy - (153 * mp + 2) / 5 + 1 }

def toDays (d : CalendarDate) : ℤ :=
  let y := if d.month ≤ 2 then d.year - 1 else d.year
  let era := y / 400
  let yoe := y % 400
  let doy := (153 * (if 2 < d.month then d.month - 3 else d.month + 9) + 2) / 5 + d.day - 1
  let doe := yoe * 365 + yoe / 4 - yoe / 100 + doy
  era * 146097 + doe - 719468

end CalendarDate

def msPerDay : ℤ := 24 * 60 * 60 * 1000

/-- `setDate(getDate() + n)` -/
def DateTime.addDays (t : DateTime) (n : ℤ) : DateTime := t + n * msPerDay

/-- `setMonth(getMonth() + n)`: a day the month does not have runs over into the next. -/
def DateTime.addMonths (t : DateTime) (n : ℤ) : DateTime :=
  let date := CalendarDate.ofDays (t / msPerDay)
  let months := date.month - 1 + n
  let first : CalendarDate := ⟨date.year + months / 12, months % 12 + 1, 1⟩
  (first.toDays + (date.day - 1)) * msPerDay + t % msPerDay

/-- `addMonthsClamped`: a day the month does not have becomes its last one. -/
def DateTime.addMonthsClamped (t : DateTime) (monthsToAdd : ℤ) : DateTime :=
  let date := CalendarDate.ofDays (t / msPerDay)
  let months := date.month - 1 + monthsToAdd
  let first : CalendarDate := ⟨date.year + months / 12, months % 12 + 1, 1⟩
  let next : CalendarDate := ⟨date.year + (months + 1) / 12, (months + 1) % 12 + 1, 1⟩
  let lastDayOfTargetMonth := (CalendarDate.ofDays (next.toDays - 1)).day
  (first.toDays + (min date.day lastDayOfTargetMonth - 1)) * msPerDay + t % msPerDay

/-- `setHours(0, 0, 0, 0)` -/
def DateTime.startOfDay (t : DateTime) : DateTime := t - t % msPerDay

end InstalFlow
