import InstalFlow.Gregorian
import InstalFlow.InstallmentSchedule

/-!
# The due dates of a schedule

`addMonthsClamped` goes through the methods of `Date`, which read a date in the time zone of
the server, give no date outside their range, and read a year below 100 as one of the
twentieth century when they make a date from its parts.
-/

namespace InstalFlow
open CalendarDate

/-- A time zone a fixed number of milliseconds ahead of UTC -/
structure TimeZone where
  offset : ℤ
  within_day : -msPerDay < offset ∧ offset < msPerDay

namespace TimeZone
variable (zone : TimeZone)

def utc : TimeZone := ⟨0, by decide⟩

def localDay (t : DateTime) : ℤ := (t + zone.offset) / msPerDay

def localDate (t : DateTime) : CalendarDate := ofDays (zone.localDay t)

def timeOfDay (t : DateTime) : ℤ := (t + zone.offset) % msPerDay

/-- The instant of a time of a local day -/
def instant (day time : ℤ) : DateTime := day * msPerDay + time - zone.offset

end TimeZone

/-- What a `Date` holds -/
def Representable (t : DateTime) : Prop := -8640000000000000 ≤ t ∧ t ≤ 8640000000000000

instance : DecidablePred Representable := fun _ => inferInstanceAs (Decidable (_ ∧ _))

/-- An invalid date is `none`. -/
def timeClip (t : DateTime) : Option DateTime := if Representable t then some t else none

def makeDay (year month date : ℤ) : ℤ :=
  toDays ⟨year + month / 12, month % 12 + 1, 1⟩ + (date - 1)

namespace TimeZone
variable (zone : TimeZone)

def getFullYear (t : DateTime) : ℤ := (zone.localDate t).year

def getMonth (t : DateTime) : ℤ := (zone.localDate t).month - 1

def getDate (t : DateTime) : ℤ := (zone.localDate t).day

def setDate (t : DateTime) (date : ℤ) : Option DateTime :=
  timeClip (zone.instant (makeDay (zone.getFullYear t) (zone.getMonth t) date) (zone.timeOfDay t))

def setMonth (t : DateTime) (month : ℤ) : Option DateTime :=
  timeClip (zone.instant (makeDay (zone.getFullYear t) month (zone.getDate t)) (zone.timeOfDay t))

/-- The year that `new Date(year, month, day)` takes -/
def fullYear (year : ℤ) : ℤ := if 0 ≤ year ∧ year ≤ 99 then 1900 + year else year

def newDate (year month date : ℤ) : Option DateTime :=
  timeClip (zone.instant (makeDay (fullYear year) month date) 0)

end TimeZone

namespace InstallmentService

def addMonthsClamped (zone : TimeZone) (date : DateTime) (monthsToAdd : ℤ) :
    Option DateTime := do
  let originalDay := zone.getDate date
  let result ← zone.setDate date 1
  let result ← zone.setMonth result (zone.getMonth result + monthsToAdd)
  let lastDate ← zone.newDate (zone.getFullYear result) (zone.getMonth result + 1) 0
  zone.setDate result (min originalDay (zone.getDate lastDate))

/-- The due dates of `generateInstallmentSchedule` -/
def dueDates (zone : TimeZone) (firstPaymentDate : DateTime) (months : ℕ) :
    List (Option DateTime) :=
  (List.range months).map fun i : ℕ => addMonthsClamped zone firstPaymentDate i

/-- A month for each due date, on the day of the first or the last the month has -/
structure NeverDrifts (zone : TimeZone) (first : DateTime) (dates : List DateTime) : Prop where
  month : ∀ (i : ℕ) (due : DateTime), dates[i]? = some due →
    (zone.localDate due).monthIndex = (zone.localDate first).monthIndex + i
  day : ∀ due ∈ dates, (zone.localDate due).day =
    min (zone.localDate first).day
      (daysInMonth (zone.localDate due).year (zone.localDate due).month)
  time : ∀ due ∈ dates, zone.timeOfDay due = zone.timeOfDay first
  increasing : dates.Pairwise (· < ·)

end InstallmentService

section dates
variable {zone : TimeZone} {t s : DateTime} {day time m k : ℤ}

theorem timeClip_eq_some : timeClip t = some s ↔ Representable t ∧ t = s := by
  rw [timeClip]
  split
  · rename_i h
    rw [Option.some.injEq]
    exact (and_iff_right h).symm
  · rename_i h
    exact iff_of_false (Option.some_ne_none s ∘ Eq.symm) fun hand => h hand.1

theorem TimeZone.timeOfDay_bounds (t : DateTime) :
    0 ≤ zone.timeOfDay t ∧ zone.timeOfDay t < msPerDay := by
  rw [TimeZone.timeOfDay, msPerDay]
  omega

theorem TimeZone.localDay_instant (h : 0 ≤ time ∧ time < msPerDay) :
    zone.localDay (zone.instant day time) = day := by
  rw [TimeZone.localDay, TimeZone.instant, msPerDay] at *
  omega

theorem TimeZone.timeOfDay_instant (h : 0 ≤ time ∧ time < msPerDay) :
    zone.timeOfDay (zone.instant day time) = time := by
  rw [TimeZone.timeOfDay, TimeZone.instant, msPerDay] at *
  omega

/-- A local date within a month -/
theorem TimeZone.localDate_instant (htime : 0 ≤ time ∧ time < msPerDay)
    (h : 0 ≤ k ∧ k < daysOfMonth m) :
    zone.localDate (zone.instant (monthStart m + k) time) = ⟨m / 12, m % 12 + 1, k + 1⟩ := by
  rw [TimeZone.localDate, TimeZone.localDay_instant htime, ofDays_monthStart_add h]

theorem makeDay_eq (year month date : ℤ) :
    makeDay year month date = monthStart (12 * year + month) + (date - 1) := by
  have hyear : year + month / 12 = (12 * year + month) / 12 := by omega
  have hmonth : month % 12 + 1 = (12 * year + month) % 12 + 1 := by omega
  rw [makeDay, hyear, hmonth]
  rfl

end dates

namespace InstallmentService

/-- The last day that the code finds for a month: that of a month of another year, when the
year is below 100 -/
def lastDayOfTargetMonth (m : ℤ) : ℤ := daysInMonth (TimeZone.fullYear (m / 12)) (m % 12 + 1)

/-- Only February of the year 0 is taken for that of a year of another length. -/
theorem lastDayOfTargetMonth_eq_iff {m : ℤ} : lastDayOfTargetMonth m = daysOfMonth m ↔ m ≠ 1 := by
  rw [lastDayOfTargetMonth, daysOfMonth, TimeZone.fullYear]
  split
  · rename_i hyear
    by_cases hm : m = 1
    · subst hm
      exact iff_of_false (by decide) fun h => h rfl
    · refine iff_of_true ?_ hm
      rw [daysInMonth, daysInMonth]
      split_ifs <;> first | rfl | (unfold IsLeap at *; omega)
  · exact iff_of_true rfl (by omega)

section months
variable {zone : TimeZone} {first due : DateTime} {i : ℤ}

/-- The month of a due date -/
def targetMonth (zone : TimeZone) (first : DateTime) (i : ℤ) : ℤ :=
  (zone.localDate first).monthIndex + i

/-- The instant of a day of a month, at the time of day of the first date -/
def instantOf (zone : TimeZone) (first : DateTime) (m day : ℤ) : DateTime :=
  zone.instant (monthStart m + (day - 1)) (zone.timeOfDay first)

theorem setDate_eq {t : DateTime} {m day : ℤ} (h : zone.localDate t = ⟨m / 12, m % 12 + 1, day⟩)
    (n : ℤ) : zone.setDate t n = timeClip (instantOf zone t m n) := by
  have hmonth : 12 * (m / 12) + (m % 12 + 1 - 1) = m := by omega
  rw [TimeZone.setDate, TimeZone.getFullYear, TimeZone.getMonth, h, makeDay_eq, hmonth]
  rfl

theorem setMonth_eq {t : DateTime} {m : ℤ} (h : zone.localDate t = ⟨m / 12, m % 12 + 1, 1⟩) :
    zone.setMonth t (zone.getMonth t + i) = timeClip (instantOf zone t (m + i) 1) := by
  have hmonth : 12 * (m / 12) + (m % 12 + 1 - 1 + i) = m + i := by omega
  rw [TimeZone.setMonth, TimeZone.getFullYear, TimeZone.getMonth, TimeZone.getDate, h,
    makeDay_eq, hmonth]
  rfl

theorem localDate_instantOf {m day : ℤ} (h : 1 ≤ day ∧ day ≤ daysOfMonth m) :
    zone.localDate (instantOf zone first m day) = ⟨m / 12, m % 12 + 1, day⟩ := by
  rw [instantOf, TimeZone.localDate_instant (TimeZone.timeOfDay_bounds first) (by omega),
    sub_add_cancel]

theorem timeOfDay_instantOf {m day : ℤ} :
    zone.timeOfDay (instantOf zone first m day) = zone.timeOfDay first :=
  TimeZone.timeOfDay_instant (TimeZone.timeOfDay_bounds first)

/-- The midnight at which the last day of a month begins -/
def lastMidnight (zone : TimeZone) (m : ℤ) : DateTime :=
  zone.instant (monthStart m + (daysOfMonth m - 1)) 0

/-- The month that the code takes a month for when it looks for the last day -/
def shownMonth (m : ℤ) : ℤ := 12 * TimeZone.fullYear (m / 12) + m % 12

theorem daysOfMonth_shownMonth (m : ℤ) : daysOfMonth (shownMonth m) = lastDayOfTargetMonth m := by
  have hyear : shownMonth m / 12 = TimeZone.fullYear (m / 12) := by
    rw [shownMonth]
    omega
  have hmonth : shownMonth m % 12 = m % 12 := by
    rw [shownMonth]
    omega
  rw [daysOfMonth, hyear, hmonth, lastDayOfTargetMonth]

theorem newDate_eq {t : DateTime} {m : ℤ} (h : zone.localDate t = ⟨m / 12, m % 12 + 1, 1⟩) :
    zone.newDate (zone.getFullYear t) (zone.getMonth t + 1) 0 =
      timeClip (lastMidnight zone (shownMonth m)) := by
  have hmonth : 12 * TimeZone.fullYear (m / 12) + (m % 12 + 1 - 1 + 1) = shownMonth m + 1 := by
    rw [shownMonth]
    omega
  have hday : monthStart (shownMonth m + 1) + (0 - 1) =
      monthStart (shownMonth m) + (daysOfMonth (shownMonth m) - 1) := by
    rw [monthStart_succ]
    omega
  rw [TimeZone.newDate, TimeZone.getFullYear, TimeZone.getMonth, h, makeDay_eq, hmonth, hday]
  rfl

theorem getDate_lastMidnight (m : ℤ) : zone.getDate (lastMidnight zone m) = daysOfMonth m := by
  have hdays := le_daysOfMonth m
  rw [TimeZone.getDate, lastMidnight, TimeZone.localDate_instant (by decide) (by omega),
    sub_add_cancel]

theorem localDate_eq (zone : TimeZone) (t : DateTime) : zone.localDate t =
    ⟨targetMonth zone t 0 / 12, targetMonth zone t 0 % 12 + 1, (zone.localDate t).day⟩ := by
  have hvalid := valid_ofDays (zone.localDay t)
  rw [targetMonth, add_zero, TimeZone.localDate, monthIndex_div _ hvalid,
    monthIndex_mod _ hvalid]

/-- What `addMonthsClamped` returns when no date on the way is out of range -/
theorem addMonthsClamped_eq_some :
    addMonthsClamped zone first i = some due ↔
      Representable (instantOf zone first (targetMonth zone first 0) 1) ∧
      Representable (instantOf zone first (targetMonth zone first i) 1) ∧
      Representable (lastMidnight zone (shownMonth (targetMonth zone first i))) ∧
      Representable due ∧
      instantOf zone first (targetMonth zone first i)
        (min (zone.localDate first).day (lastDayOfTargetMonth (targetMonth zone first i))) = due := by
  obtain ⟨m, hm⟩ : ∃ m, targetMonth zone first 0 = m := ⟨_, rfl⟩
  have htarget : targetMonth zone first i = m + i := by
    rw [← hm, targetMonth, targetMonth, add_zero]
  have hfirst := localDate_eq zone first
  rw [hm] at hfirst
  have hone (n : ℤ) : zone.localDate (instantOf zone first n 1) = ⟨n / 12, n % 12 + 1, 1⟩ :=
    localDate_instantOf ⟨le_rfl, by have := le_daysOfMonth n; omega⟩
  have hset {n day : ℤ} : instantOf zone (instantOf zone first n 1) n day =
      instantOf zone first n day := by
    rw [instantOf, timeOfDay_instantOf]
    rfl
  have hset' : instantOf zone (instantOf zone first m 1) (m + i) 1 =
      instantOf zone first (m + i) 1 := by
    rw [instantOf, timeOfDay_instantOf]
    rfl
  rw [htarget, hm, addMonthsClamped, setDate_eq hfirst]
  simp only [Option.bind_eq_bind, Option.bind_eq_some_iff, timeClip_eq_some]
  constructor
  · rintro ⟨_, ⟨hstart, rfl⟩, _, hmonth, last, hlast, hdue⟩
    rw [setMonth_eq (hone m), timeClip_eq_some, hset'] at hmonth
    obtain ⟨hmonth, rfl⟩ := hmonth
    rw [newDate_eq (hone _), timeClip_eq_some] at hlast
    obtain ⟨hlast, rfl⟩ := hlast
    rw [setDate_eq (hone _), timeClip_eq_some, hset, getDate_lastMidnight,
      daysOfMonth_shownMonth] at hdue
    obtain ⟨hrange, rfl⟩ := hdue
    exact ⟨hstart, hmonth, hlast, hrange, rfl⟩
  · rintro ⟨hstart, hmonth, hlast, hrange, rfl⟩
    refine ⟨_, ⟨hstart, rfl⟩, instantOf zone first (m + i) 1, ?_,
      lastMidnight zone (shownMonth (m + i)), ?_, ?_⟩
    · rw [setMonth_eq (hone m), timeClip_eq_some, hset']
      exact ⟨hmonth, rfl⟩
    · rw [newDate_eq (hone _), timeClip_eq_some]
      exact ⟨hlast, rfl⟩
    · rw [setDate_eq (hone _), timeClip_eq_some, hset, getDate_lastMidnight,
        daysOfMonth_shownMonth]
      exact ⟨hrange, rfl⟩

/-- The due date that a month should have -/
def dueDate (zone : TimeZone) (first : DateTime) (i : ℤ) : DateTime :=
  instantOf zone first (targetMonth zone first i)
    (min (zone.localDate first).day (daysOfMonth (targetMonth zone first i)))

/-- The month of a due date lies in the range of `Date`: its first day at the time of day of
the first date, the midnight of its last day, and the due date itself. -/
structure InRange (zone : TimeZone) (first : DateTime) (i : ℤ) : Prop where
  start : Representable (instantOf zone first (targetMonth zone first i) 1)
  last : Representable (lastMidnight zone (targetMonth zone first i))
  due : Representable (dueDate zone first i)

/-- The years of two thousand years from the year 0 are in the range. -/
theorem representable_lastMidnight {m : ℤ} (h : 0 ≤ m ∧ m < 24000) :
    Representable (lastMidnight zone m) := by
  have hlow : monthStart 0 ≤ monthStart m := monthStart_mono h.1
  have hhigh : monthStart m ≤ monthStart 24000 := monthStart_mono h.2.le
  have hdays := le_daysOfMonth m
  have hlast : daysOfMonth m ≤ 31 := daysInMonth_le
  have hoffset := zone.within_day
  have hzero : monthStart 0 = -719528 := by decide
  have hlimit : monthStart 24000 = 10957 := by decide
  rw [msPerDay] at hoffset
  rw [Representable, lastMidnight, TimeZone.instant, msPerDay]
  change (_ : ℤ) ≤ _ ∧ (_ : ℤ) ≤ _
  omega

theorem representable_shownMonth (m : ℤ) :
    Representable (lastMidnight zone (shownMonth m)) ↔ Representable (lastMidnight zone m) := by
  rw [shownMonth, TimeZone.fullYear]
  split
  · exact iff_of_true (representable_lastMidnight (by omega)) (representable_lastMidnight (by omega))
  · rw [Int.mul_ediv_add_emod]

/-- The day is the one of the first date or the last of the month, unless the month is
February of the year 0 and the day comes after the 28th. -/
theorem min_lastDayOfTargetMonth_iff {m day : ℤ} :
    min day (lastDayOfTargetMonth m) = min day (daysOfMonth m) ↔ (m = 1 → day ≤ 28) := by
  by_cases hm : m = 1
  · have hlast : lastDayOfTargetMonth m = 28 := hm ▸ by decide
    have hdays : daysOfMonth m = 29 := hm ▸ by decide
    rw [hlast, hdays]
    omega
  · rw [lastDayOfTargetMonth_eq_iff.mpr hm]
    exact iff_of_true rfl fun h => absurd h hm

theorem clamped_day_bounds (zone : TimeZone) (first : DateTime) (m : ℤ) :
    1 ≤ min (zone.localDate first).day (daysOfMonth m) ∧
      min (zone.localDate first).day (daysOfMonth m) ≤ daysOfMonth m := by
  have hday := (day_bounds (zone.localDay first)).1
  have hdays := le_daysOfMonth m
  rw [TimeZone.localDate]
  omega

theorem localDate_dueDate : zone.localDate (dueDate zone first i) =
    ⟨targetMonth zone first i / 12, targetMonth zone first i % 12 + 1,
      min (zone.localDate first).day (daysOfMonth (targetMonth zone first i))⟩ :=
  localDate_instantOf (clamped_day_bounds _ _ _)

/-- A later month has a later due date. -/
theorem dueDate_lt {j : ℤ} (h : i < j) : dueDate zone first i < dueDate zone first j := by
  have hnext : monthStart (targetMonth zone first i + 1) ≤ monthStart (targetMonth zone first j) :=
    monthStart_mono (by rw [targetMonth, targetMonth]; omega)
  rw [monthStart_succ] at hnext
  have hi := clamped_day_bounds zone first (targetMonth zone first i)
  have hj := clamped_day_bounds zone first (targetMonth zone first j)
  rw [dueDate, dueDate, instantOf, instantOf, TimeZone.instant, TimeZone.instant, msPerDay]
  change (_ : ℤ) < _
  omega

theorem addMonthsClamped_eq_dueDate (hstart : InRange zone first 0) (hrange : InRange zone first i)
    (hday : targetMonth zone first i = 1 → (zone.localDate first).day ≤ 28) :
    addMonthsClamped zone first i = some (dueDate zone first i) :=
  addMonthsClamped_eq_some.mpr ⟨hstart.start, hrange.start,
    (representable_shownMonth _).mpr hrange.last, hrange.due,
    by rw [min_lastDayOfTargetMonth_iff.mpr hday, dueDate]⟩

/-- A due date on the right day was in range, and not kept from the 29th of February. -/
theorem inRange_of_day (h : addMonthsClamped zone first i = some due)
    (hday : (zone.localDate due).day = min (zone.localDate first).day
      (daysInMonth (zone.localDate due).year (zone.localDate due).month)) :
    InRange zone first i ∧
      (targetMonth zone first i = 1 → (zone.localDate first).day ≤ 28) := by
  obtain ⟨-, hstart, hlast, hrange, rfl⟩ := addMonthsClamped_eq_some.mp h
  have hfirst := (day_bounds (zone.localDay first)).1
  have hshown := le_daysOfMonth (shownMonth (targetMonth zone first i))
  have hle : lastDayOfTargetMonth (targetMonth zone first i) ≤
      daysOfMonth (targetMonth zone first i) := by
    by_cases hm : targetMonth zone first i = 1
    · rw [hm]
      decide
    · exact (lastDayOfTargetMonth_eq_iff.mpr hm).le
  rw [daysOfMonth_shownMonth] at hshown
  rw [localDate_instantOf ⟨by rw [TimeZone.localDate]; omega, by omega⟩] at hday
  have hcond := min_lastDayOfTargetMonth_iff.mp hday
  refine ⟨⟨hstart, (representable_shownMonth _).mp hlast, ?_⟩, hcond⟩
  rwa [dueDate, ← min_lastDayOfTargetMonth_iff.mpr hcond]

end months

section schedule
variable {zone : TimeZone} {first : DateTime} {months : ℕ}

theorem neverDrifts_dueDate :
    NeverDrifts zone first ((List.range months).map fun i : ℕ => dueDate zone first i) where
  month i due h := by
    rw [List.getElem?_map, Option.map_eq_some_iff] at h
    obtain ⟨j, hj, rfl⟩ := h
    obtain ⟨hlt, rfl⟩ := List.getElem?_eq_some_iff.mp hj
    rw [List.getElem_range, localDate_dueDate, monthIndex]
    dsimp only
    rw [targetMonth]
    omega
  day due h := by
    obtain ⟨i, -, rfl⟩ := List.mem_map.mp h
    rw [localDate_dueDate]
    rfl
  time due h := by
    obtain ⟨i, -, rfl⟩ := List.mem_map.mp h
    exact timeOfDay_instantOf
  increasing := List.pairwise_map.mpr
    (List.pairwise_lt_range.imp fun h => dueDate_lt (by exact_mod_cast h))

theorem addMonthsClamped_utc (i : ℤ) :
    DateTime.addMonthsClamped first i = dueDate .utc first i := by
  have hlocal : TimeZone.utc.localDate first = ofDays (first / msPerDay) := by
    rw [TimeZone.localDate, TimeZone.localDay, TimeZone.utc, add_zero]
  have hmake (n : ℤ) : toDays ⟨(ofDays (first / msPerDay)).year + n / 12, n % 12 + 1, 1⟩ =
      monthStart (12 * (ofDays (first / msPerDay)).year + n) := by
    rw [← add_zero (monthStart _), ← sub_self 1, ← makeDay_eq, makeDay, sub_self, add_zero]
  have htarget : 12 * (ofDays (first / msPerDay)).year +
      ((ofDays (first / msPerDay)).month - 1 + i) = targetMonth .utc first i := by
    rw [targetMonth, hlocal, monthIndex]
    omega
  have hnext : 12 * (ofDays (first / msPerDay)).year +
      ((ofDays (first / msPerDay)).month - 1 + i + 1) = targetMonth .utc first i + 1 := by
    rw [← htarget]
    ring
  have hdays := le_daysOfMonth (targetMonth .utc first i)
  have hlast : monthStart (targetMonth .utc first i + 1) - 1 =
      monthStart (targetMonth .utc first i) + (daysOfMonth (targetMonth .utc first i) - 1) := by
    rw [monthStart_succ]
    omega
  rw [DateTime.addMonthsClamped, hmake, hmake, htarget, hnext, hlast, ofDays_monthStart_add (by omega), ← hlocal,
    sub_add_cancel, dueDate, instantOf, TimeZone.instant, TimeZone.timeOfDay, TimeZone.utc]
  rw [add_zero, sub_zero]

/-- The rows of a schedule have the due dates of its months, in the time zone UTC. -/
theorem dueDates_schedule {p : ScheduleParams} {schedule : List InstallmentCreateInput}
    (h : generateInstallmentSchedule p = .ok schedule)
    (hrange : ∀ i : ℕ, i < p.months.toNat → InRange .utc p.firstPaymentDate i ∧
      (targetMonth .utc p.firstPaymentDate i = 1 →
        (TimeZone.utc.localDate p.firstPaymentDate).day ≤ 28)) :
    dueDates .utc p.firstPaymentDate p.months.toNat = schedule.map fun r => some r.dueDate := by
  obtain ⟨-, -, rfl⟩ := generateInstallmentSchedule_eq_ok.mp h
  rw [dueDates, List.map_map]
  refine List.map_congr_left fun i hi => ?_
  have hi := List.mem_range.mp hi
  rw [addMonthsClamped_eq_dueDate (mod_cast (hrange 0 (by omega)).1) (hrange i hi).1
    (hrange i hi).2, ← addMonthsClamped_utc]
  rfl

end schedule

/-- The due dates keep to their months and days exactly when every month lies in the range of
`Date` and none is the February of the year 0 with a first date after the 28th. -/
theorem dueDates_never_drift_iff (zone : TimeZone) (first : DateTime) (months : ℕ) :
    (∃ dates, dueDates zone first months = dates.map some ∧ NeverDrifts zone first dates) ↔
      ∀ i : ℕ, i < months → InRange zone first i ∧
        (targetMonth zone first i = 1 → (zone.localDate first).day ≤ 28) := by
  constructor
  · rintro ⟨dates, hdates, hdrifts⟩ i hi
    have hget : (dueDates zone first months)[i]? = some (addMonthsClamped zone first i) := by
      rw [dueDates, List.getElem?_map, List.getElem?_range hi, Option.map_some]
    rw [hdates, List.getElem?_map, Option.map_eq_some_iff] at hget
    obtain ⟨due, hdue, hsome⟩ := hget
    exact inRange_of_day hsome.symm (hdrifts.day due (List.mem_of_getElem? hdue))
  · intro h
    refine ⟨(List.range months).map fun i : ℕ => dueDate zone first i, ?_, neverDrifts_dueDate⟩
    rw [dueDates, List.map_map]
    refine List.map_congr_left fun i hi => ?_
    have hi := List.mem_range.mp hi
    exact addMonthsClamped_eq_dueDate (mod_cast (h 0 (by omega)).1) (h i hi).1 (h i hi).2

/-- A second payment a month after the 31st of January of the year 0, which is a leap year -/
theorem due_on_28_february : ¬ ∃ dates,
    dueDates .utc (-719498 * msPerDay) 2 = dates.map some ∧
      NeverDrifts .utc (-719498 * msPerDay) dates := by
  rintro ⟨dates, hdates, hdrifts⟩
  have hmem : some (-719470 * msPerDay) ∈ dates.map some := hdates ▸ by decide +kernel
  obtain ⟨due, hdue, hsome⟩ := List.mem_map.mp hmem
  obtain rfl := Option.some.inj hsome
  exact absurd (hdrifts.day _ hdue) (by decide +kernel)

end InstallmentService

end InstalFlow
