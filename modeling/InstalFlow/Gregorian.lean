import InstalFlow.Calendar
import Mathlib.Tactic.IntervalCases
import Mathlib.Tactic.Linarith

/-!
# Calendar dates and day numbers

The days of the calendar and the day numbers correspond. A year is counted from March, so
that the leap day is its last, and split into centuries, spans of four years and years; a
month follows the one before it after as many days as that has.
-/

namespace InstalFlow.CalendarDate

def IsLeap (year : ℤ) : Prop := 4 ∣ year ∧ (¬ 100 ∣ year ∨ 400 ∣ year)

instance (year : ℤ) : Decidable (IsLeap year) := inferInstanceAs (Decidable (_ ∧ _))

def daysInMonth (year month : ℤ) : ℤ :=
  if month = 2 then if IsLeap year then 29 else 28
  else if month = 4 ∨ month = 6 ∨ month = 9 ∨ month = 11 then 30 else 31

structure Valid (d : CalendarDate) : Prop where
  month_pos : 1 ≤ d.month
  month_le : d.month ≤ 12
  day_pos : 1 ≤ d.day
  day_le : d.day ≤ daysInMonth d.year d.month

/-- The month of a date, counted from January of the year 0 -/
def monthIndex (d : CalendarDate) : ℤ := 12 * d.year + (d.month - 1)

/-- The first day of the month with an index -/
def firstOfMonth (m : ℤ) : CalendarDate := ⟨m / 12, m % 12 + 1, 1⟩

def daysOfMonth (m : ℤ) : ℤ := daysInMonth (m / 12) (m % 12 + 1)

/-- The years before one, counted from March, in an era of 400 years -/
def daysBeforeYear (yoe : ℤ) : ℤ := 365 * yoe + yoe / 4 - yoe / 100

def yearOfEra (doe : ℤ) : ℤ := (doe - doe / 1460 + doe / 36524 - doe / 146096) / 365

/-- The date of a day of a year counted from March -/
def ofMarch (year doy : ℤ) : CalendarDate :=
  let mp := (5 * doy + 2) / 153
  let month := if mp < 10 then mp + 3 else mp - 9
  ⟨year + if month ≤ 2 then 1 else 0, month, doy - (153 * mp + 2) / 5 + 1⟩

/-! ### Years -/

section years
variable {year month doy doe yoe era : ℤ}

theorem daysInMonth_le : daysInMonth year month ≤ 31 := by
  rw [daysInMonth]
  split_ifs <;> omega

theorem le_daysInMonth : 28 ≤ daysInMonth year month := by
  rw [daysInMonth]
  split_ifs <;> omega

theorem ofDays_eq (n : ℤ) : ofDays n =
    ofMarch (yearOfEra ((n + 719468) % 146097) + (n + 719468) / 146097 * 400)
      ((n + 719468) % 146097 - daysBeforeYear (yearOfEra ((n + 719468) % 146097))) := rfl

/-- The last day of a year that begins in March is there only in front of a leap year. -/
def InYear (year doy : ℤ) : Prop := 0 ≤ doy ∧ doy ≤ 365 ∧ (doy = 365 → IsLeap (year + 1))

/-- The year of a day of an era, read off the centuries, the spans of four years and the years
that are over -/
theorem yearOfEra_eq {c q r : ℤ} (hc : 0 ≤ c ∧ c ≤ 3) (hq : 0 ≤ q ∧ q ≤ 24)
    (hr : 0 ≤ r ∧ r ≤ 3) (hdoy : 0 ≤ doy ∧ doy ≤ 365)
    (hlast : doy = 365 → r = 3 ∧ (q = 24 → c = 3))
    (hdoe : doe = 36524 * c + 1461 * q + 365 * r + doy) :
    yearOfEra doe = 100 * c + 4 * q + r := by
  -- the quotient by 1460 takes a day off the last one of a leap year
  obtain ⟨e, he⟩ : ∃ e, e = (24 * c + q + 365 * r + doy) / 1460 := ⟨_, rfl⟩
  have hday : 0 ≤ doy - e ∧ doy - e < 365 := by omega
  have hrest : 0 ≤ doe - 36524 * c ∧ doe - 36524 * c ≤ 36524 ∧
      (doe - 36524 * c = 36524 → c = 3) := by omega
  have hcentury : doe / 36524 - doe / 146096 = c := by
    clear he hday
    rcases (show c = 0 ∨ c = 1 ∨ c = 2 ∨ c = 3 by omega) with rfl | rfl | rfl | rfl <;> omega
  have hspan : doe / 1460 = 25 * c + q + e := by
    clear hcentury hrest hday
    omega
  have hdays : doe - doe / 1460 + doe / 36524 - doe / 146096 =
      doy - e + 365 * (100 * c + 4 * q + r) := by linarith
  rw [yearOfEra, hdays, Int.add_mul_ediv_left _ _ (by decide), Int.ediv_eq_zero_of_lt hday.1 hday.2,
    zero_add]

/-- A day is in the year it is counted in. -/
theorem yearOfEra_daysBeforeYear (hyoe : 0 ≤ yoe ∧ yoe < 400) (hdoy : InYear yoe doy) :
    yearOfEra (daysBeforeYear yoe + doy) = yoe := by
  obtain ⟨hnonneg, hle, hleap⟩ := hdoy
  have hlast : doy = 365 → yoe % 4 = 3 ∧ (yoe / 4 % 25 = 24 → yoe / 100 = 3) := by
    intro h
    obtain ⟨hfour, hhundred⟩ := hleap h
    omega
  rw [yearOfEra_eq (c := yoe / 100) (q := yoe / 4 % 25) (r := yoe % 4) (by omega) (by omega)
    (by omega) ⟨hnonneg, hle⟩ hlast (by rw [daysBeforeYear]; omega)]
  omega

theorem exists_year_of_day (doe : ℤ) (h : 0 ≤ doe ∧ doe < 146097) :
    ∃ yoe doy, 0 ≤ yoe ∧ yoe < 400 ∧ InYear yoe doy ∧ doe = daysBeforeYear yoe + doy := by
  obtain ⟨c, hc⟩ : ∃ c, c = min (doe / 36524) 3 := ⟨_, rfl⟩
  obtain ⟨q, hq⟩ : ∃ q, q = (doe - 36524 * c) / 1461 := ⟨_, rfl⟩
  obtain ⟨r, hr⟩ : ∃ r, r = min ((doe - 36524 * c - 1461 * q) / 365) 3 := ⟨_, rfl⟩
  have hcentury : 0 ≤ c ∧ c ≤ 3 := by omega
  have hrest : 0 ≤ doe - 36524 * c ∧ doe - 36524 * c ≤ 36524 ∧
      (doe - 36524 * c = 36524 → c = 3) := by omega
  have hspan : 0 ≤ q ∧ q ≤ 24 := by omega
  have hyear : 0 ≤ r ∧ r ≤ 3 := by omega
  refine ⟨100 * c + 4 * q + r, doe - 36524 * c - 1461 * q - 365 * r, by omega, by omega,
    ⟨by omega, by omega, ?_⟩, ?_⟩
  · intro hlast
    refine ⟨by omega, ?_⟩
    omega
  · have hfour : (100 * c + 4 * q + r) / 4 = 25 * c + q := by omega
    have hhundred : (100 * c + 4 * q + r) / 100 = c := by omega
    rw [daysBeforeYear, hfour, hhundred]
    omega

end years

/-! ### Months -/

section months
variable {year doy mp : ℤ}

/-- The months of a year that begins in March, and the days before each -/
def marchMonth (mp : ℤ) : ℤ := if mp < 10 then mp + 3 else mp - 9

def daysBeforeMonth (mp : ℤ) : ℤ := (153 * mp + 2) / 5

theorem daysInMonth_march (h : 0 ≤ mp ∧ mp < 11) : daysInMonth year (marchMonth mp) =
    daysBeforeMonth (mp + 1) - daysBeforeMonth mp := by
  obtain ⟨hnonneg, hlt⟩ := h
  interval_cases mp <;> rfl

theorem marchMonth_bounds (mp : ℤ) (h : 0 ≤ mp ∧ mp ≤ 11) : 1 ≤ marchMonth mp ∧ marchMonth mp ≤ 12 := by
  rw [marchMonth]
  split <;> omega

/-- The month of a day is the one whose days it is among. -/
theorem month_of_day_iff : (5 * doy + 2) / 153 = mp ↔
    daysBeforeMonth mp ≤ doy ∧ doy < daysBeforeMonth (mp + 1) := by
  rw [daysBeforeMonth, daysBeforeMonth]
  omega

theorem ofMarch_eq (h : daysBeforeMonth mp ≤ doy ∧ doy < daysBeforeMonth (mp + 1)) :
    ofMarch year doy = ⟨year + if marchMonth mp ≤ 2 then 1 else 0, marchMonth mp,
      doy - daysBeforeMonth mp + 1⟩ := by
  have hmonth := month_of_day_iff.mpr h
  subst hmonth
  rfl

/-- The days of a year counted from March are dates of the calendar. -/
theorem valid_ofMarch (h : InYear year doy) : Valid (ofMarch year doy) := by
  obtain ⟨hnonneg, hle, hleap⟩ := h
  obtain ⟨mp, hmonth⟩ : ∃ mp, (5 * doy + 2) / 153 = mp := ⟨_, rfl⟩
  have hdays := month_of_day_iff.mp hmonth
  have hbounds := marchMonth_bounds mp (by omega)
  rw [ofMarch_eq hdays]
  refine ⟨hbounds.1, hbounds.2, by change 1 ≤ doy - _ + 1; omega, ?_⟩
  by_cases hfebruary : mp = 11
  · subst hfebruary
    change doy - 337 + 1 ≤ if IsLeap (year + 1) then 29 else 28
    split
    · omega
    · rename_i hcommon
      have hne : doy ≠ 365 := fun h => hcommon (hleap h)
      omega
  · rw [daysInMonth_march (by omega)]
    change doy - daysBeforeMonth mp + 1 ≤ _
    omega

/-- Every date is a day of a year counted from March. -/
theorem Valid.exists_ofMarch {d : CalendarDate} (h : Valid d) : ∃ mp, 0 ≤ mp ∧ mp ≤ 11 ∧
    d.month = marchMonth mp ∧
    InYear (if d.month ≤ 2 then d.year - 1 else d.year) (daysBeforeMonth mp + d.day - 1) ∧
    daysBeforeMonth mp + d.day - 1 < daysBeforeMonth (mp + 1) := by
  obtain ⟨hmonth_pos, hmonth_le, hday_pos, hday_le⟩ := h
  by_cases hfebruary : d.month = 2
  · rw [hfebruary] at hday_le
    have hday : d.day ≤ 29 ∧ (d.day = 29 → IsLeap d.year) := by
      change d.day ≤ if IsLeap d.year then 29 else 28 at hday_le
      split at hday_le
      · exact ⟨hday_le, fun _ => by assumption⟩
      · exact ⟨by omega, fun h => by omega⟩
    refine ⟨11, by omega, le_rfl, hfebruary, ?_, by rw [daysBeforeMonth, daysBeforeMonth]; omega⟩
    rw [if_pos (by omega), daysBeforeMonth]
    refine ⟨by omega, by omega, fun hlast => ?_⟩
    rw [sub_add_cancel]
    exact hday.2 (by omega)
  · obtain ⟨mp, hmp⟩ : ∃ mp, mp = if 2 < d.month then d.month - 3 else d.month + 9 := ⟨_, rfl⟩
    have hmarch : d.month = marchMonth mp := by
      rw [marchMonth]
      split_ifs at hmp ⊢ <;> omega
    have hrange : 0 ≤ mp ∧ mp < 11 := by
      split_ifs at hmp <;> omega
    rw [hmarch, daysInMonth_march hrange] at hday_le
    have hlt : daysBeforeMonth mp + d.day - 1 < daysBeforeMonth (mp + 1) := by omega
    have hle : 0 ≤ daysBeforeMonth mp ∧ daysBeforeMonth (mp + 1) ≤ 337 := by
      rw [daysBeforeMonth, daysBeforeMonth]
      omega
    exact ⟨mp, hrange.1, by omega, hmarch, ⟨by omega, by omega, fun hlast => by omega⟩, hlt⟩

end months

/-! ### Dates and day numbers -/

section days
variable {d : CalendarDate} {mp y doy n : ℤ}

theorem toDays_ofMarch (hmp : 0 ≤ mp ∧ mp ≤ 11) :
    toDays ⟨y + if marchMonth mp ≤ 2 then 1 else 0, marchMonth mp, doy - daysBeforeMonth mp + 1⟩ =
      y / 400 * 146097 + (daysBeforeYear (y % 400) + doy) - 719468 := by
  have hback : (if 2 < marchMonth mp then marchMonth mp - 3 else marchMonth mp + 9) = mp := by
    rw [marchMonth]
    split_ifs <;> omega
  have hyear : (if marchMonth mp ≤ 2 then (y + if marchMonth mp ≤ 2 then 1 else 0) - 1
      else y + if marchMonth mp ≤ 2 then 1 else 0) = y := by
    split_ifs <;> omega
  rw [toDays, hback, hyear, daysBeforeYear, daysBeforeMonth]
  dsimp only
  omega

theorem inYear_mod (h : InYear y doy) : InYear (y % 400) doy := by
  obtain ⟨hnonneg, hle, hleap⟩ := h
  refine ⟨hnonneg, hle, fun hlast => ?_⟩
  obtain ⟨hfour, hhundred⟩ := hleap hlast
  refine ⟨by omega, ?_⟩
  omega

theorem ofDays_ofMarch (h : InYear y doy) :
    ofDays (y / 400 * 146097 + (daysBeforeYear (y % 400) + doy) - 719468) = ofMarch y doy := by
  have hrange : 0 ≤ daysBeforeYear (y % 400) + doy ∧
      daysBeforeYear (y % 400) + doy < 146097 := by
    obtain ⟨hnonneg, hle, hleap⟩ := inYear_mod h
    rw [daysBeforeYear]
    constructor
    · omega
    · by_cases hlast : doy = 365
      · obtain ⟨hfour, hhundred⟩ := hleap hlast
        omega
      · omega
  have hday : (y / 400 * 146097 + (daysBeforeYear (y % 400) + doy) - 719468 + 719468) % 146097 =
      daysBeforeYear (y % 400) + doy := by omega
  have hera : (y / 400 * 146097 + (daysBeforeYear (y % 400) + doy) - 719468 + 719468) / 146097 =
      y / 400 := by omega
  rw [ofDays_eq, hday, hera, yearOfEra_daysBeforeYear (by omega) (inYear_mod h)]
  congr 1 <;> omega

/-- A date is found again from its day number. -/
theorem ofDays_toDays (h : Valid d) : ofDays (toDays d) = d := by
  obtain ⟨mp, hfirst, hlast, hmonth, hyear, hlt⟩ := h.exists_ofMarch
  obtain ⟨y, hy⟩ : ∃ y, y = if d.month ≤ 2 then d.year - 1 else d.year := ⟨_, rfl⟩
  obtain ⟨doy, hdoy⟩ : ∃ doy, doy = daysBeforeMonth mp + d.day - 1 := ⟨_, rfl⟩
  rw [← hy, ← hdoy] at hyear
  rw [← hdoy] at hlt
  have hd : d = ⟨y + if marchMonth mp ≤ 2 then 1 else 0, marchMonth mp,
      doy - daysBeforeMonth mp + 1⟩ := by
    have hday : doy - daysBeforeMonth mp + 1 = d.day := by omega
    have hsame : (y + if d.month ≤ 2 then 1 else 0) = d.year := by
      rw [hy]
      split_ifs <;> omega
    rw [← hmonth, hday, hsame]
  have hday := h.day_pos
  rw [hd, toDays_ofMarch ⟨hfirst, hlast⟩, ofDays_ofMarch hyear, ofMarch_eq ⟨by omega, hlt⟩]

/-- A day number has a date of the calendar. -/
theorem valid_ofDays (n : ℤ) : Valid (ofDays n) := by
  obtain ⟨yoe, doy, hyoe, hlt, hyear, hdoe⟩ :=
    exists_year_of_day ((n + 719468) % 146097) (by omega)
  rw [ofDays_eq, hdoe, yearOfEra_daysBeforeYear ⟨hyoe, hlt⟩ hyear, add_sub_cancel_left]
  refine valid_ofMarch ?_
  obtain ⟨hnonneg, hle, hleap⟩ := hyear
  refine ⟨hnonneg, hle, fun hlast => ?_⟩
  obtain ⟨hfour, hhundred⟩ := hleap hlast
  refine ⟨by omega, ?_⟩
  omega

theorem toDays_ofDays (n : ℤ) : toDays (ofDays n) = n := by
  obtain ⟨yoe, doy, hyoe, hlt, hyear, hdoe⟩ :=
    exists_year_of_day ((n + 719468) % 146097) (by omega)
  obtain ⟨mp, hmonth⟩ : ∃ mp, (5 * doy + 2) / 153 = mp := ⟨_, rfl⟩
  obtain ⟨hnonneg, hle, -⟩ := id hyear
  rw [ofDays_eq, hdoe, yearOfEra_daysBeforeYear ⟨hyoe, hlt⟩ hyear, add_sub_cancel_left,
    ofMarch_eq (month_of_day_iff.mp hmonth), toDays_ofMarch (by omega)]
  have hera : (yoe + (n + 719468) / 146097 * 400) / 400 = (n + 719468) / 146097 := by omega
  have hyear : (yoe + (n + 719468) / 146097 * 400) % 400 = yoe := by omega
  rw [hera, hyear]
  omega

/-- The day number of the first day of a month -/
def monthStart (m : ℤ) : ℤ := toDays (firstOfMonth m)

/-- The day of March with which a year begins -/
def yearStart (y : ℤ) : ℤ := y / 400 * 146097 + daysBeforeYear (y % 400) - 719468

theorem yearStart_succ (y : ℤ) :
    yearStart (y + 1) = yearStart y + if IsLeap (y + 1) then 366 else 365 := by
  rw [yearStart, yearStart, daysBeforeYear, daysBeforeYear]
  split
  · rename_i hleap
    obtain ⟨hfour, hhundred⟩ := hleap
    omega
  · rename_i hcommon
    have hcommon : 4 ∣ y + 1 → 100 ∣ y + 1 ∧ ¬ 400 ∣ y + 1 := by
      intro hfour
      by_contra hnot
      exact hcommon ⟨hfour, by omega⟩
    omega

theorem monthStart_eq (m : ℤ) :
    monthStart m = yearStart ((m - 2) / 12) + daysBeforeMonth ((m - 2) % 12) := by
  have hfirst : firstOfMonth m = ⟨(m - 2) / 12 + if marchMonth ((m - 2) % 12) ≤ 2 then 1 else 0,
      marchMonth ((m - 2) % 12),
      daysBeforeMonth ((m - 2) % 12) - daysBeforeMonth ((m - 2) % 12) + 1⟩ := by
    rw [firstOfMonth, marchMonth, CalendarDate.mk.injEq]
    refine ⟨?_, ?_, by omega⟩ <;> split_ifs <;> omega
  rw [monthStart, hfirst, toDays_ofMarch (by omega), yearStart]
  omega

/-- A month begins when the days of the one before it are over. -/
theorem monthStart_succ (m : ℤ) : monthStart (m + 1) = monthStart m + daysOfMonth m := by
  rw [monthStart_eq, monthStart_eq, daysOfMonth]
  by_cases hlast : (m - 2) % 12 = 11
  · have hyear : (m + 1 - 2) / 12 = (m - 2) / 12 + 1 := by omega
    have hmarch : (m + 1 - 2) % 12 = 0 := by omega
    have hmonth : m % 12 + 1 = 2 := by omega
    have hsame : m / 12 = (m - 2) / 12 + 1 := by omega
    rw [hyear, hmarch, hlast, hmonth, hsame, yearStart_succ, daysInMonth, if_pos rfl,
      daysBeforeMonth, daysBeforeMonth]
    split_ifs <;> omega
  · have hyear : (m + 1 - 2) / 12 = (m - 2) / 12 := by omega
    have hnext : (m + 1 - 2) % 12 = (m - 2) % 12 + 1 := by omega
    have hmonth : m % 12 + 1 = marchMonth ((m - 2) % 12) := by
      rw [marchMonth]
      split_ifs <;> omega
    rw [hyear, hnext, hmonth, daysInMonth_march (by omega)]
    omega

theorem le_daysOfMonth (m : ℤ) : 28 ≤ daysOfMonth m := le_daysInMonth

theorem monthStart_mono {m n : ℤ} (h : m ≤ n) : monthStart m ≤ monthStart n := by
  obtain ⟨k, rfl⟩ := Int.le.dest h
  clear h
  induction k with
  | zero => exact Int.le_of_eq (congrArg monthStart (add_zero m).symm)
  | succ k ih =>
    have hnext : monthStart (m + k + 1) = monthStart (m + k) + daysOfMonth (m + k) :=
      monthStart_succ _
    have hdays := le_daysOfMonth (m + k)
    rw [Nat.cast_succ, ← add_assoc, hnext]
    omega

theorem toDays_day (year month day : ℤ) :
    toDays ⟨year, month, day⟩ = toDays ⟨year, month, 1⟩ + (day - 1) := by
  rw [toDays, toDays]
  dsimp only
  omega

/-- The days of a month, counted from its first -/
theorem ofDays_monthStart_add {m k : ℤ} (h : 0 ≤ k ∧ k < daysOfMonth m) :
    ofDays (monthStart m + k) = ⟨m / 12, m % 12 + 1, k + 1⟩ := by
  have hvalid : Valid ⟨m / 12, m % 12 + 1, k + 1⟩ :=
    ⟨by dsimp only; omega, by dsimp only; omega, by dsimp only; omega, Int.add_one_le_of_lt h.2⟩
  have hdays : monthStart m + k = toDays ⟨m / 12, m % 12 + 1, k + 1⟩ := by
    rw [toDays_day, add_sub_cancel_right]
    rfl
  rw [hdays, ofDays_toDays hvalid]

section monthOf
variable (d)

theorem monthIndex_div (h : Valid d) : monthIndex d / 12 = d.year := by
  have := h.month_pos
  have := h.month_le
  rw [monthIndex]
  omega

theorem monthIndex_mod (h : Valid d) : monthIndex d % 12 + 1 = d.month := by
  have := h.month_pos
  have := h.month_le
  rw [monthIndex]
  omega

end monthOf

/-- A day is found in its month. -/
theorem eq_monthStart_add (n : ℤ) :
    n = monthStart (monthIndex (ofDays n)) + ((ofDays n).day - 1) := by
  have hvalid := valid_ofDays n
  rw [monthStart, firstOfMonth, monthIndex_div _ hvalid, monthIndex_mod _ hvalid, ← toDays_day]
  exact (toDays_ofDays n).symm

theorem day_bounds (n : ℤ) :
    1 ≤ (ofDays n).day ∧ (ofDays n).day ≤ daysOfMonth (monthIndex (ofDays n)) := by
  have hvalid := valid_ofDays n
  rw [daysOfMonth, monthIndex_div _ hvalid, monthIndex_mod _ hvalid]
  exact ⟨hvalid.day_pos, hvalid.day_le⟩

end days

end InstalFlow.CalendarDate
