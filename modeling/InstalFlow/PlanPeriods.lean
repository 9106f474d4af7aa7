import InstalFlow.DueDates
import InstalFlow.OnboardingWorker
import Mathlib.Tactic.Linarith

/-!
# The period of a plan

A verification moves the end of the period by the interval of the plan, the onboarding job by a
month or not at all. A month later is the day of the same number, which runs over when the next
month does not have it.
-/

namespace InstalFlow
open CalendarDate InstallmentService

namespace TimeZone
variable (zone : TimeZone)

def setFullYear (t : DateTime) (year : ℤ) : Option DateTime :=
  timeClip (zone.instant (makeDay year (zone.getMonth t) (zone.getDate t)) (zone.timeOfDay t))

end TimeZone

def SubscriptionService.endDate (zone : TimeZone) (interval : SubscriptionInterval)
    (now : DateTime) : Option DateTime :=
  match interval with
  | .weekly => zone.setDate now (zone.getDate now + 7)
  | .monthly => zone.setMonth now (zone.getMonth now + 1)
  | .yearly => zone.setFullYear now (zone.getFullYear now + 1)

def OnboardingWorker.endDate (zone : TimeZone) (interval : SubscriptionInterval)
    (now : DateTime) : Option DateTime :=
  match interval with
  | .monthly => zone.setMonth now (zone.getMonth now + 1)
  | _ => some now

/-- Both paths grant the period up to one date, later than its start and, of a MONTHLY plan, in
the month that follows. -/
def GrantsSamePeriod (zone : TimeZone) (interval : SubscriptionInterval) (now : DateTime) : Prop :=
  ∃ endDate, SubscriptionService.endDate zone interval now = some endDate ∧
    OnboardingWorker.endDate zone interval now = some endDate ∧ now < endDate ∧
    (interval = .monthly →
      (zone.localDate endDate).monthIndex = (zone.localDate now).monthIndex + 1)

section periods
variable {zone : TimeZone} {now : DateTime}

theorem makeDay_next (n : ℤ) : makeDay (zone.getFullYear now) (zone.getMonth now + n)
    (zone.getDate now) = monthStart (targetMonth zone now n) + ((zone.localDate now).day - 1) := by
  have hmonth : 12 * (zone.localDate now).year + ((zone.localDate now).month - 1 + n) =
      targetMonth zone now n := by
    rw [targetMonth, monthIndex]
    ring
  rw [TimeZone.getFullYear, TimeZone.getMonth, TimeZone.getDate, makeDay_eq, hmonth]

theorem setMonth_next : zone.setMonth now (zone.getMonth now + 1) =
    timeClip (instantOf zone now (targetMonth zone now 1) (zone.localDate now).day) := by
  rw [TimeZone.setMonth, makeDay_next]
  rfl

/-- A month later is as many days later as the month has. -/
theorem instantOf_next : instantOf zone now (targetMonth zone now 1) (zone.localDate now).day =
    now + daysOfMonth (zone.localDate now).monthIndex * msPerDay := by
  have hday : monthStart (targetMonth zone now 1) + ((zone.localDate now).day - 1) =
      zone.localDay now + daysOfMonth (zone.localDate now).monthIndex := by
    have hnow := eq_monthStart_add (zone.localDay now)
    change zone.localDay now = monthStart (zone.localDate now).monthIndex +
      ((zone.localDate now).day - 1) at hnow
    rw [targetMonth, monthStart_succ]
    omega
  rw [instantOf, hday, TimeZone.instant, TimeZone.localDay, TimeZone.timeOfDay, add_mul]
  have hsplit := Int.ediv_mul_add_emod (now + zone.offset) msPerDay
  linarith

/-- The day runs over into the month after the next when the next does not have it. -/
theorem monthIndex_next_iff : (zone.localDate (instantOf zone now (targetMonth zone now 1)
      (zone.localDate now).day)).monthIndex = targetMonth zone now 1 ↔
    (zone.localDate now).day ≤ daysOfMonth (targetMonth zone now 1) := by
  have hbounds : 1 ≤ (zone.localDate now).day ∧ (zone.localDate now).day ≤ 31 := by
    obtain ⟨hpos, hle⟩ := day_bounds (zone.localDay now)
    exact ⟨hpos, hle.trans daysInMonth_le⟩
  have hmonth (m day : ℤ) : monthIndex ⟨m / 12, m % 12 + 1, day⟩ = m := by
    rw [monthIndex]
    dsimp only
    omega
  constructor
  · intro h
    by_contra hover
    have hnext : instantOf zone now (targetMonth zone now 1) (zone.localDate now).day =
        instantOf zone now (targetMonth zone now 1 + 1)
          ((zone.localDate now).day - daysOfMonth (targetMonth zone now 1)) := by
      rw [instantOf, instantOf, monthStart_succ]
      congr 1
      omega
    have hdays := le_daysOfMonth (targetMonth zone now 1)
    have hdays' := le_daysOfMonth (targetMonth zone now 1 + 1)
    rw [hnext, localDate_instantOf ⟨by omega, by omega⟩, hmonth] at h
    omega
  · intro h
    rw [localDate_instantOf ⟨hbounds.1, h⟩, hmonth]

theorem makeDay_days (n : ℤ) : makeDay (zone.getFullYear now) (zone.getMonth now)
    (zone.getDate now + n) = zone.localDay now + n := by
  have hnow := eq_monthStart_add (zone.localDay now)
  change zone.localDay now = monthStart (zone.localDate now).monthIndex +
    ((zone.localDate now).day - 1) at hnow
  have hmonth : 12 * (zone.localDate now).year + ((zone.localDate now).month - 1) =
      (zone.localDate now).monthIndex := rfl
  rw [TimeZone.getFullYear, TimeZone.getMonth, TimeZone.getDate, makeDay_eq, hmonth]
  omega

end periods

section utc
variable (interval : SubscriptionInterval) (now : DateTime)

theorem instant_utc (day : ℤ) : TimeZone.utc.instant day (TimeZone.utc.timeOfDay now) =
    day * msPerDay + now % msPerDay := by
  rw [TimeZone.instant, TimeZone.timeOfDay, TimeZone.utc, add_zero, sub_zero]

theorem localDay_utc : TimeZone.utc.localDay now = now / msPerDay := by
  rw [TimeZone.localDay, TimeZone.utc, add_zero]

theorem setMonth_utc (n : ℤ) : TimeZone.utc.setMonth now (TimeZone.utc.getMonth now + n) =
    timeClip (DateTime.addMonths now n) := by
  rw [TimeZone.setMonth, instant_utc, TimeZone.getFullYear, TimeZone.getMonth, TimeZone.getDate,
    TimeZone.localDate, localDay_utc, makeDay, DateTime.addMonths]

/-- The end date that the verification writes -/
theorem SubscriptionService.endDate_utc : SubscriptionService.endDate TimeZone.utc interval now =
    timeClip (SubscriptionService.periodEnd interval now) := by
  cases interval with
  | weekly =>
    have hsplit := Int.ediv_mul_add_emod now msPerDay
    rw [SubscriptionService.endDate, SubscriptionService.periodEnd, DateTime.addDays,
      TimeZone.setDate, makeDay_days, instant_utc, localDay_utc, add_mul]
    congr 1
    linarith
  | monthly => exact setMonth_utc now 1
  | yearly =>
    have hyear (year month : ℤ) : year + 1 + month / 12 = year + (month + 12) / 12 := by omega
    have hmonth (month : ℤ) : month % 12 = (month + 12) % 12 := by omega
    rw [SubscriptionService.endDate, TimeZone.setFullYear, makeDay, hyear, hmonth, ← makeDay]
    exact setMonth_utc now 12

/-- The end date that the onboarding job writes -/
theorem OnboardingWorker.endDate_utc (h : Representable now) :
    OnboardingWorker.endDate TimeZone.utc interval now =
      timeClip (OnboardingWorker.periodEnd interval now) := by
  cases interval with
  | monthly => exact setMonth_utc now 1
  | weekly => exact (if_pos h).symm
  | yearly => exact (if_pos h).symm

end utc

/-- The two paths grant the same period for a MONTHLY plan when the next month has the day. -/
theorem grants_same_period_iff (zone : TimeZone) (interval : SubscriptionInterval)
    (now : DateTime) : GrantsSamePeriod zone interval now ↔
      interval = .monthly ∧ (zone.localDate now).day ≤ daysOfMonth (targetMonth zone now 1) ∧
        Representable (now + daysOfMonth (zone.localDate now).monthIndex * msPerDay) := by
  constructor
  · rintro ⟨endDate, hverified, honboarded, hlater, hmonth⟩
    cases interval with
    | weekly =>
      obtain rfl := Option.some.inj honboarded
      exact absurd hlater (lt_irrefl _)
    | yearly =>
      obtain rfl := Option.some.inj honboarded
      exact absurd hlater (lt_irrefl _)
    | monthly =>
      obtain ⟨hrange, rfl⟩ := timeClip_eq_some.mp (setMonth_next.symm.trans hverified)
      exact ⟨rfl, monthIndex_next_iff.mp (hmonth rfl), instantOf_next ▸ hrange⟩
  · rintro ⟨rfl, hday, hrange⟩
    have hend : zone.setMonth now (zone.getMonth now + 1) = some (instantOf zone now
        (targetMonth zone now 1) (zone.localDate now).day) :=
      setMonth_next.trans (timeClip_eq_some.mpr ⟨instantOf_next.symm ▸ hrange, rfl⟩)
    refine ⟨_, hend, hend, ?_, fun _ => monthIndex_next_iff.mpr hday⟩
    have hdays := le_daysOfMonth (zone.localDate now).monthIndex
    rw [instantOf_next]
    exact Int.lt_add_of_pos_right now (Int.mul_pos (by omega) (by decide))

/-- The 31st of January 2026, of which the next month has no such day -/
def lastOfJanuary : DateTime := 20484 * msPerDay

/-- No plan has one period of a month from there: the job ends a WEEKLY or YEARLY period where it
starts, and both paths end a MONTHLY one in March. -/
theorem unequal_periods :
    (OnboardingWorker.endDate .utc .weekly lastOfJanuary = some lastOfJanuary ∧
      SubscriptionService.endDate .utc .weekly lastOfJanuary =
        some (lastOfJanuary + 7 * msPerDay)) ∧
    (OnboardingWorker.endDate .utc .yearly lastOfJanuary = some lastOfJanuary ∧
      SubscriptionService.endDate .utc .yearly lastOfJanuary =
        some (lastOfJanuary + 365 * msPerDay)) ∧
    ((SubscriptionService.endDate .utc .monthly lastOfJanuary).map
      (TimeZone.localDate .utc)).map monthIndex =
        some ((TimeZone.utc.localDate lastOfJanuary).monthIndex + 2) ∧
    ∀ interval, ¬ GrantsSamePeriod .utc interval lastOfJanuary := by
  have hmarch : ((SubscriptionService.endDate .utc .monthly lastOfJanuary).map
      (TimeZone.localDate .utc)).map monthIndex =
        some ((TimeZone.utc.localDate lastOfJanuary).monthIndex + 2) := by decide +kernel
  refine ⟨by decide +kernel, by decide +kernel, hmarch, fun interval => ?_⟩
  rintro ⟨endDate, hverified, honboarded, hlater, hmonth⟩
  cases interval with
  | weekly =>
    obtain rfl := Option.some.inj honboarded
    exact absurd hlater (lt_irrefl _)
  | yearly =>
    obtain rfl := Option.some.inj honboarded
    exact absurd hlater (lt_irrefl _)
  | monthly =>
    rw [hverified, Option.map_some, Option.map_some, Option.some.injEq, hmonth rfl] at hmarch
    omega

end InstalFlow
