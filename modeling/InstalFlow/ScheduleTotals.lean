import InstalFlow.InstallmentSchedule
import Mathlib.Algebra.Group.Subgroup.ZPowers.Basic
import Mathlib.Algebra.Order.Field.Basic

/-!
# What a schedule adds up to

A schedule splits the total rounded to kobo, while the contract keeps the total itself.
The two are the same for a total of whole kobo, and every month gets something of it when
there is a kobo for each.
-/

namespace InstalFlow

/-- The amounts of whole kobo -/
def kobo : AddSubgroup ℚ := AddSubgroup.zmultiples (1 / 100)

section numbers
variable {a : ℚ}

theorem mem_kobo : a ∈ kobo ↔ (a * 100).den = 1 := by
  rw [kobo, AddSubgroup.mem_zmultiples_iff, Rat.den_eq_one_iff]
  constructor
  · intro h
    obtain ⟨n, rfl⟩ := h
    have hn : n • (1 / 100 : ℚ) * 100 = n := by
      rw [zsmul_eq_mul]
      ring
    rw [hn, Rat.num_intCast]
  · intro h
    refine ⟨(a * 100).num, ?_⟩
    rw [zsmul_eq_mul, h]
    ring

instance : DecidablePred (· ∈ kobo) := fun _ => decidable_of_iff _ mem_kobo.symm

theorem cents_mem_kobo (n : ℤ) : (n / 100 : ℚ) ∈ kobo := by
  rw [mem_kobo, div_mul_cancel₀ _ (by norm_num)]
  exact Rat.den_intCast n

end numbers

namespace InstallmentService

/-- One row for each month, alike but for the last one, which is less than a kobo for each
month above the others; together they are the total. -/
structure AddsUp (p : ScheduleParams) (schedule : List InstallmentCreateInput) : Prop where
  sequences : schedule.map InstallmentCreateInput.sequence =
    (List.range p.months.toNat).map (· + 1)
  positive : ∀ r ∈ schedule, 0 < r.amount
  equal : ∀ r ∈ schedule, ∀ s ∈ schedule, r.sequence < p.months → s.sequence < p.months →
    r.amount = s.amount
  last : ∀ r ∈ schedule, ∀ l ∈ schedule, l.sequence = p.months →
    r.amount ≤ l.amount ∧ l.amount - r.amount < p.months / 100
  total : (schedule.map InstallmentCreateInput.amount).sum = p.totalAmount

section rounding
variable {a : ℚ}

theorem totalInCents_of_mem_kobo (h : a ∈ kobo) : (totalInCents a : ℚ) = a * 100 := by
  have hnum : (a * 100 : ℚ) = (a * 100).num := ((Rat.den_eq_one_iff _).mp (mem_kobo.mp h)).symm
  have hfloor : totalInCents a = (a * 100).num := by
    have hhalf : (1 / 2 : ℚ).floor = 0 := by decide +kernel
    rw [totalInCents, hnum, add_comm, Rat.floor_add_intCast, hhalf, zero_add]
    simp
  rw [hfloor, ← hnum]

/-- Rounding to kobo keeps exactly the amounts of whole kobo. -/
theorem roundedTotal_eq_iff : (totalInCents a : ℚ) / 100 = a ↔ a ∈ kobo := by
  constructor
  · intro h
    exact h ▸ cents_mem_kobo _
  · intro h
    rw [totalInCents_of_mem_kobo h, mul_div_cancel_right₀ _ (by norm_num)]

end rounding

section rows
variable {p : ScheduleParams} {schedule : List InstallmentCreateInput} {r l : InstallmentCreateInput}
  {total : ℤ} {months i : ℕ}

theorem installmentAmountInCents_of_lt (h : i + 1 < months) :
    installmentAmountInCents total months i = total / months := if_neg (by omega)

theorem installmentAmountInCents_last (h : i + 1 = months) :
    installmentAmountInCents total months i = total / months + total % months := if_pos h

/-- The last row has what the division leaves over. -/
theorem installmentAmountInCents_bounds (total : ℤ) (i : ℕ) (hmonths : 0 < months) :
    total / months ≤ installmentAmountInCents total months i ∧
      installmentAmountInCents total months i < total / months + months := by
  have hrest := Int.emod_nonneg total (b := (months : ℤ)) (by omega)
  have hless := Int.emod_lt_of_pos total (b := (months : ℤ)) (by omega)
  rw [installmentAmountInCents]
  split <;> omega

theorem cast_months (h : generateInstallmentSchedule p = .ok schedule) :
    ((p.months.toNat : ℕ) : ℤ) = p.months :=
  Int.toNat_of_nonneg (generateInstallmentSchedule_eq_ok.mp h).1.le

/-- Every month gets something of the total when there is a kobo for each. -/
theorem amounts_pos_iff (h : generateInstallmentSchedule p = .ok schedule) :
    (∀ r ∈ schedule, 0 < r.amount) ↔ p.months ≤ totalInCents p.totalAmount := by
  obtain ⟨hmonths, -, -⟩ := generateInstallmentSchedule_eq_ok.mp h
  have hcast := cast_months h
  have hpos (i : ℕ) : 0 < (scheduleRow p i).amount ↔
      0 < installmentAmountInCents (totalInCents p.totalAmount) p.months.toNat i := by
    rw [scheduleRow, div_pos_iff_of_pos_right (by norm_num), Int.cast_pos]
  have hle : p.months ≤ totalInCents p.totalAmount ↔
      1 ≤ totalInCents p.totalAmount / p.months := by
    rw [Int.le_ediv_iff_mul_le hmonths, one_mul]
  constructor
  · intro hall
    have hfirst := (hpos 0).mp (hall _ ((mem_schedule h).mpr ⟨0, by omega, rfl⟩))
    by_cases hone : p.months.toNat = 1
    · rw [hone, installmentAmountInCents_last rfl] at hfirst
      omega
    · rw [installmentAmountInCents_of_lt (by omega), hcast] at hfirst
      exact hle.mpr hfirst
  · intro hcents r hr
    obtain ⟨i, -, rfl⟩ := (mem_schedule h).mp hr
    have hmonths : 0 < p.months.toNat := by omega
    have hbounds := (installmentAmountInCents_bounds (totalInCents p.totalAmount) i hmonths).1
    rw [hcast] at hbounds
    have hbase := hle.mp hcents
    exact (hpos i).mpr (by omega)

theorem sequences_schedule (h : generateInstallmentSchedule p = .ok schedule) :
    schedule.map InstallmentCreateInput.sequence = (List.range p.months.toNat).map (· + 1) := by
  obtain ⟨-, -, rfl⟩ := generateInstallmentSchedule_eq_ok.mp h
  rw [List.map_map]
  rfl

/-- The months before the last get the same. -/
theorem amount_of_sequence_lt (h : generateInstallmentSchedule p = .ok schedule)
    (hr : r ∈ schedule) (hlt : r.sequence < p.months) :
    r.amount = (totalInCents p.totalAmount / p.months : ℤ) / 100 := by
  obtain ⟨i, -, rfl⟩ := (mem_schedule h).mp hr
  have hlt : ((i + 1 : ℕ) : ℤ) < p.months := hlt
  rw [scheduleRow, installmentAmountInCents_of_lt (by omega), cast_months h]

theorem amount_last_bounds (h : generateInstallmentSchedule p = .ok schedule)
    (hr : r ∈ schedule) (hl : l ∈ schedule) (hlast : l.sequence = p.months) :
    r.amount ≤ l.amount ∧ l.amount - r.amount < p.months / 100 := by
  obtain ⟨hmonths, -, -⟩ := generateInstallmentSchedule_eq_ok.mp h
  have hcast := cast_months h
  obtain ⟨j, -, rfl⟩ := (mem_schedule h).mp hl
  have hlast : ((j + 1 : ℕ) : ℤ) = p.months := hlast
  have hpos : 0 < p.months.toNat := by omega
  have hbounds := installmentAmountInCents_bounds (totalInCents p.totalAmount) j hpos
  rw [hcast] at hbounds
  have hamount (i : ℕ) : (scheduleRow p i).amount =
      (installmentAmountInCents (totalInCents p.totalAmount) p.months.toNat i : ℚ) / 100 := rfl
  by_cases hsame : r.sequence = p.months
  · obtain ⟨i, -, rfl⟩ := (mem_schedule h).mp hr
    have hsame : ((i + 1 : ℕ) : ℤ) = p.months := hsame
    obtain rfl : i = j := by omega
    rw [sub_self]
    exact ⟨le_rfl, div_pos (mod_cast hmonths) (by norm_num)⟩
  · have hlt : (r.sequence : ℤ) < p.months := by
      obtain ⟨i, hi, rfl⟩ := (mem_schedule h).mp hr
      have hsame : ((i + 1 : ℕ) : ℤ) ≠ p.months := hsame
      change ((i + 1 : ℕ) : ℤ) < p.months
      omega
    rw [amount_of_sequence_lt h hr hlt, hamount, ← sub_div, ← Int.cast_sub]
    constructor
    · exact div_le_div_of_nonneg_right (mod_cast hbounds.1) (by norm_num)
    · exact div_lt_div_of_pos_right (mod_cast by omega) (by norm_num)

end rows

/-- A schedule of a positive total adds up to it exactly when the total is of whole kobo
and has one for each month. -/
theorem schedule_adds_up_iff {p : ScheduleParams} (hmonths : 1 ≤ p.months)
    (htotal : 0 < p.totalAmount) :
    (∃ schedule, generateInstallmentSchedule p = .ok schedule ∧ AddsUp p schedule) ↔
      p.totalAmount ∈ kobo ∧ (p.months : ℚ) ≤ p.totalAmount * 100 := by
  have hok := generateInstallmentSchedule_eq_ok.mpr ⟨Int.lt_of_lt_of_le one_pos hmonths, htotal, rfl⟩
  constructor
  · intro hadds
    obtain ⟨schedule, h, hadds⟩ := hadds
    have hkobo : p.totalAmount ∈ kobo :=
      roundedTotal_eq_iff.mp ((sum_schedule h).symm.trans hadds.total)
    refine ⟨hkobo, ?_⟩
    rw [← totalInCents_of_mem_kobo hkobo]
    exact_mod_cast (amounts_pos_iff h).mp hadds.positive
  · intro hcondition
    obtain ⟨hkobo, hcents⟩ := hcondition
    rw [← totalInCents_of_mem_kobo hkobo] at hcents
    refine ⟨_, hok, sequences_schedule hok, (amounts_pos_iff hok).mpr (mod_cast hcents), ?_, ?_, ?_⟩
    · intro r hr s hs hr_lt hs_lt
      rw [amount_of_sequence_lt hok hr hr_lt, amount_of_sequence_lt hok hs hs_lt]
    · exact fun r hr l hl hlast => amount_last_bounds hok hr hl hlast
    · exact (sum_schedule hok).trans (roundedTotal_eq_iff.mpr hkobo)

/-- 1,000 at 30 percent in a year, whose last month is 4 kobo more than the others. -/
theorem schedule_adds_up_1300 : ∃ schedule,
    generateInstallmentSchedule ⟨"lease", 1000 + 1000 * (30 / 100), 12, 0⟩ = .ok schedule ∧
      AddsUp ⟨"lease", 1000 + 1000 * (30 / 100), 12, 0⟩ schedule :=
  (schedule_adds_up_iff (by decide) (by norm_num)).mpr
    ⟨mem_kobo.mpr (by decide +kernel), by norm_num⟩

/-- 100.01 at 33 percent is 133.0133, of which 133.01 are scheduled; and 3 kobo leave
nothing for the first eleven months of a year. -/
theorem schedule_short :
    (¬ ∃ schedule,
      generateInstallmentSchedule ⟨"lease", 100.01 + 100.01 * (33 / 100), 3, 0⟩ = .ok schedule ∧
        AddsUp ⟨"lease", 100.01 + 100.01 * (33 / 100), 3, 0⟩ schedule) ∧
    ¬ ∃ schedule, generateInstallmentSchedule ⟨"lease", 0.03, 12, 0⟩ = .ok schedule ∧
      AddsUp ⟨"lease", 0.03, 12, 0⟩ schedule := by
  constructor
  · rintro ⟨schedule, h, hadds⟩
    have htotal := (sum_schedule h).symm.trans hadds.total
    exact absurd htotal (by decide +kernel)
  · rintro ⟨schedule, h, hadds⟩
    have hfirst := hadds.positive _ ((mem_schedule h).mpr ⟨0, by decide, rfl⟩)
    exact absurd hfirst (by decide +kernel)

end InstallmentService
end InstalFlow
