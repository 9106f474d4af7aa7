import InstalFlow.Calendar
import InstalFlow.PaymentEffects
import Mathlib.Algebra.BigOperators.Ring.List
import Mathlib.Tactic.Linarith

/-!
# The schedule of a contract

`generateInstallmentSchedule` splits an amount, rounded to cents, into equal
installments a month apart; what the division leaves over goes to the last one.
`createMany` stores the rows of a schedule under the unique pair of contract and
sequence, all of them or none.
-/

namespace InstalFlow
open Relational

structure InstallmentCreateInput where
  financingContractId : String
  amount : ℚ
  dueDate : DateTime
  sequence : ℕ
  status : InstallmentStatus := .pending

def InstallmentCreateInput.row (r : InstallmentCreateInput) (installmentId : String) :
    Installment where
  installmentId := installmentId
  financingContractId := r.financingContractId
  dueDate := r.dueDate
  amount := r.amount
  sequence := r.sequence
  status := r.status

structure ScheduleParams where
  financingContractId : String
  totalAmount : ℚ
  months : ℤ
  firstPaymentDate : DateTime

namespace InstallmentService

/-- `Math.round(totalAmount * 100)` -/
def totalInCents (totalAmount : ℚ) : ℤ := (totalAmount * 100 + 1 / 2).floor

def installmentAmountInCents (totalInCents : ℤ) (months i : ℕ) : ℤ :=
  if i + 1 = months then totalInCents / months + totalInCents % months else totalInCents / months

def scheduleRow (p : ScheduleParams) (i : ℕ) : InstallmentCreateInput where
  financingContractId := p.financingContractId
  amount := installmentAmountInCents (totalInCents p.totalAmount) p.months.toNat i / 100
  dueDate := DateTime.addMonthsClamped p.firstPaymentDate i
  sequence := i + 1

def generateInstallmentSchedule (p : ScheduleParams) :
    Except AppError (List InstallmentCreateInput) :=
  if p.months ≤ 0 then .error (.error "Months must be greater than 0")
  else if p.totalAmount ≤ 0 then
    .error (.error "totalAmount must be a positive finite number")
  else .ok ((List.range p.months.toNat).map (scheduleRow p))

def sequenceTaken (financingContractId : String) (sequence : ℕ) (db : Database) : Bool :=
  db.installments.rows.any
    (fun i => i.financingContractId = financingContractId ∧ i.sequence = sequence)

/-- `createMany`, the row number `n` of a schedule getting the id `installmentId n`. -/
def createInstallments (installmentId : ℕ → String) :
    List InstallmentCreateInput → Database → Except AppError Database
  | [], db => .ok db
  | r :: schedule, db =>
    if sequenceTaken r.financingContractId r.sequence db then
      .error (.uniqueViolation ["financingContractId", "sequence"])
    else
      match createRow db.installments (r.row (installmentId r.sequence)) ["installmentId"] with
      | .error err => .error err
      | .ok installments => createInstallments installmentId schedule { db with installments }

section schedule
variable {p : ScheduleParams} {schedule : List InstallmentCreateInput}

theorem generateInstallmentSchedule_eq_ok : generateInstallmentSchedule p = .ok schedule ↔
    0 < p.months ∧ 0 < p.totalAmount ∧
      schedule = (List.range p.months.toNat).map (scheduleRow p) := by
  rw [generateInstallmentSchedule]
  split
  · rename_i hmonths
    exact iff_of_false (fun h => nomatch h) fun h => absurd h.1 (not_lt.mpr hmonths)
  · split
    · rename_i htotal
      exact iff_of_false (fun h => nomatch h) fun h => absurd h.2.1 (not_lt.mpr htotal)
    · rename_i hmonths htotal
      rw [Except.ok.injEq]
      exact ⟨fun h => ⟨not_le.mp hmonths, not_le.mp htotal, h.symm⟩, fun h => h.2.2.symm⟩

theorem sum_installmentAmountInCents (total : ℤ) {months : ℕ} (h : 0 < months) :
    ((List.range months).map (installmentAmountInCents total months)).sum = total := by
  obtain ⟨n, rfl⟩ : ∃ n, months = n + 1 := ⟨months - 1, by omega⟩
  have hbase : (List.range n).map (installmentAmountInCents total (n + 1)) =
      (List.range n).map fun _ => total / (n + 1 : ℕ) := by
    refine List.map_congr_left fun i hi => if_neg ?_
    have := List.mem_range.mp hi
    omega
  rw [List.range_succ, List.map_append, List.sum_append, hbase, List.map_const',
    List.sum_replicate, List.length_range, List.map_singleton, List.sum_singleton,
    installmentAmountInCents, if_pos rfl, nsmul_eq_mul]
  have hdiv := Int.mul_ediv_add_emod total (n + 1 : ℕ)
  push_cast at hdiv ⊢
  linarith

/-- The amounts of a schedule add up to the total, rounded to cents. -/
theorem sum_schedule (h : generateInstallmentSchedule p = .ok schedule) :
    (schedule.map InstallmentCreateInput.amount).sum = (totalInCents p.totalAmount : ℚ) / 100 := by
  obtain ⟨hmonths, -, rfl⟩ := generateInstallmentSchedule_eq_ok.mp h
  have hcents := sum_installmentAmountInCents (totalInCents p.totalAmount)
    (show 0 < p.months.toNat by omega)
  have hamount : InstallmentCreateInput.amount ∘ scheduleRow p = fun i =>
      (installmentAmountInCents (totalInCents p.totalAmount) p.months.toNat i : ℚ) * (1 / 100) := by
    funext i
    rw [mul_one_div]
    rfl
  rw [List.map_map, hamount, List.sum_map_mul_right, mul_one_div]
  have hcast : (List.range p.months.toNat).map (fun i =>
        (installmentAmountInCents (totalInCents p.totalAmount) p.months.toNat i : ℚ)) =
      ((List.range p.months.toNat).map (installmentAmountInCents
        (totalInCents p.totalAmount) p.months.toNat)).map (Int.castRingHom ℚ) := by
    rw [List.map_map]
    rfl
  rw [hcast, ← map_list_sum (Int.castRingHom ℚ), hcents]
  rfl

theorem mem_schedule (h : generateInstallmentSchedule p = .ok schedule)
    {r : InstallmentCreateInput} : r ∈ schedule ↔ ∃ i < p.months.toNat, scheduleRow p i = r := by
  obtain ⟨-, -, rfl⟩ := generateInstallmentSchedule_eq_ok.mp h
  simp

theorem totalInCents_nonneg {totalAmount : ℚ} (h : 0 ≤ totalAmount) :
    0 ≤ totalInCents totalAmount := by
  rw [totalInCents, Rat.le_floor_iff]
  push_cast
  linarith

theorem amount_nonneg (h : generateInstallmentSchedule p = .ok schedule)
    {r : InstallmentCreateInput} (hr : r ∈ schedule) : 0 ≤ r.amount := by
  obtain ⟨hmonths, htotal, -⟩ := generateInstallmentSchedule_eq_ok.mp h
  obtain ⟨i, -, rfl⟩ := (mem_schedule h).mp hr
  have hcents := totalInCents_nonneg htotal.le
  have hbase : 0 ≤ installmentAmountInCents (totalInCents p.totalAmount) p.months.toNat i := by
    rw [installmentAmountInCents]
    have hdiv := Int.ediv_nonneg hcents (Int.natCast_nonneg p.months.toNat)
    have hmod := Int.emod_nonneg (totalInCents p.totalAmount)
      (b := (p.months.toNat : ℤ)) (by omega)
    split <;> omega
  exact div_nonneg (mod_cast hbase) (by norm_num)

theorem nodup_schedule (h : generateInstallmentSchedule p = .ok schedule) :
    (schedule.map InstallmentCreateInput.sequence).Nodup := by
  obtain ⟨-, -, rfl⟩ := generateInstallmentSchedule_eq_ok.mp h
  rw [List.map_map]
  refine List.nodup_range.map fun i j hij => ?_
  simpa [scheduleRow] using hij

end schedule

section create
variable {installmentId : ℕ → String} {schedule : List InstallmentCreateInput}

theorem sequenceTaken_eq_false_iff {financingContractId : String} {sequence : ℕ} {db : Database} :
    sequenceTaken financingContractId sequence db = false ↔ ∀ i ∈ db.installments.rows,
      i.financingContractId = financingContractId → i.sequence ≠ sequence := by
  simp [sequenceTaken]

theorem createInstallments_eq_ok {db db' : Database}
    (h : createInstallments installmentId schedule db = .ok db') :
    ∃ installments, db' = { db with installments } ∧
      installments.rows =
        db.installments.rows ++ schedule.map (fun r => r.row (installmentId r.sequence)) ∧
      ∀ r ∈ schedule, sequenceTaken r.financingContractId r.sequence db = false := by
  induction schedule generalizing db with
  | nil =>
    cases h
    exact ⟨_, rfl, by simp, by simp⟩
  | cons r schedule ih =>
    rw [createInstallments] at h
    split at h
    · cases h
    · rename_i htaken
      split at h
      · cases h
      · rename_i created hcreate
        obtain ⟨installments, rfl, hrows, hfree⟩ := ih h
        have hcreated := (Table.create_eq_some (createRow_eq_ok.mp hcreate)).2
        refine ⟨installments, rfl, ?_, ?_⟩
        · rw [hrows, hcreated, List.map_cons, List.append_assoc, List.singleton_append]
        · intro s hs
          rcases List.mem_cons.mp hs with rfl | hs
          · simpa using htaken
          · -- a row that is free after the first one is created was free before
            refine sequenceTaken_eq_false_iff.mpr fun i hi => ?_
            refine sequenceTaken_eq_false_iff.mp (hfree s hs) i ?_
            rw [hcreated]
            exact List.mem_append_left _ hi

theorem createInstallments_isOk {db : Database} (hid : Function.Injective installmentId)
    (hseq : (schedule.map InstallmentCreateInput.sequence).Nodup)
    (hfresh : ∀ n, db.installments.find? (installmentId n) = none)
    (hfree : ∀ r ∈ schedule, sequenceTaken r.financingContractId r.sequence db = false) :
    ∃ db', createInstallments installmentId schedule db = .ok db' := by
  suffices h : ∀ schedule : List InstallmentCreateInput, ∀ db : Database,
      (schedule.map InstallmentCreateInput.sequence).Nodup →
      (∀ r ∈ schedule, db.installments.find? (installmentId r.sequence) = none) →
      (∀ r ∈ schedule, sequenceTaken r.financingContractId r.sequence db = false) →
      ∃ db', createInstallments installmentId schedule db = .ok db' from
    h schedule db hseq (fun r _ => hfresh r.sequence) hfree
  intro schedule
  induction schedule with
  | nil => exact fun db _ _ _ => ⟨db, rfl⟩
  | cons r schedule ih =>
    intro db hseq hfresh hfree
    obtain ⟨hnot, hseq⟩ := List.nodup_cons.mp hseq
    have hne : ∀ s ∈ schedule, s.sequence ≠ r.sequence := fun s hs he =>
      hnot (List.mem_map.mpr ⟨s, hs, he⟩)
    obtain ⟨installments, hcreate⟩ := Table.create_isSome
      (r := r.row (installmentId r.sequence)) (hfresh r List.mem_cons_self)
    have hok : createRow db.installments (r.row (installmentId r.sequence)) ["installmentId"] =
        .ok installments := createRow_eq_ok.mpr hcreate
    rw [createInstallments, hfree r List.mem_cons_self, if_neg Bool.false_ne_true, hok]
    refine ih _ hseq (fun s hs => ?_) fun s hs => ?_
    · have hid : installmentId s.sequence ≠ installmentId r.sequence := fun he => hne s hs (hid he)
      rw [Table.find?_create hcreate]
      exact (if_neg hid).trans (hfresh s (List.mem_cons_of_mem r hs))
    · refine sequenceTaken_eq_false_iff.mpr fun i hi hc => ?_
      have hi : i ∈ installments.rows := hi
      rw [(Table.create_eq_some hcreate).2, List.mem_append, List.mem_singleton] at hi
      rcases hi with hi | rfl
      · exact sequenceTaken_eq_false_iff.mp (hfree s (List.mem_cons_of_mem r hs)) i hi hc
      · exact fun he => hne s hs he.symm

end create
end InstallmentService
end InstalFlow
