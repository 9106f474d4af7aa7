import InstalFlow.InstallmentReminders
import InstalFlow.Numbers.Binary64
import InstalFlow.WriteOffs

/-!
# How much of a contract is paid

Four places compute the percentage of a contract that is PAID, to two decimals. The payment worker
divides by the amounts of all installments, the others by the total of the contract, and one of
these does so in binary floating point.
-/

namespace InstalFlow
open Relational Transition

structure Progress where
  percentagePaid : ℚ
  totalFinanced : ℚ
  totalPaid : ℚ

namespace InstallmentService

/-- A customer without a company is not one who does not exist. -/
def assertContractAccess (financingContractId callerId : String) (callerRole : Role)
    (callerCompanyId : Option String) (db : Database) : Except AppError Unit :=
  match db.financingContracts.find? financingContractId with
  | none => .error (.notFound "Financing contract not found")
  | some contract =>
    if callerRole = .customer then
      if contract.userId ≠ some callerId then .error (.notFound "Financing contract not found")
      else .ok ()
    else if callerRole = .superAdmin then .ok ()
    else if (contract.userId.bind db.users.find?).map User.companyId ≠ callerCompanyId.map some then
      .error (.notFound "Financing contract not found")
    else .ok ()

/-- `Number((x / y * 100).toFixed(2))` of two Numbers -/
def numberPercentage (x y : ℚ) : ℚ :=
  PaymentWorker.roundCents (Binary64.nearest (Binary64.nearest (x / y) * 100))

def calculateProgressPercentage (financingContractId callerId : String) (callerRole : Role)
    (callerCompanyId : Option String) (db : Database) : Except AppError Progress := do
  assertContractAccess financingContractId callerId callerRole callerCompanyId db
  match db.financingContracts.find? financingContractId with
  | none => .error (.notFound "Financing contract not found")
  | some contract =>
    let totalFinanced := Binary64.nearest contract.totalFinanced
    let totalPaid := Binary64.nearest (FinancingService.paidAmount financingContractId db)
    let percentagePaid := if totalFinanced = 0 then 0 else numberPercentage totalPaid totalFinanced
    return { totalFinanced, totalPaid, percentagePaid }

end InstallmentService

namespace CustomerManagementService

def calculateProgressPercentage (financingContractId : String) (db : Database) :
    Except AppError Progress :=
  match db.financingContracts.find? financingContractId with
  | none => .error (.notFound "Financing contract not found")
  | some contract =>
    let totalFinanced := contract.totalFinanced
    let totalPaid := FinancingService.paidAmount financingContractId db
    let percentagePaid :=
      if totalFinanced = 0 then 0 else PaymentWorker.roundCents (totalPaid / totalFinanced * 100)
    .ok { totalFinanced, totalPaid, percentagePaid }

end CustomerManagementService

/-- The four figures are one, between 0 and 100, and 100 when nothing is outstanding. -/
structure FiguresAgree (contractId : String) (db : Database) : Prop where
  reminder : PaymentReminderWorker.calculateProgress contractId db =
    PaymentWorker.percentagePaid contractId db
  installment : ∀ callerId callerRole callerCompanyId progress,
    InstallmentService.calculateProgressPercentage contractId callerId callerRole callerCompanyId db =
      .ok progress → progress.percentagePaid = PaymentWorker.percentagePaid contractId db
  customer : ∀ progress,
    CustomerManagementService.calculateProgressPercentage contractId db = .ok progress →
      progress.percentagePaid = PaymentWorker.percentagePaid contractId db
  nonneg : 0 ≤ PaymentWorker.percentagePaid contractId db
  le_hundred : PaymentWorker.percentagePaid contractId db ≤ 100
  complete : PaymentWorker.percentagePaid contractId db = 100 ↔
    ∀ i ∈ db.installments.rows, i.financingContractId = contractId → i.status.settled = true

/-- The contract has been activated. -/
def Activated (contractId : String) (db : Database) : Prop :=
  ∃ c ∈ db.financingContracts.find? contractId, c.status ≠ .pendingActivation

/-- A percentage in the middle between two of two decimals -/
def Halfway (percentage : ℚ) : Prop := percentage * 100 - ⌊percentage * 100⌋ = 1 / 2

instance (percentage : ℚ) : Decidable (Halfway percentage) := inferInstanceAs (Decidable (_ = _))

/-- The total is of whole kobo and not over a hundred million, and an equal installment is more
than one 20000th of it. -/
def PlainTotal (totalFinanced : ℚ) (months : ℤ) : Prop :=
  (InstallmentService.totalInCents totalFinanced : ℚ) / 100 = totalFinanced ∧
    totalFinanced ≤ 10 ^ 8 ∧
    totalFinanced * 100 < 20000 * (InstallmentService.totalInCents totalFinanced / months : ℤ)

instance (totalFinanced : ℚ) (months : ℤ) : Decidable (PlainTotal totalFinanced months) :=
  inferInstanceAs (Decidable (_ ∧ _ ∧ _))

/-- The contract is activated with a plain total; a payment does not bring it halfway between two
percentages; it is not restructured, which the numbers that the source begins with rule out; and
it is not written off with anything outstanding. -/
def KeepsFigures (contractId : String) (db : Database) : ReceivableStep → Prop
  | .approveApplication applicationId reviewerId m =>
    approves applicationId reviewerId m db = true →
    ∀ c ∈ KycService.contractOf applicationId db, c.contractId = contractId →
      PlainTotal c.totalFinanced c.approvedDurationMonths
  | .processPayment verifyPaystack job paymentId commissionId now =>
    ∀ i ∈ PaymentWorker.recorded? verifyPaystack job paymentId commissionId now db,
      i.contract.contractId = contractId →
      ¬ Halfway ((FinancingService.paidAmount contractId db + i.installment.amount) /
        i.contract.totalFinanced * 100)
  | .operation (.restructure offset id adminUserId newTerms installmentId now) =>
    id = contractId → offset ≠ 0 →
    (FinancingService.restructureContract offset id adminUserId newTerms installmentId now
      db).isOk = false
  | .operation (.writeOff id companyUserId reason now) =>
    id = contractId →
    (FinancingService.writeOffContract id companyUserId reason now db).isOk = true →
    ∀ i ∈ db.installments.rows, i.financingContractId = contractId → i.status.settled = true
  | .operation _ => True

instance (contractId : String) (db : Database) : Decidable (Activated contractId db) :=
  inferInstanceAs (Decidable (∃ c ∈ db.financingContracts.find? contractId, _))

instance (contractId : String) (db : Database) :
    ∀ e : ReceivableStep, Decidable (KeepsFigures contractId db e)
  | .approveApplication applicationId _ _ =>
    inferInstanceAs (Decidable (_ → ∀ c ∈ KycService.contractOf applicationId db, _ → _))
  | .processPayment verifyPaystack job paymentId commissionId now =>
    inferInstanceAs (Decidable (∀ i ∈ PaymentWorker.recorded? verifyPaystack job paymentId
      commissionId now db, _ → _))
  | .operation (.restructure _ _ _ _ _ _) => inferInstanceAs (Decidable (_ → _ → _))
  | .operation (.writeOff _ _ _ _) =>
    inferInstanceAs (Decidable (_ → _ → ∀ i ∈ db.installments.rows, _ → _))
  | .operation (.pendingToDue _) | .operation (.dueToOverdue _)
  | .operation (.markDefaulted _ _) => inferInstanceAs (Decidable True)

section numbers
variable {paid total : ℚ}

theorem exists_cents (h : paid ∈ kobo) : ∃ n : ℤ, paid = n / 100 := by
  obtain ⟨n, rfl⟩ := AddSubgroup.mem_zmultiples_iff.mp h
  exact ⟨n, by rw [zsmul_eq_mul]; ring⟩

/-- Seven roundings' worth of error do not reach the next middle between two percentages. -/
theorem numberPercentage_eq (hpaid : paid ∈ kobo) (htotal : total ∈ kobo) (hnonneg : 0 ≤ paid)
    (hle : paid ≤ total) (hpos : 0 < total) (hbound : total ≤ 10 ^ 8)
    (hplain : ¬ Halfway (paid / total * 100)) :
    InstallmentService.numberPercentage (Binary64.nearest paid) (Binary64.nearest total) =
      PaymentWorker.roundCents (paid / total * 100) := by
  have hratio : 0 ≤ paid / total := div_nonneg hnonneg hpos.le
  have hone : paid / total ≤ 1 := (div_le_one hpos).mpr hle
  have hquotient := ((Binary64.within_nearest hnonneg).div (Binary64.within_nearest hpos.le)
    hnonneg hpos).nearest hratio (by norm_num)
  have hproduct := (hquotient.mul_right (z := 100) (by norm_num)).nearest
    (mul_nonneg hratio (by norm_num)) (by norm_num)
  obtain ⟨a, rfl⟩ := exists_cents hpaid
  obtain ⟨b, rfl⟩ := exists_cents htotal
  have hb : (0 : ℚ) < b := by linarith
  have hfraction : (a / 100 : ℚ) / (b / 100) * 100 * 100 + 1 / 2 =
      ((20000 * a + b : ℤ) : ℚ) / ((2 * b : ℤ) : ℚ) := by
    push_cast
    field_simp
    ring
  have hdivides : ¬ 2 * b ∣ 20000 * a + b := by
    rintro ⟨k, hk⟩
    have hwhole : (a / 100 : ℚ) / (b / 100) * 100 * 100 + 1 / 2 = k := by
      rw [hfraction, hk, Int.cast_mul, mul_div_cancel_left₀]
      exact_mod_cast (mul_pos two_pos hb).ne'
    refine hplain ?_
    have hfloor : ⌊(a / 100 : ℚ) / (b / 100) * 100 * 100⌋ = k - 1 := by
      refine Int.floor_eq_iff.mpr ⟨?_, ?_⟩
      · push_cast
        linarith
      · push_cast
        linarith
    rw [Halfway, hfloor]
    push_cast
    linarith
  have hclose := Binary64.floor_eq_of_close (x := Binary64.nearest (Binary64.nearest
    (Binary64.nearest (a / 100) / Binary64.nearest (b / 100)) * 100) * 100 + 1 / 2)
    (by exact_mod_cast mul_pos two_pos hb) hdivides ?_
  · rw [← hfraction] at hclose
    exact congrArg (fun n : ℤ => (n : ℚ) / 100) hclose
  · have hcents : (2 * b : ℚ) ≤ 2 * 10 ^ 10 := by linarith
    have hstep : 1 / (2 * 10 ^ 10) ≤ 1 / ((2 * b : ℤ) : ℚ) := by
      push_cast
      exact one_div_le_one_div_of_le (by linarith) hcents
    have herror := hproduct.trans (mul_le_mul_of_nonneg_left
      (mul_le_mul_of_nonneg_right hone (by norm_num : (0 : ℚ) ≤ 100)) (by norm_num))
    rw [← hfraction, add_sub_add_right_eq_sub, ← sub_mul, abs_mul,
      abs_of_pos (by norm_num : (0 : ℚ) < 100)]
    refine lt_of_lt_of_le ?_ hstep
    refine (mul_le_mul_of_nonneg_right herror (by norm_num)).trans_lt ?_
    norm_num

theorem roundCents_bounds {percentage : ℚ} (hnonneg : 0 ≤ percentage) (hle : percentage ≤ 100) :
    0 ≤ PaymentWorker.roundCents percentage ∧ PaymentWorker.roundCents percentage ≤ 100 := by
  have hlow : 0 ≤ (percentage * 100 + 1 / 2).floor :=
    Rat.le_floor_iff.mpr (by push_cast; linarith)
  have hhigh : (percentage * 100 + 1 / 2).floor < 10001 :=
    Rat.floor_lt_iff.mpr (by push_cast; linarith)
  have hlow' : (0 : ℚ) ≤ ((percentage * 100 + 1 / 2).floor : ℚ) := by exact_mod_cast hlow
  have hhigh' : ((percentage * 100 + 1 / 2).floor : ℚ) ≤ 10000 := by
    exact_mod_cast Int.lt_add_one_iff.mp hhigh
  rw [PaymentWorker.roundCents]
  constructor <;> linarith

theorem roundCents_lt_hundred {percentage : ℚ} (h : percentage < 99995 / 1000) :
    PaymentWorker.roundCents percentage < 100 := by
  have hfloor : (percentage * 100 + 1 / 2).floor < 10000 :=
    Rat.floor_lt_iff.mpr (by push_cast; linarith)
  have hfloor' : ((percentage * 100 + 1 / 2).floor : ℚ) ≤ 9999 := by
    exact_mod_cast Int.lt_add_one_iff.mp hfloor
  rw [PaymentWorker.roundCents]
  linarith

end numbers

/-- No row of a schedule is less than the equal ones. -/
theorem equal_le_amount {p : ScheduleParams} {schedule : List InstallmentCreateInput}
    (h : InstallmentService.generateInstallmentSchedule p = .ok schedule)
    {row : InstallmentCreateInput} (hrow : row ∈ schedule) :
    ((InstallmentService.totalInCents p.totalAmount / p.months : ℤ) : ℚ) / 100 ≤ row.amount := by
  obtain ⟨hmonths, -, -⟩ := InstallmentService.generateInstallmentSchedule_eq_ok.mp h
  obtain ⟨i, -, rfl⟩ := (InstallmentService.mem_schedule h).mp hrow
  have hcast := InstallmentService.cast_months h
  have hpositive : 0 < p.months.toNat := by omega
  have hle := (InstallmentService.installmentAmountInCents_bounds
    (InstallmentService.totalInCents p.totalAmount) i hpositive).1
  rw [hcast] at hle
  exact div_le_div_of_nonneg_right (by exact_mod_cast hle) (by norm_num)

/-- The installments of an activated contract are those of its schedule, of which none is VOIDED,
and each is more than a 20000th of the total that they add up to. -/
structure OnTrack (contractId : String) (db : Database) : Prop where
  paidOrOwed : PaidOrOwed contractId ⟨db, 0⟩
  unvoided : ∀ i ∈ db.installments.rows, i.financingContractId = contractId → i.status ≠ .voided
  total : ∀ c ∈ db.financingContracts.find? contractId, c.status ≠ .pendingActivation →
    ((rowTerms contractId db).map Prod.snd).sum = c.totalFinanced ∧ 0 < c.totalFinanced ∧
      c.totalFinanced ≤ 10 ^ 8 ∧ ∀ t ∈ rowTerms contractId db, c.totalFinanced < 20000 * t.2
  plain : ∀ c ∈ db.financingContracts.find? contractId, c.status ≠ .pendingActivation →
    ¬ Halfway (FinancingService.paidAmount contractId db / c.totalFinanced * 100)

section figures
variable {contractId : String} {db : Database}

theorem sum_rowTerms (contractId : String) (db : Database) :
    ((rowTerms contractId db).map Prod.snd).sum =
      db.installments.sumWhere (fun i => i.financingContractId = contractId) Installment.amount := by
  rw [rowTerms, List.map_map, Table.sumWhere]
  rfl

namespace OnTrack
variable {c : FinancingContract} (h : OnTrack contractId db)
  (hc : db.financingContracts.find? contractId = some c) (hactive : c.status ≠ .pendingActivation)
include h

theorem amount_nonneg : AmountsNonneg contractId db := .of_terms h.paidOrOwed.amounts

include hc hactive

/-- What is not PAID of the total is owed. -/
theorem paid_add_owed : FinancingService.paidAmount contractId db + owed contractId db =
    c.totalFinanced := by
  rw [← standing_eq, ← (h.total c hc hactive).1, sum_rowTerms, standing, Table.sumWhere,
    Table.sumWhere]
  refine congrArg (fun rows => (rows.map Installment.amount).sum)
    (List.filter_congr fun i hi => decide_eq_decide.mpr ?_)
  exact and_iff_left_of_imp fun hown => h.unvoided i hi hown

theorem paid_bounds : 0 ≤ FinancingService.paidAmount contractId db ∧
    FinancingService.paidAmount contractId db ≤ c.totalFinanced := by
  refine ⟨(paidAmount_mem_kobo h.paidOrOwed.amounts).2, ?_⟩
  have howed := h.amount_nonneg.owed_nonneg
  have hsum := h.paid_add_owed hc hactive
  linarith

theorem total_mem_kobo : c.totalFinanced ∈ kobo := by
  rw [← (h.total c hc hactive).1]
  refine list_sum_mem fun a ha => ?_
  obtain ⟨t, ht, rfl⟩ := List.mem_map.mp ha
  exact (h.paidOrOwed.amounts t ht).1

theorem percentagePaid_eq : PaymentWorker.percentagePaid contractId db =
    PaymentWorker.roundCents
      (FinancingService.paidAmount contractId db / c.totalFinanced * 100) := by
  obtain ⟨hsum, hpos, -⟩ := h.total c hc hactive
  rw [sum_rowTerms] at hsum
  rw [PaymentWorker.percentagePaid, hsum, if_neg hpos.ne']
  rfl

/-- With an installment outstanding the figure stays under 100. -/
theorem percentagePaid_lt {i : Installment} (hi : i ∈ db.installments.rows)
    (hown : i.financingContractId = contractId) (hopen : i.status.settled = false) :
    PaymentWorker.percentagePaid contractId db < 100 := by
  obtain ⟨-, hpos, -, hshares⟩ := h.total c hc hactive
  have hshare : c.totalFinanced < 20000 * i.amount :=
    hshares _ (mem_rowTerms.mpr ⟨i, hi, hown, rfl⟩)
  have howes : owes contractId i = true := decide_eq_true ⟨hown, by rw [hopen]; rfl⟩
  have howed : i.amount ≤ owed contractId db := by
    refine List.single_le_sum (fun a ha => ?_) _
      (List.mem_map_of_mem (List.mem_filter.mpr ⟨hi, howes⟩))
    obtain ⟨j, hj, rfl⟩ := List.mem_map.mp ha
    obtain ⟨hmem, hj⟩ := List.mem_filter.mp hj
    exact h.amount_nonneg j hmem (of_decide_eq_true hj).1
  have hsum := h.paid_add_owed hc hactive
  rw [h.percentagePaid_eq hc hactive]
  refine roundCents_lt_hundred ?_
  rw [← lt_div_iff₀ (by norm_num), div_lt_iff₀ hpos]
  linarith

theorem percentagePaid_of_settled (hsettled : ∀ i ∈ db.installments.rows,
    i.financingContractId = contractId → i.status.settled = true) :
    PaymentWorker.percentagePaid contractId db = 100 := by
  have howed : owed contractId db = 0 := Table.sumWhere_eq_zero fun i hi =>
    decide_eq_false fun howes => by
      rw [hsettled i hi howes.1] at howes
      exact absurd howes.2 (by decide)
  have hsum := h.paid_add_owed hc hactive
  rw [howed, add_zero] at hsum
  rw [h.percentagePaid_eq hc hactive, hsum, div_self (h.total c hc hactive).2.1.ne']
  decide +kernel

theorem figuresAgree : FiguresAgree contractId db := by
  obtain ⟨-, hpos, hbound, -⟩ := h.total c hc hactive
  obtain ⟨hnonneg, hle⟩ := h.paid_bounds hc hactive
  have hworker := h.percentagePaid_eq hc hactive
  have hratio : 0 ≤ FinancingService.paidAmount contractId db / c.totalFinanced * 100 :=
    mul_nonneg (div_nonneg hnonneg hpos.le) (by norm_num)
  have hhundred : FinancingService.paidAmount contractId db / c.totalFinanced * 100 ≤ 100 := by
    have hone := (div_le_one hpos).mpr hle
    linarith
  have hrounded := roundCents_bounds hratio hhundred
  rw [← hworker] at hrounded
  refine ⟨?_, fun callerId callerRole callerCompanyId progress hprogress => ?_,
    fun progress hprogress => ?_, hrounded.1, hrounded.2, ?_⟩
  · rw [hworker, PaymentReminderWorker.calculateProgress, hc]
    exact if_neg hpos.ne'
  · obtain ⟨u, -, hprogress⟩ := bind_eq_ok.mp hprogress
    rw [hc] at hprogress
    cases hprogress
    have hnonzero : Binary64.nearest c.totalFinanced ≠ 0 := by
      have hnear := (Binary64.within_nearest hpos.le).bounds.1
      intro hzero
      rw [hzero] at hnear
      linarith
    rw [hworker]
    refine (if_neg hnonzero).trans (numberPercentage_eq
      (paidAmount_mem_kobo h.paidOrOwed.amounts).1 (h.total_mem_kobo hc hactive) hnonneg hle hpos
      hbound (h.plain c hc hactive))
  · rw [CustomerManagementService.calculateProgressPercentage, hc] at hprogress
    cases hprogress
    rw [hworker]
    exact if_neg hpos.ne'
  · constructor
    · intro hfull i hi hown
      by_contra hopen
      have hlt := h.percentagePaid_lt hc hactive hi hown (Bool.not_eq_true _ ▸ hopen)
      exact hlt.ne hfull
    · exact h.percentagePaid_of_settled hc hactive

end OnTrack
end figures

section steps
variable {contractId : String} {db db' : Database} {e : ReceivableStep}

theorem paidAmount_append {rows : List Installment}
    (hrows : db'.installments.rows = db.installments.rows ++ rows)
    (hnew : ∀ i ∈ rows, i.status = .pending) :
    FinancingService.paidAmount contractId db' = FinancingService.paidAmount contractId db := by
  have hnone : rows.filter (fun i => i.financingContractId = contractId ∧ i.status = .paid) = [] := by
    refine List.filter_eq_nil_iff.mpr fun i hi hpaid => ?_
    rw [decide_eq_true_eq, hnew i hi] at hpaid
    cases hpaid.2
  rw [FinancingService.paidAmount, Table.sumWhere_append hrows, hnone]
  exact add_zero _

theorem paidAmount_updateMany {p : Installment → Bool} {f : Installment → Installment}
    (hf : ∀ i, (f i).installmentId = i.installmentId)
    (hunpaid : ∀ i, p i = true → i.status ≠ .paid ∧ (f i).status ≠ .paid) :
    FinancingService.paidAmount contractId
        { db with installments := db.installments.updateMany p f hf } =
      FinancingService.paidAmount contractId db := by
  refine Table.sumWhere_updateMany_of _ p f hf fun i _ hp => ?_
  obtain ⟨hbefore, hafter⟩ := hunpaid i hp
  simp [Table.term, hbefore, hafter]

theorem paidAmount_markInstallmentPaid {i : Installment} (now : DateTime)
    (hi : db.installments.find? i.installmentId = some i) (hunpaid : i.status ≠ .paid) :
    FinancingService.paidAmount contractId
        (PaymentWorker.markInstallmentPaid i.installmentId now db) =
      FinancingService.paidAmount contractId db +
        if i.financingContractId = contractId then i.amount else 0 := by
  refine (Table.sumWhere_update hi (fun j => { j with status := .paid, paidAt := some now })
    (fun _ => rfl) _ Installment.amount).trans ?_
  rw [FinancingService.paidAmount]
  congr 1
  by_cases hown : i.financingContractId = contractId <;> simp [Table.term, hown, hunpaid]

namespace OnTrack

theorem of_same (h : OnTrack contractId db) (hbalance : PaidOrOwed contractId ⟨db', 0⟩)
    (hterms : PaidOrOwed.SameTerms contractId db db')
    (hunvoided : ∀ i ∈ db'.installments.rows, i.financingContractId = contractId →
      i.status ≠ .voided)
    (hpaid : ∀ c ∈ db.financingContracts.find? contractId,
      ¬ Halfway (FinancingService.paidAmount contractId db / c.totalFinanced * 100) →
      ¬ Halfway (FinancingService.paidAmount contractId db' / c.totalFinanced * 100)) :
    OnTrack contractId db' := by
  have hbefore : ∀ c' ∈ db'.financingContracts.find? contractId, c'.status ≠ .pendingActivation →
      ∃ c ∈ db.financingContracts.find? contractId, c'.totalFinanced = c.totalFinanced ∧
        c.status ≠ .pendingActivation := by
    intro c' hc' hactive
    obtain ⟨c, hc, htotal, hsame | ⟨hne, -⟩⟩ := hterms.2 c' hc'
    · exact ⟨c, hc, htotal, hsame ▸ hactive⟩
    · exact ⟨c, hc, htotal, hne⟩
  refine ⟨hbalance, hunvoided, fun c' hc' hactive => ?_, fun c' hc' hactive => ?_⟩
  · obtain ⟨c, hc, htotal, hne⟩ := hbefore c' hc' hactive
    rw [hterms.1, htotal]
    exact h.total c hc hne
  · obtain ⟨c, hc, htotal, hne⟩ := hbefore c' hc' hactive
    rw [htotal]
    exact hpaid c hc (h.plain c hc hne)

/-- The first row of its schedule is in the way of a restructuring numbered like it. -/
theorem not_restructured (h : OnTrack contractId db) {offset : ℕ} {id adminUserId : String}
    {newTerms : RestructureInput} {installmentId : ℕ → String} {now : DateTime}
    (hkeeps : KeepsFigures contractId db
      (.operation (.restructure offset id adminUserId newTerms installmentId now)))
    (hid : id = contractId) : (FinancingService.restructureContract offset id adminUserId newTerms
      installmentId now db).isOk = false := by
  by_cases hoffset : offset = 0
  · subst hoffset hid
    rw [← Bool.not_eq_true, isOk_iff]
    rintro ⟨result, hcall⟩
    obtain ⟨terms, o, schedule, -, hr⟩ := FinancingService.restructureContract_eq_ok hcall
    obtain ⟨hcontract, hdefaulted⟩ := FinancingService.findForRestructure_eq_ok hr.found
    obtain ⟨t, ht, hone⟩ := List.mem_map.mp
      (h.paidOrOwed.started o.contract hcontract (by rw [hdefaulted]; decide))
    obtain ⟨i, hi, hown, rfl⟩ := mem_rowTerms.mp ht
    have hrefused : (FinancingService.restructureContract 0 id adminUserId newTerms installmentId
        now db).isOk = false := FinancingService.restructureContract_refused hi hown hone
    rw [hcall] at hrefused
    cases hrefused
  · exact hkeeps hid hoffset

theorem strayAfter_eq_zero (h : OnTrack contractId db) (hkeeps : KeepsFigures contractId db e) :
    WriteOffHistory.strayAfter contractId ⟨db, 0⟩ e = 0 := by
  cases e with
  | approveApplication applicationId reviewerId m => rfl
  | processPayment verifyPaystack job paymentId commissionId now =>
    rcases processPayment_cases verifyPaystack job paymentId commissionId now db with
      ⟨hnone, -⟩ | ⟨i, hsome, hload, -⟩
    · simp [WriteOffHistory.strayAfter, hnone]
    · have hnotVoided : ¬ (i.contract.contractId = contractId ∧ i.installment.status = .voided) := by
        rintro ⟨hown, hvoided⟩
        exact h.unvoided _ (Table.mem_of_find? (find?_of_loadInstallment hload))
          ((contractId_of_loadInstallment hload).symm.trans hown) hvoided
      simp [WriteOffHistory.strayAfter, hsome, Option.filter_some, hnotVoided]
  | operation op =>
    cases op with
    | restructure offset id adminUserId newTerms installmentId now =>
      refine if_neg fun hboth => ?_
      rw [h.not_restructured hkeeps hboth.1] at hboth
      exact Bool.false_ne_true hboth.2
    | pendingToDue now => rfl
    | dueToOverdue now => rfl
    | markDefaulted id late => rfl
    | writeOff id companyUserId reason now => rfl

theorem balance (h : OnTrack contractId db) (hkeeps : KeepsFigures contractId db e) :
    PaidOrOwed contractId ⟨e.apply db, 0⟩ := by
  have hnext := paidOrOwed_step h.paidOrOwed e
  rw [writeOffStep, h.strayAfter_eq_zero hkeeps] at hnext
  exact hnext

theorem approve (h : OnTrack contractId db) {applicationId reviewerId : String} {m : KycMoment}
    (hkeeps : KeepsFigures contractId db (.approveApplication applicationId reviewerId m)) :
    OnTrack contractId
      (ReceivableStep.apply db (.approveApplication applicationId reviewerId m)) := by
  have hbalance := h.balance hkeeps
  rw [ReceivableStep.apply] at hbalance ⊢
  cases hcall : KycService.approveApplication applicationId reviewerId m db with
  | error err => exact h
  | ok result =>
    rw [hcall, committed_ok] at hbalance
    rw [committed_ok]
    rcases KycService.approveApplication_cases hcall with
      ⟨happroved, r, contract, -, -, hfound, hactivates⟩ | ⟨-, hinstallments, hcontracts⟩
    · obtain ⟨schedule, hschedule, hrows, hnew, hterms⟩ :=
        rowTerms_activates (s := ⟨db, 0⟩) contractId hactivates
      have hfind := find?_contract_activates contractId hactivates
      have hpaid : FinancingService.paidAmount contractId result.2 =
          FinancingService.paidAmount contractId db :=
        paidAmount_append hrows fun i hi => (hnew i hi).2
      have hunvoided : ∀ i ∈ result.2.installments.rows, i.financingContractId = contractId →
          i.status ≠ .voided := by
        intro i hi hown
        rw [hrows, List.mem_append] at hi
        rcases hi with hi | hi
        · exact h.unvoided i hi hown
        · rw [(hnew i hi).2]
          exact InstallmentStatus.noConfusion
      by_cases hid : contract.contractId = contractId
      · subst hid
        obtain ⟨hnone, -⟩ := h.paidOrOwed.unscheduled_of_activates hfound hactivates
        have hnone : rowTerms contract.contractId db = [] := hnone
        have hplain := hkeeps (approves_iff.mpr ⟨result.2, by rw [hcall, ← happroved]⟩) contract
          hfound rfl
        obtain ⟨hwhole, hbound, hshare⟩ := hplain
        obtain ⟨hmonths, hpos, -⟩ :=
          InstallmentService.generateInstallmentSchedule_eq_ok.mp hschedule
        have hpos : 0 < contract.totalFinanced := hpos
        have hcontract : db.financingContracts.find? contract.contractId = some contract :=
          Table.find?_of_mem (KycService.contractOf_eq_some hfound).1
        rw [if_pos rfl, hnone, List.nil_append] at hterms
        rw [if_pos rfl] at hfind
        have hafter : result.2.financingContracts.find? contract.contractId =
            some (KycService.activatedContract m.userId m.now contract) :=
          hfind.trans (congrArg _ hcontract)
        refine ⟨hbalance, hunvoided, fun c hc _ => ?_, fun c hc _ => ?_⟩
        · obtain rfl := Option.some.inj (hafter.symm.trans hc)
          refine ⟨?_, hpos, hbound, fun t ht => ?_⟩
          · rw [hterms, List.map_map]
            exact (InstallmentService.sum_schedule hschedule).trans hwhole
          · rw [hterms] at ht
            obtain ⟨row, hrow, rfl⟩ := List.mem_map.mp ht
            have hleast : ((InstallmentService.totalInCents contract.totalFinanced /
                contract.approvedDurationMonths : ℤ) : ℚ) / 100 ≤ row.amount :=
              equal_le_amount hschedule hrow
            change contract.totalFinanced < 20000 * row.amount
            linarith
        · have hzero : FinancingService.paidAmount contract.contractId db = 0 := by
            have hstands := standing_of_unscheduled hnone
            have hamounts := h.amount_nonneg.owed_nonneg
            have hpaidNonneg := (paidAmount_mem_kobo h.paidOrOwed.amounts).2
            rw [standing_eq] at hstands
            linarith
          rw [hpaid, hzero, zero_div, zero_mul]
          decide +kernel
      · rw [if_neg hid, List.append_nil] at hterms
        rw [if_neg fun he => hid he.symm] at hfind
        refine h.of_same hbalance ⟨hterms, .of_eq hfind⟩ hunvoided fun c _ hplain => ?_
        rwa [hpaid]
    · have hterms : PaidOrOwed.SameTerms contractId db result.2 :=
        ⟨by rw [rowTerms, hinstallments, rowTerms], .of_eq (by rw [hcontracts])⟩
      refine h.of_same hbalance hterms (hinstallments ▸ h.unvoided) fun c _ hplain => ?_
      rwa [FinancingService.paidAmount, hinstallments]

theorem processPayment (h : OnTrack contractId db)
    {verifyPaystack : String → Except String Verification} {job : PaymentJobData}
    {paymentId commissionId : String} {now : DateTime} (hkeeps : KeepsFigures contractId db
      (.processPayment verifyPaystack job paymentId commissionId now)) :
    OnTrack contractId (ReceivableStep.apply db
      (.processPayment verifyPaystack job paymentId commissionId now)) := by
  have hbalance := h.balance hkeeps
  have hterms := PaidOrOwed.sameTerms_payment
    (fun c hc hpending => (h.paidOrOwed.unscheduled c hc hpending).1) verifyPaystack job paymentId
    commissionId now
  rcases processPayment_cases verifyPaystack job paymentId commissionId now db with
    ⟨-, intents, hdb⟩ | ⟨i, hsome, hload, hunpaid, hcommits⟩
  · refine h.of_same hbalance hterms ?_ fun c _ hplain => ?_
    · rw [hdb]
      exact h.unvoided
    · rw [hdb]
      exact hplain
  · have hrow := find?_of_loadInstallment hload
    have hid := contractId_of_loadInstallment hload
    obtain ⟨payments, commissions, ledger, intents, hdb⟩ := hcommits.frame
    refine h.of_same hbalance hterms (fun j hj hown => ?_) fun c hc hplain => ?_
    · rw [hdb] at hj
      have hj : j ∈ (db.installments.update i.installment.installmentId
        (fun k => { k with status := .paid, paidAt := some now }) fun _ => rfl).rows := hj
      rcases Table.mem_update hj with hj | ⟨k, hk, rfl⟩
      · exact h.unvoided j hj hown
      · exact InstallmentStatus.noConfusion
    · have hpaid : FinancingService.paidAmount contractId (ReceivableStep.apply db
          (.processPayment verifyPaystack job paymentId commissionId now)) =
          FinancingService.paidAmount contractId db +
            if i.installment.financingContractId = contractId then i.installment.amount else 0 := by
        rw [hdb]
        exact paidAmount_markInstallmentPaid now hrow hunpaid
      rw [hpaid]
      by_cases hown : i.installment.financingContractId = contractId
      · have hcontract := (PaymentWorker.loadInstallment_eq_some hload).2
        rw [hown, hc] at hcontract
        rw [if_pos hown, Option.some.inj hcontract]
        exact hkeeps i hsome (hid.trans hown)
      · rwa [if_neg hown, add_zero]

theorem transition (h : OnTrack contractId db) (source target : InstallmentStatus)
    (hsource : source ≠ .paid) (htarget : target ≠ .paid ∧ target ≠ .voided)
    (dueBy : DateTime → Bool)
    (hbalance : PaidOrOwed contractId ⟨PaymentReminderWorker.transition source target dueBy db, 0⟩) :
    OnTrack contractId (PaymentReminderWorker.transition source target dueBy db) := by
  refine h.of_same hbalance (PaidOrOwed.sameTerms_transition contractId source target dueBy db)
    (fun i hi hown => ?_) fun c _ hplain => ?_
  · have hi : i ∈ (db.installments.updateMany _ (fun i => { i with status := target })
      fun _ => rfl).rows := hi
    rcases Table.mem_updateMany.mp hi with ⟨hi, -⟩ | ⟨j, -, -, rfl⟩
    · exact h.unvoided i hi hown
    · exact htarget.2
  · have hpaid : FinancingService.paidAmount contractId
        (PaymentReminderWorker.transition source target dueBy db) =
        FinancingService.paidAmount contractId db :=
      paidAmount_updateMany (f := fun i => { i with status := target }) (fun _ => rfl)
        fun i hi => ⟨(of_decide_eq_true hi).1 ▸ hsource, htarget.1⟩
    rwa [hpaid]

theorem markDefaulted (h : OnTrack contractId db) (id : String) (late : Installment → Bool)
    (hbalance : PaidOrOwed contractId ⟨InstalFlow.markDefaulted id late db, 0⟩) :
    OnTrack contractId (InstalFlow.markDefaulted id late db) := by
  refine h.of_same hbalance (PaidOrOwed.sameTerms_markDefaulted contractId id late db)
    (fun i hi hown => ?_) fun c _ hplain => ?_
  · rw [InstalFlow.markDefaulted] at hi
    split at hi
    · have hi : i ∈ (db.installments.updateMany _ defaultedRow fun _ => rfl).rows := hi
      rcases Table.mem_updateMany.mp hi with ⟨hi, -⟩ | ⟨j, -, -, rfl⟩
      · exact h.unvoided i hi hown
      · exact InstallmentStatus.noConfusion
    · exact h.unvoided i hi hown
  · have hpaid : FinancingService.paidAmount contractId (InstalFlow.markDefaulted id late db) =
        FinancingService.paidAmount contractId db := by
      rw [InstalFlow.markDefaulted]
      split
      · refine paidAmount_updateMany (f := defaultedRow) (fun _ => rfl) fun i hi =>
          ⟨fun hpaid => ?_, InstallmentStatus.noConfusion⟩
        have hvoidable := (of_decide_eq_true hi).2.1
        rw [hpaid] at hvoidable
        cases hvoidable
      · rfl
    rwa [hpaid]

/-- Closing another contract, or this one with nothing outstanding, voids none of its rows. -/
theorem closes (h : OnTrack contractId db) {id : String} {f : FinancingContract → FinancingContract}
    {rows : List Installment} {posting : LedgerTransaction}
    (hcloses : FinancingService.Closes id f rows posting db db')
    (hnew : ∀ i ∈ rows, i.financingContractId = id ∧ i.status = .pending)
    (hsettled : id = contractId → ∀ i ∈ db.installments.rows, i.financingContractId = contractId →
      i.status.settled = true)
    (hterms : PaidOrOwed.SameTerms contractId db db') (hbalance : PaidOrOwed contractId ⟨db', 0⟩) :
    OnTrack contractId db' := by
  refine h.of_same hbalance hterms (fun i hi hown => ?_) fun c _ hplain => ?_
  · rw [hcloses.installments, List.mem_append] at hi
    rcases hi with hi | hi
    · have hi : i ∈ (db.installments.updateMany _ FinancingService.voidedRow fun _ => rfl).rows := hi
      rcases Table.mem_updateMany.mp hi with ⟨hi, -⟩ | ⟨j, hj, hp, rfl⟩
      · exact h.unvoided i hi hown
      · obtain ⟨hid, hopen⟩ := of_decide_eq_true hp
        rw [voidable_eq, hsettled (hid.symm.trans hown) j hj hown] at hopen
        cases hopen
    · rw [(hnew i hi).2]
      exact InstallmentStatus.noConfusion
  · have hpaid : FinancingService.paidAmount contractId db' =
        FinancingService.paidAmount contractId db := by
      rw [paidAmount_append hcloses.installments fun i hi => (hnew i hi).2]
      exact paidAmount_voidInstallments id
    rwa [hpaid]

theorem restructure (h : OnTrack contractId db) {offset : ℕ} {id adminUserId : String}
    {newTerms : RestructureInput} {installmentId : ℕ → String} {now : DateTime}
    (hkeeps : KeepsFigures contractId db
      (.operation (.restructure offset id adminUserId newTerms installmentId now))) :
    OnTrack contractId (ReceivableStep.apply db
      (.operation (.restructure offset id adminUserId newTerms installmentId now))) := by
  have hbalance := h.balance hkeeps
  rw [ReceivableStep.apply, ContractOperation.apply] at hbalance ⊢
  cases hcall : FinancingService.restructureContract offset id adminUserId newTerms installmentId
      now db with
  | error err => exact h
  | ok result =>
    rw [hcall, committed_ok] at hbalance
    rw [committed_ok]
    obtain ⟨terms, o, schedule, -, hr⟩ := FinancingService.restructureContract_eq_ok hcall
    have hid : id ≠ contractId := by
      intro he
      have hrefused := h.not_restructured hkeeps he
      rw [hcall] at hrefused
      cases hrefused
    have hnew := fun i hi => (restructured_rows hr (i := i) hi).1
    exact h.closes hr.closes hnew (fun he => absurd he hid)
      (PaidOrOwed.sameTerms_closes_other hid hr.closes fun i hi => (hnew i hi).1) hbalance

theorem writeOff (h : OnTrack contractId db) {id companyUserId reason : String} {now : DateTime}
    (hkeeps : KeepsFigures contractId db (.operation (.writeOff id companyUserId reason now))) :
    OnTrack contractId
      (ReceivableStep.apply db (.operation (.writeOff id companyUserId reason now))) := by
  have hbalance := h.balance hkeeps
  rw [ReceivableStep.apply, ContractOperation.apply] at hbalance ⊢
  cases hcall : FinancingService.writeOffContract id companyUserId reason now db with
  | error err => exact h
  | ok result =>
    rw [hcall, committed_ok] at hbalance
    rw [committed_ok]
    obtain ⟨o, ho, hcloses⟩ := FinancingService.writeOffContract_eq_ok hcall
    exact h.closes hcloses (by simp) (fun he => hkeeps he (by rw [hcall]; rfl))
      (PaidOrOwed.sameTerms_writeOff hcall) hbalance

theorem step (h : OnTrack contractId db) (e : ReceivableStep)
    (hkeeps : KeepsFigures contractId db e) : OnTrack contractId (e.apply db) := by
  have hbalance := h.balance hkeeps
  cases e with
  | approveApplication applicationId reviewerId m => exact h.approve hkeeps
  | processPayment verifyPaystack job paymentId commissionId now => exact h.processPayment hkeeps
  | operation op =>
    cases op with
    | pendingToDue now =>
      exact h.transition .pending .due (by decide) (by decide)
        (fun dueDate => dueDate ≤ PaymentReminderWorker.todayStart now) hbalance
    | dueToOverdue now =>
      exact h.transition .due .overdue (by decide) (by decide)
        (fun dueDate =>
          dueDate < PaymentReminderWorker.todayStart now - 3 * PaymentReminderWorker.dayMs) hbalance
    | markDefaulted id late => exact h.markDefaulted id late hbalance
    | restructure offset id adminUserId newTerms installmentId now => exact h.restructure hkeeps
    | writeOff id companyUserId reason now => exact h.writeOff hkeeps

end OnTrack
end steps

/-- From its activation on the figures of a contract agree, where its total is plain, no payment
brings it halfway between two percentages, it is not restructured, and what is outstanding of it
is not written off. -/
theorem figures_agree_throughout (contractId : String) (db : Database)
    (hnew : ∀ i ∈ db.installments.rows, i.financingContractId ≠ contractId)
    (hpending : ∀ c ∈ db.financingContracts.find? contractId, c.status = .pendingActivation)
    (steps : List ReceivableStep)
    (h : Along ReceivableStep.apply (KeepsFigures contractId) db steps) :
    Throughout ReceivableStep.apply
      (fun db => Activated contractId db → FiguresAgree contractId db) db steps := by
  have hstart : OnTrack contractId db :=
    ⟨paidOrOwed_new hnew hpending, fun i hi hown => absurd hown (hnew i hi),
      fun c hc hactive => absurd (hpending c hc) hactive,
      fun c hc hactive => absurd (hpending c hc) hactive⟩
  refine (h.throughout (fun db e hdb hkeeps => hdb.step e hkeeps) hstart).imp
    fun db hdb hactivated => ?_
  obtain ⟨c, hc, hactive⟩ := hactivated
  exact hdb.figuresAgree hc hactive

/-- The new contract with another total and as many months -/
def newContractOf (totalFinanced : ℚ) (approvedDurationMonths : ℤ) : Database :=
  { twoContracts with
    financingContracts := ⟨[{ contractId := "new", userId := none, productId := "oven"
                              kycApplicationId := "app", approvedDurationMonths, totalFinanced
                              status := .pendingActivation }], List.nodup_singleton _⟩ }

def twoPaidNew : List ReceivableStep :=
  [activateNew, chargeOf "new1" "r₁" "p₁", chargeOf "new2" "r₂" "p₂"]

theorem figures_agree_fully_paid :
    Throughout ReceivableStep.apply
      (fun db => Activated "new" db → FiguresAgree "new" db) (newContractOf 100 2) twoPaidNew :=
  figures_agree_throughout "new" (newContractOf 100 2) (by decide) (by decide) twoPaidNew
    (by decide +kernel)

/-- At 10.01 and 50 percent, paid in full, the reminder says 100.03; two of six installments of
160 are 33.33 percent and, in binary, 33.32; what is written off is outstanding no more. -/
theorem figures_disagree :
    ¬ Throughout ReceivableStep.apply (fun db => Activated "new" db → FiguresAgree "new" db)
      (newContractOf (10.01 + 10.01 * (50 / 100)) 2) twoPaidNew ∧
    ¬ Throughout ReceivableStep.apply (fun db => Activated "new" db → FiguresAgree "new" db)
      (newContractOf 160 6) twoPaidNew ∧
    ¬ Throughout ReceivableStep.apply (fun db => Activated "new" db → FiguresAgree "new" db)
      (newContractOf 100 2) [activateNew, chargeOf "new1" "r₁" "p₁",
        .operation (.markDefaulted "new" fun _ => true),
        .operation (.writeOff "new" "chief" "left town" 5)] := by
  refine ⟨fun h => ?_, fun h => ?_, fun h => ?_⟩
  · exact absurd (h.last (by decide +kernel)).reminder (by decide +kernel)
  · have hagree := h.last (by decide +kernel)
    have hnumber : (InstallmentService.calculateProgressPercentage "new" "root" .superAdmin none
        (run ReceivableStep.apply (newContractOf 160 6) twoPaidNew)).toOption.map
          Progress.percentagePaid = some 33.32 := by decide +kernel
    obtain ⟨progress, hprogress, hvalue⟩ := Option.map_eq_some_iff.mp hnumber
    have hok : InstallmentService.calculateProgressPercentage "new" "root" .superAdmin none
        (run ReceivableStep.apply (newContractOf 160 6) twoPaidNew) = .ok progress := by
      cases hcall : InstallmentService.calculateProgressPercentage "new" "root" .superAdmin none
          (run ReceivableStep.apply (newContractOf 160 6) twoPaidNew) with
      | error err =>
        rw [hcall] at hprogress
        cases hprogress
      | ok found =>
        rw [hcall] at hprogress
        exact congrArg _ (Option.some.inj hprogress)
    have hworker := hagree.installment _ _ _ _ hok
    rw [hvalue] at hworker
    exact absurd hworker (by decide +kernel)
  · exact absurd ((h.last (by decide +kernel)).complete.mpr (by decide +kernel)) (by decide +kernel)

end InstalFlow
