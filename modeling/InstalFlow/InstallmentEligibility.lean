import InstalFlow.Calendar

/-!
# Eligibility of an installment

Whether an installment may be paid now: it has to be the first unpaid one of its
contract, and its payment window opens three days before it is due.
-/

namespace InstalFlow

inductive InstallmentEligibilityState
  | available | tooEarly | waitingForPrevious | paid | contractCompleted
deriving DecidableEq, Repr

inductive PaymentStatusLabel
  | upcoming | dueToday | overdue | paid
deriving DecidableEq, Repr

structure NextUnpaidMarker where
  installmentId : String
  sequence : ℕ
  dueDate : DateTime

structure InstallmentEligibility where
  installmentId : String
  canPay : Bool := false
  state : InstallmentEligibilityState
  reason : Option String := none
  isNextInstallment : Bool := false
  paymentWindowStarted : Bool := false
  availableFrom : Option DateTime := none
  daysUntilDue : ℤ
  daysOverdue : ℕ
  isOverdue : Bool
  isDueToday : Bool
  isUpcoming : Bool
  paymentStatusLabel : PaymentStatusLabel

namespace EligibilityMessages

def waitingForPrevious (previousSequence : ℕ) : String :=
  s!"Please settle Installment {previousSequence} first."

def tooEarly : String :=
  "This installment will become available for payment 3 days before its due date."

def contractCompleted : String :=
  "All installments for this financing contract have already been paid."

end EligibilityMessages

def paymentWindowDays : ℤ := 3

/-- Both arguments are starts of days, so that nothing is left to round. -/
def diffInCalendarDays (date reference : DateTime) : ℤ :=
  (date.startOfDay - reference.startOfDay) / msPerDay

def computeInstallmentEligibility (installment : Installment)
    (nextUnpaid : Option NextUnpaidMarker) (referenceDate : DateTime) : InstallmentEligibility :=
  let isPaid : Bool := installment.status = .paid
  let diffDays := diffInCalendarDays installment.dueDate referenceDate
  let isOverdue : Bool := !isPaid ∧ diffDays < 0
  let eligibility (state : InstallmentEligibilityState) : InstallmentEligibility :=
    { installmentId := installment.installmentId
      state
      daysUntilDue := diffDays
      daysOverdue := if isOverdue then diffDays.natAbs else 0
      isOverdue
      isDueToday := diffDays = 0
      isUpcoming := 0 < diffDays
      paymentStatusLabel := if isPaid then .paid else if isOverdue then .overdue
        else if diffDays = 0 then .dueToday else .upcoming }
  if isPaid then eligibility .paid
  else
    match nextUnpaid with
    | none =>
      { eligibility .contractCompleted with reason := some EligibilityMessages.contractCompleted }
    | some nextUnpaid =>
      if installment.installmentId ≠ nextUnpaid.installmentId then
        { eligibility .waitingForPrevious with
          reason := some (EligibilityMessages.waitingForPrevious nextUnpaid.sequence) }
      else
        let opened : Bool := diffDays ≤ paymentWindowDays
        { eligibility (if opened then .available else .tooEarly) with
          canPay := opened
          reason := if opened then none else some EligibilityMessages.tooEarly
          isNextInstallment := true
          paymentWindowStarted := opened
          availableFrom := some (installment.dueDate.startOfDay.addDays (-paymentWindowDays)) }

theorem canPay_iff {installment : Installment} {nextUnpaid : Option NextUnpaidMarker}
    {referenceDate : DateTime} :
    (computeInstallmentEligibility installment nextUnpaid referenceDate).canPay = true ↔
      installment.status ≠ .paid ∧
        (∃ next ∈ nextUnpaid, installment.installmentId = next.installmentId) ∧
        diffInCalendarDays installment.dueDate referenceDate ≤ paymentWindowDays := by
  by_cases hpaid : installment.status = .paid
  · simp [computeInstallmentEligibility, hpaid]
  · cases nextUnpaid with
    | none => simp [computeInstallmentEligibility, hpaid]
    | some next =>
      by_cases hnext : installment.installmentId = next.installmentId <;>
        simp [computeInstallmentEligibility, hpaid, hnext]

theorem canPay_iff_available {installment : Installment} {nextUnpaid : Option NextUnpaidMarker}
    {referenceDate : DateTime} :
    (computeInstallmentEligibility installment nextUnpaid referenceDate).canPay = true ↔
      (computeInstallmentEligibility installment nextUnpaid referenceDate).state = .available := by
  by_cases hpaid : installment.status = .paid
  · simp [computeInstallmentEligibility, hpaid]
  · cases nextUnpaid with
    | none => simp [computeInstallmentEligibility, hpaid]
    | some next =>
      by_cases hnext : installment.installmentId = next.installmentId <;>
        simp [computeInstallmentEligibility, hpaid, hnext]

theorem isNextInstallment_iff {installment : Installment} {nextUnpaid : Option NextUnpaidMarker}
    {referenceDate : DateTime} :
    (computeInstallmentEligibility installment nextUnpaid referenceDate).isNextInstallment = true ↔
      installment.status ≠ .paid ∧
        ∃ next ∈ nextUnpaid, installment.installmentId = next.installmentId := by
  by_cases hpaid : installment.status = .paid
  · simp [computeInstallmentEligibility, hpaid]
  · cases nextUnpaid with
    | none => simp [computeInstallmentEligibility, hpaid]
    | some next =>
      by_cases hnext : installment.installmentId = next.installmentId <;>
        simp [computeInstallmentEligibility, hpaid, hnext]

end InstalFlow
