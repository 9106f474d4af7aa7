import InstalFlow.Schema

/-!
# The status transitions of the reminder worker

`transitionInstallmentStatuses` sends two updates at once: PENDING installments
that are due become DUE, and DUE installments that are more than three days old
become OVERDUE, both only for ACTIVE contracts.
-/

namespace InstalFlow
open Relational

namespace PaymentReminderWorker

def dayMs : ℤ := 24 * 60 * 60 * 1000

def todayStart (now : DateTime) : DateTime := now - now % dayMs

def contractActive (db : Database) (i : Installment) : Bool :=
  ((db.financingContracts.find? i.financingContractId).map FinancingContract.status) = some .active

/-- An `updateMany` on the status of installments of active contracts. -/
def transition (source target : InstallmentStatus) (dueBy : DateTime → Bool) (db : Database) :
    Database :=
  let installments := db.installments.updateMany
    (fun i => i.status = source ∧ dueBy i.dueDate ∧ contractActive db i)
    (fun i => { i with status := target })
  { db with installments }

def pendingToDue (now : DateTime) : Database → Database :=
  transition .pending .due (fun dueDate => dueDate ≤ todayStart now)

def dueToOverdue (now : DateTime) : Database → Database :=
  transition .due .overdue (fun dueDate => dueDate < todayStart now - 3 * dayMs)

end PaymentReminderWorker
end InstalFlow
