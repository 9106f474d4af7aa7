import InstalFlow.LedgerService
import InstalFlow.Accounting.Fund
import InstalFlow.Transition.Run

/-!
# Commissions and their allocations

The status derivations of `commission-helper.ts` and the loops in which the
transfer webhooks and the re-reservation move the allocations of a payout to
another status. Each turn of such a loop updates the allocation and then writes
the commission from the row that was read together with the allocation.
-/

namespace InstalFlow
open Relational Accounting

def deriveReservationStatus (reservedAmount totalAmount : ℚ) : CommissionStatus :=
  if reservedAmount = 0 then .active
  else if reservedAmount < totalAmount then .partiallyReserved
  else .reserved

def derivePostPaymentStatus (totalAmount reservedAmount totalPaid : ℚ) : CommissionStatus :=
  if totalAmount ≤ totalPaid then .paid
  else if reservedAmount = 0 then .active
  else if reservedAmount < totalAmount - totalPaid then .partiallyReserved
  else .reserved

structure JoinedAllocation where
  allocation : CommissionAllocation
  commission : Commission

namespace Database

/-- The allocations of a payout, each with its commission. The foreign key makes
the lookup of the commission succeed. -/
def allocationsOf (db : Database) (payoutId : String) : List JoinedAllocation :=
  (db.commissionAllocations.rows.filter (fun a => a.payoutId = payoutId)).filterMap
    (fun a => (db.commissions.find? a.commissionId).map (⟨a, ·⟩))

def sumAllocated (db : Database) (commissionId : String) (status : CommissionAllocationStatus) : ℚ :=
  db.commissionAllocations.sumWhere
    (fun a => a.commissionId = commissionId ∧ a.status = status) CommissionAllocation.allocatedAmount

def fund (db : Database) (commissionId : String) : Fund ℚ :=
  ⟨db.sumAllocated commissionId .reserved, db.sumAllocated commissionId .paid⟩

def setAllocationStatus (db : Database) (key : String × String)
    (status : CommissionAllocationStatus) : Database :=
  { db with commissionAllocations :=
      db.commissionAllocations.update key (fun a => { a with status }) }

def setReservation (db : Database) (commissionId : String) (reservedAmount : ℚ)
    (status : CommissionStatus) : Database :=
  { db with commissions :=
      db.commissions.update commissionId (fun c => { c with reservedAmount, status }) }

end Database

/-- The loop body of `handleTransferSuccess`. The paid total is read inside the
transaction, after the allocation has been marked. -/
def settleAllocation (db : Database) (j : JoinedAllocation) : Database :=
  let db := db.setAllocationStatus j.allocation.key .paid
  let newReservedAmount := j.commission.reservedAmount - j.allocation.allocatedAmount
  let totalPaid := db.sumAllocated j.allocation.commissionId .paid
  db.setReservation j.allocation.commissionId newReservedAmount
    (derivePostPaymentStatus j.commission.amount newReservedAmount totalPaid)

/-- The loop body of `handleTransferFailed`. -/
def releaseAllocation (db : Database) (j : JoinedAllocation) : Database :=
  let db := db.setAllocationStatus j.allocation.key .released
  let newReservedAmount := j.commission.reservedAmount - j.allocation.allocatedAmount
  db.setReservation j.allocation.commissionId newReservedAmount
    (deriveReservationStatus newReservedAmount j.commission.amount)

/-- The loop body of `handleTransferReversed` and of the re-reservation in
`initiateTransfer`. -/
def restoreAllocation (db : Database) (j : JoinedAllocation) : Database :=
  let newReservedAmount := j.commission.reservedAmount + j.allocation.allocatedAmount
  let db := db.setAllocationStatus j.allocation.key .reserved
  db.setReservation j.allocation.commissionId newReservedAmount
    (deriveReservationStatus newReservedAmount j.commission.amount)

def withStatus (status : CommissionAllocationStatus) (js : List JoinedAllocation) :
    List JoinedAllocation :=
  js.filter (fun j => j.allocation.status = status)

end InstalFlow
