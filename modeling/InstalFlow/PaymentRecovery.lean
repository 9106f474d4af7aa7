import InstalFlow.PaymentIntentService
import Mathlib.Data.List.Sort

/-!
# The recovery worker of payment intents

A sweep claims INITIALIZING intents that have not been touched for five
minutes, replays their initialization one after the other, and then expires
what is stale. A claimed intent is expired or given up first if it is due.
-/

namespace InstalFlow
open Relational

structure ClaimedIntent where
  intentId : String
  recoveryAttempts : ℕ

inductive RecoveryResult
  | expired | recovered | gaveUp | retryScheduled | skipped
deriving DecidableEq, Repr

namespace PaymentRecoveryWorker

def recoveryStaleThresholdMs : ℤ := 5 * 60 * 1000
def recoveryClaimLeaseMs : ℤ := 2 * 60 * 1000
def recoveryBatchSize : ℕ := 20

/-- `PAYMENT_RECOVERY_MAX_ATTEMPTS` unless the environment sets it. -/
def maxRecoveryAttempts : ℕ := 5

def claimable (now : DateTime) (i : PaymentIntent) : Bool :=
  i.status = .initializing ∧ i.updatedAt ≤ now - recoveryStaleThresholdMs ∧
    ∀ t ∈ i.recoveryClaimedAt, t ≤ now - recoveryClaimLeaseMs

/-- The rows the sweep selects. The environment says which rows are locked by
another sweep and therefore skipped. -/
def claimedIds (locked : String → Bool) (now : DateTime) (db : Database) : List String :=
  (((db.paymentIntents.rows.filter (fun i => claimable now i ∧ !locked i.intentId)).insertionSort
    (fun a b => a.updatedAt ≤ b.updatedAt)).take recoveryBatchSize).map PaymentIntent.intentId

def claimStaleIntents (locked : String → Bool) (now : DateTime) (db : Database) :
    List ClaimedIntent × Database :=
  let ids := claimedIds locked now db
  let paymentIntents := db.paymentIntents.updateMany (fun i => i.intentId ∈ ids)
    (fun i =>
      { i with recoveryClaimedAt := some now, recoveryAttempts := i.recoveryAttempts + 1 })
  ((paymentIntents.rows.filter (fun i => i.intentId ∈ ids)).map
    (fun i => ⟨i.intentId, i.recoveryAttempts⟩), { db with paymentIntents })

def recoverIntent (provider : PaymentIntentService.InitializeTransaction) (claim : ClaimedIntent)
    (now : DateTime) (db : Database) : Database × Except AppError RecoveryResult :=
  match db.paymentIntents.find? claim.intentId with
  | none => (db, .ok .skipped)
  | some intent =>
    if intent.status ≠ .initializing then (db, .ok .skipped)
    else if intent.expiresAt < now then
      match PaymentIntentService.markExpired intent.intentId now db with
      | .error err => (db, .error err)
      | .ok db => (db, .ok .expired)
    else if maxRecoveryAttempts < claim.recoveryAttempts then
      match PaymentIntentService.markFailed intent.intentId
          (some s!"Exceeded max recovery attempts ({maxRecoveryAttempts})") now db with
      | .error err => (db, .error err)
      | .ok db => (db, .ok .gaveUp)
    else
      match PaymentIntentService.initializePaystack provider intent.intentId false now db with
      | (db, .ok _) => (db, .ok .recovered)
      | (db, .error err) =>
        (PaymentIntentService.recordRecoveryFailure intent.intentId err.message now db,
          .ok .retryScheduled)

/-- A sweep: an error in one recovery is logged and leaves the others alone. -/
def runRecovery (provider : PaymentIntentService.InitializeTransaction)
    (locked : String → Bool) (now : DateTime) (db : Database) : Database :=
  let (claimed, db) := claimStaleIntents locked now db
  let db := claimed.foldl (fun db claim => (recoverIntent provider claim now db).1) db
  PaymentIntentService.expireStale now db

end PaymentRecoveryWorker
end InstalFlow
