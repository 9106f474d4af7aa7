import InstalFlow.PayoutDuties
import InstalFlow.SettlementOperations

/-!
# Settlement calls and settlement jobs

`queueEligibleTransfers`, `retryTransfer` and the transfer job of a settlement, one statement at a
time, beside the calls and the jobs of payouts: all share the database and what Paystack has done,
and the settlements have a queue of their own. As there, the process may die before each
statement, and a statement may throw.
-/

namespace InstalFlow
open Relational Transition Jobs

structure MerchantSettlementTransferJobData where
  settlementId : String

structure SettlementSystem extends TransferSystem where
  settlementQueue : Table (Job.jobId (δ := MerchantSettlementTransferJobData)) := .empty

namespace MerchantSettlementService

def assertSuperAdmin (superAdminUserId : String) (db : Database) : Except AppError Unit :=
  if (db.users.find? superAdminUserId).map User.role ≠ some .superAdmin then
    .error (.unauthorized "Only SUPER_ADMIN can retry a settlement transfer.")
  else .ok ()

def findRetryable (settlementId : String) (db : Database) :
    Except AppError MerchantSettlementRequest :=
  match db.merchantSettlementRequests.find? settlementId with
  | none => .error (.notFound "Settlement not found.")
  | some settlement =>
    if !settlement.status.retryable then
      .error (.badRequest s!"Cannot retry. Current status: {settlement.status.name}")
    else .ok settlement

def retriedRow (nextRetryCount : ℕ) (superAdminUserId : String) (now : DateTime)
    (s : MerchantSettlementRequest) : MerchantSettlementRequest :=
  { s with
    status := .transferInitiated
    retryCount := nextRetryCount
    lastRetryAt := some now
    retryInitiatedById := some superAdminUserId
    transferFailedAt := none
    transferFailReason := none
    transferCode := none }

theorem retriedRow_settlementId (nextRetryCount : ℕ) (superAdminUserId : String) (now : DateTime)
    (s : MerchantSettlementRequest) :
    (retriedRow nextRetryCount superAdminUserId now s).settlementId = s.settlementId := rfl

/-- The transaction of a retry. -/
def commitRetry (settlementId : String) (nextRetryCount : ℕ) (superAdminUserId : String)
    (now : DateTime) (db : Database) : Database :=
  audit
    { settlementId, action := "RETRY_INITIATED", actorType := .user
      performedById := some superAdminUserId, outcome := "SUCCESS"
      details := s!"Retry #{nextRetryCount} initiated by SUPER_ADMIN." }
    (updateSettlement db settlementId (retriedRow nextRetryCount superAdminUserId now)
      (retriedRow_settlementId nextRetryCount superAdminUserId now))

theorem retryTransfer_eq (settlementId superAdminUserId : String) (now : DateTime) (db : Database) :
    retryTransfer settlementId superAdminUserId now db =
      (assertSuperAdmin superAdminUserId db).bind fun _ =>
        (findRetryable settlementId db).map fun settlement =>
          (settlement.retryCount + 1,
            commitRetry settlementId (settlement.retryCount + 1) superAdminUserId now db) := by
  rw [retryTransfer, assertSuperAdmin]
  split
  · rfl
  · rw [Except.bind, findRetryable]
    cases db.merchantSettlementRequests.find? settlementId with
    | none => rfl
    | some settlement =>
      by_cases hretryable : !settlement.status.retryable
      · simp only [if_pos hretryable]
        rfl
      · simp only [if_neg hretryable]
        rfl

/-- The options of `merchantSettlementTransferQueue.add`. -/
def settlementTransferJob (settlementId : String) (now : DateTime) :
    Job MerchantSettlementTransferJobData where
  jobId := "settlement-transfer:" ++ settlementId ++ ":" ++ toString now
  data := ⟨settlementId⟩
  attempts := 3

def retryTransferJob (settlementId : String) (now : DateTime) :
    Job MerchantSettlementTransferJobData where
  jobId := "settlement-transfer:" ++ settlementId ++ ":retry:" ++ toString now
  data := ⟨settlementId⟩
  attempts := 3

end MerchantSettlementService

open MerchantSettlementService

inductive SettlementCaller
  | queueEligibleTransfers
  | queueing (settlement : MerchantSettlementRequest) (eligible : List MerchantSettlementRequest)
      (queued : List String)
  | committed (settlement : MerchantSettlementRequest) (eligible : List MerchantSettlementRequest)
      (queued : List String)
  | returned (queued : List String)
  | retryTransfer (settlementId superAdminUserId : String)
  | retryAuthorized (settlementId superAdminUserId : String)
  | retryable (settlementId superAdminUserId : String) (settlement : MerchantSettlementRequest)
  | retryCommitted (settlementId : String) (nextRetryCount : ℕ)
  | retried (retryCount : ℕ)
  | refused (err : AppError)
  | crashed

namespace SettlementCaller

def queueNext (queued : List String) : List MerchantSettlementRequest → SettlementCaller
  | [] => returned queued
  | settlement :: eligible => queueing settlement eligible queued

/-- The next statement of the call. What a statement throws ends the call, also within the loop. -/
def perform (m : TransferMoment) (s : SettlementSystem) :
    SettlementCaller → SettlementSystem × SettlementCaller
  | queueEligibleTransfers =>
    match m.attempt (.ok (s.db.merchantSettlementRequests.rows.filter (eligible s.db))) with
    | .error err => (s, refused err)
    | .ok eligible => (s, queueNext [] eligible)
  | queueing settlement eligible queued =>
    match m.attempt (.ok (queueTransfer m.now s.db settlement)) with
    | .error err => (s, refused err)
    | .ok db => ({ s with db }, committed settlement eligible queued)
  | committed settlement eligible queued =>
    match m.attempt (.ok (keyed.add s.settlementQueue
        (settlementTransferJob settlement.settlementId m.now))) with
    | .error err => (s, refused err)
    | .ok settlementQueue =>
      ({ s with settlementQueue }, queueNext (queued ++ [settlement.settlementId]) eligible)
  | retryTransfer settlementId superAdminUserId =>
    match m.attempt (assertSuperAdmin superAdminUserId s.db) with
    | .error err => (s, refused err)
    | .ok () => (s, retryAuthorized settlementId superAdminUserId)
  | retryAuthorized settlementId superAdminUserId =>
    match m.attempt (findRetryable settlementId s.db) with
    | .error err => (s, refused err)
    | .ok settlement => (s, retryable settlementId superAdminUserId settlement)
  | retryable settlementId superAdminUserId settlement =>
    match m.attempt (.ok (commitRetry settlementId (settlement.retryCount + 1) superAdminUserId
        m.now s.db)) with
    | .error err => (s, refused err)
    | .ok db => ({ s with db }, retryCommitted settlementId (settlement.retryCount + 1))
  | retryCommitted settlementId nextRetryCount =>
    match m.attempt (.ok (keyed.add s.settlementQueue (retryTransferJob settlementId m.now))) with
    | .error err => (s, refused err)
    | .ok settlementQueue => ({ s with settlementQueue }, retried nextRetryCount)
  | caller => (s, caller)

def next (m : TransferMoment) (s : SettlementSystem) (caller : SettlementCaller) :
    SettlementSystem × SettlementCaller :=
  if m.crashes then (s, crashed) else caller.perform m s

section alone
variable {m : TransferMoment} (hcrashes : m.crashes = false) (hfails : m.fails = none)
include hcrashes hfails

/-- The loop over what the sweep has found. -/
theorem queueNext_alone (eligible : List MerchantSettlementRequest) (queued : List String)
    (s : SettlementSystem) :
    (fun p : SettlementSystem × SettlementCaller => next m p.1 p.2)^[2 * eligible.length]
      (s, queueNext queued eligible) =
        ({ s with
            db := eligible.foldl (queueTransfer m.now) s.db
            settlementQueue := eligible.foldl (fun queue settlement =>
              keyed.add queue (settlementTransferJob settlement.settlementId m.now))
                s.settlementQueue },
          returned (queued ++ eligible.map MerchantSettlementRequest.settlementId)) := by
  induction eligible generalizing queued s with
  | nil => simp [queueNext]
  | cons settlement eligible ih =>
    rw [List.length_cons, Nat.mul_succ, Function.iterate_add_apply, queueNext]
    have hturn : (fun p : SettlementSystem × SettlementCaller => next m p.1 p.2)^[2]
        (s, queueing settlement eligible queued) =
          ({ s with
              db := queueTransfer m.now s.db settlement
              settlementQueue := keyed.add s.settlementQueue
                (settlementTransferJob settlement.settlementId m.now) },
            queueNext (queued ++ [settlement.settlementId]) eligible) := by
      simp only [Function.iterate_succ_apply, Function.iterate_zero_apply, next, hcrashes,
        Bool.false_eq_true, if_false, perform, m.attempt_of_fails hfails]
    rw [hturn, ih]
    simp

/-- A sweep on its own is `queueEligibleTransfers` with an `add` for each settlement. -/
theorem queueEligibleTransfers_alone (s : SettlementSystem) :
    let swept := MerchantSettlementService.queueEligibleTransfers m.now s.db
    (fun p : SettlementSystem × SettlementCaller => next m p.1 p.2)^[2 * swept.1.length + 1]
      (s, queueEligibleTransfers) =
        ({ s with
            db := swept.2
            settlementQueue := swept.1.foldl (fun queue settlementId =>
              keyed.add queue (settlementTransferJob settlementId m.now)) s.settlementQueue },
          returned swept.1) := by
  intro swept
  have hread : next m s queueEligibleTransfers = (s, queueNext []
      (s.db.merchantSettlementRequests.rows.filter (eligible s.db))) := by
    simp only [next, hcrashes, Bool.false_eq_true, if_false, perform, m.attempt_of_fails hfails]
  simp only [swept, MerchantSettlementService.queueEligibleTransfers, List.length_map,
    List.foldl_map]
  rw [Function.iterate_succ_apply, hread]
  exact queueNext_alone hcrashes hfails _ [] s

/-- A retry on its own is `retryTransfer` and, when that succeeds, the `add`. -/
theorem retryTransfer_alone (settlementId superAdminUserId : String) (s : SettlementSystem) :
    (fun p : SettlementSystem × SettlementCaller => next m p.1 p.2)^[4]
      (s, retryTransfer settlementId superAdminUserId) =
        match MerchantSettlementService.retryTransfer settlementId superAdminUserId m.now s.db with
        | .error err => (s, refused err)
        | .ok (retryCount, db) =>
          ({ s with
              db
              settlementQueue := keyed.add s.settlementQueue
                (retryTransferJob settlementId m.now) }, retried retryCount) := by
  set f := fun p : SettlementSystem × SettlementCaller => next m p.1 p.2
  have hstep (s : SettlementSystem) (c : SettlementCaller) : f (s, c) = c.perform m s := by
    simp only [f, next, hcrashes, Bool.false_eq_true, if_false]
  have hdone (err : AppError) (n : ℕ) : f^[n] (s, refused err) = (s, refused err) :=
    Function.iterate_fixed (hstep s (refused err)) n
  rw [retryTransfer_eq, Function.iterate_succ_apply, hstep, perform, m.attempt_of_fails hfails]
  cases assertSuperAdmin superAdminUserId s.db with
  | error err => exact hdone err 3
  | ok admin =>
    simp only [Except.bind]
    rw [Function.iterate_succ_apply, hstep, perform, m.attempt_of_fails hfails]
    cases findRetryable settlementId s.db with
    | error err => exact hdone err 2
    | ok settlement =>
      simp only [Except.map]
      rw [Function.iterate_succ_apply, hstep, perform, m.attempt_of_fails hfails,
        Function.iterate_succ_apply, hstep, perform, m.attempt_of_fails hfails]
      rfl

end alone
end SettlementCaller

namespace MerchantSettlementTransferWorker

/-- The read of the job with its checks. A settlement that is not initiated is skipped. -/
def loadSettlement (settlementId : String) (db : Database) :
    Except AppError (Option (MerchantSettlementRequest × CompanyBankAccount)) :=
  match db.merchantSettlementRequests.find? settlementId with
  | none => .error (.error s!"[settlement-transfer-worker] Settlement not found: {settlementId}")
  | some settlement =>
    if settlement.status ≠ .transferInitiated then .ok none
    else
      match settlement.companyBankAccountId.bind db.companyBankAccounts.find? with
      | none => .error (.error
          s!"[settlement-transfer-worker] No bank account linked to settlement {settlementId}")
      | some bank => .ok (some (settlement, bank))

/-- The job once Paystack has accepted the transfer. -/
def recordRequested (settlement : MerchantSettlementRequest) (transferCode : Option String)
    (now : DateTime) (db : Database) : Database × Except AppError TransferJobResult :=
  match recordTransferInit settlement transferCode now db with
  | .error err => (db, .error err)
  | .ok db => (db, .ok (.success settlement.transferCode))

/-- The job once the recipient is known. -/
def requestTransfer (paystack : Paystack) (settlement : MerchantSettlementRequest)
    (recipientCode : Option String) (now : DateTime) (db : Database) :
    Database × Except AppError TransferJobResult :=
  if settlement.transferCode.isSome then (db, .ok (.success settlement.transferCode))
  else
    match paystack.initiateTransfer (settlement.amount * 100) recipientCode
        (settlementReferencePrefix ++ settlement.settlementId)
        ("Merchant settlement — company " ++ settlement.companyId) with
    | .error message => (db, .error (.error message))
    | .ok transferCode => recordRequested settlement transferCode now db

def companyRecipientRow (recipientCode : Option String) (b : CompanyBankAccount) :
    CompanyBankAccount :=
  { b with recipientCode := recipientCode.or b.recipientCode }

theorem companyRecipientRow_accountId (recipientCode : Option String) (b : CompanyBankAccount) :
    (companyRecipientRow recipientCode b).accountId = b.accountId := rfl

def storeCompanyRecipient (bank : CompanyBankAccount) (recipientCode : Option String)
    (db : Database) : Database :=
  let companyBankAccounts := db.companyBankAccounts.update bank.accountId
    (companyRecipientRow recipientCode) (companyRecipientRow_accountId recipientCode)
  { db with companyBankAccounts }

theorem giveUp_settlementId (message : String) (now : DateTime) (s : MerchantSettlementRequest) :
    (giveUp message now s).settlementId = s.settlementId := rfl

/-- The first statement of the `failed` listener. -/
def markGivenUp (job : FailedSettlementJob) (message : String) (now : DateTime) (db : Database) :
    Database :=
  if job.exhausted then
    updateSettlement db job.settlementId (giveUp message now) (giveUp_settlementId message now)
  else db

/-- The second one, which needs the settlement to exist. -/
def auditGivenUp (job : FailedSettlementJob) (message : String) (db : Database) : Database :=
  if job.exhausted then
    match db.merchantSettlementRequests.find? job.settlementId with
    | none => db
    | some _ => audit
        { settlementId := job.settlementId, action := "TRANSFER_FAILED", actorType := .worker
          outcome := "FAILURE", details := message } db
  else db

/-- The listener on its own -/
theorem onFailed_eq (job : FailedSettlementJob) (message : String) (now : DateTime)
    (db : Database) :
    onFailed job message now db = auditGivenUp job message (markGivenUp job message now db) := by
  rw [onFailed, auditGivenUp, markGivenUp]
  split
  · have hfind := Table.find?_update db.merchantSettlementRequests job.settlementId
      job.settlementId (giveUp message now) (giveUp_settlementId message now)
    rw [if_pos rfl] at hfind
    rw [updateSettlement, hfind]
    cases hsettlement : db.merchantSettlementRequests.find? job.settlementId with
    | some settlement => rfl
    | none =>
      have hsame : db.merchantSettlementRequests.update job.settlementId (giveUp message now)
          (giveUp_settlementId message now) = db.merchantSettlementRequests :=
        Table.updateMany_eq_self fun s hs =>
          decide_eq_false (Table.find?_eq_none_iff.mp hsettlement s hs)
      simp only [hsame, Option.map_none]
  · rfl

end MerchantSettlementTransferWorker

inductive SettlementExecution
  | idle
  | taken (job : Job MerchantSettlementTransferJobData)
  | loaded (job : Job MerchantSettlementTransferJobData) (settlement : MerchantSettlementRequest)
      (bank : CompanyBankAccount)
  | created (job : Job MerchantSettlementTransferJobData) (settlement : MerchantSettlementRequest)
      (bank : CompanyBankAccount) (recipientCode : Option String)
  | ready (job : Job MerchantSettlementTransferJobData) (settlement : MerchantSettlementRequest)
      (recipientCode : Option String)
  | accepted (job : Job MerchantSettlementTransferJobData)
      (settlement : MerchantSettlementRequest) (transferCode : Option String)
  | returned (job : Job MerchantSettlementTransferJobData)
  | failed (job : Job MerchantSettlementTransferJobData) (message : String)
  | marked (job : Job MerchantSettlementTransferJobData) (message : String)

namespace SettlementSystem

def giveUp (s : SettlementSystem) (jobId : String) : SettlementSystem :=
  { s with
    settlementQueue := s.settlementQueue.update jobId fun job => { job with failed := true } }

/-- Paystack is asked for the transfer of a settlement, under a reference with the prefix. -/
def initiateTransfer (paystack : Paystack) (settlement : MerchantSettlementRequest)
    (recipientCode : Option String) (s : SettlementSystem) :
    Except String (SettlementSystem × Option String) :=
  match paystack.initiateTransfer (settlement.amount * 100) recipientCode
      (settlementReferencePrefix ++ settlement.settlementId)
      ("Merchant settlement — company " ++ settlement.companyId) with
  | .error message => .error message
  | .ok transferCode =>
    match s.paystackTransfers.find? (settlementReferencePrefix ++ settlement.settlementId) with
    | some transfer => .ok (s, transfer.transferCode)
    | none =>
      let transfer : PaystackTransfer :=
        ⟨settlementReferencePrefix ++ settlement.settlementId, settlement.amount * 100,
          recipientCode, transferCode⟩
      let paystackTransfers := (s.paystackTransfers.create transfer).getD s.paystackTransfers
      .ok ({ s with paystackTransfers }, transferCode)

end SettlementSystem

namespace SettlementExecution
open MerchantSettlementTransferWorker

def throw (s : SettlementSystem) (job : Job MerchantSettlementTransferJobData) (message : String) :
    SettlementSystem × SettlementExecution :=
  ({ s with settlementQueue := keyed.fail s.settlementQueue job.jobId },
    failed job.afterFailure message)

def take (m : TransferMoment) (s : SettlementSystem) : SettlementSystem × SettlementExecution :=
  match m.jobId.bind (keyed.job? s.settlementQueue) with
  | none => (s, idle)
  | some job =>
    if job.failed then (s, idle)
    else if m.stalled then (s.giveUp job.jobId, idle)
    else (s, taken job)

def failedJob (job : Job MerchantSettlementTransferJobData) : FailedSettlementJob :=
  ⟨job.data.settlementId, job.attemptsMade, some job.attempts⟩

/-- The next statement of the job, or of the listener. -/
def perform (m : TransferMoment) (s : SettlementSystem) :
    SettlementExecution → SettlementSystem × SettlementExecution
  | idle => take m s
  | taken job =>
    match m.attempt (loadSettlement job.data.settlementId s.db) with
    | .error err => throw s job err.message
    | .ok none => (s, returned job)
    | .ok (some (settlement, bank)) => (s, loaded job settlement bank)
  | loaded job settlement bank =>
    match bank.recipientCode with
    | some code => (s, ready job settlement (some code))
    | none =>
      match m.paystack.createTransferRecipient bank.accountName bank.accountNumber
          bank.bankCode with
      | .error message => throw s job message
      | .ok recipientCode => (s, created job settlement bank recipientCode)
  | created job settlement bank recipientCode =>
    match m.attempt (.ok (storeCompanyRecipient bank recipientCode s.db)) with
    | .error err => throw s job err.message
    | .ok db => ({ s with db }, ready job settlement recipientCode)
  | ready job settlement recipientCode =>
    if settlement.transferCode.isSome then (s, returned job)
    else
      match s.initiateTransfer m.paystack settlement recipientCode with
      | .error message => throw s job message
      | .ok (s, transferCode) => (s, accepted job settlement transferCode)
  | accepted job settlement transferCode =>
    match m.attempt (recordTransferInit settlement transferCode m.now s.db) with
    | .error err => throw s job err.message
    | .ok db => ({ s with db }, returned job)
  | returned job =>
    ({ s with settlementQueue := keyed.complete s.settlementQueue job.jobId }, idle)
  | failed job message =>
    match m.attempt (.ok (markGivenUp (failedJob job) message m.now s.db)) with
    | .error _ => (s, idle)
    | .ok db => ({ s with db }, marked job message)
  | marked job message =>
    let audited := m.attempt (.ok (auditGivenUp (failedJob job) message s.db))
    ({ s with db := InstalFlow.committed s.db id audited }, idle)

def next (m : TransferMoment) (s : SettlementSystem) (e : SettlementExecution) :
    SettlementSystem × SettlementExecution :=
  if m.crashes then (s, idle) else e.perform m s

def concluded (job : Job MerchantSettlementTransferJobData) :
    Except AppError TransferJobResult → SettlementExecution
  | .ok _ => returned job
  | .error err => failed job.afterFailure err.message

/-- From `x` on, an undisturbed execution comes to the result `r`. -/
def Concludes (m : TransferMoment) (job : Job MerchantSettlementTransferJobData)
    (x : SettlementSystem × SettlementExecution)
    (r : Database × Except AppError TransferJobResult) : Prop :=
  ∃ n, ((fun p : SettlementSystem × SettlementExecution => p.2.perform m p.1)^[n] x).1.db = r.1 ∧
    ((fun p : SettlementSystem × SettlementExecution => p.2.perform m p.1)^[n] x).2 =
      concluded job r.2

section alone
variable {m : TransferMoment} {job : Job MerchantSettlementTransferJobData} {s : SettlementSystem}

theorem Concludes.returned (r : TransferJobResult) :
    Concludes m job (s, returned job) (s.db, .ok r) := ⟨0, rfl, rfl⟩

theorem Concludes.thrown (err : AppError) :
    Concludes m job (throw s job err.message) (s.db, .error err) := ⟨0, rfl, rfl⟩

theorem Concludes.step {e : SettlementExecution}
    {r : Database × Except AppError TransferJobResult}
    (h : Concludes m job (e.perform m s) r) : Concludes m job (s, e) r := by
  obtain ⟨n, hdb, he⟩ := h
  exact ⟨n + 1, hdb, he⟩

theorem accepted_concludes (hfails : m.fails = none) (settlement : MerchantSettlementRequest)
    (transferCode : Option String) (s : SettlementSystem) :
    Concludes m job (s, accepted job settlement transferCode)
      (recordRequested settlement transferCode m.now s.db) := by
  refine .step ?_
  rw [perform, m.attempt_of_fails hfails, recordRequested]
  cases recordTransferInit settlement transferCode m.now s.db with
  | error err => exact .thrown err
  | ok db => exact .returned (s := { s with db }) _

theorem ready_concludes (hfails : m.fails = none) (settlement : MerchantSettlementRequest)
    (recipientCode : Option String) (s : SettlementSystem) :
    Concludes m job (s, ready job settlement recipientCode)
      (requestTransfer (s.answering m.paystack) settlement recipientCode m.now s.db) := by
  refine .step ?_
  rw [perform, requestTransfer]
  by_cases hcode : settlement.transferCode.isSome
  · rw [if_pos hcode, if_pos hcode]
    exact .returned _
  rw [if_neg hcode, if_neg hcode]
  simp only [SettlementSystem.initiateTransfer, TransferSystem.answering, Except.map]
  cases m.paystack.initiateTransfer (settlement.amount * 100) recipientCode
      (settlementReferencePrefix ++ settlement.settlementId)
      ("Merchant settlement — company " ++ settlement.companyId) with
  | error message => exact .thrown (.error message)
  | ok transferCode =>
    cases s.paystackTransfers.find? (settlementReferencePrefix ++ settlement.settlementId) with
    | none =>
      exact accepted_concludes hfails settlement transferCode { s with paystackTransfers := _ }
    | some transfer => exact accepted_concludes hfails settlement transfer.transferCode s

/-- An execution on its own is `process`, with what Paystack answers in this state. -/
theorem taken_concludes (hfails : m.fails = none) (s : SettlementSystem) :
    Concludes m job (s, taken job)
      (process (s.answering m.paystack) job.data.settlementId m.now s.db) := by
  refine .step ?_
  rw [perform, m.attempt_of_fails hfails, process, loadSettlement]
  cases s.db.merchantSettlementRequests.find? job.data.settlementId with
  | none => exact .thrown _
  | some settlement =>
    by_cases hstatus : settlement.status ≠ .transferInitiated
    · simp only [if_pos hstatus]
      exact .returned .skipped
    simp only [if_neg hstatus]
    cases settlement.companyBankAccountId.bind s.db.companyBankAccounts.find? with
    | none => exact .thrown _
    | some bank =>
      refine .step ?_
      simp only [perform, resolveRecipient]
      cases bank.recipientCode with
      | some code => exact ready_concludes hfails settlement (some code) s
      | none =>
        simp only [TransferSystem.answering]
        cases m.paystack.createTransferRecipient bank.accountName bank.accountNumber
            bank.bankCode with
        | error message => exact .thrown (s := s) (.error message)
        | ok recipientCode =>
          refine .step ?_
          rw [perform, m.attempt_of_fails hfails]
          exact ready_concludes hfails settlement recipientCode
            { s with db := storeCompanyRecipient bank recipientCode s.db }

end alone

def job? : SettlementExecution → Option (Job MerchantSettlementTransferJobData)
  | idle => none
  | taken job | loaded job _ _ | created job _ _ _ | ready job _ _ | accepted job _ _
  | returned job | failed job _ | marked job _ => some job

end SettlementExecution
end InstalFlow
