import InstalFlow.ConcurrentRequests
import InstalFlow.Jobs.Queue
import InstalFlow.TransferPostings

/-!
# Transfer calls and transfer jobs

`initiateTransfer`, `initiateBulkTransfer` and the transfer job one statement at
a time. The callers and the workers share the database, the transfer queue and
what Paystack has done. Before each statement the process may die, and a
statement may throw. A job that a dead worker has left, or whose lock another
worker has taken over, is still in the queue and may be taken again, or it is
given up as stalled.
-/

namespace InstalFlow
open Relational Transition Jobs

namespace CommissionService
section checks
variable (payoutId companyUserId : String) (db : Database)

def findInitiator : Except AppError User :=
  match db.users.find? companyUserId with
  | none => .error (.forbidden "Only company accounts can initiate transfers")
  | some initiator =>
    if initiator.role ≠ .company then
      .error (.forbidden "Only company accounts can initiate transfers")
    else .ok initiator

def findTransferable (initiator : User) : Except AppError CommissionPayoutRequest :=
  match db.commissionPayoutRequests.find? payoutId with
  | none => .error (.notFound "Payout request not found")
  | some payout =>
    if some payout.companyId ≠ initiator.companyId then
      .error (.forbidden "This payout does not belong to your company")
    else if ¬ payout.status.initiatable then
      .error (.badRequest s!"Cannot initiate transfer. Current status: {payout.status.name}")
    else .ok payout

def findTargetAccount (payout : CommissionPayoutRequest) : Except AppError MarketerBankAccount :=
  match primaryBankAccount payout.userId db with
  | none => .error (.badRequest ("Marketer has no primary bank account. " ++
      "Please ask the marketer to add one."))
  | some bank => .ok bank

theorem initiateTransfer_eq (now : DateTime) :
    initiateTransfer payoutId companyUserId now db =
      (findInitiator companyUserId db).bind fun initiator =>
        (findTransferable payoutId db initiator).bind fun payout =>
          (findTargetAccount db payout).map fun bank =>
            (⟨payoutId, companyUserId⟩, startTransfer payout bank companyUserId now db) := by
  rw [initiateTransfer, transferTarget, findInitiator]
  cases db.users.find? companyUserId with
  | none => rfl
  | some initiator =>
    by_cases hrole : initiator.role ≠ .company
    · simp only [if_pos hrole]
      rfl
    · simp only [if_neg hrole, Except.bind, findTransferable]
      cases db.commissionPayoutRequests.find? payoutId with
      | none => rfl
      | some payout =>
        by_cases hcompany : some payout.companyId ≠ initiator.companyId
        · simp only [if_pos hcompany]
        · by_cases hstatus : ¬ payout.status.initiatable
          · simp only [if_neg hcompany, if_pos hstatus]
          · simp only [if_neg hcompany, if_neg hstatus, findTargetAccount]
            cases primaryBankAccount payout.userId db <;> rfl

end checks

def approvedRow (p : CommissionPayoutRequest) : CommissionPayoutRequest :=
  { p with status := .approved }

theorem approvedRow_payoutId (p : CommissionPayoutRequest) :
    (approvedRow p).payoutId = p.payoutId := rfl

/-- The transaction that reserves a failed payout again, or the update that sets
a reversed one back. -/
def restorePayout (payout : CommissionPayoutRequest) (db : Database) : Database :=
  let db := if payout.status = .transferFailed then reReserve payout.payoutId db else db
  if payout.status = .transferReversed then
    updatePayout db payout.payoutId approvedRow approvedRow_payoutId
  else db

def initiatedRow (bank : MarketerBankAccount) (companyUserId : String) (now : DateTime)
    (p : CommissionPayoutRequest) : CommissionPayoutRequest :=
  { p with
    status := .transferInitiated
    marketerBankAccountId := some bank.accountId
    transferInitiatedAt := some now
    transferInitiatedById := some companyUserId
    transferCode := none
    transferFailedAt := none
    transferFailReason := none }

theorem initiatedRow_payoutId (bank : MarketerBankAccount) (companyUserId : String)
    (now : DateTime) (p : CommissionPayoutRequest) :
    (initiatedRow bank companyUserId now p).payoutId = p.payoutId := rfl

def markInitiated (payout : CommissionPayoutRequest) (bank : MarketerBankAccount)
    (companyUserId : String) (now : DateTime) (db : Database) : Database :=
  updatePayout db payout.payoutId (initiatedRow bank companyUserId now)
    (initiatedRow_payoutId bank companyUserId now)

theorem startTransfer_eq (payout : CommissionPayoutRequest) (bank : MarketerBankAccount)
    (companyUserId : String) (now : DateTime) (db : Database) :
    startTransfer payout bank companyUserId now db =
      markInitiated payout bank companyUserId now (restorePayout payout db) := rfl

/-- The options of `transferQueue.add`. -/
def transferJob (payoutId companyUserId : String) (now : DateTime) : Job TransferJobData where
  jobId := "transfer:" ++ payoutId ++ ":" ++ toString now
  data := ⟨payoutId, companyUserId⟩
  attempts := 3

def bulkIssue (initiator : User) (db : Database) (id : String) : Option String :=
  match db.commissionPayoutRequests.find? id with
  | none => some s!"{id}: not found"
  | some payout =>
    if some payout.companyId ≠ initiator.companyId then
      some s!"{id}: does not belong to your company"
    else if ¬ payout.status.initiatable then
      some (s!"{id}: status is {payout.status.name} — expected APPROVED, TRANSFER_FAILED, " ++
        "or TRANSFER_REVERSED")
    else if db.marketerBankAccounts.rows.all (fun b => ¬ (b.userId = payout.userId ∧ b.isPrimary))
    then some s!"{id}: marketer {payout.userId} has no primary bank account"
    else none

/-- The validation of a bulk transfer, before any of its transfers is initiated. -/
def checkBulk (uniqueIds : List String) (initiator : User) (db : Database) : Except AppError Unit :=
  let errors := uniqueIds.filterMap (bulkIssue initiator db)
  if errors = [] then .ok ()
  else .error (.badRequest (s!"Bulk transfer validation failed ({errors.length} issue" ++
    (if errors.length > 1 then "s" else "") ++ "):\n" ++ "\n".intercalate errors))

end CommissionService

open CommissionService

structure PaystackTransfer where
  reference : String
  amountKobo : ℚ
  recipientCode : Option String
  transferCode : Option String

/-- What callers and workers share. Paystack makes at most one transfer under a reference. -/
structure TransferSystem where
  db : Database
  transferQueue : Table (Job.jobId (δ := TransferJobData)) := .empty
  paystackTransfers : Table PaystackTransfer.reference := .empty

/-- The circumstances of one statement. -/
structure TransferMoment where
  now : DateTime := 0
  crashes : Bool := false
  fails : Option String := none
  paystack : Paystack
  jobId : Option String := none
  stalled : Bool := false

def TransferMoment.attempt {α : Type} (m : TransferMoment) (r : Except AppError α) :
    Except AppError α :=
  match m.fails with
  | some message => .error (.error message)
  | none => r

theorem TransferMoment.attempt_of_fails {α : Type} (m : TransferMoment) (h : m.fails = none)
    (r : Except AppError α) : m.attempt r = r := by
  rw [attempt, h]

theorem TransferMoment.attempt_eq_ok {α : Type} (m : TransferMoment) {r : Except AppError α} {a : α}
    (h : m.attempt r = .ok a) : r = .ok a := by
  rw [attempt] at h
  cases hfails : m.fails with
  | none => rwa [hfails] at h
  | some message =>
    rw [hfails] at h
    cases h

inductive InitiationPhase
  | called
  | authorized (initiator : User)
  | found (payout : CommissionPayoutRequest)
  | targeted (payout : CommissionPayoutRequest) (bank : MarketerBankAccount)
  | restored (payout : CommissionPayoutRequest) (bank : MarketerBankAccount)
  | initiated

/-- The next statement of `initiateTransfer`. An `add` under the id of a kept job is ignored. -/
def InitiationPhase.next (payoutId companyUserId : String) (now : DateTime) (s : TransferSystem) :
    InitiationPhase → Except AppError (TransferSystem × Option InitiationPhase)
  | called => (findInitiator companyUserId s.db).map fun initiator => (s, authorized initiator)
  | authorized initiator => (findTransferable payoutId s.db initiator).map fun p => (s, found p)
  | found payout => (findTargetAccount s.db payout).map fun bank => (s, targeted payout bank)
  | targeted payout bank =>
    .ok ({ s with db := restorePayout payout s.db }, restored payout bank)
  | restored payout bank =>
    .ok ({ s with db := markInitiated payout bank companyUserId now s.db }, initiated)
  | initiated =>
    let transferQueue := keyed.add s.transferQueue (transferJob payoutId companyUserId now)
    .ok ({ s with transferQueue }, none)

/-- What the calls of a caller have come to. -/
abbrev InitiationResults : Type := List (String × Except AppError Unit)

inductive TransferCaller
  | bulk (companyUserId : String) (payoutIds : List String)
  | bulkAuthorized (companyUserId : String) (uniqueIds : List String) (initiator : User)
  | initiating (companyUserId payoutId : String) (phase : InitiationPhase) (rest : List String)
      (results : InitiationResults)
  | returned (results : InitiationResults)
  | refused (err : AppError)
  | crashed

namespace TransferCaller

def single (payoutId companyUserId : String) : TransferCaller :=
  initiating companyUserId payoutId .called [] []

def callNext (companyUserId : String) (results : InitiationResults) :
    List String → TransferCaller
  | [] => returned results
  | id :: rest => initiating companyUserId id .called rest results

/-- The loop of a bulk transfer goes on after a call that throws. -/
def settle (companyUserId payoutId : String) (rest : List String) (results : InitiationResults)
    (s : TransferSystem) :
    Except AppError (TransferSystem × Option InitiationPhase) → TransferSystem × TransferCaller
  | .error err => (s, callNext companyUserId (results ++ [(payoutId, .error err)]) rest)
  | .ok (s, some phase) => (s, initiating companyUserId payoutId phase rest results)
  | .ok (s, none) => (s, callNext companyUserId (results ++ [(payoutId, .ok ())]) rest)

def perform (m : TransferMoment) (s : TransferSystem) :
    TransferCaller → TransferSystem × TransferCaller
  | bulk companyUserId payoutIds =>
    if payoutIds = [] then (s, refused (.badRequest "payoutIds must not be empty"))
    else
      match m.attempt (findInitiator companyUserId s.db) with
      | .error err => (s, refused err)
      | .ok initiator => (s, bulkAuthorized companyUserId payoutIds.eraseDups initiator)
  | bulkAuthorized companyUserId uniqueIds initiator =>
    match m.attempt (checkBulk uniqueIds initiator s.db) with
    | .error err => (s, refused err)
    | .ok () => (s, callNext companyUserId [] uniqueIds)
  | initiating companyUserId payoutId phase rest results =>
    settle companyUserId payoutId rest results s
      (m.attempt (phase.next payoutId companyUserId m.now s))
  | caller => (s, caller)

def next (m : TransferMoment) (s : TransferSystem) (caller : TransferCaller) :
    TransferSystem × TransferCaller :=
  if m.crashes then (s, crashed) else caller.perform m s

/-- A call on its own is `initiateTransfer` and, when that succeeds, the `add`. -/
theorem single_alone (payoutId companyUserId : String) {m : TransferMoment}
    (hcrashes : m.crashes = false) (hfails : m.fails = none) (s : TransferSystem) :
    (fun p : TransferSystem × TransferCaller => next m p.1 p.2)^[6]
      (s, single payoutId companyUserId) =
        settle companyUserId payoutId [] [] s
          ((CommissionService.initiateTransfer payoutId companyUserId m.now s.db).map fun r =>
            ({ s with
                db := r.2
                transferQueue := keyed.add s.transferQueue
                  (transferJob payoutId companyUserId m.now) }, none)) := by
  set f := fun p : TransferSystem × TransferCaller => next m p.1 p.2
  have hstep (s : TransferSystem) (phase : InitiationPhase) :
      f (s, initiating companyUserId payoutId phase [] []) =
        settle companyUserId payoutId [] [] s (phase.next payoutId companyUserId m.now s) := by
    simp only [f, next, hcrashes, Bool.false_eq_true, if_false, perform, m.attempt_of_fails hfails]
  have hdone (s : TransferSystem) (results : InitiationResults) (n : ℕ) :
      f^[n] (s, returned results) = (s, returned results) :=
    Function.iterate_fixed (by simp [f, next, hcrashes, perform]) n
  rw [initiateTransfer_eq, single, Function.iterate_succ_apply, hstep, InitiationPhase.next]
  cases findInitiator companyUserId s.db with
  | error err => exact hdone s _ 5
  | ok initiator =>
    simp only [Except.map, Except.bind, settle]
    rw [Function.iterate_succ_apply, hstep, InitiationPhase.next]
    cases findTransferable payoutId s.db initiator with
    | error err => exact hdone s _ 4
    | ok payout =>
      simp only [Except.map, settle]
      rw [Function.iterate_succ_apply, hstep, InitiationPhase.next]
      cases findTargetAccount s.db payout with
      | error err => exact hdone s _ 3
      | ok bank =>
        simp only [Except.map, settle]
        rw [Function.iterate_succ_apply, hstep, InitiationPhase.next, settle,
          Function.iterate_succ_apply, hstep, InitiationPhase.next, settle,
          Function.iterate_succ_apply, hstep, InitiationPhase.next]
        rfl

/-- The payouts of which the caller may still initiate a transfer. -/
def pending : TransferCaller → List String
  | bulk _ payoutIds => payoutIds
  | bulkAuthorized _ uniqueIds _ => uniqueIds
  | initiating _ payoutId _ rest _ => payoutId :: rest
  | returned _ | refused _ | crashed => []

end TransferCaller

namespace TransferWorker

/-- The read of the job with its checks. A payout that is not initiated is skipped. -/
def loadTransfer (payoutId : String) (db : Database) :
    Except AppError (Option (CommissionPayoutRequest × MarketerBankAccount)) :=
  match db.commissionPayoutRequests.find? payoutId with
  | none => .error (.error s!"[transfer-worker] Payout not found: {payoutId}")
  | some payout =>
    if payout.status ≠ .transferInitiated then .ok none
    else
      match payout.marketerBankAccountId.bind db.marketerBankAccounts.find? with
      | none => .error (.error s!"[transfer-worker] No bank account linked to payout {payoutId}")
      | some bank => .ok (some (payout, bank))

/-- The job once Paystack has accepted the transfer. -/
def recordRequested (payout : CommissionPayoutRequest) (transferCode : Option String)
    (db : Database) : Database × Except AppError TransferJobResult :=
  match recordTransferInit payout transferCode db with
  | .error err => (db, .error err)
  | .ok db => (db, .ok (.success payout.transferCode))

/-- The job once the recipient is known. -/
def requestTransfer (paystack : Paystack) (payout : CommissionPayoutRequest)
    (recipientCode : Option String) (db : Database) :
    Database × Except AppError TransferJobResult :=
  if payout.transferCode.isSome then (db, .ok (.success payout.transferCode))
  else
    match paystack.initiateTransfer (payout.amount * 100) recipientCode payout.payoutId
        ("Commission payout — " ++ payout.userId) with
    | .error message => (db, .error (.error message))
    | .ok transferCode => recordRequested payout transferCode db

def recipientRow (recipientCode : Option String) (b : MarketerBankAccount) : MarketerBankAccount :=
  { b with recipientCode := recipientCode.or b.recipientCode }

theorem recipientRow_accountId (recipientCode : Option String) (b : MarketerBankAccount) :
    (recipientRow recipientCode b).accountId = b.accountId := rfl

def storeRecipient (bank : MarketerBankAccount) (recipientCode : Option String) (db : Database) :
    Database :=
  let marketerBankAccounts := db.marketerBankAccounts.update bank.accountId
    (recipientRow recipientCode) (recipientRow_accountId recipientCode)
  { db with marketerBankAccounts }

end TransferWorker

inductive TransferExecution
  | idle
  | taken (job : Job TransferJobData)
  | loaded (job : Job TransferJobData) (payout : CommissionPayoutRequest)
      (bank : MarketerBankAccount)
  | created (job : Job TransferJobData) (payout : CommissionPayoutRequest)
      (bank : MarketerBankAccount) (recipientCode : Option String)
  | ready (job : Job TransferJobData) (payout : CommissionPayoutRequest)
      (recipientCode : Option String)
  | accepted (job : Job TransferJobData) (payout : CommissionPayoutRequest)
      (transferCode : Option String)
  | returned (job : Job TransferJobData)
  | failed (job : Job TransferJobData) (message : String)

namespace TransferSystem

/-- A job that has stalled too often fails without another attempt. -/
def giveUp (s : TransferSystem) (jobId : String) : TransferSystem :=
  { s with transferQueue := s.transferQueue.update jobId fun job => { job with failed := true } }

/-- Paystack is asked for a transfer. It refuses, or makes the transfer unless
the reference has one, and answers with the code of the transfer. -/
def initiateTransfer (paystack : Paystack) (payout : CommissionPayoutRequest)
    (recipientCode : Option String) (s : TransferSystem) :
    Except String (TransferSystem × Option String) :=
  match paystack.initiateTransfer (payout.amount * 100) recipientCode payout.payoutId
      ("Commission payout — " ++ payout.userId) with
  | .error message => .error message
  | .ok transferCode =>
    match s.paystackTransfers.find? payout.payoutId with
    | some transfer => .ok (s, transfer.transferCode)
    | none =>
      let transfer : PaystackTransfer :=
        ⟨payout.payoutId, payout.amount * 100, recipientCode, transferCode⟩
      let paystackTransfers := (s.paystackTransfers.create transfer).getD s.paystackTransfers
      .ok ({ s with paystackTransfers }, transferCode)

/-- Paystack as it answers in this state: a repeated reference has its transfer. -/
def answering (s : TransferSystem) (paystack : Paystack) : Paystack where
  createTransferRecipient := paystack.createTransferRecipient
  initiateTransfer amountKobo recipientCode reference reason :=
    (paystack.initiateTransfer amountKobo recipientCode reference reason).map fun transferCode =>
      ((s.paystackTransfers.find? reference).map PaystackTransfer.transferCode).getD transferCode

end TransferSystem

namespace TransferExecution
open TransferWorker

/-- The attempt throws: the job waits for its next attempt or fails, and the
`failed` listener is to run. -/
def throw (s : TransferSystem) (job : Job TransferJobData) (message : String) :
    TransferSystem × TransferExecution :=
  ({ s with transferQueue := keyed.fail s.transferQueue job.jobId },
    failed job.afterFailure message)

def take (m : TransferMoment) (s : TransferSystem) : TransferSystem × TransferExecution :=
  match m.jobId.bind (keyed.job? s.transferQueue) with
  | none => (s, idle)
  | some job =>
    if job.failed then (s, idle)
    else if m.stalled then (s.giveUp job.jobId, idle)
    else (s, taken job)

/-- The next statement of the job, or of the listener. -/
def perform (m : TransferMoment) (s : TransferSystem) :
    TransferExecution → TransferSystem × TransferExecution
  | idle => take m s
  | taken job =>
    match m.attempt (loadTransfer job.data.payoutId s.db) with
    | .error err => throw s job err.message
    | .ok none => (s, returned job)
    | .ok (some (payout, bank)) => (s, loaded job payout bank)
  | loaded job payout bank =>
    match bank.recipientCode with
    | some code => (s, ready job payout (some code))
    | none =>
      match m.paystack.createTransferRecipient bank.accountName bank.accountNumber
          bank.bankCode with
      | .error message => throw s job message
      | .ok recipientCode => (s, created job payout bank recipientCode)
  | created job payout bank recipientCode =>
    match m.attempt (.ok (storeRecipient bank recipientCode s.db)) with
    | .error err => throw s job err.message
    | .ok db => ({ s with db }, ready job payout recipientCode)
  | ready job payout recipientCode =>
    if payout.transferCode.isSome then (s, returned job)
    else
      match s.initiateTransfer m.paystack payout recipientCode with
      | .error message => throw s job message
      | .ok (s, transferCode) => (s, accepted job payout transferCode)
  | accepted job payout transferCode =>
    match m.attempt (recordTransferInit payout transferCode s.db) with
    | .error err => throw s job err.message
    | .ok db => ({ s with db }, returned job)
  | returned job => ({ s with transferQueue := keyed.complete s.transferQueue job.jobId }, idle)
  | failed job message =>
    let listened := onFailed ⟨job.data.payoutId, job.attemptsMade, some job.attempts⟩ message
      m.now s.db
    ({ s with db := committed s.db id (m.attempt listened) }, idle)

def next (m : TransferMoment) (s : TransferSystem) (e : TransferExecution) :
    TransferSystem × TransferExecution :=
  if m.crashes then (s, idle) else e.perform m s

def concluded (job : Job TransferJobData) : Except AppError TransferJobResult → TransferExecution
  | .ok _ => returned job
  | .error err => failed job.afterFailure err.message

/-- From `x` on, an undisturbed execution comes to the result `r`. -/
def Concludes (m : TransferMoment) (job : Job TransferJobData)
    (x : TransferSystem × TransferExecution) (r : Database × Except AppError TransferJobResult) :
    Prop :=
  ∃ n, ((fun p : TransferSystem × TransferExecution => p.2.perform m p.1)^[n] x).1.db = r.1 ∧
    ((fun p : TransferSystem × TransferExecution => p.2.perform m p.1)^[n] x).2 =
      concluded job r.2

section alone
variable {m : TransferMoment} {job : Job TransferJobData} {s : TransferSystem}

theorem Concludes.returned (r : TransferJobResult) :
    Concludes m job (s, returned job) (s.db, .ok r) := ⟨0, rfl, rfl⟩

theorem Concludes.thrown (err : AppError) :
    Concludes m job (throw s job err.message) (s.db, .error err) := ⟨0, rfl, rfl⟩

theorem Concludes.step {e : TransferExecution}
    {r : Database × Except AppError TransferJobResult}
    (h : Concludes m job (e.perform m s) r) : Concludes m job (s, e) r := by
  obtain ⟨n, hdb, he⟩ := h
  exact ⟨n + 1, hdb, he⟩

theorem accepted_concludes (hfails : m.fails = none) (payout : CommissionPayoutRequest)
    (transferCode : Option String) (s : TransferSystem) :
    Concludes m job (s, accepted job payout transferCode)
      (recordRequested payout transferCode s.db) := by
  refine .step ?_
  rw [perform, m.attempt_of_fails hfails, recordRequested]
  cases recordTransferInit payout transferCode s.db with
  | error err => exact .thrown err
  | ok db => exact .returned (s := { s with db }) _

theorem ready_concludes (hfails : m.fails = none) (payout : CommissionPayoutRequest)
    (recipientCode : Option String) (s : TransferSystem) :
    Concludes m job (s, ready job payout recipientCode)
      (requestTransfer (s.answering m.paystack) payout recipientCode s.db) := by
  refine .step ?_
  rw [perform, requestTransfer]
  by_cases hcode : payout.transferCode.isSome
  · rw [if_pos hcode, if_pos hcode]
    exact .returned _
  rw [if_neg hcode, if_neg hcode]
  simp only [TransferSystem.initiateTransfer, TransferSystem.answering, Except.map]
  cases m.paystack.initiateTransfer (payout.amount * 100) recipientCode payout.payoutId
      ("Commission payout — " ++ payout.userId) with
  | error message => exact .thrown (.error message)
  | ok transferCode =>
    cases s.paystackTransfers.find? payout.payoutId with
    | none => exact accepted_concludes hfails payout transferCode { s with paystackTransfers := _ }
    | some transfer => exact accepted_concludes hfails payout transfer.transferCode s

/-- An execution on its own is `process`, with what Paystack answers in this state. -/
theorem taken_concludes (hfails : m.fails = none) (s : TransferSystem) :
    Concludes m job (s, taken job)
      (process (s.answering m.paystack) job.data.payoutId s.db) := by
  refine .step ?_
  rw [perform, m.attempt_of_fails hfails, process, loadTransfer]
  cases s.db.commissionPayoutRequests.find? job.data.payoutId with
  | none => exact .thrown _
  | some payout =>
    by_cases hstatus : payout.status ≠ .transferInitiated
    · simp only [if_pos hstatus]
      exact .returned .skipped
    simp only [if_neg hstatus]
    cases payout.marketerBankAccountId.bind s.db.marketerBankAccounts.find? with
    | none => exact .thrown _
    | some bank =>
      refine .step ?_
      simp only [perform, resolveRecipient]
      cases bank.recipientCode with
      | some code => exact ready_concludes hfails payout (some code) s
      | none =>
        simp only [TransferSystem.answering]
        cases m.paystack.createTransferRecipient bank.accountName bank.accountNumber
            bank.bankCode with
        | error message => exact .thrown (s := s) (.error message)
        | ok recipientCode =>
          refine .step ?_
          rw [perform, m.attempt_of_fails hfails]
          exact ready_concludes hfails payout recipientCode
            { s with db := storeRecipient bank recipientCode s.db }

end alone

theorem next_of_runs {m : TransferMoment} (s : TransferSystem) (e : TransferExecution)
    (h : m.crashes = false) : e.next m s = e.perform m s := by
  simp [next, h]

def job? : TransferExecution → Option (Job TransferJobData)
  | idle => none
  | taken job | loaded job _ _ | created job _ _ _ | ready job _ _ | accepted job _ _
  | returned job | failed job _ => some job

end TransferExecution

end InstalFlow
