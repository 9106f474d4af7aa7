import InstalFlow.ChargeWebhook
import InstalFlow.Transition.Run

/-!
# The statements of the intent flows

Initialization, recovery, the sweeps and the `failed` listener reach the intents
through single statements, each of which is one conditional `updateMany`. A flow
is a run of its statements, between which those of other flows may be executed.
-/

namespace InstalFlow
open Relational Transition

inductive IntentStatement
  | markInitialized (intentId : String) (response : ProviderResponse)
  | markPending (intentId : String)
  | markFailed (intentId : String) (reason : Option String)
  | markExpired (intentId : String)
  | cancel (intentId : String) (reason : Option String)
  | recordRecoveryFailure (intentId errorMessage : String)
  | claimStaleIntents (locked : String → Bool)
  | expireStale

namespace IntentStatement

def execute (now : DateTime) (db : Database) : IntentStatement → Database
  | markInitialized intentId response =>
      committed db id (PaymentIntentService.markInitialized intentId response now db)
  | markPending intentId => committed db id (PaymentIntentService.markPending intentId now db)
  | markFailed intentId reason =>
      committed db id (PaymentIntentService.markFailed intentId reason now db)
  | markExpired intentId => committed db id (PaymentIntentService.markExpired intentId now db)
  | cancel intentId reason => committed db id (PaymentIntentService.cancel intentId reason now db)
  | recordRecoveryFailure intentId errorMessage =>
      PaymentIntentService.recordRecoveryFailure intentId errorMessage now db
  | claimStaleIntents locked => (PaymentRecoveryWorker.claimStaleIntents locked now db).2
  | expireStale => PaymentIntentService.expireStale now db

/-- One statement of a run, executed at a time of its own. -/
def step (db : Database) (a : IntentStatement × DateTime) : Database := a.1.execute a.2 db

end IntentStatement

open IntentStatement (step)

section flows
variable {db : Database}

theorem initializationFailed_reaches (intentId : String) (markFailedOnError : Bool)
    (now : DateTime) (err : AppError) : Reaches step db
      (PaymentIntentService.initializationFailed intentId markFailedOnError now db err).1 := by
  rw [PaymentIntentService.initializationFailed]
  by_cases hflag : markFailedOnError
  · have hstep := reaches_step step db (.markFailed intentId (some err.message), now)
    simp only [step, IntentStatement.execute] at hstep
    simp only [hflag, if_true]
    cases hmark : PaymentIntentService.markFailed intentId (some err.message) now db with
    | error conflict => exact reaches_self step db
    | ok db' =>
      rw [hmark] at hstep
      exact hstep
  · simp only [hflag, Bool.false_eq_true, if_false]
    exact reaches_self step db

theorem initializePaystack_reaches (provider : PaymentIntentService.InitializeTransaction)
    (intentId : String) (markFailedOnError : Bool) (now : DateTime) :
    Reaches step db
      (PaymentIntentService.initializePaystack provider intentId markFailedOnError now db).1 := by
  rw [PaymentIntentService.initializePaystack]
  cases db.paymentIntents.find? intentId with
  | none => exact reaches_self step db
  | some intent =>
    simp only
    cases intent.initializationPayload with
    | none => exact reaches_self step db
    | some payload =>
      simp only
      by_cases hemail : isBlank payload.email
      · simp only [hemail, if_true]
        exact reaches_self step db
      · simp only [hemail, Bool.false_eq_true, if_false]
        cases provider payload.email (intent.amount * 100) with
        | error message =>
          exact initializationFailed_reaches intentId markFailedOnError now (.error message)
        | ok response =>
          simp only
          have hstep := reaches_step step db (.markInitialized intentId response, now)
          simp only [step, IntentStatement.execute] at hstep
          cases hmark : PaymentIntentService.markInitialized intentId response now db with
          | error err => exact initializationFailed_reaches intentId markFailedOnError now err
          | ok db' =>
            rw [hmark] at hstep
            exact hstep

theorem recoverIntent_reaches (provider : PaymentIntentService.InitializeTransaction)
    (claim : ClaimedIntent) (now : DateTime) :
    Reaches step db (PaymentRecoveryWorker.recoverIntent provider claim now db).1 := by
  rw [PaymentRecoveryWorker.recoverIntent]
  cases db.paymentIntents.find? claim.intentId with
  | none => exact reaches_self step db
  | some intent =>
    simp only
    split
    · exact reaches_self step db
    · split
      · have hstep := reaches_step step db (.markExpired intent.intentId, now)
        simp only [step, IntentStatement.execute] at hstep
        cases hmark : PaymentIntentService.markExpired intent.intentId now db with
        | error err => exact reaches_self step db
        | ok db' =>
          rw [hmark] at hstep
          exact hstep
      · split
        · have hstep := reaches_step step db (.markFailed intent.intentId (some
            s!"Exceeded max recovery attempts ({PaymentRecoveryWorker.maxRecoveryAttempts})"), now)
          simp only [step, IntentStatement.execute] at hstep
          split
          · exact reaches_self step db
          · rename_i db' hmark
            rw [hmark] at hstep
            exact hstep
        · have hstep : Reaches step db _ :=
            initializePaystack_reaches provider intent.intentId false now
          split
          · rename_i db' response hinit
            rw [hinit] at hstep
            exact hstep
          · rename_i db' err hinit
            rw [hinit] at hstep
            exact hstep.trans (reaches_step step db'
              (.recordRecoveryFailure intent.intentId err.message, now))

theorem runRecovery_reaches (provider : PaymentIntentService.InitializeTransaction)
    (locked : String → Bool) (now : DateTime) :
    Reaches step db (PaymentRecoveryWorker.runRecovery provider locked now db) := by
  have hclaim := reaches_step step db (.claimStaleIntents locked, now)
  have hrecover : ∀ db claim, Reaches step db
      (PaymentRecoveryWorker.recoverIntent provider claim now db).1 :=
    fun _ claim => recoverIntent_reaches provider claim now
  have hloop := reaches_foldl step (fun db claim => hrecover db claim)
    (PaymentRecoveryWorker.claimStaleIntents locked now db).2
    (PaymentRecoveryWorker.claimStaleIntents locked now db).1
  exact (hclaim.trans hloop).trans (reaches_step step _ (.expireStale, now))

theorem onFailed_reaches (job : Jobs.Job PaymentJobData) (now : DateTime) :
    Reaches step db (PaymentWorker.onFailed job now db) := by
  rw [PaymentWorker.onFailed]
  by_cases hlast : job.attemptsMade = job.attempts
  · simp only [hlast, if_true]
    cases PaymentIntentService.findByReference job.data.reference db with
    | none => exact reaches_self step db
    | some intent => exact reaches_step step db (.markFailed intent.intentId none, now)
  · simp only [hlast, if_false]
    exact reaches_self step db

end flows
end InstalFlow
