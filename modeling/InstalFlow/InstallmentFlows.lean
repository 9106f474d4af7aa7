import InstalFlow.IntentStatements

/-!
# The flows of an installment payment

Payment jobs, and the requests, webhooks and sweeps that lead to them. Of all
their statements only the commit of a job is about more than the intents.
-/

namespace InstalFlow
open Relational Transition

/-- The flows around the payment of installments. -/
inductive InstallmentFlow
  | initializePayment (installmentId customerId : String)
  | chargeSuccess (payload : ChargeSuccessPayload)
  | job (data : PaymentJobData) (paymentId commissionId : String)
  | finalFailure (reference : String)
  | runRecovery
  | expireStale

def InstallmentFlow.program : InstallmentFlow → IntentProgram Unit
  | initializePayment installmentId customerId =>
      discard (IntentProgram.initializeInstallmentPayment installmentId customerId)
  | chargeSuccess payload => IntentProgram.handleInstallmentPayment payload
  | job data paymentId commissionId => IntentProgram.paymentJob data paymentId commissionId
  | finalFailure reference => IntentProgram.finalFailure reference
  | runRecovery => IntentProgram.runRecovery
  | expireStale => discard IntentProgram.expireStale

/-- The statements of the flows: all are about intents but the commits of jobs. -/
def IntentWrite.Collects (references : String → Prop) : IntentWrite → Prop
  | collect attempt => references attempt.reference
  | elsewhere _ _ => False
  | _ => True

/-- The program sends no other statements, whatever it reads. -/
def IntentProgram.Collecting {α : Type} (references : String → Prop) (p : IntentProgram α) : Prop :=
  Program.Sends (IntentWrite.Collects references) p.run

namespace IntentProgram.Collecting
variable {α β : Type} {references : String → Prop}

theorem onIntents_collects (references : String → Prop) :
    IntentWrite.OnIntents (IntentWrite.Collects references) where
  create _ _ := trivial
  transition _ _ := trivial
  recordRecoveryFailure _ _ := trivial
  expireStale _ := trivial
  claim _ := trivial

theorem bind {p : IntentProgram α} {f : α → IntentProgram β} (hp : Collecting references p)
    (hf : ∀ a, Collecting references (f a)) : Collecting references (p >>= f) :=
  sends_bind hp hf

theorem discard {p : IntentProgram α} (hp : Collecting references p) :
    Collecting references (discard p) :=
  sends_discard hp

theorem select (f : Moment → Database → Except AppError α) :
    Collecting references (IntentProgram.select f) := sends_select f

theorem send {w : IntentWrite} (hw : w.Collects references)
    (f : Moment → Database → Except AppError α) :
    Collecting references (IntentProgram.send w f) := sends_send hw f

theorem lift (result : Except AppError α) : Collecting references (IntentProgram.lift result) :=
  trivial

theorem pure (a : α) : Collecting references (Pure.pure a : IntentProgram α) := trivial

theorem throw (err : AppError) : Collecting references (MonadExcept.throw err : IntentProgram α) :=
  trivial

theorem transitionStatus (intentId : String) (t : IntentTransition) :
    Collecting references (transitionStatus intentId t) :=
  sends_transitionStatus trivial

theorem ignoringConflict {p : IntentProgram PaymentIntent} (hp : Collecting references p) :
    Collecting references (ignoringConflict p) :=
  sends_ignoringConflict hp

theorem expireStale : Collecting references expireStale :=
  sends_expireStale (onIntents_collects references)

theorem reserve (params : ReserveIntentParams) : Collecting references (reserve params) :=
  sends_reserve (onIntents_collects references) params

theorem openTransaction (intentId : String) : Collecting references (openTransaction intentId) :=
  sends_openTransaction (onIntents_collects references) intentId

theorem initializeInstallmentPayment (installmentId customerId : String) :
    Collecting references (initializeInstallmentPayment installmentId customerId) := by
  refine bind (select _) fun i => bind (select _).discard fun _ => bind (lift _) fun payer => ?_
  refine bind (reserve _) fun reservation => ?_
  dsimp only
  split
  · split
    · exact pure _
    · exact throw _
  · exact bind (openTransaction _) fun _ => pure _

theorem handleInstallmentPayment (payload : ChargeSuccessPayload) :
    Collecting references (handleInstallmentPayment payload) := by
  refine bind (select _) fun charge => ?_
  cases charge with
  | none => exact pure _
  | some charge => exact (transitionStatus _ _).discard

theorem statements {γ : Type} (locals : γ) (sent body : List (TransactionStep Database γ AppError)) :
    Collecting references (statements locals sent body) := by
  induction body generalizing sent with
  | nil => exact pure _
  | cons x body ih => exact bind (select _) fun _ => ih (sent ++ [x])

theorem paymentJob {job : PaymentJobData} (h : references job.reference)
    (paymentId commissionId : String) :
    Collecting references (paymentJob job paymentId commissionId) := by
  refine bind (select _) fun loaded => ?_
  cases loaded with
  | none => exact throw _
  | some i =>
    refine bind (select _) fun intent => ?_
    by_cases hpaid : i.installment.status = .paid
    · simp only [hpaid, if_true]
      cases intent with
      | none => exact pure _
      | some staleIntent => exact ignoringConflict (transitionStatus _ _)
    · simp only [hpaid, if_false]
      cases intent with
      | none => exact throw _
      | some intent =>
        refine bind (select _) fun v => bind (select _) fun m => bind (statements _ _ _) fun _ => ?_
        refine bind (ignoringConflict (transitionStatus _ _)) fun _ => send ?_ _
        exact h

theorem finalFailure (reference : String) : Collecting references (finalFailure reference) := by
  refine bind (select _) fun intent => ?_
  cases intent with
  | none => exact pure _
  | some intent => exact (transitionStatus _ _).discard

theorem runRecovery : Collecting references runRecovery :=
  sends_runRecovery (onIntents_collects references)

end IntentProgram.Collecting

theorem InstallmentFlow.collecting {references : String → Prop} (flow : InstallmentFlow)
    (h : ∀ data paymentId commissionId, flow = .job data paymentId commissionId →
      references data.reference) : flow.program.Collecting references := by
  cases flow with
  | initializePayment installmentId customerId =>
    exact (IntentProgram.Collecting.initializeInstallmentPayment _ _).discard
  | chargeSuccess payload => exact .handleInstallmentPayment payload
  | job data paymentId commissionId => exact .paymentJob (h data paymentId commissionId rfl) _ _
  | finalFailure reference => exact .finalFailure reference
  | runRecovery => exact .runRecovery
  | expireStale => exact IntentProgram.Collecting.expireStale.discard

/-- What is about intents leaves the other tables alone. -/
theorem execute_paymentIntents {references : String → Prop} (m : Moment) (db : Database)
    {w : IntentWrite} (hw : w.Collects references) (hcollect : ∀ a, w ≠ .collect a) :
    ∃ paymentIntents, w.execute m db = { db with paymentIntents } := by
  cases w with
  | create intent =>
    refine committed_rule (P := fun db' => ∃ paymentIntents, db' = { db with paymentIntents })
      ⟨_, rfl⟩ ?_
    intro db' h
    rw [createIntent] at h
    split at h
    · cases h
    · split at h
      · cases h
      · split at h
        · cases h
        · cases h
          exact ⟨_, rfl⟩
  | transition id t =>
    simp only [IntentWrite.execute, IntentTransition.committed_apply]
    split
    · exact ⟨_, rfl⟩
    · exact ⟨_, rfl⟩
  | recordRecoveryFailure id errorMessage => exact ⟨_, rfl⟩
  | expireStale now => exact ⟨_, rfl⟩
  | claim intentIds => exact ⟨_, rfl⟩
  | collect a => exact absurd rfl (hcollect a)
  | elsewhere f hf => exact hw.elim

end InstalFlow
