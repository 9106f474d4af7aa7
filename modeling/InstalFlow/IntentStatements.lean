import InstalFlow.IntentInterleavings

/-!
# The statements of the intent service

Whatever they read, the operations of the intent service and of the recovery
worker send statements about intents only, and a new intent has no reference. What
holds of all these statements holds of whatever the operations send.
-/

namespace InstalFlow
open Relational Transition

/-- `A` holds of the statements about intents. -/
structure IntentWrite.OnIntents (A : IntentWrite → Prop) : Prop where
  create : ∀ intent, intent.reference = none → A (create intent)
  transition : ∀ intentId t, A (transition intentId t)
  recordRecoveryFailure : ∀ intentId errorMessage, A (recordRecoveryFailure intentId errorMessage)
  expireStale : ∀ now, A (expireStale now)
  claim : ∀ intentIds, A (claim intentIds)

namespace IntentProgram
section rules
variable {α β : Type} {A : IntentWrite → Prop}

theorem sends_bind {p : IntentProgram α} {f : α → IntentProgram β} (hp : Program.Sends A p.run)
    (hf : ∀ a, Program.Sends A (f a).run) : Program.Sends A (p >>= f).run :=
  Program.Sends.exceptBind hp hf

theorem sends_discard {p : IntentProgram α} (hp : Program.Sends A p.run) :
    Program.Sends A (discard p).run :=
  Program.Sends.exceptMap _ hp

theorem sends_tryCatch {p : IntentProgram α} {f : AppError → IntentProgram α}
    (hp : Program.Sends A p.run) (hf : ∀ err, Program.Sends A (f err).run) :
    Program.Sends A (tryCatch p f).run :=
  Program.Sends.exceptTryCatch hp hf

theorem sends_select (f : Moment → Database → Except AppError α) :
    Program.Sends A (select f).run := fun _ _ => trivial

theorem sends_send {w : IntentWrite} (hw : A w) (f : Moment → Database → Except AppError α) :
    Program.Sends A (send w f).run := ⟨hw, fun _ _ => trivial⟩

theorem sends_lift (result : Except AppError α) : Program.Sends A (lift result).run := trivial

theorem sends_pure (a : α) : Program.Sends A (pure a : IntentProgram α).run := trivial

theorem sends_throw (err : AppError) : Program.Sends A (throw err : IntentProgram α).run := trivial

theorem sends_transitionStatus {intentId : String} {t : IntentTransition}
    (h : A (.transition intentId t)) : Program.Sends A (transitionStatus intentId t).run := by
  rw [transitionStatus]
  refine sends_bind (sends_send h _) fun updated => sends_bind (sends_select _) fun current => ?_
  cases current <;> cases updated <;> trivial

theorem sends_ignoringConflict {p : IntentProgram PaymentIntent} (hp : Program.Sends A p.run) :
    Program.Sends A (ignoringConflict p).run := by
  refine sends_tryCatch (sends_discard hp) fun err => ?_
  cases err <;> trivial

end rules

section operations
variable {A : IntentWrite → Prop} (hA : IntentWrite.OnIntents A)
include hA

theorem sends_cancel (intentId : String) (reason : Option String) :
    Program.Sends A (cancel intentId reason).run := by
  rw [cancel]
  refine sends_tryCatch (sends_bind (sends_discard (sends_transitionStatus (hA.transition _ _)))
    fun _ => sends_pure _) fun err => ?_
  cases err <;> trivial

theorem sends_expireStale : Program.Sends A expireStale.run :=
  sends_bind (sends_select _) fun m => sends_bind (sends_select _) fun _ =>
    sends_bind (sends_send (hA.expireStale m.now) _) fun _ => sends_pure _

theorem sends_insertOrFind (params : ReserveIntentParams) {changed : IntentProgram Reservation}
    (h : Program.Sends A changed.run) : Program.Sends A (insertOrFind params changed).run := by
  rw [insertOrFind]
  refine sends_bind (sends_select _) fun m =>
    sends_bind (sends_send (hA.create _ rfl) _) fun created => ?_
  cases created with
  | true => trivial
  | false =>
    refine sends_bind (sends_select _) fun existing => ?_
    cases existing with
    | none => exact h
    | some existing => trivial

theorem sends_reserveAttempt (params : ReserveIntentParams) {changed : IntentProgram Reservation}
    (h : Program.Sends A changed.run) : Program.Sends A (reserveAttempt params changed).run := by
  have hinsert := sends_insertOrFind hA params h
  rw [reserveAttempt]
  cases params.clientIdempotencyKey.filter (fun key => key ≠ "") with
  | none =>
    exact sends_bind (sends_pure _) fun existing => by cases existing <;> [exact hinsert; trivial]
  | some key =>
    exact sends_bind (sends_select _) fun existing => by cases existing <;> [exact hinsert; trivial]

theorem sends_reserve (params : ReserveIntentParams) : Program.Sends A (reserve params).run :=
  sends_bind (sends_discard (sends_lift _)) fun _ =>
    sends_reserveAttempt hA params (sends_reserveAttempt hA params (sends_throw _))

theorem sends_initializePaystack (intentId : String) (markFailedOnError : Bool) :
    Program.Sends A (initializePaystack intentId markFailedOnError).run := by
  have htransition (t : IntentTransition) :=
    sends_discard (sends_transitionStatus (hA.transition intentId t))
  refine sends_bind (sends_select _) fun intent => ?_
  cases intent with
  | none => trivial
  | some intent =>
    refine sends_bind (sends_lift _) fun payload => sends_tryCatch ?_ fun err => ?_
    · exact sends_bind (sends_select _) fun response =>
        sends_bind (htransition _) fun _ => sends_pure _
    · cases markFailedOnError with
      | false => exact sends_throw err
      | true => exact sends_bind (htransition _) fun _ => sends_throw err

theorem sends_openTransaction (intentId : String) : Program.Sends A (openTransaction intentId).run :=
  sends_bind (sends_initializePaystack hA _ _) fun _ =>
    sends_bind (sends_discard (sends_transitionStatus (hA.transition _ _))) fun _ => sends_pure _

theorem sends_claimStaleIntents : Program.Sends A claimStaleIntents.run := by
  refine sends_bind (sends_select _) fun ids => ?_
  cases ids.isEmpty with
  | true => exact sends_pure _
  | false => exact sends_send (hA.claim ids) _

theorem sends_recoverIntent (claim : ClaimedIntent) : Program.Sends A (recoverIntent claim).run := by
  have htransition (t : IntentTransition) (intentId : String) :=
    sends_discard (sends_transitionStatus (hA.transition intentId t))
  refine sends_bind (sends_select _) fun intent => ?_
  cases intent with
  | none => exact sends_pure _
  | some intent =>
    refine sends_bind (sends_select _) fun m => ?_
    split
    · exact sends_pure _
    · split
      · exact sends_bind (htransition _ _) fun _ => sends_pure _
      · split
        · exact sends_bind (htransition _ _) fun _ => sends_pure _
        · refine sends_tryCatch (sends_bind (sends_discard (sends_initializePaystack hA _ _))
            fun _ => sends_pure _) fun err => ?_
          exact sends_bind (sends_send (hA.recordRecoveryFailure _ _) _) fun _ => sends_pure _

theorem sends_runRecovery : Program.Sends A runRecovery.run := by
  refine sends_bind (sends_claimStaleIntents hA) fun claimed =>
    sends_bind ?_ fun _ => sends_discard (sends_expireStale hA)
  induction claimed with
  | nil => exact sends_pure _
  | cons claim claimed ih =>
    exact sends_bind (sends_tryCatch (sends_discard (sends_recoverIntent hA claim))
      fun _ => sends_pure _) fun _ => ih

end operations
end IntentProgram
end InstalFlow
