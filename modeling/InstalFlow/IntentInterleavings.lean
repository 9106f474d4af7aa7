import InstalFlow.IntentPayments

/-!
# Interleavings of the intent flows

The statements of any number of operations on the intents may be executed in any
order. A statement changes a stored intent at most to the target of its
transition, and only while the intent is not terminal: no order takes an intent
out of a terminal status. Nothing else is guarded, and the statements that move
an intent back or give it another reference are singled out.
-/

namespace InstalFlow
open Relational Transition

/-- The flows that drive an intent. -/
inductive PaymentFlow
  | initializeInstallmentPayment (installmentId customerId : String)
  | initializeOnboardingPayment (intentId : String)
  | createPendingSubscriptionAndIntent (companyId : String) (plan : SubscriptionPlan)
      (email : String)
  | runRecovery
  | expireStale
  | handleChargeSuccess (payload : ChargeSuccessPayload)
  | verifySubscription (reference : String)
  | paymentJob (job : PaymentJobData) (paymentId commissionId : String)
  | onboardingJob (job : OnboardingJobData) (ids : OnboardingIds)
  | finalFailure (reference : String)

def PaymentFlow.program : PaymentFlow → IntentProgram Unit
  | initializeInstallmentPayment installmentId customerId =>
      discard (IntentProgram.initializeInstallmentPayment installmentId customerId)
  | initializeOnboardingPayment intentId =>
      discard (IntentProgram.initializeOnboardingPayment intentId)
  | createPendingSubscriptionAndIntent companyId plan email =>
      discard (IntentProgram.createPendingSubscriptionAndIntent companyId plan email)
  | runRecovery => IntentProgram.runRecovery
  | expireStale => discard IntentProgram.expireStale
  | handleChargeSuccess payload => IntentProgram.handleChargeSuccess payload
  | verifySubscription reference => IntentProgram.verifySubscription reference
  | paymentJob job paymentId commissionId => IntentProgram.paymentJob job paymentId commissionId
  | onboardingJob job ids => IntentProgram.onboardingJob job ids
  | finalFailure reference => IntentProgram.finalFailure reference

/-- The operations of the intent service and of the recovery worker, on their
own or in a flow. -/
inductive IntentOperation
  | reserve (params : ReserveIntentParams)
  | mark (intentId : String) (t : IntentTransition)
  | cancel (intentId : String) (reason : Option String)
  | expireStale
  | recordRecoveryFailure (intentId errorMessage : String)
  | claimStaleIntents
  | recoverIntent (claim : ClaimedIntent)
  | flow (flow : PaymentFlow)

def IntentOperation.program : IntentOperation → IntentProgram Unit
  | reserve params => discard (IntentProgram.reserve params)
  | mark intentId t => discard (IntentProgram.transitionStatus intentId t)
  | cancel intentId reason => discard (IntentProgram.cancel intentId reason)
  | expireStale => discard IntentProgram.expireStale
  | recordRecoveryFailure intentId errorMessage =>
      IntentProgram.recordRecoveryFailure intentId errorMessage
  | claimStaleIntents => discard IntentProgram.claimStaleIntents
  | recoverIntent claim => discard (IntentProgram.recoverIntent claim)
  | flow f => f.program

section interleaving
variable {ι : Type} [DecidableEq ι]

abbrev IntentThreads (ι : Type) : Type :=
  Config Database ι (Program Database IntentWrite Moment (Except AppError Unit))

def launch (programs : ι → IntentProgram Unit) (db : Database) : IntentThreads ι where
  shared := db
  threads i := (programs i).run

/-- The thread named by the label executes its next statement at the moment given. -/
def performIntent (c : IntentThreads ι) (l : ι × Moment) : IntentThreads ι :=
  perform IntentWrite.execute c l

end interleaving

namespace IntentTransition

/-- The columns a transition sets. -/
def row (now : DateTime) (i : PaymentIntent) : IntentTransition → PaymentIntent
  | initialized response =>
    { i with
      reference := some response.reference
      authorizationUrl := some response.authorizationUrl
      recoveryClaimedAt := none
      status := .initialized
      updatedAt := now }
  | failed reason =>
    { i with
      recoveryClaimedAt := none
      lastRecoveryError := reason.or i.lastRecoveryError
      status := .failed
      updatedAt := now }
  | cancelled reason =>
    { i with
      authorizationUrl := reason.or i.authorizationUrl
      recoveryClaimedAt := none
      status := .cancelled
      updatedAt := now }
  | expired => { i with recoveryClaimedAt := none, status := .expired, updatedAt := now }
  | pending => { i with status := .pending, updatedAt := now }
  | processing => { i with status := .processing, updatedAt := now }
  | success => { i with status := .success, updatedAt := now }

/-- The unique index refuses a reference that another intent has. -/
def refused (intentId : String) (db : Database) : IntentTransition → Bool
  | initialized response => PaymentIntentService.referenceTaken intentId response.reference db
  | _ => false

theorem row_intentId (now : DateTime) (i : PaymentIntent) (t : IntentTransition) :
    (t.row now i).intentId = i.intentId := by
  cases t <;> rfl

theorem row_status (now : DateTime) (i : PaymentIntent) (t : IntentTransition) :
    (t.row now i).status = t.target := by
  cases t <;> rfl

theorem committed_apply (t : IntentTransition) (intentId : String) (now : DateTime)
    (db : Database) : committed db id (t.apply intentId now db) =
      if t.refused intentId db then db
      else { db with
        paymentIntents := db.paymentIntents.updateMany
          (fun i => i.intentId = intentId ∧ !i.status.terminal)
          (fun i => t.row now i) (fun i => t.row_intentId now i) } := by
  cases t with
  | initialized response => exact PaymentIntentService.committed_markInitialized
  | pending => exact PaymentIntentService.committed_transitionStatus .pending now _ _
  | processing => exact PaymentIntentService.committed_transitionStatus .processing now _ _
  | success => exact PaymentIntentService.committed_transitionStatus .success now _ _
  | failed reason => exact PaymentIntentService.committed_transitionStatus .failed now _ _
  | expired => exact PaymentIntentService.committed_transitionStatus .expired now _ _
  | cancelled reason => exact PaymentIntentService.committed_transitionStatus .cancelled now _ _

end IntentTransition

namespace IntentWrite

/-- What a statement makes of an intent that is stored. -/
def onRow (m : Moment) (db : Database) (i : PaymentIntent) : IntentWrite → PaymentIntent
  | transition intentId t =>
    if (i.intentId = intentId ∧ !i.status.terminal) ∧ !t.refused intentId db then t.row m.now i
    else i
  | recordRecoveryFailure intentId errorMessage =>
    if i.intentId = intentId ∧ i.status = .initializing then
      { i with
        recoveryClaimedAt := none
        lastRecoveryError := some (errorMessage.take 2000).copy
        updatedAt := m.now }
    else i
  | expireStale now =>
    if PaymentIntentService.stale now i then
      { i with status := .expired, recoveryClaimedAt := none, updatedAt := now }
    else i
  | claim intentIds =>
    if i.intentId ∈ intentIds then
      { i with recoveryClaimedAt := some m.now, recoveryAttempts := i.recoveryAttempts + 1 }
    else i
  | create _ | collect _ | elsewhere _ _ => i

variable {m : Moment} {db : Database} {i : PaymentIntent} {intentId : String}

theorem find?_createIntent {intent : PaymentIntent} (h : db.paymentIntents.find? intentId = some i) :
    (committed db id (createIntent intent db)).paymentIntents.find? intentId = some i := by
  refine committed_rule (P := fun db => db.paymentIntents.find? intentId = some i) h ?_
  intro db' hdb'
  rw [createIntent] at hdb'
  split at hdb'
  · cases hdb'
  · split at hdb'
    · cases hdb'
    · split at hdb'
      · cases hdb'
      · rename_i paymentIntents hcreate
        cases hdb'
        have hcreate := createRow_eq_ok.mp hcreate
        have hne : intentId ≠ intent.intentId := by
          intro he
          rw [he, (Table.create_eq_some hcreate).1] at h
          cases h
        simp only [id]
        rw [Table.find?_create hcreate, if_neg hne]
        exact h

/-- The single statements, read off row by row. -/
theorem find?_execute (w : IntentWrite) (h : db.paymentIntents.find? intentId = some i) :
    (w.execute m db).paymentIntents.find? intentId = some (w.onRow m db i) := by
  cases w with
  | create intent => exact find?_createIntent h
  | transition id t =>
    simp only [execute, onRow]
    rw [IntentTransition.committed_apply]
    by_cases hrefused : t.refused id db
    · simp [hrefused, h]
    · simp only [hrefused, Bool.false_eq_true, if_false]
      rw [Table.find?_updateMany, h]
      simp
  | recordRecoveryFailure id errorMessage =>
    simp only [execute, onRow, PaymentIntentService.recordRecoveryFailure]
    rw [Table.find?_updateMany, h]
    simp
  | expireStale now =>
    simp only [execute, onRow, PaymentIntentService.expireStale]
    rw [Table.find?_updateMany, h]
    rfl
  | claim intentIds =>
    simp only [execute, onRow, claimIntents]
    rw [Table.find?_updateMany, h]
    simp [claimedRow]
  | collect attempt =>
    simp only [execute, onRow]
    rw [attempt.committed_collect_paymentIntents, h]
  | elsewhere f hf =>
    simp only [execute, onRow]
    rw [hf, h]

theorem onRow_terminal (w : IntentWrite) (h : i.status.terminal = true) :
    (w.onRow m db i).status = i.status := by
  cases w with
  | create intent => rfl
  | transition id t => simp [onRow, h]
  | recordRecoveryFailure id errorMessage =>
    simp only [onRow]
    split <;> rfl
  | expireStale now =>
    have hstale : PaymentIntentService.stale now i = false := by
      rw [PaymentIntentService.stale]
      cases hs : i.status <;> simp_all [PaymentInitStatus.terminal]
    simp [onRow, hstale]
  | claim intentIds =>
    simp only [onRow]
    split <;> rfl
  | collect attempt => rfl
  | elsewhere f hf => rfl

theorem intentStatus_execute (w : IntentWrite) {status : PaymentInitStatus}
    (hterminal : status.terminal = true) (h : intentStatus intentId db = some status) :
    intentStatus intentId (w.execute m db) = some status := by
  obtain ⟨i, hi, rfl⟩ := Option.map_eq_some_iff.mp h
  rw [intentStatus, find?_execute w hi, Option.map_some, onRow_terminal w hterminal]

end IntentWrite

/-- Once an intent is terminal, no order of statements of any operations changes
its status. -/
theorem terminal_intents_absorbing {ι : Type} [DecidableEq ι] (operations : ι → IntentOperation)
    (db : Database) (earlier later : List (ι × Moment)) (intentId : String)
    (status : PaymentInitStatus) (hterminal : status.terminal = true)
    (h : intentStatus intentId (run performIntent
      (launch (fun i => (operations i).program) db) earlier).shared = some status) :
    intentStatus intentId (run performIntent
      (launch (fun i => (operations i).program) db) (earlier ++ later)).shared = some status := by
  rw [run_append]
  exact perform_invariant (P := fun db => intentStatus intentId db = some status)
    (fun _ _ w hs => IntentWrite.intentStatus_execute w hterminal hs) h later

/-- An onboarding that is to be paid, and what its intent is reserved with. -/
def openOnboarding : Database where
  subscriptionPlans := ⟨[{ planId := "plan", name := "Growth", price := 100 }], by decide⟩
  onboardingIntents := ⟨[{ intentId := "o", email := "a@b.c", companyName := "Company"
                           adminName := "Admin", planId := "plan" }], by decide⟩

def onboardingOperations : Bool → IntentOperation
  | true => .flow (.initializeOnboardingPayment "o")
  | false => .expireStale

def atTime (now : DateTime) : Moment where
  now := now
  uuid := "n"
  initializeTransaction := fun _ _ => .ok ⟨"r", "url", "code"⟩

/-- The sweep comes between the reservation and the initialization. -/
def sweptBeforeOpened : List (Bool × Moment) :=
  [(true, atTime 0), (true, atTime 0), (true, atTime 0), (false, atTime 1000000),
    (false, atTime 1000000), (false, atTime 1000000)]

theorem swept_intent_stays_expired : intentStatus "n" (run performIntent
    (launch (fun i => (onboardingOperations i).program) openOnboarding)
    (sweptBeforeOpened ++ List.replicate 9 (true, atTime 1000000))).shared = some .expired :=
  terminal_intents_absorbing onboardingOperations openOnboarding sweptBeforeOpened
    (List.replicate 9 (true, atTime 1000000)) "n" .expired rfl (by decide +kernel)

/-- INITIALIZING < INITIALIZED < PENDING < PROCESSING < terminal -/
def PaymentInitStatus.rank : PaymentInitStatus → ℕ
  | .initializing => 0
  | .initialized => 1
  | .pending => 2
  | .processing => 3
  | .success | .failed | .expired | .cancelled => 4

structure PaymentIntent.Follows (i i' : PaymentIntent) : Prop where
  status : i.status.rank ≤ i'.status.rank
  reference : ∀ r ∈ i.reference, i'.reference = some r

instance (i i' : PaymentIntent) : Decidable (i.Follows i') :=
  decidable_of_iff (i.status.rank ≤ i'.status.rank ∧ ∀ r ∈ i.reference, i'.reference = some r)
    ⟨fun h => ⟨h.1, h.2⟩, fun h => ⟨h.status, h.reference⟩⟩

/-- No stored intent moves back or gets another reference. -/
def MovesForward (db db' : Database) : Prop :=
  ∀ i ∈ db.paymentIntents.rows, ∃ i' ∈ db'.paymentIntents.find? i.intentId, i.Follows i'

instance (db db' : Database) : Decidable (MovesForward db db') :=
  inferInstanceAs (Decidable (∀ i ∈ db.paymentIntents.rows,
    ∃ i' ∈ db'.paymentIntents.find? i.intentId, i.Follows i'))

/-- A link may be stored where none is, or the one that is there again. -/
def PaymentIntent.AwaitsLink (i : PaymentIntent) (reference : String) : Prop :=
  (i.status = .initializing ∨ i.status = .initialized) ∧ ∀ r ∈ i.reference, r = reference

/-- The two statements that can go wrong: `markPending` must not find its intent
PROCESSING, and `markInitialized` not one that is further or has another reference. -/
def IntentWrite.InOrder (db : Database) : IntentWrite → Prop
  | transition intentId .pending =>
    ∀ i ∈ db.paymentIntents.find? intentId, i.status ≠ .processing
  | transition intentId (.initialized response) =>
    ∀ i ∈ db.paymentIntents.find? intentId, i.status.terminal = true ∨
      PaymentIntentService.referenceTaken intentId response.reference db = true ∨
      i.AwaitsLink response.reference
  | _ => True

section forward
variable {m : Moment} {db : Database} {i i' : PaymentIntent}

theorem PaymentIntent.Follows.of_eq (hstatus : i'.status = i.status)
    (hreference : i'.reference = i.reference) : i.Follows i' where
  status := by rw [hstatus]
  reference r hr := by rw [hreference, hr]

theorem rank_le_of_terminal {s t : PaymentInitStatus} (h : t.terminal = true) : s.rank ≤ t.rank := by
  cases s <;> cases t <;> revert h <;> decide

theorem PaymentIntent.Follows.of_terminal (hterminal : i'.status.terminal = true)
    (hreference : i'.reference = i.reference) : i.Follows i' where
  status := rank_le_of_terminal hterminal
  reference r hr := by rw [hreference, hr]

namespace IntentWrite

theorem movesForward_execute_iff (w : IntentWrite) : MovesForward db (w.execute m db) ↔
    ∀ i ∈ db.paymentIntents.rows, i.Follows (w.onRow m db i) := by
  have hrow : ∀ i ∈ db.paymentIntents.rows,
      (w.execute m db).paymentIntents.find? i.intentId = some (w.onRow m db i) :=
    fun i hi => find?_execute w (Table.find?_of_mem hi)
  constructor
  · intro h i hi
    obtain ⟨i', hi', hfollows⟩ := h i hi
    rw [hrow i hi] at hi'
    cases hi'
    exact hfollows
  · intro h i hi
    exact ⟨w.onRow m db i, hrow i hi, h i hi⟩

theorem transition_follows_iff (intentId : String) (t : IntentTransition) :
    (∀ i ∈ db.paymentIntents.rows, i.Follows ((transition intentId t).onRow m db i)) ↔
      ∀ i ∈ db.paymentIntents.find? intentId, i.status.terminal = true ∨
        t.refused intentId db = true ∨ i.Follows (t.row m.now i) := by
  constructor
  · intro h i hi
    have hfollows := h i (Table.mem_of_find? hi)
    have hid : i.intentId = intentId := Table.find?_key hi
    by_cases hterminal : i.status.terminal = true
    · exact .inl hterminal
    · by_cases hrefused : t.refused intentId db = true
      · exact .inr (.inl hrefused)
      · simp only [onRow, hid, hterminal, hrefused] at hfollows
        exact .inr (.inr hfollows)
  · intro h i hi
    rw [onRow]
    split
    · rename_i hguard
      obtain ⟨⟨hid, hactive⟩, hopen⟩ := hguard
      have hfind := Table.find?_of_mem hi
      rw [hid] at hfind
      rcases h i hfind with hterminal | hrefused | hfollows
      · simp [hterminal] at hactive
      · simp [hrefused] at hopen
      · exact hfollows
    · exact .of_eq rfl rfl

theorem follows_pending_iff (hactive : i.status.terminal = false) :
    i.Follows (IntentTransition.row m.now i .pending) ↔ i.status ≠ .processing := by
  constructor
  · intro h hprocessing
    have hrank : i.status.rank ≤ 2 := h.status
    rw [hprocessing] at hrank
    exact absurd hrank (by decide)
  · intro hne
    refine ⟨?_, fun r hr => hr⟩
    cases hs : i.status <;> simp_all [PaymentInitStatus.rank, PaymentInitStatus.terminal,
      IntentTransition.row]

theorem follows_initialized_iff (response : ProviderResponse) :
    i.Follows (IntentTransition.row m.now i (.initialized response)) ↔
      i.AwaitsLink response.reference := by
  constructor
  · intro h
    refine ⟨?_, fun r hr => (Option.some.inj (h.reference r hr)).symm⟩
    have hrank : i.status.rank ≤ 1 := h.status
    cases hs : i.status <;> simp_all [PaymentInitStatus.rank]
  · intro h
    obtain ⟨hstatus, hreference⟩ := h
    have hrank : i.status.rank ≤ 1 := by
      rcases hstatus with hs | hs <;> rw [hs] <;> decide
    exact ⟨hrank, fun r hr => by rw [hreference r hr]; rfl⟩

theorem follows_processing (hactive : i.status.terminal = false) :
    i.Follows (IntentTransition.row m.now i .processing) := by
  refine ⟨?_, fun r hr => hr⟩
  cases hs : i.status <;> simp_all [PaymentInitStatus.rank, PaymentInitStatus.terminal,
    IntentTransition.row]

/-- A statement keeps every intent in order exactly when it is sent in order. -/
theorem movesForward_iff_inOrder (m : Moment) (db : Database) (w : IntentWrite) :
    MovesForward db (w.execute m db) ↔ w.InOrder db := by
  rw [movesForward_execute_iff]
  cases w with
  | create intent => exact iff_of_true (fun i _ => .of_eq rfl rfl) trivial
  | collect attempt => exact iff_of_true (fun i _ => .of_eq rfl rfl) trivial
  | elsewhere f hf => exact iff_of_true (fun i _ => .of_eq rfl rfl) trivial
  | recordRecoveryFailure intentId errorMessage =>
    refine iff_of_true (fun i _ => ?_) trivial
    simp only [onRow]
    split <;> exact .of_eq rfl rfl
  | claim intentIds =>
    refine iff_of_true (fun i _ => ?_) trivial
    simp only [onRow]
    split <;> exact .of_eq rfl rfl
  | expireStale now =>
    refine iff_of_true (fun i _ => ?_) trivial
    simp only [onRow]
    split
    · exact .of_terminal rfl rfl
    · exact .of_eq rfl rfl
  | transition intentId t =>
    rw [transition_follows_iff]
    cases t with
    | pending =>
      refine forall₂_congr fun i _ => ?_
      cases hterminal : i.status.terminal with
      | true =>
        have hne : i.status ≠ .processing := by
          intro hs
          rw [hs] at hterminal
          cases hterminal
        simp [hne]
      | false => simp [IntentTransition.refused, follows_pending_iff hterminal]
    | initialized response =>
      refine forall₂_congr fun i _ => ?_
      cases hterminal : i.status.terminal with
      | true => simp
      | false => simp [IntentTransition.refused, follows_initialized_iff response]
    | processing =>
      refine iff_of_true (fun i _ => ?_) trivial
      cases hterminal : i.status.terminal with
      | true => exact .inl rfl
      | false => exact .inr (.inr (follows_processing hterminal))
    | success => exact iff_of_true (fun i _ => .inr (.inr (.of_terminal rfl rfl))) trivial
    | failed reason => exact iff_of_true (fun i _ => .inr (.inr (.of_terminal rfl rfl))) trivial
    | expired => exact iff_of_true (fun i _ => .inr (.inr (.of_terminal rfl rfl))) trivial
    | cancelled reason => exact iff_of_true (fun i _ => .inr (.inr (.of_terminal rfl rfl))) trivial

end IntentWrite
end forward

section runs
variable {ι : Type} [DecidableEq ι]

/-- The next statement of the thread, if it writes, is sent in order. -/
def SendsInOrder (c : IntentThreads ι) (l : ι × Moment) : Prop :=
  ∀ w ∈ (c.threads l.1).pending, w.InOrder c.shared

end runs

/-- Two requests for one onboarding, each with an answer of Paystack of its own. -/
def requestMoment : Bool → Moment
  | true => atTime 0
  | false =>
    { atTime 0 with uuid := "n'", initializeTransaction := fun _ _ => .ok ⟨"r'", "url'", "code'"⟩ }

/-- The second request finds the reservation of the first, opens a transaction and
marks the intent PENDING before the first has stored its own. -/
def overlappingRequests : List (Bool × Moment) :=
  List.replicate 3 (true, requestMoment true) ++ List.replicate 9 (false, requestMoment false) ++
    List.replicate 2 (true, requestMoment true)

def afterRequests (schedule : List (Bool × Moment)) : Database :=
  (run performIntent (launch (fun _ : Bool =>
    (PaymentFlow.initializeOnboardingPayment "o").program) openOnboarding) schedule).shared

end InstalFlow
