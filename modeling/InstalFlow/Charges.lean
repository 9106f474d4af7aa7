import InstalFlow.IntentFlows
import InstalFlow.PaymentEffects

/-!
# Captured charges

A charge that Paystack has captured for an intent settles when its installment
is PAID or has a live payment job. Handling it does so exactly if that is
already so or its intent is found open with no job kept under its reference.
The statements of the intent flows that take this away are characterised.
-/

namespace InstalFlow
open Relational Transition Jobs

structure Charge where
  reference : String
  installmentId : String
  amount : ℚ

def Charge.payload (c : Charge) : ChargeSuccessPayload where
  reference := c.reference
  amount := c.amount * 100
  metadata := some ⟨some PaymentIntentType.installment.metadataType, some c.installmentId⟩

def PaymentIntent.chargeTerms (i : PaymentIntent) : Option String × Option String × ℚ :=
  (i.reference, i.installmentId, i.amount)

/-- The unique index on `reference`. -/
def UniqueReferences (db : Database) : Prop :=
  ∀ i ∈ db.paymentIntents.rows, ∀ j ∈ db.paymentIntents.rows,
    i.reference ≠ none → i.reference = j.reference → i.intentId = j.intentId

instance (db : Database) : Decidable (UniqueReferences db) :=
  inferInstanceAs (Decidable (∀ i ∈ db.paymentIntents.rows, ∀ j ∈ db.paymentIntents.rows, _))

namespace PaymentIntentService
variable {db : Database} {reference : String} {i : PaymentIntent}

theorem findByReference_eq_some_iff (huniq : UniqueReferences db) :
    findByReference reference db = some i ↔
      i ∈ db.paymentIntents.rows ∧ i.reference = some reference := by
  constructor
  · exact of_findByReference
  · intro h
    obtain ⟨hi, href⟩ := h
    cases hfind : findByReference reference db with
    | none => simpa [href] using List.find?_eq_none.mp hfind i hi
    | some j =>
      obtain ⟨hj, hjref⟩ := of_findByReference hfind
      have hid := huniq j hj i hi (by simp [hjref]) (hjref.trans href.symm)
      rw [Table.key_injective hj hi hid]

theorem findByReference_updateMany (p : PaymentIntent → Bool) {f : PaymentIntent → PaymentIntent}
    (hf : ∀ i, (f i).intentId = i.intentId) (href : ∀ i, (f i).reference = i.reference) :
    findByReference reference
        { db with paymentIntents := db.paymentIntents.updateMany p f hf } =
      (findByReference reference db).map (fun i => if p i then f i else i) := by
  have hkeep : (fun i => decide (i.reference = some reference)) ∘
      (fun i => if p i then f i else i) = fun i => decide (i.reference = some reference) := by
    funext i
    by_cases hp : p i <;> simp [hp, href]
  simp only [findByReference, Table.updateMany, List.find?_map, hkeep]

theorem uniqueReferences_updateMany (h : UniqueReferences db) (p : PaymentIntent → Bool)
    {f : PaymentIntent → PaymentIntent} {hf : ∀ i, (f i).intentId = i.intentId}
    (href : ∀ i, (f i).reference = i.reference) :
    UniqueReferences { db with paymentIntents := db.paymentIntents.updateMany p f hf } := by
  have hsame : ∀ i : PaymentIntent, (if p i then f i else i).reference = i.reference ∧
      (if p i then f i else i).intentId = i.intentId := by
    intro i
    by_cases hp : p i <;> simp [hp, href, hf]
  intro i hi j hj
  obtain ⟨i, hi', rfl⟩ := List.mem_map.mp hi
  obtain ⟨j, hj', rfl⟩ := List.mem_map.mp hj
  rw [(hsame i).1, (hsame j).1, (hsame i).2, (hsame j).2]
  exact h i hi' j hj'

theorem uniqueReferences_assign (h : UniqueReferences db) (p : PaymentIntent → Bool)
    {f : PaymentIntent → PaymentIntent} {hf : ∀ i, (f i).intentId = i.intentId} {intentId : String}
    (href : ∀ i, (f i).reference = some reference) (hp : ∀ i, p i = true → i.intentId = intentId)
    (hfree : ∀ i ∈ db.paymentIntents.rows, i.reference = some reference → i.intentId = intentId) :
    UniqueReferences { db with paymentIntents := db.paymentIntents.updateMany p f hf } := by
  intro i hi j hj
  obtain ⟨i, hi', rfl⟩ := List.mem_map.mp hi
  obtain ⟨j, hj', rfl⟩ := List.mem_map.mp hj
  by_cases hpi : p i
  · by_cases hpj : p j
    · simp [hpi, hpj, hf, hp i hpi, hp j hpj]
    · simp only [hpi, hpj, if_true, Bool.false_eq_true, if_false, href, hf]
      intro _ hsame
      rw [hp i hpi, hfree j hj' hsame.symm]
  · by_cases hpj : p j
    · simp only [hpi, hpj, if_true, Bool.false_eq_true, if_false, href, hf]
      intro _ hsame
      rw [hp j hpj, hfree i hi' hsame]
    · simpa [hpi, hpj] using h i hi' j hj'

end PaymentIntentService

open PaymentIntentService

namespace Charge
variable (c : Charge) {Q : Type} (queue : Queue PaymentJobData Q)

def IsPaid (db : Database) : Prop :=
  ∃ i ∈ db.installments.find? c.installmentId, i.status = .paid

/-- The intent of the charge is found and may still be marked PROCESSING. -/
def Open (db : Database) : Prop :=
  ∃ i ∈ findByReference c.reference db,
    i.installmentId = some c.installmentId ∧ i.amount = c.amount ∧ i.status.terminal = false

/-- The installment is PAID or a payment job for it is enqueued. -/
def Settled (s : Backend Q) : Prop :=
  c.IsPaid s.db ∨ queue.HasLive (fun d => d.installmentId = c.installmentId) s.paymentQueue

def Enqueueable (s : Backend Q) : Prop :=
  c.installmentId ≠ "" ∧ c.Open s.db ∧ queue.Free c.reference s.paymentQueue

def Deliverable (s : Backend Q) : Prop := c.Settled queue s ∨ c.Enqueueable queue s

instance (db : Database) : Decidable (c.IsPaid db) :=
  inferInstanceAs (Decidable (∃ i ∈ db.installments.find? c.installmentId, _))

instance (db : Database) : Decidable (c.Open db) :=
  inferInstanceAs (Decidable (∃ i ∈ findByReference c.reference db, _ ∧ _ ∧ _))

instance (s : Backend Q) : Decidable (c.Settled queue s) :=
  inferInstanceAs (Decidable (c.IsPaid s.db ∨ queue.HasLive _ s.paymentQueue))

instance (s : Backend Q) : Decidable (c.Enqueueable queue s) :=
  inferInstanceAs (Decidable (_ ∧ c.Open s.db ∧ queue.Free c.reference s.paymentQueue))

instance (s : Backend Q) : Decidable (c.Deliverable queue s) :=
  inferInstanceAs (Decidable (c.Settled queue s ∨ c.Enqueueable queue s))

variable {c queue} {db : Database} {s : Backend Q} {now : DateTime}

theorem checkCharge_payload {x : CheckedCharge} :
    WebhookProcessor.checkCharge c.payload db = some x ↔
      c.installmentId ≠ "" ∧ ∃ i, findByReference c.reference db = some i ∧
        i.installmentId = some c.installmentId ∧ i.amount = c.amount ∧
        x = ⟨i.intentId, ⟨c.installmentId, c.reference⟩⟩ := by
  have hkobo : ∀ i : PaymentIntent, i.amount * 100 = c.amount * 100 ↔ i.amount = c.amount :=
    fun i => mul_left_inj' (by norm_num)
  by_cases hid : c.installmentId = ""
  · simp [WebhookProcessor.checkCharge, payload, hid]
  · cases hfind : findByReference c.reference db with
    | none => simp [WebhookProcessor.checkCharge, payload, hid, hfind]
    | some i =>
      by_cases hinst : i.installmentId = some c.installmentId
      · by_cases hamount : i.amount = c.amount
        · simp [WebhookProcessor.checkCharge, payload, hid, hfind, hinst, hamount, eq_comm]
        · simp [WebhookProcessor.checkCharge, payload, hid, hfind, hinst, hamount, hkobo]
      · simp [WebhookProcessor.checkCharge, payload, hid, hfind, hinst]

theorem handleChargeSuccess_payload (branches : ChargeBranches Q) :
    WebhookProcessor.handleChargeSuccess queue branches c.payload now s =
      WebhookProcessor.handleInstallmentPayment queue c.payload now s := by
  have htype : c.payload.metadataType = some "installment_payment" := by
    simp only [payload, ChargeSuccessPayload.metadataType, Option.bind_some, Option.map_some,
      PaymentIntentType.metadataType]
    decide
  rw [WebhookProcessor.handleChargeSuccess, htype]
  rfl

theorem isPaid_congr {db' : Database} (h : db'.installments = db.installments) :
    c.IsPaid db' ↔ c.IsPaid db := by
  rw [IsPaid, IsPaid, h]

theorem settled_enqueue (queue : Queue PaymentJobData Q) (db : Database) {db' : Database}
    (h : db'.installments = db.installments) (q : Q) (data : PaymentJobData) :
    c.Settled queue ⟨db', queue.add q (WebhookProcessor.paymentJob data)⟩ ↔
      c.Settled queue ⟨db, q⟩ ∨
        (data.installmentId = c.installmentId ∧ queue.Free data.reference q) := by
  rw [Settled, Settled, isPaid_congr h, Queue.hasLive_add rfl, or_assoc]
  rfl

/-- Handling the charge settles it exactly in the deliverable states. -/
theorem settled_handleChargeSuccess (branches : ChargeBranches Q) :
    c.Settled queue (WebhookProcessor.handleChargeSuccess queue branches c.payload now s).1 ↔
      c.Deliverable queue s := by
  rw [handleChargeSuccess_payload, WebhookProcessor.handleInstallmentPayment, Deliverable,
    Enqueueable]
  cases hcheck : WebhookProcessor.checkCharge c.payload s.db with
  | none =>
    -- the intent of the charge is not found or does not match
    have hclosed : ¬ (c.installmentId ≠ "" ∧ c.Open s.db) := by
      intro h
      obtain ⟨hid, i, hi, hinst, hamount, -⟩ := h
      have hsome := checkCharge_payload.mpr ⟨hid, i, hi, hinst, hamount, rfl⟩
      rw [hcheck] at hsome
      cases hsome
    constructor
    · exact Or.inl
    · intro h
      exact h.resolve_right fun h => hclosed ⟨h.1, h.2.1⟩
  | some x =>
    obtain ⟨hid, i, hi, hinst, hamount, rfl⟩ := checkCharge_payload.mp hcheck
    have hfind := Table.find?_of_mem (of_findByReference hi).1
    have hopen : c.Open s.db ↔ i.status.terminal = false := by
      rw [Open, hi]
      simp [hinst, hamount]
    simp only [markProcessing, transitionStatus, hfind]
    by_cases hterminal : i.status.terminal
    · simp [hterminal, hopen]
    · simp only [hterminal, Bool.false_eq_true, if_false]
      refine (settled_enqueue queue s.db rfl s.paymentQueue _).trans ?_
      rw [hopen]
      simp [hid, hterminal]

theorem open_updateMany (p : PaymentIntent → Bool) {f : PaymentIntent → PaymentIntent}
    {hf : ∀ i, (f i).intentId = i.intentId} (hterms : ∀ i, (f i).chargeTerms = i.chargeTerms)
    (h : c.Open db) :
    c.Open { db with paymentIntents := db.paymentIntents.updateMany p f hf } ↔
      ¬ ∃ i ∈ findByReference c.reference db, p i = true ∧ (f i).status.terminal = true := by
  obtain ⟨i, hi, hinst, hamount, hterminal⟩ := h
  simp only [PaymentIntent.chargeTerms, Prod.mk.injEq] at hterms
  rw [Option.mem_def] at hi
  rw [Open, findByReference_updateMany p hf fun i => (hterms i).1, hi]
  by_cases hp : p i <;> simp [hp, hterms, hinst, hamount, hterminal]

theorem open_assign {p : PaymentIntent → Bool} {f : PaymentIntent → PaymentIntent}
    {hf : ∀ i, (f i).intentId = i.intentId} {reference : String} (huniq : UniqueReferences db)
    (huniq' : UniqueReferences { db with paymentIntents := db.paymentIntents.updateMany p f hf })
    (href : ∀ i, (f i).reference = some reference)
    (hkeep : ∀ i, (f i).installmentId = i.installmentId ∧ (f i).amount = i.amount ∧
      (f i).status.terminal = false) (h : c.Open db) :
    c.Open { db with paymentIntents := db.paymentIntents.updateMany p f hf } ↔
      ¬ (reference ≠ c.reference ∧ ∃ i ∈ findByReference c.reference db, p i = true) := by
  obtain ⟨i, hi, hinst, hamount, hterminal⟩ := h
  rw [Option.mem_def] at hi
  obtain ⟨hmem, hiref⟩ := of_findByReference hi
  have himage : (if p i then f i else i) ∈ (db.paymentIntents.updateMany p f hf).rows :=
    List.mem_map.mpr ⟨i, hmem, rfl⟩
  by_cases hp : p i
  · simp only [hp, if_true] at himage
    by_cases hsame : reference = c.reference
    · have hfound := (findByReference_eq_some_iff huniq').mpr ⟨himage, (href i).trans (by rw [hsame])⟩
      simp [Open, hfound, hkeep, hinst, hamount, hsame]
    · -- no row carries the reference of the charge any more
      have hlost : ¬ c.Open { db with paymentIntents := db.paymentIntents.updateMany p f hf } := by
        intro hopen
        obtain ⟨j, hj, -⟩ := hopen
        obtain ⟨hjmem, hjref⟩ := of_findByReference hj
        obtain ⟨k, hk, rfl⟩ := List.mem_map.mp hjmem
        by_cases hpk : p k
        · simp only [hpk, if_true, href, Option.some.injEq] at hjref
          exact hsame hjref
        · simp only [hpk, Bool.false_eq_true, if_false] at hjref
          have hki := (findByReference_eq_some_iff huniq).mpr ⟨hk, hjref⟩
          rw [hi] at hki
          cases hki
          exact hpk hp
      simp [hlost, hsame, hi, hp]
  · simp only [hp, Bool.false_eq_true, if_false] at himage
    have hfound := (findByReference_eq_some_iff huniq').mpr ⟨himage, hiref⟩
    simp [Open, hfound, hi, hp, hinst, hamount, hterminal]

theorem open_transitionStatus {intentId : String} {toStatus : PaymentInitStatus}
    {extraData : PaymentIntent → PaymentIntent}
    {hextra : ∀ i, (extraData i).intentId = i.intentId}
    (hterms : ∀ i, (extraData i).chargeTerms = i.chargeTerms) (h : c.Open db) :
    c.Open (committed db id (transitionStatus intentId toStatus extraData hextra now db)) ↔
      (toStatus.terminal = true →
        ¬ ∃ i ∈ findByReference c.reference db, i.intentId = intentId) := by
  obtain ⟨i, hi, -, -, hterminal⟩ := id h
  rw [Option.mem_def] at hi
  rw [committed_transitionStatus]
  refine (open_updateMany _ (by exact hterms) h).trans ?_
  rw [hi]
  by_cases hid : i.intentId = intentId <;> simp [hid, hterminal]

end Charge

namespace IntentStatement

/-- The statement makes the intent of the charge terminal or gives it another
reference. -/
def Closes (c : Charge) (now : DateTime) (db : Database) : IntentStatement → Prop
  | markInitialized intentId response =>
      response.reference ≠ c.reference ∧ referenceTaken intentId response.reference db = false ∧
        ∃ i ∈ findByReference c.reference db, i.intentId = intentId
  | markFailed intentId _ | markExpired intentId | cancel intentId _ =>
      ∃ i ∈ findByReference c.reference db, i.intentId = intentId
  | expireStale => ∃ i ∈ findByReference c.reference db, stale now i
  | markPending _ | recordRecoveryFailure _ _ | claimStaleIntents _ => False

instance (c : Charge) (now : DateTime) (db : Database) (statement : IntentStatement) :
    Decidable (statement.Closes c now db) :=
  match statement with
  | markInitialized _ _ => inferInstanceAs (Decidable (_ ∧ _ ∧ ∃ i ∈ findByReference _ db, _))
  | markFailed _ _ | markExpired _ | cancel _ _ | expireStale =>
      inferInstanceAs (Decidable (∃ i ∈ findByReference c.reference db, _))
  | markPending _ | recordRecoveryFailure _ _ | claimStaleIntents _ =>
      inferInstanceAs (Decidable False)

variable {c : Charge} {now : DateTime} {db : Database}

theorem execute_installments (statement : IntentStatement) :
    (statement.execute now db).installments = db.installments := by
  cases statement with
  | markInitialized intentId response =>
    rw [execute, committed_markInitialized]
    split <;> rfl
  | markPending intentId =>
    rw [execute, PaymentIntentService.markPending, committed_transitionStatus]
  | markFailed intentId reason =>
    rw [execute, PaymentIntentService.markFailed, committed_transitionStatus]
  | markExpired intentId =>
    rw [execute, PaymentIntentService.markExpired, committed_transitionStatus]
  | cancel intentId reason => rw [execute, PaymentIntentService.cancel, committed_transitionStatus]
  | recordRecoveryFailure | claimStaleIntents | expireStale => rfl

theorem execute_uniqueReferences (statement : IntentStatement) (now : DateTime)
    (h : UniqueReferences db) : UniqueReferences (statement.execute now db) := by
  cases statement with
  | markInitialized intentId response =>
    rw [execute, committed_markInitialized]
    split
    · exact h
    · rename_i hfree
      have hfree' : ∀ i ∈ db.paymentIntents.rows, i.reference = some response.reference →
          i.intentId = intentId := by
        simpa [referenceTaken] using hfree
      exact uniqueReferences_assign h _ (fun _ => rfl) (fun i hp => by simp_all) hfree'
  | markPending intentId =>
    rw [execute, PaymentIntentService.markPending, committed_transitionStatus]
    exact uniqueReferences_updateMany h _ (by exact fun _ => rfl)
  | markFailed intentId reason =>
    rw [execute, PaymentIntentService.markFailed, committed_transitionStatus]
    exact uniqueReferences_updateMany h _ (by exact fun _ => rfl)
  | markExpired intentId =>
    rw [execute, PaymentIntentService.markExpired, committed_transitionStatus]
    exact uniqueReferences_updateMany h _ (by exact fun _ => rfl)
  | cancel intentId reason =>
    rw [execute, PaymentIntentService.cancel, committed_transitionStatus]
    exact uniqueReferences_updateMany h _ (by exact fun _ => rfl)
  | recordRecoveryFailure | claimStaleIntents | expireStale =>
    exact uniqueReferences_updateMany h _ (by exact fun _ => rfl)

theorem open_markInitialized {intentId : String} {response : ProviderResponse}
    (huniq : UniqueReferences db) (h : c.Open db) :
    c.Open ((markInitialized intentId response).execute now db) ↔
      ¬ (markInitialized intentId response).Closes c now db := by
  obtain ⟨i, hi, -, -, hterminal⟩ := id h
  rw [Option.mem_def] at hi
  have huniq' := execute_uniqueReferences (markInitialized intentId response) now huniq
  rw [execute, committed_markInitialized] at huniq' ⊢
  rw [Closes, hi]
  by_cases htaken : referenceTaken intentId response.reference db
  · simp [htaken, h]
  · simp only [htaken, Bool.false_eq_true, if_false] at huniq' ⊢
    refine (Charge.open_assign huniq huniq' (fun _ => rfl) (fun _ => ⟨rfl, rfl, rfl⟩) h).trans ?_
    simp [hi, hterminal]

theorem open_execute_iff (statement : IntentStatement) (now : DateTime) (huniq : UniqueReferences db)
    (h : c.Open db) : c.Open (statement.execute now db) ↔ ¬ statement.Closes c now db := by
  obtain ⟨i, hi, -, -, hterminal⟩ := id h
  rw [Option.mem_def] at hi
  cases statement with
  | markInitialized intentId response => exact open_markInitialized huniq h
  | markPending intentId =>
    refine (Charge.open_transitionStatus (by exact fun _ => rfl) h).trans ?_
    simp [Closes, PaymentInitStatus.terminal]
  | markFailed intentId reason =>
    refine (Charge.open_transitionStatus (by exact fun _ => rfl) h).trans ?_
    simp [Closes, PaymentInitStatus.terminal]
  | markExpired intentId =>
    refine (Charge.open_transitionStatus (by exact fun _ => rfl) h).trans ?_
    simp [Closes, PaymentInitStatus.terminal]
  | cancel intentId reason =>
    refine (Charge.open_transitionStatus (by exact fun _ => rfl) h).trans ?_
    simp [Closes, PaymentInitStatus.terminal]
  | recordRecoveryFailure intentId errorMessage =>
    refine (Charge.open_updateMany _ (by exact fun _ => rfl) h).trans ?_
    simp [Closes, hi, hterminal]
  | claimStaleIntents locked =>
    refine (Charge.open_updateMany _ (by exact fun _ => rfl) h).trans ?_
    simp [Closes, hi, hterminal]
  | expireStale =>
    refine (Charge.open_updateMany _ (by exact fun _ => rfl) h).trans ?_
    simp [Closes, hi, PaymentInitStatus.terminal]

end IntentStatement
end InstalFlow
