import InstalFlow.Charges

/-!
# Delivery of a captured charge

The state machine in which a charge arrives: statements of any flow on the
intents, deliveries taken one statement at a time, and attempts of payment jobs.
A charge stays deliverable until a step closes its intent or ends the last job
of its installment before that is paid.
-/

namespace InstalFlow
open Relational Transition Jobs PaymentIntentService

/-- The backend with the deliveries in progress: those that have read a matching
intent, and those that have also marked it PROCESSING. -/
structure Deliveries (Q : Type) where
  backend : Backend Q
  checked : List CheckedCharge := []
  marked : List PaymentJobData := []

inductive ChargeStep
  | execute (statement : IntentStatement) (now : DateTime)
  | check (payload : ChargeSuccessPayload)
  | markProcessing (n : ℕ) (now : DateTime)
  | enqueue (n : ℕ)
  | attempt (verifyPaystack : String → Except String Verification)
      (jobId paymentId commissionId : String) (now : DateTime)

namespace ChargeStep
variable {Q : Type} (queue : Queue PaymentJobData Q)

/-- A delivery that meets a terminal intent ends there, in an error. -/
def apply (s : Deliveries Q) : ChargeStep → Deliveries Q
  | execute statement now =>
      { s with backend.db := statement.execute now s.backend.db }
  | check payload =>
      { s with checked := s.checked ++ (WebhookProcessor.checkCharge payload s.backend.db).toList }
  | markProcessing n now =>
      match s.checked[n]? with
      | none => s
      | some charge =>
        match PaymentIntentService.markProcessing charge.intentId now s.backend.db with
        | .error _ => { s with checked := s.checked.eraseIdx n }
        | .ok db =>
          { s with
            backend.db := db
            checked := s.checked.eraseIdx n
            marked := s.marked ++ [charge.data] }
  | enqueue n =>
      match s.marked[n]? with
      | none => s
      | some data =>
        { s with
          backend.paymentQueue :=
            queue.add s.backend.paymentQueue (WebhookProcessor.paymentJob data)
          marked := s.marked.eraseIdx n }
  | attempt verifyPaystack jobId paymentId commissionId now =>
      { s with
        backend := PaymentWorker.attempt queue verifyPaystack jobId paymentId commissionId now
          s.backend }

end ChargeStep

theorem eraseIdx_concat_length {α : Type} (l : List α) (a : α) :
    (l ++ [a]).eraseIdx l.length = l := by
  rw [List.eraseIdx_append_of_length_le (le_refl _), Nat.sub_self]
  simp

section refinement
variable {Q : Type} {queue : Queue PaymentJobData Q} (s : Deliveries Q)

/-- A whole delivery is a run of its statements. -/
theorem handleInstallmentPayment_reaches (payload : ChargeSuccessPayload) (now : DateTime) :
    Reaches (ChargeStep.apply queue) s
      { s with
        backend :=
          (WebhookProcessor.handleInstallmentPayment queue payload now s.backend).1 } := by
  rw [WebhookProcessor.handleInstallmentPayment]
  cases hcheck : WebhookProcessor.checkCharge payload s.backend.db with
  | none => exact reaches_self _ s
  | some charge =>
    have hchecked := reaches_step (ChargeStep.apply queue) s (.check payload)
    rw [ChargeStep.apply, hcheck] at hchecked
    refine hchecked.trans ?_
    have hmark := reaches_step (ChargeStep.apply queue)
      { s with checked := s.checked ++ [charge] } (.markProcessing s.checked.length now)
    simp only [ChargeStep.apply, List.getElem?_concat_length, eraseIdx_concat_length] at hmark
    simp only
    cases hprocessing : PaymentIntentService.markProcessing charge.intentId now s.backend.db with
    | error err =>
      rw [hprocessing] at hmark
      exact hmark
    | ok db =>
      rw [hprocessing] at hmark
      refine hmark.trans ?_
      have henqueue := reaches_step (ChargeStep.apply queue)
        { s with backend.db := db, marked := s.marked ++ [charge.data] } (.enqueue s.marked.length)
      simp only [ChargeStep.apply, List.getElem?_concat_length, eraseIdx_concat_length] at henqueue
      exact henqueue

end refinement

/-- The unique references of the intents, and jobs kept under the reference they
carry. -/
structure Consistent {Q : Type} (queue : Queue PaymentJobData Q) (s : Backend Q) : Prop where
  references : UniqueReferences s.db
  jobs : ∀ j ∈ queue.jobs s.paymentQueue, j.jobId = j.data.reference

namespace ChargeStep
variable {Q : Type} (queue : Queue PaymentJobData Q) (c : Charge)

/-- The step leaves the charge deliverable: no statement closes its intent, no
job for another installment takes its reference, and no job for its installment
fails for good, unless the charge is settled or can be without it. -/
def Spares (s : Deliveries Q) : ChargeStep → Prop
  | execute statement now =>
      c.Settled queue s.backend ∨ ¬ statement.Closes c now s.backend.db
  | enqueue n =>
      c.Settled queue s.backend ∨ ∀ data ∈ s.marked[n]?,
        data.reference = c.reference → data.installmentId = c.installmentId
  | attempt verifyPaystack jobId paymentId commissionId now =>
      ∀ job ∈ queue.job? s.backend.paymentQueue jobId,
        job.failed = false → job.data.installmentId = c.installmentId → job.Exhausted →
        (PaymentWorker.process verifyPaystack job.data paymentId commissionId now
          s.backend.db).isOk = false →
        c.IsPaid s.backend.db ∨ c.Enqueueable queue s.backend ∨
          ∃ k ∈ queue.jobs s.backend.paymentQueue,
            k.jobId ≠ jobId ∧ k.failed = false ∧ k.data.installmentId = c.installmentId
  | check _ | markProcessing _ _ => True

instance (s : Deliveries Q) (a : ChargeStep) : Decidable (a.Spares queue c s) :=
  match a with
  | execute statement now =>
      inferInstanceAs (Decidable (_ ∨ ¬ statement.Closes c now s.backend.db))
  | enqueue n => inferInstanceAs (Decidable (_ ∨ ∀ data ∈ s.marked[n]?, _ → _))
  | attempt _ jobId _ _ _ =>
      inferInstanceAs (Decidable (∀ job ∈ queue.job? s.backend.paymentQueue jobId,
        _ → _ → _ → _ → _ ∨ _ ∨ ∃ k ∈ queue.jobs s.backend.paymentQueue, _ ∧ _ ∧ _))
  | check _ | markProcessing _ _ => inferInstanceAs (Decidable True)

end ChargeStep

namespace Charge
variable {c : Charge} {Q : Type} {queue : Queue PaymentJobData Q}

theorem open_congr {db db' : Database} (h : db'.paymentIntents = db.paymentIntents) :
    c.Open db' ↔ c.Open db := by
  rw [Open, Open, findByReference, findByReference, h]

section process
variable {verifyPaystack : String → Except String Verification} {job : PaymentJobData}
  {paymentId commissionId : String} {now : DateTime} {db db' : Database} {result : PaymentJobResult}
  (h : PaymentWorker.process verifyPaystack job paymentId commissionId now db = .ok (result, db'))
include h

theorem isPaid_process : c.IsPaid db' ↔ c.IsPaid db ∨ job.installmentId = c.installmentId := by
  obtain ⟨i, hload, hcases⟩ := PaymentWorker.process_eq_ok h
  have hfind := (PaymentWorker.loadInstallment_eq_some hload).1
  rcases hcases with ⟨hpaid, paymentIntents, rfl⟩ | ⟨-, hcommits⟩
  · refine ⟨Or.inl, fun hor => ?_⟩
    rcases hor with hc | hid
    · exact hc
    · exact ⟨i.installment, by rw [← hid]; exact hfind, hpaid⟩
  · obtain ⟨_, _, _, _, hframe⟩ := hcommits.frame
    have hkey := Table.find?_key hfind
    have hrows : db'.installments.find? c.installmentId =
        if c.installmentId = job.installmentId then
          (db.installments.find? c.installmentId).map
            (fun i => { i with status := .paid, paidAt := some now })
        else db.installments.find? c.installmentId := by
      rw [hframe]
      simp only [PaymentWorker.markInstallmentPaid, hkey]
      exact Table.find?_update ..
    rw [IsPaid, IsPaid, hrows]
    by_cases hid : c.installmentId = job.installmentId
    · simp [hid, hfind]
    · simp [hid, Ne.symm hid]

theorem uniqueReferences_process (huniq : UniqueReferences db) : UniqueReferences db' := by
  rcases PaymentWorker.process_intents h with hsame | ⟨intent, -, hmarked⟩
  · rw [UniqueReferences, hsame]
    exact huniq
  · rw [UniqueReferences, hmarked]
    change UniqueReferences { db with paymentIntents := PaymentWorker.markedSuccess intent now db }
    exact uniqueReferences_updateMany huniq _ (by exact fun _ => rfl)

theorem open_process (hne : job.reference ≠ c.reference) (hopen : c.Open db) : c.Open db' := by
  rcases PaymentWorker.process_intents h with hsame | ⟨intent, hintent, hmarked⟩
  · exact (open_congr hsame).mpr hopen
  · have hdb : db'.paymentIntents = ({ db with
        paymentIntents := PaymentWorker.markedSuccess intent now db } : Database).paymentIntents :=
      hmarked
    refine (open_congr hdb).mpr ((open_updateMany _ (by exact fun _ => rfl) hopen).mpr ?_)
    intro hex
    obtain ⟨i, hi, hp, -⟩ := hex
    -- the marked intent has the reference of the job, the charge another one
    obtain ⟨himem, hiref⟩ := of_findByReference hi
    obtain ⟨hjmem, hjref⟩ := of_findByReference hintent
    have hid : i.intentId = intent.intentId := by
      simp only [decide_eq_true_eq] at hp
      exact hp.1
    rw [Table.key_injective himem hjmem hid, hjref] at hiref
    exact hne (Option.some.inj hiref)

end process
end Charge

namespace ChargeStep
variable {Q : Type} {queue : Queue PaymentJobData Q} {c : Charge} {s : Deliveries Q}

theorem consistent_attempt {s : Backend Q} (h : Consistent queue s)
    (verifyPaystack : String → Except String Verification)
    (jobId paymentId commissionId : String) (now : DateTime) :
    Consistent queue
      (PaymentWorker.attempt queue verifyPaystack jobId paymentId commissionId now s) := by
  rw [PaymentWorker.attempt]
  cases queue.job? s.paymentQueue jobId with
  | none => exact h
  | some job =>
    simp only
    split
    · exact h
    · split
      · refine ⟨h.references, fun j hj => ?_⟩
        rcases (queue.mem_fail _ _ j).mp hj with ⟨hj, -⟩ | ⟨k, hk, -, rfl⟩
        · exact h.jobs j hj
        · exact h.jobs k hk
      · rename_i result db hprocess
        refine ⟨Charge.uniqueReferences_process hprocess h.references, fun j hj => ?_⟩
        exact h.jobs j ((queue.mem_complete _ _ j).mp hj).1

theorem consistent_apply (h : Consistent queue s.backend) (a : ChargeStep) :
    Consistent queue (apply queue s a).backend := by
  cases a with
  | execute statement now => exact ⟨statement.execute_uniqueReferences now h.references, h.jobs⟩
  | check payload => exact h
  | markProcessing n now =>
    rw [apply]
    cases s.checked[n]? with
    | none => exact h
    | some charge =>
      have huniq : UniqueReferences (committed s.backend.db id
          (PaymentIntentService.markProcessing charge.intentId now s.backend.db)) := by
        rw [PaymentIntentService.markProcessing, committed_transitionStatus]
        exact uniqueReferences_updateMany h.references _ (by exact fun _ => rfl)
      simp only
      cases hmark : PaymentIntentService.markProcessing charge.intentId now s.backend.db with
      | error err => exact h
      | ok db =>
        rw [hmark] at huniq
        exact ⟨huniq, h.jobs⟩
  | enqueue n =>
    rw [apply]
    cases s.marked[n]? with
    | none => exact h
    | some data =>
      refine ⟨h.references, fun j hj => ?_⟩
      rcases (queue.mem_add _ _ j).mp hj with hj | ⟨rfl, -⟩
      · exact h.jobs j hj
      · rfl
  | attempt verifyPaystack jobId paymentId commissionId now =>
    exact consistent_attempt h verifyPaystack jobId paymentId commissionId now

theorem deliverable_execute_iff (h : Consistent queue s.backend) (statement : IntentStatement)
    (now : DateTime) (hc : c.Deliverable queue s.backend) :
    c.Deliverable queue (apply queue s (.execute statement now)).backend ↔
      (execute statement now).Spares queue c s := by
  have hsettled : c.Settled queue (apply queue s (.execute statement now)).backend ↔
      c.Settled queue s.backend :=
    or_congr_left (Charge.isPaid_congr (statement.execute_installments))
  rw [Charge.Deliverable, hsettled, Spares]
  by_cases hset : c.Settled queue s.backend
  · simp [hset]
  · obtain ⟨hid, hopen, hfree⟩ := hc.resolve_left hset
    have hiff := statement.open_execute_iff now h.references hopen
    simp only [hset, false_or, Charge.Enqueueable, apply, hiff]
    exact ⟨fun h => h.2.1, fun h => ⟨hid, h, hfree⟩⟩

theorem deliverable_markProcessing (hc : c.Deliverable queue s.backend) (n : ℕ) (now : DateTime) :
    c.Deliverable queue (apply queue s (.markProcessing n now)).backend := by
  rw [apply]
  cases s.checked[n]? with
  | none => exact hc
  | some charge =>
    simp only
    cases hmark : PaymentIntentService.markProcessing charge.intentId now s.backend.db with
    | error err => exact hc
    | ok db =>
      have hdb : db = committed s.backend.db id
          (PaymentIntentService.markProcessing charge.intentId now s.backend.db) := by
        rw [hmark]
        rfl
      have hinst : db.installments = s.backend.db.installments := by
        rw [hdb, PaymentIntentService.markProcessing, committed_transitionStatus]
      rcases hc with hset | ⟨hid, hopen, hfree⟩
      · exact .inl (hset.imp_left (Charge.isPaid_congr hinst).mpr)
      · refine .inr ⟨hid, ?_, hfree⟩
        change c.Open db
        rw [hdb, PaymentIntentService.markProcessing,
          Charge.open_transitionStatus (by exact fun _ => rfl) hopen]
        simp [PaymentInitStatus.terminal]

theorem deliverable_enqueue_iff (hc : c.Deliverable queue s.backend) (n : ℕ) :
    c.Deliverable queue (apply queue s (.enqueue n)).backend ↔ (enqueue n).Spares queue c s := by
  rw [apply, Spares]
  cases s.marked[n]? with
  | none => simp [hc]
  | some data =>
    have hadd := Charge.settled_enqueue (c := c) queue s.backend.db rfl s.backend.paymentQueue data
    simp only
    rw [Charge.Deliverable, hadd]
    by_cases hset : c.Settled queue s.backend
    · simp [hset]
    · obtain ⟨hid, hopen, hfree⟩ := hc.resolve_left hset
      rw [Charge.Enqueueable, Queue.free_add]
      by_cases href : data.reference = c.reference
      · -- the job takes the id the charge needs
        simp [hset, href, hfree, WebhookProcessor.paymentJob]
      · simp [hset, href, hfree, hid, hopen, WebhookProcessor.paymentJob]

theorem jobId_ne_of_installment_ne {q : Q} {job k : Job PaymentJobData}
    (hjob : job ∈ queue.jobs q) (hk : k ∈ queue.jobs q)
    (hne : job.data.installmentId ≠ k.data.installmentId) : k.jobId ≠ job.jobId := by
  intro hid
  have hsame := queue.jobId_injective q k hk job hjob hid
  subst hsame
  exact hne rfl

theorem deliverable_completed {s : Backend Q} (h : Consistent queue s) {job : Job PaymentJobData}
    (hjob : job ∈ queue.jobs s.paymentQueue)
    {verifyPaystack : String → Except String Verification} {paymentId commissionId : String}
    {now : DateTime} {r : PaymentJobResult × Database}
    (hprocess : PaymentWorker.process verifyPaystack job.data paymentId commissionId now s.db =
      .ok r) (hc : c.Deliverable queue s) :
    c.Deliverable queue ⟨r.2, queue.complete s.paymentQueue job.jobId⟩ := by
  by_cases hinst : job.data.installmentId = c.installmentId
  · exact .inl (.inl ((Charge.isPaid_process hprocess).mpr (.inr hinst)))
  · rcases hc with (hpaid | ⟨k, hk, hlive, hkinst⟩) | ⟨hid, hopen, hfree⟩
    · exact .inl (.inl ((Charge.isPaid_process hprocess).mpr (.inl hpaid)))
    · have hne := jobId_ne_of_installment_ne hjob hk (by rw [hkinst]; exact hinst)
      exact .inl (.inr ⟨k, (queue.mem_complete _ _ k).mpr ⟨hk, hne⟩, hlive, hkinst⟩)
    · have href : job.data.reference ≠ c.reference := by
        rw [← h.jobs job hjob]
        exact hfree job hjob
      exact .inr ⟨hid, Charge.open_process hprocess href hopen, Queue.free_complete hfree⟩

theorem deliverable_failed_iff {s : Backend Q} {job : Job PaymentJobData}
    (hjob : job ∈ queue.jobs s.paymentQueue) (hc : c.Deliverable queue s) :
    c.Deliverable queue { s with paymentQueue := queue.fail s.paymentQueue job.jobId } ↔
      (job.data.installmentId = c.installmentId → job.Exhausted →
        c.IsPaid s.db ∨ c.Enqueueable queue s ∨
          ∃ k ∈ queue.jobs s.paymentQueue, k.jobId ≠ job.jobId ∧ k.failed = false ∧
            k.data.installmentId = c.installmentId) := by
  rw [Charge.Deliverable, Charge.Settled, Charge.Enqueueable, Queue.hasLive_fail hjob,
    Queue.free_fail, Charge.Enqueueable]
  by_cases hinst : job.data.installmentId = c.installmentId
  · by_cases hlast : job.Exhausted
    · simp only [hinst, hlast, true_imp_iff, not_true_eq_false, and_false, or_false]
      rw [or_assoc]
      exact or_congr_right Or.comm
    · simp [hinst, hlast]
  · refine iff_of_true ?_ fun h => absurd h hinst
    rcases hc with (hpaid | ⟨k, hk, hlive, hkinst⟩) | hopen
    · exact .inl (.inl hpaid)
    · have hne := jobId_ne_of_installment_ne hjob hk (by rw [hkinst]; exact hinst)
      exact .inl (.inr (.inl ⟨k, hk, hne, hlive, hkinst⟩))
    · exact .inr hopen

theorem deliverable_attempt_iff (h : Consistent queue s.backend)
    (verifyPaystack : String → Except String Verification)
    (jobId paymentId commissionId : String) (now : DateTime)
    (hc : c.Deliverable queue s.backend) :
    c.Deliverable queue
        (apply queue s (.attempt verifyPaystack jobId paymentId commissionId now)).backend ↔
      (attempt verifyPaystack jobId paymentId commissionId now).Spares queue c s := by
  rw [apply, PaymentWorker.attempt, Spares]
  cases hjob? : queue.job? s.backend.paymentQueue jobId with
  | none => simp [hc]
  | some job =>
    obtain ⟨hjob, rfl⟩ := Queue.mem_of_job? hjob?
    by_cases hfailed : job.failed
    · simp [hfailed, hc]
    · cases hprocess : PaymentWorker.process verifyPaystack job.data paymentId commissionId now
          s.backend.db with
      | ok r =>
        simp only [hfailed, hprocess, Bool.false_eq_true, if_false]
        refine iff_of_true (deliverable_completed h hjob hprocess hc) ?_
        intro j hj _ _ _ herror
        rw [Option.mem_some_iff] at hj
        subst hj
        rw [hprocess] at herror
        cases herror
      | error err =>
        simp only [hfailed, hprocess, Bool.false_eq_true, if_false]
        rw [deliverable_failed_iff hjob hc]
        simp [hprocess, hfailed, Except.isOk, Except.toBool]

theorem deliverable_apply_iff (h : Consistent queue s.backend) (a : ChargeStep)
    (hc : c.Deliverable queue s.backend) :
    c.Deliverable queue (apply queue s a).backend ↔ a.Spares queue c s := by
  cases a with
  | execute statement now => exact deliverable_execute_iff h statement now hc
  | check payload => exact iff_of_true hc trivial
  | markProcessing n now => exact iff_of_true (deliverable_markProcessing hc n now) trivial
  | enqueue n => exact deliverable_enqueue_iff hc n
  | attempt verifyPaystack jobId paymentId commissionId now =>
    exact deliverable_attempt_iff h verifyPaystack jobId paymentId commissionId now hc

end ChargeStep

def initializedIntent : Deliveries (Table (Job.jobId (δ := PaymentJobData))) where
  backend :=
    { db :=
        { installments := ⟨[⟨"installment", "contract", 90, 50, 1, .due, none⟩], by decide⟩
          paymentIntents :=
            ⟨[{ intentId := "intent", type := .installment, reference := some "reference"
                status := .initialized, amount := 50, installmentId := some "installment"
                expiresAt := 100 }], by decide⟩ }
      paymentQueue := .empty }

def capturedCharge : Charge := ⟨"reference", "installment", 50⟩

end InstalFlow
