import InstalFlow.InstallmentFlows

/-!
# Collection of an installment

Whether an installment is paid is read in front of the transaction of a payment
job and not again, and the unique keys of a payment belong to its reference. The
installment is collected once exactly as long as what a job has read about it is
still true when it commits.
-/

namespace InstalFlow
open Relational Transition

section counts
variable (installmentId : String) (db : Database)

def successPayments : ℕ :=
  db.payments.rows.countP (fun p => p.installmentId = installmentId ∧ p.status = .success)

def accruals (paymentId : String) : ℕ :=
  db.commissions.rows.countP (fun c => c.paymentId = some paymentId)

/-- The postings under the reference that a payment was recorded for. -/
def paymentPostings (p : Payment) : ℕ := (p.idempotencyKey.map db.ledger.postings).getD 0

def overPayments (f : Payment → ℕ) : ℕ :=
  ((db.payments.rows.filter (fun p => p.installmentId = installmentId)).map f).sum

structure CollectedOnce : Prop where
  payments : successPayments installmentId db ≤ 1
  commissions : overPayments installmentId db (fun p => accruals db p.paymentId) ≤ 1
  postings : overPayments installmentId db (paymentPostings db) ≤ 1

instance : Decidable (CollectedOnce installmentId db) :=
  decidable_of_iff (successPayments installmentId db ≤ 1 ∧
    overPayments installmentId db (fun p => accruals db p.paymentId) ≤ 1 ∧
    overPayments installmentId db (paymentPostings db) ≤ 1)
    ⟨fun h => ⟨h.1, h.2.1, h.2.2⟩, fun h => ⟨h.payments, h.commissions, h.postings⟩⟩

end counts

def Payment.credit (p : Payment) : ℕ := if p.status = .success then 1 else 0

/-- The books behind the payments: keys are unique, a payment has at most the one
commission and posting of its success, and no others wait for a payment of their
own. -/
structure Booked (references : String → Prop) (db : Database) : Prop where
  keys : ∀ p ∈ db.payments.rows, ∀ q ∈ db.payments.rows, ∀ r ∈ p.idempotencyKey,
    q.idempotencyKey = some r → p = q
  accrued : ∀ p ∈ db.payments.rows, accruals db p.paymentId ≤ p.credit
  unaccrued : ∀ paymentId, (∀ p ∈ db.payments.rows, p.paymentId ≠ paymentId) →
    accruals db paymentId = 0
  posted : ∀ p ∈ db.payments.rows, ∀ r ∈ p.idempotencyKey, db.ledger.postings r ≤ p.credit
  unposted : ∀ r, references r → (∀ p ∈ db.payments.rows, p.idempotencyKey ≠ some r) →
    db.ledger.postings r = 0

/-- The installment is stored, and PAID when a payment of it has succeeded. -/
def PaidWhenCollected (installmentId : String) (db : Database) : Prop :=
  ∃ i ∈ db.installments.find? installmentId,
    i.status = .paid ↔ 0 < successPayments installmentId db

theorem sum_filter_le_countP {α : Type} {l : List α} {q r : α → Bool} {g : α → ℕ}
    (h : ∀ a ∈ l, g a ≤ if r a then 1 else 0) :
    ((l.filter q).map g).sum ≤ l.countP (fun a => q a ∧ r a) := by
  induction l with
  | nil => simp
  | cons a l ih =>
    have htail := ih fun b hb => h b (List.mem_cons_of_mem a hb)
    have hhead := h a List.mem_cons_self
    rw [List.filter_cons, List.countP_cons]
    by_cases hq : q a = true
    · by_cases hr : r a = true
      · rw [if_pos hr] at hhead
        simp only [hq, hr, if_true, List.map_cons, List.sum_cons]
        simpa [add_comm] using Nat.add_le_add hhead htail
      · rw [if_neg hr] at hhead
        simpa [hq, hr, Nat.le_zero.mp hhead] using htail
    · simpa [hq] using htail

section booked
variable {references : String → Prop} {installmentId : String} {db : Database}

theorem paymentPostings_le (h : Booked references db) {p : Payment} (hp : p ∈ db.payments.rows) :
    paymentPostings db p ≤ p.credit := by
  rw [paymentPostings]
  cases hkey : p.idempotencyKey with
  | none => simp
  | some r => exact h.posted p hp r hkey

/-- Commissions and postings do not outnumber the payments. -/
theorem collectedOnce_iff (h : Booked references db) :
    CollectedOnce installmentId db ↔ successPayments installmentId db ≤ 1 := by
  constructor
  · intro honce
    exact honce.payments
  · intro honce
    have hle (f : Payment → ℕ) (hf : ∀ p ∈ db.payments.rows, f p ≤ p.credit) :
        overPayments installmentId db f ≤ 1 := by
      refine le_trans ?_ honce
      have hcount := sum_filter_le_countP (q := fun p => p.installmentId = installmentId)
        (r := fun p => p.status = .success) (l := db.payments.rows) (g := f) (by
          intro p hp
          simpa [Payment.credit] using hf p hp)
      simpa [overPayments, successPayments] using hcount
    exact ⟨honce, hle _ h.accrued, hle _ fun p hp => paymentPostings_le h hp⟩

end booked

/-- The row that a job has recorded, and what stood at its place. -/
structure Records (db : Database) (payments : Table Payment.paymentId) (payment : Payment)
    (installmentId reference : String) : Prop where
  installment : payment.installmentId = installmentId
  key : payment.idempotencyKey = some reference
  status : payment.status = .success
  rows : ∀ p ∈ payments.rows, p = payment ∨
    p ∈ db.payments.rows ∧ p.paymentId ≠ payment.paymentId
  replaced : ∀ p ∈ db.payments.rows, p.paymentId = payment.paymentId →
    p.credit = 0 ∧ p.idempotencyKey = some reference
  kept : ∀ p ∈ db.payments.rows, p.paymentId ≠ payment.paymentId →
    p ∈ payments.rows ∧ p.idempotencyKey ≠ some reference
  stored : payment ∈ payments.rows
  count : ∀ id, successPayments id { db with payments } =
    successPayments id db + if installmentId = id then 1 else 0

section recording
variable {references : String → Prop} {db db' : Database} {installment : Installment}
  {reference gatewayRef paymentId : String} {payment : Payment}

theorem records_update {existing : Payment} (h : Booked references db)
    (hmem : existing ∈ db.payments.rows)
    (hinstallment : existing.installmentId = installment.installmentId)
    (hkey : existing.idempotencyKey = some reference) (hpending : existing.status = .pending)
    (confirm : Payment → Payment) (hid : ∀ p, (confirm p).paymentId = p.paymentId)
    (hconfirm : (confirm existing).installmentId = existing.installmentId ∧
      (confirm existing).idempotencyKey = existing.idempotencyKey ∧
      (confirm existing).status = .success) :
    Records db (db.payments.update existing.paymentId confirm hid) (confirm existing)
      installment.installmentId reference := by
  have hfind := Table.find?_of_mem hmem
  have hsame : ∀ p ∈ db.payments.rows, p.paymentId = existing.paymentId → p = existing :=
    fun p hp he => Table.key_injective hp hmem he
  refine ⟨hconfirm.1.trans hinstallment, hconfirm.2.1.trans hkey, hconfirm.2.2, ?_, ?_, ?_, ?_, ?_⟩
  · intro p hp
    rcases Table.mem_updateMany.mp hp with ⟨hp, hne⟩ | ⟨q, hq, he, rfl⟩
    · refine .inr ⟨hp, ?_⟩
      rw [hid]
      simpa using hne
    · rw [hsame q hq (by simpa using he)]
      exact .inl rfl
  · intro p hp he
    rw [hid] at he
    rw [hsame p hp he]
    exact ⟨by simp [Payment.credit, hpending], hkey⟩
  · intro p hp hne
    rw [hid] at hne
    refine ⟨Table.mem_updateMany.mpr (.inl ⟨hp, by simpa using hne⟩), fun he => hne ?_⟩
    rw [h.keys p hp existing hmem reference he hkey]
  · exact Table.mem_updateMany.mpr (.inr ⟨existing, hmem, by simp, rfl⟩)
  · intro id
    have hcount := Table.countP_update hfind confirm hid
      (fun p => decide (p.installmentId = id ∧ p.status = .success))
    simp only [hpending, hconfirm.1, hconfirm.2.2, hinstallment] at hcount
    simpa [successPayments] using hcount

theorem records_create {payments : Table Payment.paymentId} {installmentId : String}
    (hcreate : db.payments.create payment = some payments)
    (hinstallment : payment.installmentId = installmentId)
    (hkey : payment.idempotencyKey = some reference) (hstatus : payment.status = .success)
    (hunused : ∀ p ∈ db.payments.rows, p.idempotencyKey ≠ some reference) :
    Records db payments payment installmentId reference := by
  obtain ⟨hfresh, hrows⟩ := Table.create_eq_some hcreate
  have hne := Table.find?_eq_none_iff.mp hfresh
  refine ⟨hinstallment, hkey, hstatus, ?_, ?_, ?_, ?_, ?_⟩
  · intro p hp
    rw [hrows, List.mem_append, List.mem_singleton] at hp
    rcases hp with hp | rfl
    · exact .inr ⟨hp, hne p hp⟩
    · exact .inl rfl
  · intro p hp he
    exact absurd he (hne p hp)
  · intro p hp _
    exact ⟨by simp [hrows, hp], hunused p hp⟩
  · simp [hrows]
  · intro id
    simp [successPayments, hrows, List.countP_append, List.countP_singleton, hinstallment, hstatus]

theorem recordPayment_records {payments : Table Payment.paymentId} (h : Booked references db)
    (hrecord : PaymentWorker.recordPayment installment reference gatewayRef paymentId db =
      .ok (payment, { db with payments })) :
    Records db payments payment installment.installmentId reference := by
  rw [PaymentWorker.recordPayment] at hrecord
  split at hrecord
  · rename_i existing hfound
    obtain ⟨hinstallment, hkey, hpending⟩ := by simpa using List.find?_some hfound
    split at hrecord
    · cases hrecord
    · cases hrecord
      exact records_update h (List.mem_of_find?_eq_some hfound) hinstallment hkey hpending
        (fun p => { p with status := .success, providerReference := some gatewayRef })
        (fun _ => rfl) ⟨rfl, rfl, rfl⟩
  · simp only at hrecord
    split at hrecord
    · cases hrecord
    · split at hrecord
      · cases hrecord
      · rename_i hunused
        split at hrecord
        · cases hrecord
        · rename_i created hcreate
          cases hrecord
          exact records_create (createRow_eq_ok.mp hcreate) rfl rfl rfl (by simpa using hunused)

end recording

section collecting
variable {references : String → Prop} {db db' : Database} {a : PaymentAttempt}

theorem accruals_created {i : LoadedInstallment} {payment : Payment}
    {commissions : Table Commission.commissionId}
    (h : PaymentWorker.AccruesFor i payment.paymentId db.commissions commissions)
    (paymentId : String) : accruals { db with commissions } paymentId ≤
      accruals db paymentId + if payment.paymentId = paymentId then 1 else 0 := by
  rcases h with ⟨-, rfl⟩ | ⟨c, hc, -, hcreate⟩
  · exact Nat.le_add_right _ _
  · simp [accruals, (Table.create_eq_some hcreate).2, List.countP_append, List.countP_singleton, hc]

/-- The payment that is recorded has had no commission and no posting yet. -/
theorem Records.unbooked {payments : Table Payment.paymentId} {payment : Payment}
    {installmentId reference : String}
    (hr : Records db payments payment installmentId reference) (h : Booked references db)
    (ha : references reference) :
    accruals db payment.paymentId = 0 ∧ db.ledger.postings reference = 0 := by
  by_cases hold : ∃ p ∈ db.payments.rows, p.paymentId = payment.paymentId
  · obtain ⟨p, hp, hid⟩ := hold
    obtain ⟨hcredit, hkey⟩ := hr.replaced p hp hid
    have haccrued := h.accrued p hp
    have hposted := h.posted p hp reference hkey
    rw [hcredit] at haccrued hposted
    rw [hid] at haccrued
    exact ⟨Nat.le_zero.mp haccrued, Nat.le_zero.mp hposted⟩
  · have hnone : ∀ p ∈ db.payments.rows, p.paymentId ≠ payment.paymentId := by
      intro p hp hid
      exact hold ⟨p, hp, hid⟩
    exact ⟨h.unaccrued _ hnone, h.unposted _ ha fun p hp => (hr.kept p hp (hnone p hp)).2⟩

theorem booked_records {payments : Table Payment.paymentId} {payment : Payment}
    {installmentId : String} (hr : Records db payments payment installmentId a.reference)
    (h : Booked references db) (ha : references a.reference)
    (hpayments : db'.payments = payments)
    (haccruals : ∀ id, accruals db' id ≤
      accruals db id + if payment.paymentId = id then 1 else 0)
    (hpostings : ∀ r, db'.ledger.postings r =
      db.ledger.postings r + if a.reference = r then 1 else 0) : Booked references db' := by
  obtain ⟨hnoAccrual, hnoPosting⟩ := hr.unbooked h ha
  have hcredit : payment.credit = 1 := by simp [Payment.credit, hr.status]
  refine ⟨?_, ?_, ?_, ?_, ?_⟩ <;> rw [hpayments]
  · intro p hp q hq r hpkey hqkey
    rcases hr.rows p hp with rfl | ⟨hp, hpid⟩ <;> rcases hr.rows q hq with rfl | ⟨hq, hqid⟩
    · rfl
    · rw [hr.key, Option.mem_some_iff] at hpkey
      rw [← hpkey] at hqkey
      exact absurd hqkey (hr.kept q hq hqid).2
    · rw [hr.key, Option.some.injEq] at hqkey
      rw [← hqkey] at hpkey
      exact absurd hpkey (hr.kept p hp hpid).2
    · exact h.keys p hp q hq r hpkey hqkey
  · intro p hp
    rcases hr.rows p hp with rfl | ⟨hp, hid⟩
    · have hle := haccruals p.paymentId
      rw [hnoAccrual, if_pos rfl] at hle
      rw [hcredit]
      exact hle
    · have hle := haccruals p.paymentId
      rw [if_neg fun he => hid he.symm] at hle
      exact hle.trans (h.accrued p hp)
  · intro id hid
    have hne := hid payment hr.stored
    have hle := haccruals id
    rw [if_neg hne, h.unaccrued id] at hle
    · exact Nat.le_zero.mp hle
    · intro p hp he
      by_cases hp' : p.paymentId = payment.paymentId
      · exact hne (hp'.symm.trans he)
      · exact hid p (hr.kept p hp hp').1 he
  · intro p hp r hkey
    rw [hpostings]
    rcases hr.rows p hp with rfl | ⟨hp, hid⟩
    · rw [hr.key, Option.mem_some_iff] at hkey
      rw [← hkey, hnoPosting, if_pos rfl, hcredit]
    · have hne : a.reference ≠ r := by
        intro he
        rw [← he] at hkey
        exact (hr.kept p hp hid).2 hkey
      rw [if_neg hne]
      exact h.posted p hp r hkey
  · intro r href hnone
    have hne : a.reference ≠ r := by
      intro he
      exact hnone payment hr.stored (by rw [hr.key, he])
    rw [hpostings, if_neg hne, h.unposted r href]
    intro p hp hkey
    by_cases hid : p.paymentId = payment.paymentId
    · have hkey' := (hr.replaced p hp hid).2
      rw [hkey, Option.some.injEq] at hkey'
      exact hne hkey'.symm
    · exact hnone p (hr.kept p hp hid).1 hkey

theorem booked_collect (h : Booked references db) (ha : references a.reference)
    (hcollect : a.collect db = .ok db') : Booked references db' := by
  obtain ⟨payment, payments, commissions, ledger, hrecord, hcommissions, hledger, rfl⟩ :=
    PaymentAttempt.collect_eq_ok hcollect
  refine booked_records (recordPayment_records h hrecord) h ha rfl
    (fun id => accruals_created hcommissions id) fun r => ?_
  exact LedgerService.postings_recordTransaction hledger
    (by simp [PaymentWorker.paymentPosting, PaymentWorker.paymentEntries]) r

theorem successPayments_collect (h : Booked references db) (hcollect : a.collect db = .ok db')
    (installmentId : String) : successPayments installmentId db' =
      successPayments installmentId db +
        if a.loaded.installment.installmentId = installmentId then 1 else 0 := by
  obtain ⟨payment, payments, commissions, ledger, hrecord, -, -, rfl⟩ :=
    PaymentAttempt.collect_eq_ok hcollect
  exact (recordPayment_records h hrecord).count installmentId

theorem find?_collect (hcollect : a.collect db = .ok db') (installmentId : String) :
    db'.installments.find? installmentId =
      if installmentId = a.loaded.installment.installmentId then
        (db.installments.find? installmentId).map
          (fun i => { i with status := .paid, paidAt := some a.now })
      else db.installments.find? installmentId := by
  obtain ⟨_, _, _, _, -, -, -, rfl⟩ := PaymentAttempt.collect_eq_ok hcollect
  simp only [PaymentWorker.markInstallmentPaid]
  rw [Table.find?_update]

theorem paidWhenCollected_collect {installmentId : String} (h : Booked references db)
    (hpaid : PaidWhenCollected installmentId db) (hcollect : a.collect db = .ok db') :
    PaidWhenCollected installmentId db' := by
  obtain ⟨i, hi, hstatus⟩ := hpaid
  have hfind := find?_collect hcollect installmentId
  have hcount := successPayments_collect h hcollect installmentId
  by_cases hid : installmentId = a.loaded.installment.installmentId
  · rw [if_pos hid, Option.mem_def.mp hi] at hfind
    rw [if_pos hid.symm] at hcount
    exact ⟨_, hfind, iff_of_true rfl (by omega)⟩
  · rw [if_neg hid] at hfind
    rw [if_neg fun he => hid he.symm] at hcount
    exact ⟨i, hfind.trans hi, by rw [hcount]; exact hstatus⟩

end collecting

/-- The commit of a job for the installment, unless a unique key refuses it,
still finds the installment unpaid. -/
def FindsUnpaid (installmentId : String) (db : Database) : IntentWrite → Prop
  | .collect a =>
    a.loaded.installment.installmentId = installmentId → (a.collect db).isOk = true →
      ∀ i ∈ db.installments.find? installmentId, i.status ≠ .paid
  | _ => True

instance (installmentId : String) (db : Database) :
    ∀ w : IntentWrite, Decidable (FindsUnpaid installmentId db w)
  | .collect a => inferInstanceAs (Decidable
      (a.loaded.installment.installmentId = installmentId → (a.collect db).isOk = true →
        ∀ i ∈ db.installments.find? installmentId, i.status ≠ .paid))
  | .create _ | .transition _ _ | .recordRecoveryFailure _ _ | .expireStale _ | .claim _
  | .elsewhere _ _ => isTrue trivial

section writes
variable {references : String → Prop} {installmentId : String} {m : Moment} {db : Database}

variable (m db) in
theorem accounted_execute {w : IntentWrite} (hw : w.Collects references)
    (h : Booked references db ∧ PaidWhenCollected installmentId db) :
    Booked references (w.execute m db) ∧ PaidWhenCollected installmentId (w.execute m db) := by
  by_cases hcollect : ∃ a, w = .collect a
  · obtain ⟨a, rfl⟩ := hcollect
    refine committed_rule (P := fun db =>
      Booked references db ∧ PaidWhenCollected installmentId db) h ?_
    intro db' hdb'
    exact ⟨booked_collect h.1 hw hdb', paidWhenCollected_collect h.1 h.2 hdb'⟩
  · obtain ⟨paymentIntents, heq⟩ :=
      execute_paymentIntents m db hw fun a ha => hcollect ⟨a, ha⟩
    rw [heq]
    obtain ⟨⟨hkeys, haccrued, hunaccrued, hposted, hunposted⟩, hpaid⟩ := h
    exact ⟨⟨hkeys, haccrued, hunaccrued, hposted, hunposted⟩, hpaid⟩

variable (m db) in
/-- A commit keeps the installment collected once exactly when it still finds it unpaid. -/
theorem collectedOnce_execute_iff {w : IntentWrite} (hw : w.Collects references)
    (h : Booked references db ∧ PaidWhenCollected installmentId db)
    (honce : CollectedOnce installmentId db) :
    CollectedOnce installmentId (w.execute m db) ↔ FindsUnpaid installmentId db w := by
  rw [collectedOnce_iff (accounted_execute m db hw h).1]
  have honce := honce.payments
  by_cases hcollect : ∃ a, w = .collect a
  · obtain ⟨a, rfl⟩ := hcollect
    obtain ⟨i, hi, hstatus⟩ := h.2
    simp only [IntentWrite.execute, FindsUnpaid]
    cases hdb' : a.collect db with
    | error err => simp [honce, Except.isOk, Except.toBool]
    | ok db' =>
      rw [committed_ok, id, successPayments_collect h.1 hdb' installmentId]
      by_cases hid : a.loaded.installment.installmentId = installmentId
      · have hpaid : successPayments installmentId db + 1 ≤ 1 ↔ i.status ≠ .paid := by
          rw [ne_eq, hstatus]
          omega
        rw [if_pos hid, hpaid, Option.mem_def.mp hi]
        simp [hid, Except.isOk, Except.toBool]
      · simp [hid, honce]
  · obtain ⟨paymentIntents, heq⟩ :=
      execute_paymentIntents m db hw fun a ha => hcollect ⟨a, ha⟩
    rw [heq]
    refine iff_of_true honce ?_
    cases w with
    | collect a => exact absurd ⟨a, rfl⟩ hcollect
    | _ => trivial

end writes

section runs
variable {ι : Type} [DecidableEq ι]

/-- The references of the jobs, under which nothing else is posted. -/
def JobReferences (flows : ι → InstallmentFlow) (reference : String) : Prop :=
  ∃ i data paymentId commissionId, flows i = .job data paymentId commissionId ∧
    data.reference = reference

/-- In every interleaving the installment stays collected once exactly when every
job that commits for it still finds it unpaid. -/
theorem collected_once_iff (flows : ι → InstallmentFlow) (db : Database) (installmentId : String)
    (hbooked : Booked (JobReferences flows) db) (hpaid : PaidWhenCollected installmentId db)
    (honce : CollectedOnce installmentId db) (schedule : List (ι × Moment)) :
    Throughout performIntent (fun c => CollectedOnce installmentId c.shared)
        (launch (fun i => (flows i).program) db) schedule ↔
      Along performIntent
        (fun c l => ∀ w ∈ (c.threads l.1).pending, FindsUnpaid installmentId c.shared w)
        (launch (fun i => (flows i).program) db) schedule := by
  have hstep : ∀ m db (w : IntentWrite), w.Collects (JobReferences flows) →
      Booked (JobReferences flows) db ∧ PaidWhenCollected installmentId db →
      CollectedOnce installmentId db →
      (CollectedOnce installmentId (w.execute m db) ↔ FindsUnpaid installmentId db w) :=
    fun m db _ hw h honce => collectedOnce_execute_iff m db hw h honce
  have hkeep : ∀ m db (w : IntentWrite), w.Collects (JobReferences flows) →
      Booked (JobReferences flows) db ∧ PaidWhenCollected installmentId db →
      Booked (JobReferences flows) (w.execute m db) ∧
        PaidWhenCollected installmentId (w.execute m db) :=
    fun m db _ hw h => accounted_execute m db hw h
  refine perform_throughout_iff hstep hkeep (fun i => ?_) ⟨hbooked, hpaid⟩ honce schedule
  exact (flows i).collecting fun data paymentId commissionId h =>
    ⟨i, data, paymentId, commissionId, h, rfl⟩

end runs

/-- An installment whose first charge is being verified. -/
def chargedInstallment : Database where
  users := ⟨[{ userId := "c", email := "c@mail", referredByMarketerId := some "m" },
    { userId := "m", role := .marketer }], by decide⟩
  products := ⟨[{ productId := "phone", commissionRate := 10 }], by decide⟩
  kycApplications :=
    ⟨[{ kycApplicationId := "a", userId := some "c", productId := "phone" }], by decide⟩
  financingContracts := ⟨[{ contractId := "contract", userId := some "c", productId := "phone"
                            kycApplicationId := "a" }], by decide⟩
  installments := ⟨[{ installmentId := "i", financingContractId := "contract", dueDate := 1
                      amount := 100, sequence := 1 }], by decide⟩
  paymentIntents := ⟨[{ intentId := "n", type := .installment, reference := some "r"
                        status := .processing, amount := 100, installmentId := some "i"
                        reservationKey := "INSTALLMENT:i", idempotencyKey := "n"
                        expiresAt := 0 }], by decide⟩

/-- Two attempts of the job of the first charge, and a second charge. -/
def twoCharges : Fin 5 → InstallmentFlow
  | 0 => .job ⟨"i", "r"⟩ "p₀" "c₀"
  | 1 => .initializePayment "i" "c"
  | 2 => .chargeSuccess ⟨"r'", 10000, some { installmentId := some "i" }⟩
  | 3 => .job ⟨"i", "r"⟩ "p₁" "c₁"
  | 4 => .job ⟨"i", "r'"⟩ "p₂" "c₂"

def chargeMoment : Moment where
  now := 0
  uuid := "n'"
  initializeTransaction := fun _ _ => .ok ⟨"r'", "url", "code"⟩
  verifyTransaction := fun _ => .ok { status := "success" }

def turns (blocks : List (Fin 5 × ℕ)) : List (Fin 5 × Moment) :=
  blocks.flatMap fun b => List.replicate b.2 (b.1, chargeMoment)

/-- The first attempt marks its intent SUCCESS and is rolled back; so the
installment can be reserved and charged again, and the jobs of both charges find
it unpaid before either commits. -/
def overlappingJobs : List (Fin 5 × Moment) :=
  turns [(0, 12), (1, 10), (2, 3), (3, 4), (4, 4), (3, 9), (4, 9)]

theorem overlapping_jobs_collect_twice :
    (fun db => (successPayments "i" db, overPayments "i" db (fun p => accruals db p.paymentId),
        overPayments "i" db (paymentPostings db)))
      (run performIntent (launch (fun i => (twoCharges i).program) chargedInstallment)
        overlappingJobs).shared = (2, 2, 2) ∧
    ¬ Throughout performIntent (fun c => CollectedOnce "i" c.shared)
      (launch (fun i => (twoCharges i).program) chargedInstallment) overlappingJobs := by
  decide +kernel

/-- The retry commits before the job of the second charge reads the installment. -/
def successiveJobs : List (Fin 5 × Moment) :=
  turns [(0, 12), (1, 10), (2, 3), (3, 13), (4, 13)]

theorem successive_jobs_collect_once :
    Throughout performIntent (fun c => CollectedOnce "i" c.shared)
      (launch (fun i => (twoCharges i).program) chargedInstallment) successiveJobs :=
  (collected_once_iff twoCharges chargedInstallment "i"
    ⟨by simp [chargedInstallment], by simp [chargedInstallment],
      fun _ _ => rfl, by simp [chargedInstallment], fun _ _ _ => rfl⟩
    ⟨_, rfl, by decide⟩ (by decide) successiveJobs).mpr (by decide +kernel)

end InstalFlow
