import InstalFlow.KycRegistration
import InstalFlow.OperationPostings
import Mathlib.Algebra.BigOperators.Pi

/-!
# The liability for commissions

A commission is posted to COMMISSION_PAYABLE of the customer's company when it
is accrued, and its payout to that of the marketer's company. The payouts posted
as initiated and since neither failed nor reversed are kept beside the database,
with the company to which each commission was posted.
-/

namespace InstalFlow
open Relational Accounting LedgerService CommissionService

def Database.companyOf (db : Database) (userId : String) : Option String :=
  (db.users.find? userId).bind User.companyId

/-- What was accrued to the marketers of a company. -/
def Database.accruedCommission (db : Database) (companyId : String) : ℚ :=
  db.commissions.sumWhere (fun c => db.companyOf c.userId = some companyId) Commission.amount

def Database.payoutAmount (db : Database) (payoutId : String) : ℚ :=
  ((db.payoutTerms payoutId).map fun t => t.2.2).getD 0

/-- The amount of a payout, for the company of its marketer. -/
def Database.payoutShare (db : Database) (payoutId : String) : String → ℚ :=
  share ((db.payoutTerms payoutId).bind fun t => db.companyOf t.1) (db.payoutAmount payoutId)

/-- A payout is paid by the company of its marketer. -/
def Database.PaidByCompany (db : Database) : Prop :=
  ∀ id t, db.payoutTerms id = some t → db.companyOf t.1 = some t.2.1

namespace Operation

/-- The payout whose transfer an operation initiates or ends. A success keeps it
posted as initiated, and a job that failed for the last time marks it as failed
and posts nothing. -/
def payoutPassage? (db : Database) : Operation → Option (Passage × String)
  | transferJob paystack payoutId =>
      (TransferWorker.initiated? paystack payoutId db).map fun _ => (.enter, payoutId)
  | transferJobFailed job _ _ =>
      if job.exhausted then
        (db.commissionPayoutRequests.find? job.payoutId).map fun _ => (.drop, job.payoutId)
      else none
  | webhook .success _ _ => none
  | webhook event payload _ =>
      (event.target? payload db).map fun _ => (.leave, payload.reference)
  | _ => none

/-- The company of the customer whose payment an operation records. -/
def customerCompany? (db : Database) (op : Operation) : Option String :=
  (op.recorded? db).bind fun i => i.user.bind User.companyId

/-- A commission is accrued to a marketer of the customer's company. One of no
amount is not posted, nor one of a negative amount. -/
def AccruesAlike (db : Database) (op : Operation) : Prop :=
  ∀ t ∈ op.accrual? db, t.2.2 = 0 ∨
    if 0 < t.2.2 then op.customerCompany? db = db.companyOf t.2.1 else db.companyOf t.2.1 = none

instance (db : Database) (op : Operation) : Decidable (op.AccruesAlike db) :=
  inferInstanceAs (Decidable (∀ t ∈ op.accrual? db, _))

end Operation

structure LiabilityState where
  db : Database
  outstanding : Finset String := ∅
  accruedTo : String → Option String := fun _ => none

namespace LiabilityState

def step (s : LiabilityState) (op : Operation) : LiabilityState where
  db := op.apply s.db
  outstanding := (op.payoutPassage? s.db).elim s.outstanding fun q => q.1.next q.2 s.outstanding
  accruedTo := (op.accrual? s.db).elim s.accruedTo fun t =>
    Function.update s.accruedTo t.1 (op.customerCompany? s.db)

/-- For every company, the liability is what was accrued to its marketers less
what their payouts took. -/
def Balanced (s : LiabilityState) : Prop :=
  ∀ companyId, s.db.ledger.balance "COMMISSION_PAYABLE" (some companyId) =
    s.db.accruedCommission companyId - ∑ id ∈ s.outstanding, s.db.payoutShare id companyId

/-- A commission and the payouts it is allocated to are posted to the same company. -/
def SameAccounts (s : LiabilityState) : Prop :=
  ∀ a ∈ s.db.commissionAllocations.rows, ∀ c p,
    s.db.commissions.find? a.commissionId = some c → 0 < c.amount →
    s.db.commissionPayoutRequests.find? a.payoutId = some p →
    s.accruedTo c.commissionId = some p.companyId

/-- A commission is accrued within a company, a payout is initiated or marked as
failed by its job when it is not outstanding, and fails or is reversed when it is. -/
def InOrder (s : LiabilityState) (op : Operation) : Prop :=
  op.AccruesAlike s.db ∧ ∀ q ∈ op.payoutPassage? s.db,
    s.db.payoutAmount q.2 = 0 ∨ q.1.InOrder q.2 s.outstanding

instance (s : LiabilityState) (op : Operation) : Decidable (s.InOrder op) :=
  inferInstanceAs (Decidable (_ ∧ ∀ q ∈ op.payoutPassage? s.db, _))

/-- What every step keeps. -/
structure Sound (s : LiabilityState) : Prop where
  found : ∀ id ∈ s.outstanding, (s.db.payoutTerms id).isSome
  typed : s.db.ledger.Typed "COMMISSION_PAYABLE" .liability
  company : s.db.PaidByCompany
  linked : s.db.Linked

/-- Every commission so far was posted to the company of its marketer. -/
def Alike (s : LiabilityState) : Prop :=
  ∀ t ∈ s.db.commissionTerms, 0 < t.2.2 → s.accruedTo t.1 = s.db.companyOf t.2.1

end LiabilityState

section postings

/-- What a payment posts to the liability: the commission, if it is positive. -/
theorem paymentPosting_adds (i : LoadedInstallment) (reference : String) :
    Ledger.Adds (PaymentWorker.paymentPosting i reference) "COMMISSION_PAYABLE" .liability
      (share (i.user.bind User.companyId)
        (if 0 < PaymentWorker.commissionAmount i then PaymentWorker.commissionAmount i else 0)) := by
  generalize hx : PaymentWorker.commissionAmount i = x
  have hentries : (PaymentWorker.paymentPosting i reference).entries =
      PaymentWorker.paymentEntries i.installment.amount x := by rw [← hx]; rfl
  constructor
  · rw [hentries, PaymentWorker.paymentEntries]
    by_cases hx : 0 < x <;> by_cases hshare : 0 < i.installment.amount - x <;> simp [hx, hshare]
  · rw [hentries, PaymentWorker.paymentEntries]
    refine congrArg (share _) ?_
    by_cases hx : 0 < x <;> by_cases hshare : 0 < i.installment.amount - x <;>
      simp [changeOf, balanceChange, hx, hshare]

theorem initPosting_adds_payable (payout : CommissionPayoutRequest) :
    Ledger.Adds (TransferWorker.initPosting payout) "COMMISSION_PAYABLE" .liability
      (share (some payout.companyId) (-payout.amount)) :=
  Ledger.adds_pair rfl (by simp) (by simp) (by simp [balanceChange])

theorem success_adds_payable (payout : CommissionPayoutRequest) :
    Ledger.Adds (TransferEvent.success.handler.posting payout) "COMMISSION_PAYABLE" .liability
      (share (some payout.companyId) 0) :=
  Ledger.adds_pair rfl (by simp) (by simp) (by simp)

theorem returned_adds_payable {e : TransferEvent} (h : e ≠ .success)
    (payout : CommissionPayoutRequest) :
    Ledger.Adds (e.handler.posting payout) "COMMISSION_PAYABLE" .liability
      (share (some payout.companyId) payout.amount) := by
  cases e with
  | success => exact absurd rfl h
  | failed => exact Ledger.adds_pair rfl (by simp) (by simp) (by simp [balanceChange])
  | reversed => exact Ledger.adds_pair rfl (by simp) (by simp) (by simp [balanceChange])

end postings

theorem accruedCommission_eq (db : Database) : db.accruedCommission =
    (db.commissionTerms.map fun t => share (db.companyOf t.2.1) t.2.2).sum := by
  funext companyId
  rw [Database.accruedCommission, Table.sumWhere_eq_sum_term, Database.commissionTerms]
  induction db.commissions.rows with
  | nil => rfl
  | cons c rows ih =>
    simp only [List.map_cons, List.sum_cons, Pi.add_apply, ih]
    by_cases hcompany : db.companyOf c.userId = some companyId <;>
      simp [Table.term, share, Commission.terms, hcompany]

theorem companyOf_congr {db db' : Database} (h : db'.users = db.users) (userId : String) :
    db'.companyOf userId = db.companyOf userId := by
  rw [Database.companyOf, h, Database.companyOf]

namespace Operation
variable {db : Database}

theorem accruedCommission_apply (db : Database) (op : Operation) :
    (op.apply db).accruedCommission = db.accruedCommission +
      (op.accrual? db).elim 0 fun t => share (db.companyOf t.2.1) t.2.2 := by
  have hcompany := companyOf_congr (op.keeps db).users
  simp only [accruedCommission_eq, hcompany, op.commissionTerms_apply db, List.map_append,
    List.sum_append]
  cases op.accrual? db <;> simp

theorem payoutShare_apply (op : Operation) {id : String} (h : (db.payoutTerms id).isSome) :
    (op.apply db).payoutShare id = db.payoutShare id := by
  obtain ⟨terms, hterms⟩ := Option.isSome_iff_exists.mp h
  simp only [Database.payoutShare, Database.payoutAmount, hterms, op.payoutTerms_apply hterms,
    Option.bind_some, Option.map_some, Option.getD_some, companyOf_congr (op.keeps db).users]

theorem payoutTerms_of_find? {id : String} {p : CommissionPayoutRequest}
    (h : db.commissionPayoutRequests.find? id = some p) :
    db.payoutTerms id = some (p.userId, p.companyId, p.amount) := by
  rw [Database.payoutTerms, h]
  rfl

/-- The payout of a passage exists, and its transaction is posted to its company. -/
theorem payoutPassage?_eq_some {op : Operation} {q : Passage × String}
    (h : op.payoutPassage? db = some q) : ∃ p, db.commissionPayoutRequests.find? q.2 = some p := by
  cases op with
  | transferJob paystack payoutId =>
    obtain ⟨payout, hpayout, rfl⟩ := Option.map_eq_some_iff.mp h
    exact ⟨payout, (TransferWorker.initiated?_eq_some hpayout).1⟩
  | transferJobFailed job message now =>
    rw [payoutPassage?] at h
    split at h
    · obtain ⟨payout, hpayout, rfl⟩ := Option.map_eq_some_iff.mp h
      exact ⟨payout, hpayout⟩
    · cases h
  | webhook event payload now =>
    cases event with
    | success => cases h
    | failed | reversed =>
      obtain ⟨payout, hpayout, rfl⟩ := Option.map_eq_some_iff.mp h
      exact ⟨payout, ((TransferEvent.target?_eq_some _).mp hpayout).1⟩
  | processPayment | requestPayout | adminApprovePayout | companyApprovePayout
  | initiateTransfer => cases h

/-- An operation that accrues a commission has no passage. -/
theorem accrual?_or_passage (db : Database) (op : Operation) :
    op.accrual? db = none ∨ op.payoutPassage? db = none := by
  cases op with
  | processPayment => exact .inr rfl
  | requestPayout | adminApprovePayout | companyApprovePayout | initiateTransfer | transferJob
  | transferJobFailed | webhook => exact .inl rfl

/-- What an operation adds to the liabilities of the companies. -/
def payableChange (db : Database) (op : Operation) : String → ℚ :=
  ((op.accrual? db).elim 0 fun t =>
      share (op.customerCompany? db) (if 0 < t.2.2 then t.2.2 else 0)) +
    (op.payoutPassage? db).elim 0 fun q => q.1.change (-db.payoutShare q.2)

theorem payoutShare_eq (h : db.PaidByCompany) {id : String} {p : CommissionPayoutRequest}
    (hp : db.commissionPayoutRequests.find? id = some p) :
    db.payoutShare id = share (some p.companyId) p.amount := by
  have hterms := payoutTerms_of_find? hp
  simp [Database.payoutShare, Database.payoutAmount, hterms, h _ _ hterms]

theorem payableChange_none {op : Operation} (h : op.posting? db = none) :
    op.payableChange db = 0 := by
  cases op with
  | processPayment verifyPaystack job paymentId commissionId now =>
    have hrecorded := Option.map_eq_none_iff.mp h
    simp [payableChange, accrual?, payoutPassage?, hrecorded]
  | transferJob paystack payoutId =>
    have hinitiated := Option.map_eq_none_iff.mp h
    simp [payableChange, accrual?, payoutPassage?, hinitiated]
  | transferJobFailed job message now =>
    simp only [payableChange, accrual?, payoutPassage?, Option.elim_none, zero_add]
    cases hq : (if job.exhausted = true then (db.commissionPayoutRequests.find? job.payoutId).map
      fun _ => (Passage.drop, job.payoutId) else none) with
    | none => rfl
    | some q =>
      split at hq
      · obtain ⟨payout, -, rfl⟩ := Option.map_eq_some_iff.mp hq
        rfl
      · cases hq
  | webhook event payload now =>
    have htarget := Option.map_eq_none_iff.mp h
    cases event with
    | success => simp [payableChange, accrual?, payoutPassage?]
    | failed | reversed => simp [payableChange, accrual?, payoutPassage?, htarget]
  | requestPayout | adminApprovePayout | companyApprovePayout | initiateTransfer =>
    simp [payableChange, accrual?, payoutPassage?]

theorem posting?_adds (hcompany : db.PaidByCompany) {op : Operation} {data : LedgerTransaction}
    (h : op.posting? db = some data) :
    Ledger.Adds data "COMMISSION_PAYABLE" .liability (op.payableChange db) := by
  cases op with
  | processPayment verifyPaystack job paymentId commissionId now =>
    obtain ⟨i, hi, rfl⟩ := Option.map_eq_some_iff.mp h
    have hadds := paymentPosting_adds i job.reference
    have hchange : share (i.user.bind User.companyId) (if 0 < PaymentWorker.commissionAmount i then
        PaymentWorker.commissionAmount i else 0) = payableChange db
          (processPayment verifyPaystack job paymentId commissionId now) := by
      cases haccrual : PaymentWorker.accrual i with
      | none => simp [payableChange, accrual?, payoutPassage?, hi, haccrual,
          PaymentWorker.commissionAmount, share_eq_zero_iff]
      | some a => simp [payableChange, accrual?, payoutPassage?, customerCompany?, recorded?, hi,
          haccrual, PaymentWorker.commissionAmount]
    rwa [hchange] at hadds
  | transferJob paystack payoutId =>
    obtain ⟨payout, hpayout, rfl⟩ := Option.map_eq_some_iff.mp h
    have hshare := payoutShare_eq hcompany (TransferWorker.initiated?_eq_some hpayout).1
    have hadds := initPosting_adds_payable payout
    rw [show -payout.amount = Passage.leave.change payout.amount from rfl, share_change] at hadds
    simpa [payableChange, accrual?, payoutPassage?, hpayout, hshare, Passage.change] using hadds
  | webhook event payload now =>
    obtain ⟨payout, htarget, rfl⟩ := Option.map_eq_some_iff.mp h
    have hshare := payoutShare_eq hcompany ((TransferEvent.target?_eq_some _).mp htarget).1
    cases event with
    | success =>
      have hadds := success_adds_payable payout
      rw [share_eq_zero_iff.mpr (.inr rfl)] at hadds
      simpa [payableChange, accrual?, payoutPassage?] using hadds
    | failed =>
      have hadds := returned_adds_payable (e := .failed) (by decide) payout
      simpa [payableChange, accrual?, payoutPassage?, htarget, hshare, Passage.change] using hadds
    | reversed =>
      have hadds := returned_adds_payable (e := .reversed) (by decide) payout
      simpa [payableChange, accrual?, payoutPassage?, htarget, hshare, Passage.change] using hadds
  | requestPayout | adminApprovePayout | companyApprovePayout | initiateTransfer
  | transferJobFailed => cases h

theorem payable_apply (htyped : db.ledger.Typed "COMMISSION_PAYABLE" .liability)
    (hcompany : db.PaidByCompany) (op : Operation) :
    (op.apply db).ledger.Typed "COMMISSION_PAYABLE" .liability ∧
      (op.apply db).ledger.companyBalances "COMMISSION_PAYABLE" =
        db.ledger.companyBalances "COMMISSION_PAYABLE" + op.payableChange db := by
  have hposted := op.apply_posted db
  cases hposting : op.posting? db with
  | none =>
    rw [hposting] at hposted
    rw [hposted, payableChange_none hposting, add_zero]
    exact ⟨htyped, rfl⟩
  | some data =>
    rw [hposting] at hposted
    exact Ledger.companyBalances_record hposted htyped (posting?_adds hcompany hposting)

end Operation

theorem share_eq_iff {c d : Option String} {amount : ℚ} :
    share c amount = share d amount ↔ amount = 0 ∨ c = d := by
  constructor
  · intro h
    by_contra hne
    obtain ⟨hamount, hcd⟩ := not_or.mp hne
    refine hcd (Option.ext fun company => ?_)
    have hcompany := congrFun h company
    by_cases hc : c = some company <;> by_cases hd : d = some company <;>
      simp_all [share, eq_comm]
  · rintro (rfl | rfl)
    · rw [share_eq_zero_iff.mpr (.inr rfl), share_eq_zero_iff.mpr (.inr rfl)]
    · rfl

/-- What is posted for a commission is what is accrued to the marketer's company. -/
theorem share_posted_iff {customer marketer : Option String} {amount : ℚ} :
    share customer (if 0 < amount then amount else 0) = share marketer amount ↔
      amount = 0 ∨ if 0 < amount then customer = marketer else marketer = none := by
  by_cases hpos : 0 < amount
  · rw [if_pos hpos, if_pos hpos, share_eq_iff]
  · rw [if_neg hpos, if_neg hpos, share_eq_zero_iff.mpr (.inr rfl), eq_comm, share_eq_zero_iff,
      or_comm]

namespace LiabilityState
variable {s : LiabilityState}

theorem balanced_iff : s.Balanced ↔ s.db.ledger.companyBalances "COMMISSION_PAYABLE" =
    s.db.accruedCommission + ∑ id ∈ s.outstanding, -s.db.payoutShare id := by
  rw [Finset.sum_neg_distrib, ← sub_eq_add_neg, funext_iff]
  simp only [Ledger.companyBalances, Pi.sub_apply, Finset.sum_apply]
  rfl

theorem sum_payoutShare_apply (h : s.Sound) (op : Operation) :
    ∑ id ∈ s.outstanding, -(op.apply s.db).payoutShare id =
      ∑ id ∈ s.outstanding, -s.db.payoutShare id :=
  Finset.sum_congr rfl fun id hid => by rw [op.payoutShare_apply (h.found id hid)]

theorem balanced_step_iff (h : s.Sound) (hbalanced : s.Balanced) (op : Operation) :
    (s.step op).Balanced ↔ s.InOrder op := by
  have hbalance := (op.payable_apply h.typed h.company).2
  have haccrued := op.accruedCommission_apply s.db
  have hsum := sum_payoutShare_apply h op
  rw [balanced_iff] at hbalanced
  rw [hbalanced] at hbalance
  simp only [balanced_iff, step, hbalance, haccrued, InOrder]
  cases haccrual : op.accrual? s.db with
  | some t =>
    have hpassage := (op.accrual?_or_passage s.db).resolve_left (by simp [haccrual])
    simp only [Operation.payableChange, haccrual, hpassage, Option.elim_some, Option.elim_none,
      add_zero, hsum]
    rw [add_right_comm, add_left_inj, add_right_inj, share_posted_iff]
    simp [Operation.AccruesAlike, haccrual]
  | none =>
    have halike : op.AccruesAlike s.db := by simp [Operation.AccruesAlike, haccrual]
    cases hpassage : op.payoutPassage? s.db with
    | none => simp [Operation.payableChange, haccrual, hpassage, hsum, halike]
    | some q =>
      obtain ⟨payout, hpayout⟩ := Operation.payoutPassage?_eq_some hpassage
      have hfound : (s.db.payoutTerms q.2).isSome := by
        rw [Operation.payoutTerms_of_find? hpayout]
        rfl
      have hzero : -(op.apply s.db).payoutShare q.2 = 0 ↔ s.db.payoutAmount q.2 = 0 := by
        rw [op.payoutShare_apply hfound, neg_eq_zero, Operation.payoutShare_eq h.company hpayout,
          share_eq_zero_iff, Database.payoutAmount, Operation.payoutTerms_of_find? hpayout]
        simp
      simp only [Operation.payableChange, haccrual, hpassage, Option.elim_some, Option.elim_none,
        add_zero, zero_add, halike, true_and, Option.mem_some_iff, forall_eq']
      rw [← hsum, ← op.payoutShare_apply hfound, add_assoc, add_right_inj, Passage.sum_next_iff,
        hzero]

theorem sound_step (h : s.Sound) (op : Operation) : (s.step op).Sound := by
  have hkept {id : String} (hid : (s.db.payoutTerms id).isSome) :
      ((op.apply s.db).payoutTerms id).isSome := by
    obtain ⟨terms, hterms⟩ := Option.isSome_iff_exists.mp hid
    rw [op.payoutTerms_apply hterms]
    rfl
  constructor
  · simp only [step]
    cases hpassage : op.payoutPassage? s.db with
    | none => exact fun id hid => hkept (h.found id hid)
    | some q =>
      intro id hid
      rcases q.1.mem_next hid with hid | rfl
      · exact hkept (h.found id hid)
      · obtain ⟨payout, hpayout⟩ := Operation.payoutPassage?_eq_some hpassage
        exact hkept (by rw [Operation.payoutTerms_of_find? hpayout]; rfl)
  · exact (op.payable_apply h.typed h.company).1
  · intro id t ht
    rw [step, companyOf_congr (op.keeps s.db).users]
    rcases op.payoutTerms_apply_cases s.db id with
      hsame | ⟨-, user, companyId, amount, huser, hcompany, hnew, -⟩
    · exact h.company id t (hsame.symm.trans ht)
    · cases hnew.symm.trans ht
      simp [Database.companyOf, huser, hcompany]
  · exact op.linked_apply h.linked

theorem alike_step (halike : s.Alike) {op : Operation} (h : op.AccruesAlike s.db) :
    (s.step op).Alike := by
  have hnodup : ((op.apply s.db).commissionTerms.map Prod.fst).Nodup := by
    rw [Database.commissionTerms, List.map_map]
    exact (op.apply s.db).commissions.unique
  rw [op.commissionTerms_apply s.db] at hnodup
  intro t ht hpos
  simp only [step] at ht ⊢
  rw [companyOf_congr (op.keeps s.db).users]
  rw [op.commissionTerms_apply s.db] at ht
  cases haccrual : op.accrual? s.db with
  | none =>
    rw [haccrual, Option.toList_none, List.append_nil] at ht
    exact halike t ht hpos
  | some u =>
    rw [haccrual, Option.toList_some] at ht hnodup
    rw [Option.elim_some]
    rcases List.mem_append.mp ht with ht | ht
    · rw [List.map_append, List.nodup_append] at hnodup
      have hne : t.1 ≠ u.1 := hnodup.2.2 _ (List.mem_map_of_mem ht) _ (by simp)
      rw [Function.update_of_ne hne]
      exact halike t ht hpos
    · rw [List.mem_singleton] at ht
      subst ht
      rw [Function.update_self]
      have hcompany := (h t haccrual).resolve_left hpos.ne'
      rwa [if_pos hpos] at hcompany

theorem sameAccounts (h : s.Sound) (halike : s.Alike) : s.SameAccounts := by
  intro a ha c p hc hpos hp
  obtain ⟨userId, amount, terms, hcommission, hpayout⟩ := h.linked a ha
  obtain ⟨d, hd, hterms⟩ := List.mem_map.mp hcommission
  have hid : d.commissionId = a.commissionId := congrArg Prod.fst hterms
  have hdc : d = c := by
    have hfind := Table.find?_of_mem hd
    rw [hid, hc] at hfind
    exact (Option.some.inj hfind).symm
  subst hdc
  have hposted := halike d.terms (List.mem_map_of_mem hd) hpos
  have howner : d.userId = userId := congrArg (fun t => t.2.1) hterms
  rw [Operation.payoutTerms_of_find? hp] at hpayout
  cases hpayout
  have hcompany := h.company a.payoutId _ (Operation.payoutTerms_of_find? hp)
  exact hposted.trans ((congrArg s.db.companyOf howner).trans hcompany)

end LiabilityState

/-- The liability balances for every company and every commission is accrued and
paid out on the accounts of one company, throughout a run, exactly when every
step is in order. -/
theorem liability_balanced_iff {s : LiabilityState} (h : s.Sound) (hbalanced : s.Balanced)
    (halike : s.Alike) (ops : List Operation) :
    Transition.Throughout LiabilityState.step
        (fun s => s.Balanced ∧ s.SameAccounts) s ops ↔
      Transition.Along LiabilityState.step LiabilityState.InOrder s ops := by
  constructor
  · intro hrun
    have hiff : Transition.Throughout LiabilityState.step LiabilityState.Balanced s ops ↔
        Transition.Along LiabilityState.step LiabilityState.InOrder s ops :=
      Transition.throughout_iff_along (I := LiabilityState.Sound)
        (fun _ op hs hb => LiabilityState.balanced_step_iff hs hb op)
        (fun _ op hs _ => LiabilityState.sound_step hs op) h hbalanced
    exact hiff.mp (hrun.imp fun _ hs => hs.1)
  · intro hrun
    have hkept : ∀ (s : LiabilityState) op, (s.Sound ∧ s.Balanced ∧ s.Alike) → s.InOrder op →
        (s.step op).Sound ∧ (s.step op).Balanced ∧ (s.step op).Alike := by
      intro s op hs hop
      exact ⟨LiabilityState.sound_step hs.1 op,
        (LiabilityState.balanced_step_iff hs.1 hs.2.1 op).mpr hop,
        LiabilityState.alike_step hs.2.2 hop.1⟩
    have hall := hrun.throughout hkept ⟨h, hbalanced, halike⟩
    exact hall.imp fun _ hs => ⟨hs.2.1, LiabilityState.sameAccounts hs.1 hs.2.2⟩

theorem loadInstallment_user {installmentId : String} {db : Database} {i : LoadedInstallment}
    {u : User} (h : PaymentWorker.loadInstallment installmentId db = some i)
    (hu : i.user = some u) : u ∈ db.users.rows := by
  simp only [PaymentWorker.loadInstallment, Option.bind_eq_bind, Option.bind_eq_some_iff,
    Option.pure_def, Option.some.injEq] at h
  obtain ⟨installment, -, contract, -, product, -, rfl⟩ := h
  obtain ⟨userId, -, hfind⟩ := Option.bind_eq_some_iff.mp hu
  exact Table.mem_of_find? hfind

/-- The customers of a marketer are registered without a company, so no commission
of a marketer who has one is accrued to the company's account. -/
theorem referral_not_accruesAlike {db : Database} (h : db.Registered) {op : Operation}
    {t : String × String × ℚ} (haccrual : op.accrual? db = some t) (hpos : 0 < t.2.2)
    {marketer : User} (hmarketer : db.users.find? t.2.1 = some marketer)
    (hrole : marketer.role = .marketer) (hcompany : marketer.companyId ≠ none) :
    ¬ op.AccruesAlike db := by
  cases op with
  | processPayment verifyPaystack job paymentId commissionId now =>
    obtain ⟨i, hi, ha⟩ := Option.bind_eq_some_iff.mp haccrual
    obtain ⟨a, ha, rfl⟩ := Option.map_eq_some_iff.mp ha
    have hload : PaymentWorker.loadInstallment job.installmentId db = some i := by
      rw [PaymentWorker.recorded?] at hi
      split at hi
      · exact hi
      · cases hi
    intro halike
    have hsame := (halike _ haccrual).resolve_left hpos.ne'
    rw [if_pos hpos, Database.companyOf, hmarketer, Option.bind_some] at hsame
    have hreferrer : PaymentWorker.LoadedInstallment.marketerId i = some a.1 := by
      rw [PaymentWorker.accrual] at ha
      split at ha
      · cases ha
      · split at ha
        · cases ha
          assumption
        · cases ha
    obtain ⟨customer, hcustomer, hreferred⟩ := Option.bind_eq_some_iff.mp hreferrer
    obtain ⟨u, hu, hcases⟩ := h.users customer (loadInstallment_user hload hcustomer) a.1 hreferred
    cases hmarketer.symm.trans hu
    have hnone : customer.companyId = none := by
      rcases hcases with ⟨-, hnone⟩ | ⟨hadmin, -⟩
      · exact hnone
      · rw [hrole] at hadmin
        cases hadmin
    refine hcompany (hsame.symm.trans ?_)
    simp [Operation.customerCompany?, Operation.recorded?, hi, hcustomer, hnone]
  | requestPayout | adminApprovePayout | companyApprovePayout | initiateTransfer | transferJob
  | transferJobFailed | webhook => cases haccrual

/-- A company with an admin, and a customer with an installment of 100 due. -/
def soldTo (registrations : List RegistrationStep) : LiabilityState where
  db :=
    { users := (Transition.run (RegistrationStep.apply id)
        { users := ⟨[{ userId := "company", email := "office@co", role := .company
                       companyId := some "co" },
                     { userId := "admin", email := "admin@co", role := .admin
                       companyId := some "co", createdById := some "company" }], by decide⟩ }
        registrations).users
      products := ⟨[{ productId := "p", commissionRate := 10 }], by decide⟩
      financingContracts := ⟨[{ contractId := "k", userId := some "c", productId := "p" }], by decide⟩
      installments := ⟨[{ installmentId := "i", financingContractId := "k", dueDate := 0
                          amount := 100, sequence := 1 }], by decide⟩
      paymentIntents := ⟨[{ intentId := "n", type := .installment, reference := some "r"
                            status := .processing, amount := 100, installmentId := some "i"
                            expiresAt := 0 }], by decide⟩
      marketerBankAccounts :=
        ⟨[⟨"bank", "admin", "058", "Admin", "0123456789", true, none, 0, "", true⟩], by decide⟩ }

def customer : Registration where
  name := "Ada"
  email := "ada@mail"
  password := "secret"

def payInstallment : Operation :=
  .processPayment (fun _ => .ok { status := "success" }) ⟨"i", "r"⟩ "payment" "commission" 0

theorem soldTo_sound (registrations : List RegistrationStep) :
    (soldTo registrations).Sound ∧ (soldTo registrations).Balanced ∧
      (soldTo registrations).Alike := by
  refine ⟨⟨by simp [soldTo], by simp [soldTo, Ledger.Typed], ?_, by simp [soldTo, Database.Linked]⟩,
    fun companyId => ?_, by simp [soldTo, LiabilityState.Alike, Database.commissionTerms]⟩
  · intro id t ht
    cases ht
  · simp [soldTo, Ledger.balance, Database.accruedCommission, Table.sumWhere]

/-- A customer whom an admin registered: the commission is paid out, returned and kept. -/
theorem direct_sale_balanced : Transition.Throughout LiabilityState.step
    (fun s => s.Balanced ∧ s.SameAccounts)
    (soldTo [.registerDirect "admin" customer "s" 0, .createCustomer "s" "c"])
    [payInstallment, .requestPayout "admin" 10 "q" 1, .companyApprovePayout "q" "company" 2,
      .initiateTransfer "q" "company" 3, .transferJob acceptingPaystack "q",
      webhookFor .failed "q"] :=
  (liability_balanced_iff (soldTo_sound _).1 (soldTo_sound _).2.1 (soldTo_sound _).2.2 _).mpr
    (by decide +kernel)

/-- The commission for a customer whom a marketer referred is not on the company's account. -/
theorem referred_sale_unbalanced : ¬ Transition.Throughout LiabilityState.step
    (fun s => s.Balanced ∧ s.SameAccounts)
    (soldTo [.createMarketer "co" "company" "m" "Marketer" "marketer@co" "REF",
      .registerViaReferral { customer with referredByCode := some "REF" } "s" 0,
      .createCustomer "s" "c"]) [payInstallment] := by
  intro h
  have hco := h.last.1 "co"
  revert hco
  decide +kernel

end InstalFlow
