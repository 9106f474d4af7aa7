import InstalFlow.MerchantSettlement
import InstalFlow.TransferPostings
import Mathlib.Algebra.BigOperators.Pi

/-!
# The account of money in transit

Transfers of payouts and of settlements are posted as initiated against
PAYOUTS_IN_TRANSIT, and the webhook that tells their end posts them back. The
transfers posted as initiated and not yet ended are kept beside the database;
the balances of the account are theirs as long as every posting finds its
transfer where it takes it to be.
-/

namespace InstalFlow
open Relational Accounting LedgerService

/-- What of a settlement is fixed when it is generated. -/
def MerchantSettlementRequest.terms (s : MerchantSettlementRequest) : String × ℚ :=
  (s.companyId, s.amount)

def Database.settlementTerms (db : Database) (settlementId : String) : Option (String × ℚ) :=
  (db.merchantSettlementRequests.find? settlementId).map MerchantSettlementRequest.terms

/-- The payouts are left alone, and the terms of the settlements. -/
structure Settles (db db' : Database) : Prop where
  payouts : db'.commissionPayoutRequests = db.commissionPayoutRequests
  terms : ∀ id, db'.settlementTerms id = db.settlementTerms id

namespace Settles
open MerchantSettlementService
variable {db db₁ db₂ : Database}

theorem refl (db : Database) : Settles db db := ⟨rfl, fun _ => rfl⟩

theorem trans (h : Settles db db₁) (h' : Settles db₁ db₂) : Settles db db₂ :=
  ⟨h'.payouts.trans h.payouts, fun id => (h'.terms id).trans (h.terms id)⟩

theorem update (db : Database) (id : String)
    {f : MerchantSettlementRequest → MerchantSettlementRequest}
    (hf : ∀ s, (f s).settlementId = s.settlementId) (h : ∀ s, (f s).terms = s.terms) :
    Settles db (updateSettlement db id f hf) :=
  ⟨rfl, fun k => Table.find?_update_map db.merchantSettlementRequests id k hf h⟩

theorem queueTransfer (now : DateTime) (db : Database) (s : MerchantSettlementRequest) :
    Settles db (MerchantSettlementService.queueTransfer now db s) := by
  have hmark := update db s.settlementId (f := fun s =>
    { s with
      status := .transferInitiated
      transferQueuedAt := some now
      transferInitiatedAt := some now }) (fun _ => rfl) (fun _ => rfl)
  exact ⟨hmark.payouts, hmark.terms⟩

theorem queueEligibleTransfers (now : DateTime) (db : Database) :
    Settles db (MerchantSettlementService.queueEligibleTransfers now db).2 ∧
      (MerchantSettlementService.queueEligibleTransfers now db).2.ledger = db.ledger := by
  rw [MerchantSettlementService.queueEligibleTransfers]
  generalize db.merchantSettlementRequests.rows.filter (eligible db) = eligible
  induction eligible generalizing db with
  | nil => exact ⟨refl db, rfl⟩
  | cons s eligible ih =>
    obtain ⟨hsettles, hledger⟩ := ih (MerchantSettlementService.queueTransfer now db s)
    exact ⟨(queueTransfer now db s).trans hsettles, hledger⟩

theorem retryTransfer {settlementId superAdminUserId : String} {now : DateTime} {retryCount : ℕ}
    (h : MerchantSettlementService.retryTransfer settlementId superAdminUserId now db =
      .ok (retryCount, db₁)) : Settles db db₁ ∧ db₁.ledger = db.ledger := by
  rw [MerchantSettlementService.retryTransfer] at h
  split at h
  · cases h
  · split at h
    · cases h
    · rename_i settlement hsettlement
      split at h
      · cases h
      · cases h
        have hmark := update db settlementId (f := fun s =>
          { s with
            status := .transferInitiated
            retryCount := settlement.retryCount + 1
            lastRetryAt := some now
            retryInitiatedById := some superAdminUserId
            transferFailedAt := none
            transferFailReason := none
            transferCode := none }) (fun _ => rfl) (fun _ => rfl)
        exact ⟨⟨hmark.payouts, hmark.terms⟩, rfl⟩

end Settles

namespace MerchantSettlementTransferWorker
open MerchantSettlementService

def accepted (paystack : Paystack) (settlement : MerchantSettlementRequest) (db : Database) :
    Bool :=
  match settlement.companyBankAccountId.bind db.companyBankAccounts.find? with
  | none => false
  | some bank =>
    match resolveRecipient paystack bank db with
    | .error _ => false
    | .ok (recipientCode, _) =>
      (paystack.initiateTransfer (settlement.amount * 100) recipientCode
        (settlementReferencePrefix ++ settlement.settlementId)
        ("Merchant settlement — company " ++ settlement.companyId)).isOk

/-- The settlement whose transfer a job posts as initiated. -/
def initiated? (paystack : Paystack) (settlementId : String) (db : Database) :
    Option MerchantSettlementRequest :=
  (db.merchantSettlementRequests.find? settlementId).filter fun settlement =>
    settlement.status = .transferInitiated ∧ settlement.transferCode = none ∧
      accepted paystack settlement db

variable {paystack : Paystack} {settlementId : String} {now : DateTime} {db : Database}

theorem initPosting_adds (settlement : MerchantSettlementRequest) :
    Ledger.Adds (initPosting settlement) "PAYOUTS_IN_TRANSIT" .asset
      (share (some settlement.companyId) (-settlement.amount)) :=
  Ledger.adds_pair rfl (by simp) (by simp) (by simp [balanceChange])

theorem resolveRecipient_eq_ok {bank : CompanyBankAccount} {code : Option String} {db' : Database}
    (h : resolveRecipient paystack bank db = .ok (code, db')) :
    ∃ companyBankAccounts, db' = { db with companyBankAccounts } := by
  rw [resolveRecipient] at h
  split at h
  · cases h
    exact ⟨_, rfl⟩
  · split at h
    · cases h
    · cases h
      exact ⟨_, rfl⟩

theorem recordTransferInit_ledger (settlement : MerchantSettlementRequest)
    (code : Option String) (now : DateTime) (db : Database) :
    ∃ db', recordTransferInit settlement code now db = .ok db' ∧
      recordTransaction (initPosting settlement) db.ledger = .ok db'.ledger := by
  have hbalanced : totalDebits (initPosting settlement).entries =
      totalCredits (initPosting settlement).entries := by
    simp [initPosting, settlementPosting, totalDebits, totalCredits]
  obtain ⟨ledger, hledger⟩ : ∃ l, recordTransaction (initPosting settlement) db.ledger = .ok l :=
    ⟨_, if_neg (not_not.mpr hbalanced)⟩
  exact ⟨_, post_of_record (l := ledger) hledger, hledger⟩

theorem recordTransferInit_settles {settlement : MerchantSettlementRequest}
    {code : Option String} {db' : Database}
    (h : recordTransferInit settlement code now db = .ok db') : Settles db db' := by
  obtain ⟨ledger, -, rfl⟩ := post_eq_ok h
  have hmark := Settles.update db settlement.settlementId (f := fun s =>
    { s with transferCode := code.or s.transferCode, transferCodeReceivedAt := some now })
    (fun _ => rfl) (fun _ => rfl)
  exact ⟨hmark.payouts, hmark.terms⟩

theorem process_settles (paystack : Paystack) (settlementId : String) (now : DateTime)
    (db : Database) : Settles db (process paystack settlementId now db).1 := by
  rw [process]
  split
  · exact Settles.refl db
  · split
    · exact Settles.refl db
    · split
      · exact Settles.refl db
      · split
        · exact Settles.refl db
        · rename_i hrecipient
          obtain ⟨banks, rfl⟩ := resolveRecipient_eq_ok hrecipient
          split
          · exact ⟨rfl, fun _ => rfl⟩
          · split
            · exact ⟨rfl, fun _ => rfl⟩
            · split
              · exact ⟨rfl, fun _ => rfl⟩
              · rename_i hinit
                have hsettles := recordTransferInit_settles hinit
                exact ⟨hsettles.payouts, hsettles.terms⟩

theorem accepted_eq_true {settlement : MerchantSettlementRequest}
    (h : accepted paystack settlement db = true) :
    ∃ bank recipientCode db₁ transferCode,
      settlement.companyBankAccountId.bind db.companyBankAccounts.find? = some bank ∧
      resolveRecipient paystack bank db = .ok (recipientCode, db₁) ∧
      paystack.initiateTransfer (settlement.amount * 100) recipientCode
        (settlementReferencePrefix ++ settlement.settlementId)
        ("Merchant settlement — company " ++ settlement.companyId) = .ok transferCode := by
  rw [accepted] at h
  split at h
  · cases h
  · rename_i bank hbank
    split at h
    · cases h
    · rename_i recipientCode db₁ hrecipient
      cases htransfer : paystack.initiateTransfer (settlement.amount * 100) recipientCode
          (settlementReferencePrefix ++ settlement.settlementId)
          ("Merchant settlement — company " ++ settlement.companyId) with
      | error message =>
        rw [htransfer] at h
        cases h
      | ok transferCode => exact ⟨bank, recipientCode, db₁, transferCode, hbank, hrecipient, htransfer⟩

theorem process_initiated {settlement : MerchantSettlementRequest}
    (h : initiated? paystack settlementId db = some settlement) :
    recordTransaction (initPosting settlement) db.ledger =
      .ok (process paystack settlementId now db).1.ledger := by
  obtain ⟨hsettlement, hguard⟩ := Option.filter_eq_some_iff.mp h
  have hguard : settlement.status = .transferInitiated ∧ settlement.transferCode = none ∧
      accepted paystack settlement db = true := by simpa using hguard
  obtain ⟨hstatus, hcode, haccepted⟩ := hguard
  obtain ⟨bank, recipientCode, db₁, transferCode, hbank, hrecipient, htransfer⟩ :=
    accepted_eq_true haccepted
  obtain ⟨banks, rfl⟩ := resolveRecipient_eq_ok hrecipient
  obtain ⟨db', hrecord, hledger⟩ := recordTransferInit_ledger settlement transferCode now
    { db with companyBankAccounts := banks }
  simp [process, hsettlement, hstatus, hbank, hrecipient, hcode, htransfer, hrecord, hledger]

theorem process_not_initiated (h : initiated? paystack settlementId db = none) :
    (process paystack settlementId now db).1.ledger = db.ledger := by
  rw [process]
  split
  · rfl
  · rename_i settlement hsettlement
    have hguard : ¬ (settlement.status = .transferInitiated ∧ settlement.transferCode = none ∧
        accepted paystack settlement db = true) := by
      simpa [initiated?, hsettlement, Option.filter_eq_none_iff] using h
    split
    · rfl
    · rename_i hstatus
      split
      · rfl
      · rename_i bank hbank
        split
        · rfl
        · rename_i recipientCode db₁ hrecipient
          obtain ⟨banks, rfl⟩ := resolveRecipient_eq_ok hrecipient
          split
          · rfl
          · rename_i hcode
            split
            · rfl
            · rename_i transferCode htransfer
              refine absurd ⟨not_not.mp hstatus, by simpa using hcode, ?_⟩ hguard
              simp [accepted, hbank, hrecipient, htransfer, Except.isOk, Except.toBool]

end MerchantSettlementTransferWorker

namespace SettlementHandler
open MerchantSettlementService

/-- The settlement an event is applied to: the handler skips its own status. -/
def target? (h : SettlementHandler) (settlementId : String) (db : Database) :
    Option MerchantSettlementRequest :=
  (db.merchantSettlementRequests.find? settlementId).filter (fun s => s.status ≠ h.target)

theorem foldl_audit (entries : List MerchantSettlementAuditTrail) (db : Database) :
    entries.foldl (fun db entry => audit entry db) db = { db with
      merchantSettlementAuditTrail := db.merchantSettlementAuditTrail ++ entries } := by
  induction entries generalizing db with
  | nil => simp
  | cons entry entries ih =>
    rw [List.foldl_cons, ih]
    simp [audit]

theorem handle_eq_ok {h : SettlementHandler} {settlementId : String} {payload : TransferPayload}
    {now : DateTime} {db db' : Database} (hh : h.handle settlementId payload now db = .ok db')
    (hterms : ∀ payload now s, (h.mark payload now s).terms = s.terms) : Settles db db' ∧
      ((h.target? settlementId db = none ∧ db' = db) ∨
        ∃ settlement, h.target? settlementId db = some settlement ∧
          recordTransaction (h.posting settlement) db.ledger = .ok db'.ledger) := by
  rw [handle] at hh
  split at hh
  · rename_i hnone
    cases hh
    exact ⟨Settles.refl db, .inl ⟨by rw [target?, hnone]; rfl, rfl⟩⟩
  · rename_i settlement hsettlement
    split at hh
    · rename_i hstatus
      cases hh
      exact ⟨Settles.refl db, .inl ⟨by simp [target?, hsettlement, hstatus], rfl⟩⟩
    · rename_i hstatus
      rw [commit] at hh
      obtain ⟨ledger, hledger, rfl⟩ := post_eq_ok hh
      rw [foldl_audit] at hledger
      have hmark := Settles.update db settlement.settlementId (h.mark_settlementId payload now)
        (hterms payload now)
      refine ⟨?_, .inr ⟨settlement, by simp [target?, hsettlement, hstatus], hledger⟩⟩
      rw [foldl_audit]
      exact ⟨hmark.payouts, hmark.terms⟩

theorem handle_isOk {h : SettlementHandler}
    (hbalanced : ∀ s, totalDebits (h.posting s).entries = totalCredits (h.posting s).entries)
    (settlementId : String) (payload : TransferPayload) (now : DateTime) (db : Database) :
    ∃ db', h.handle settlementId payload now db = .ok db' := by
  rw [handle]
  split
  · exact ⟨_, rfl⟩
  · rename_i settlement hsettlement
    split
    · exact ⟨_, rfl⟩
    · exact ⟨_, post_of_record (if_neg (not_not.mpr (hbalanced settlement)))⟩

end SettlementHandler

namespace TransferEvent

def settlementHandler : TransferEvent → SettlementHandler
  | success => handleSettlementTransferSuccess
  | failed => handleSettlementTransferFailed
  | reversed => handleSettlementTransferReversed

/-- The handler of an event, after the dispatch on the prefix of the reference. -/
def deliver (e : TransferEvent) (payload : TransferPayload) (now : DateTime) (db : Database) :
    Except AppError Database :=
  match settlementReference payload.reference with
  | some settlementId => e.settlementHandler.handle settlementId payload now db
  | none => e.handler.handle payload now db

/-- What an event does to money in transit. The reversal posts to the bank. -/
def passage : TransferEvent → Passage
  | success | failed => .leave
  | reversed => .drop

theorem posting_adds_transit (e : TransferEvent) (p : CommissionPayoutRequest) :
    Ledger.Adds (e.handler.posting p) "PAYOUTS_IN_TRANSIT" .asset
      (share (some p.companyId) (e.passage.change (-p.amount))) := by
  cases e <;> exact Ledger.adds_pair rfl (by simp) (by simp)
    (by simp [balanceChange, passage, Passage.change])

theorem settlementPosting_adds_transit (e : TransferEvent) (s : MerchantSettlementRequest) :
    Ledger.Adds (e.settlementHandler.posting s) "PAYOUTS_IN_TRANSIT" .asset
      (share (some s.companyId) (e.passage.change (-s.amount))) := by
  cases e <;> exact Ledger.adds_pair rfl (by simp) (by simp)
    (by simp [balanceChange, passage, Passage.change])

theorem settlementHandler_isOk (e : TransferEvent) (settlementId : String)
    (payload : TransferPayload) (now : DateTime) (db : Database) :
    ∃ db', e.settlementHandler.handle settlementId payload now db = .ok db' := by
  refine SettlementHandler.handle_isOk (fun s => ?_) settlementId payload now db
  cases e <;> simp [settlementHandler, handleSettlementTransferSuccess,
    handleSettlementTransferFailed, handleSettlementTransferReversed, settlementPosting,
    totalDebits, totalCredits]

theorem settlementHandler_terms (e : TransferEvent) (payload : TransferPayload) (now : DateTime)
    (s : MerchantSettlementRequest) : (e.settlementHandler.mark payload now s).terms = s.terms := by
  cases e <;> rfl

end TransferEvent

inductive TransferKey
  | payout (payoutId : String)
  | settlement (settlementId : String)
deriving DecidableEq

/-- The company and the amount of a transfer. -/
def Database.transfer? (db : Database) : TransferKey → Option (String × ℚ)
  | .payout id => (db.payoutTerms id).map Prod.snd
  | .settlement id => db.settlementTerms id

def Database.transferAmount (db : Database) (k : TransferKey) : ℚ :=
  ((db.transfer? k).map Prod.snd).getD 0

/-- The amount of a transfer, for the company that makes it. -/
def Database.transferShare (db : Database) (k : TransferKey) : String → ℚ :=
  share ((db.transfer? k).map Prod.fst) (db.transferAmount k)

inductive TransitOperation
  | initiateTransfer (payoutId companyUserId : String) (now : DateTime)
  | transferJob (paystack : Paystack) (payoutId : String)
  | queueEligibleTransfers (now : DateTime)
  | retryTransfer (settlementId superAdminUserId : String) (now : DateTime)
  | settlementTransferJob (paystack : Paystack) (settlementId : String) (now : DateTime)
  | webhook (event : TransferEvent) (payload : TransferPayload) (now : DateTime)

namespace TransitOperation

def apply (db : Database) : TransitOperation → Database
  | initiateTransfer payoutId companyUserId now =>
      (Operation.initiateTransfer payoutId companyUserId now).apply db
  | transferJob paystack payoutId => (Operation.transferJob paystack payoutId).apply db
  | queueEligibleTransfers now => (MerchantSettlementService.queueEligibleTransfers now db).2
  | retryTransfer settlementId superAdminUserId now => committed db Prod.snd
      (MerchantSettlementService.retryTransfer settlementId superAdminUserId now db)
  | settlementTransferJob paystack settlementId now =>
      (MerchantSettlementTransferWorker.process paystack settlementId now db).1
  | webhook event payload now => committed db id (event.deliver payload now db)

/-- The transfer that an operation posts, and where it takes it from. -/
def passage? (db : Database) : TransitOperation → Option (Passage × TransferKey)
  | transferJob paystack payoutId =>
      (TransferWorker.initiated? paystack payoutId db).map fun _ => (.enter, .payout payoutId)
  | settlementTransferJob paystack settlementId _ =>
      (MerchantSettlementTransferWorker.initiated? paystack settlementId db).map fun _ =>
        (.enter, .settlement settlementId)
  | webhook event payload _ =>
      match settlementReference payload.reference with
      | some settlementId => (event.settlementHandler.target? settlementId db).map fun _ =>
          (event.passage, .settlement settlementId)
      | none => (event.target? payload db).map fun _ => (event.passage, .payout payload.reference)
  | _ => none

/-- Without a passage the ledger is left alone, with one its amount is posted. -/
def Posts (db db' : Database) : Option (Passage × TransferKey) → Prop
  | none => db'.ledger = db.ledger
  | some (p, k) => ∃ data companyId amount, db.transfer? k = some (companyId, amount) ∧
      recordTransaction data db.ledger = .ok db'.ledger ∧
      Ledger.Adds data "PAYOUTS_IN_TRANSIT" .asset (share (some companyId) (p.change (-amount)))

variable {db : Database}

theorem initiateTransfer_frame (db : Database) (payoutId companyUserId : String) (now : DateTime) :
    ∃ commissions commissionAllocations commissionPayoutRequests,
      (initiateTransfer payoutId companyUserId now).apply db =
        { db with commissions, commissionAllocations, commissionPayoutRequests } := by
  rcases Operation.initiateTransfer_cases db payoutId companyUserId now with
    ⟨e, -, hdb⟩ | ⟨payout, bank, -, -, -, -, hdb⟩
  · exact ⟨_, _, _, hdb⟩
  · rw [apply, hdb]
    exact startTransfer_frame payout bank companyUserId now db

theorem posts_transferJob (paystack : Paystack) (payoutId : String) :
    Posts db ((transferJob paystack payoutId).apply db)
      ((transferJob paystack payoutId).passage? db) := by
  rw [passage?]
  cases h : TransferWorker.initiated? paystack payoutId db with
  | none => exact TransferWorker.process_not_initiated h
  | some payout =>
    have hfind := (TransferWorker.initiated?_eq_some h).1
    exact ⟨_, payout.companyId, payout.amount,
      by simp [Database.transfer?, Database.payoutTerms, hfind, CommissionPayoutRequest.terms],
      TransferWorker.process_initiated h, TransferWorker.initPosting_adds_transit payout⟩

theorem posts_settlementTransferJob (paystack : Paystack) (settlementId : String)
    (now : DateTime) : Posts db ((settlementTransferJob paystack settlementId now).apply db)
      ((settlementTransferJob paystack settlementId now).passage? db) := by
  rw [passage?]
  cases h : MerchantSettlementTransferWorker.initiated? paystack settlementId db with
  | none => exact MerchantSettlementTransferWorker.process_not_initiated h
  | some settlement =>
    have hfind := (Option.filter_eq_some_iff.mp h).1
    exact ⟨_, settlement.companyId, settlement.amount,
      by simp [Database.transfer?, Database.settlementTerms, hfind, MerchantSettlementRequest.terms],
      MerchantSettlementTransferWorker.process_initiated h,
      MerchantSettlementTransferWorker.initPosting_adds settlement⟩

theorem posts_webhook (event : TransferEvent) (payload : TransferPayload) (now : DateTime) :
    Posts db ((webhook event payload now).apply db) ((webhook event payload now).passage? db) := by
  rw [passage?, apply, TransferEvent.deliver]
  cases hreference : settlementReference payload.reference with
  | none =>
    rcases event.handle_cases payload now db with
      ⟨ht, hdb⟩ | ⟨payout, ledger, ht, hid, hledger, hdb⟩
    · simp only [hdb, ht]
      rfl
    · have hfind := (event.target?_eq_some.mp ht).1
      simp only [hdb, ht]
      exact ⟨_, payout.companyId, payout.amount,
        by simp [Database.transfer?, Database.payoutTerms, hfind, CommissionPayoutRequest.terms],
        hledger, event.posting_adds_transit payout⟩
  | some settlementId =>
    obtain ⟨db', hdb⟩ := event.settlementHandler_isOk settlementId payload now db
    obtain ⟨-, ⟨ht, rfl⟩ | ⟨settlement, ht, hledger⟩⟩ :=
      SettlementHandler.handle_eq_ok hdb event.settlementHandler_terms
    · simp only [hdb, ht]
      rfl
    · have hfind := (Option.filter_eq_some_iff.mp ht).1
      simp only [hdb, ht]
      exact ⟨_, settlement.companyId, settlement.amount,
        by simp [Database.transfer?, Database.settlementTerms, hfind,
          MerchantSettlementRequest.terms],
        hledger, event.settlementPosting_adds_transit settlement⟩

theorem apply_posts (db : Database) (op : TransitOperation) :
    Posts db (op.apply db) (op.passage? db) := by
  cases op with
  | initiateTransfer payoutId companyUserId now =>
    obtain ⟨cs, as, ps, hdb⟩ := initiateTransfer_frame db payoutId companyUserId now
    rw [hdb]
    rfl
  | transferJob paystack payoutId => exact posts_transferJob paystack payoutId
  | queueEligibleTransfers now => exact (Settles.queueEligibleTransfers now db).2
  | retryTransfer settlementId superAdminUserId now =>
    exact committed_rule (P := fun db' => db'.ledger = db.ledger) rfl
      fun a h => (Settles.retryTransfer h).2
  | settlementTransferJob paystack settlementId now =>
    exact posts_settlementTransferJob paystack settlementId now
  | webhook event payload now => exact posts_webhook event payload now

theorem transfer?_settles {db' : Database} (h : Settles db db') (k : TransferKey) :
    db'.transfer? k = db.transfer? k := by
  cases k with
  | payout id => simp only [Database.transfer?, Database.payoutTerms, h.payouts]
  | settlement id => exact h.terms id

/-- An operation on a payout leaves the settlements alone. -/
theorem transfer?_payout {k : TransferKey} {terms : String × ℚ} {op : Operation}
    (hsettlements : (op.apply db).merchantSettlementRequests = db.merchantSettlementRequests)
    (h : db.transfer? k = some terms) : (op.apply db).transfer? k = some terms := by
  cases k with
  | payout id =>
    obtain ⟨t, ht, hterms⟩ := Option.map_eq_some_iff.mp h
    rw [Database.transfer?, op.payoutTerms_apply ht, Option.map_some, hterms]
  | settlement id =>
    rw [← h]
    simp only [Database.transfer?, Database.settlementTerms, hsettlements]

theorem transfer?_apply {k : TransferKey} {terms : String × ℚ} (h : db.transfer? k = some terms)
    (op : TransitOperation) : (op.apply db).transfer? k = some terms := by
  cases op with
  | initiateTransfer payoutId companyUserId now =>
    obtain ⟨cs, as, ps, hdb⟩ := initiateTransfer_frame db payoutId companyUserId now
    exact transfer?_payout (by rw [← apply, hdb]) h
  | transferJob paystack payoutId =>
    refine transfer?_payout ?_ h
    obtain ⟨banks, hdb | ⟨code, ledger, hdb⟩⟩ := TransferWorker.process_cases paystack payoutId db
    · rw [Operation.apply, hdb]
    · rw [Operation.apply, hdb]
      rfl
  | queueEligibleTransfers now =>
    exact (transfer?_settles (Settles.queueEligibleTransfers now db).1 k).trans h
  | retryTransfer settlementId superAdminUserId now =>
    exact committed_rule (P := fun db' => db'.transfer? k = some terms) h
      fun a hretry => (transfer?_settles (Settles.retryTransfer hretry).1 k).trans h
  | settlementTransferJob paystack settlementId now =>
    exact (transfer?_settles
      (MerchantSettlementTransferWorker.process_settles paystack settlementId now db) k).trans h
  | webhook event payload now =>
    rw [apply, TransferEvent.deliver]
    split
    · rename_i settlementId hreference
      refine committed_rule (P := fun db' => db'.transfer? k = some terms) h fun db' hdb => ?_
      exact (transfer?_settles
        (SettlementHandler.handle_eq_ok hdb event.settlementHandler_terms).1 k).trans h
    · have hsettlements : ((Operation.webhook event payload now).apply db).merchantSettlementRequests =
          db.merchantSettlementRequests := by
        rcases event.handle_cases payload now db with ⟨-, hdb⟩ | ⟨payout, ledger, -, -, -, hdb⟩
        · rw [Operation.apply, hdb]
          rfl
        · obtain ⟨cs, as, hframe⟩ := event.written_frame payload now
            ⟨payout, db.allocationsOf payout.payoutId⟩ db
          rw [Operation.apply, hdb, hframe]
          rfl
      exact transfer?_payout hsettlements h

end TransitOperation

/-- The database with the transfers posted as initiated and not yet ended. -/
structure TransitState where
  db : Database
  outstanding : Finset TransferKey := ∅

namespace TransitState

def step (s : TransitState) (op : TransitOperation) : TransitState where
  db := op.apply s.db
  outstanding := (op.passage? s.db).elim s.outstanding fun q => q.1.next q.2 s.outstanding

/-- For every company, the account holds the outstanding amounts, on its credit side. -/
def Tracked (s : TransitState) : Prop :=
  ∀ companyId, s.db.ledger.balance "PAYOUTS_IN_TRANSIT" (some companyId) =
    -∑ k ∈ s.outstanding, s.db.transferShare k companyId

/-- What is initiated and what is reversed is not outstanding, and what succeeds
or fails is, unless its amount is zero. -/
def InOrder (s : TransitState) (op : TransitOperation) : Prop :=
  ∀ q ∈ op.passage? s.db, s.db.transferAmount q.2 = 0 ∨ q.1.InOrder q.2 s.outstanding

instance (s : TransitState) (op : TransitOperation) : Decidable (s.InOrder op) :=
  inferInstanceAs (Decidable (∀ q ∈ op.passage? s.db, _))

/-- What every step keeps: the outstanding transfers exist, and the account is an asset. -/
structure Sound (s : TransitState) : Prop where
  found : ∀ k ∈ s.outstanding, (s.db.transfer? k).isSome
  typed : s.db.ledger.Typed "PAYOUTS_IN_TRANSIT" .asset

variable {s : TransitState}

theorem tracked_iff : s.Tracked ↔ s.db.ledger.companyBalances "PAYOUTS_IN_TRANSIT" =
    ∑ k ∈ s.outstanding, -s.db.transferShare k := by
  rw [Finset.sum_neg_distrib, funext_iff]
  simp only [Ledger.companyBalances, Pi.neg_apply, Finset.sum_apply]
  rfl

theorem transferShare_eq {db : Database} {k : TransferKey} {companyId : String} {amount : ℚ}
    (h : db.transfer? k = some (companyId, amount)) :
    db.transferShare k = share (some companyId) amount := by
  simp [Database.transferShare, Database.transferAmount, h]

theorem sum_transferShare_step (h : s.Sound) (op : TransitOperation) :
    ∑ k ∈ s.outstanding, -(op.apply s.db).transferShare k =
      ∑ k ∈ s.outstanding, -s.db.transferShare k := by
  refine Finset.sum_congr rfl fun k hk => ?_
  obtain ⟨terms, hterms⟩ := Option.isSome_iff_exists.mp (h.found k hk)
  rw [transferShare_eq hterms, transferShare_eq (op.transfer?_apply hterms)]

theorem sound_step (h : s.Sound) (op : TransitOperation) : (s.step op).Sound := by
  have hkept : ∀ k, (s.db.transfer? k).isSome → ((op.apply s.db).transfer? k).isSome := by
    intro k hk
    obtain ⟨terms, hterms⟩ := Option.isSome_iff_exists.mp hk
    rw [op.transfer?_apply hterms]
    rfl
  have hposts := op.apply_posts s.db
  cases hq : op.passage? s.db with
  | none =>
    rw [hq] at hposts
    constructor
    · simp only [step, hq, Option.elim_none]
      exact fun k hk => hkept k (h.found k hk)
    · rw [step, hposts]
      exact h.typed
  | some q =>
    obtain ⟨p, k⟩ := q
    rw [hq] at hposts
    obtain ⟨data, companyId, amount, hk, hrecord, hadds⟩ := hposts
    constructor
    · simp only [step, hq, Option.elim_some]
      intro j hj
      rcases p.mem_next hj with hj | rfl
      · exact hkept j (h.found j hj)
      · exact hkept j (by rw [hk]; rfl)
    · exact (Ledger.companyBalances_record hrecord h.typed hadds).1

theorem tracked_step_iff (h : s.Sound) (htracked : s.Tracked) (op : TransitOperation) :
    (s.step op).Tracked ↔ s.InOrder op := by
  have hposts := op.apply_posts s.db
  have hsum := sum_transferShare_step h op
  rw [tracked_iff] at htracked ⊢
  cases hq : op.passage? s.db with
  | none =>
    rw [hq] at hposts
    simp [InOrder, step, hq, hsum, ← htracked, show (op.apply s.db).ledger = s.db.ledger from hposts]
  | some q =>
    obtain ⟨p, k⟩ := q
    rw [hq] at hposts
    obtain ⟨data, companyId, amount, hk, hrecord, hadds⟩ := hposts
    have hk' : -(op.apply s.db).transferShare k = share (some companyId) (-amount) := by
      rw [transferShare_eq (op.transfer?_apply hk)]
      exact (share_change (some companyId) amount .leave).symm
    have hbalance := (Ledger.companyBalances_record hrecord h.typed hadds).2
    rw [htracked, ← hsum, share_change, ← hk'] at hbalance
    have hzero : -(op.apply s.db).transferShare k = 0 ↔ s.db.transferAmount k = 0 := by
      rw [hk', share_eq_zero_iff]
      simp [Database.transferAmount, hk]
    simp only [step, hq, Option.elim_some, InOrder, Option.mem_some_iff, forall_eq']
    rw [hbalance, Passage.sum_next_iff, hzero]

end TransitState

/-- The account of money in transit tracks the outstanding transfers through a
run exactly when every transfer is initiated, ended and reversed in order. -/
theorem transit_tracked_iff {s : TransitState} (h : s.Sound) (htracked : s.Tracked)
    (ops : List TransitOperation) :
    Transition.Throughout TransitState.step TransitState.Tracked s ops ↔
      Transition.Along TransitState.step TransitState.InOrder s ops :=
  Transition.throughout_iff_along (I := TransitState.Sound)
    (fun _ op hs ht => TransitState.tracked_step_iff hs ht op)
    (fun _ op hs _ => TransitState.sound_step hs op) h htracked

/-- A payout of 60 to transfer, and an approved settlement of 40. -/
def dueTransfers : TransitState where
  db :=
    { inTransit with
      companyBankAccounts := ⟨[{ accountId := "account", companyId := "co", bankCode := "058"
                                 accountName := "Company", accountNumber := "0123456789"
                                 isPrimary := true, isVerified := true }], by decide⟩
      merchantSettlementRequests := ⟨[{ settlementId := "s", companyId := "co", amount := 40
                                        status := .approved
                                        companyBankAccountId := some "account" }], by decide⟩ }

theorem dueTransfers_sound : dueTransfers.Sound ∧ dueTransfers.Tracked := by
  have hledger : dueTransfers.db.ledger.accounts = [] := by decide +kernel
  have hnone : dueTransfers.outstanding = ∅ := rfl
  refine ⟨⟨by simp [hnone], by simp [Ledger.Typed, hledger]⟩, fun companyId => ?_⟩
  simp [Ledger.balance, hledger, hnone]

theorem ended_transfers_tracked : Transition.Throughout TransitState.step TransitState.Tracked
    dueTransfers [.transferJob acceptingPaystack "p", .webhook .success { reference := "p" } 1,
      .queueEligibleTransfers 2, .settlementTransferJob acceptingPaystack "s" 3,
      .webhook .failed { reference := "MST-s" } 4] :=
  (transit_tracked_iff dueTransfers_sound.1 dueTransfers_sound.2 _).mpr
    (by decide +kernel)

/-- The reversal of a transfer that is still in transit leaves its amount in the account. -/
theorem reversal_in_transit_untracked :
    ¬ Transition.Throughout TransitState.step TransitState.Tracked dueTransfers
      [.transferJob acceptingPaystack "p", .webhook .reversed { reference := "p" } 1] := by
  intro h
  have hco := h.last "co"
  revert hco
  decide +kernel

end InstalFlow
