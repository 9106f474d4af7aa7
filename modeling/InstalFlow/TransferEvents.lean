import InstalFlow.CommissionMoves
import InstalFlow.TransferWorker

/-!
# What the transfer operations do

Each handler runs one of the loops over the payout's allocations, and its
posting always balances, so once it gets past its guard it commits. Starting a
transfer runs the loop that re-reserves. All of them write the row of their own
payout and no other.
-/

namespace InstalFlow
open Relational Accounting

inductive TransferEvent
  | success | failed | reversed
deriving DecidableEq

namespace TransferEvent

def handler : TransferEvent → TransferHandler
  | success => handleTransferSuccess
  | failed => handleTransferFailed
  | reversed => handleTransferReversed

def turn : TransferEvent → Turn
  | success => .settle
  | failed => .release
  | reversed => .reverse

@[simp] theorem handler_moves (e : TransferEvent) : e.handler.moves = e.turn.source := by
  cases e <;> rfl

@[simp] theorem handler_move (e : TransferEvent) : e.handler.move = e.turn.body := by
  cases e <;> rfl

@[simp] theorem mark_status (e : TransferEvent) (payload : TransferPayload) (now : DateTime)
    (p : CommissionPayoutRequest) : (e.handler.mark payload now p).status = e.handler.target := by
  cases e <;> rfl

@[simp] theorem mark_amount (e : TransferEvent) (payload : TransferPayload) (now : DateTime)
    (p : CommissionPayoutRequest) : (e.handler.mark payload now p).amount = p.amount := by
  cases e <;> rfl

theorem recordTransaction_posting (e : TransferEvent) (p : CommissionPayoutRequest) (l : Ledger) :
    ∃ l', LedgerService.recordTransaction (e.handler.posting p) l = .ok l' := by
  have hbalanced : LedgerService.totalDebits (e.handler.posting p).entries =
      LedgerService.totalCredits (e.handler.posting p).entries := by
    cases e <;> simp [handler, handleTransferSuccess, handleTransferFailed, handleTransferReversed,
      transferPosting, LedgerService.totalDebits, LedgerService.totalCredits]
  exact ⟨_, if_neg (not_not.mpr hbalanced)⟩

end TransferEvent

section payouts
variable {db : Database} {payoutId : String}

theorem find?_updatePayout (db : Database) (id k : String)
    (f : CommissionPayoutRequest → CommissionPayoutRequest) (hf : ∀ p, (f p).payoutId = p.payoutId) :
    (CommissionService.updatePayout db id f hf).commissionPayoutRequests.find? k =
      if k = id then (db.commissionPayoutRequests.find? k).map f
      else db.commissionPayoutRequests.find? k :=
  Table.find?_update db.commissionPayoutRequests id k f hf

def TransferEvent.written (e : TransferEvent) (payload : TransferPayload) (now : DateTime)
    (p : LoadedPayout) (db : Database) : Database :=
  (withStatus e.turn.source p.commissionAllocations).foldl e.turn.body
    (CommissionService.updatePayout db p.payout.payoutId (e.handler.mark payload now)
      (e.handler.mark_payoutId payload now))

theorem TransferEvent.written_frame (e : TransferEvent) (payload : TransferPayload) (now : DateTime)
    (p : LoadedPayout) (db : Database) : ∃ commissions commissionAllocations,
      e.written payload now p db = { CommissionService.updatePayout db p.payout.payoutId
        (e.handler.mark payload now) (e.handler.mark_payoutId payload now) with
          commissions, commissionAllocations } :=
  e.turn.foldl_frame _ _

theorem TransferEvent.written_find? (e : TransferEvent) (payload : TransferPayload) (now : DateTime)
    (p : LoadedPayout) (db : Database) (k : String) :
    (e.written payload now p db).commissionPayoutRequests.find? k =
      if k = p.payout.payoutId then
        (db.commissionPayoutRequests.find? k).map (e.handler.mark payload now)
      else db.commissionPayoutRequests.find? k := by
  obtain ⟨cs, as, hframe⟩ := e.written_frame payload now p db
  rw [hframe]
  exact find?_updatePayout db p.payout.payoutId k _ (e.handler.mark_payoutId payload now)

theorem TransferEvent.commit_eq_ok (e : TransferEvent) (payload : TransferPayload)
    (now : DateTime) (p : LoadedPayout) (db : Database) : ∃ ledger,
      LedgerService.recordTransaction (e.handler.posting p.payout) db.ledger = .ok ledger ∧
      e.handler.commit payload now p db = .ok { e.written payload now p db with ledger } := by
  obtain ⟨ledger, hledger⟩ := e.recordTransaction_posting p.payout db.ledger
  obtain ⟨cs, as, hframe⟩ := e.written_frame payload now p db
  have hold : (e.written payload now p db).ledger = db.ledger := by rw [hframe]; rfl
  refine ⟨ledger, hledger, ?_⟩
  rw [← hold] at hledger
  simp only [TransferHandler.commit, e.handler_moves, e.handler_move]
  exact (congrArg _ rfl).trans (by rw [post, ← TransferEvent.written, hledger])

theorem TransferEvent.handle_skips (e : TransferEvent) {payload : TransferPayload} {now : DateTime}
    (h : ∀ payout, db.commissionPayoutRequests.find? payload.reference = some payout →
      payout.status = e.handler.target) : e.handler.handle payload now db = .ok db := by
  rw [TransferHandler.handle, loadPayout]
  cases hp : db.commissionPayoutRequests.find? payload.reference with
  | none => rfl
  | some payout => simp [h payout hp]

theorem TransferEvent.handle_commits (e : TransferEvent) {payload : TransferPayload}
    {now : DateTime} {payout : CommissionPayoutRequest}
    (hp : db.commissionPayoutRequests.find? payload.reference = some payout)
    (hs : payout.status ≠ e.handler.target) :
    e.handler.handle payload now db =
      e.handler.commit payload now ⟨payout, db.allocationsOf payload.reference⟩ db := by
  simp [TransferHandler.handle, loadPayout, hp, hs]

def TransferEvent.target? (e : TransferEvent) (payload : TransferPayload) (db : Database) :
    Option CommissionPayoutRequest :=
  (db.commissionPayoutRequests.find? payload.reference).filter
    (fun p => p.status ≠ e.handler.target)

def TransferEvent.moves (e : TransferEvent) (payload : TransferPayload) (db : Database) :
    List (String × Move ℚ) :=
  match e.target? payload db with
  | none => []
  | some payout => e.turn.moves (withStatus e.turn.source (db.allocationsOf payout.payoutId))

theorem TransferEvent.target?_eq_some (e : TransferEvent) {payload : TransferPayload}
    {payout : CommissionPayoutRequest} : e.target? payload db = some payout ↔
      db.commissionPayoutRequests.find? payload.reference = some payout ∧
        payout.status ≠ e.handler.target := by
  simp [TransferEvent.target?, Option.filter_eq_some_iff]

theorem TransferEvent.handle_cases (e : TransferEvent) (payload : TransferPayload) (now : DateTime)
    (db : Database) : (e.target? payload db = none ∧ e.handler.handle payload now db = .ok db) ∨
      ∃ payout ledger, e.target? payload db = some payout ∧ payout.payoutId = payload.reference ∧
        LedgerService.recordTransaction (e.handler.posting payout) db.ledger = .ok ledger ∧
        e.handler.handle payload now db = .ok { e.written payload now
          ⟨payout, db.allocationsOf payout.payoutId⟩ db with ledger } := by
  cases ht : e.target? payload db with
  | none =>
    refine .inl ⟨rfl, e.handle_skips fun payout hp => ?_⟩
    by_contra hs
    rw [e.target?_eq_some.mpr ⟨hp, hs⟩] at ht
    cases ht
  | some payout =>
    obtain ⟨hp, hs⟩ := e.target?_eq_some.mp ht
    have hid := Table.find?_key hp
    obtain ⟨ledger, hledger, hcommit⟩ := e.commit_eq_ok payload now
      ⟨payout, db.allocationsOf payout.payoutId⟩ db
    refine .inr ⟨payout, ledger, rfl, hid, hledger, ?_⟩
    rw [e.handle_commits hp hs, ← hid, hcommit]

theorem TransferEvent.handle_isOk (e : TransferEvent) (payload : TransferPayload) (now : DateTime)
    (db : Database) : ∃ db', e.handler.handle payload now db = .ok db' := by
  rcases e.handle_cases payload now db with ⟨-, h⟩ | ⟨payout, ledger, -, -, -, h⟩
  · exact ⟨_, h⟩
  · exact ⟨_, h⟩

theorem TransferEvent.written_applies (e : TransferEvent) (payload : TransferPayload)
    (now : DateTime) (payout : CommissionPayoutRequest) (db : Database) :
    Applies db (e.written payload now ⟨payout, db.allocationsOf payout.payoutId⟩ db)
      (e.turn.moves (withStatus e.turn.source (db.allocationsOf payout.payoutId))) := by
  let marked := CommissionService.updatePayout db payout.payoutId (e.handler.mark payload now)
    (e.handler.mark_payoutId payload now)
  have hloop : Applies marked _ _ := e.turn.loop_applies payout.payoutId marked
  exact Applies.refl_trans marked rfl rfl hloop

theorem TransferEvent.handle_applies (e : TransferEvent) {payload : TransferPayload}
    {now : DateTime} {db' : Database} (h : e.handler.handle payload now db = .ok db') :
    Applies db db' (e.moves payload db) := by
  rcases e.handle_cases payload now db with ⟨ht, hdb⟩ | ⟨payout, ledger, ht, -, -, hdb⟩
  · rw [hdb] at h
    cases h
    rw [TransferEvent.moves, ht]
    exact Applies.refl rfl rfl
  · rw [hdb] at h
    cases h
    rw [TransferEvent.moves, ht]
    exact (e.written_applies payload now payout db).trans_refl rfl rfl

end payouts

namespace TransferWorker
variable {db db' : Database}

theorem resolveRecipient_eq_ok {paystack : Paystack} {bank : MarketerBankAccount}
    {code : Option String} (h : resolveRecipient paystack bank db = .ok (code, db')) :
    ∃ marketerBankAccounts, db' = { db with marketerBankAccounts } := by
  rw [resolveRecipient] at h
  split at h
  · cases h
    exact ⟨_, rfl⟩
  · split at h
    · cases h
    · cases h
      exact ⟨_, rfl⟩

theorem recordTransferInit_eq_ok {payout : CommissionPayoutRequest} {code : Option String}
    (h : recordTransferInit payout code db = .ok db') : ∃ ledger, db' =
      { CommissionService.updatePayout db payout.payoutId fun p =>
          { p with transferCode := code.or p.transferCode } with ledger } := by
  rw [recordTransferInit, post] at h
  split at h
  · cases h
  · cases h
    exact ⟨_, rfl⟩

theorem process_cases (paystack : Paystack) (payoutId : String) (db : Database) :
    ∃ marketerBankAccounts, (process paystack payoutId db).1 = { db with marketerBankAccounts } ∨
      ∃ (code : Option String) (ledger : Ledger), (process paystack payoutId db).1 =
        { CommissionService.updatePayout db payoutId fun p =>
            { p with transferCode := code.or p.transferCode } with
          marketerBankAccounts, ledger } := by
  rw [process]
  split
  · exact ⟨db.marketerBankAccounts, .inl rfl⟩
  · rename_i payout hpayout
    obtain rfl := Table.find?_key hpayout
    split
    · exact ⟨db.marketerBankAccounts, .inl rfl⟩
    · split
      · exact ⟨db.marketerBankAccounts, .inl rfl⟩
      · split
        · exact ⟨db.marketerBankAccounts, .inl rfl⟩
        · rename_i hrecipient
          obtain ⟨banks, rfl⟩ := resolveRecipient_eq_ok hrecipient
          refine ⟨banks, ?_⟩
          split
          · exact .inl rfl
          · split
            · exact .inl rfl
            · split
              · exact .inl rfl
              · rename_i hinit
                obtain ⟨ledger, rfl⟩ := recordTransferInit_eq_ok hinit
                exact .inr ⟨_, ledger, rfl⟩

/-- The listener acts on the last failed attempt only, and then on any status. -/
theorem onFailed_eq_ok {job : FailedJob} {message : String} {now : DateTime}
    (h : onFailed job message now db = .ok db') :
    (job.exhausted = false ∧ db' = db) ∨
      ∃ payout, job.exhausted = true ∧
        db.commissionPayoutRequests.find? job.payoutId = some payout ∧
        db' = CommissionService.updatePayout db job.payoutId fun p =>
          { p with
            status := .transferFailed
            transferFailedAt := some now
            transferFailReason := some message } := by
  rw [onFailed] at h
  split at h
  · rename_i hexhausted
    split at h
    · cases h
    · rename_i payout hpayout
      cases h
      exact .inr ⟨payout, hexhausted, hpayout, rfl⟩
  · rename_i hexhausted
    cases h
    exact .inl ⟨by simpa using hexhausted, rfl⟩

end TransferWorker

namespace CommissionService
section approve
variable {payoutId : String} {now : DateTime} {db db' : Database}

theorem adminApprovePayout_eq_ok {adminId : String}
    (h : adminApprovePayout payoutId adminId now db = .ok db') : ∃ payout,
      db.commissionPayoutRequests.find? payoutId = some payout ∧
      payout.status = .pendingAdminApproval ∧
      db' = updatePayout db payoutId fun p =>
        { p with
          status := .pendingCompanyApproval
          adminApprovedById := some adminId
          adminApprovedAt := some now } := by
  rw [adminApprovePayout] at h
  split at h
  · cases h
  · split at h
    · cases h
    · split at h
      · cases h
      · rename_i payout hpayout
        split at h
        · cases h
        · rename_i hstatus
          split at h
          · cases h
          · cases h
            exact ⟨payout, hpayout, not_not.mp hstatus, rfl⟩

theorem companyApprovePayout_eq_ok {companyUserId : String}
    (h : companyApprovePayout payoutId companyUserId now db = .ok db') : ∃ payout,
      db.commissionPayoutRequests.find? payoutId = some payout ∧
      payout.status = .pendingCompanyApproval ∧
      db' = updatePayout db payoutId fun p =>
        { p with
          status := .approved
          companyApprovedById := some companyUserId
          companyApprovedAt := some now } := by
  rw [companyApprovePayout] at h
  split at h
  · cases h
  · split at h
    · cases h
    · split at h
      · cases h
      · rename_i payout hpayout
        split at h
        · cases h
        · split at h
          · cases h
          · rename_i hstatus
            cases h
            exact ⟨payout, hpayout, not_not.mp hstatus, rfl⟩

end approve

section initiate
variable {payout : CommissionPayoutRequest} {bank : MarketerBankAccount}

def startMoves (payout : CommissionPayoutRequest) (db : Database) : List (String × Move ℚ) :=
  if payout.status = .transferFailed then
    Turn.reReserve.moves (withStatus .released (db.allocationsOf payout.payoutId))
  else []

theorem reReserve_applies (payoutId : String) (db : Database) :
    Applies db (reReserve payoutId db)
      (Turn.reReserve.moves (withStatus .released (db.allocationsOf payoutId))) :=
  (Turn.reReserve.loop_applies payoutId db).trans_refl rfl rfl

theorem startTransfer_applies (payout : CommissionPayoutRequest) (bank : MarketerBankAccount)
    (companyUserId : String) (now : DateTime) (db : Database) :
    Applies db (startTransfer payout bank companyUserId now db) (startMoves payout db) := by
  rw [startTransfer, startMoves]
  by_cases hf : payout.status = .transferFailed
  · have hr : payout.status ≠ .transferReversed := by rw [hf]; decide
    simp only [hf, if_true, reduceCtorEq, if_false]
    exact (reReserve_applies payout.payoutId db).trans_refl rfl rfl
  · by_cases hr : payout.status = .transferReversed
    · simp only [hr, reduceCtorEq, if_false, if_true]
      exact Applies.refl rfl rfl
    · simp only [hf, hr, if_false]
      exact Applies.refl rfl rfl

theorem transferTarget_eq_ok {payoutId companyUserId : String} {db : Database}
    (h : transferTarget payoutId companyUserId db = .ok (payout, bank)) :
    db.commissionPayoutRequests.find? payoutId = some payout ∧ payout.status.initiatable := by
  rw [transferTarget] at h
  split at h
  · cases h
  · split at h
    · cases h
    · split at h
      · cases h
      · rename_i hpayout
        split at h
        · cases h
        · split at h
          · cases h
          · rename_i hs
            split at h
            · cases h
            · cases h
              exact ⟨hpayout, not_not.mp hs⟩

end initiate
end CommissionService
end InstalFlow
