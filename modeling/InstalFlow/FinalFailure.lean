import InstalFlow.PaidPayouts

/-!
# The two final failures of a transfer

A transfer fails for good when Paystack reports `transfer.failed`, or when its
job has used up its attempts. The webhook releases the reserved allocations and
posts the amount back, the listener of the job only marks the payout.
-/

namespace InstalFlow
open Relational Accounting CommissionService Transition

namespace LedgerService

theorem balance_recordTransaction_pair {data : LedgerTransaction} {l l' : Ledger}
    {debit credit : LedgerEntry} (h : recordTransaction data l = .ok l')
    (hdata : data.entries = [debit, credit]) : ∃ type type', ∀ name company,
      l'.balance name company = l.balance name company +
        (if name = debit.accountName ∧ company = data.companyId then
          balanceChange type debit.debit debit.credit else 0) +
        (if name = credit.accountName ∧ company = data.companyId then
          balanceChange type' credit.debit credit.credit else 0) := by
  obtain ⟨-, rfl⟩ := recordTransaction_eq_ok h
  let upserted := upsertTransaction l data.reference data.description
  obtain ⟨type, -, hdebit⟩ := balance_postEntry data.reference data.companyId upserted 0 debit
  obtain ⟨type', -, hcredit⟩ := balance_postEntry data.reference data.companyId
    (postEntry data.reference data.companyId upserted 0 debit) 1 credit
  refine ⟨type, type', fun name company => ?_⟩
  have hupserted : upserted.balance name company = l.balance name company := by
    simp [upserted, Ledger.balance]
  rw [hdata, postEntries, postEntries, postEntries, hcredit, hdebit, hupserted]

end LedgerService

/-- Two databases that agree on a payout's status, on all allocation statuses, on
the reservations and statuses of all commissions and on all ledger balances. -/
structure SameEffect (payoutId : String) (db₁ db₂ : Database) : Prop where
  payout : (db₁.commissionPayoutRequests.find? payoutId).map CommissionPayoutRequest.status =
    (db₂.commissionPayoutRequests.find? payoutId).map CommissionPayoutRequest.status
  allocations : ∀ key,
    (db₁.commissionAllocations.find? key).map CommissionAllocation.status =
      (db₂.commissionAllocations.find? key).map CommissionAllocation.status
  commissions : ∀ id, (db₁.commissions.find? id).map (fun c => (c.reservedAmount, c.status)) =
    (db₂.commissions.find? id).map (fun c => (c.reservedAmount, c.status))
  balances : ∀ name companyId, db₁.ledger.balance name companyId = db₂.ledger.balance name companyId

section failure
variable {db : Database} {payout : CommissionPayoutRequest} {payload : TransferPayload}
  {job : TransferWorker.FailedJob} {message : String} {now now' : DateTime}

theorem handleTransferFailed_effect (hs : Sound db) (now : DateTime)
    (hp : db.commissionPayoutRequests.find? payload.reference = some payout)
    (ht : payout.status = .transferInitiated) :
    ∃ db', handleTransferFailed.handle payload now db = .ok db' ∧
      (db'.commissionPayoutRequests.find? payload.reference).map CommissionPayoutRequest.status =
        some .transferFailed ∧
      (∀ key, db'.commissionAllocations.find? key = (db.commissionAllocations.find? key).map
        (fun a => if a.payoutId = payload.reference ∧ a.status = .reserved then
          { a with status := .released } else a)) ∧
      Applies db db' (Turn.release.moves (withStatus .reserved (db.allocationsOf payload.reference))) ∧
      ∃ type type', ∀ name company, db'.ledger.balance name company =
        db.ledger.balance name company +
          (if name = "PAYOUTS_IN_TRANSIT" ∧ company = some payout.companyId then
            LedgerService.balanceChange type payout.amount 0 else 0) +
          (if name = "COMMISSION_PAYABLE" ∧ company = some payout.companyId then
            LedgerService.balanceChange type' 0 payout.amount else 0) := by
  have hid := Table.find?_key hp
  have htarget : TransferEvent.failed.target? payload db = some payout :=
    (TransferEvent.failed.target?_eq_some).mpr ⟨hp, by rw [ht]; decide⟩
  rcases TransferEvent.failed.handle_cases payload now db with
    ⟨hnone, -⟩ | ⟨current, ledger, hcurrent, -, hledger, hdb⟩
  · rw [htarget] at hnone
    cases hnone
  · cases htarget.symm.trans hcurrent
    refine ⟨_, hdb, ?_, ?_, ?_, ?_⟩
    · refine (congrArg (Option.map CommissionPayoutRequest.status)
        (TransferEvent.failed.written_find? payload now
          ⟨payout, db.allocationsOf payout.payoutId⟩ db payload.reference)).trans ?_
      simp [hid, hp, TransferEvent.handler, handleTransferFailed]
    · intro key
      rw [← hid]
      exact Turn.release.loop_find? hs (updatePayout db payout.payoutId
        (handleTransferFailed.mark payload now) (handleTransferFailed.mark_payoutId payload now))
        rfl payout.payoutId key
    · rw [← hid]
      exact (TransferEvent.failed.written_applies payload now payout db).trans_refl rfl rfl
    · exact LedgerService.balance_recordTransaction_pair hledger rfl

theorem onFailed_effect (message : String) (now : DateTime)
    (hp : db.commissionPayoutRequests.find? job.payoutId = some payout)
    (hexhausted : job.exhausted = true) :
    ∃ db', TransferWorker.onFailed job message now db = .ok db' ∧
      (db'.commissionPayoutRequests.find? job.payoutId).map CommissionPayoutRequest.status =
        some .transferFailed ∧
      db'.commissionAllocations = db.commissionAllocations ∧ db'.commissions = db.commissions ∧
      db'.ledger = db.ledger := by
  simp only [TransferWorker.onFailed, hexhausted, if_true, hp]
  refine ⟨_, rfl, ?_, rfl, rfl, rfl⟩
  rw [find?_updatePayout, if_pos rfl, hp]
  rfl

/-- The two leave the same behind exactly when there was nothing to release and
nothing to post. -/
theorem sameEffect_iff (hs : Sound db)
    (hp : db.commissionPayoutRequests.find? payload.reference = some payout)
    (ht : payout.status = .transferInitiated) (hjob : job.payoutId = payload.reference)
    (hexhausted : job.exhausted = true) :
    SameEffect payload.reference ((Operation.webhook .failed payload now).apply db)
        ((Operation.transferJobFailed job message now').apply db) ↔
      (∀ a ∈ db.commissionAllocations.rows, a.payoutId = payload.reference →
        a.status ≠ .reserved) ∧ payout.amount = 0 := by
  obtain ⟨db₁, h₁, hstatus₁, hallocations₁, happlies₁, type, type', hbalance₁⟩ :=
    handleTransferFailed_effect hs now hp ht
  obtain ⟨db₂, h₂, hstatus₂, hallocations₂, hcommissions₂, hledger₂⟩ :=
    onFailed_effect message now' (hjob ▸ hp) hexhausted
  have hdb₁ : (Operation.webhook .failed payload now).apply db = db₁ := by
    simp only [Operation.apply, TransferEvent.handler, h₁, committed_ok, id]
  have hdb₂ : (Operation.transferJobFailed job message now').apply db = db₂ := by
    simp only [Operation.apply, h₂, committed_ok, id]
  rw [hdb₁, hdb₂]
  constructor
  · intro h
    constructor
    · intro a ha hpayout hreserved
      have hkey := h.allocations a.key
      rw [hallocations₁, hallocations₂, Table.find?_of_mem ha, Option.map_some,
        if_pos ⟨hpayout, hreserved⟩] at hkey
      simp [hreserved] at hkey
    · have hbalance := h.balances "PAYOUTS_IN_TRANSIT" (some payout.companyId)
      rw [hbalance₁, hledger₂] at hbalance
      have hzero : LedgerService.balanceChange type payout.amount 0 = 0 := by
        simpa using hbalance
      exact (LedgerService.balanceChange_eq_zero_iff type payout.amount 0).mp hzero
  · intro hx
    obtain ⟨hnone, hzero⟩ := hx
    have hempty : withStatus .reserved (db.allocationsOf payload.reference) = [] := by
      refine List.filter_eq_nil_iff.mpr fun j hj => ?_
      obtain ⟨hcur, hpayout⟩ := current_of_mem_allocationsOf hj
      simpa using hnone j.allocation (Table.mem_of_find? hcur.allocation) hpayout
    rw [hempty] at happlies₁
    refine ⟨?_, fun key => ?_, fun id => ?_, fun name companyId => ?_⟩
    · rw [hstatus₁, ← hjob, hstatus₂]
    · rw [hallocations₁, hallocations₂]
      refine congrArg _ ?_
      refine (Option.map_congr fun a ha => ?_).trans Option.map_id'
      exact if_neg fun hr => hnone a (Table.mem_of_find? ha) hr.1 hr.2
    · have hrow := (happlies₁ id).row
      rw [hrow, hcommissions₂]
      simp [Turn.moves]
    · have hchange : ∀ type, LedgerService.balanceChange type (0 : ℚ) 0 = 0 :=
        fun type => (LedgerService.balanceChange_eq_zero_iff type 0 0).mpr rfl
      rw [hbalance₁, hledger₂, hzero]
      simp [hchange]

end failure

theorem sound_inTransit : Sound inTransit :=
  Operation.sound_run (Sound.of_no_allocations rfl) _

theorem sameEffect_iff_inTransit : ∃ payout,
    inTransit.commissionPayoutRequests.find? "p" = some payout ∧
    (SameEffect "p" ((webhookFor .failed "p").apply inTransit)
        ((Operation.transferJobFailed ⟨"p", 3, some 3⟩ "timeout" 2).apply inTransit) ↔
      (∀ a ∈ inTransit.commissionAllocations.rows, a.payoutId = "p" → a.status ≠ .reserved) ∧
        payout.amount = 0) := by
  have hstatus : (inTransit.commissionPayoutRequests.find? "p").map
      CommissionPayoutRequest.status = some .transferInitiated := by decide +kernel
  obtain ⟨payout, hp, ht⟩ := Option.map_eq_some_iff.mp hstatus
  let payload : TransferPayload := { reference := "p" }
  have hp' : inTransit.commissionPayoutRequests.find? payload.reference = some payout := hp
  exact ⟨payout, hp, sameEffect_iff sound_inTransit hp' ht rfl rfl⟩

/-- After the last failed attempt the allocation is still RESERVED, after the
webhook it is RELEASED. -/
theorem not_sameEffect_inTransit : ¬ SameEffect "p" ((webhookFor .failed "p").apply inTransit)
    ((Operation.transferJobFailed ⟨"p", 3, some 3⟩ "timeout" 2).apply inTransit) := by
  intro h
  have hkey := h.allocations ("p", "c")
  revert hkey
  decide +kernel

end InstalFlow
