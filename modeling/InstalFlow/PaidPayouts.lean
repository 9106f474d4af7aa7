import InstalFlow.PayoutRun

/-!
# Paid payouts

How the operations move one payout: its status, and the allocations it was
created with. Only the transfer handlers and the re-reservation move those, each
from one status to another, and they go on adding up to the payout's amount.
-/

namespace InstalFlow
open Relational Accounting CommissionService Transition

section loop
variable {db : Database}

theorem Turn.loop_find? (t : Turn) (hs : Sound db) (db₁ : Database)
    (h : db₁.commissionAllocations = db.commissionAllocations) (payoutId : String)
    (key : String × String) :
    ((withStatus t.source (db.allocationsOf payoutId)).foldl t.body
        db₁).commissionAllocations.find? key =
      (db.commissionAllocations.find? key).map (fun a =>
        if a.payoutId = payoutId ∧ a.status = t.source then { a with status := t.target } else a) := by
  rw [t.foldl_find?, h]
  refine Option.map_congr fun a ha => if_congr ?_ rfl rfl
  rw [List.mem_map]
  constructor
  · intro hx
    obtain ⟨j, hj, rfl⟩ := hx
    obtain ⟨hmem, hstatus⟩ := mem_withStatus.mp hj
    obtain ⟨hcur, hp⟩ := current_of_mem_allocationsOf hmem
    cases hcur.allocation.symm.trans ha
    exact ⟨hp, hstatus⟩
  · intro hx
    obtain ⟨rfl, hstatus⟩ := hx
    have hrow := Table.mem_of_find? ha
    obtain ⟨c, hc⟩ := Option.isSome_iff_exists.mp (hs.commission a hrow)
    refine ⟨⟨a, c⟩, mem_withStatus.mpr ⟨?_, hstatus⟩, Table.find?_key ha⟩
    exact List.mem_filterMap.mpr ⟨a, List.mem_filter.mpr ⟨hrow, by simp⟩, by rw [hc]; rfl⟩

end loop

def Database.allocatedTo (db : Database) (payoutId : String) : ℚ :=
  db.commissionAllocations.sumWhere (fun a => a.payoutId = payoutId)
    CommissionAllocation.allocatedAmount

theorem Turn.foldl_allocatedTo (t : Turn) (db : Database) (js : List JoinedAllocation)
    (payoutId : String) : (js.foldl t.body db).allocatedTo payoutId = db.allocatedTo payoutId := by
  induction js generalizing db with
  | nil => rfl
  | cons j js ih =>
    rw [List.foldl_cons, ih, Database.allocatedTo, t.body_commissionAllocations]
    exact Table.sumWhere_updateMany _ _ (fun a : CommissionAllocation =>
      { a with status := t.target }) (fun _ => rfl) (fun _ => rfl) (fun _ => rfl)

theorem reservePlan_allocatedTo {payoutId id : String} {db db' : Database}
    {es : List AllocationEntry} (h : reservePlan payoutId db es = .ok db') (hne : id ≠ payoutId) :
    db'.allocatedTo id = db.allocatedTo id := by
  have hnew : ∀ a ∈ es.map (AllocationEntry.row payoutId), ¬ a.payoutId = id := by
    intro a ha
    obtain ⟨e, -, rfl⟩ := List.mem_map.mp ha
    exact fun he => hne he.symm
  have hnil : (es.map (AllocationEntry.row payoutId)).filter (fun a => a.payoutId = id) = [] :=
    List.filter_eq_nil_iff.mpr (by simpa using hnew)
  simp only [Database.allocatedTo, Table.sumWhere, (reservePlan_frame h).2, List.filter_append,
    hnil, List.append_nil]

theorem reservePlan_find? {payoutId : String} {db db' : Database} {es : List AllocationEntry}
    (h : reservePlan payoutId db es = .ok db') {key : String × String} (hne : key.1 ≠ payoutId) :
    db'.commissionAllocations.find? key = db.commissionAllocations.find? key := by
  have hnone : (es.map (AllocationEntry.row payoutId)).find? (fun a => a.key = key) = none := by
    rw [List.find?_eq_none]
    intro a ha
    obtain ⟨e, -, rfl⟩ := List.mem_map.mp ha
    simpa using fun he => hne (congrArg Prod.fst he).symm
  rw [Table.find?, (reservePlan_frame h).2, List.find?_append, hnone, Option.or_none]
  rfl

namespace Operation

/-- The loop that an operation runs over the allocations of a payout. -/
def loop (db : Database) (payoutId : String) : Operation → Option Turn
  | webhook e payload _ =>
      if payload.reference = payoutId ∧ (e.target? payload db).isSome then some e.turn else none
  | initiateTransfer id companyUserId _ =>
      match transferTarget id companyUserId db with
      | .error _ => none
      | .ok (payout, _) =>
        if id = payoutId ∧ payout.status = .transferFailed then some .reReserve else none
  | _ => none

def statusAfterLoop (db : Database) (payoutId : String) (op : Operation)
    (s : CommissionAllocationStatus) : CommissionAllocationStatus :=
  match op.loop db payoutId with
  | none => s
  | some t => if s = t.source then t.target else s

section payout
variable {db : Database} {payoutId : String} {payout : CommissionPayoutRequest}

theorem initiateTransfer_cases (db : Database) (id companyUserId : String) (now : DateTime) :
    (∃ e, transferTarget id companyUserId db = .error e ∧
        (initiateTransfer id companyUserId now).apply db = db) ∨
      ∃ payout bank, transferTarget id companyUserId db = .ok (payout, bank) ∧
        payout.payoutId = id ∧ db.commissionPayoutRequests.find? id = some payout ∧
        payout.status.initiatable ∧ (initiateTransfer id companyUserId now).apply db =
          startTransfer payout bank companyUserId now db := by
  cases h : transferTarget id companyUserId db with
  | error e => exact .inl ⟨e, rfl, by simp [apply, CommissionService.initiateTransfer, h]⟩
  | ok target =>
    obtain ⟨payout, bank⟩ := target
    obtain ⟨hfind, hstatus⟩ := transferTarget_eq_ok h
    exact .inr ⟨payout, bank, rfl, Table.find?_key hfind, hfind, hstatus,
      by simp [apply, CommissionService.initiateTransfer, h]⟩

theorem startTransfer_allocations (payout : CommissionPayoutRequest) (bank : MarketerBankAccount)
    (companyUserId : String) (now : DateTime) (db : Database) :
    (startTransfer payout bank companyUserId now db).commissionAllocations =
      if payout.status = .transferFailed then
        ((withStatus .released (db.allocationsOf payout.payoutId)).foldl restoreAllocation
          db).commissionAllocations
      else db.commissionAllocations := by
  rw [startTransfer]
  by_cases hf : payout.status = .transferFailed
  · simp only [hf, if_true, reduceCtorEq, if_false]
    rfl
  · by_cases hr : payout.status = .transferReversed
    · simp only [hr, reduceCtorEq, if_false, if_true]
      rfl
    · simp only [hf, hr, if_false]
      rfl

theorem find?_allocation_apply (hs : Sound db)
    (hp : db.commissionPayoutRequests.find? payoutId = some payout) (op : Operation) (c : String) :
    (op.apply db).commissionAllocations.find? (payoutId, c) =
      (db.commissionAllocations.find? (payoutId, c)).map (fun a =>
        { a with status := op.statusAfterLoop db payoutId a.status }) := by
  have hsame : ∀ t : Table CommissionAllocation.key, t = db.commissionAllocations →
      op.loop db payoutId = none → t.find? (payoutId, c) =
        (db.commissionAllocations.find? (payoutId, c)).map (fun a =>
          { a with status := op.statusAfterLoop db payoutId a.status }) := by
    intro t ht hloop
    simp [ht, statusAfterLoop, hloop]
  -- a loop over the allocations of `id` moves those of `payoutId` only if it is the same payout
  have hmoved : ∀ (t : Turn) (id : String) (db₁ : Database),
      db₁.commissionAllocations = db.commissionAllocations →
      op.loop db payoutId = (if id = payoutId then some t else none) →
      ((withStatus t.source (db.allocationsOf id)).foldl t.body
        db₁).commissionAllocations.find? (payoutId, c) =
        (db.commissionAllocations.find? (payoutId, c)).map (fun a =>
          { a with status := op.statusAfterLoop db payoutId a.status }) := by
    intro t id db₁ h₁ hloop
    rw [t.loop_find? hs db₁ h₁]
    refine Option.map_congr fun a ha => ?_
    obtain rfl : a.payoutId = payoutId := congrArg Prod.fst (Table.find?_key ha)
    by_cases hid : id = a.payoutId
    · rw [if_pos hid] at hloop
      simp only [hid, true_and, statusAfterLoop, hloop]
      split <;> rfl
    · rw [if_neg hid] at hloop
      have hne : ¬ a.payoutId = id := fun he => hid he.symm
      simp [hne, statusAfterLoop, hloop]
  cases op with
  | processPayment verifyPaystack job paymentId commissionId now =>
    refine hsame _ ?_ rfl
    exact committed_rule (P := fun db' => db'.commissionAllocations = db.commissionAllocations) rfl
      fun _ h => (process_accrues h).2.1
  | requestPayout userId amount id now =>
    refine committed_rule (P := fun db' => db'.commissionAllocations.find? (payoutId, c) = _) ?_ ?_
    · exact hsame _ rfl rfl
    · intro res h
      obtain ⟨r, role, -, -, hcreate⟩ := requestPayout_eq_ok h
      obtain ⟨-, hrequest, payouts, hpayouts, hplan⟩ := createPayout_eq_ok hcreate
      have hne : payoutId ≠ id := by
        intro hsame
        subst hsame
        have hnone := (Table.create_eq_some hpayouts).1
        rw [hrequest] at hnone
        exact Option.some_ne_none _ (hp.symm.trans hnone)
      rw [reservePlan_find? hplan hne]
      exact hsame _ rfl rfl
  | initiateTransfer id companyUserId now =>
    rcases initiateTransfer_cases db id companyUserId now with
      ⟨e, ht, hdb⟩ | ⟨payout', bank, ht, rfl, -, -, hdb⟩
    · rw [hdb]
      exact hsame _ rfl (by simp [loop, ht])
    · rw [hdb, startTransfer_allocations]
      split
      · rename_i hf
        exact hmoved .reReserve _ db rfl (by simp [loop, ht, hf])
      · rename_i hf
        exact hsame _ rfl (by simp [loop, ht, hf])
  | webhook e payload now =>
    rcases e.handle_cases payload now db with ⟨ht, hdb⟩ | ⟨payout', ledger, ht, hid, -, hdb⟩
    · simp only [apply, hdb, committed_ok]
      exact hsame _ rfl (by simp [loop, ht])
    · simp only [apply, hdb, committed_ok]
      exact hmoved e.turn _ _ rfl (by simp [loop, ht, hid])
  | adminApprovePayout id adminId now =>
    exact hsame _ (aside_apply db (.adminApprovePayout id adminId now) trivial).allocations rfl
  | companyApprovePayout id userId now =>
    exact hsame _ (aside_apply db (.companyApprovePayout id userId now) trivial).allocations rfl
  | transferJob paystack id =>
    exact hsame _ (aside_apply db (.transferJob paystack id) trivial).allocations rfl
  | transferJobFailed job message now =>
    exact hsame _ (aside_apply db (.transferJobFailed job message now) trivial).allocations rfl

theorem allocatedTo_apply (hp : db.commissionPayoutRequests.find? payoutId = some payout)
    (op : Operation) : (op.apply db).allocatedTo payoutId = db.allocatedTo payoutId := by
  have hsame : ∀ db' : Database, db'.commissionAllocations = db.commissionAllocations →
      db'.allocatedTo payoutId = db.allocatedTo payoutId := by
    intro db' h
    rw [Database.allocatedTo, h, Database.allocatedTo]
  cases op with
  | processPayment verifyPaystack job paymentId commissionId now =>
    exact committed_rule (P := fun db' => db'.allocatedTo payoutId = _) rfl
      fun _ h => hsame _ (process_accrues h).2.1
  | requestPayout userId amount id now =>
    refine committed_rule (P := fun db' => db'.allocatedTo payoutId = _) rfl fun res h => ?_
    obtain ⟨r, role, -, -, hcreate⟩ := requestPayout_eq_ok h
    obtain ⟨-, hrequest, payouts, hpayouts, hplan⟩ := createPayout_eq_ok hcreate
    have hne : payoutId ≠ id := by
      intro he
      subst he
      have hnone := (Table.create_eq_some hpayouts).1
      rw [hrequest] at hnone
      exact Option.some_ne_none _ (hp.symm.trans hnone)
    exact (reservePlan_allocatedTo hplan hne).trans rfl
  | initiateTransfer id companyUserId now =>
    rcases initiateTransfer_cases db id companyUserId now with
      ⟨e, -, hdb⟩ | ⟨payout', bank, -, -, -, -, hdb⟩
    · rw [hdb]
    · rw [hdb, Database.allocatedTo, startTransfer_allocations]
      split
      · exact Turn.reReserve.foldl_allocatedTo db _ payoutId
      · rfl
  | webhook e payload now =>
    rcases e.handle_cases payload now db with ⟨-, hdb⟩ | ⟨payout', ledger, -, -, -, hdb⟩
    · simp only [apply, hdb, committed_ok, id]
    · simp only [apply, hdb, committed_ok]
      exact e.turn.foldl_allocatedTo _ _ payoutId
  | adminApprovePayout id adminId now =>
    exact hsame _ (aside_apply db (.adminApprovePayout id adminId now) trivial).allocations
  | companyApprovePayout id userId now =>
    exact hsame _ (aside_apply db (.companyApprovePayout id userId now) trivial).allocations
  | transferJob paystack id =>
    exact hsame _ (aside_apply db (.transferJob paystack id) trivial).allocations
  | transferJobFailed job message now =>
    exact hsame _ (aside_apply db (.transferJobFailed job message now) trivial).allocations

theorem startTransfer_find? (payout : CommissionPayoutRequest) (bank : MarketerBankAccount)
    (companyUserId : String) (now : DateTime) (db : Database) :
    ∃ f : CommissionPayoutRequest → CommissionPayoutRequest,
      (∀ p, (f p).status = .transferInitiated ∧ (f p).amount = p.amount) ∧
      ∀ k, (startTransfer payout bank companyUserId now db).commissionPayoutRequests.find? k =
        if k = payout.payoutId then (db.commissionPayoutRequests.find? k).map f
        else db.commissionPayoutRequests.find? k := by
  refine ⟨fun p =>
    { p with
      status := .transferInitiated
      marketerBankAccountId := some bank.accountId
      transferInitiatedAt := some now
      transferInitiatedById := some companyUserId
      transferCode := none
      transferFailedAt := none
      transferFailReason := none }, fun p => ⟨rfl, rfl⟩, fun k => ?_⟩
  obtain ⟨cs, as, hloop⟩ := Turn.reReserve.foldl_frame db
    (withStatus .released (db.allocationsOf payout.payoutId))
  simp only [Turn.body] at hloop
  rw [startTransfer]
  by_cases hf : payout.status = .transferFailed
  · simp only [hf, if_true, reduceCtorEq, if_false, find?_updatePayout, reReserve, hloop]
    split
    · rw [Option.map_map]
      rfl
    · rfl
  · by_cases hr : payout.status = .transferReversed
    · simp only [hr, reduceCtorEq, if_false, if_true, find?_updatePayout]
      split
      · rw [Option.map_map]
        rfl
      · rfl
    · simp only [hf, hr, if_false, find?_updatePayout]

/-- What a step may do to the status of a payout: a handler for it leaves the
handler's status, a job that failed for the last time TRANSFER_FAILED, and no
other step leads into PAID or out of it. -/
def NextStatus (payoutId : String) (s s' : CommissionPayoutStatus) : Operation → Prop
  | webhook e payload _ => s' = if payload.reference = payoutId then e.handler.target else s
  | transferJobFailed job _ _ =>
      s' = if job.payoutId = payoutId ∧ job.exhausted then .transferFailed else s
  | _ => s' = s ∨ s ≠ .paid ∧ s' ≠ .paid

def Becomes (payoutId : String) (payout : CommissionPayoutRequest)
    (R : CommissionPayoutStatus → Prop) (db' : Database) : Prop :=
  ∃ payout', db'.commissionPayoutRequests.find? payoutId = some payout' ∧
    payout'.amount = payout.amount ∧ R payout'.status

theorem becomes_of_find? {R : CommissionPayoutStatus → Prop} {db' : Database}
    (h : db'.commissionPayoutRequests.find? payoutId = some payout) (hR : R payout.status) :
    Becomes payoutId payout R db' := ⟨payout, h, rfl, hR⟩

theorem becomes_update {R : CommissionPayoutStatus → Prop} {db' : Database} {id : String}
    {f : CommissionPayoutRequest → CommissionPayoutRequest}
    (hp : db.commissionPayoutRequests.find? payoutId = some payout)
    (h : db'.commissionPayoutRequests.find? payoutId =
      if payoutId = id then (db.commissionPayoutRequests.find? payoutId).map f
      else db.commissionPayoutRequests.find? payoutId)
    (hamount : ∀ p, (f p).amount = p.amount) (hself : payoutId = id → R (f payout).status)
    (hother : payoutId ≠ id → R payout.status) : Becomes payoutId payout R db' := by
  by_cases hid : payoutId = id
  · rw [if_pos hid, hp] at h
    exact ⟨f payout, h, hamount payout, hself hid⟩
  · rw [if_neg hid, hp] at h
    exact ⟨payout, h, rfl, hother hid⟩

theorem becomes_apply (hp : db.commissionPayoutRequests.find? payoutId = some payout)
    (op : Operation) : Becomes payoutId payout
      (fun s' => NextStatus payoutId payout.status s' op) (op.apply db) := by
  cases op with
  | processPayment verifyPaystack job paymentId commissionId now =>
    refine committed_rule (becomes_of_find? hp (.inl rfl)) fun res h => ?_
    obtain ⟨i, -, ⟨-, intents, hdb⟩ | ⟨-, hcommits⟩⟩ := PaymentWorker.process_eq_ok h
    · exact becomes_of_find? (by rw [hdb]; exact hp) (.inl rfl)
    · obtain ⟨payments, commissions, ledger, intents, hdb⟩ := hcommits.frame
      exact becomes_of_find? (by rw [hdb]; exact hp) (.inl rfl)
  | requestPayout userId amount id now =>
    refine committed_rule (becomes_of_find? hp (.inl rfl)) fun res h => ?_
    obtain ⟨r, role, -, -, hcreate⟩ := requestPayout_eq_ok h
    obtain ⟨-, hrequest, payouts, hpayouts, hplan⟩ := createPayout_eq_ok hcreate
    obtain ⟨⟨cs, as, hdb⟩, -⟩ := reservePlan_frame hplan
    refine becomes_of_find? ?_ (.inl rfl)
    rw [hdb]
    refine (Table.find?_create hpayouts payoutId).trans ?_
    rw [if_neg, hp]
    intro hsame
    subst hsame
    exact Option.some_ne_none _ (hp.symm.trans (Table.create_eq_some hpayouts).1)
  | adminApprovePayout id adminId now =>
    refine committed_rule (becomes_of_find? hp (.inl rfl)) fun db' h => ?_
    obtain ⟨current, hcurrent, hstatus, rfl⟩ := adminApprovePayout_eq_ok h
    refine becomes_update hp (find?_updatePayout ..) (fun _ => rfl) ?_ fun _ => .inl rfl
    intro hsame
    subst hsame
    cases hcurrent.symm.trans hp
    exact .inr ⟨by simp [hstatus], by simp⟩
  | companyApprovePayout id userId now =>
    refine committed_rule (becomes_of_find? hp (.inl rfl)) fun db' h => ?_
    obtain ⟨current, hcurrent, hstatus, rfl⟩ := companyApprovePayout_eq_ok h
    refine becomes_update hp (find?_updatePayout ..) (fun _ => rfl) ?_ fun _ => .inl rfl
    intro hsame
    subst hsame
    cases hcurrent.symm.trans hp
    exact .inr ⟨by simp [hstatus], by simp⟩
  | initiateTransfer id companyUserId now =>
    rcases initiateTransfer_cases db id companyUserId now with
      ⟨e, -, hdb⟩ | ⟨current, bank, -, hid, hcurrent, hstatus, hdb⟩
    · rw [hdb]
      exact becomes_of_find? hp (.inl rfl)
    · obtain ⟨f, hf, hfind⟩ := startTransfer_find? current bank companyUserId now db
      rw [hdb]
      refine becomes_update hp (hfind payoutId) (fun p => (hf p).2) ?_ fun _ => .inl rfl
      intro hsame
      subst hsame
      rw [← hid] at hcurrent
      cases hcurrent.symm.trans hp
      refine .inr ⟨?_, by rw [(hf _).1]; decide⟩
      intro hpaid
      rw [hpaid] at hstatus
      cases hstatus
  | transferJob paystack id =>
    obtain ⟨banks, hdb | ⟨code, ledger, hdb⟩⟩ := TransferWorker.process_cases paystack id db
    · exact becomes_of_find? (by rw [apply, hdb]; exact hp) (.inl rfl)
    · have hfind : ((transferJob paystack id).apply db).commissionPayoutRequests.find? payoutId = _ :=
        (congrArg (fun db' => db'.commissionPayoutRequests.find? payoutId) hdb).trans
          (find?_updatePayout db id payoutId (fun p : CommissionPayoutRequest =>
            { p with transferCode := code.or p.transferCode }) fun _ => rfl)
      exact becomes_update hp hfind (fun _ => rfl) (fun _ => .inl rfl) fun _ => .inl rfl
  | transferJobFailed job message now =>
    by_cases hexhausted : job.exhausted = true
    · cases hjob : db.commissionPayoutRequests.find? job.payoutId with
      | none =>
        have hne : job.payoutId ≠ payoutId := by
          intro hsame
          subst hsame
          exact Option.some_ne_none _ (hp.symm.trans hjob)
        simp only [apply, TransferWorker.onFailed, hexhausted, if_true, hjob, committed_error]
        exact becomes_of_find? hp (by simp [NextStatus, hne])
      | some current =>
        simp only [apply, TransferWorker.onFailed, hexhausted, if_true, hjob, committed_ok]
        refine becomes_update hp (find?_updatePayout ..) (fun _ => rfl) ?_ ?_
        · intro hid
          simp [NextStatus, hid, hexhausted]
        · intro hid
          have hne : ¬ job.payoutId = payoutId := fun he => hid he.symm
          simp [NextStatus, hne]
    · simp only [apply, TransferWorker.onFailed, if_neg hexhausted, committed_ok]
      exact becomes_of_find? hp (by simp [NextStatus, hexhausted])
  | webhook e payload now =>
    rcases e.handle_cases payload now db with ⟨ht, hdb⟩ | ⟨current, ledger, ht, hid, -, hdb⟩
    · simp only [apply, hdb, committed_ok]
      refine becomes_of_find? hp ?_
      by_cases href : payload.reference = payoutId
      · have hstatus : payout.status = e.handler.target := by
          by_contra hne
          rw [e.target?_eq_some.mpr ⟨href ▸ hp, hne⟩] at ht
          cases ht
        simp [NextStatus, href, hstatus]
      · simp [NextStatus, href]
    · simp only [apply, hdb, committed_ok]
      refine becomes_update hp (e.written_find? payload now
        ⟨current, db.allocationsOf current.payoutId⟩ db payoutId) (e.mark_amount payload now) ?_ ?_
      all_goals simp only [hid]
      · intro hsame
        subst hsame
        simp [NextStatus]
      · intro hne
        have hne' : ¬ payload.reference = payoutId := fun he => hne he.symm
        simp [NextStatus, hne']

end payout
end Operation

def AllPaid (payoutId : String) (db : Database) : Prop :=
  ∀ a ∈ db.commissionAllocations.rows, a.payoutId = payoutId → a.status = .paid

instance (payoutId : String) (db : Database) : Decidable (AllPaid payoutId db) :=
  inferInstanceAs (Decidable (∀ a ∈ db.commissionAllocations.rows, _ → _))

/-- If the payout is PAID, its allocations are and they add up to its amount. -/
def PaidBacked (payoutId : String) (db : Database) : Prop :=
  ∀ p ∈ db.commissionPayoutRequests.find? payoutId, p.status = .paid →
    AllPaid payoutId db ∧ db.allocatedTo payoutId = p.amount

instance (payoutId : String) (db : Database) : Decidable (PaidBacked payoutId db) :=
  inferInstanceAs (Decidable (∀ p ∈ db.commissionPayoutRequests.find? payoutId, _ → _))

structure Financed (payoutId : String) (db : Database) : Prop where
  sound : Sound db
  payout : ∃ p, db.commissionPayoutRequests.find? payoutId = some p ∧
    db.allocatedTo payoutId = p.amount

namespace Operation

def LeavesPaidByReversal (payoutId : String) (db : Database) (op : Operation) : Prop :=
  ∀ p ∈ db.commissionPayoutRequests.find? payoutId, p.status = .paid →
    (∃ p' ∈ (op.apply db).commissionPayoutRequests.find? payoutId, p'.status = .paid) ∨
      ∃ payload now, op = webhook .reversed payload now

/-- A confirmation finds no allocation of an unpaid payout RELEASED, and neither
a `transfer.failed` event nor a job that failed for the last time finds the
payout PAID. -/
def KeepsPaid (payoutId : String) (db : Database) : Operation → Prop
  | webhook .success payload _ => payload.reference = payoutId →
      ∀ p ∈ db.commissionPayoutRequests.find? payoutId, p.status ≠ .paid →
        ∀ a ∈ db.commissionAllocations.rows, a.payoutId = payoutId → a.status ≠ .released
  | webhook .failed payload _ => payload.reference = payoutId →
      ∀ p ∈ db.commissionPayoutRequests.find? payoutId, p.status ≠ .paid
  | transferJobFailed job _ _ => job.payoutId = payoutId → job.exhausted →
      ∀ p ∈ db.commissionPayoutRequests.find? payoutId, p.status ≠ .paid
  | _ => True

section paid
variable {db : Database} {payoutId : String} {payout : CommissionPayoutRequest}

theorem financed_apply (h : Financed payoutId db) (op : Operation) :
    Financed payoutId (op.apply db) := by
  obtain ⟨p, hp, hsum⟩ := h.payout
  obtain ⟨p', hp', hamount, -⟩ := becomes_apply hp op
  exact ⟨sound_apply h.sound op, p', hp', by rw [allocatedTo_apply hp op, hsum, hamount]⟩

theorem allPaid_apply_iff (hs : Sound db)
    (hp : db.commissionPayoutRequests.find? payoutId = some payout) (op : Operation) :
    AllPaid payoutId (op.apply db) ↔ ∀ a ∈ db.commissionAllocations.rows, a.payoutId = payoutId →
      op.statusAfterLoop db payoutId a.status = .paid := by
  constructor
  · intro h a ha hpayout
    subst hpayout
    have hfind := find?_allocation_apply hs hp op a.commissionId
    have hrow : db.commissionAllocations.find? (a.payoutId, a.commissionId) = some a :=
      Table.find?_of_mem ha
    rw [hrow, Option.map_some] at hfind
    exact h _ (Table.mem_of_find? hfind) rfl
  · intro h a' ha' hpayout
    subst hpayout
    have hfind := find?_allocation_apply hs hp op a'.commissionId
    have hrow : (op.apply db).commissionAllocations.find? (a'.payoutId, a'.commissionId) = some a' :=
      Table.find?_of_mem ha'
    rw [hrow, eq_comm, Option.map_eq_some_iff] at hfind
    obtain ⟨a, ha, he⟩ := hfind
    rw [← he]
    exact h a (Table.mem_of_find? ha) (congrArg Prod.fst (Table.find?_key ha))

theorem paidBacked_step_iff_status (h : Financed payoutId db) (op : Operation)
    (hp : db.commissionPayoutRequests.find? payoutId = some payout)
    {payout' : CommissionPayoutRequest}
    (hp' : (op.apply db).commissionPayoutRequests.find? payoutId = some payout') :
    (PaidBacked payoutId (op.apply db) ∧ LeavesPaidByReversal payoutId db op) ↔
      (payout'.status = .paid → AllPaid payoutId (op.apply db)) ∧
        (payout.status = .paid → payout'.status = .paid ∨
          ∃ payload now, op = webhook .reversed payload now) := by
  obtain ⟨p', hfind, hsum⟩ := (financed_apply h op).payout
  cases hfind.symm.trans hp'
  simp [PaidBacked, LeavesPaidByReversal, hp, hp', hsum]

theorem paidBacked_step_of_idle (h : Financed payoutId db) (hbacked : PaidBacked payoutId db)
    (op : Operation) (hp : db.commissionPayoutRequests.find? payoutId = some payout)
    {payout' : CommissionPayoutRequest}
    (hp' : (op.apply db).commissionPayoutRequests.find? payoutId = some payout')
    (hstatus : payout'.status = payout.status ∨ payout.status ≠ .paid ∧ payout'.status ≠ .paid)
    (hloop : payout.status = .paid → op.loop db payoutId = none) :
    PaidBacked payoutId (op.apply db) ∧ LeavesPaidByReversal payoutId db op := by
  rw [paidBacked_step_iff_status h op hp hp', allPaid_apply_iff h.sound hp op]
  rcases hstatus with hsame | ⟨hs, hs'⟩
  · rw [hsame]
    refine ⟨fun hpaid a ha he => ?_, fun hpaid => .inl hpaid⟩
    rw [statusAfterLoop, hloop hpaid]
    exact (hbacked payout hp hpaid).1 a ha he
  · exact ⟨fun hpaid => absurd hpaid hs', fun hpaid => absurd hpaid hs⟩

theorem loop_initiateTransfer (hp : db.commissionPayoutRequests.find? payoutId = some payout)
    (hpaid : payout.status = .paid) (id companyUserId : String) (now : DateTime) :
    (initiateTransfer id companyUserId now).loop db payoutId = none := by
  cases ht : transferTarget id companyUserId db with
  | error e => simp [loop, ht]
  | ok target =>
    have hfind := (transferTarget_eq_ok ht).1
    simp only [loop, ht]
    rw [if_neg]
    intro h
    obtain ⟨rfl, hf⟩ := h
    cases hfind.symm.trans hp
    rw [hpaid] at hf
    cases hf

theorem allPaid_after_success_iff (hbacked : PaidBacked payoutId db)
    (hp : db.commissionPayoutRequests.find? payoutId = some payout) {payload : TransferPayload}
    {now : DateTime} (href : payload.reference = payoutId) :
    (∀ a ∈ db.commissionAllocations.rows, a.payoutId = payoutId →
      (webhook .success payload now).statusAfterLoop db payoutId a.status = .paid) ↔
        KeepsPaid payoutId db (webhook .success payload now) := by
  have htarget : TransferEvent.success.target? payload db =
      if payout.status = .paid then none else some payout := by
    rw [TransferEvent.target?, href, hp, Option.filter_some]
    by_cases hpaid : payout.status = .paid <;>
      simp [hpaid, TransferEvent.handler, handleTransferSuccess]
  by_cases hpaid : payout.status = .paid
  · rw [if_pos hpaid] at htarget
    refine iff_of_true (fun a ha he => ?_) ?_
    · simp only [statusAfterLoop, loop, htarget, Option.isSome_none, Bool.false_eq_true, and_false,
        if_false]
      exact (hbacked payout hp hpaid).1 a ha he
    · intro _ p hmem hne
      cases hp.symm.trans hmem
      exact absurd hpaid hne
  · rw [if_neg hpaid] at htarget
    have hstatus : ∀ s, (webhook .success payload now).statusAfterLoop db payoutId s = .paid ↔
        s ≠ .released := by
      intro s
      simp only [statusAfterLoop, loop, htarget, href, Option.isSome_some, true_and, if_true]
      cases s <;> decide
    simp only [hstatus, KeepsPaid, href, hp, true_imp_iff, Option.mem_def, Option.some.injEq,
      forall_eq', ne_eq, hpaid, not_false_eq_true]

theorem paidBacked_step_iff (h : Financed payoutId db) (hbacked : PaidBacked payoutId db)
    (op : Operation) : (PaidBacked payoutId (op.apply db) ∧ LeavesPaidByReversal payoutId db op) ↔
      KeepsPaid payoutId db op := by
  obtain ⟨payout, hp, -⟩ := h.payout
  obtain ⟨payout', hp', -, hnext⟩ := becomes_apply hp op
  cases op with
  | processPayment | requestPayout | adminApprovePayout | companyApprovePayout | transferJob =>
    exact iff_of_true (paidBacked_step_of_idle h hbacked _ hp hp' hnext fun _ => rfl) trivial
  | initiateTransfer id companyUserId now =>
    exact iff_of_true (paidBacked_step_of_idle h hbacked _ hp hp' hnext
      fun hpaid => loop_initiateTransfer hp hpaid id companyUserId now) trivial
  | transferJobFailed job message now =>
    by_cases hjob : job.payoutId = payoutId ∧ job.exhausted
    · rw [NextStatus, if_pos hjob] at hnext
      rw [paidBacked_step_iff_status h _ hp hp']
      simp [KeepsPaid, hjob, hp, hnext]
    · rw [NextStatus, if_neg hjob] at hnext
      refine iff_of_true (paidBacked_step_of_idle h hbacked _ hp hp' (.inl hnext) fun _ => rfl) ?_
      exact fun hid hexhausted => absurd ⟨hid, hexhausted⟩ hjob
  | webhook e payload now =>
    by_cases href : payload.reference = payoutId
    · rw [NextStatus, if_pos href] at hnext
      rw [paidBacked_step_iff_status h _ hp hp']
      cases e with
      | failed => simp [KeepsPaid, href, hp, hnext, TransferEvent.handler, handleTransferFailed]
      | reversed => simp [KeepsPaid, hnext, TransferEvent.handler, handleTransferReversed]
      | success =>
        have hpaid' : payout'.status = .paid := hnext
        simp only [hpaid', true_or, implies_true, and_true, forall_const,
          allPaid_apply_iff h.sound hp]
        exact allPaid_after_success_iff hbacked hp href
    · rw [NextStatus, if_neg href] at hnext
      refine iff_of_true (paidBacked_step_of_idle h hbacked _ hp hp' (.inl hnext)
        fun _ => by simp [loop, href]) ?_
      cases e <;> first | trivial | exact fun he => absurd he href

end paid
end Operation
structure AwaitsTransfer (payoutId : String) (db : Database) : Prop where
  financed : Financed payoutId db
  approved : ∀ p ∈ db.commissionPayoutRequests.find? payoutId, p.status = .approved
  reserved : ∀ a ∈ db.commissionAllocations.rows, a.payoutId = payoutId → a.status = .reserved

/-- From an approved payout, a PAID payout is really paid and stays so along
exactly the runs whose steps all meet `KeepsPaid`. -/
theorem paidBacked_run_iff {db : Database} {payoutId : String} (h : AwaitsTransfer payoutId db)
    (ops : List Operation) :
    (Throughout Operation.apply (PaidBacked payoutId) db ops ∧
        Along Operation.apply (Operation.LeavesPaidByReversal payoutId) db ops) ↔
      Along Operation.apply (Operation.KeepsPaid payoutId) db ops := by
  have hbacked : PaidBacked payoutId db := by
    intro p hp hpaid
    rw [h.approved p hp] at hpaid
    cases hpaid
  have hsteps : Along Operation.apply (fun db op => PaidBacked payoutId (op.apply db) ∧
      Operation.LeavesPaidByReversal payoutId db op) db ops ↔
        Along Operation.apply (Operation.KeepsPaid payoutId) db ops :=
    along_iff_along (I := fun db => Financed payoutId db ∧ PaidBacked payoutId db)
      (fun _ op hi => Operation.paidBacked_step_iff hi.1 hi.2 op)
      (fun _ op hi hc => ⟨Operation.financed_apply hi.1 op,
        ((Operation.paidBacked_step_iff hi.1 hi.2 op).mpr hc).1⟩) ⟨h.financed, hbacked⟩
  rw [throughout_iff_along_next, and_iff_right hbacked, ← along_and, hsteps]

def approvedPayout : Database :=
  run Operation.apply soleCommission ((transferOut "p" 60).take 2)

theorem awaitsTransfer_approvedPayout : AwaitsTransfer "p" approvedPayout := by
  have hamount : (approvedPayout.commissionPayoutRequests.find? "p").map
      CommissionPayoutRequest.amount = some (approvedPayout.allocatedTo "p") := by decide +kernel
  obtain ⟨p, hp, hsum⟩ := Option.map_eq_some_iff.mp hamount
  refine ⟨⟨?_, p, hp, hsum.symm⟩, by decide +kernel, by decide +kernel⟩
  exact Operation.sound_run (Sound.of_no_allocations rfl) _

theorem paidBacked_run_iff_approvedPayout :
    (Throughout Operation.apply (PaidBacked "p") approvedPayout
        [.initiateTransfer "p" "company" 1, webhookFor .success "p"] ∧
      Along Operation.apply (Operation.LeavesPaidByReversal "p") approvedPayout
        [.initiateTransfer "p" "company" 1, webhookFor .success "p"]) ↔
      Along Operation.apply (Operation.KeepsPaid "p") approvedPayout
        [.initiateTransfer "p" "company" 1, webhookFor .success "p"] :=
  paidBacked_run_iff awaitsTransfer_approvedPayout _

/-- A late confirmation of a failed transfer marks the payout PAID over a RELEASED
allocation, and a job that fails for the last time takes PAID away. -/
theorem not_paidBacked_after_failure :
    (¬ PaidBacked "p" (run Operation.apply approvedPayout
      [.initiateTransfer "p" "company" 1, webhookFor .failed "p", webhookFor .success "p"])) ∧
    ((run Operation.apply approvedPayout [.initiateTransfer "p" "company" 1,
      webhookFor .success "p"]).commissionPayoutRequests.find? "p").map
        CommissionPayoutRequest.status = some .paid ∧
    ((run Operation.apply approvedPayout [.initiateTransfer "p" "company" 1,
      webhookFor .success "p", .transferJobFailed ⟨"p", 3, some 3⟩ "timeout" 2]
        ).commissionPayoutRequests.find? "p").map
        CommissionPayoutRequest.status = some .transferFailed := by
  decide +kernel

end InstalFlow
