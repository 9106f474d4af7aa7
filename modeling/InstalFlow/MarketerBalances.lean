import InstalFlow.OutstandingBalances
import InstalFlow.Relational.Fresh
import InstalFlow.Reservations

/-!
# What a marketer is shown

The available balance is what of the commissions that are neither PAID nor FROZEN is not
reserved. What has been paid of a commission is not subtracted before the commission is PAID, and
a commission that is reserved beyond its amount is subtracted from the others, where a request
passes it over.
-/

namespace InstalFlow
open Relational Accounting CommissionService Transition

structure CommissionTotals where
  total : ℚ
  available : ℚ
  pendingPayout : ℚ
  paidPayout : ℚ

structure ReferralCounts where
  active : ℕ
  pendingApplications : ℕ
  approvedContracts : ℕ

structure ProductTotal where
  productId : String
  productName : String
  total : ℚ

structure CustomerTotal where
  customerId : String
  customerName : String
  customerEmail : String
  total : ℚ

structure CommissionBreakdown where
  byProduct : List ProductTotal
  byCustomer : List CustomerTotal

/-- The unread notifications are left out. -/
structure MarketerOverview where
  commissions : CommissionTotals
  referrals : ReferralCounts
  breakdown : CommissionBreakdown

/-- `notIn: [PAID, FROZEN]` -/
def CommissionStatus.payable : CommissionStatus → Bool
  | .paid | .frozen => false
  | _ => true

namespace AnalyticsService

/-- The `Map` of a breakdown: a total is added to, or is new behind the others. -/
def addTo {β : Type} (same : β → Bool) (add : β → β) (first : β) (totals : List β) : List β :=
  if totals.any same then totals.map fun b => if same b then add b else b else totals ++ [first]

def contractOf (c : Commission) (db : Database) : Option FinancingContract := do
  let payment ← c.paymentId.bind db.payments.find?
  let installment ← db.installments.find? payment.installmentId
  db.financingContracts.find? installment.financingContractId

def addToProduct (db : Database) (totals : List ProductTotal) (c : Commission) :
    List ProductTotal :=
  match (contractOf c db).bind fun contract => db.products.find? contract.productId with
  | none => totals
  | some product => addTo (fun t => t.productId = product.productId)
      (fun t => { t with total := t.total + c.amount })
      ⟨product.productId, product.name, c.amount⟩ totals

def addToCustomer (db : Database) (totals : List CustomerTotal) (c : Commission) :
    List CustomerTotal :=
  match (contractOf c db).bind fun contract => contract.userId.bind db.users.find? with
  | none => totals
  | some user => addTo (fun t => t.customerId = user.userId)
      (fun t => { t with total := t.total + c.amount })
      ⟨user.userId, user.name.getD "", user.email, c.amount⟩ totals

def availableBalance (marketerId : String) (db : Database) : ℚ :=
  let available : Commission → Bool := fun c => c.userId = marketerId ∧ c.status.payable
  db.commissions.sumWhere available Commission.amount -
    db.commissions.sumWhere available Commission.reservedAmount

def getMarketerOverview (marketerId : String) (db : Database) : MarketerOverview :=
  let commissions := db.commissions.rows.filter fun c => c.userId = marketerId
  { commissions :=
      { total := db.commissions.sumWhere (fun c => c.userId = marketerId) Commission.amount
        available := availableBalance marketerId db
        pendingPayout := db.commissionPayoutRequests.sumWhere
          (fun p => p.userId = marketerId ∧ p.status.inProgress) CommissionPayoutRequest.amount
        paidPayout := db.commissionPayoutRequests.sumWhere
          (fun p => p.userId = marketerId ∧ p.status = .paid) CommissionPayoutRequest.amount }
    referrals :=
      { active := db.users.rows.countP fun u =>
          u.role = .customer ∧ u.referredByMarketerId = some marketerId
        pendingApplications := db.kycApplications.rows.countP fun a =>
          (a.status = .pending ∨ a.status = .approvalProcessing) ∧
            (KycService.sessionOf a db).any fun s => s.marketerId = some marketerId
        approvedContracts := db.financingContracts.rows.countP fun c => c.status = .active ∧
          (c.userId.bind db.users.find?).any fun u => u.referredByMarketerId = some marketerId }
    breakdown :=
      { byProduct := commissions.foldl (addToProduct db) []
        byCustomer := commissions.foldl (addToCustomer db) [] } }

end AnalyticsService

open AnalyticsService

/-- What has accrued to the marketer and is not FROZEN, without what is reserved or paid of it -/
def unallocatedTotal (marketerId : String) (db : Database) : ℚ :=
  db.commissions.sumWhere (fun c => c.userId = marketerId ∧ c.status ≠ .frozen)
    (Operation.unallocated db)

/-- The user has a company and was created by somebody, and no payout is in progress. -/
structure MayRequest (userId : String) (db : Database) : Prop where
  company : ((db.users.find? userId).bind User.companyId).isSome = true
  creator : (((db.users.find? userId).bind User.createdById).bind db.users.find?).isSome = true
  noPayout : payoutInProgress userId db = none

/-- The balance is what is left of the commissions, and the largest amount that can be
requested; zero when none can. -/
structure BalanceShown (marketerId : String) (db : Database) : Prop where
  unallocated : (getMarketerOverview marketerId db).commissions.available =
    unallocatedTotal marketerId db
  payable : MayRequest marketerId db → ∀ payoutId now,
    db.commissionPayoutRequests.find? payoutId = none →
      IsGreatest {x | x = 0 ∨ (requestPayout marketerId x payoutId now db).isOk = true}
        (getMarketerOverview marketerId db).commissions.available

/-- Nothing has been paid of a commission before it is PAID, and all of it exactly then. -/
def PaidWhole (c : Commission) (f : Fund ℚ) : Prop :=
  (c.status.payable = true → f.paid = 0) ∧ (c.status = .paid → f.held = c.amount)

/-- Not more of a commission is reserved than there is. -/
def ReservedWithin (c : Commission) : Prop :=
  c.status.payable = true → c.reservedAmount ≤ c.amount

structure AmountsShown (marketerId : String) (db : Database) : Prop where
  paid : db.Each fun c f => c.userId = marketerId → PaidWhole c f
  reserved : MayRequest marketerId db →
    ∀ c ∈ db.commissions.rows, c.userId = marketerId → ReservedWithin c

section amounts
variable {marketerId : String} {db : Database}

/-- A PAID commission has been paid in full at least. -/
def PaidUp (c : Commission) (f : Fund ℚ) : Prop := c.status = .paid → c.amount ≤ f.paid

theorem payable_iff {s : CommissionStatus} : s.payable = true ↔ s ≠ .paid ∧ s ≠ .frozen := by
  cases s <;> decide

theorem deriveReservationStatus_payable (reserved total : ℚ) :
    (deriveReservationStatus reserved total).payable = true := by
  rw [deriveReservationStatus]
  split_ifs <;> rfl

theorem le_of_derivePostPaymentStatus_eq_paid {amount reserved paid : ℚ}
    (h : derivePostPaymentStatus amount reserved paid = .paid) : amount ≤ paid := by
  rw [derivePostPaymentStatus] at h
  split_ifs at h with hfull
  exact hfull

theorem paidUp_afterMove {c : Commission} {f : Fund ℚ} (h : PaidUp c f) (m : Move ℚ) :
    PaidUp (c.afterMove m (f.apply m).paid) (f.apply m) := by
  have hderived (reserved : ℚ) : deriveReservationStatus reserved c.amount ≠ .paid :=
    (payable_iff.mp (deriveReservationStatus_payable reserved c.amount)).1
  intro hpaid
  cases m with
  | stay =>
    rw [Fund.apply_stay] at hpaid ⊢
    rw [Commission.afterMove_stay] at hpaid
    exact h hpaid
  | settle x => exact le_of_derivePostPaymentStatus_eq_paid hpaid
  | reserve x => exact absurd hpaid (hderived _)
  | release x => exact absurd hpaid (hderived _)
  | reverse x => exact absurd hpaid (hderived _)

theorem paidUp_apply (hs : Sound db) (h : db.Each PaidUp) (op : Operation) :
    (op.apply db).Each PaidUp := by
  refine (Operation.each_apply_iff hs op fun c hactive _ _ hpaid => ?_).mpr fun c hc =>
    paidUp_afterMove (h c hc) _
  rw [hactive] at hpaid
  cases hpaid

/-- What of the commission is shown although it is paid, or hidden although it is overpaid -/
def shownBeside (db : Database) (c : Commission) : ℚ :=
  if c.status = .paid then (db.fund c.commissionId).held - c.amount
  else (db.fund c.commissionId).paid

theorem availableBalance_eq_sum : availableBalance marketerId db =
    db.commissions.sumWhere (fun c => c.userId = marketerId ∧ c.status.payable) available := by
  refine sub_eq_iff_eq_add'.mpr (Table.sumWhere_split fun c _ => ?_)
  rw [Table.term, Table.term, Table.term]
  split
  · exact (add_sub_cancel c.reservedAmount c.amount).symm
  · exact (add_zero 0).symm

theorem availableBalance_eq_unallocated (hb : Balanced db) : availableBalance marketerId db =
    unallocatedTotal marketerId db + db.commissions.sumWhere
      (fun c => c.userId = marketerId ∧ c.status ≠ .frozen) (shownBeside db) := by
  rw [availableBalance_eq_sum]
  refine Table.sumWhere_split fun c hc => ?_
  have hreserved : c.reservedAmount = (db.fund c.commissionId).reserved := hb c hc
  by_cases howner : c.userId = marketerId
  · cases hstatus : c.status <;>
      simp [Table.term, howner, hstatus, CommissionStatus.payable, available, Operation.unallocated,
        shownBeside, Fund.held, hreserved] <;> ring
  · simp [Table.term, howner]

theorem shownBeside_nonneg (hs : Sound db) (hp : db.Each PaidUp) :
    ∀ c ∈ db.commissions.rows, 0 ≤ shownBeside db c := by
  intro c hc
  rw [shownBeside]
  split
  · rename_i hstatus
    have hreserved : 0 ≤ (db.fund c.commissionId).reserved := sumAllocated_nonneg hs _ _
    have hpaid := hp c hc hstatus
    rw [Fund.held]
    linarith
  · exact sumAllocated_nonneg hs _ _

theorem availableBalance_eq_unallocated_iff (hs : Sound db) (hb : Balanced db)
    (hp : db.Each PaidUp) : availableBalance marketerId db = unallocatedTotal marketerId db ↔
      db.Each fun c f => c.userId = marketerId → PaidWhole c f := by
  rw [availableBalance_eq_unallocated hb, add_eq_left,
    Table.sumWhere_eq_zero_iff fun c hc _ => shownBeside_nonneg hs hp c hc]
  refine forall₂_congr fun c _ => ?_
  by_cases howner : c.userId = marketerId
  · cases hstatus : c.status <;>
      simp [howner, hstatus, shownBeside, PaidWhole, CommissionStatus.payable, sub_eq_zero]
  · simp [howner]

theorem totalAvailable_eq_sum : totalAvailable (lockCommissions marketerId db) =
    db.commissions.sumWhere (eligible marketerId) available :=
  ((List.perm_insertionSort _ _).map available).sum_eq

/-- A request passes over what is reserved beyond its amount. -/
theorem totalAvailable_eq_balance_add : totalAvailable (lockCommissions marketerId db) =
    availableBalance marketerId db + db.commissions.sumWhere
      (fun c => (c.userId = marketerId ∧ c.status.payable) ∧ c.amount ≤ c.reservedAmount)
      (fun c => c.reservedAmount - c.amount) := by
  rw [totalAvailable_eq_sum, availableBalance_eq_sum]
  refine Table.sumWhere_split fun c _ => ?_
  have heligible : eligible marketerId c =
      decide ((c.userId = marketerId ∧ c.status.payable) ∧ c.reservedAmount < c.amount) := by
    refine decide_eq_decide.mpr ?_
    rw [payable_iff]
    tauto
  rw [Table.term, heligible]
  by_cases hopen : c.userId = marketerId ∧ c.status.payable
  · rcases lt_or_ge c.reservedAmount c.amount with hless | hmore
    · simp [Table.term, hopen, hless, not_le.mpr hless]
    · simp [Table.term, hopen, not_lt.mpr hmore, hmore, available]
  · simp [Table.term, hopen]

theorem availableBalance_eq_totalAvailable_iff :
    availableBalance marketerId db = totalAvailable (lockCommissions marketerId db) ↔
      ∀ c ∈ db.commissions.rows, c.userId = marketerId → ReservedWithin c := by
  rw [totalAvailable_eq_balance_add, left_eq_add, Table.sumWhere_eq_zero_iff]
  · refine forall₂_congr fun c _ => ?_
    simp only [decide_eq_true_eq, and_imp, ReservedWithin]
    refine forall₂_congr fun _ _ => ?_
    rw [sub_eq_zero]
    exact ⟨fun h => not_lt.mp fun hless => absurd (h hless.le) hless.ne',
      fun h hmore => le_antisymm h hmore⟩
  · intro c _ hc
    exact sub_nonneg.mpr (of_decide_eq_true hc).2

end amounts

section requests
variable {marketerId payoutId : String} {amount : ℚ} {db : Database}

/-- A user who may request is refused only for the amount. -/
theorem MayRequest.accepts_iff (h : MayRequest marketerId db)
    (hfree : db.commissionPayoutRequests.find? payoutId = none) :
    Accepts marketerId amount payoutId db ↔
      0 < amount ∧ amount ≤ totalAvailable (lockCommissions marketerId db) := by
  constructor
  · rintro ⟨⟨r, role, hr, -⟩, hbalance, -⟩
    exact ⟨(findRequester_eq_ok hr).2, hbalance⟩
  · rintro ⟨hpos, hbalance⟩
    refine ⟨?_, hbalance, hfree⟩
    obtain ⟨companyId, hcompany⟩ := Option.isSome_iff_exists.mp h.company
    obtain ⟨user, huser, hcompany⟩ := Option.bind_eq_some_iff.mp hcompany
    obtain ⟨creator, hcreator⟩ := Option.isSome_iff_exists.mp h.creator
    have hcreator : user.createdById.bind db.users.find? = some creator := by
      rwa [huser, Option.bind_some] at hcreator
    have hnone : payoutInProgress user.userId db = none := by
      rw [Table.find?_key huser]
      exact h.noPayout
    refine ⟨⟨user, companyId, some creator.role⟩, creator.role, ?_, ?_⟩
    · simp only [findRequester, huser, hcompany, not_le.mpr hpos, if_false, hcreator,
        Option.map_some]
    · simp only [checkPayoutInProgress, hnone]

theorem MayRequest.isGreatest (h : MayRequest marketerId db) (hs : Sound db)
    (hfree : db.commissionPayoutRequests.find? payoutId = none) (now : DateTime) :
    IsGreatest {x | x = 0 ∨ (requestPayout marketerId x payoutId now db).isOk = true}
      (totalAvailable (lockCommissions marketerId db)) := by
  have hnonneg : 0 ≤ totalAvailable (lockCommissions marketerId db) :=
    totalAvailable_nonneg fun _ => available_pos
  have hunused : ∀ a ∈ db.commissionAllocations.rows, a.payoutId ≠ payoutId := by
    intro a ha he
    have hpayout := hs.payout a ha
    rw [he, hfree] at hpayout
    cases hpayout
  have hset : {x | x = 0 ∨ (requestPayout marketerId x payoutId now db).isOk = true} =
      Set.Icc 0 (totalAvailable (lockCommissions marketerId db)) := by
    ext x
    change x = 0 ∨ (requestPayout marketerId x payoutId now db).isOk = true ↔ _
    rw [isOk_iff, requestPayout_isOk_iff now fun _ => hunused, h.accepts_iff hfree, Set.mem_Icc]
    constructor
    · rintro (rfl | ⟨hpos, hle⟩)
      · exact ⟨le_rfl, hnonneg⟩
      · exact ⟨hpos.le, hle⟩
    · rintro ⟨hzero, hle⟩
      exact hzero.eq_or_lt.imp Eq.symm fun hpos => ⟨hpos, hle⟩
  rw [hset]
  exact isGreatest_Icc hnonneg

theorem balanceShown_iff (hs : Sound db) (hb : Balanced db) (hp : db.Each PaidUp) :
    BalanceShown marketerId db ↔ AmountsShown marketerId db := by
  constructor
  · intro h
    refine ⟨(availableBalance_eq_unallocated_iff hs hb hp).mp h.unallocated, fun hmay => ?_⟩
    obtain ⟨payoutId, -, hfree⟩ := db.commissionPayoutRequests.exists_fresh
    refine availableBalance_eq_totalAvailable_iff.mp ?_
    exact (h.payable hmay (payoutId 0) 0 (hfree 0)).unique (hmay.isGreatest hs (hfree 0) 0)
  · intro h
    refine ⟨(availableBalance_eq_unallocated_iff hs hb hp).mpr h.paid,
      fun hmay payoutId now hfree => ?_⟩
    have hsame := availableBalance_eq_totalAvailable_iff.mpr (h.reserved hmay)
    rw [getMarketerOverview, hsame]
    exact hmay.isGreatest hs hfree now

end requests

section steps
variable {marketerId : String} {db : Database} {c : Commission} {f : Fund ℚ} {m : Move ℚ}

/-- The commissions of the marketer are paid as wholes and not reserved beyond their amounts. -/
def Whole (marketerId : String) (c : Commission) (f : Fund ℚ) : Prop :=
  c.userId = marketerId → PaidWhole c f ∧ ReservedWithin c

/-- A move that leaves a commission paid as a whole or not at all -/
def MovesWhole (c : Commission) (f : Fund ℚ) : Move ℚ → Prop
  | .stay => True
  | .reserve x => f.paid = 0 ∧ c.reservedAmount + x ≤ c.amount
  | .settle x => c.reservedAmount = x ∧ f.paid + x = c.amount
  | .release x => f.paid = 0 ∧ c.reservedAmount - x ≤ c.amount
  | .reverse x => f.paid = x ∧ c.reservedAmount + x ≤ c.amount

theorem AmountsShown.of_whole (h : db.Each (Whole marketerId)) : AmountsShown marketerId db :=
  ⟨fun c hc howner => (h c hc howner).1, fun _ c hc howner => (h c hc howner).2⟩

/-- A commission whose status was derived from what is reserved alone -/
theorem whole_of_payable (h : c.status.payable = true) :
    PaidWhole c f ∧ ReservedWithin c ↔ f.paid = 0 ∧ c.reservedAmount ≤ c.amount := by
  have hunpaid : c.status ≠ .paid := (payable_iff.mp h).1
  rw [PaidWhole, ReservedWithin, forall_prop_of_true h, forall_prop_of_true h,
    forall_prop_of_false hunpaid, and_true]

theorem whole_settle_iff {x : ℚ} (hx : 0 < x) (hpaid : 0 ≤ f.paid) (hle : x ≤ c.reservedAmount)
    (hreserved : c.reservedAmount = f.reserved) :
    PaidWhole (c.afterMove (.settle x) (f.apply (.settle x)).paid) (f.apply (.settle x)) ∧
      ReservedWithin (c.afterMove (.settle x) (f.apply (.settle x)).paid) ↔
    MovesWhole c f (.settle x) := by
  have hafter : (f.apply (.settle x)).paid = f.paid + x := rfl
  have hheld : (f.apply (.settle x)).held = f.held := by
    rw [Fund.held_apply, Move.reservedChange, Move.paidChange, neg_add_cancel, add_zero]
  by_cases hfull : c.amount ≤ f.paid + x
  · have hstatus : (c.afterMove (.settle x) (f.apply (.settle x)).paid).status = .paid :=
      if_pos hfull
    rw [PaidWhole, ReservedWithin, hstatus, hheld]
    simp only [CommissionStatus.payable, Bool.false_eq_true, false_implies, true_and, and_true,
      forall_const, MovesWhole]
    rw [Commission.afterMove, Fund.held, ← hreserved]
    constructor
    · intro hsum
      have hsame : c.reservedAmount = x := le_antisymm (by linarith) hle
      exact ⟨hsame, by linarith⟩
    · rintro ⟨hsame, hsum⟩
      linarith
  · have hstatus : (c.afterMove (.settle x) (f.apply (.settle x)).paid).status.payable = true := by
      have hderived : (c.afterMove (.settle x) (f.apply (.settle x)).paid).status =
        derivePostPaymentStatus c.amount (c.reservedAmount + -x) (f.paid + x) := rfl
      rw [hderived, derivePostPaymentStatus, if_neg hfull]
      split_ifs <;> rfl
    rw [whole_of_payable hstatus, hafter, MovesWhole]
    refine iff_of_false (fun h => ?_) fun h => hfull h.2.ge
    linarith [h.1]

theorem whole_afterMove_iff (hm : ∀ x, m = .settle x → 0 < x ∧ x ≤ c.reservedAmount)
    (hpaid : 0 ≤ f.paid) (hreserved : c.reservedAmount = f.reserved)
    (h : PaidWhole c f ∧ ReservedWithin c) :
    PaidWhole (c.afterMove m (f.apply m).paid) (f.apply m) ∧
      ReservedWithin (c.afterMove m (f.apply m).paid) ↔ MovesWhole c f m := by
  cases m with
  | stay =>
    rw [Fund.apply_stay, Commission.afterMove_stay]
    exact iff_of_true h trivial
  | settle x =>
    obtain ⟨hx, hle⟩ := hm x rfl
    exact whole_settle_iff hx hpaid hle hreserved
  | reserve x =>
    rw [whole_of_payable (deriveReservationStatus_payable _ _), Fund.apply_paid]
    simp [MovesWhole, Commission.afterMove, Move.reservedChange, Move.paidChange]
  | release x =>
    rw [whole_of_payable (deriveReservationStatus_payable _ _), Fund.apply_paid]
    simp [MovesWhole, Commission.afterMove, Move.reservedChange, Move.paidChange, sub_eq_add_neg]
  | reverse x =>
    rw [whole_of_payable (deriveReservationStatus_payable _ _), Fund.apply_paid]
    simp [MovesWhole, Commission.afterMove, Move.reservedChange, Move.paidChange, add_neg_eq_zero]

namespace Operation

/-- A transfer that succeeds or is reversed pays a commission of the marketer as a whole, and what
is released or taken up again finds it unpaid and stays within its amount. -/
def LeavesWhole (marketerId : String) (db : Database) : Operation → Prop
  | initiateTransfer payoutId companyUserId _ => ∀ payout bank,
      transferTarget payoutId companyUserId db = .ok (payout, bank) →
      payout.status = .transferFailed →
      ∀ a ∈ db.commissionAllocations.rows, a.payoutId = payoutId → a.status = .released →
        ∀ c, db.commissions.find? a.commissionId = some c → c.userId = marketerId →
          MovesWhole c (db.fund a.commissionId) (.reserve a.allocatedAmount)
  | webhook event payload _ => (event.target? payload db).isSome →
      ∀ a ∈ db.commissionAllocations.rows, a.payoutId = payload.reference →
        a.status = event.turn.source →
        ∀ c, db.commissions.find? a.commissionId = some c → c.userId = marketerId →
          MovesWhole c (db.fund a.commissionId) (event.turn.move a.allocatedAmount)
  | _ => True

theorem settle_pos (hs : Sound db) {op : Operation} {id : String} {x : ℚ}
    (h : (id, .settle x) ∈ op.moves db) : 0 < x := by
  cases op with
  | requestPayout userId amount payoutId now =>
    obtain ⟨-, c, rest, -, he⟩ := (mem_moves_requestPayout hs).mp h
    cases he
  | initiateTransfer payoutId companyUserId now =>
    obtain ⟨-, a, -, -, -, he⟩ := (mem_moves_initiateTransfer hs).mp h
    cases he
  | webhook event payload now =>
    obtain ⟨-, a, ha, -, -, he⟩ := (mem_moves_webhook hs).mp h
    cases event with
    | success =>
      cases he
      exact hs.positive a ha
    | failed => cases he
    | reversed => cases he
  | processPayment | adminApprovePayout | companyApprovePayout | transferJob | transferJobFailed =>
    cases h

theorem reserved_apply_nonneg (hs : Sound db) {op : Operation} {p : String × Move ℚ}
    (hp : p ∈ op.moves db) : 0 ≤ ((db.fund p.1).apply p.2).reserved := by
  rw [← fund_apply_of_mem_moves hp]
  exact sumAllocated_nonneg (sound_apply hs op) p.1 .reserved

theorem each_whole_apply_iff_moves (hs : Sound db) (hprice : Priced db) (hb : Balanced db)
    (h : db.Each (Whole marketerId)) (op : Operation) :
    (op.apply db).Each (Whole marketerId) ↔ ∀ p ∈ op.moves db, ∀ c,
      db.commissions.find? p.1 = some c → c.userId = marketerId →
        MovesWhole c (db.fund p.1) p.2 := by
  have hnew : ∀ c : Commission, c.status = .active → c.reservedAmount = 0 →
      (∃ i ∈ db.installments.rows, ∃ rate, 0 < rate ∧ c.amount = i.amount * rate) →
        Whole marketerId c ⟨0, 0⟩ := by
    rintro c hactive hzero ⟨i, hi, rate, hrate, hamount⟩ -
    have hstatus : c.status.payable = true := by rw [hactive]; rfl
    refine (whole_of_payable hstatus).mpr ⟨rfl, ?_⟩
    rw [hzero, hamount]
    exact mul_nonneg (hprice i hi) hrate.le
  rw [each_apply_iff_moves hs op (moves_nodup db op) h hnew]
  refine forall₂_congr fun p hp => forall₂_congr fun c hc => imp_congr_right fun howner => ?_
  have hmem := Table.mem_of_find? hc
  have hkey := Table.find?_key hc
  have hreserved : c.reservedAmount = (db.fund p.1).reserved := hkey ▸ hb c hmem
  have hwhole := h c hmem howner
  rw [hkey] at hwhole
  refine whole_afterMove_iff (fun x hx => ?_) (sumAllocated_nonneg hs _ _) hreserved hwhole
  have hleft := reserved_apply_nonneg hs hp
  rw [Fund.apply_reserved, hx, Move.reservedChange, ← hreserved] at hleft
  have hsettle : (p.1, Move.settle x) ∈ op.moves db := by rwa [← hx]
  exact ⟨settle_pos hs hsettle, by linarith⟩

theorem whole_apply_iff (hs : Sound db) (hprice : Priced db) (hb : Balanced db)
    (h : db.Each (Whole marketerId)) (op : Operation) :
    (op.apply db).Each (Whole marketerId) ↔ LeavesWhole marketerId db op := by
  rw [each_whole_apply_iff_moves hs hprice hb h op]
  let R : String → Move ℚ → Prop := fun id m => ∀ c, db.commissions.find? id = some c →
    c.userId = marketerId → MovesWhole c (db.fund id) m
  cases op with
  | requestPayout userId amount payoutId now =>
    refine iff_of_true ((forall_moves_requestPayout hs (R := R)).mpr ?_) trivial
    intro _ c rest hdraw c' hc' howner
    obtain rfl := Option.some.inj ((find?_of_mem_lockCommissions hdraw.mem).symm.trans hc')
    obtain ⟨hmem, heligible⟩ := mem_lockCommissions.mp hdraw.mem
    simp only [eligible, decide_eq_true_eq] at heligible
    have hstatus := payable_iff.mpr ⟨heligible.2.1, heligible.2.2.1⟩
    have hunpaid := ((h c hmem howner).1.1 hstatus :)
    have hmin : min rest (available c) ≤ available c := min_le_right ..
    rw [available] at hmin
    exact ⟨hunpaid, by rw [available]; linarith⟩
  | initiateTransfer payoutId companyUserId now =>
    refine (forall_moves_allocations (fun _ => mem_moves_initiateTransfer hs) (R := R)).trans ?_
    simp only [R, LeavesWhole, exists_imp, and_imp]
  | webhook event payload now =>
    exact forall_moves_allocations (fun _ => mem_moves_webhook hs) (R := R)
  | processPayment | adminApprovePayout | companyApprovePayout | transferJob | transferJobFailed =>
    exact iff_of_true (fun p hp => by cases hp) trivial

end Operation

/-- What operations keep of the commissions -/
structure CommissionsAccounted (db : Database) : Prop where
  sound : Sound db
  priced : Priced db
  balanced : Balanced db
  paidUp : db.Each PaidUp

theorem CommissionsAccounted.apply (h : CommissionsAccounted db) (op : Operation) :
    CommissionsAccounted (op.apply db) where
  sound := Operation.sound_apply h.sound op
  priced := priced_apply h.priced op
  balanced := balanced_apply h.sound h.balanced op
  paidUp := paidUp_apply h.sound h.paidUp op

end steps

instance (marketerId : String) (c : Commission) (f : Fund ℚ) : Decidable (Whole marketerId c f) :=
  inferInstanceAs (Decidable (_ → ((_ → _) ∧ (_ → _)) ∧ (_ → _)))

theorem whole_throughout_iff {marketerId : String} {db : Database} (h : CommissionsAccounted db)
    (hwhole : db.Each (Whole marketerId)) (ops : List Operation) :
    Throughout Operation.apply (Database.Each (Whole marketerId)) db ops ↔
      Along Operation.apply (Operation.LeavesWhole marketerId) db ops :=
  throughout_iff_along (I := CommissionsAccounted)
    (fun _ op hi h => Operation.whole_apply_iff hi.sound hi.priced hi.balanced h op)
    (fun _ op hi _ => hi.apply op) h hwhole

theorem commissionsAccounted_soleCommission : CommissionsAccounted soleCommission where
  sound := Sound.of_no_allocations rfl
  priced := by simp [Priced, soleCommission]
  balanced := by decide +kernel
  paidUp := by simp [Database.Each, PaidUp, soleCommission]

/-- Two payouts of all of the commission, the first of which is taken up again while the second is
in transit; both are paid and both reversed. -/
def takenUpAgain : List Operation :=
  transferOut "p" 100 ++ [webhookFor .failed "p"] ++ transferOut "q" 100 ++
    [.initiateTransfer "p" "company" 0, webhookFor .success "q", webhookFor .success "p",
      webhookFor .reversed "p", webhookFor .reversed "q"]

end InstalFlow
