import InstalFlow.PayoutRun

/-!
# Reservations over runs

The reserved amount of a commission is what its allocation rows say, along
every run. How much of a commission is allocated, and whether its status is the
one its paid total gives, depends on the moves of each step, which are read off
the database before it.
-/

namespace InstalFlow
open Relational Accounting CommissionService Transition

namespace Operation
variable {db : Database}

theorem moves_nodup (db : Database) (op : Operation) : ((op.moves db).map Prod.fst).Nodup := by
  have hloop : ∀ (t : Turn) (payoutId : String),
      ((t.moves (withStatus t.source (db.allocationsOf payoutId))).map Prod.fst).Nodup := by
    intro t payoutId
    rw [Turn.moves, List.map_map]
    exact (List.filter_sublist.map _).nodup nodup_allocationsOf
  cases op with
  | requestPayout userId amount payoutId now =>
    simp only [moves]
    split
    · exact List.nodup_nil
    · rw [List.map_map]
      exact nodup_plan
  | initiateTransfer payoutId companyUserId now =>
    simp only [moves]
    split
    · exact List.nodup_nil
    · rw [startMoves]
      split
      · exact hloop .reReserve _
      · exact List.nodup_nil
  | webhook event payload now =>
    simp only [moves, TransferEvent.moves]
    split
    · exact List.nodup_nil
    · exact hloop event.turn _
  | processPayment | adminApprovePayout | companyApprovePayout | transferJob | transferJobFailed =>
    exact List.nodup_nil

theorem mem_moves_requestPayout (h : Sound db) {userId payoutId : String} {amount : ℚ}
    {now : DateTime} {p : String × Move ℚ} :
    p ∈ (requestPayout userId amount payoutId now).moves db ↔
      Accepts userId amount payoutId db ∧ ∃ c rest, Draws amount (lockCommissions userId db) c rest ∧
        p = (c.commissionId, .reserve (min rest (available c))) := by
  have hfree : db.commissionPayoutRequests.find? payoutId = none →
      ∀ a ∈ db.commissionAllocations.rows, a.payoutId ≠ payoutId := by
    intro hnone a ha he
    have hp := h.payout a ha
    rw [he, hnone] at hp
    cases hp
  rw [← requestPayout_isOk_iff now hfree]
  have hplan : p ∈ (planAllocations amount (lockCommissions userId db)).map AllocationEntry.move ↔
      ∃ c rest, Draws amount (lockCommissions userId db) c rest ∧
        p = (c.commissionId, .reserve (min rest (available c))) := by
    rw [List.mem_map]
    constructor
    · intro hx
      obtain ⟨e, he, rfl⟩ := hx
      obtain ⟨c, rest, hdraw, rfl⟩ := (mem_planAllocations fun _ => available_pos).mp he
      exact ⟨c, rest, hdraw, rfl⟩
    · intro hx
      obtain ⟨c, rest, hdraw, rfl⟩ := hx
      exact ⟨_, (mem_planAllocations fun _ => available_pos).mpr ⟨c, rest, hdraw, rfl⟩, rfl⟩
  rw [← hplan]
  cases hr : CommissionService.requestPayout userId amount payoutId now db with
  | error e => simp [moves, hr]
  | ok res => simp [moves, hr]

theorem mem_turn_moves (h : Sound db) {t : Turn} {payoutId : String} {p : String × Move ℚ} :
    p ∈ t.moves (withStatus t.source (db.allocationsOf payoutId)) ↔
      ∃ a ∈ db.commissionAllocations.rows, a.payoutId = payoutId ∧ a.status = t.source ∧
        p = (a.commissionId, t.move a.allocatedAmount) := by
  rw [Turn.moves, List.mem_map]
  constructor
  · intro hx
    obtain ⟨j, hj, rfl⟩ := hx
    obtain ⟨hmem, hs⟩ := mem_withStatus.mp hj
    obtain ⟨hcur, hp⟩ := current_of_mem_allocationsOf hmem
    exact ⟨j.allocation, Table.mem_of_find? hcur.allocation, hp, hs, rfl⟩
  · intro hx
    obtain ⟨a, ha, rfl, hs, rfl⟩ := hx
    obtain ⟨c, hc⟩ := Option.isSome_iff_exists.mp (h.commission a ha)
    refine ⟨⟨a, c⟩, mem_withStatus.mpr ⟨?_, hs⟩, rfl⟩
    exact List.mem_filterMap.mpr ⟨a, List.mem_filter.mpr ⟨ha, by simp⟩, by rw [hc]; rfl⟩

theorem mem_moves_initiateTransfer (h : Sound db) {payoutId companyUserId : String}
    {now : DateTime} {p : String × Move ℚ} :
    p ∈ (initiateTransfer payoutId companyUserId now).moves db ↔
      (∃ payout bank, transferTarget payoutId companyUserId db = .ok (payout, bank) ∧
        payout.status = .transferFailed) ∧
        ∃ a ∈ db.commissionAllocations.rows, a.payoutId = payoutId ∧ a.status = .released ∧
          p = (a.commissionId, .reserve a.allocatedAmount) := by
  cases ht : transferTarget payoutId companyUserId db with
  | error e => simp [moves, ht]
  | ok target =>
    obtain ⟨payout, bank⟩ := target
    have hid := Table.find?_key (transferTarget_eq_ok ht).1
    have hmem : p ∈ Turn.reReserve.moves (withStatus Turn.reReserve.source
      (db.allocationsOf payoutId)) ↔ _ := mem_turn_moves h
    simp only [Turn.source, Turn.move] at hmem
    simp only [moves, ht, startMoves, hid]
    split
    · rename_i hs
      rw [hmem]
      exact ⟨fun ha => ⟨⟨payout, bank, rfl, hs⟩, ha⟩, fun ha => ha.2⟩
    · rename_i hs
      simp only [List.not_mem_nil, false_iff]
      intro hx
      obtain ⟨⟨payout', bank', he, hs'⟩, -⟩ := hx
      cases he
      exact hs hs'

theorem mem_moves_webhook (h : Sound db) {e : TransferEvent} {payload : TransferPayload}
    {now : DateTime} {p : String × Move ℚ} : p ∈ (webhook e payload now).moves db ↔
      (e.target? payload db).isSome ∧
        ∃ a ∈ db.commissionAllocations.rows, a.payoutId = payload.reference ∧
          a.status = e.turn.source ∧ p = (a.commissionId, e.turn.move a.allocatedAmount) := by
  cases ht : e.target? payload db with
  | none => simp [moves, TransferEvent.moves, ht]
  | some payout =>
    have hid := Table.find?_key (e.target?_eq_some.mp ht).1
    simp only [moves, TransferEvent.moves, ht, hid, mem_turn_moves h, Option.isSome_some, true_and]

theorem fund_apply_of_mem_moves {op : Operation} {p : String × Move ℚ} (hp : p ∈ op.moves db) :
    (op.apply db).fund p.1 = (db.fund p.1).apply p.2 := by
  rcases (apply_cases db op).2 with happlies | ⟨hmoves, -⟩
  · have hfund := (happlies p.1).fund
    rwa [moveOf_of_mem (moves_nodup db op) hp] at hfund
  · rw [hmoves] at hp
    cases hp

theorem forall_moves_requestPayout (h : Sound db) {userId payoutId : String} {amount : ℚ}
    {now : DateTime} {R : String → Move ℚ → Prop} :
    (∀ p ∈ (requestPayout userId amount payoutId now).moves db, R p.1 p.2) ↔
      (Accepts userId amount payoutId db → ∀ c rest,
        Draws amount (lockCommissions userId db) c rest →
          R c.commissionId (.reserve (min rest (available c)))) := by
  constructor
  · intro hR haccepts c rest hdraw
    exact hR _ ((mem_moves_requestPayout h).mpr ⟨haccepts, c, rest, hdraw, rfl⟩)
  · intro hR p hp
    obtain ⟨haccepts, c, rest, hdraw, rfl⟩ := (mem_moves_requestPayout h).mp hp
    exact hR haccepts c rest hdraw

theorem forall_moves_allocations {ms : List (String × Move ℚ)} {guard : Prop} {payoutId : String}
    {status : CommissionAllocationStatus} {move : ℚ → Move ℚ}
    (hms : ∀ p, p ∈ ms ↔ guard ∧ ∃ a ∈ db.commissionAllocations.rows, a.payoutId = payoutId ∧
      a.status = status ∧ p = (a.commissionId, move a.allocatedAmount))
    {R : String → Move ℚ → Prop} : (∀ p ∈ ms, R p.1 p.2) ↔
      (guard → ∀ a ∈ db.commissionAllocations.rows, a.payoutId = payoutId → a.status = status →
        R a.commissionId (move a.allocatedAmount)) := by
  constructor
  · intro hR hg a ha hp hs
    exact hR _ ((hms _).mpr ⟨hg, a, ha, hp, hs, rfl⟩)
  · intro hR p hp
    obtain ⟨hg, a, ha, hpayout, hs, rfl⟩ := (hms p).mp hp
    exact hR hg a ha hpayout hs

end Operation

def Balanced (db : Database) : Prop := db.Each fun c f => c.reservedAmount = f.reserved

instance (db : Database) : Decidable (Balanced db) :=
  inferInstanceAs (Decidable (db.Each fun c f => c.reservedAmount = f.reserved))

theorem balanced_apply {db : Database} (hs : Sound db) (h : Balanced db) (op : Operation) :
    Balanced (op.apply db) := by
  refine (Operation.each_apply_iff hs op fun c _ hr _ => hr).mpr fun c hc => ?_
  rw [Commission.afterMove_reservedAmount, Fund.apply_reserved, h c hc]

theorem sumAllocated_nonneg {db : Database} (h : Sound db) (id : String)
    (s : CommissionAllocationStatus) : 0 ≤ db.sumAllocated id s :=
  Table.sumWhere_nonneg fun a ha _ => (h.positive a ha).le

def NotOverAllocated (db : Database) : Prop := db.Each fun c f => f.held ≤ c.amount

instance (db : Database) : Decidable (NotOverAllocated db) :=
  inferInstanceAs (Decidable (db.Each fun c f => f.held ≤ c.amount))

def Priced (db : Database) : Prop := ∀ i ∈ db.installments.rows, 0 ≤ i.amount

theorem priced_apply {db : Database} (h : Priced db) (op : Operation) : Priced (op.apply db) := by
  intro i' hi'
  obtain ⟨i, hi, hamount⟩ := (Operation.apply_cases db op).1.installment i' hi'
  rw [hamount]
  exact h i hi

namespace Operation

def unallocated (db : Database) (c : Commission) : ℚ := c.amount - (db.fund c.commissionId).held

/-- The step allocates no more of a commission than is unallocated: a request
draws on a commission for the rest that the commissions before it leave, or for
all that `reservedAmount` leaves of it; a failed payout takes its released
allocations back. -/
def AllocatesUnallocated (db : Database) : Operation → Prop
  | requestPayout userId amount payoutId _ => Accepts userId amount payoutId db →
      ∀ c rest, Draws amount (lockCommissions userId db) c rest →
        rest ≤ unallocated db c ∨ c.amount - c.reservedAmount ≤ unallocated db c
  | initiateTransfer payoutId companyUserId _ => ∀ payout bank,
      transferTarget payoutId companyUserId db = .ok (payout, bank) →
      payout.status = .transferFailed →
      ∀ a ∈ db.commissionAllocations.rows, a.payoutId = payoutId → a.status = .released →
        ∀ c, db.commissions.find? a.commissionId = some c → a.allocatedAmount ≤ unallocated db c
  | _ => True

theorem moves_nonneg {db : Database} (h : Sound db) (op : Operation) :
    ∀ p ∈ op.moves db, p.2.Nonneg := by
  intro p hp
  cases op with
  | requestPayout userId amount payoutId now =>
    obtain ⟨-, c, rest, hdraw, rfl⟩ := (mem_moves_requestPayout h).mp hp
    exact le_min hdraw.1.le (available_pos hdraw.mem).le
  | initiateTransfer payoutId companyUserId now =>
    obtain ⟨-, a, ha, -, -, rfl⟩ := (mem_moves_initiateTransfer h).mp hp
    exact (h.positive a ha).le
  | webhook event payload now =>
    obtain ⟨-, a, ha, -, -, rfl⟩ := (mem_moves_webhook h).mp hp
    cases event <;> exact (h.positive a ha).le
  | processPayment | adminApprovePayout | companyApprovePayout | transferJob | transferJobFailed =>
    cases hp

theorem room_reserve_iff {db : Database} {id : String} {c : Commission} {x : ℚ}
    (hc : db.commissions.find? id = some c) :
    (db.fund id).Room c.amount (.reserve x) ↔ x ≤ unallocated db c := by
  rw [Fund.Room, unallocated, Table.find?_key hc, le_sub_iff_add_le']

theorem notOverAllocated_apply_iff {db : Database} (hs : Sound db) (hp : Priced db)
    (h : NotOverAllocated db) (op : Operation) :
    NotOverAllocated (op.apply db) ↔ AllocatesUnallocated db op := by
  have hnew : ∀ c : Commission, c.status = .active → c.reservedAmount = 0 →
      (∃ i ∈ db.installments.rows, ∃ rate, 0 < rate ∧ c.amount = i.amount * rate) →
        (⟨0, 0⟩ : Fund ℚ).held ≤ c.amount := by
    intro c _ _ hprice
    obtain ⟨i, hi, rate, hrate, hamount⟩ := hprice
    rw [hamount, Fund.held, add_zero]
    exact mul_nonneg (hp i hi) hrate.le
  have hroom : NotOverAllocated (op.apply db) ↔ ∀ p ∈ op.moves db, ∀ c,
      db.commissions.find? p.1 = some c → (db.fund p.1).Room c.amount p.2 := by
    rw [NotOverAllocated, each_apply_iff_moves hs op (moves_nodup db op) h hnew]
    refine forall₂_congr fun p hp => forall₂_congr fun c hc => ?_
    have hwithin := h c (Table.mem_of_find? hc)
    rw [Table.find?_key hc] at hwithin
    exact Fund.apply_within_iff hwithin (moves_nonneg hs op p hp)
  rw [hroom]
  cases op with
  | requestPayout userId amount payoutId now =>
    rw [forall_moves_requestPayout hs (R := fun id m => ∀ c, db.commissions.find? id = some c →
      (db.fund id).Room c.amount m)]
    refine imp_congr_right fun _ => forall₂_congr fun c rest => imp_congr_right fun hdraw => ?_
    have hc := find?_of_mem_lockCommissions hdraw.mem
    simp only [hc, Option.some.injEq, forall_eq', room_reserve_iff hc, min_le_iff, available]
  | initiateTransfer payoutId companyUserId now =>
    rw [forall_moves_allocations (fun _ => mem_moves_initiateTransfer hs) (R := fun id m => ∀ c,
      db.commissions.find? id = some c → (db.fund id).Room c.amount m)]
    simp only [AllocatesUnallocated, exists_imp, and_imp]
    refine forall₂_congr fun payout bank => imp_congr_right fun _ => imp_congr_right fun _ =>
      forall₂_congr fun a ha => imp_congr_right fun _ => imp_congr_right fun _ =>
      forall₂_congr fun c hc => room_reserve_iff hc
  | webhook event payload now =>
    refine iff_of_true (fun p hp' c hc => ?_) trivial
    obtain ⟨-, a, ha, -, -, rfl⟩ := (mem_moves_webhook hs).mp hp'
    cases event <;> trivial
  | processPayment | adminApprovePayout | companyApprovePayout | transferJob | transferJobFailed =>
    exact iff_of_true (fun p hp' => by cases hp') trivial

end Operation

/-- A run keeps every commission within its amount exactly when each of its
steps allocates what is unallocated. -/
theorem notOverAllocated_throughout_iff {db : Database} (hs : Sound db) (hp : Priced db)
    (h : NotOverAllocated db) (ops : List Operation) :
    Throughout Operation.apply NotOverAllocated db ops ↔
      Along Operation.apply Operation.AllocatesUnallocated db ops :=
  throughout_iff_along (I := fun db => Sound db ∧ Priced db)
    (fun _ op hi h => Operation.notOverAllocated_apply_iff hi.1 hi.2 h op)
    (fun _ op hi _ => ⟨Operation.sound_apply hi.1 op, priced_apply hi.2 op⟩) ⟨hs, hp⟩ h

theorem allocatesUnallocated_soleCommission : Along Operation.apply
    Operation.AllocatesUnallocated soleCommission (transferOut "p" 60) :=
  (notOverAllocated_throughout_iff (Sound.of_no_allocations rfl) (by simp [Priced, soleCommission])
    (by decide +kernel) _).mp (by decide +kernel)

/-- After 60 of the commission of 100 are paid, a request for 100 is accepted. -/
theorem overAllocated_after_paid : soleCommission.commissionAllocations.rows = [] ∧
    ¬ NotOverAllocated (run Operation.apply soleCommission (transferOut "p" 60 ++
      [webhookFor .success "p", .requestPayout "marketer" 100 "q" 1])) := by
  decide +kernel

end InstalFlow
