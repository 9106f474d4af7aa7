import InstalFlow.PayoutRequests

/-!
# Oldest first

What a payout request that goes through allocates: the amount exactly, and from a
commission only when nothing is left of the older ones.
-/

namespace InstalFlow
open Relational Accounting CommissionService

/-- The commissions that a user may draw on, those reserved in full included. -/
def Commission.drawable (userId : String) (c : Commission) : Bool :=
  c.userId = userId ∧ c.status ≠ .paid ∧ c.status ≠ .frozen

/-- The allocations of a payout. -/
def allocationRows (payoutId : String) (db : Database) : List CommissionAllocation :=
  db.commissionAllocations.rows.filter (fun a => a.payoutId = payoutId)

/-- What a payout has taken from a commission. -/
def allocatedTo (payoutId commissionId : String) (db : Database) : ℚ :=
  ((db.commissionAllocations.find? (payoutId, commissionId)).map
    CommissionAllocation.allocatedAmount).getD 0

structure AllocatesOldestFirst (userId payoutId : String) (amount : ℚ) (db db' : Database) :
    Prop where
  appended : db'.commissionAllocations.rows =
    db.commissionAllocations.rows ++ allocationRows payoutId db'
  total : ((allocationRows payoutId db').map CommissionAllocation.allocatedAmount).sum = amount
  within : ∀ a ∈ allocationRows payoutId db', ∃ c, db.commissions.find? a.commissionId = some c ∧
    c.drawable userId = true ∧ 0 < a.allocatedAmount ∧ a.allocatedAmount ≤ available c
  once : ((allocationRows payoutId db').map CommissionAllocation.commissionId).Nodup
  oldest : ∀ a ∈ allocationRows payoutId db', ∀ c, db.commissions.find? a.commissionId = some c →
    ∀ older ∈ db.commissions.rows, older.drawable userId = true → older.createdAt < c.createdAt →
      allocatedTo payoutId older.commissionId db' = available older
  reserved : ∀ id, (db'.commissions.find? id).map Commission.reservedAmount =
    (db.commissions.find? id).map fun c => c.reservedAmount + allocatedTo payoutId id db'

namespace CommissionService
section order
variable {userId : String} {amount rest : ℚ} {db : Database} {cs : List Commission}
  {c d : Commission}

theorem eligible_of_drawable (h : d.drawable userId = true) (hlt : d.reservedAmount < d.amount) :
    eligible userId d = true := by
  simp only [Commission.drawable, decide_eq_true_eq] at h
  simp only [eligible, decide_eq_true_eq]
  exact ⟨h.1, h.2.1, h.2.2, hlt⟩

theorem drawable_of_eligible (h : eligible userId d = true) : d.drawable userId = true := by
  simp only [eligible, decide_eq_true_eq] at h
  simp only [Commission.drawable, decide_eq_true_eq]
  exact ⟨h.1, h.2.1, h.2.2.1⟩

theorem sorted_lockCommissions (userId : String) (db : Database) :
    (lockCommissions userId db).Pairwise (fun a b => a.createdAt ≤ b.createdAt) :=
  haveI : Std.Total fun a b : Commission => a.createdAt ≤ b.createdAt :=
    ⟨fun a b => le_total a.createdAt b.createdAt⟩
  haveI : IsTrans Commission fun a b => a.createdAt ≤ b.createdAt := ⟨fun _ _ _ => le_trans⟩
  List.pairwise_insertionSort _ _

/-- Where a commission is drawn on, those before it are drawn on as far as they reach. -/
theorem Draws.of_before (c : Commission) {before : List Commission} (after : List Commission)
    (hbefore : d ∈ before)
    (hpos : ∀ b ∈ before, 0 < available b)
    (h : 0 < amount - totalAvailable before) :
    ∃ rest, Draws amount (before ++ c :: after) d rest ∧ available d ≤ rest := by
  obtain ⟨first, last, rfl⟩ := List.append_of_mem hbefore
  have hlast : 0 ≤ totalAvailable last := totalAvailable_nonneg fun b hb =>
    hpos b (List.mem_append_right _ (List.mem_cons_of_mem _ hb))
  have hsum : totalAvailable (first ++ d :: last) =
      totalAvailable first + (available d + totalAvailable last) := by
    simp [totalAvailable]
  have hd := hpos d hbefore
  refine ⟨amount - totalAvailable first, ⟨by linarith, first, last ++ c :: after, ?_, rfl⟩, ?_⟩
  · rw [List.append_assoc, List.cons_append]
  · linarith

/-- An older commission that can be locked comes before. -/
theorem mem_before_of_older {before after : List Commission}
    (hcs : lockCommissions userId db = before ++ c :: after) (hd : d ∈ lockCommissions userId db)
    (holder : d.createdAt < c.createdAt) : d ∈ before := by
  have hsorted := sorted_lockCommissions userId db
  rw [hcs] at hsorted hd
  rcases List.mem_append.mp hd with hd | hd
  · exact hd
  · rcases List.mem_cons.mp hd with rfl | hd
    · exact absurd holder (lt_irrefl _)
    · have hle := (List.pairwise_cons.mp (List.pairwise_append.mp hsorted).2.1).1 d hd
      exact absurd holder (not_lt.mpr hle)

/-- What is reserved in full has nothing left, so only what can be locked counts. -/
theorem totalAvailable_eq_sum_drawable
    (hbounds : ∀ c ∈ db.commissions.rows, c.drawable userId = true →
      c.reservedAmount ≤ c.amount) :
    db.commissions.sumWhere (Commission.drawable userId) available =
      totalAvailable (lockCommissions userId db) := by
  have hlocked : totalAvailable (lockCommissions userId db) =
      db.commissions.sumWhere (eligible userId) available :=
    ((List.perm_insertionSort _ _).map available).sum_eq
  rw [hlocked, Table.sumWhere_eq_sum_term, Table.sumWhere_eq_sum_term]
  refine congrArg List.sum (List.map_congr_left fun c hc => ?_)
  by_cases heligible : eligible userId c = true
  · rw [Table.term, Table.term, if_pos heligible, if_pos (drawable_of_eligible heligible)]
  · rw [Table.term, Table.term, if_neg heligible]
    split
    · rename_i hdrawable
      have hle := hbounds c hc hdrawable
      have hnot : ¬ c.reservedAmount < c.amount := fun hlt =>
        heligible (eligible_of_drawable hdrawable hlt)
      rw [available, le_antisymm hle (not_lt.mp hnot), sub_self]
    · rfl

end order

section request
variable {userId payoutId : String} {amount : ℚ} {now : DateTime} {db db' : Database}
  {request : CommissionPayoutRequest}

abbrev planOf (userId : String) (amount : ℚ) (db : Database) : List AllocationEntry :=
  planAllocations amount (lockCommissions userId db)

theorem rows_requestPayout
    (h : requestPayout userId amount payoutId now db = .ok (request, db')) :
    db'.commissionAllocations.rows = db.commissionAllocations.rows ++
      (planOf userId amount db).map (AllocationEntry.row payoutId) := by
  obtain ⟨r, role, hr, -, hcreate⟩ := requestPayout_eq_ok h
  obtain ⟨-, -, payouts, -, hplan⟩ := createPayout_eq_ok hcreate
  rw [(findRequester_eq_ok hr).1] at hplan
  exact (reservePlan_frame hplan).2

theorem allocationRows_requestPayout
    (hfree : ∀ a ∈ db.commissionAllocations.rows, a.payoutId ≠ payoutId)
    (h : requestPayout userId amount payoutId now db = .ok (request, db')) :
    allocationRows payoutId db' =
      (planOf userId amount db).map (AllocationEntry.row payoutId) := by
  have hold : db.commissionAllocations.rows.filter (fun a => a.payoutId = payoutId) = [] := by
    rw [List.filter_eq_nil_iff]
    simpa using hfree
  have hnew : ((planOf userId amount db).map (AllocationEntry.row payoutId)).filter
      (fun a => a.payoutId = payoutId) =
        (planOf userId amount db).map (AllocationEntry.row payoutId) := by
    rw [List.filter_eq_self]
    intro a ha
    obtain ⟨e, -, rfl⟩ := List.mem_map.mp ha
    exact decide_eq_true rfl
  rw [allocationRows, rows_requestPayout h, List.filter_append, hold, hnew, List.nil_append]

theorem allocatedTo_of_mem_plan {e : AllocationEntry} (he : e ∈ planOf userId amount db)
    (h : requestPayout userId amount payoutId now db = .ok (request, db')) :
    allocatedTo payoutId e.commissionId db' = e.toAllocate := by
  have hmem : e.row payoutId ∈ db'.commissionAllocations.rows := by
    rw [rows_requestPayout h]
    exact List.mem_append_right _ (List.mem_map_of_mem he)
  have hfind : db'.commissionAllocations.find? (payoutId, e.commissionId) =
      some (e.row payoutId) := Table.find?_of_mem hmem
  rw [allocatedTo, hfind]
  rfl

theorem allocatedTo_of_notMem_plan {id : String}
    (hfree : ∀ a ∈ db.commissionAllocations.rows, a.payoutId ≠ payoutId)
    (hid : id ∉ (planOf userId amount db).map AllocationEntry.commissionId)
    (h : requestPayout userId amount payoutId now db = .ok (request, db')) :
    allocatedTo payoutId id db' = 0 := by
  have hnone : db'.commissionAllocations.find? (payoutId, id) = none := by
    refine Table.find?_eq_none_iff.mpr fun a ha hkey => ?_
    rw [rows_requestPayout h] at ha
    rcases List.mem_append.mp ha with ha | ha
    · exact hfree a ha (congrArg Prod.fst hkey)
    · obtain ⟨e, he, rfl⟩ := List.mem_map.mp ha
      exact hid (List.mem_map.mpr ⟨e, he, congrArg Prod.snd hkey⟩)
  rw [allocatedTo, hnone]
  rfl

/-- The reservation of a commission grows by its allocation. -/
theorem reservedAmount_requestPayout
    (hfree : ∀ a ∈ db.commissionAllocations.rows, a.payoutId ≠ payoutId)
    (h : requestPayout userId amount payoutId now db = .ok (request, db')) (id : String) :
    (db'.commissions.find? id).map Commission.reservedAmount =
      (db.commissions.find? id).map fun c => c.reservedAmount + allocatedTo payoutId id db' := by
  have hmoves : ((planOf userId amount db).map AllocationEntry.move).map Prod.fst =
      (planOf userId amount db).map AllocationEntry.commissionId := by
    rw [List.map_map]
    rfl
  rw [(requestPayout_applies h id).row, Option.map_map]
  refine congrArg (Option.map · _) (funext fun c => ?_)
  rw [Function.comp_apply, Commission.afterMove_reservedAmount]
  by_cases hid : id ∈ (planOf userId amount db).map AllocationEntry.commissionId
  · obtain ⟨e, he, rfl⟩ := List.mem_map.mp hid
    have hmem : (e.commissionId, Move.reserve e.toAllocate) ∈
        (planOf userId amount db).map AllocationEntry.move := List.mem_map_of_mem he
    rw [moveOf_of_mem (hmoves ▸ nodup_plan) hmem, allocatedTo_of_mem_plan he h]
    rfl
  · rw [moveOf_of_notMem (hmoves ▸ hid), allocatedTo_of_notMem_plan hfree hid h]
    rfl

/-- An older commission is drawn on as far as it reaches, or has nothing left. -/
theorem allocatedTo_older {e : AllocationEntry} {c older : Commission}
    (hbounds : older.reservedAmount ≤ older.amount)
    (hfree : ∀ a ∈ db.commissionAllocations.rows, a.payoutId ≠ payoutId)
    (h : requestPayout userId amount payoutId now db = .ok (request, db'))
    (he : e ∈ planOf userId amount db) (hc : db.commissions.find? e.commissionId = some c)
    (hmem : older ∈ db.commissions.rows) (hdrawable : older.drawable userId = true)
    (holder : older.createdAt < c.createdAt) :
    allocatedTo payoutId older.commissionId db' = available older := by
  by_cases hlt : older.reservedAmount < older.amount
  · have hlocked : older ∈ lockCommissions userId db :=
      mem_lockCommissions.mpr ⟨hmem, eligible_of_drawable hdrawable hlt⟩
    obtain ⟨d, rest, hdraw, rfl⟩ := (mem_planAllocations fun _ => available_pos).mp he
    obtain rfl : d = c := by
      rw [find?_of_mem_lockCommissions hdraw.mem] at hc
      exact Option.some.inj hc
    obtain ⟨hrest, before, after, hcs, rfl⟩ := hdraw
    have hbefore := mem_before_of_older hcs hlocked holder
    obtain ⟨rest, hdraws, hreaches⟩ := Draws.of_before d after hbefore
      (fun b hb => available_pos (hcs ▸ List.mem_append_left _ hb)) hrest
    have hplanned : ⟨older.commissionId, min rest (available older), older.reservedAmount,
        older.amount⟩ ∈ planOf userId amount db :=
      (mem_planAllocations fun _ => available_pos).mpr ⟨older, rest, hcs ▸ hdraws, rfl⟩
    rw [allocatedTo_of_mem_plan hplanned h]
    exact min_eq_right hreaches
  · rw [available, le_antisymm hbounds (not_lt.mp hlt), sub_self]
    refine allocatedTo_of_notMem_plan hfree (fun hid => ?_) h
    obtain ⟨f, hf, hkey⟩ := List.mem_map.mp hid
    obtain ⟨d, rest, hdraw, rfl⟩ := (mem_planAllocations fun _ => available_pos).mp hf
    obtain rfl : d = older :=
      Table.key_injective (mem_lockCommissions.mp hdraw.mem).1 hmem hkey
    exact hlt (sub_pos.mp (available_pos hdraw.mem))

theorem allocatesOldestFirst_requestPayout
    (hbounds : ∀ c ∈ db.commissions.rows, c.drawable userId = true →
      0 ≤ c.reservedAmount ∧ c.reservedAmount ≤ c.amount)
    (hfree : ∀ a ∈ db.commissionAllocations.rows, a.payoutId ≠ payoutId)
    (h : requestPayout userId amount payoutId now db = .ok (request, db')) :
    AllocatesOldestFirst userId payoutId amount db db' := by
  obtain ⟨r, role, hr, -, hcreate⟩ := requestPayout_eq_ok h
  obtain ⟨hid, hpos⟩ := findRequester_eq_ok hr
  have hbalance := (createPayout_eq_ok hcreate).1
  rw [hid] at hbalance
  have hrows := allocationRows_requestPayout hfree h
  refine ⟨hrows ▸ rows_requestPayout h, ?_, ?_, ?_, ?_, reservedAmount_requestPayout hfree h⟩
  · rw [hrows, List.map_map]
    exact sum_planAllocations hpos.le (fun _ => available_pos) hbalance
  · intro a ha
    rw [hrows] at ha
    obtain ⟨e, he, rfl⟩ := List.mem_map.mp ha
    have hallocates := toAllocate_pos he
    obtain ⟨c, rest, hdraw, rfl⟩ := (mem_planAllocations fun _ => available_pos).mp he
    exact ⟨c, find?_of_mem_lockCommissions hdraw.mem,
      drawable_of_eligible (mem_lockCommissions.mp hdraw.mem).2, hallocates, min_le_right _ _⟩
  · rw [hrows, List.map_map]
    exact nodup_plan
  · intro a ha c hc older hmem hdrawable holder
    rw [hrows] at ha
    obtain ⟨e, he, rfl⟩ := List.mem_map.mp ha
    exact allocatedTo_older (hbounds older hmem hdrawable).2 hfree h he hc hmem hdrawable holder

end request
end CommissionService

/-- A request that passes the checks is served from the oldest commissions on when the
balance covers it, and otherwise refused. -/
theorem allocated_oldest_first {userId payoutId : String} {amount : ℚ} (now : DateTime)
    {db : Database}
    (hchecks : ∃ r role, findRequester userId amount db = .ok r ∧
      checkPayoutInProgress r db = .ok role)
    (hbounds : ∀ c ∈ db.commissions.rows, c.drawable userId = true →
      0 ≤ c.reservedAmount ∧ c.reservedAmount ≤ c.amount)
    (hpayout : db.commissionPayoutRequests.find? payoutId = none)
    (hfree : ∀ a ∈ db.commissionAllocations.rows, a.payoutId ≠ payoutId) :
    (amount ≤ db.commissions.sumWhere (Commission.drawable userId) available →
      ∃ request db', requestPayout userId amount payoutId now db = .ok (request, db') ∧
        AllocatesOldestFirst userId payoutId amount db db') ∧
    (db.commissions.sumWhere (Commission.drawable userId) available < amount →
      (requestPayout userId amount payoutId now db).isOk = false ∧
        committed db Prod.snd (requestPayout userId amount payoutId now db) = db) := by
  rw [totalAvailable_eq_sum_drawable fun c hc hdrawable => (hbounds c hc hdrawable).2]
  have haccepts : (∃ res, requestPayout userId amount payoutId now db = .ok res) ↔
      Accepts userId amount payoutId db := requestPayout_isOk_iff now fun _ => hfree
  constructor
  · intro hbalance
    obtain ⟨⟨request, db'⟩, h⟩ := haccepts.mpr ⟨hchecks, hbalance, hpayout⟩
    exact ⟨request, db', h, allocatesOldestFirst_requestPayout hbounds hfree h⟩
  · intro hshort
    cases h : requestPayout userId amount payoutId now db with
    | error err => exact ⟨rfl, rfl⟩
    | ok result => exact absurd (haccepts.mp ⟨result, h⟩).balance (not_le.mpr hshort)

/-- Three sales of an agent, the oldest of them reserved in part. -/
def threeSales : Database where
  users := ⟨[{ userId := "boss", role := .company, companyId := some "store" },
    { userId := "agent", role := .marketer, companyId := some "store"
      createdById := some "boss" }], by decide⟩
  commissions := ⟨[{ commissionId := "late", userId := "agent", amount := 40, createdAt := 3 },
    { commissionId := "early", userId := "agent", amount := 30, reservedAmount := 10
      status := .partiallyReserved, createdAt := 1 },
    { commissionId := "middle", userId := "agent", amount := 50, createdAt := 2 }], by decide⟩

/-- 60 are taken from the two older sales, 200 from none. -/
theorem allocated_from_three_sales :
    (∃ request db', requestPayout "agent" 60 "claim" 5 threeSales = .ok (request, db') ∧
      AllocatesOldestFirst "agent" "claim" 60 threeSales db') ∧
    (requestPayout "agent" 200 "claim" 5 threeSales).isOk = false := by
  have hchecks (amount : ℚ) (h : ¬ amount ≤ 0) :
      ∃ r role, findRequester "agent" amount threeSales = .ok r ∧
        checkPayoutInProgress r threeSales = .ok role :=
    ⟨_, _, if_neg h, rfl⟩
  have hbounds : ∀ c ∈ threeSales.commissions.rows, c.drawable "agent" = true →
      0 ≤ c.reservedAmount ∧ c.reservedAmount ≤ c.amount := by decide +kernel
  have hfree : ∀ a ∈ threeSales.commissionAllocations.rows, a.payoutId ≠ "claim" :=
    fun a ha => absurd ha List.not_mem_nil
  exact ⟨(allocated_oldest_first 5 (hchecks 60 (by norm_num)) hbounds rfl hfree).1
      (by decide +kernel),
    ((allocated_oldest_first 5 (hchecks 200 (by norm_num)) hbounds rfl hfree).2
      (by decide +kernel)).1⟩

example : (requestPayout "agent" 60 "claim" 5 threeSales).toOption.map
    (fun r => (allocationRows "claim" r.2).map fun a => (a.commissionId, a.allocatedAmount)) =
      some [("early", 20), ("middle", 40)] := by decide +kernel

end InstalFlow
