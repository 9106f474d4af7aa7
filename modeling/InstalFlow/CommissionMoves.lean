import InstalFlow.CommissionAllocations

/-!
# Moves on commissions

What the loops over allocations do to a commission: each turn makes one move on
the fund of its allocation rows and writes the row from the same move. A loop
visits distinct commissions, so all of it is one list of moves.
-/

namespace InstalFlow
open Relational Accounting

/-- The status written with a move. Only a settled reservation looks at the paid total. -/
def statusAfter (c : Commission) (m : Move ℚ) (totalPaid : ℚ) : CommissionStatus :=
  match m with
  | .stay => c.status
  | .settle _ =>
      derivePostPaymentStatus c.amount (c.reservedAmount + m.reservedChange) totalPaid
  | .reserve _ | .release _ | .reverse _ =>
      deriveReservationStatus (c.reservedAmount + m.reservedChange) c.amount

def Commission.afterMove (c : Commission) (m : Move ℚ) (totalPaid : ℚ) : Commission :=
  { c with
    reservedAmount := c.reservedAmount + m.reservedChange
    status := statusAfter c m totalPaid }

@[simp] theorem Commission.afterMove_commissionId (c : Commission) (m : Move ℚ) (p : ℚ) :
    (c.afterMove m p).commissionId = c.commissionId := rfl

@[simp] theorem Commission.afterMove_reservedAmount (c : Commission) (m : Move ℚ) (p : ℚ) :
    (c.afterMove m p).reservedAmount = c.reservedAmount + m.reservedChange := rfl

@[simp] theorem Commission.afterMove_stay (c : Commission) (p : ℚ) : c.afterMove .stay p = c := by
  simp [Commission.afterMove, statusAfter, Move.reservedChange]

structure Moved (db db' : Database) (id : String) (m : Move ℚ) : Prop where
  fund : db'.fund id = (db.fund id).apply m
  row : db'.commissions.find? id =
    (db.commissions.find? id).map (fun c => c.afterMove m (db'.fund id).paid)

def Applies (db db' : Database) (ms : List (String × Move ℚ)) : Prop :=
  ∀ id, Moved db db' id (moveOf ms id)

theorem Moved.refl {db db' : Database} (hc : db'.commissions = db.commissions)
    (ha : db'.commissionAllocations = db.commissionAllocations) (id : String) :
    Moved db db' id .stay := by
  have hfund : db'.fund id = db.fund id := by
    simp only [Database.fund, Database.sumAllocated, ha]
  exact ⟨by rw [hfund, Fund.apply_stay], by rw [hc]; simp⟩

theorem Moved.stay_trans {db₁ db₂ db₃ : Database} {id : String} {m : Move ℚ}
    (h : Moved db₁ db₂ id .stay) (h' : Moved db₂ db₃ id m) : Moved db₁ db₃ id m := by
  have hrow : db₂.commissions.find? id = db₁.commissions.find? id := by simpa using h.row
  refine ⟨?_, ?_⟩
  · rw [h'.fund, h.fund, Fund.apply_stay]
  · rw [h'.row, hrow]

theorem Moved.trans_stay {db₁ db₂ db₃ : Database} {id : String} {m : Move ℚ}
    (h : Moved db₁ db₂ id m) (h' : Moved db₂ db₃ id .stay) : Moved db₁ db₃ id m := by
  have hfund : db₃.fund id = db₂.fund id := by rw [h'.fund, Fund.apply_stay]
  have hrow : db₃.commissions.find? id = db₂.commissions.find? id := by simpa using h'.row
  exact ⟨by rw [hfund, h.fund], by rw [hrow, hfund, h.row]⟩

theorem Applies.refl {db db' : Database} (hc : db'.commissions = db.commissions)
    (ha : db'.commissionAllocations = db.commissionAllocations) : Applies db db' [] :=
  fun id => Moved.refl hc ha id

theorem Applies.cons {db₁ db₂ db₃ : Database} {id : String} {m : Move ℚ}
    {ms : List (String × Move ℚ)} (h : Applies db₁ db₂ [(id, m)]) (h' : Applies db₂ db₃ ms)
    (hid : id ∉ ms.map Prod.fst) : Applies db₁ db₃ ((id, m) :: ms) := by
  intro k
  have hk := h k
  have hk' := h' k
  by_cases he : k = id
  · subst he
    rw [moveOf_cons_self] at hk ⊢
    rw [moveOf_of_notMem hid] at hk'
    exact hk.trans_stay hk'
  · rw [moveOf_cons_ne he] at hk ⊢
    exact hk.stay_trans hk'

theorem Applies.refl_trans {db₁ db₃ : Database} (db₂ : Database) {ms : List (String × Move ℚ)}
    (hc : db₂.commissions = db₁.commissions)
    (ha : db₂.commissionAllocations = db₁.commissionAllocations) (h : Applies db₂ db₃ ms) :
    Applies db₁ db₃ ms :=
  fun id => (Moved.refl hc ha id).stay_trans (h id)

theorem Applies.trans_refl {db₁ db₂ db₃ : Database} {ms : List (String × Move ℚ)}
    (h : Applies db₁ db₂ ms) (hc : db₃.commissions = db₂.commissions)
    (ha : db₃.commissionAllocations = db₂.commissionAllocations) : Applies db₁ db₃ ms :=
  fun id => (h id).trans_stay (Moved.refl hc ha id)

theorem Moved.isSome {db db' : Database} {id : String} {m : Move ℚ} (h : Moved db db' id m) :
    (db'.commissions.find? id).isSome = (db.commissions.find? id).isSome := by
  rw [h.row, Option.isSome_map]

inductive Turn
  | settle | release | reverse | reReserve

namespace Turn

def source : Turn → CommissionAllocationStatus
  | .settle | .release => .reserved
  | .reverse => .paid
  | .reReserve => .released

def target : Turn → CommissionAllocationStatus
  | .settle => .paid
  | .release => .released
  | .reverse | .reReserve => .reserved

def move : Turn → ℚ → Move ℚ
  | .settle => .settle
  | .release => .release
  | .reverse => .reverse
  | .reReserve => .reserve

def body : Turn → Database → JoinedAllocation → Database
  | .settle => settleAllocation
  | .release => releaseAllocation
  | .reverse | .reReserve => restoreAllocation

def moves (t : Turn) (js : List JoinedAllocation) : List (String × Move ℚ) :=
  js.map (fun j => (j.allocation.commissionId, t.move j.allocation.allocatedAmount))

end Turn

structure JoinedAllocation.Current (db : Database) (j : JoinedAllocation) : Prop where
  allocation : db.commissionAllocations.find? j.allocation.key = some j.allocation
  commission : db.commissions.find? j.allocation.commissionId = some j.commission

theorem sumAllocated_setAllocationStatus {db : Database} {key : String × String}
    {a : CommissionAllocation} (h : db.commissionAllocations.find? key = some a)
    (status s : CommissionAllocationStatus) (id : String) :
    (db.setAllocationStatus key status).sumAllocated id s = db.sumAllocated id s +
      ((if a.commissionId = id ∧ status = s then a.allocatedAmount else 0) -
        (if a.commissionId = id ∧ a.status = s then a.allocatedAmount else 0)) := by
  simpa [Database.sumAllocated, Database.setAllocationStatus, Table.term] using
    Table.sumWhere_update h (fun a => { a with status }) (fun _ => rfl)
      (fun a => a.commissionId = id ∧ a.status = s) CommissionAllocation.allocatedAmount

theorem fund_setAllocationStatus {db : Database} {key : String × String}
    {a : CommissionAllocation} (h : db.commissionAllocations.find? key = some a) (t : Turn)
    (hs : a.status = t.source) (id : String) :
    (db.setAllocationStatus key t.target).fund id =
      (db.fund id).apply (moveOf [(a.commissionId, t.move a.allocatedAmount)] id) := by
  by_cases hid : id = a.commissionId
  · subst hid
    rw [moveOf_cons_self]
    cases t <;> ext <;>
      simp [Database.fund, sumAllocated_setAllocationStatus h, hs, Turn.source, Turn.target,
        Turn.move, Move.reservedChange, Move.paidChange]
  · have hne : a.commissionId ≠ id := fun he => hid he.symm
    rw [moveOf_cons_ne hid, moveOf_nil, Fund.apply_stay]
    ext <;> simp [Database.fund, sumAllocated_setAllocationStatus h, hne]

theorem sumAllocated_create {db db' : Database} {a : CommissionAllocation}
    (h : db.commissionAllocations.create a = some db'.commissionAllocations)
    (s : CommissionAllocationStatus) (id : String) :
    db'.sumAllocated id s = db.sumAllocated id s +
      if a.commissionId = id ∧ a.status = s then a.allocatedAmount else 0 := by
  rw [Database.sumAllocated, Table.sumWhere_create h]
  simp [Database.sumAllocated, Table.term]

theorem fund_create {db db' : Database} {a : CommissionAllocation}
    (h : db.commissionAllocations.create a = some db'.commissionAllocations)
    (hs : a.status = .reserved) (id : String) :
    db'.fund id = (db.fund id).apply (moveOf [(a.commissionId, .reserve a.allocatedAmount)] id) := by
  by_cases hid : id = a.commissionId
  · subst hid
    rw [moveOf_cons_self]
    ext <;> simp [Database.fund, sumAllocated_create h, hs, Move.reservedChange, Move.paidChange]
  · have hne : a.commissionId ≠ id := fun he => hid he.symm
    rw [moveOf_cons_ne hid, moveOf_nil, Fund.apply_stay]
    ext <;> simp [Database.fund, sumAllocated_create h, hne]

theorem find?_setReservation (db : Database) (id k : String) (reservedAmount : ℚ)
    (status : CommissionStatus) :
    (db.setReservation id reservedAmount status).commissions.find? k =
      if k = id then (db.commissions.find? k).map (fun c => { c with reservedAmount, status })
      else db.commissions.find? k :=
  Table.find?_update db.commissions id k (fun c => { c with reservedAmount, status }) (fun _ => rfl)

theorem find?_setAllocationStatus (db : Database) (key k : String × String)
    (status : CommissionAllocationStatus) :
    (db.setAllocationStatus key status).commissionAllocations.find? k =
      if k = key then (db.commissionAllocations.find? k).map (fun a => { a with status })
      else db.commissionAllocations.find? k :=
  Table.find?_update db.commissionAllocations key k (fun a => { a with status }) (fun _ => rfl)

/-- A turn marks its allocation and writes the row of its commission with the
move that the mark makes. -/
theorem Turn.body_eq (t : Turn) (db : Database) (j : JoinedAllocation) :
    t.body db j = (db.setAllocationStatus j.allocation.key t.target).setReservation
      j.allocation.commissionId
      (j.commission.reservedAmount + (t.move j.allocation.allocatedAmount).reservedChange)
      (statusAfter j.commission (t.move j.allocation.allocatedAmount)
        ((db.setAllocationStatus j.allocation.key t.target).fund
          j.allocation.commissionId).paid) := by
  cases t with
  | settle => simp [body, settleAllocation, target, move, statusAfter, Move.reservedChange,
      Database.fund, sub_eq_add_neg]
  | release => simp [body, releaseAllocation, target, move, statusAfter, Move.reservedChange,
      sub_eq_add_neg]
  | reverse => rfl
  | reReserve => rfl

theorem Turn.body_commissionAllocations (t : Turn) (db : Database) (j : JoinedAllocation) :
    (t.body db j).commissionAllocations =
      (db.setAllocationStatus j.allocation.key t.target).commissionAllocations := by
  rw [t.body_eq]
  rfl

theorem Turn.body_applies (t : Turn) {db : Database} {j : JoinedAllocation} (hj : j.Current db)
    (hs : j.allocation.status = t.source) : Applies db (t.body db j) (t.moves [j]) := by
  intro id
  have hfund : (t.body db j).fund id = (db.fund id).apply (moveOf (t.moves [j]) id) := by
    refine Eq.trans ?_ (fund_setAllocationStatus hj.allocation t hs id)
    simp only [Database.fund, Database.sumAllocated, t.body_commissionAllocations]
  refine ⟨hfund, ?_⟩
  by_cases hid : id = j.allocation.commissionId
  · subst hid
    have hpaid : ((db.setAllocationStatus j.allocation.key t.target).fund
        j.allocation.commissionId).paid = ((t.body db j).fund j.allocation.commissionId).paid := by
      rw [hfund, fund_setAllocationStatus hj.allocation t hs]
      rfl
    have hrow : (db.setAllocationStatus j.allocation.key t.target).commissions.find?
        j.allocation.commissionId = some j.commission := hj.commission
    rw [hj.commission]
    simp only [Turn.moves, List.map_cons, List.map_nil, moveOf_cons_self, Option.map_some]
    rw [← hpaid, t.body_eq, find?_setReservation, if_pos rfl, hrow]
    rfl
  · have hstay : moveOf (t.moves [j]) id = .stay := by
      rw [Turn.moves, List.map_cons, moveOf_cons_ne hid]
      rfl
    rw [t.body_eq, find?_setReservation, if_neg hid, hstay]
    simp [Database.setAllocationStatus]

theorem Turn.body_current (t : Turn) {db : Database} {i j : JoinedAllocation}
    (hj : j.Current db) (hid : j.allocation.commissionId ≠ i.allocation.commissionId) :
    j.Current (t.body db i) := by
  have hkey : j.allocation.key ≠ i.allocation.key := fun he => hid (congrArg Prod.snd he)
  constructor
  · rw [t.body_commissionAllocations, find?_setAllocationStatus, if_neg hkey]
    exact hj.allocation
  · rw [t.body_eq, find?_setReservation, if_neg hid]
    exact hj.commission

theorem Turn.foldl_applies (t : Turn) {db : Database} {js : List JoinedAllocation}
    (hcur : ∀ j ∈ js, j.Current db) (hs : ∀ j ∈ js, j.allocation.status = t.source)
    (hn : (js.map (fun j => j.allocation.commissionId)).Nodup) :
    Applies db (js.foldl t.body db) (t.moves js) := by
  induction js generalizing db with
  | nil => exact Applies.refl rfl rfl
  | cons i js ih =>
    rw [List.map_cons, List.nodup_cons] at hn
    have hi := hcur i (List.mem_cons_self ..)
    have hcur' : ∀ j ∈ js, j.Current (t.body db i) := by
      intro j hj
      refine t.body_current (hcur j (List.mem_cons_of_mem _ hj)) fun he => hn.1 ?_
      exact List.mem_map.mpr ⟨j, hj, he⟩
    have hbody := t.body_applies hi (hs i (List.mem_cons_self ..))
    refine hbody.cons (ih hcur' (fun j hj => hs j (List.mem_cons_of_mem _ hj)) hn.2) ?_
    simpa [Turn.moves, Function.comp_def] using hn.1

theorem Turn.foldl_frame (t : Turn) (db : Database) (js : List JoinedAllocation) :
    ∃ commissions commissionAllocations,
      js.foldl t.body db = { db with commissions, commissionAllocations } := by
  induction js generalizing db with
  | nil => exact ⟨db.commissions, db.commissionAllocations, rfl⟩
  | cons i js ih =>
    obtain ⟨cs, as, h⟩ := ih (t.body db i)
    refine ⟨cs, as, ?_⟩
    rw [List.foldl_cons, h, t.body_eq]
    rfl

theorem Turn.foldl_find? (t : Turn) (db : Database) (js : List JoinedAllocation)
    (key : String × String) :
    (js.foldl t.body db).commissionAllocations.find? key =
      (db.commissionAllocations.find? key).map (fun a =>
        if key ∈ js.map (fun j => j.allocation.key) then { a with status := t.target } else a) := by
  induction js generalizing db with
  | nil => simp
  | cons i js ih =>
    rw [List.foldl_cons, ih, t.body_commissionAllocations, find?_setAllocationStatus]
    by_cases hk : key = i.allocation.key
    · subst hk
      cases db.commissionAllocations.find? i.allocation.key <;> simp
    · simp [hk]

theorem Turn.foldl_rows (t : Turn) (db : Database) (js : List JoinedAllocation)
    {a' : CommissionAllocation} (h : a' ∈ (js.foldl t.body db).commissionAllocations.rows) :
    ∃ a ∈ db.commissionAllocations.rows, ∃ status, a' = { a with status } := by
  have hfind := Table.find?_of_mem h
  rw [t.foldl_find?, Option.map_eq_some_iff] at hfind
  obtain ⟨a, ha, he⟩ := hfind
  refine ⟨a, Table.mem_of_find? ha, ?_⟩
  split at he
  · exact ⟨t.target, he.symm⟩
  · exact ⟨a.status, he.symm⟩

section load
variable {db : Database} {payoutId : String}

theorem current_of_mem_allocationsOf {j : JoinedAllocation} (h : j ∈ db.allocationsOf payoutId) :
    j.Current db ∧ j.allocation.payoutId = payoutId := by
  obtain ⟨a, ha, hj⟩ := List.mem_filterMap.mp h
  obtain ⟨hmem, hp⟩ := List.mem_filter.mp ha
  obtain ⟨c, hc, rfl⟩ := Option.map_eq_some_iff.mp hj
  exact ⟨⟨Table.find?_of_mem hmem, hc⟩, by simpa using hp⟩

theorem allocationsOf_sublist (db : Database) (payoutId : String) :
    ((db.allocationsOf payoutId).map JoinedAllocation.allocation).Sublist
      db.commissionAllocations.rows := by
  have hsub : ∀ as : List CommissionAllocation, ((as.filterMap (fun a =>
      (db.commissions.find? a.commissionId).map (JoinedAllocation.mk a))).map
        JoinedAllocation.allocation).Sublist as := by
    intro as
    induction as with
    | nil => exact List.Sublist.refl _
    | cons a as ih =>
      cases hc : db.commissions.find? a.commissionId with
      | none => simpa [hc] using ih.cons a
      | some c => simpa [hc] using ih.cons_cons a
  exact (hsub _).trans List.filter_sublist

/-- The unique pair of payout and commission makes a payout's commissions distinct. -/
theorem nodup_allocationsOf :
    ((db.allocationsOf payoutId).map (fun j => j.allocation.commissionId)).Nodup := by
  have hkeys : ((db.allocationsOf payoutId).map (fun j => j.allocation.key)).Nodup := by
    have := (allocationsOf_sublist db payoutId).map CommissionAllocation.key
    simpa [Function.comp_def] using this.nodup db.commissionAllocations.unique
  rw [List.Nodup, List.pairwise_map] at hkeys ⊢
  refine hkeys.imp_of_mem fun hi hj hne he => hne ?_
  exact Prod.ext ((current_of_mem_allocationsOf hi).2.trans
    (current_of_mem_allocationsOf hj).2.symm) he

theorem mem_withStatus {status : CommissionAllocationStatus} {js : List JoinedAllocation}
    {j : JoinedAllocation} : j ∈ withStatus status js ↔ j ∈ js ∧ j.allocation.status = status := by
  simp [withStatus]

theorem Turn.loop_applies (t : Turn) (payoutId : String) (db : Database) :
    Applies db ((withStatus t.source (db.allocationsOf payoutId)).foldl t.body db)
      (t.moves (withStatus t.source (db.allocationsOf payoutId))) := by
  apply t.foldl_applies
  · intro j hj
    exact (current_of_mem_allocationsOf (mem_withStatus.mp hj).1).1
  · intro j hj
    exact (mem_withStatus.mp hj).2
  · exact (List.filter_sublist.map _).nodup nodup_allocationsOf

end load
end InstalFlow
