import InstalFlow.CommissionMoves
import InstalFlow.CommissionService
import Mathlib.Tactic.Linarith

/-!
# What a payout request reserves

The plan of a request draws on the locked commissions in order, each as far as
those before it leave something to draw. Carrying the plan out reserves on each
drawn commission what the plan says, and fails only on an allocation that is
already there.
-/

namespace InstalFlow
open Relational Accounting

namespace CommissionService
section locked
variable {userId : String} {db : Database}

theorem mem_lockCommissions {c : Commission} :
    c ∈ lockCommissions userId db ↔ c ∈ db.commissions.rows ∧ eligible userId c := by
  rw [lockCommissions, (List.perm_insertionSort _ _).mem_iff, List.mem_filter]

theorem nodup_lockCommissions :
    ((lockCommissions userId db).map Commission.commissionId).Nodup := by
  have hsorted := (List.perm_insertionSort (fun a b : Commission => a.createdAt ≤ b.createdAt)
    (db.commissions.rows.filter (eligible userId))).map Commission.commissionId
  exact hsorted.nodup_iff.mpr ((List.filter_sublist.map _).nodup db.commissions.unique)

theorem find?_of_mem_lockCommissions {c : Commission} (h : c ∈ lockCommissions userId db) :
    db.commissions.find? c.commissionId = some c :=
  Table.find?_of_mem (mem_lockCommissions.mp h).1

theorem available_pos {c : Commission} (h : c ∈ lockCommissions userId db) : 0 < available c := by
  have he := (mem_lockCommissions.mp h).2
  simp only [eligible, decide_eq_true_eq] at he
  exact sub_pos.mpr he.2.2.2

end locked

@[simp] theorem totalAvailable_nil : totalAvailable [] = 0 := rfl

@[simp] theorem totalAvailable_cons (c : Commission) (cs : List Commission) :
    totalAvailable (c :: cs) = available c + totalAvailable cs := rfl

theorem totalAvailable_nonneg {cs : List Commission} (h : ∀ c ∈ cs, 0 < available c) :
    0 ≤ totalAvailable cs := by
  apply List.sum_nonneg
  intro x hx
  obtain ⟨c, hc, rfl⟩ := List.mem_map.mp hx
  exact (h c hc).le

/-- A request over `amount` draws on `c` when the commissions before it leave `rest` of it. -/
def Draws (amount : ℚ) (cs : List Commission) (c : Commission) (rest : ℚ) : Prop :=
  0 < rest ∧ ∃ before after, cs = before ++ c :: after ∧ rest = amount - totalAvailable before

theorem Draws.mem {amount rest : ℚ} {cs : List Commission} {c : Commission}
    (h : Draws amount cs c rest) : c ∈ cs := by
  obtain ⟨-, before, after, rfl, -⟩ := h
  simp

theorem draws_cons {amount rest : ℚ} {c d : Commission} {cs : List Commission} :
    Draws amount (c :: cs) d rest ↔
      (d = c ∧ rest = amount ∧ 0 < amount) ∨ Draws (amount - available c) cs d rest := by
  constructor
  · intro h
    obtain ⟨hpos, before, after, hcs, hrest⟩ := h
    cases before with
    | nil =>
      cases hcs
      rw [totalAvailable_nil, sub_zero] at hrest
      exact .inl ⟨rfl, hrest, hrest ▸ hpos⟩
    | cons b before =>
      cases hcs
      exact .inr ⟨hpos, before, after, rfl, by rw [hrest, totalAvailable_cons]; ring⟩
  · intro h
    rcases h with ⟨rfl, rfl, hpos⟩ | ⟨hpos, before, after, rfl, rfl⟩
    · exact ⟨hpos, [], cs, rfl, by simp⟩
    · exact ⟨hpos, c :: before, after, rfl, by rw [totalAvailable_cons]; ring⟩

theorem not_draws_of_nonpos {amount rest : ℚ} {cs : List Commission} {c : Commission}
    (hcs : ∀ c ∈ cs, 0 < available c) (h : amount ≤ 0) : ¬ Draws amount cs c rest := by
  intro hx
  obtain ⟨hpos, before, after, rfl, rfl⟩ := hx
  have := totalAvailable_nonneg fun d hd => hcs d (List.mem_append_left _ hd)
  linarith

theorem mem_planAllocations {amount : ℚ} {cs : List Commission} (hcs : ∀ c ∈ cs, 0 < available c)
    {e : AllocationEntry} : e ∈ planAllocations amount cs ↔ ∃ c rest, Draws amount cs c rest ∧
      e = ⟨c.commissionId, min rest (available c), c.reservedAmount, c.amount⟩ := by
  induction cs generalizing amount with
  | nil => simp [planAllocations, Draws]
  | cons c cs ih =>
    have hc := hcs c (List.mem_cons_self ..)
    have hrest : ∀ d ∈ cs, 0 < available d := fun d hd => hcs d (List.mem_cons_of_mem _ hd)
    by_cases hamount : amount ≤ 0
    · simp [planAllocations, hamount, not_draws_of_nonpos hcs hamount]
    · have hdraw : ∀ d rest, Draws (amount - min amount (available c)) cs d rest ↔
          Draws (amount - available c) cs d rest := by
        intro d rest
        rcases le_total (available c) amount with hle | hle
        · rw [min_eq_right hle]
        · have hzero : amount - min amount (available c) ≤ 0 := by rw [min_eq_left hle, sub_self]
          exact iff_of_false (not_draws_of_nonpos hrest hzero)
            (not_draws_of_nonpos hrest (sub_nonpos.mpr hle))
      simp only [planAllocations, if_neg hamount, if_neg (not_le.mpr hc), List.mem_cons, ih hrest,
        hdraw, draws_cons]
      constructor
      · intro h
        rcases h with rfl | ⟨d, rest, hd, rfl⟩
        · exact ⟨c, amount, .inl ⟨rfl, rfl, not_le.mp hamount⟩, rfl⟩
        · exact ⟨d, rest, .inr hd, rfl⟩
      · intro h
        obtain ⟨d, rest, ⟨rfl, rfl, -⟩ | hd, rfl⟩ := h
        · exact .inl rfl
        · exact .inr ⟨d, rest, hd, rfl⟩

theorem planAllocations_sublist (amount : ℚ) (cs : List Commission) :
    ((planAllocations amount cs).map AllocationEntry.commissionId).Sublist
      (cs.map Commission.commissionId) := by
  induction cs generalizing amount with
  | nil => exact List.Sublist.refl _
  | cons c cs ih =>
    simp only [planAllocations, List.map_cons]
    split
    · exact List.nil_sublist _
    · split
      · exact (ih amount).cons _
      · exact (ih _).cons_cons _

theorem sum_planAllocations {amount : ℚ} {cs : List Commission} (h0 : 0 ≤ amount)
    (hcs : ∀ c ∈ cs, 0 < available c) (h : amount ≤ totalAvailable cs) :
    ((planAllocations amount cs).map AllocationEntry.toAllocate).sum = amount := by
  induction cs generalizing amount with
  | nil =>
    have : amount = 0 := le_antisymm h h0
    simp [planAllocations, this]
  | cons c cs ih =>
    rw [totalAvailable_cons] at h
    have hrest : ∀ d ∈ cs, 0 < available d := fun d hd => hcs d (List.mem_cons_of_mem _ hd)
    have hsum := totalAvailable_nonneg hrest
    by_cases hamount : amount ≤ 0
    · simp [planAllocations, le_antisymm hamount h0]
    · have hmin : min amount (available c) ≤ amount := min_le_left ..
      have hle : amount - min amount (available c) ≤ totalAvailable cs := by
        rcases min_choice amount (available c) with hm | hm <;> rw [hm] <;> linarith
      simp only [planAllocations, if_neg hamount, if_neg (not_le.mpr (hcs c (List.mem_cons_self ..))),
        List.map_cons, List.sum_cons]
      rw [ih (sub_nonneg.mpr hmin) hrest hle]
      ring

end CommissionService

namespace CommissionService
section plan
variable {payoutId : String} {db db' : Database}

def AllocationEntry.Current (db : Database) (e : AllocationEntry) : Prop :=
  ∃ c, db.commissions.find? e.commissionId = some c ∧ c.reservedAmount = e.currentReserved ∧
    c.amount = e.totalAmount

def AllocationEntry.move (e : AllocationEntry) : String × Move ℚ :=
  (e.commissionId, .reserve e.toAllocate)

def AllocationEntry.row (payoutId : String) (e : AllocationEntry) : CommissionAllocation :=
  ⟨payoutId, e.commissionId, e.toAllocate, .reserved⟩

theorem reserveEntry_eq_ok {e : AllocationEntry} (h : reserveEntry payoutId db e = .ok db') :
    ∃ commissionAllocations,
      db.commissionAllocations.create (e.row payoutId) = some commissionAllocations ∧
      db' = Database.setReservation { db with commissionAllocations } e.commissionId
        (e.currentReserved + e.toAllocate)
        (deriveReservationStatus (e.currentReserved + e.toAllocate) e.totalAmount) := by
  rw [reserveEntry] at h
  split at h
  · cases h
  · rename_i as has
    cases h
    exact ⟨as, createRow_eq_ok.mp has, rfl⟩

theorem reserveEntry_applies {e : AllocationEntry} (h : reserveEntry payoutId db e = .ok db')
    (hcur : e.Current db) : Applies db db' [e.move] := by
  obtain ⟨as, has, rfl⟩ := reserveEntry_eq_ok h
  obtain ⟨c, hc, hreserved, hamount⟩ := hcur
  intro id
  constructor
  · exact fund_create (a := e.row payoutId) has rfl id
  · rw [find?_setReservation]
    by_cases hid : id = e.commissionId
    · subst hid
      simp [hc, AllocationEntry.move, Commission.afterMove, statusAfter, Move.reservedChange,
        hreserved, hamount]
    · rw [if_neg hid, AllocationEntry.move, moveOf_cons_ne hid]
      simp

theorem reservePlan_applies {es : List AllocationEntry} (h : reservePlan payoutId db es = .ok db')
    (hcur : ∀ e ∈ es, e.Current db) (hn : (es.map AllocationEntry.commissionId).Nodup) :
    Applies db db' (es.map AllocationEntry.move) := by
  induction es generalizing db with
  | nil =>
    cases h
    exact Applies.refl rfl rfl
  | cons e es ih =>
    rw [List.map_cons, List.nodup_cons] at hn
    simp only [reservePlan] at h
    split at h
    · cases h
    · rename_i db₁ he
      have hcur' : ∀ f ∈ es, f.Current db₁ := by
        intro f hf
        obtain ⟨c, hc, hrow⟩ := hcur f (List.mem_cons_of_mem _ hf)
        obtain ⟨as, -, rfl⟩ := reserveEntry_eq_ok he
        have hne : f.commissionId ≠ e.commissionId := fun heq =>
          hn.1 (List.mem_map.mpr ⟨f, hf, heq⟩)
        exact ⟨c, by rw [find?_setReservation, if_neg hne]; exact hc, hrow⟩
      have hstep := reserveEntry_applies he (hcur e (List.mem_cons_self ..))
      refine hstep.cons (ih h hcur' hn.2) ?_
      simpa [AllocationEntry.move, Function.comp_def] using hn.1

theorem reservePlan_frame {es : List AllocationEntry} (h : reservePlan payoutId db es = .ok db') :
    (∃ commissions commissionAllocations, db' = { db with commissions, commissionAllocations }) ∧
      db'.commissionAllocations.rows =
        db.commissionAllocations.rows ++ es.map (AllocationEntry.row payoutId) := by
  induction es generalizing db with
  | nil =>
    cases h
    exact ⟨⟨_, _, rfl⟩, by simp⟩
  | cons e es ih =>
    simp only [reservePlan] at h
    split at h
    · cases h
    · rename_i db₁ he
      obtain ⟨as, has, rfl⟩ := reserveEntry_eq_ok he
      obtain ⟨⟨cs, as', rfl⟩, hrows⟩ := ih h
      refine ⟨⟨cs, as', rfl⟩, hrows.trans ?_⟩
      have hrow := (Table.create_eq_some has).2
      simp [Database.setReservation, hrow]

theorem reservePlan_isOk {es : List AllocationEntry}
    (hfree : ∀ e ∈ es, db.commissionAllocations.find? (payoutId, e.commissionId) = none)
    (hn : (es.map AllocationEntry.commissionId).Nodup) :
    ∃ db', reservePlan payoutId db es = .ok db' := by
  induction es generalizing db with
  | nil => exact ⟨db, rfl⟩
  | cons e es ih =>
    rw [List.map_cons, List.nodup_cons] at hn
    obtain ⟨as, has⟩ := Table.create_isSome (r := e.row payoutId) (hfree e (List.mem_cons_self ..))
    have hentry : ∃ db₁, reserveEntry payoutId db e = .ok db₁ := by
      have hrow : createRow _ _ ["payoutId", "commissionId"] = .ok as := createRow_eq_ok.mpr has
      simp only [AllocationEntry.row] at hrow
      simp only [reserveEntry, hrow]
      exact ⟨_, rfl⟩
    obtain ⟨db₁, he⟩ := hentry
    have hfree' : ∀ f ∈ es, db₁.commissionAllocations.find? (payoutId, f.commissionId) = none := by
      intro f hf
      obtain ⟨as', has', rfl⟩ := reserveEntry_eq_ok he
      have hkey : (payoutId, f.commissionId) ≠ (e.row payoutId).key := fun heq =>
        hn.1 (List.mem_map.mpr ⟨f, hf, congrArg Prod.snd heq⟩)
      refine (Table.find?_create has' _).trans ?_
      rw [if_neg hkey]
      exact hfree f (List.mem_cons_of_mem _ hf)
    obtain ⟨db', h⟩ := ih hfree' hn.2
    exact ⟨db', by simp only [reservePlan, he, h]⟩

end plan

section request
variable {userId payoutId : String} {amount : ℚ} {now : DateTime} {db db' : Database}
  {r : Requester} {role : Role} {request : CommissionPayoutRequest}

theorem findRequester_eq_ok (h : findRequester userId amount db = .ok r) :
    r.user.userId = userId ∧ 0 < amount := by
  rw [findRequester] at h
  split at h
  · cases h
  · rename_i user huser
    split at h
    · cases h
    · split at h
      · cases h
      · rename_i hamount
        cases h
        exact ⟨Table.find?_key huser, not_le.mp hamount⟩

theorem findRequester_company (h : findRequester userId amount db = .ok r) :
    db.users.find? r.user.userId = some r.user ∧ r.user.companyId = some r.companyId := by
  rw [findRequester] at h
  split at h
  · cases h
  · rename_i user huser
    split at h
    · cases h
    · rename_i companyId hcompany
      split at h
      · cases h
      · cases h
        rw [← Table.find?_key huser] at huser
        exact ⟨huser, hcompany⟩

theorem current_of_mem_plan {e : AllocationEntry}
    (he : e ∈ planAllocations amount (lockCommissions userId db)) : e.Current db := by
  obtain ⟨c, rest, hdraw, rfl⟩ := (mem_planAllocations fun _ => available_pos).mp he
  exact ⟨c, find?_of_mem_lockCommissions hdraw.mem, rfl, rfl⟩

theorem owner_of_mem_plan {e : AllocationEntry}
    (he : e ∈ planAllocations amount (lockCommissions userId db)) :
    ∃ c ∈ db.commissions.rows, c.commissionId = e.commissionId ∧ c.userId = userId := by
  obtain ⟨c, rest, hdraw, rfl⟩ := (mem_planAllocations fun _ => available_pos).mp he
  obtain ⟨hmem, heligible⟩ := mem_lockCommissions.mp hdraw.mem
  simp only [eligible, decide_eq_true_eq] at heligible
  exact ⟨c, hmem, rfl, heligible.1⟩

theorem toAllocate_pos {e : AllocationEntry}
    (he : e ∈ planAllocations amount (lockCommissions userId db)) : 0 < e.toAllocate := by
  obtain ⟨c, rest, hdraw, rfl⟩ := (mem_planAllocations fun _ => available_pos).mp he
  exact lt_min hdraw.1 (available_pos hdraw.mem)

theorem nodup_plan : ((planAllocations amount (lockCommissions userId db)).map
    AllocationEntry.commissionId).Nodup :=
  (planAllocations_sublist _ _).nodup nodup_lockCommissions

theorem createPayout_eq_ok (h : createPayout r role amount payoutId now db = .ok (request, db')) :
    amount ≤ totalAvailable (lockCommissions r.user.userId db) ∧
    request =
      { payoutId, userId := r.user.userId, companyId := r.companyId, amount
        status := initialStatus r role, requestedAt := now } ∧
    ∃ commissionPayoutRequests,
      db.commissionPayoutRequests.create request = some commissionPayoutRequests ∧
      reservePlan payoutId { db with commissionPayoutRequests }
        (planAllocations amount (lockCommissions r.user.userId db)) = .ok db' := by
  rw [createPayout] at h
  simp only at h
  split at h
  · cases h
  · rename_i hbalance
    split at h
    · cases h
    · rename_i payouts hpayouts
      split at h
      · cases h
      · rename_i db₁ hplan
        cases h
        exact ⟨not_lt.mp hbalance, rfl, payouts, createRow_eq_ok.mp hpayouts, hplan⟩

theorem createPayout_applies
    (h : createPayout r role amount payoutId now db = .ok (request, db')) : Applies db db'
      ((planAllocations amount (lockCommissions r.user.userId db)).map AllocationEntry.move) := by
  obtain ⟨-, -, payouts, -, hplan⟩ := createPayout_eq_ok h
  refine Applies.refl_trans { db with commissionPayoutRequests := payouts } rfl rfl ?_
  exact reservePlan_applies hplan (fun e he => current_of_mem_plan he) nodup_plan

theorem createPayout_isOk (hbalance : amount ≤ totalAvailable (lockCommissions r.user.userId db))
    (hpayout : db.commissionPayoutRequests.find? payoutId = none)
    (hfree : ∀ a ∈ db.commissionAllocations.rows, a.payoutId ≠ payoutId) :
    ∃ res, createPayout r role amount payoutId now db = .ok res := by
  obtain ⟨payouts, hpayouts⟩ := Table.create_isSome
    (r := { payoutId, userId := r.user.userId, companyId := r.companyId, amount,
            status := initialStatus r role, requestedAt := now : CommissionPayoutRequest }) hpayout
  obtain ⟨db', hplan⟩ : ∃ db', reservePlan payoutId
      { db with commissionPayoutRequests := payouts }
      (planAllocations amount (lockCommissions r.user.userId db)) = .ok db' := reservePlan_isOk
    (fun e _ => Table.find?_eq_none_iff.mpr fun a ha hkey => hfree a ha (congrArg Prod.fst hkey))
    nodup_plan
  have hrow : createRow _ _ ["payoutId"] = .ok payouts := createRow_eq_ok.mpr hpayouts
  simp only [createPayout, if_neg (not_lt.mpr hbalance), hrow, hplan]
  exact ⟨_, rfl⟩

theorem requestPayout_eq_ok
    (h : requestPayout userId amount payoutId now db = .ok (request, db')) :
    ∃ r role, findRequester userId amount db = .ok r ∧ checkPayoutInProgress r db = .ok role ∧
      createPayout r role amount payoutId now db = .ok (request, db') := by
  rw [requestPayout] at h
  split at h
  · cases h
  · rename_i r hr
    split at h
    · cases h
    · rename_i role hrole
      exact ⟨r, role, hr, hrole, h⟩

theorem requestPayout_applies
    (h : requestPayout userId amount payoutId now db = .ok (request, db')) : Applies db db'
      ((planAllocations amount (lockCommissions userId db)).map AllocationEntry.move) := by
  obtain ⟨r, role, hr, -, hcreate⟩ := requestPayout_eq_ok h
  have := createPayout_applies hcreate
  rwa [(findRequester_eq_ok hr).1] at this

structure Accepts (userId : String) (amount : ℚ) (payoutId : String) (db : Database) : Prop where
  checks : ∃ r role, findRequester userId amount db = .ok r ∧ checkPayoutInProgress r db = .ok role
  balance : amount ≤ totalAvailable (lockCommissions userId db)
  payoutId : db.commissionPayoutRequests.find? payoutId = none

theorem requestPayout_isOk_iff (now : DateTime)
    (hfree : db.commissionPayoutRequests.find? payoutId = none →
      ∀ a ∈ db.commissionAllocations.rows, a.payoutId ≠ payoutId) :
    (∃ res, requestPayout userId amount payoutId now db = .ok res) ↔
      Accepts userId amount payoutId db := by
  constructor
  · intro hx
    obtain ⟨⟨request, db'⟩, h⟩ := hx
    obtain ⟨r, role, hr, hrole, hcreate⟩ := requestPayout_eq_ok h
    obtain ⟨hbalance, hrequest, payouts, hpayouts, -⟩ := createPayout_eq_ok hcreate
    rw [(findRequester_eq_ok hr).1] at hbalance
    have hnone := (Table.create_eq_some hpayouts).1
    rw [hrequest] at hnone
    exact ⟨⟨r, role, hr, hrole⟩, hbalance, hnone⟩
  · intro hx
    obtain ⟨⟨r, role, hr, hrole⟩, hbalance, hpayout⟩ := hx
    rw [← (findRequester_eq_ok hr).1] at hbalance
    obtain ⟨res, hres⟩ : ∃ res, createPayout r role amount payoutId now db = .ok res :=
      createPayout_isOk hbalance hpayout (hfree hpayout)
    exact ⟨res, by simp only [requestPayout, hr, hrole, hres]⟩

end request
end CommissionService
end InstalFlow
