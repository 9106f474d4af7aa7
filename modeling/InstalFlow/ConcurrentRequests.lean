import InstalFlow.PayoutRun
import InstalFlow.Transition.Interleaving

/-!
# Concurrent payout requests

`requestPayout` reads the requester, then whether a payout is in progress, and
then runs its transaction. Between these the statements of other requests may be
executed. Each transaction takes its amount from the available balance, so two
requests that both pass the check are both served when the balance covers them.
-/

namespace InstalFlow
open Relational Transition

namespace CommissionService
section balance
variable {userId payoutId : String} {db db' : Database}

theorem totalAvailable_lockCommissions : totalAvailable (lockCommissions userId db) =
    db.commissions.sumWhere (eligible userId) available := by
  rw [totalAvailable, lockCommissions, Table.sumWhere]
  exact ((List.perm_insertionSort _ _).map available).sum_eq

def AllocationEntry.Covered (userId : String) (db : Database) (e : AllocationEntry) : Prop :=
  ∃ c, db.commissions.find? e.commissionId = some c ∧ eligible userId c ∧
    c.reservedAmount = e.currentReserved ∧ c.amount = e.totalAmount ∧ e.toAllocate ≤ available c

theorem covered_of_mem_plan {amount : ℚ} {e : AllocationEntry}
    (he : e ∈ planAllocations amount (lockCommissions userId db)) : e.Covered userId db := by
  obtain ⟨c, rest, hdraw, rfl⟩ := (mem_planAllocations fun _ => available_pos).mp he
  exact ⟨c, find?_of_mem_lockCommissions hdraw.mem, (mem_lockCommissions.mp hdraw.mem).2, rfl, rfl,
    min_le_right ..⟩

theorem deriveReservationStatus_ne (reservedAmount totalAmount : ℚ) :
    deriveReservationStatus reservedAmount totalAmount ≠ .paid ∧
      deriveReservationStatus reservedAmount totalAmount ≠ .frozen := by
  rw [deriveReservationStatus]
  split
  · simp
  · split <;> simp

theorem sumWhere_reserveEntry {e : AllocationEntry} (h : reserveEntry payoutId db e = .ok db')
    (he : e.Covered userId db) : db'.commissions.sumWhere (eligible userId) available =
      db.commissions.sumWhere (eligible userId) available - e.toAllocate := by
  obtain ⟨as, -, rfl⟩ := reserveEntry_eq_ok h
  obtain ⟨c, hc, helig, hreserved, hamount, hle⟩ := he
  let f (c : Commission) : Commission :=
    { c with
      reservedAmount := e.currentReserved + e.toAllocate
      status := deriveReservationStatus (e.currentReserved + e.toAllocate) e.totalAmount }
  have hsum : (Database.setReservation { db with commissionAllocations := as } e.commissionId
      (e.currentReserved + e.toAllocate)
      (deriveReservationStatus (e.currentReserved + e.toAllocate) e.totalAmount)).commissions.sumWhere
        (eligible userId) available =
      db.commissions.sumWhere (eligible userId) available +
        (Table.term (eligible userId) available (f c) -
          Table.term (eligible userId) available c) :=
    Table.sumWhere_update hc f (fun _ => rfl) _ _
  have hstatus := deriveReservationStatus_ne (e.currentReserved + e.toAllocate) e.totalAmount
  have hbefore : Table.term (eligible userId) available c = available c := if_pos helig
  have hafter : Table.term (eligible userId) available (f c) = available c - e.toAllocate := by
    simp only [eligible, decide_eq_true_eq] at helig
    simp only [available] at hle
    by_cases hlt : e.currentReserved + e.toAllocate < e.totalAmount
    · simp only [Table.term, eligible, f, helig.1, hstatus, hlt, hamount, available, ne_eq,
        not_false_eq_true, and_self, decide_true, if_true, hreserved]
      ring
    · -- nothing is left of the commission, so it is no longer eligible
      have hzero : available c - e.toAllocate = 0 := by
        simp only [available]
        linarith
      simp [Table.term, eligible, f, hlt, hamount, hzero]
  rw [hsum, hbefore, hafter]
  ring

theorem covered_frame {e f : AllocationEntry} (h : reserveEntry payoutId db e = .ok db')
    (hne : f.commissionId ≠ e.commissionId) (hf : f.Covered userId db) : f.Covered userId db' := by
  obtain ⟨as, -, rfl⟩ := reserveEntry_eq_ok h
  obtain ⟨c, hc, hrow⟩ := hf
  exact ⟨c, by rw [find?_setReservation, if_neg hne]; exact hc, hrow⟩

theorem sumWhere_reservePlan {es : List AllocationEntry}
    (h : reservePlan payoutId db es = .ok db') (hes : ∀ e ∈ es, e.Covered userId db)
    (hn : (es.map AllocationEntry.commissionId).Nodup) :
    db'.commissions.sumWhere (eligible userId) available =
      db.commissions.sumWhere (eligible userId) available -
        (es.map AllocationEntry.toAllocate).sum := by
  induction es generalizing db with
  | nil =>
    cases h
    simp
  | cons e es ih =>
    rw [List.map_cons, List.nodup_cons] at hn
    simp only [reservePlan] at h
    split at h
    · cases h
    · rename_i db₁ he
      have hes' : ∀ f ∈ es, f.Covered userId db₁ := by
        intro f hf
        have hne : f.commissionId ≠ e.commissionId := fun heq =>
          hn.1 (List.mem_map.mpr ⟨f, hf, heq⟩)
        exact covered_frame he hne (hes f (List.mem_cons_of_mem _ hf))
      rw [ih h hes' hn.2, sumWhere_reserveEntry he (hes e (List.mem_cons_self ..)), List.map_cons,
        List.sum_cons]
      ring

theorem totalAvailable_createPayout {r : Requester} {role : Role} {amount : ℚ} {now : DateTime}
    {request : CommissionPayoutRequest} (h0 : 0 ≤ amount)
    (h : createPayout r role amount payoutId now db = .ok (request, db')) :
    totalAvailable (lockCommissions r.user.userId db') =
      totalAvailable (lockCommissions r.user.userId db) - amount := by
  obtain ⟨hbalance, -, payouts, -, hplan⟩ := createPayout_eq_ok h
  have hcovered : ∀ e ∈ planAllocations amount (lockCommissions r.user.userId db),
      e.Covered r.user.userId db := fun e he => covered_of_mem_plan he
  have hsum := sumWhere_reservePlan hplan hcovered nodup_plan
  rw [sum_planAllocations h0 (fun _ => available_pos) hbalance] at hsum
  rw [totalAvailable_lockCommissions, totalAvailable_lockCommissions, hsum]

theorem createPayout_users {r : Requester} {role : Role} {amount : ℚ} {now : DateTime}
    {request : CommissionPayoutRequest}
    (h : createPayout r role amount payoutId now db = .ok (request, db')) :
    db'.users = db.users := by
  obtain ⟨-, -, payouts, -, hplan⟩ := createPayout_eq_ok h
  obtain ⟨⟨cs, as, rfl⟩, -⟩ := reservePlan_frame hplan
  rfl

end balance
end CommissionService

open CommissionService

structure PayoutCall where
  amount : ℚ
  payoutId : String
  now : DateTime

inductive PayoutThread
  | start
  | found (r : Requester)
  | checked (r : Requester) (role : Role)
  | created (request : CommissionPayoutRequest)
  | refused (err : AppError)

def PayoutThread.isCreated : PayoutThread → Bool
  | created _ => true
  | _ => false

namespace PayoutCall

/-- The next statement or transaction of the call. -/
def next (userId : String) (call : PayoutCall) (db : Database) :
    PayoutThread → Database × PayoutThread
  | .start =>
    match findRequester userId call.amount db with
    | .error err => (db, .refused err)
    | .ok r => (db, .found r)
  | .found r =>
    match checkPayoutInProgress r db with
    | .error err => (db, .refused err)
    | .ok role => (db, .checked r role)
  | .checked r role =>
    match createPayout r role call.amount call.payoutId call.now db with
    | .error err => (db, .refused err)
    | .ok (request, db) => (db, .created request)
  | t => (db, t)

/-- A call on its own is `requestPayout`. -/
theorem next_alone (userId : String) (call : PayoutCall) (db : Database) :
    let s := (fun s : Database × PayoutThread => call.next userId s.1 s.2)^[3] (db, .start)
    match requestPayout userId call.amount call.payoutId call.now db with
    | .error err => s = (db, .refused err)
    | .ok (request, db') => s = (db', .created request) := by
  simp only [Function.iterate_succ, Function.iterate_zero, Function.comp, id, requestPayout, next]
  cases findRequester userId call.amount db with
  | error err => rfl
  | ok r =>
    simp only
    cases checkPayoutInProgress r db with
    | error err => rfl
    | ok role =>
      simp only
      cases createPayout r role call.amount call.payoutId call.now db with
      | error err => rfl
      | ok res => rfl

end PayoutCall

def CanRequest (userId : String) (db : Database) : Prop :=
  ∃ user ∈ db.users.find? userId, user.companyId.isSome ∧
    (user.createdById.bind db.users.find?).isSome

instance (userId : String) (db : Database) : Decidable (CanRequest userId db) :=
  inferInstanceAs (Decidable (∃ user ∈ db.users.find? userId, _ ∧ _))

section threads
variable {ι : Type} [DecidableEq ι] (userId : String) (calls : ι → PayoutCall)

def PayoutCalls.step : Config Database ι PayoutThread → ι → Config Database ι PayoutThread :=
  Config.step fun i => (calls i).next userId

def AtMostOneCreated (c : Config Database ι PayoutThread) : Prop :=
  ∀ i j, (c.threads i).isCreated → (c.threads j).isCreated → i = j

end threads

section requester
variable {userId : String} {amount : ℚ} {db db' : Database} {r : Requester} {role : Role}

theorem findRequester_congr (h : db'.users = db.users) :
    findRequester userId amount db' = findRequester userId amount db := by
  rw [findRequester, findRequester, h]

theorem checkPayoutInProgress_eq_ok :
    checkPayoutInProgress r db = .ok role ↔
      payoutInProgress r.user.userId db = none ∧ r.creatorRole = some role := by
  rw [checkPayoutInProgress]
  cases payoutInProgress r.user.userId db with
  | some existing => simp
  | none => cases hrole : r.creatorRole <;> simp

theorem canRequest_iff (h : 0 < amount) : CanRequest userId db ↔
    ∃ r role, findRequester userId amount db = .ok r ∧ r.creatorRole = some role := by
  rw [CanRequest, findRequester]
  cases db.users.find? userId with
  | none => simp
  | some user =>
    cases hcompany : user.companyId with
    | none => simp [hcompany]
    | some companyId =>
      simp only [Option.mem_some_iff, exists_eq_left', hcompany, if_neg (not_le.mpr h)]
      generalize user.createdById.bind db.users.find? = creator
      cases creator <;> simp

end requester

namespace PayoutCall
variable {userId : String} {db₀ s s' : Database} {t : PayoutThread}

/-- What a call knows about the requester and has taken from the balance. -/
def Knows (userId : String) (call : PayoutCall) (db₀ s : Database) : PayoutThread → Prop
  | .found r => findRequester userId call.amount db₀ = .ok r
  | .checked r role =>
      findRequester userId call.amount db₀ = .ok r ∧ r.creatorRole = some role
  | .created _ =>
      0 < call.amount ∧ CanRequest userId db₀ ∧
        totalAvailable (lockCommissions userId s) + call.amount ≤
          totalAvailable (lockCommissions userId db₀)
  | .start | .refused _ => True

structure Within (userId : String) (db₀ s : Database) : Prop where
  users : s.users = db₀.users
  balance : totalAvailable (lockCommissions userId s) ≤
    totalAvailable (lockCommissions userId db₀)

theorem Knows.mono {call : PayoutCall} (h : call.Knows userId db₀ s t)
    (hle : totalAvailable (lockCommissions userId s') ≤ totalAvailable (lockCommissions userId s)) :
    call.Knows userId db₀ s' t := by
  cases t with
  | start | found | checked | refused => exact h
  | created request =>
    obtain ⟨hpos, hcan, hbalance⟩ := h
    exact ⟨hpos, hcan, by linarith⟩

theorem next_cases (userId : String) (call : PayoutCall) (s : Database) (t : PayoutThread) :
    ((call.next userId s t).1 = s ∧ ((call.next userId s t).2.isCreated → t.isCreated)) ∨
      ∃ r role request s', t = .checked r role ∧
        createPayout r role call.amount call.payoutId call.now s = .ok (request, s') ∧
        call.next userId s t = (s', .created request) := by
  cases t with
  | start =>
    rw [next]
    cases findRequester userId call.amount s <;> exact .inl ⟨rfl, fun h => h⟩
  | found r =>
    rw [next]
    cases checkPayoutInProgress r s <;> exact .inl ⟨rfl, fun h => h⟩
  | checked r role =>
    cases hcreate : createPayout r role call.amount call.payoutId call.now s with
    | error err => exact .inl (by simp [next, hcreate, PayoutThread.isCreated])
    | ok res => exact .inr ⟨r, role, res.1, res.2, rfl, hcreate, by simp [next, hcreate]⟩
  | created | refused => exact .inl ⟨rfl, fun h => h⟩

theorem next_balance {call : PayoutCall} (hs : Within userId db₀ s)
    (ht : call.Knows userId db₀ s t) :
    (call.next userId s t).1.users = db₀.users ∧
      totalAvailable (lockCommissions userId (call.next userId s t).1) ≤
        totalAvailable (lockCommissions userId s) := by
  rcases next_cases userId call s t with ⟨hsame, -⟩ | ⟨r, role, request, s', rfl, hcreate, hnext⟩
  · rw [hsame]
    exact ⟨hs.users, le_rfl⟩
  · obtain ⟨hid, hpos⟩ := findRequester_eq_ok ht.1
    have hbalance := totalAvailable_createPayout hpos.le hcreate
    rw [hid] at hbalance
    rw [hnext]
    exact ⟨(createPayout_users hcreate).trans hs.users, by linarith⟩

theorem next_knows {call : PayoutCall} (hs : Within userId db₀ s)
    (ht : call.Knows userId db₀ s t) :
    call.Knows userId db₀ (call.next userId s t).1 (call.next userId s t).2 := by
  cases t with
  | start =>
    rw [next, findRequester_congr hs.users]
    cases hr : findRequester userId call.amount db₀ with
    | error err => trivial
    | ok r => exact hr
  | found r =>
    rw [next]
    cases hrole : checkPayoutInProgress r s with
    | error err => trivial
    | ok role => exact ⟨ht, (checkPayoutInProgress_eq_ok.mp hrole).2⟩
  | checked r role =>
    obtain ⟨hid, hpos⟩ := findRequester_eq_ok ht.1
    rw [next]
    cases hcreate : createPayout r role call.amount call.payoutId call.now s with
    | error err => trivial
    | ok res =>
      have hbalance := totalAvailable_createPayout hpos.le hcreate
      rw [hid] at hbalance
      refine ⟨hpos, (canRequest_iff hpos).mpr ⟨r, role, ht⟩, ?_⟩
      simp only
      linarith [hs.balance]
  | created request => exact ht
  | refused err => trivial

end PayoutCall

section threads
variable {ι : Type} [DecidableEq ι] {userId : String} {calls : ι → PayoutCall} {db₀ : Database}
  {c : Config Database ι PayoutThread}

structure PayoutCalls.Inv (userId : String) (calls : ι → PayoutCall) (db₀ : Database)
    (c : Config Database ι PayoutThread) : Prop where
  within : PayoutCall.Within userId db₀ c.shared
  knows : ∀ i, (calls i).Knows userId db₀ c.shared (c.threads i)

theorem PayoutCalls.inv_step (h : Inv userId calls db₀ c) (i : ι) :
    Inv userId calls db₀ (step userId calls c i) := by
  have hwithin : ∀ {s : Database} {t : PayoutThread}, PayoutCall.Within userId db₀ s →
      (calls i).Knows userId db₀ s t → PayoutCall.Within userId db₀ ((calls i).next userId s t).1 :=
    fun hs ht => ⟨(PayoutCall.next_balance hs ht).1,
      (PayoutCall.next_balance hs ht).2.trans hs.balance⟩
  have hlocal : ∀ j, PayoutCall.Within userId db₀ (step userId calls c i).shared ∧
      (calls j).Knows userId db₀ (step userId calls c i).shared
        ((step userId calls c i).threads j) := by
    refine Config.step_local_invariant (J := fun s j t => PayoutCall.Within userId db₀ s ∧
      (calls j).Knows userId db₀ s t) ?_ ?_ fun k => ⟨h.within, h.knows k⟩
    · intro s t ht
      exact ⟨hwithin ht.1 ht.2, PayoutCall.next_knows ht.1 ht.2⟩
    · intro s t j u hj hu ht
      exact ⟨hwithin ht.1 ht.2, hu.2.mono (PayoutCall.next_balance ht.1 ht.2).2⟩
  exact ⟨(hlocal i).1, fun j => (hlocal j).2⟩

def NoTwoFit (userId : String) (calls : ι → PayoutCall) (db : Database) : Prop :=
  ∀ i j, i ≠ j → 0 < (calls i).amount → 0 < (calls j).amount →
    totalAvailable (lockCommissions userId db) < (calls i).amount + (calls j).amount

/-- When no two fit, the call that is served finds nobody served before it. -/
theorem atMostOneCreated_step (hfit : CanRequest userId db₀ → NoTwoFit userId calls db₀)
    (h : PayoutCalls.Inv userId calls db₀ c) (hone : AtMostOneCreated c) (i : ι) :
    AtMostOneCreated (PayoutCalls.step userId calls c i) := by
  have hother : ∀ j, j ≠ i → (PayoutCalls.step userId calls c i).threads j = c.threads j :=
    fun j hj => Config.step_threads_ne _ _ hj
  have hself : (PayoutCalls.step userId calls c i).threads i =
      ((calls i).next userId c.shared (c.threads i)).2 := Config.step_threads_self _ _ _
  rcases PayoutCall.next_cases userId (calls i) c.shared (c.threads i) with
    ⟨-, hold⟩ | ⟨r, role, request, s', ht, hcreate, hnext⟩
  · have hstay : ∀ j, ((PayoutCalls.step userId calls c i).threads j).isCreated →
        (c.threads j).isCreated := by
      intro j hj
      by_cases hji : j = i
      · subst hji
        rw [hself] at hj
        exact hold hj
      · rwa [hother j hji] at hj
    exact fun j k hj hk => hone j k (hstay j hj) (hstay k hk)
  · have hi := h.knows i
    rw [ht] at hi
    obtain ⟨hid, hpos⟩ := findRequester_eq_ok hi.1
    have hbalance := (createPayout_eq_ok hcreate).1
    rw [hid] at hbalance
    have halone : ∀ j, ((PayoutCalls.step userId calls c i).threads j).isCreated → j = i := by
      intro j hj
      by_contra hji
      rw [hother j hji] at hj
      have hj' := h.knows j
      cases htj : c.threads j with
      | created request =>
        rw [htj] at hj'
        obtain ⟨hposj, hcan, hle⟩ := hj'
        have hlt := hfit hcan j i hji hposj hpos
        linarith
      | start | found | checked | refused =>
        rw [htj] at hj
        cases hj
    intro j k hj hk
    rw [halone j hj, halone k hk]

structure FreshIds (calls : ι → PayoutCall) (db : Database) : Prop where
  injective : ∀ i j, (calls i).payoutId = (calls j).payoutId → i = j
  payouts : ∀ i, ∀ p ∈ db.commissionPayoutRequests.rows, p.payoutId ≠ (calls i).payoutId
  allocations : ∀ i, ∀ a ∈ db.commissionAllocations.rows, a.payoutId ≠ (calls i).payoutId

omit [DecidableEq ι] in
theorem createPayout_isOk_after {i j : ι} (hij : i ≠ j) (hfresh : FreshIds calls db₀)
    {r r' : Requester} {role role' : Role} {request : CommissionPayoutRequest} {s : Database}
    (hr : r.user.userId = userId) (hr' : r'.user.userId = userId) (hpos : 0 < (calls i).amount)
    (hfit : (calls i).amount + (calls j).amount ≤ totalAvailable (lockCommissions userId db₀))
    (h : createPayout r role (calls i).amount (calls i).payoutId (calls i).now db₀ =
      .ok (request, s)) :
    ∃ res, createPayout r' role' (calls j).amount (calls j).payoutId (calls j).now s = .ok res := by
  have hbalance := totalAvailable_createPayout hpos.le h
  obtain ⟨-, hrequest, payouts, hpayouts, hplan⟩ := createPayout_eq_ok h
  obtain ⟨⟨cs, as, hs⟩, hrows⟩ := reservePlan_frame hplan
  have hid : (calls i).payoutId ≠ (calls j).payoutId := fun he => hij (hfresh.injective i j he)
  rw [hr] at hbalance
  refine createPayout_isOk ?_ ?_ ?_
  · rw [hr', hbalance]
    linarith
  · have hsame : s.commissionPayoutRequests = payouts := by rw [hs]
    refine Table.find?_eq_none_iff.mpr fun p hp => ?_
    rw [hsame, (Table.create_eq_some hpayouts).2, List.mem_append, List.mem_singleton] at hp
    rcases hp with hp | rfl
    · exact hfresh.payouts j p hp
    · rw [hrequest]
      exact hid
  · intro a ha
    rw [hrows, List.mem_append] at ha
    rcases ha with ha | ha
    · exact hfresh.allocations j a ha
    · obtain ⟨e, -, rfl⟩ := List.mem_map.mp ha
      exact hid

theorem two_created {i j : ι} (hij : i ≠ j) (hnone : payoutInProgress userId db₀ = none)
    (hfresh : FreshIds calls db₀) (hcan : CanRequest userId db₀) (hi : 0 < (calls i).amount)
    (hj : 0 < (calls j).amount)
    (hfit : (calls i).amount + (calls j).amount ≤ totalAvailable (lockCommissions userId db₀)) :
    ¬ AtMostOneCreated (run (PayoutCalls.step userId calls) ⟨db₀, fun _ => .start⟩
      [i, j, i, j, i, j]) := by
  obtain ⟨r, role, hr, hrole⟩ := (canRequest_iff hi).mp hcan
  obtain ⟨r', role', hr', hrole'⟩ := (canRequest_iff hj).mp hcan
  have hid := (findRequester_eq_ok hr).1
  have hid' := (findRequester_eq_ok hr').1
  have hcheck := checkPayoutInProgress_eq_ok.mpr ⟨hid ▸ hnone, hrole⟩
  have hcheck' := checkPayoutInProgress_eq_ok.mpr ⟨hid' ▸ hnone, hrole'⟩
  obtain ⟨⟨request, s⟩, hcreate⟩ : ∃ res, createPayout r role (calls i).amount
      (calls i).payoutId (calls i).now db₀ = .ok res :=
    createPayout_isOk (by rw [hid]; linarith)
      (Table.find?_eq_none_iff.mpr (hfresh.payouts i)) (hfresh.allocations i)
  obtain ⟨⟨request', s'⟩, hcreate'⟩ : ∃ res, createPayout r' role' (calls j).amount
      (calls j).payoutId (calls j).now s = .ok res :=
    createPayout_isOk_after hij hfresh hid hid' hi hfit hcreate
  intro hone
  refine hij (hone i j ?_ ?_)
  · simp [PayoutCalls.step, Config.step, PayoutCall.next, hij, hij.symm, hr, hr', hcheck, hcheck',
      hcreate, hcreate', PayoutThread.isCreated]
  · simp [PayoutCalls.step, Config.step, PayoutCall.next, hij, hij.symm, hr, hr', hcheck, hcheck',
      hcreate, hcreate', PayoutThread.isCreated]

/-- At most one of the calls creates a payout under every schedule exactly when
the user cannot request at all or no two of the amounts fit into the balance. -/
theorem atMostOneCreated_iff (userId : String) (calls : ι → PayoutCall) (db : Database)
    (hnone : payoutInProgress userId db = none) (hfresh : FreshIds calls db) :
    (∀ schedule, AtMostOneCreated
      (run (PayoutCalls.step userId calls) ⟨db, fun _ => .start⟩ schedule)) ↔
      (CanRequest userId db → NoTwoFit userId calls db) := by
  constructor
  · intro h hcan i j hij hi hj
    by_contra hfit
    exact two_created hij hnone hfresh hcan hi hj (not_lt.mp hfit) (h _)
  · intro hfit schedule
    have hinv : ∀ c : Config Database ι PayoutThread, ∀ i,
        PayoutCalls.Inv userId calls db c ∧ AtMostOneCreated c →
        PayoutCalls.Inv userId calls db (PayoutCalls.step userId calls c i) ∧
          AtMostOneCreated (PayoutCalls.step userId calls c i) :=
      fun c i h => ⟨PayoutCalls.inv_step h.1 i, atMostOneCreated_step hfit h.1 h.2 i⟩
    have h0 : PayoutCalls.Inv userId calls db ⟨db, fun _ => .start⟩ ∧
        AtMostOneCreated (⟨db, fun _ => .start⟩ : Config Database ι PayoutThread) :=
      ⟨⟨⟨rfl, le_rfl⟩, fun _ => trivial⟩, fun _ _ hi => by cases hi⟩
    exact (run_invariant hinv h0 schedule).2

end threads

def twoCalls (amount : ℚ) (first : Bool) : PayoutCall := ⟨amount, if first then "p" else "q", 0⟩

theorem freshIds_twoCalls (amount : ℚ) : FreshIds (twoCalls amount) soleCommission where
  injective := by
    intro i j h
    cases i <;> cases j <;> simp [twoCalls] at h ⊢
  payouts _ _ hp := by cases hp
  allocations _ _ ha := by cases ha

theorem atMostOneCreated_sixty : AtMostOneCreated
    (run (PayoutCalls.step "marketer" (twoCalls 60)) ⟨soleCommission, fun _ => .start⟩
      [true, false, true, false, true, false]) := by
  refine (atMostOneCreated_iff "marketer" (twoCalls 60) soleCommission rfl
    (freshIds_twoCalls 60)).mpr (fun _ => ?_) _
  intro i j _ _ _
  exact (by decide +kernel : totalAvailable (lockCommissions "marketer" soleCommission) < 60 + 60)

/-- Two requests over 40 that both check before either commits are both served. -/
theorem two_created_forty : ¬ AtMostOneCreated
    (run (PayoutCalls.step "marketer" (twoCalls 40)) ⟨soleCommission, fun _ => .start⟩
      [true, false, true, false, true, false]) := by
  intro h
  have hboth := h true false (by decide +kernel) (by decide +kernel)
  cases hboth

end InstalFlow
