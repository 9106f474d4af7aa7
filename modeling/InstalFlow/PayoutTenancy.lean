import InstalFlow.PayoutQueries
import InstalFlow.TransferPostings

/-!
# Tenants and their payouts

What a query of payouts answers is compared in two databases that agree on the company
of the caller. A marketer and a company see nothing of the rest, an admin sees all of it.
-/

namespace InstalFlow
open Relational CommissionService

/-- The payouts of a company with the rows they refer to, their allocations among them. -/
def Database.companyPayouts (db : Database) (companyId : String) : List PayoutRecord :=
  (db.commissionPayoutRequests.rows.filter (fun p => p.companyId = companyId)).map db.payoutRecord

/-- A payout is of the company of the user who has requested it. -/
def Database.PayoutsOfMembers (db : Database) : Prop :=
  ∀ p ∈ db.commissionPayoutRequests.rows, ∀ u ∈ db.users.find? p.userId,
    u.companyId = some p.companyId

section members
variable {db : Database}

theorem payoutsOfMembers_iff : db.PayoutsOfMembers ↔ ∀ k userId companyId amount,
    db.payoutTerms k = some (userId, companyId, amount) →
      ∀ u ∈ db.users.find? userId, u.companyId = some companyId := by
  constructor
  · intro h k userId companyId amount hterms
    obtain ⟨p, hp, heq⟩ := Option.map_eq_some_iff.mp hterms
    cases heq
    exact h p (Table.mem_of_find? hp)
  · intro h p hp
    refine h p.payoutId p.userId p.companyId p.amount ?_
    rw [Database.payoutTerms, Table.find?_of_mem hp]
    rfl

/-- No operation on payouts writes a user. -/
theorem Operation.users_apply (op : Operation) : (op.apply db).users = db.users := by
  have hcommitted {α : Type} {state : α → Database} {r : Except AppError α}
      (hr : ∀ a, r = .ok a → (state a).users = db.users) :
      (committed db state r).users = db.users :=
    committed_rule (P := fun db' => db'.users = db.users) rfl hr
  cases op with
  | processPayment verifyPaystack job paymentId commissionId now =>
    refine hcommitted fun res hprocess => ?_
    obtain ⟨i, -, ⟨-, intents, hdb⟩ | ⟨-, hcommits⟩⟩ := PaymentWorker.process_eq_ok hprocess
    · rw [hdb]
    · obtain ⟨payments, commissions, ledger, intents, hdb⟩ := hcommits.frame
      rw [hdb]
  | requestPayout userId amount payoutId now =>
    refine hcommitted fun res hrequest => ?_
    obtain ⟨r, role, -, -, hcreate⟩ := requestPayout_eq_ok hrequest
    obtain ⟨-, -, payouts, -, hplan⟩ := createPayout_eq_ok hcreate
    obtain ⟨⟨cs, as, hdb⟩, -⟩ := reservePlan_frame hplan
    rw [hdb]
  | adminApprovePayout payoutId adminId now =>
    refine hcommitted fun res happrove => ?_
    obtain ⟨payout, -, -, rfl⟩ := adminApprovePayout_eq_ok happrove
    rfl
  | companyApprovePayout payoutId companyUserId now =>
    refine hcommitted fun res happrove => ?_
    obtain ⟨payout, -, -, rfl⟩ := companyApprovePayout_eq_ok happrove
    rfl
  | initiateTransfer payoutId companyUserId now =>
    rcases initiateTransfer_cases db payoutId companyUserId now with
      ⟨e, -, hdb⟩ | ⟨payout, bank, -, -, -, -, hdb⟩
    · rw [hdb]
    · obtain ⟨cs, as, ps, hstart⟩ := startTransfer_frame payout bank companyUserId now db
      rw [hdb, hstart]
  | transferJob paystack payoutId =>
    obtain ⟨banks, hdb | ⟨code, ledger, hdb⟩⟩ := TransferWorker.process_cases paystack payoutId db
    · rw [apply, hdb]
    · rw [apply, hdb]
      rfl
  | transferJobFailed job message now =>
    refine hcommitted fun res hfailed => ?_
    rcases TransferWorker.onFailed_eq_ok hfailed with ⟨-, rfl⟩ | ⟨payout, -, -, rfl⟩ <;> rfl
  | webhook event payload now =>
    rcases event.handle_cases payload now db with ⟨-, hdb⟩ | ⟨payout, ledger, -, -, -, hdb⟩
    · rw [apply, hdb]
      rfl
    · obtain ⟨cs, as, hframe⟩ := event.written_frame payload now
        ⟨payout, db.allocationsOf payout.payoutId⟩ db
      rw [apply, hdb, hframe]
      rfl

/-- A payout stays with the company of its user: no operation moves either, and a new
payout is of the company of the requester. -/
theorem Operation.payoutsOfMembers_apply (h : db.PayoutsOfMembers) (op : Operation) :
    (op.apply db).PayoutsOfMembers := by
  refine payoutsOfMembers_iff.mpr fun k userId companyId amount hterms => ?_
  rw [Operation.users_apply]
  rcases op.payoutTerms_apply_cases db k with
    hsame | ⟨-, user, company, _, huser, hcompany, hnew, -⟩
  · exact payoutsOfMembers_iff.mp h k userId companyId amount (hsame.symm.trans hterms)
  · rw [hterms] at hnew
    cases hnew
    intro u hu
    rw [Option.mem_def, huser] at hu
    cases hu
    exact hcompany

end members

/-- The databases agree on the users and payouts of a company. -/
structure AgreeOnCompany (companyId : String) (db db' : Database) : Prop where
  users : db'.users.rows.filter (fun u => u.companyId = some companyId) =
    db.users.rows.filter (fun u => u.companyId = some companyId)
  payouts : db'.companyPayouts companyId = db.companyPayouts companyId

/-- The databases agree on the caller, and on the company of the caller. -/
structure AgreeForCaller (userId : String) (db db' : Database) : Prop where
  caller : db'.users.find? userId = db.users.find? userId
  company : ∀ u ∈ db.users.find? userId, ∀ companyId ∈ u.companyId,
    AgreeOnCompany companyId db db'

/-- The payouts chosen by a condition, with the rows they refer to. -/
def Database.chosen (db : Database) (p : CommissionPayoutRequest → Bool) : List PayoutRecord :=
  (db.commissionPayoutRequests.rows.filter p).map db.payoutRecord

/-- What a marketer or a company sees. -/
def sees (userId : String) (u : User) (role : Role) (p : CommissionPayoutRequest) : Bool :=
  match role with
  | .marketer => p.userId = userId
  | _ => u.companyId = some p.companyId

section scope
variable {db db' : Database} {userId companyId payoutId : String} {u : User} {role : Role}

/-- Payouts chosen among those of one company are chosen from the records of it. -/
theorem chosen_of_company {p : CommissionPayoutRequest → Bool}
    (hp : ∀ r ∈ db.commissionPayoutRequests.rows, p r = true → r.companyId = companyId) :
    db.chosen p = (db.companyPayouts companyId).filter (fun r => p r.payout) := by
  rw [Database.chosen, Database.companyPayouts, List.filter_map, List.filter_filter]
  refine congrArg (List.map _) (List.filter_congr fun r hr => ?_)
  have hpayout : ((fun r : PayoutRecord => p r.payout) ∘ db.payoutRecord) r = p r := rfl
  rw [hpayout]
  cases hpr : p r with
  | false => rfl
  | true => simp [hp r hr hpr]

theorem chosen_and (db : Database) (p q : CommissionPayoutRequest → Bool) :
    db.chosen (fun r => p r ∧ q r) = (db.chosen q).filter (fun r => p r.payout) := by
  rw [Database.chosen, Database.chosen, List.filter_map, List.filter_filter]
  refine congrArg (List.map _) (List.filter_congr fun r _ => ?_)
  have hpayout : ((fun r : PayoutRecord => p r.payout) ∘ db.payoutRecord) r = p r := rfl
  rw [hpayout]
  simp

/-- A single payout is found among those chosen, if it is chosen. -/
theorem find?_chosen (p : CommissionPayoutRequest → Bool) :
    (db.chosen p).find? (fun r => r.payout.payoutId = payoutId) =
      ((db.commissionPayoutRequests.find? payoutId).filter p).map db.payoutRecord := by
  have hfind : (db.commissionPayoutRequests.find? payoutId).filter p =
      (db.commissionPayoutRequests.deleteMany fun r => !p r).find? payoutId := by
    simp only [Table.find?_deleteMany, Bool.not_not]
  rw [hfind, Database.chosen, List.find?_map]
  simp only [Table.find?, Table.deleteMany, Bool.not_not]
  rfl

/-- What is seen of the payouts is all that the answers depend on. -/
theorem getPayoutRequests_congr {params : PayoutQuery}
    (hcaller : db'.users.find? userId = db.users.find? userId)
    (hseen : ∀ u ∈ db.users.find? userId, ∀ scope, payoutScope userId u role = .ok scope →
      db'.chosen scope = db.chosen scope) :
    getPayoutRequests userId role params db' = getPayoutRequests userId role params db := by
  simp only [getPayoutRequests, hcaller]
  cases hfound : db.users.find? userId with
  | none => rfl
  | some u =>
    dsimp only
    cases hscope : payoutScope userId u role with
    | error err => rfl
    | ok scope =>
      dsimp only
      have hchosen := hseen u hfound scope hscope
      have hrecords (d : Database) := chosen_and d
        (fun p => params.status.all (p.status = ·)) scope
      simp only [Database.chosen] at hrecords hchosen
      rw [hrecords db', hrecords db, hchosen]

/-- A payout that is asked for is answered with its details if it is seen. -/
theorem getPayoutById_eq (hrole : role = .marketer ∨ role = .company)
    (hcaller : db.users.find? userId = some u) :
    getPayoutById payoutId userId role db =
      (((db.chosen (sees userId u role)).find? (fun r => r.payout.payoutId = payoutId)).elim
        (.error (.notFound "Payout request not found")) fun r => .ok r.details) := by
  rw [find?_chosen]
  simp only [getPayoutById, hcaller]
  cases hfound : db.commissionPayoutRequests.find? payoutId with
  | none => rfl
  | some p =>
    rcases hrole with rfl | rfl
    · by_cases hp : p.userId = userId
      · simp [checkVisible, sees, hp, Database.payoutRecord, Option.filter]
      · simp [checkVisible, sees, hp, Database.payoutRecord, Option.filter]
    · by_cases hp : some p.companyId = u.companyId
      · simp [checkVisible, sees, hp.symm, Database.payoutRecord, Option.filter]
      · simp [checkVisible, sees, hp, Ne.symm hp, Database.payoutRecord, Option.filter]

theorem getPayoutById_congr (hrole : role = .marketer ∨ role = .company)
    (hcaller : db'.users.find? userId = db.users.find? userId)
    (hseen : ∀ u ∈ db.users.find? userId,
      db'.chosen (sees userId u role) = db.chosen (sees userId u role)) :
    getPayoutById payoutId userId role db' = getPayoutById payoutId userId role db := by
  cases hfound : db.users.find? userId with
  | none => simp only [getPayoutById, hcaller, hfound]
  | some u =>
    rw [getPayoutById_eq hrole (hcaller.trans hfound), getPayoutById_eq hrole hfound,
      hseen u hfound]

/-- All that a marketer or a company sees is of the company of the caller. -/
theorem company_of_sees (hrole : role = .marketer ∨ role = .company)
    (hmembers : db.PayoutsOfMembers) (hcaller : db.users.find? userId = some u)
    {p : CommissionPayoutRequest} (hp : p ∈ db.commissionPayoutRequests.rows)
    (hsees : sees userId u role p = true) : u.companyId = some p.companyId := by
  rcases hrole with rfl | rfl
  · have huser : p.userId = userId := of_decide_eq_true hsees
    rw [← huser] at hcaller
    exact hmembers p hp u hcaller
  · exact of_decide_eq_true hsees

theorem chosen_sees_congr (hrole : role = .marketer ∨ role = .company)
    (hmembers : db.PayoutsOfMembers) (hmembers' : db'.PayoutsOfMembers)
    (hagree : AgreeForCaller userId db db') (hcaller : db.users.find? userId = some u) :
    db'.chosen (sees userId u role) = db.chosen (sees userId u role) := by
  have hcaller' := hagree.caller.trans hcaller
  cases hcompany : u.companyId with
  | none =>
    have hnothing {d : Database} (hd : d.PayoutsOfMembers) (hu : d.users.find? userId = some u) :
        d.chosen (sees userId u role) = [] := by
      rw [Database.chosen, List.map_eq_nil_iff, List.filter_eq_nil_iff]
      intro p hp hsees
      have howned := company_of_sees hrole hd hu hp hsees
      rw [hcompany] at howned
      cases howned
    rw [hnothing hmembers' hcaller', hnothing hmembers hcaller]
  | some companyId =>
    have hown {d : Database} (hd : d.PayoutsOfMembers) (hu : d.users.find? userId = some u) :
        ∀ p ∈ d.commissionPayoutRequests.rows, sees userId u role p = true →
          p.companyId = companyId := by
      intro p hp hsees
      have howned := company_of_sees hrole hd hu hp hsees
      rw [hcompany] at howned
      exact (Option.some.inj howned).symm
    rw [chosen_of_company (hown hmembers' hcaller'), chosen_of_company (hown hmembers hcaller),
      (hagree.company u hcaller companyId hcompany).payouts]

theorem payoutScope_eq_sees (hrole : role = .marketer ∨ role = .company)
    {scope : CommissionPayoutRequest → Bool} (h : payoutScope userId u role = .ok scope) :
    scope = sees userId u role := by
  rcases hrole with rfl | rfl
  · cases h
    rfl
  · rw [payoutScope] at h
    split at h
    · cases h
    · rename_i companyId hcompany
      cases h
      funext p
      simp [sees, hcompany, eq_comm]

end scope

theorem ne_append_prime (s : String) : s ≠ s ++ "'" := by
  intro h
  have hlength := congrArg String.length h
  rw [String.length_append] at hlength
  exact absurd hlength (by simp)

def someoneElse (userId : String) : User where
  userId := userId ++ "'"
  role := .marketer
  companyId := some "other"

/-- The caller is of one company, and the payout, if there is one, of another. -/
def besideOther (userId payoutId : String) (role : Role) (payouts : Bool) : Database where
  users :=
    ⟨[{ userId := userId, role := role, companyId := some "own" }, someoneElse userId],
      by simp [someoneElse, ne_append_prime]⟩
  commissionPayoutRequests :=
    ⟨if payouts then
      [{ payoutId := payoutId, userId := userId ++ "'", companyId := "other", amount := 1 }]
    else [], by split <;> simp⟩

section besideOther
variable (userId payoutId : String) (role : Role)

theorem find?_besideOther (payouts : Bool) :
    (besideOther userId payoutId role payouts).users.find? userId =
      some { userId := userId, role := role, companyId := some "own" } := by
  simp [besideOther, Table.find?]

theorem members_besideOther (payouts : Bool) :
    (besideOther userId payoutId role payouts).PayoutsOfMembers := by
  intro p hp u hu
  cases payouts with
  | false => cases hp
  | true =>
    obtain rfl := List.mem_singleton.mp hp
    have hfind : (besideOther userId payoutId role true).users.find? (userId ++ "'") =
        some (someoneElse userId) := by
      simp [besideOther, Table.find?, someoneElse, ne_append_prime]
    rw [Option.mem_def, hfind] at hu
    cases hu
    rfl

theorem agree_besideOther :
    AgreeForCaller userId (besideOther userId payoutId role false)
      (besideOther userId payoutId role true) := by
  refine ⟨rfl, fun u hu companyId hcompany => ⟨rfl, ?_⟩⟩
  rw [Option.mem_def, find?_besideOther] at hu
  cases hu
  cases hcompany
  simp [Database.companyPayouts, besideOther]

/-- Without the payout it is not found, whatever the role. -/
theorem getPayoutById_absent :
    getPayoutById payoutId userId role (besideOther userId payoutId role false) =
      .error (.notFound "Payout request not found") := by
  rw [getPayoutById, find?_besideOther]
  rfl

theorem getPayoutById_present (hrole : role ≠ .marketer ∧ role ≠ .company) :
    getPayoutById payoutId userId role (besideOther userId payoutId role true) ≠
      .error (.notFound "Payout request not found") := by
  have hpayout : (besideOther userId payoutId role true).commissionPayoutRequests.find? payoutId =
      some { payoutId, userId := userId ++ "'", companyId := "other", amount := 1 } := by
    simp [besideOther, Table.find?]
  rw [getPayoutById, find?_besideOther, hpayout]
  cases role with
  | marketer => exact absurd rfl hrole.1
  | company => exact absurd rfl hrole.2
  | admin | superAdmin | customer =>
    intro h
    cases h

end besideOther

/-- Two databases that agree on the caller's company give a role the same answers, for
every caller, query and payout, exactly where the role is a marketer or a company. -/
theorem payouts_separate_iff (userId payoutId : String) (role : Role) (params : PayoutQuery) :
    (∀ db db' : Database, db.PayoutsOfMembers → db'.PayoutsOfMembers →
      AgreeForCaller userId db db' →
        getPayoutRequests userId role params db' = getPayoutRequests userId role params db ∧
          getPayoutById payoutId userId role db' = getPayoutById payoutId userId role db) ↔
      role = .marketer ∨ role = .company := by
  constructor
  · intro hsame
    by_contra hrole
    obtain ⟨-, hdetails⟩ := hsame _ _ (members_besideOther userId payoutId role false)
      (members_besideOther userId payoutId role true) (agree_besideOther userId payoutId role)
    rw [getPayoutById_absent] at hdetails
    exact getPayoutById_present userId payoutId role (not_or.mp hrole) hdetails
  · intro hrole db db' hmembers hmembers' hagree
    have hseen : ∀ u ∈ db.users.find? userId,
        db'.chosen (sees userId u role) = db.chosen (sees userId u role) :=
      fun u hcaller => chosen_sees_congr hrole hmembers hmembers' hagree hcaller
    refine ⟨getPayoutRequests_congr hagree.caller fun u hcaller scope hscope => ?_,
      getPayoutById_congr hrole hagree.caller hseen⟩
    rw [payoutScope_eq_sees hrole hscope]
    exact hseen u hcaller

/-- An admin is shown the payout of the other company, in the list and by its id. -/
theorem admin_sees_other_company :
    AgreeForCaller "clerk" (besideOther "clerk" "salary" .admin false)
        (besideOther "clerk" "salary" .admin true) ∧
      getPayoutRequests "clerk" .admin {} (besideOther "clerk" "salary" .admin true) ≠
        getPayoutRequests "clerk" .admin {} (besideOther "clerk" "salary" .admin false) ∧
      getPayoutById "salary" "clerk" .admin (besideOther "clerk" "salary" .admin true) ≠
        getPayoutById "salary" "clerk" .admin (besideOther "clerk" "salary" .admin false) :=
  ⟨agree_besideOther "clerk" "salary" .admin, by decide +kernel, by decide +kernel⟩

end InstalFlow
