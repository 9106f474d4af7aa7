import InstalFlow.KycOutlines

/-!
# Activations

A marketer's approval that comes late puts an activated application back to the
status from which it can be claimed. What stops a second activation is that the
person already is a user: the first one took the session's email, which is kept
for good, so the transaction of the second fails at its first insertion.
-/

namespace InstalFlow
open Relational Transition

/-- The commit of an activation: the review, the contract, and its moment. -/
structure Activation where
  review : Review
  contract : FinancingContract
  moment : KycMoment

namespace Activation

def applicationId (a : Activation) : String := a.review.application.kycApplicationId

def customer (a : Activation) : User := KycService.newUser a.review.session a.moment.userId

def storedRow (a : Activation) (row : InstallmentCreateInput) : Installment :=
  row.row (a.moment.installmentId row.sequence)

def installments (a : Activation) : List Installment :=
  ((KycService.scheduleOf a.contract a.moment.now).toOption.getD []).map a.storedRow

end Activation

namespace KycWrite

def isApproval : KycWrite → Bool
  | approve _ _ => true
  | _ => false

/-- The write commits the branch that the claim of the last approval guards. -/
def activation (m : KycMoment) (db : Database) : KycWrite → Option Activation
  | approve r .admin => do
    let application ← db.kycApplications.find? r.application.kycApplicationId
    let contract ← KycService.contractOf r.application.kycApplicationId db
    if application.status = r.claimable ∧ (KycService.recordAdminApproval r m db).isOk then
      some { review := r, contract, moment := m }
    else none
  | _ => none

end KycWrite

def installmentsOf (applicationId : String) (db : Database) : List Installment :=
  ((KycService.contractOf applicationId db).map fun c =>
    db.installments.rows.filter (fun i => i.financingContractId = c.contractId)).getD []

/-- No User, installment or referral is created, and no contract changed. -/
structure Database.Untouched (db db' : Database) : Prop where
  users : db'.users = db.users
  installments : db'.installments = db.installments
  referrals : db'.referrals = db.referrals
  contracts : db'.financingContracts = db.financingContracts

/-- The person who applied is a user. -/
def Database.Enrolled (applicationId : String) (db : Database) : Prop :=
  ∃ a s, db.kycApplications.find? applicationId = some a ∧ KycService.sessionOf a db = some s ∧
    ∃ u ∈ db.users.rows, u.email = s.email

section steps
variable {k : String} {m : KycMoment} {db db' : Database} {w : KycWrite}

theorem Database.Enrolled.keeps (h : db.Enrolled k) (hk : db.Keeps db') :
    db'.Enrolled k := by
  obtain ⟨a, s, ha, hs, u, hu, hemail⟩ := h
  obtain ⟨a', s', ha', hs', hsame⟩ := hk.sessionOf ha hs
  have hkept : s'.email = s.email := (congrArg OnboardingSession.email hsame :)
  exact ⟨a', s', ha', hs', u, Table.mem_of_find? (hk.users u.userId u (Table.find?_of_mem hu)),
    hemail.trans hkept.symm⟩

/-- The session that a review was opened on still has the person's email. -/
theorem Database.HasPair.enrolled_iff {a : KycApplication} {s : OnboardingSession}
    (h : db.HasPair a s) :
    db.Enrolled a.kycApplicationId ↔ ∃ u ∈ db.users.rows, u.email = s.email := by
  obtain ⟨a', ha', hasame⟩ := Option.map_eq_some_iff.mp h.application
  obtain ⟨s', hs', hssame⟩ := Option.map_eq_some_iff.mp h.session
  have hsession : KycService.sessionOf a' db = some s' := by
    rw [KycService.sessionOf, h.application.sessionId ha', h.link]
    exact hs'
  have hemail : s'.email = s.email := (congrArg OnboardingSession.email hssame :)
  constructor
  · intro henrolled
    obtain ⟨b, t, hb, ht, u, hu, hsame⟩ := henrolled
    obtain rfl := Option.some.inj (ha'.symm.trans hb)
    obtain rfl := Option.some.inj (hsession.symm.trans ht)
    exact ⟨u, hu, hsame.trans hemail⟩
  · intro hexists
    obtain ⟨u, hu, hsame⟩ := hexists
    exact ⟨a', s', ha', hsession, u, hu, hsame.trans hemail.symm⟩

theorem untouched_finalizeSession (stale : StaleSession) (db : Database) :
    db.Untouched (OnboardingService.finalizeSession stale db) := by
  rw [OnboardingService.finalizeSession]
  split
  · exact ⟨rfl, rfl, rfl, rfl⟩
  · cases stale.applicationId <;> exact ⟨rfl, rfl, rfl, rfl⟩

/-- A write activates an application, or leaves all customers as they are. -/
theorem KycWrite.activation_cases (w : KycWrite) (m : KycMoment) (db : Database) :
    (∃ r contract, w = approve r .admin ∧
      w.activation m db = some { review := r, contract, moment := m } ∧
      KycService.contractOf r.application.kycApplicationId db = some contract ∧
      KycService.Activates r contract m (KycService.signAsAdmin r m db) (w.execute m db)) ∨
    w.activation m db = none ∧ (w.isApproval = true → db.Untouched (w.execute m db)) ∧
      (w.execute m db).users = db.users ∧ (w.execute m db).installments = db.installments ∧
      (w.execute m db).financingContracts.rows.map FinancingContract.origin =
        db.financingContracts.rows.map FinancingContract.origin := by
  have hquiet {db' : Database} (h : db.Untouched db') : db'.users = db.users ∧
      db'.installments = db.installments ∧
      db'.financingContracts.rows.map FinancingContract.origin =
        db.financingContracts.rows.map FinancingContract.origin :=
    ⟨h.users, h.installments, congrArg (fun t => t.rows.map FinancingContract.origin) h.contracts⟩
  cases w with
  | approve r signature =>
    cases signature with
    | marketer =>
      have h : db.Untouched (KycService.recordMarketerApproval r m db) := ⟨rfl, rfl, rfl, rfl⟩
      exact .inr ⟨rfl, fun _ => h, hquiet h⟩
    | admin =>
      cases hrecord : KycService.recordAdminApproval r m db with
      | error err =>
        have hexecute : (approve r .admin).execute m db = db := by
          rw [execute, KycService.commitApproval, hrecord]
          rfl
        have hnone : (approve r .admin).activation m db = none := by
          simp [activation, hrecord, Except.isOk, Except.toBool]
        have h : db.Untouched ((approve r .admin).execute m db) := by
          rw [hexecute]
          exact ⟨rfl, rfl, rfl, rfl⟩
        exact .inr ⟨hnone, fun _ => h, hquiet h⟩
      | ok result =>
        have hexecute : (approve r .admin).execute m db = result.2 := by
          rw [execute, KycService.commitApproval, hrecord]
          rfl
        obtain ⟨application, hfind, ⟨hne, rfl⟩ | ⟨hstatus, contract, hcontract, hactivates, -⟩⟩ :=
          KycService.recordAdminApproval_eq_ok hrecord
        · have hnone : (approve r .admin).activation m db = none := by
            simp [activation, hfind, hne]
          have h : db.Untouched ((approve r .admin).execute m db) := by
            rw [hexecute]
            exact ⟨rfl, rfl, rfl, rfl⟩
          exact .inr ⟨hnone, fun _ => h, hquiet h⟩
        · refine .inl ⟨r, contract, rfl, ?_, hcontract, hexecute ▸ hactivates⟩
          simp [activation, hfind, hcontract, hstatus, hrecord, Except.isOk, Except.toBool]
  | reject admin loaded reason =>
    refine .inr ⟨rfl, fun h => absurd h Bool.false_ne_true, rfl, rfl, ?_⟩
    exact Table.map_rows_updateMany db.financingContracts
      (fun c => c.kycApplicationId = loaded.application.kycApplicationId)
      (f := KycService.rejectedContract m.now) (fun _ => rfl) fun _ => rfl
  | claimSessions now => exact .inr ⟨rfl, fun h => absurd h Bool.false_ne_true, rfl, rfl, rfl⟩
  | finalizeSession stale =>
    exact .inr ⟨rfl, fun h => absurd h Bool.false_ne_true, hquiet (untouched_finalizeSession stale db)⟩
  | autoReject applicationId fileHash =>
    exact .inr ⟨rfl, fun h => absurd h Bool.false_ne_true, rfl, rfl, rfl⟩

theorem users_execute (w : KycWrite) (m : KycMoment) (db : Database) :
    (w.execute m db).users.rows =
      db.users.rows ++ (w.activation m db).toList.flatMap fun a => [a.customer] := by
  rcases w.activation_cases m db with ⟨r, contract, -, hactivation, -, hactivates⟩ |
    ⟨hnone, -, husers, -⟩
  · rw [hactivation, (Table.create_eq_some hactivates.users).2]
    rfl
  · simp [hnone, husers]

/-- The contract of an application is always the same row. -/
theorem contractOf_map_origin
    (h : db'.financingContracts.rows.map FinancingContract.origin =
      db.financingContracts.rows.map FinancingContract.origin) :
    (KycService.contractOf k db').map FinancingContract.origin =
      (KycService.contractOf k db).map FinancingContract.origin := by
  have hfind (db : Database) : (KycService.contractOf k db).map FinancingContract.origin =
      (db.financingContracts.rows.map FinancingContract.origin).find?
        (fun c => c.kycApplicationId = k) := by
    rw [List.find?_map]
    rfl
  rw [hfind, hfind, h]

theorem origin_activates {r : Review} {contract : FinancingContract}
    (h : KycService.Activates r contract m db db') :
    db'.financingContracts.rows.map FinancingContract.origin =
      db.financingContracts.rows.map FinancingContract.origin := by
  rw [h.contracts]
  exact Table.map_rows_update db.financingContracts contract.contractId
    (f := KycService.activatedContract m.userId m.now) (fun _ => rfl) fun _ => rfl

theorem installmentsOf_congr
    (h : db'.financingContracts.rows.map FinancingContract.origin =
      db.financingContracts.rows.map FinancingContract.origin)
    (hrows : db'.installments = db.installments) : installmentsOf k db' = installmentsOf k db := by
  have hfilter (db : Database) : installmentsOf k db =
      (((KycService.contractOf k db).map FinancingContract.origin).map fun c =>
        db.installments.rows.filter (fun i => i.financingContractId = c.contractId)).getD [] := by
    rw [installmentsOf, Option.map_map]
    rfl
  rw [hfilter, hfilter, contractOf_map_origin h, hrows]

/-- The rows of an activation are installments of its contract. -/
theorem Activation.filter_installments (a : Activation) (contractId : String) :
    a.installments.filter (fun i => i.financingContractId = contractId) =
      if a.contract.contractId = contractId then a.installments else [] := by
  have hmem : ∀ i ∈ a.installments, i.financingContractId = a.contract.contractId := by
    intro i hi
    obtain ⟨row, hrow, rfl⟩ := List.mem_map.mp hi
    cases hschedule : KycService.scheduleOf a.contract a.moment.now with
    | error err => simp [hschedule, Except.toOption] at hrow
    | ok schedule =>
      rw [hschedule] at hrow
      obtain ⟨n, -, rfl⟩ := (InstallmentService.mem_schedule hschedule).mp hrow
      rfl
  by_cases h : a.contract.contractId = contractId
  · rw [if_pos h, List.filter_eq_self]
    intro i hi
    simpa [hmem i hi] using h
  · rw [if_neg h, List.filter_eq_nil_iff]
    intro i hi
    simpa [hmem i hi] using h

theorem installmentsOf_execute (k : String) (w : KycWrite) (m : KycMoment) (db : Database) :
    installmentsOf k (w.execute m db) = installmentsOf k db ++
      (w.activation m db).toList.flatMap fun a =>
        if a.applicationId = k then a.installments else [] := by
  rcases w.activation_cases m db with ⟨r, contract, -, hactivation, hcontract, hactivates⟩ |
    ⟨hnone, -, -, hrows, horigin⟩
  · obtain ⟨schedule, hschedule, hrows, -⟩ := hactivates.installments
    have hstored : (w.execute m db).installments.rows = db.installments.rows ++
        ({ review := r, contract, moment := m } : Activation).installments := by
      rw [Activation.installments, hschedule]
      exact hrows
    have hsame : (KycService.contractOf k (w.execute m db)).map FinancingContract.origin =
        (KycService.contractOf k db).map FinancingContract.origin := by
      have horigin := origin_activates hactivates
      exact contractOf_map_origin horigin
    rw [hactivation, Option.toList_some, List.flatMap_singleton]
    cases hc : KycService.contractOf k db with
    | none =>
      have hk : r.application.kycApplicationId ≠ k := by
        rintro rfl
        rw [hcontract] at hc
        cases hc
      rw [hc, Option.map_none, Option.map_eq_none_iff] at hsame
      rw [installmentsOf, hsame, installmentsOf, hc]
      exact (if_neg hk).symm
    | some c =>
      rw [hc, Option.map_some] at hsame
      obtain ⟨c', hc', he⟩ := Option.map_eq_some_iff.mp hsame
      have hid : c'.contractId = c.contractId := (congrArg FinancingContract.contractId he :)
      have hiff : contract.contractId = c.contractId ↔ r.application.kycApplicationId = k := by
        obtain ⟨hmem, hk⟩ := KycService.contractOf_eq_some hc
        obtain ⟨hmem', hk'⟩ := KycService.contractOf_eq_some hcontract
        constructor
        · intro heq
          rw [← hk', ← hk, Table.key_injective hmem' hmem heq]
        · rintro rfl
          rw [hcontract] at hc
          cases hc
          rfl
      have happ : installmentsOf k db = db.installments.rows.filter
          (fun i => i.financingContractId = c.contractId) := by
        rw [installmentsOf, hc]
        rfl
      rw [installmentsOf, hc', Option.map_some, Option.getD_some, hid, hstored, List.filter_append,
        Activation.filter_installments, happ]
      exact congrArg _ (if_congr hiff rfl rfl)
  · rw [hnone, installmentsOf_congr horigin hrows]
    exact (List.append_nil _).symm

/-- The person of an application that is activated was no user, and is one then. -/
theorem enrolled_of_activation {a : Activation} (hground : w.Grounded db)
    (h : w.activation m db = some a) :
    ¬ db.Enrolled a.applicationId ∧ (w.execute m db).Enrolled a.applicationId := by
  rcases w.activation_cases m db with ⟨r, contract, rfl, hactivation, -, hactivates⟩ | ⟨hnone, -⟩
  · obtain rfl := Option.some.inj (hactivation.symm.trans h)
    have hpair : db.HasPair r.application r.session := hground
    have hpair' := hpair.keeps (KycWrite.keeps_execute m db (.approve r .admin))
    refine ⟨fun henrolled => ?_, hpair'.enrolled_iff.mpr ?_⟩
    · obtain ⟨u, hu, hemail⟩ := hpair.enrolled_iff.mp henrolled
      exact hactivates.email u hu hemail
    · exact ⟨_, Table.mem_of_find? hactivates.find?_newUser, rfl⟩
  · rw [hnone] at h
    cases h

end steps

/-- Of a list with one element that counts, what the elements contribute that do. -/
theorem flatMap_of_countP_le_one {α β : Type} {p : α → Bool} {g : α → List β} {a : α} {as : List α}
    (h : as.countP p ≤ 1) (ha : a ∈ as) (hp : p a = true) :
    (as.flatMap fun b => if p b then g b else []) = g a := by
  induction as with
  | nil => cases ha
  | cons b as ih =>
    rw [List.flatMap_cons]
    by_cases hb : p b = true
    · have hzero : as.countP p = 0 := by
        rw [List.countP_cons_of_pos hb] at h
        omega
      have hnone := List.countP_eq_zero.mp hzero
      have htail : (as.flatMap fun b => if p b then g b else []) = [] :=
        List.flatMap_eq_nil_iff.mpr fun c hc => if_neg (hnone c hc)
      rw [if_pos hb, htail, List.append_nil]
      rcases List.mem_cons.mp ha with rfl | ha
      · rfl
      · exact absurd hp (hnone a ha)
    · rw [if_neg hb, List.nil_append]
      rw [List.countP_cons_of_neg hb] at h
      exact ih h ((List.mem_cons.mp ha).resolve_left fun he => hb (he ▸ hp))

section interleaving
variable {ι : Type} [DecidableEq ι]

namespace KycThreads

/-- What the next statement of the thread activates. -/
def activation (c : KycThreads ι) (l : ι × KycMoment) : Option Activation :=
  (c.threads l.1).pending.bind (KycWrite.activation l.2 c.shared)

/-- An approval that does not activate leaves customers and contracts alone. -/
def Refused (c : KycThreads ι) (l : ι × KycMoment) : Prop :=
  ∀ w ∈ (c.threads l.1).pending, w.isApproval = true → w.activation l.2 c.shared = none →
    c.shared.Untouched (performKyc c l).shared

end KycThreads

theorem appends_performKyc {γ : Type} {v : Database → List γ} {g : Activation → List γ}
    (hv : ∀ w m db, v (KycWrite.execute m db w) =
      v db ++ (w.activation m db).toList.flatMap g) (c : KycThreads ι) (l : ι × KycMoment) :
    v (performKyc c l).shared = v c.shared ++ (c.activation l).toList.flatMap g := by
  rw [performKyc, perform_shared, Program.advance_shared, KycThreads.activation]
  cases (c.threads l.1).pending with
  | none => exact (List.append_nil _).symm
  | some w => exact hv w l.2 c.shared

theorem refused_performKyc (c : KycThreads ι) (l : ι × KycMoment) : c.Refused l := by
  intro w hw happroval hnone
  have hw : (c.threads l.1).pending = some w := hw
  rw [performKyc, perform_shared, Program.advance_shared, hw]
  rcases w.activation_cases l.2 c.shared with ⟨r, contract, -, hactivation, -⟩ | ⟨-, h, -⟩
  · rw [hnone] at hactivation
    cases hactivation
  · exact h happroval

omit [DecidableEq ι] in
/-- What the activation of a reachable state has created is a generated schedule. -/
theorem scheduled_of_activation {c : KycThreads ι} {l : ι × KycMoment} {a : Activation}
    (h : c.activation l = some a) : ∃ schedule,
      KycService.scheduleOf a.contract a.moment.now = .ok schedule ∧
      a.installments = schedule.map a.storedRow := by
  obtain ⟨w, -, hactivation⟩ := Option.bind_eq_some_iff.mp h
  rcases w.activation_cases l.2 c.shared with ⟨r, contract, -, hsome, -, hactivates⟩ | ⟨hnone, -⟩
  · obtain rfl := Option.some.inj (hsome.symm.trans hactivation)
    obtain ⟨schedule, hschedule, -⟩ := hactivates.installments
    exact ⟨schedule, hschedule, by rw [Activation.installments, hschedule]; rfl⟩
  · rw [hnone] at hactivation
    cases hactivation

theorem countP_activations_le_one (operations : ι → KycOperation) (applicationId : String)
    (db : Database) (schedule : List (ι × KycMoment)) :
    (history performKyc KycThreads.activation (launchKyc operations db) schedule).countP
      (fun a => a.applicationId = applicationId) ≤ 1 := by
  refine (countP_history_le_one (I := KycThreads.Grounded)
    (J := fun c => c.shared.Enrolled applicationId) (fun c l hc => hc.step l)
    (fun c l _ h => h.keeps (keeps_performKyc c l)) (fun c l a hc ha hid => ?_)
    (grounded_launchKyc operations db) schedule).1
  obtain ⟨w, hw, hactivation⟩ := Option.bind_eq_some_iff.mp ha
  have henrolled := enrolled_of_activation (hc.pending l w hw) hactivation
  rw [of_decide_eq_true hid] at henrolled
  rw [performKyc, perform_shared, Program.advance_shared, hw]
  exact henrolled

/-- In every interleaving an application is activated once at most. Each activation
creates one customer, nothing else creates one, and the installments of a contract
that had none are those of one schedule. -/
theorem activated_at_most_once (operations : ι → KycOperation) (applicationId : String)
    (db : Database) (schedule : List (ι × KycMoment)) :
    let activations := history performKyc KycThreads.activation (launchKyc operations db) schedule
    let final := (run performKyc (launchKyc operations db) schedule).shared
    activations.countP (fun a => a.applicationId = applicationId) ≤ 1 ∧
    final.users.rows = db.users.rows ++ activations.map Activation.customer ∧
    (installmentsOf applicationId db = [] →
      ∀ a ∈ activations, a.applicationId = applicationId → ∃ rows,
        KycService.scheduleOf a.contract a.moment.now = .ok rows ∧
        installmentsOf applicationId final = rows.map a.storedRow) ∧
    Along performKyc KycThreads.Refused (launchKyc operations db) schedule := by
  intro activations final
  have honce := countP_activations_le_one operations applicationId db schedule
  refine ⟨honce, ?_, fun hnone a ha hid => ?_, ?_⟩
  · have happend (c : KycThreads ι) (l : ι × KycMoment) :=
      appends_performKyc (v := fun db => db.users.rows) users_execute c l
    rw [List.map_eq_flatMap]
    exact run_history (v := fun c : KycThreads ι => c.shared.users.rows) happend schedule
  · have happend (c : KycThreads ι) (l : ι × KycMoment) :=
      appends_performKyc (installmentsOf_execute applicationId) c l
    have hrun : installmentsOf applicationId final = installmentsOf applicationId db ++
        activations.flatMap fun a => if a.applicationId = applicationId then a.installments else [] :=
      run_history (v := fun c : KycThreads ι => installmentsOf applicationId c.shared) happend schedule
    obtain ⟨rows, hrows, hinstallments⟩ := forall_mem_history (I := fun _ => True)
      (fun _ _ _ => trivial) (fun _ _ _ _ h => scheduled_of_activation h) trivial schedule a ha
    refine ⟨rows, hrows, ?_⟩
    rw [hrun, hnone, List.nil_append, ← hinstallments]
    have hone := flatMap_of_countP_le_one (g := Activation.installments) honce ha (by simpa using hid)
    simpa only [decide_eq_true_eq] using hone
  · exact along_of_forall refused_performKyc _ schedule

end interleaving

/-- A marketer's customer, with the marketer and the ADMIN who created it. -/
def referredApplication : Database where
  users := ⟨[{ userId := "mark", role := .marketer, createdById := some "head" },
    { userId := "head", role := .admin }], by decide⟩
  onboardingSessions := ⟨[{ sessionId := "s", name := "Bea", email := "bea@x.y", passwordHash := "h"
                            marketerId := some "mark", status := .kycSubmitted, expiresAt := 9 }],
    by decide⟩
  kycApplications := ⟨[{ kycApplicationId := "k", onboardingSessionId := some "s"
                         productId := "stove" }], by decide⟩
  financingContracts := ⟨[{ contractId := "c", userId := none, productId := "stove"
                            kycApplicationId := "k", approvedDurationMonths := 2
                            totalFinanced := 100, status := .pendingActivation }], by decide⟩

/-- Two approvals by the marketer, and two by the ADMIN. -/
def approvers : Bool × Bool → KycOperation
  | (true, _) => .approve "k" "mark"
  | (false, _) => .approve "k" "head"

/-- The first approval writes between the second pair, long after it has read. -/
def lateApproval : List ((Bool × Bool) × KycMoment) :=
  let m (userId : String) : KycMoment :=
    { now := 0, userId, referralId := userId, installmentId := fun n => userId ++ toString n }
  List.replicate 5 ((true, true), m "u") ++ List.replicate 6 ((true, false), m "u") ++
    List.replicate 6 ((false, true), m "u") ++ [((true, true), m "u")] ++
    List.replicate 6 ((false, false), m "v")

theorem late_approval_activates_once :
    (history performKyc KycThreads.activation (launchKyc approvers referredApplication)
      lateApproval).length = 1 ∧
    ∀ a ∈ history performKyc KycThreads.activation (launchKyc approvers referredApplication)
        lateApproval, a.applicationId = "k" → ∃ rows,
      KycService.scheduleOf a.contract a.moment.now = .ok rows ∧
      installmentsOf "k" (run performKyc (launchKyc approvers referredApplication)
        lateApproval).shared = rows.map a.storedRow :=
  ⟨by decide +kernel,
    (activated_at_most_once approvers "k" referredApplication lateApproval).2.2.1 (by decide)⟩

end InstalFlow
