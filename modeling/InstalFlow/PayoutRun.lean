import InstalFlow.PaymentEffects
import InstalFlow.PayoutRequests
import InstalFlow.TransferEvents

/-!
# Runs of whole operations

The operations on payouts and commissions, executed one at a time in any order.
Each of them either accrues one commission or applies the list of moves that
can be read off the database before it, so what a run does to a commission is
decided step by step on its fund.
-/

namespace InstalFlow
open Relational Accounting CommissionService

inductive Operation
  | processPayment (verifyPaystack : String → Except String Verification) (job : PaymentJobData)
      (paymentId commissionId : String) (now : DateTime)
  | requestPayout (userId : String) (amount : ℚ) (payoutId : String) (now : DateTime)
  | adminApprovePayout (payoutId adminId : String) (now : DateTime)
  | companyApprovePayout (payoutId companyUserId : String) (now : DateTime)
  | initiateTransfer (payoutId companyUserId : String) (now : DateTime)
  | transferJob (paystack : Paystack) (payoutId : String)
  | transferJobFailed (job : TransferWorker.FailedJob) (message : String) (now : DateTime)
  | webhook (event : TransferEvent) (payload : TransferPayload) (now : DateTime)

namespace Operation

def apply (db : Database) : Operation → Database
  | processPayment verifyPaystack job paymentId commissionId now =>
      committed db Prod.snd (PaymentWorker.process verifyPaystack job paymentId commissionId now db)
  | requestPayout userId amount payoutId now =>
      committed db Prod.snd (CommissionService.requestPayout userId amount payoutId now db)
  | adminApprovePayout payoutId adminId now =>
      committed db id (CommissionService.adminApprovePayout payoutId adminId now db)
  | companyApprovePayout payoutId companyUserId now =>
      committed db id (CommissionService.companyApprovePayout payoutId companyUserId now db)
  | initiateTransfer payoutId companyUserId now =>
      committed db Prod.snd (CommissionService.initiateTransfer payoutId companyUserId now db)
  | transferJob paystack payoutId => (TransferWorker.process paystack payoutId db).1
  | transferJobFailed job message now =>
      committed db id (TransferWorker.onFailed job message now db)
  | webhook event payload now => committed db id (event.handler.handle payload now db)

def moves (db : Database) : Operation → List (String × Move ℚ)
  | requestPayout userId amount payoutId now =>
      match CommissionService.requestPayout userId amount payoutId now db with
      | .error _ => []
      | .ok _ => (planAllocations amount (lockCommissions userId db)).map AllocationEntry.move
  | initiateTransfer payoutId companyUserId _ =>
      match transferTarget payoutId companyUserId db with
      | .error _ => []
      | .ok (payout, _) => startMoves payout db
  | webhook event payload _ => event.moves payload db
  | _ => []

end Operation

/-- What every operation keeps: the foreign keys of the allocations, and that
they are of positive amounts. -/
structure Sound (db : Database) : Prop where
  commission : ∀ a ∈ db.commissionAllocations.rows, (db.commissions.find? a.commissionId).isSome
  payout : ∀ a ∈ db.commissionAllocations.rows,
    (db.commissionPayoutRequests.find? a.payoutId).isSome
  positive : ∀ a ∈ db.commissionAllocations.rows, 0 < a.allocatedAmount

/-- How rows may change: nothing is deleted, amounts stay, and a new allocation
has its commission and its payout. -/
structure Evolves (db db' : Database) : Prop where
  commission : ∀ id, (db.commissions.find? id).isSome → (db'.commissions.find? id).isSome
  payout : ∀ id, (db.commissionPayoutRequests.find? id).isSome →
    (db'.commissionPayoutRequests.find? id).isSome
  allocation : ∀ a' ∈ db'.commissionAllocations.rows,
    (∃ a ∈ db.commissionAllocations.rows, ∃ status, a' = { a with status }) ∨
      (0 < a'.allocatedAmount ∧ (db'.commissions.find? a'.commissionId).isSome ∧
        (db'.commissionPayoutRequests.find? a'.payoutId).isSome)
  installment : ∀ i' ∈ db'.installments.rows, ∃ i ∈ db.installments.rows, i'.amount = i.amount

theorem Sound.evolve {db db' : Database} (h : Sound db) (he : Evolves db db') : Sound db' := by
  constructor
  · intro a' ha'
    rcases he.allocation a' ha' with ⟨a, ha, status, rfl⟩ | ⟨-, hc, -⟩
    · exact he.commission _ (h.commission a ha)
    · exact hc
  · intro a' ha'
    rcases he.allocation a' ha' with ⟨a, ha, status, rfl⟩ | ⟨-, -, hp⟩
    · exact he.payout _ (h.payout a ha)
    · exact hp
  · intro a' ha'
    rcases he.allocation a' ha' with ⟨a, ha, status, rfl⟩ | ⟨hpos, -⟩
    · exact h.positive a ha
    · exact hpos

theorem Evolves.trans {db₁ db₂ db₃ : Database} (h : Evolves db₁ db₂) (h' : Evolves db₂ db₃) :
    Evolves db₁ db₃ := by
  refine ⟨fun id hid => h'.commission id (h.commission id hid),
    fun id hid => h'.payout id (h.payout id hid), ?_, ?_⟩
  · intro a₃ ha₃
    rcases h'.allocation a₃ ha₃ with ⟨a₂, ha₂, status, rfl⟩ | hnew
    · rcases h.allocation a₂ ha₂ with ⟨a, ha, status', rfl⟩ | ⟨hpos, hc, hp⟩
      · exact .inl ⟨a, ha, status, rfl⟩
      · exact .inr ⟨hpos, h'.commission _ hc, h'.payout _ hp⟩
    · exact .inr hnew
  · intro i hi
    obtain ⟨j, hj, hij⟩ := h'.installment i hi
    obtain ⟨k, hk, hjk⟩ := h.installment j hj
    exact ⟨k, hk, hij.trans hjk⟩

theorem Sound.of_no_allocations {db : Database} (h : db.commissionAllocations.rows = []) :
    Sound db := by
  constructor <;> simp [h]

structure Aside (db db' : Database) : Prop where
  commissions : db'.commissions = db.commissions
  allocations : db'.commissionAllocations = db.commissionAllocations
  installments : db'.installments = db.installments
  payout : ∀ id, (db'.commissionPayoutRequests.find? id).isSome =
    (db.commissionPayoutRequests.find? id).isSome

theorem Aside.refl (db : Database) : Aside db db := ⟨rfl, rfl, rfl, fun _ => rfl⟩

theorem Aside.updatePayout (db : Database) (id : String)
    (f : CommissionPayoutRequest → CommissionPayoutRequest)
    (hf : ∀ p, (f p).payoutId = p.payoutId) : Aside db (updatePayout db id f hf) := by
  refine ⟨rfl, rfl, rfl, fun k => ?_⟩
  rw [find?_updatePayout]
  split
  · rw [Option.isSome_map]
  · rfl

theorem Aside.applies {db db' : Database} (h : Aside db db') : Applies db db' [] :=
  Applies.refl h.commissions h.allocations

theorem Aside.evolves {db db' : Database} (h : Aside db db') : Evolves db db' := by
  constructor
  · intro id hid
    rwa [h.commissions]
  · intro id hid
    rwa [h.payout]
  · intro a ha
    rw [h.allocations] at ha
    exact .inl ⟨a, ha, a.status, rfl⟩
  · intro i hi
    rw [h.installments] at hi
    exact ⟨i, hi, rfl⟩

structure Accrues (db db' : Database) (c : Commission) : Prop where
  created : db.commissions.create c = some db'.commissions
  allocations : db'.commissionAllocations = db.commissionAllocations
  amount : ∃ i ∈ db.installments.rows, ∃ rate, 0 < rate ∧ c.amount = i.amount * rate
  status : c.status = .active
  reservedAmount : c.reservedAmount = 0

section specs
variable {db db' : Database}

theorem accrual_eq_some {i : LoadedInstallment} {userId : String} {amount : ℚ}
    (h : PaymentWorker.accrual i = some (userId, amount)) :
    ∃ rate, 0 < rate ∧ amount = i.installment.amount * rate := by
  rw [PaymentWorker.accrual] at h
  split at h
  · cases h
  · split at h
    · rename_i hrate
      cases h
      exact ⟨_, div_pos hrate.2 (by norm_num), rfl⟩
    · cases h

theorem commits_evolves {i : LoadedInstallment} {now : DateTime}
    (h : PaymentWorker.Commits i now db db') : Evolves db db' := by
  have hcommissions : ∀ id, (db.commissions.find? id).isSome → (db'.commissions.find? id).isSome := by
    intro id hid
    rcases h.commissions with ⟨-, hsame⟩ | ⟨c, hc⟩
    · rwa [hsame]
    · rw [Table.find?_create hc.created]
      split
      · rfl
      · exact hid
  obtain ⟨payments, commissions, ledger, intents, rfl⟩ := h.frame
  refine ⟨hcommissions, fun _ hid => hid, fun a ha => .inl ⟨a, ha, a.status, rfl⟩, ?_⟩
  intro j hj
  obtain ⟨k, hk, rfl⟩ := List.mem_map.mp hj
  refine ⟨k, hk, ?_⟩
  split <;> rfl

theorem process_accrues {verifyPaystack : String → Except String Verification}
    {job : PaymentJobData} {paymentId commissionId : String} {now : DateTime}
    {result : PaymentJobResult}
    (h : PaymentWorker.process verifyPaystack job paymentId commissionId now db =
      .ok (result, db')) :
    Evolves db db' ∧ db'.commissionAllocations = db.commissionAllocations ∧
      (db'.commissions = db.commissions ∨ ∃ c, Accrues db db' c) := by
  obtain ⟨i, hload, ⟨-, intents, rfl⟩ | ⟨-, hcommits⟩⟩ := PaymentWorker.process_eq_ok h
  · exact ⟨Aside.evolves ⟨rfl, rfl, rfl, fun _ => rfl⟩, rfl, .inl rfl⟩
  · have hallocations : db'.commissionAllocations = db.commissionAllocations := by
      obtain ⟨payments, commissions, ledger, intents, rfl⟩ := hcommits.frame
      rfl
    refine ⟨commits_evolves hcommits, hallocations, ?_⟩
    rcases hcommits.commissions with ⟨-, hsame⟩ | ⟨c, hc⟩
    · exact .inl hsame
    · obtain ⟨userId, haccrual⟩ := hc.accrual
      obtain ⟨rate, hrate, hamount⟩ := accrual_eq_some haccrual
      refine .inr ⟨c, hc.created, hallocations, ?_, hc.status, hc.reservedAmount⟩
      exact ⟨_, Table.mem_of_find? (PaymentWorker.loadInstallment_eq_some hload).1, rate, hrate,
        hamount⟩

theorem requestPayout_evolves {userId payoutId : String} {amount : ℚ} {now : DateTime}
    {request : CommissionPayoutRequest}
    (h : CommissionService.requestPayout userId amount payoutId now db = .ok (request, db')) :
    Evolves db db' := by
  have happlies := requestPayout_applies h
  obtain ⟨r, role, hr, -, hcreate⟩ := requestPayout_eq_ok h
  obtain ⟨-, hrequest, payouts, hpayouts, hplan⟩ := createPayout_eq_ok hcreate
  obtain ⟨⟨cs, as, rfl⟩, hrows⟩ := reservePlan_frame hplan
  refine ⟨fun id hid => by rwa [(happlies id).isSome], ?_, ?_, fun i hi => ⟨i, hi, rfl⟩⟩
  · intro id hid
    refine (congrArg Option.isSome (Table.find?_create hpayouts id)).trans ?_
    split
    · rfl
    · exact hid
  · intro a ha
    rw [hrows, List.mem_append] at ha
    rcases ha with ha | ha
    · exact .inl ⟨a, ha, a.status, rfl⟩
    · obtain ⟨e, he, rfl⟩ := List.mem_map.mp ha
      obtain ⟨c, hc, -⟩ := current_of_mem_plan he
      refine .inr ⟨toAllocate_pos he, ?_, ?_⟩
      · rw [(happlies _).isSome, AllocationEntry.row, hc]
        rfl
      · refine (congrArg Option.isSome (Table.find?_create hpayouts payoutId)).trans ?_
        rw [if_pos (by rw [hrequest])]
        rfl

theorem Turn.foldl_evolves (t : Turn) (db : Database) (js : List JoinedAllocation) :
    Evolves db (js.foldl t.body db) := by
  have hcommissions : ∀ id, (db.commissions.find? id).isSome →
      ((js.foldl t.body db).commissions.find? id).isSome := by
    intro id hid
    induction js generalizing db with
    | nil => exact hid
    | cons j js ih =>
      apply ih
      rw [t.body_eq, find?_setReservation]
      split
      · rw [Option.isSome_map]
        exact hid
      · exact hid
  refine ⟨hcommissions, ?_, fun a ha => .inl (t.foldl_rows db js ha), ?_⟩
  · obtain ⟨cs, as, h⟩ := t.foldl_frame db js
    rw [h]
    exact fun _ hid => hid
  · obtain ⟨cs, as, h⟩ := t.foldl_frame db js
    rw [h]
    exact fun i hi => ⟨i, hi, rfl⟩

theorem TransferEvent.handle_evolves (e : TransferEvent) {payload : TransferPayload}
    {now : DateTime} (h : e.handler.handle payload now db = .ok db') : Evolves db db' := by
  rcases e.handle_cases payload now db with ⟨-, hdb⟩ | ⟨payout, ledger, -, -, -, hdb⟩
  · rw [hdb] at h
    cases h
    exact (Aside.refl db).evolves
  · rw [hdb] at h
    cases h
    have hmark := Aside.updatePayout db payout.payoutId (e.handler.mark payload now)
      (e.handler.mark_payoutId payload now)
    exact (hmark.evolves.trans (e.turn.foldl_evolves _ _)).trans
      (Aside.evolves ⟨rfl, rfl, rfl, fun _ => rfl⟩)

theorem startTransfer_evolves (payout : CommissionPayoutRequest) (bank : MarketerBankAccount)
    (companyUserId : String) (now : DateTime) (db : Database) :
    Evolves db (startTransfer payout bank companyUserId now db) := by
  have hreserve : Evolves db
      (if payout.status = .transferFailed then reReserve payout.payoutId db else db) := by
    split
    · exact (Turn.reReserve.foldl_evolves db _).trans (Aside.updatePayout ..).evolves
    · exact (Aside.refl db).evolves
  have hreversed : ∀ db₁ : Database, Evolves db₁
      (if payout.status = .transferReversed then
        updatePayout db₁ payout.payoutId fun p => { p with status := .approved } else db₁) := by
    intro db₁
    split
    · exact (Aside.updatePayout ..).evolves
    · exact (Aside.refl db₁).evolves
  exact (hreserve.trans (hreversed _)).trans (Aside.updatePayout ..).evolves

theorem transferJob_aside (paystack : Paystack) (payoutId : String) (db : Database) :
    Aside db (TransferWorker.process paystack payoutId db).1 := by
  obtain ⟨banks, h | ⟨code, ledger, h⟩⟩ := TransferWorker.process_cases paystack payoutId db
  · rw [h]
    exact ⟨rfl, rfl, rfl, fun _ => rfl⟩
  · rw [h]
    have hupdate := Aside.updatePayout db payoutId (fun p =>
      { p with transferCode := code.or p.transferCode }) (fun _ => rfl)
    exact ⟨rfl, rfl, rfl, hupdate.payout⟩

theorem adminApprovePayout_aside {payoutId adminId : String} {now : DateTime}
    (h : CommissionService.adminApprovePayout payoutId adminId now db = .ok db') : Aside db db' := by
  obtain ⟨payout, -, -, rfl⟩ := adminApprovePayout_eq_ok h
  exact Aside.updatePayout ..

theorem companyApprovePayout_aside {payoutId companyUserId : String} {now : DateTime}
    (h : CommissionService.companyApprovePayout payoutId companyUserId now db = .ok db') :
    Aside db db' := by
  obtain ⟨payout, -, -, rfl⟩ := companyApprovePayout_eq_ok h
  exact Aside.updatePayout ..

theorem onFailed_aside {job : TransferWorker.FailedJob} {message : String} {now : DateTime}
    (h : TransferWorker.onFailed job message now db = .ok db') : Aside db db' := by
  rcases TransferWorker.onFailed_eq_ok h with ⟨-, rfl⟩ | ⟨payout, -, -, rfl⟩
  · exact Aside.refl _
  · exact Aside.updatePayout ..

end specs

def Database.Each (Q : Commission → Fund ℚ → Prop) (db : Database) : Prop :=
  ∀ c ∈ db.commissions.rows, Q c (db.fund c.commissionId)

instance {Q : Commission → Fund ℚ → Prop} [∀ c f, Decidable (Q c f)] (db : Database) :
    Decidable (db.Each Q) :=
  inferInstanceAs (Decidable (∀ c ∈ db.commissions.rows, Q c (db.fund c.commissionId)))

theorem fund_eq_zero {db : Database} {id : String}
    (h : ∀ a ∈ db.commissionAllocations.rows, a.commissionId ≠ id) : db.fund id = ⟨0, 0⟩ := by
  have hsum : ∀ s, db.sumAllocated id s = 0 := by
    intro s
    apply Table.sumWhere_eq_zero
    intro a ha
    simp [h a ha]
  rw [Database.fund, hsum, hsum]

namespace Operation

def IsAside : Operation → Prop
  | adminApprovePayout .. | companyApprovePayout .. | transferJob .. | transferJobFailed .. => True
  | _ => False

theorem aside_apply (db : Database) (op : Operation) (h : op.IsAside) :
    Aside db (op.apply db) := by
  cases op with
  | adminApprovePayout payoutId adminId now =>
    exact committed_rule (Aside.refl db) fun _ => adminApprovePayout_aside
  | companyApprovePayout payoutId companyUserId now =>
    exact committed_rule (Aside.refl db) fun _ => companyApprovePayout_aside
  | transferJob paystack payoutId => exact transferJob_aside paystack payoutId db
  | transferJobFailed job message now =>
    exact committed_rule (Aside.refl db) fun _ => onFailed_aside
  | processPayment | requestPayout | initiateTransfer | webhook => exact h.elim

theorem apply_cases (db : Database) (op : Operation) : Evolves db (op.apply db) ∧
    (Applies db (op.apply db) (op.moves db) ∨
      (op.moves db = [] ∧ ∃ c, Accrues db (op.apply db) c)) := by
  cases op with
  | processPayment verifyPaystack job paymentId commissionId now =>
    refine committed_rule (P := fun db' => Evolves db db' ∧ (Applies db db' [] ∨ _ = [] ∧
      ∃ c, Accrues db db' c)) ⟨(Aside.refl db).evolves, .inl (Aside.refl db).applies⟩ ?_
    intro res h
    obtain ⟨hevolves, hallocations, hcommissions⟩ := process_accrues h
    exact ⟨hevolves, hcommissions.imp (Applies.refl · hallocations) (⟨rfl, ·⟩)⟩
  | requestPayout userId amount payoutId now =>
    cases h : CommissionService.requestPayout userId amount payoutId now db with
    | error e =>
      simp only [apply, moves, h, committed_error]
      exact ⟨(Aside.refl db).evolves, .inl (Aside.refl db).applies⟩
    | ok res =>
      simp only [apply, moves, h, committed_ok]
      exact ⟨requestPayout_evolves h, .inl (requestPayout_applies h)⟩
  | initiateTransfer payoutId companyUserId now =>
    cases h : transferTarget payoutId companyUserId db with
    | error e =>
      simp only [apply, moves, CommissionService.initiateTransfer, h, committed_error]
      exact ⟨(Aside.refl db).evolves, .inl (Aside.refl db).applies⟩
    | ok target =>
      simp only [apply, moves, CommissionService.initiateTransfer, h, committed_ok]
      exact ⟨startTransfer_evolves .., .inl (startTransfer_applies _ _ _ _ _)⟩
  | webhook event payload now =>
    obtain ⟨db', h⟩ := event.handle_isOk payload now db
    simp only [apply, moves, h, committed_ok, id]
    exact ⟨event.handle_evolves h, .inl (event.handle_applies h)⟩
  | adminApprovePayout payoutId adminId now =>
    have haside := aside_apply db (.adminApprovePayout payoutId adminId now) trivial
    exact ⟨haside.evolves, .inl haside.applies⟩
  | companyApprovePayout payoutId companyUserId now =>
    have haside := aside_apply db (.companyApprovePayout payoutId companyUserId now) trivial
    exact ⟨haside.evolves, .inl haside.applies⟩
  | transferJob paystack payoutId =>
    have haside := aside_apply db (.transferJob paystack payoutId) trivial
    exact ⟨haside.evolves, .inl haside.applies⟩
  | transferJobFailed job message now =>
    have haside := aside_apply db (.transferJobFailed job message now) trivial
    exact ⟨haside.evolves, .inl haside.applies⟩

/-- A property of each commission and its fund, after an operation, in terms of
the database before it: the commissions there were have made their moves, and
one that is accrued starts with an empty fund. -/
theorem each_apply_iff {Q : Commission → Fund ℚ → Prop} {db : Database} (h : Sound db)
    (op : Operation)
    (hnew : ∀ c, c.status = .active → c.reservedAmount = 0 →
      (∃ i ∈ db.installments.rows, ∃ rate, 0 < rate ∧ c.amount = i.amount * rate) → Q c ⟨0, 0⟩) :
    (op.apply db).Each Q ↔ ∀ c ∈ db.commissions.rows,
      Q (c.afterMove (moveOf (op.moves db) c.commissionId)
          ((db.fund c.commissionId).apply (moveOf (op.moves db) c.commissionId)).paid)
        ((db.fund c.commissionId).apply (moveOf (op.moves db) c.commissionId)) := by
  rcases (apply_cases db op).2 with happlies | ⟨hmoves, c, hc⟩
  · constructor
    · intro hQ c hmem
      have hm := happlies c.commissionId
      have hrow := hm.row
      rw [Table.find?_of_mem hmem, Option.map_some] at hrow
      have hq := hQ _ (Table.mem_of_find? hrow)
      rwa [Commission.afterMove_commissionId, hm.fund] at hq
    · intro hQ c' hmem'
      have hm := happlies c'.commissionId
      have hrow := hm.row
      rw [Table.find?_of_mem hmem', eq_comm, Option.map_eq_some_iff] at hrow
      obtain ⟨c, hc, hafter⟩ := hrow
      have hq := hQ c (Table.mem_of_find? hc)
      rwa [Table.find?_key hc, ← hm.fund, hafter] at hq
  · have hfund : ∀ id, (op.apply db).fund id = db.fund id := by
      intro id
      simp only [Database.fund, Database.sumAllocated, hc.allocations]
    have hrows := (Table.create_eq_some hc.created).2
    have hempty : db.fund c.commissionId = ⟨0, 0⟩ := by
      apply fund_eq_zero
      intro a ha he
      have := h.commission a ha
      rw [he, (Table.create_eq_some hc.created).1] at this
      cases this
    simp only [Database.Each, hmoves, hrows, List.mem_append, List.mem_singleton, moveOf_nil,
      Commission.afterMove_stay, Fund.apply_stay, hfund]
    constructor
    · intro hQ c' hmem
      exact hQ c' (.inl hmem)
    · intro hQ c' hc'
      rcases hc' with hmem | rfl
      · exact hQ c' hmem
      · rw [hempty]
        exact hnew c' hc.status hc.reservedAmount hc.amount

theorem each_apply_iff_moves {Q : Commission → Fund ℚ → Prop} {db : Database} (h : Sound db)
    (op : Operation) (hn : ((op.moves db).map Prod.fst).Nodup) (hQ : db.Each Q)
    (hnew : ∀ c, c.status = .active → c.reservedAmount = 0 →
      (∃ i ∈ db.installments.rows, ∃ rate, 0 < rate ∧ c.amount = i.amount * rate) → Q c ⟨0, 0⟩) :
    (op.apply db).Each Q ↔ ∀ p ∈ op.moves db, ∀ c, db.commissions.find? p.1 = some c →
      Q (c.afterMove p.2 ((db.fund p.1).apply p.2).paid) ((db.fund p.1).apply p.2) := by
  rw [each_apply_iff h op hnew, ← forall_moveOf_iff (R := fun id m => ∀ c,
    db.commissions.find? id = some c →
      Q (c.afterMove m ((db.fund id).apply m).paid) ((db.fund id).apply m)) hn]
  · constructor
    · intro h' id c hc
      have hid := Table.find?_key hc
      subst hid
      exact h' c (Table.mem_of_find? hc)
    · intro h' c hc
      exact h' c.commissionId c (Table.find?_of_mem hc)
  · intro id c hc
    have hid := Table.find?_key hc
    subst hid
    rw [Fund.apply_stay, Commission.afterMove_stay]
    exact hQ c (Table.mem_of_find? hc)

theorem sound_apply {db : Database} (h : Sound db) (op : Operation) : Sound (op.apply db) :=
  h.evolve (apply_cases db op).1

theorem sound_run {db : Database} (h : Sound db) (ops : List Operation) :
    Sound (Transition.run apply db ops) :=
  Transition.run_invariant (I := Sound) (fun _ op hi => sound_apply hi op) h ops

end Operation

def soleCommission : Database where
  users :=
    ⟨[{ userId := "company", role := .company, companyId := some "co" },
      { userId := "marketer", role := .marketer, companyId := some "co"
        createdById := some "company" }], by decide⟩
  commissions := ⟨[{ commissionId := "c", userId := "marketer", amount := 100 }], by decide⟩
  marketerBankAccounts :=
    ⟨[⟨"bank", "marketer", "058", "Marketer", "0123456789", true, none, 0, "", true⟩], by decide⟩

def transferOut (payoutId : String) (amount : ℚ) : List Operation :=
  [.requestPayout "marketer" amount payoutId 0, .companyApprovePayout payoutId "company" 0,
    .initiateTransfer payoutId "company" 0]

def inTransit : Database :=
  Transition.run Operation.apply soleCommission (transferOut "p" 60)

def webhookFor (event : TransferEvent) (payoutId : String) : Operation :=
  .webhook event { reference := payoutId } 0

end InstalFlow
