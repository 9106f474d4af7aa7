import InstalFlow.MerchantShares
import InstalFlow.Transition.Outline

/-!
# Settlements account for the merchants' money

A generation computes its lines from what it has read before; since that is about
paid installments only, it is still true when the transaction commits. The unique
key of the lines then keeps an installment from being settled twice, and each
settlement is worth what the jobs of its installments have posted.
-/

namespace InstalFlow
open Relational Transition MerchantSettlementService

/-- The line is of a paid installment of the company, for what the commission leaves. -/
def LineOwed (db : Database) (companyId : String) (l : MerchantSettlementLine) : Prop :=
  ∃ i ∈ db.installments.rows, i.installmentId = l.installmentId ∧ i.status = .paid ∧
    customerCompany db i = some companyId ∧ l.netAmount = i.amount - commissionDeducted db i

structure SettlementBooks (db : Database) : Prop where
  lines : ∀ l ∈ db.merchantSettlementLines.rows, ∃ s ∈ db.merchantSettlementRequests.rows,
    s.settlementId = l.settlementId ∧ LineOwed db s.companyId l
  amounts : ∀ s ∈ db.merchantSettlementRequests.rows, s.amount =
    db.merchantSettlementLines.sumWhere (fun l => l.settlementId = s.settlementId)
      MerchantSettlementLine.netAmount
  audits : ∀ e ∈ db.merchantSettlementAuditTrail, ∃ s ∈ db.merchantSettlementRequests.rows,
    s.settlementId = e.settlementId

structure MerchantBooks (references : String → Prop) (db : Database) : Prop where
  payments : PaymentBooks references db
  settlements : SettlementBooks db

/-- An installment has one line at most, a settlement is worth its lines and the
credits of the jobs of their installments, and no line or audit row is without one. -/
structure SettledExactly (db : Database) : Prop where
  once : ∀ installmentId, db.merchantSettlementLines.rows.countP
    (fun l => l.installmentId = installmentId) ≤ 1
  amount : ∀ s ∈ db.merchantSettlementRequests.rows, s.amount =
    db.merchantSettlementLines.sumWhere (fun l => l.settlementId = s.settlementId)
      MerchantSettlementLine.netAmount
  posted : ∀ s ∈ db.merchantSettlementRequests.rows, s.amount =
    db.merchantSettlementLines.sumWhere (fun l => l.settlementId = s.settlementId)
      (fun l => merchantCredits db (some s.companyId) l.installmentId)
  lines : ∀ l ∈ db.merchantSettlementLines.rows, ∃ s ∈ db.merchantSettlementRequests.rows,
    s.settlementId = l.settlementId
  audits : ∀ e ∈ db.merchantSettlementAuditTrail, ∃ s ∈ db.merchantSettlementRequests.rows,
    s.settlementId = e.settlementId

section books
variable {references : String → Prop} {db db' : Database}

theorem Database.KeepsPaid.lineOwed (h : db.KeepsPaid db') {companyId : String}
    {l : MerchantSettlementLine} (hl : LineOwed db companyId l) : LineOwed db' companyId l := by
  obtain ⟨i, hi, hid, hstatus, hcompany, hnet⟩ := hl
  obtain ⟨j, hj, hid', hcontract, hamount, hpaid⟩ := h.installments i hi
  refine ⟨j, hj, hid'.trans hid, hpaid hstatus, ?_, ?_⟩
  · rw [customerCompany_congr hcontract, h.company, hcompany]
  · have hsame : commissionDeducted db' j = commissionDeducted db' i := by
      rw [commissionDeducted, commissionDeducted, hid']
    rw [hamount, hsame, h.deducts hi hstatus, hnet]

theorem SettlementBooks.keeps (h : SettlementBooks db) (hkeeps : db.KeepsPaid db')
    (hrequests : db'.merchantSettlementRequests = db.merchantSettlementRequests)
    (hlines : db'.merchantSettlementLines = db.merchantSettlementLines)
    (haudits : db'.merchantSettlementAuditTrail = db.merchantSettlementAuditTrail) :
    SettlementBooks db' := by
  refine ⟨?_, ?_, ?_⟩ <;> rw [hrequests]
  · rw [hlines]
    intro l hl
    obtain ⟨s, hs, hid, howed⟩ := h.lines l hl
    exact ⟨s, hs, hid, hkeeps.lineOwed howed⟩
  · rw [hlines]
    exact h.amounts
  · rw [haudits]
    exact h.audits

theorem LineOwed.merchantCredits_eq (hbooks : PaymentBooks references db) {companyId : String}
    {l : MerchantSettlementLine} (hl : LineOwed db companyId l) :
    merchantCredits db (some companyId) l.installmentId = l.netAmount := by
  obtain ⟨i, hi, hid, hstatus, hcompany, hnet⟩ := hl
  rw [← hid, (hbooks.paid i hi hstatus).merchantCredits_eq, if_pos hcompany, hnet]

theorem MerchantBooks.settledExactly (h : MerchantBooks references db) : SettledExactly db where
  once installmentId := by
    rw [Table.countP_key]
    split <;> omega
  amount := h.settlements.amounts
  posted s hs := by
    rw [h.settlements.amounts s hs]
    refine congrArg List.sum (List.map_congr_left fun l hl => ?_)
    obtain ⟨hl, hid⟩ := List.mem_filter.mp hl
    obtain ⟨s', hs', hid', howed⟩ := h.settlements.lines l hl
    obtain rfl := Table.key_injective hs' hs (hid'.trans (of_decide_eq_true hid))
    exact (howed.merchantCredits_eq h.payments).symm
  lines l hl := by
    obtain ⟨s, hs, hid, -⟩ := h.settlements.lines l hl
    exact ⟨s, hs, hid⟩
  audits := h.settlements.audits

end books

namespace MerchantSettlementService

theorem createSettlement_audits {companyId settlementId : String}
    {lines : List MerchantSettlementLine} {amount : ℚ} {now : DateTime} {db db' : Database}
    {settlement : MerchantSettlementRequest}
    (h : createSettlement companyId settlementId lines amount now db = .ok (settlement, db')) :
    ∀ e ∈ db'.merchantSettlementAuditTrail,
      e ∈ db.merchantSettlementAuditTrail ∨ e.settlementId = settlementId := by
  rw [createSettlement] at h
  obtain ⟨settlements, -, h⟩ := bind_eq_ok.mp h
  obtain ⟨db₁, hlines, h⟩ := bind_eq_ok.mp h
  obtain ⟨table, rfl, -⟩ := createLines_eq_ok hlines
  cases h
  intro e he
  simp only [audit, updateSettlement, List.mem_append, List.mem_singleton] at he
  rcases he with (he | rfl) | rfl
  · exact .inl he
  · exact .inr rfl
  · exact .inr rfl

end MerchantSettlementService

/-- The lines of a generation are right, although it has computed them before. -/
def Generation.Grounded (db : Database) (g : Generation) : Prop :=
  ∀ l ∈ g.lines, l.settlementId = g.settlementId ∧ LineOwed db g.companyId l

section creating
variable {references : String → Prop} {db db' : Database} {g : Generation}
  {settlement : MerchantSettlementRequest}

/-- The books behind the payments are in other tables than those of the settlements. -/
theorem PaymentBooks.beside (h : PaymentBooks references db)
    (paymentIntents : Table PaymentIntent.intentId) {products : Table Product.productId}
    (merchantSettlementRequests : Table MerchantSettlementRequest.settlementId)
    (merchantSettlementLines : Table MerchantSettlementLine.installmentId)
    (merchantSettlementAuditTrail : List MerchantSettlementAuditTrail)
    (hrates : ∀ p ∈ products.rows, 0 ≤ p.commissionRate ∧ p.commissionRate ≤ 100) :
    PaymentBooks references
        { db with
          paymentIntents, products, merchantSettlementRequests, merchantSettlementLines
          merchantSettlementAuditTrail } ∧
      db.KeepsPaid
        { db with
          paymentIntents, products, merchantSettlementRequests, merchantSettlementLines
          merchantSettlementAuditTrail } := by
  obtain ⟨⟨hkeys, haccrued, hunaccrued, hposted, hunposted⟩, hreferenced, huncredited, -,
    hamounts, hpaid, hunpaid⟩ := h
  exact ⟨⟨⟨hkeys, haccrued, hunaccrued, hposted, hunposted⟩, hreferenced, huncredited, hrates,
    hamounts, hpaid, hunpaid⟩, ⟨fun i hi => ⟨i, hi, rfl, rfl, rfl, id⟩, fun _ => rfl,
    fun _ _ _ => ⟨rfl, fun _ _ => rfl⟩⟩⟩

theorem PaymentBooks.create (h : PaymentBooks references db)
    (hcreate : g.create db = .ok (settlement, db')) :
    PaymentBooks references db' ∧ db.KeepsPaid db' := by
  obtain ⟨_, _, _, rfl, -⟩ := createSettlement_eq_ok hcreate
  exact h.beside _ _ _ _ h.rates

theorem SettlementBooks.create (h : SettlementBooks db) (hg : g.Grounded db)
    (hkeeps : db.KeepsPaid db') (hcreate : g.create db = .ok (settlement, db')) :
    SettlementBooks db' := by
  have haudits := createSettlement_audits hcreate
  obtain ⟨requests, _, _, rfl, hsettlement, hfresh, hfind, hrows⟩ := createSettlement_eq_ok hcreate
  have hkept : ∀ s ∈ db.merchantSettlementRequests.rows,
      s.settlementId ≠ g.settlementId ∧ s ∈ requests.rows := by
    intro s hs
    have hne : s.settlementId ≠ g.settlementId := Table.find?_eq_none_iff.mp hfresh s hs
    have hstored := hfind s.settlementId
    rw [if_neg hne, Table.find?_of_mem hs] at hstored
    exact ⟨hne, Table.mem_of_find? hstored⟩
  have hcreated : settlement ∈ requests.rows ∧ settlement.settlementId = g.settlementId := by
    have hstored := hfind g.settlementId
    rw [if_pos rfl] at hstored
    exact ⟨Table.mem_of_find? hstored, by rw [hsettlement]⟩
  refine ⟨fun l hl => ?_, fun s hs => ?_, fun e he => ?_⟩
  · simp only [hrows, List.mem_append] at hl
    rcases hl with hl | hl
    · obtain ⟨s, hs, hid, howed⟩ := h.lines l hl
      exact ⟨s, (hkept s hs).2, hid, hkeeps.lineOwed howed⟩
    · obtain ⟨hid, howed⟩ := hg l hl
      refine ⟨settlement, hcreated.1, hcreated.2.trans hid.symm, ?_⟩
      rw [hsettlement]
      exact hkeeps.lineOwed howed
  · have hstored := hfind s.settlementId
    rw [Table.find?_of_mem hs] at hstored
    refine Eq.trans ?_ (Table.sumWhere_append hrows _ _).symm
    by_cases hid : s.settlementId = g.settlementId
    · -- the lines that were there belong to other settlements
      rw [if_pos hid, Option.some.injEq] at hstored
      have hold : db.merchantSettlementLines.sumWhere (fun l => l.settlementId = s.settlementId)
          MerchantSettlementLine.netAmount = 0 := by
        refine Table.sumWhere_eq_zero fun l hl => ?_
        obtain ⟨s', hs', hid', -⟩ := h.lines l hl
        rw [decide_eq_false_iff_not, hid, ← hid']
        exact (hkept s' hs').1
      have hnew : g.lines.filter (fun l => l.settlementId = s.settlementId) = g.lines := by
        refine List.filter_eq_self.mpr fun l hl => ?_
        exact decide_eq_true ((hg l hl).1.trans hid.symm)
      rw [hold, hnew, zero_add, hstored, hsettlement]
      rfl
    · rw [if_neg hid] at hstored
      have hnew : g.lines.filter (fun l => l.settlementId = s.settlementId) = [] := by
        refine List.filter_eq_nil_iff.mpr fun l hl he => ?_
        exact hid ((of_decide_eq_true he).symm.trans (hg l hl).1)
      rw [hnew, List.map_nil, List.sum_nil, add_zero]
      exact h.amounts s (Table.mem_of_find? hstored.symm)
  · rcases haudits e he with he | he
    · obtain ⟨s, hs, hid⟩ := h.audits e he
      exact ⟨s, (hkept s hs).2, hid⟩
    · exact ⟨settlement, hcreated.1, hcreated.2.trans he.symm⟩

end creating

/-- What is known of the database when a flow writes. -/
def SettlementGrounded (references : String → Prop) (db : Database) : IntentWrite → Prop
  | .collect a => references a.reference ∧ a.loaded.Stands db
  | .elsewhere f _ => (∃ g : Generation, f = g.commit ∧ g.Grounded db) ∨
      ∃ productId rate, f = setCommissionRate productId rate
  | _ => True

section writes
variable {references : String → Prop} {db : Database}

theorem MerchantBooks.of_paymentIntents (h : MerchantBooks references db)
    (paymentIntents : Table PaymentIntent.intentId) :
    MerchantBooks references { db with paymentIntents } ∧
      db.KeepsPaid { db with paymentIntents } := by
  obtain ⟨hpayments, hkeeps⟩ := h.payments.beside paymentIntents db.merchantSettlementRequests
    db.merchantSettlementLines db.merchantSettlementAuditTrail h.payments.rates
  exact ⟨⟨hpayments, h.settlements.keeps hkeeps rfl rfl rfl⟩, hkeeps⟩

theorem MerchantBooks.setCommissionRate (h : MerchantBooks references db) (productId : String)
    (rate : CommissionRate) : MerchantBooks references (setCommissionRate productId rate db) ∧
      db.KeepsPaid (setCommissionRate productId rate db) := by
  have hrates : ∀ p ∈ (InstalFlow.setCommissionRate productId rate db).products.rows,
      0 ≤ p.commissionRate ∧ p.commissionRate ≤ 100 := by
    intro p hp
    simp only [InstalFlow.setCommissionRate, Table.mem_update_iff] at hp
    rcases hp with ⟨hp, -⟩ | ⟨q, -, -, rfl⟩
    · exact h.payments.rates p hp
    · exact ⟨rate.nonneg, rate.le_hundred⟩
  obtain ⟨hpayments, hkeeps⟩ := h.payments.beside db.paymentIntents db.merchantSettlementRequests
    db.merchantSettlementLines db.merchantSettlementAuditTrail hrates
  exact ⟨⟨hpayments, h.settlements.keeps hkeeps rfl rfl rfl⟩, hkeeps⟩

theorem MerchantBooks.commit (h : MerchantBooks references db) {g : Generation}
    (hg : g.Grounded db) : MerchantBooks references (g.commit db) ∧ db.KeepsPaid (g.commit db) := by
  refine committed_rule (P := fun db' => MerchantBooks references db' ∧ db.KeepsPaid db')
    ⟨h, .rfl⟩ ?_
  rintro ⟨settlement, db'⟩ hcreate
  obtain ⟨hpayments, hkeeps⟩ := h.payments.create hcreate
  exact ⟨⟨hpayments, h.settlements.create hg hkeeps hcreate⟩, hkeeps⟩

theorem MerchantBooks.collect (h : MerchantBooks references db) {a : PaymentAttempt}
    (ha : references a.reference) (hs : a.loaded.Stands db) (hunpaid : PaysUnpaid db (.collect a)) :
    MerchantBooks references (committed db id (a.collect db)) ∧
      db.KeepsPaid (committed db id (a.collect db)) := by
  refine committed_rule (P := fun db' => MerchantBooks references db' ∧ db.KeepsPaid db')
    ⟨h, .rfl⟩ ?_
  intro db' hcollect
  have hunpaid := hunpaid (by rw [hcollect]; rfl)
  obtain ⟨payment, hc⟩ := PaymentAttempt.collects h.payments.booked hcollect
  have hkeeps := hc.keepsPaid h.payments hs hunpaid
  obtain ⟨_, _, _, _, -, -, -, rfl⟩ := PaymentAttempt.collect_eq_ok hcollect
  exact ⟨⟨h.payments.collect ha hs hunpaid hc hcollect,
    h.settlements.keeps hkeeps rfl rfl rfl⟩, hkeeps⟩

theorem MerchantBooks.onIntents (h : MerchantBooks references db) (m : Moment) {w : IntentWrite}
    (hw : w.Collects references) (hcollect : ∀ a, w ≠ .collect a) :
    MerchantBooks references (w.execute m db) ∧ db.KeepsPaid (w.execute m db) := by
  obtain ⟨paymentIntents, heq⟩ := execute_paymentIntents m db hw hcollect
  rw [heq]
  exact h.of_paymentIntents paymentIntents

/-- A write that is grounded keeps the accounts, and what paid installments say. -/
theorem MerchantBooks.execute (m : Moment) {w : IntentWrite}
    (hw : SettlementGrounded references db w) (hunpaid : PaysUnpaid db w)
    (h : MerchantBooks references db) :
    MerchantBooks references (w.execute m db) ∧ db.KeepsPaid (w.execute m db) := by
  cases w with
  | collect a => exact h.collect hw.1 hw.2 hunpaid
  | elsewhere f hf =>
    rcases hw with ⟨g, rfl, hg⟩ | ⟨productId, rate, rfl⟩
    · exact h.commit hg
    · exact h.setCommissionRate productId rate
  | _ => exact h.onIntents m trivial fun a ha => by cases ha

end writes

section reading
variable {db db' : Database} {companyId : String} {i : Installment}

/-- An installment that was read is still paid and the company's. -/
def StillOwed (db : Database) (companyId : String) (i : Installment) : Prop :=
  ∃ j ∈ db.installments.rows, j.installmentId = i.installmentId ∧ j.amount = i.amount ∧
    j.status = .paid ∧ customerCompany db j = some companyId

theorem stillOwed_of_eligible (h : i ∈ eligibleInstallments companyId db) :
    StillOwed db companyId i := by
  obtain ⟨hi, hunsettled, hcompany⟩ := mem_eligibleInstallments.mp h
  exact ⟨i, hi, rfl, rfl, (of_decide_eq_true hunsettled).1, hcompany⟩

theorem Database.KeepsPaid.stillOwed (h : db.KeepsPaid db') (hi : StillOwed db companyId i) :
    StillOwed db' companyId i := by
  obtain ⟨j, hj, hid, hamount, hstatus, hcompany⟩ := hi
  obtain ⟨k, hk, hid', hcontract, hamount', hpaid⟩ := h.installments j hj
  refine ⟨k, hk, hid'.trans hid, hamount'.trans hamount, hpaid hstatus, ?_⟩
  rw [customerCompany_congr hcontract, h.company, hcompany]

/-- The commissions are read after the payments, and nothing was paid in between. -/
theorem StillOwed.lineOwed (hi : StillOwed db companyId i) (h : db.KeepsPaid db')
    (settlementId : String) :
    LineOwed db' companyId (lineOf settlementId i (commissionsOn db' (latestPayment db i))) := by
  obtain ⟨j, hj, hid, hamount, hstatus, hcompany⟩ := hi
  obtain ⟨k, hk, hid', hcontract, hamount', hpaid⟩ := h.installments j hj
  refine ⟨k, hk, hid'.trans hid, hpaid hstatus, ?_, ?_⟩
  · rw [customerCompany_congr hcontract, h.company, hcompany]
  · have hlatest : latestPayment db' k = latestPayment db i := by
      rw [latestPayment, latestPayment, ← successes, ← successes, hid', ← hid,
        (h.deducted j hj hstatus).1]
    rw [commissionDeducted_eq, hlatest, hamount', hamount]
    rfl

end reading

/-- A program that succeeds with `Q` and sends only grounded writes, while others keep what
paid installments say. -/
def IntentProgram.Founded {α : Type} (references : String → Prop) (Q : Database → α → Prop)
    (p : IntentProgram α) (db : Database) : Prop :=
  Program.Reaches IntentWrite.execute Database.KeepsPaid
    (fun db w => MerchantBooks references db ∧ ∀ w' ∈ w, PaysUnpaid db w')
    (SettlementGrounded references) Q p db

namespace IntentProgram.Founded
variable {α β : Type} {references : String → Prop} {Q : Database → α → Prop}
  {Q' : Database → β → Prop} {db : Database}

theorem bind {p : IntentProgram α} {f : α → IntentProgram β}
    (h : p.Founded references (fun db a => (f a).Founded references Q' db) db) :
    (p >>= f).Founded references Q' db :=
  Program.Reaches.bind h

theorem imp {P : Database → α → Prop} {p : IntentProgram α} (hPQ : ∀ db a, P db a → Q db a)
    (h : p.Founded references P db) : p.Founded references Q db :=
  Program.Reaches.imp hPQ h

theorem pure {a : α} (h : Q db a) : (Pure.pure a : IntentProgram α).Founded references Q db :=
  Program.Reaches.pure h

theorem throw (err : AppError) :
    (MonadExcept.throw err : IntentProgram α).Founded references Q db := by
  intro a ha
  cases ha

theorem select {f : Moment → Database → Except AppError α}
    (h : ∀ m db', db.KeepsPaid db' → MerchantBooks references db' →
      ∀ a, f m db' = .ok a → Q db' a) :
    (IntentProgram.select f).Founded references Q db :=
  fun m db' hkeeps hacc => h m db' hkeeps hacc.1

theorem send {w : IntentWrite} {f : Moment → Database → Except AppError α}
    (h : ∀ db', db.KeepsPaid db' → SettlementGrounded references db' w) :
    (IntentProgram.send w f).Founded references (fun _ _ => True) db :=
  fun _ db' hkeeps _ => ⟨h db' hkeeps, fun _ _ => trivial⟩

theorem discard {p : IntentProgram α} (h : p.Founded references (fun _ _ => True) db) :
    (Functor.discard p).Founded references (fun _ _ => True) db :=
  bind (imp (fun _ _ _ => pure trivial) h)

/-- What a program does that is about intents alone. -/
theorem of_collecting {p : IntentProgram α} (hp : p.Collecting fun _ => False) (db : Database) :
    p.Founded references (fun db' _ => db.KeepsPaid db') db := by
  refine Program.Outline.imp (fun db' _ hkeeps _ _ => hkeeps) (Program.Outline.of_sends
    (fun _ => .rfl) (fun h h' => h.trans h') ?_ ?_ hp db)
  · intro db' w hw
    cases w with
    | collect a => exact hw.elim
    | elsewhere f hf => exact hw.elim
    | _ => trivial
  · intro m db' w hw hacc
    refine (hacc.1.onIntents m (w := w) ?_ ?_).2
    · cases w with
      | collect a => exact hw.elim
      | _ => exact hw
    · intro a ha
      rw [ha] at hw
      exact hw

variable (db)

theorem paymentJob {job : PaymentJobData} (h : references job.reference)
    (paymentId commissionId : String) :
    (IntentProgram.paymentJob job paymentId commissionId).Founded references
      (fun _ _ => True) db := by
  refine bind (select fun _ db₁ _ hacc loaded hloaded => ?_)
  obtain rfl := Except.ok.inj hloaded
  cases hload : PaymentWorker.loadInstallment job.installmentId db₁ with
  | none => exact throw _
  | some i =>
    have hs := hacc.payments.stands hload
    refine bind (select fun _ db₂ hkeeps _ intent _ => ?_)
    have hs := hkeeps.stands hs
    by_cases hpaid : i.installment.status = .paid
    · simp only [hpaid, if_true]
      cases intent with
      | none => exact pure trivial
      | some staleIntent =>
        exact imp (fun _ _ _ => trivial)
          (of_collecting (.ignoringConflict (.transitionStatus _ _)) db₂)
    · simp only [hpaid, if_false]
      cases intent with
      | none => exact throw _
      | some intent =>
        refine bind (select fun _ db₃ hkeeps _ v _ => bind (select fun _ db₄ hkeeps' _ m _ => ?_))
        have hs := hkeeps'.stands (hkeeps.stands hs)
        refine bind (imp (fun db₅ _ hkeeps => ?_) (of_collecting (.statements _ _ _) db₄))
        have hs := hkeeps.stands hs
        refine bind (imp (fun db₆ _ hkeeps => ?_)
          (of_collecting (.ignoringConflict (.transitionStatus _ _)) db₅))
        exact send fun db₇ hkeeps' => ⟨h, hkeeps'.stands (hkeeps.stands hs)⟩

theorem settle {g : Generation} (h : ∀ db', db.KeepsPaid db' → g.Grounded db') :
    (IntentProgram.settle g).Founded references (fun _ _ => True) db := by
  rw [IntentProgram.settle]
  by_cases hnone : g.lines.isEmpty ∨ g.totalAmount ≤ 0
  · simp only [if_pos hnone]
    exact pure trivial
  · simp only [if_neg hnone]
    refine bind (imp (fun _ _ _ => pure trivial) (send fun db' hkeeps => ?_))
    exact .inl ⟨g, rfl, h db' hkeeps⟩

theorem generateForCompany (companyId : String) :
    (IntentProgram.generateForCompany companyId).Founded references (fun _ _ => True) db := by
  refine bind (select fun _ db₁ _ _ eligible heligible => ?_)
  obtain rfl := Except.ok.inj heligible
  refine bind (select fun _ db₂ hread _ paid hpaid => ?_)
  obtain rfl := Except.ok.inj hpaid
  refine bind (select fun _ db₃ hread' _ deducted hdeducted => ?_)
  obtain rfl := Except.ok.inj hdeducted
  refine bind (select fun _ db₄ hread'' _ m hm => ?_)
  refine settle db₄ fun db₅ hkeeps l hl => ?_
  obtain ⟨d, hd, rfl⟩ := List.mem_map.mp hl
  obtain ⟨p, hp, rfl⟩ := List.mem_map.mp hd
  obtain ⟨i, hi, rfl⟩ := List.mem_map.mp hp
  have howed := hread.stillOwed (stillOwed_of_eligible hi)
  exact ⟨rfl, (hread''.trans hkeeps).lineOwed (howed.lineOwed hread' m.uuid)⟩

theorem generateEach (companyIds : List String) :
    (IntentProgram.generateEach companyIds).Founded references (fun _ _ => True) db := by
  induction companyIds generalizing db with
  | nil => exact pure trivial
  | cons companyId companyIds ih =>
    refine bind (imp (fun db₁ _ _ => ?_) (generateForCompany db companyId))
    exact bind (imp (fun _ _ _ => pure trivial) (ih db₁))

theorem generatePendingSettlements :
    IntentProgram.generatePendingSettlements.Founded references (fun _ _ => True) db :=
  bind (select fun _ _ _ _ _ _ => bind (select fun _ db' _ _ _ _ => generateEach db' _))

end IntentProgram.Founded

theorem SettlementFlow.founded {references : String → Prop} (flow : SettlementFlow)
    (h : ∀ data paymentId commissionId, flow = .payment (.job data paymentId commissionId) →
      references data.reference) (db : Database) :
    flow.program.Founded references (fun _ _ => True) db := by
  cases flow with
  | payment flow =>
    by_cases hjob : ∃ data paymentId commissionId, flow = .job data paymentId commissionId
    · obtain ⟨data, paymentId, commissionId, rfl⟩ := hjob
      exact .paymentJob db (h data paymentId commissionId rfl) paymentId commissionId
    · refine .imp (fun _ _ _ => trivial) (.of_collecting (flow.collecting ?_) db)
      intro data paymentId commissionId heq
      exact hjob ⟨data, paymentId, commissionId, heq⟩
  | setCommissionRate productId rate => exact .send fun _ _ => .inr ⟨productId, rate, rfl⟩
  | generateForCompany companyId => exact .discard (.generateForCompany db companyId)
  | generatePendingSettlements => exact .discard (.generatePendingSettlements db)

section runs
variable {ι : Type}

/-- The references of the payment jobs, under which nothing else is posted. -/
def SettlementReferences (flows : ι → SettlementFlow) (reference : String) : Prop :=
  ∃ i data paymentId commissionId, flows i = .payment (.job data paymentId commissionId) ∧
    data.reference = reference

/-- The accounts add up, and every thread writes only what is grounded in them. -/
def AccountedThreads (references : String → Prop) (c : IntentThreads ι) : Prop :=
  MerchantBooks references c.shared ∧ ∀ i, (c.threads i).Outline IntentWrite.execute
    Database.KeepsPaid (fun db w => MerchantBooks references db ∧ ∀ w' ∈ w, PaysUnpaid db w')
    (SettlementGrounded references) (fun _ _ => True) c.shared

theorem accountedThreads_launch {flows : ι → SettlementFlow} {db : Database}
    (h : MerchantBooks (SettlementReferences flows) db) :
    AccountedThreads (SettlementReferences flows) (launch (fun i => (flows i).program) db) := by
  refine ⟨h, fun i => Program.Outline.imp (fun _ _ _ => trivial) ((flows i).founded ?_ db)⟩
  intro data paymentId commissionId hflow
  exact ⟨i, data, paymentId, commissionId, hflow, rfl⟩

variable [DecidableEq ι]

theorem accountedThreads_step {references : String → Prop} {c : IntentThreads ι} {l : ι × Moment}
    (h : AccountedThreads references c)
    (hone : ∀ w ∈ (c.threads l.1).pending, PaysUnpaid c.shared w) :
    AccountedThreads references (performIntent c l) := by
  obtain ⟨hacc, houtline⟩ := h
  have hgrounded := (houtline l.1).pending (fun _ => .rfl) ⟨hacc, hone⟩ l.2
  have hshared : MerchantBooks references (performIntent c l).shared ∧
      c.shared.KeepsPaid (performIntent c l).shared := by
    rw [performIntent, perform_shared, Program.advance_shared]
    cases hw : (c.threads l.1).pending with
    | none => exact ⟨hacc, .rfl⟩
    | some w => exact hacc.execute l.2 (hgrounded w hw) (hone w hw)
  exact ⟨hshared.1, perform_outline (fun _ => .rfl) (fun h h' => h.trans h')
    (fun _ _ _ _ _ _ => trivial) ⟨hacc, hone⟩ hshared.2 houtline⟩

end runs

/-- Before anything is paid, all accounts add up. -/
theorem merchantBooks_of_unpaid {references : String → Prop} {db : Database}
    (hpayments : db.payments.rows = []) (hcommissions : db.commissions.rows = [])
    (hledger : db.ledger.entries = [])
    (hrates : ∀ p ∈ db.products.rows, 0 ≤ p.commissionRate ∧ p.commissionRate ≤ 100)
    (hinstallments : ∀ i ∈ db.installments.rows, 0 ≤ i.amount ∧ i.status ≠ .paid)
    (hrequests : db.merchantSettlementRequests.rows = [])
    (hlines : db.merchantSettlementLines.rows = [])
    (haudits : db.merchantSettlementAuditTrail = []) : MerchantBooks references db := by
  refine ⟨⟨⟨?_, ?_, ?_, ?_, ?_⟩, ?_, ?_, hrates, fun i hi => (hinstallments i hi).1, ?_, ?_⟩,
    ⟨?_, ?_, ?_⟩⟩
  · simp [hpayments]
  · simp [hpayments]
  · simp [accruals, hcommissions]
  · simp [hpayments]
  · simp [Ledger.postings, hledger]
  · simp [Ledger.Referenced, hledger]
  · simp [Ledger.credited, hledger]
  · exact fun i hi hstatus => absurd hstatus (hinstallments i hi).2
  · simp [successes, hpayments]
  · simp [hlines]
  · simp [hrequests]
  · simp [haudits]

/-- Two installments of a phone, both charged. -/
def phoneOnInstallments : Database where
  companies := ⟨[{ companyId := "phones", name := "Phones" }], by decide⟩
  users := ⟨[{ userId := "buyer", companyId := some "phones", referredByMarketerId := some "seller" },
    { userId := "seller", role := .marketer }], by decide⟩
  products := ⟨[{ productId := "handset", commissionRate := 10 }], by decide⟩
  financingContracts := ⟨[{ contractId := "lease", userId := some "buyer", productId := "handset"
                            kycApplicationId := "kyc" }], by decide⟩
  installments := ⟨[{ installmentId := "first", financingContractId := "lease", dueDate := 1
                      amount := 100, sequence := 1 },
    { installmentId := "second", financingContractId := "lease", dueDate := 2
      amount := 50, sequence := 2 }], by decide⟩
  paymentIntents := ⟨[{ intentId := "intent₁", type := .installment, reference := some "ref₁"
                        status := .processing, amount := 100, installmentId := some "first"
                        reservationKey := "INSTALLMENT:first", idempotencyKey := "intent₁"
                        expiresAt := 0 },
    { intentId := "intent₂", type := .installment, reference := some "ref₂"
      status := .processing, amount := 50, installmentId := some "second"
      reservationKey := "INSTALLMENT:second", idempotencyKey := "intent₂", expiresAt := 0 }],
    by decide⟩

def settlingPhone : Fin 6 → SettlementFlow
  | 0 => .payment (.job ⟨"first", "ref₁"⟩ "pay₁" "com₁")
  | 1 => .payment (.job ⟨"second", "ref₂"⟩ "pay₂" "com₂")
  | 2 => .setCommissionRate "handset" ⟨20, by norm_num, by norm_num⟩
  | 3 => .generatePendingSettlements
  | 4 => .generateForCompany "phones"
  | 5 => .generatePendingSettlements

def phoneMoment (i : Fin 6) : Moment where
  now := 3
  uuid := s!"settlement-{i}"
  verifyTransaction := fun _ => .ok { status := "success" }

/-- The rate rises while the second job runs, and two generations read the same. -/
def settledTogether : List (Fin 6 × Moment) :=
  [(0, 13), (1, 1), (2, 1), (1, 12), (3, 5), (4, 5), (3, 2), (5, 2)].flatMap fun b =>
    List.replicate b.2 (b.1, phoneMoment b.1)

end InstalFlow
