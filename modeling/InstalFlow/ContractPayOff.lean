import InstalFlow.PaymentRounds

/-!
# Contracts that can be paid off

The customer pays what is outstanding of a contract one installment after another. That leads
to the completed contract as long as the contract takes payments, no VOIDED installment is in
front of an outstanding one, and another one is PENDING behind each that is paid but the last.
-/

namespace InstalFlow
open Relational Transition

/-- As time passes, the lowest outstanding installment can be paid, then the next one, until the
contract is COMPLETED with nothing outstanding. -/
inductive PaysOff (contractId customerId : String) : Database → Prop
  | completed {db : Database} {c : FinancingContract}
      (hc : db.financingContracts.find? contractId = some c) (hcompleted : c.status = .completed)
      (hnone : outstandingOf contractId db = []) : PaysOff contractId customerId db
  | pays {db : Database} {i : Installment} (t : DateTime) (after : PaymentRound → Database)
      (hlowest : earliestBy Installment.sequence (outstandingOf contractId db) = some i)
      (hpay : ∀ e : PaymentRound, t ≤ e.opening.now → e.Undisturbed i.installmentId db →
        e.pay i.installmentId customerId db = .ok (after e))
      (hafter : ∀ e : PaymentRound, t ≤ e.opening.now → e.Undisturbed i.installmentId db →
        PaysOff contractId customerId (after e)) : PaysOff contractId customerId db

/-- Behind each of the installments but the last, there is one with the property. -/
def SomeBehind (rows : List Installment) (P : Installment → Prop) : Prop :=
  ∀ i ∈ rows, ∀ j ∈ rows, i.sequence < j.sequence → ∃ k ∈ rows, i.sequence < k.sequence ∧ P k

/-- The payments of the contract are accepted in the order of its installments, and the last of
them is the one that completes it. -/
structure CollectsInOrder (contractId : String) (c : FinancingContract) (db : Database) : Prop where
  status : c.status.takesPayments = true
  unblocked : ∀ v ∈ InstallmentService.unpaidOf contractId db, v.status = .voided →
    ∀ i ∈ outstandingOf contractId db, i.sequence < v.sequence
  pending : SomeBehind (outstandingOf contractId db) fun k => k.status = .pending

/-- No intent is open for an outstanding installment of the contract. -/
def NothingOpened (contractId : String) (db : Database) : Prop :=
  ∀ i ∈ outstandingOf contractId db,
    IntentProgram.NoOpenIntent (IntentProgram.installmentKey i.installmentId) db

section state
variable {contractId : String} {c : FinancingContract} {customer : User} {i : Installment}
  {db db' : Database}

theorem diffInCalendarDays_le_of_le {dueDate now : DateTime} (h : dueDate ≤ now) :
    diffInCalendarDays dueDate now ≤ paymentWindowDays := by
  have hmono : ∀ a b : ℤ, a ≤ b → a - a % msPerDay ≤ b - b % msPerDay := by
    intro a b hab
    rw [msPerDay]
    omega
  have hday : dueDate.startOfDay ≤ now.startOfDay := hmono dueDate now h
  have hdiff : dueDate.startOfDay - now.startOfDay ≤ 0 := sub_nonpos_of_le hday
  have hquotient : (dueDate.startOfDay - now.startOfDay) / msPerDay ≤ 0 :=
    Int.ediv_nonpos_of_nonpos_of_neg hdiff (by decide)
  exact hquotient.trans (by decide)

theorem distinct_outstandingOf (h : DistinctSequences db) (contractId : String) :
    Distinct Installment.sequence (outstandingOf contractId db) := by
  intro i hi j hj
  exact InstallmentService.distinct_unpaidOf h contractId i (mem_outstandingOf.mp hi).1 j
    (mem_outstandingOf.mp hj).1

/-- The installment that is next is the lowest one outstanding. -/
theorem earliest_unpaid_iff (hdistinct : DistinctSequences db)
    (hlowest : earliestBy Installment.sequence (outstandingOf contractId db) = some i) :
    earliestBy Installment.sequence (InstallmentService.unpaidOf contractId db) = some i ↔
      ∀ v ∈ InstallmentService.unpaidOf contractId db, v.status = .voided →
        i.sequence < v.sequence := by
  have hi := mem_outstandingOf.mp (mem_of_earliestBy hlowest)
  rw [earliestBy_eq_some_iff (InstallmentService.distinct_unpaidOf hdistinct contractId)]
  constructor
  · rintro ⟨-, hle⟩ v hv hvoided
    refine lt_of_le_of_ne (hle v hv) fun hsame => hi.2 ?_
    rw [InstallmentService.distinct_unpaidOf hdistinct contractId i hi.1 v hv hsame, hvoided]
  · intro hvoided
    refine ⟨hi.1, fun j hj => ?_⟩
    by_cases hj' : j.status = .voided
    · exact (hvoided j hj hj').le
    · exact earliestBy_le hlowest (mem_outstandingOf.mpr ⟨hj, hj'⟩)

theorem NothingOpened.pays (h : NothingOpened contractId db) {now : DateTime}
    (hpays : Pays contractId i now db db') (hopens : OpensOnly i.installmentId db db') :
    NothingOpened contractId db' := by
  intro j hj
  obtain ⟨hj, hne⟩ := (hpays.mem_outstandingOf contractId).mp hj
  exact hopens.noOpenIntent hne (h j hj)

theorem Pays.mem_outstandingOf_iff_ne {now : DateTime} {j : Installment}
    (h : Pays contractId i now db db') (hi : i ∈ outstandingOf contractId db) :
    j ∈ outstandingOf contractId db' ↔ j ∈ outstandingOf contractId db ∧ j ≠ i := by
  rw [h.mem_outstandingOf]
  refine and_congr_right fun hj => not_congr ⟨fun hid => ?_, fun hsame => by rw [hsame]⟩
  exact db.installments.key_injective (List.mem_of_mem_filter hj) (List.mem_of_mem_filter hi) hid

theorem Pays.length_lt {now : DateTime} (h : Pays contractId i now db db')
    (hi : i ∈ outstandingOf contractId db) :
    (outstandingOf contractId db').length < (outstandingOf contractId db).length := by
  have hnodup : (outstandingOf contractId db').Nodup :=
    (List.Nodup.of_map _ db'.installments.unique).filter _
  have hsubset : outstandingOf contractId db' ⊆ (outstandingOf contractId db).erase i := by
    intro j hj
    obtain ⟨hj, hne⟩ := (h.mem_outstandingOf_iff_ne hi).mp hj
    exact (List.mem_erase_of_ne hne).mpr hj
  have hle := (List.subperm_of_subset hnodup hsubset).length_le
  have hpos := List.length_pos_of_mem hi
  rw [List.length_erase_of_mem hi] at hle
  omega

/-- What is outstanding behind the lowest installment -/
theorem lt_of_mem_outstandingOf_ne (hdistinct : DistinctSequences db)
    (hlowest : earliestBy Installment.sequence (outstandingOf contractId db) = some i)
    {j : Installment} (hj : j ∈ outstandingOf contractId db) (hne : j ≠ i) :
    i.sequence < j.sequence := by
  refine lt_of_le_of_ne (earliestBy_le hlowest hj) fun hsame => hne ?_
  exact (distinct_outstandingOf hdistinct contractId i (mem_of_earliestBy hlowest) j hj hsame).symm

/-- After a payment the remaining installments are collected in order as before. -/
theorem CollectsInOrder.pays (h : CollectsInOrder contractId c db)
    (hlowest : earliestBy Installment.sequence (outstandingOf contractId db) = some i)
    {now : DateTime} (hpays : Pays contractId i now db db') {c' : FinancingContract}
    (hstatus : c'.status = c.status) : CollectsInOrder contractId c' db' where
  status := by rw [hstatus, h.status]
  unblocked v hv hvoided j hj :=
    h.unblocked v ((hpays.mem_unpaidOf contractId).mp hv).1 hvoided j
      ((hpays.mem_outstandingOf contractId).mp hj).1
  pending j hj k hk hlt := by
    have hi := mem_of_earliestBy hlowest
    obtain ⟨hj, -⟩ := (hpays.mem_outstandingOf_iff_ne hi).mp hj
    obtain ⟨hk, -⟩ := (hpays.mem_outstandingOf_iff_ne hi).mp hk
    obtain ⟨l, hl, hbehind, hpending⟩ := h.pending j hj k hk hlt
    have hle := earliestBy_le hlowest hj
    refine ⟨l, (hpays.mem_outstandingOf_iff_ne hi).mpr ⟨hl, fun hsame => ?_⟩, hbehind, hpending⟩
    rw [hsame] at hbehind
    omega

theorem CollectsInOrder.paysOff (h : CollectsInOrder contractId c db)
    (hne : outstandingOf contractId db ≠ [])
    (hc : db.financingContracts.find? contractId = some c) (hpayer : PayableBy c customer db)
    (hdistinct : DistinctSequences db) : PaysOff contractId customer.userId db := by
  induction hlength : (outstandingOf contractId db).length using Nat.strong_induction_on
    generalizing db c with
  | _ n ih =>
    obtain ⟨i, hlowest⟩ : ∃ i,
        earliestBy Installment.sequence (outstandingOf contractId db) = some i :=
      Option.ne_none_iff_exists'.mp fun hnone => hne (earliestBy_eq_none.mp hnone)
    have hi := mem_of_earliestBy hlowest
    have hunpaid := (mem_outstandingOf.mp hi).1
    have hfirst := (earliest_unpaid_iff hdistinct hlowest).mpr fun v hv hvoided =>
      h.unblocked v hv hvoided i hi
    have hpays (e : PaymentRound) (hwindow : i.dueDate ≤ e.opening.now)
        (he : e.Undisturbed i.installmentId db) : ∃ db',
        e.pay i.installmentId customer.userId db = .ok db' ∧ Pays contractId i e.now db db' := by
      obtain ⟨hmem, hcontract, -⟩ := InstallmentService.mem_unpaidOf.mp hunpaid
      have hcanPay : (InstallmentService.eligibility i e.opening.now db).canPay = true :=
        (canPay_iff_earliest (mem_contractInstallments.mpr ⟨hmem, hcontract⟩)).mpr
          ⟨hfirst, diffInCalendarDays_le_of_le hwindow⟩
      obtain ⟨db', hpay, hpaid, -⟩ := he.pays hc hpayer hunpaid h.status hcanPay
      exact ⟨db', hpay, hpaid⟩
    refine .pays i.dueDate (fun e => (e.pay i.installmentId customer.userId db).toOption.getD db)
      hlowest (fun e hwindow he => ?_) fun e hwindow he => ?_
    · obtain ⟨db', hpay, -⟩ := hpays e hwindow he
      rw [hpay]
      rfl
    · obtain ⟨db', hpay, hpaid⟩ := hpays e hwindow he
      rw [hpay]
      change PaysOff contractId customer.userId db'
      obtain ⟨c', hc', hpayer', hcompleted, hkept⟩ := hpaid.contract hc hpayer
      by_cases hrest : outstandingOf contractId db' = []
      · refine .completed hc' (hcompleted fun j hj hpending => ?_) hrest
        have hmem := mem_outstandingOf.mpr ⟨hj, by rw [hpending]; exact InstallmentStatus.noConfusion⟩
        rw [hrest] at hmem
        exact absurd hmem List.not_mem_nil
      · -- another one is PENDING, so the contract goes on
        obtain ⟨j, hj⟩ := List.exists_mem_of_ne_nil _ hrest
        obtain ⟨hj, hji⟩ := (hpaid.mem_outstandingOf_iff_ne hi).mp hj
        have hlt := lt_of_mem_outstandingOf_ne hdistinct hlowest hj hji
        obtain ⟨k, hk, hbehind, hpending⟩ := h.pending i hi j hj hlt
        have hki : k ≠ i := fun hsame => by
          rw [hsame] at hbehind
          omega
        have hk' := (hpaid.mem_outstandingOf_iff_ne hi).mpr ⟨hk, hki⟩
        have hstatus := hkept ⟨k, (mem_outstandingOf.mp hk').1, hpending⟩
        exact ih _ (hlength ▸ hpaid.length_lt hi) (h.pays hlowest hpaid hstatus) hrest hc' hpayer'
          (hpaid.distinctSequences hdistinct) rfl

theorem PaysOff.collectsInOrder (h : PaysOff contractId customer.userId db)
    (hne : outstandingOf contractId db ≠ []) (hopen : NothingOpened contractId db)
    (hc : db.financingContracts.find? contractId = some c) (hpayer : PayableBy c customer db)
    (hdistinct : DistinctSequences db) : CollectsInOrder contractId c db := by
  induction h generalizing c with
  | completed _ _ hnone => exact absurd hnone hne
  | @pays db i t after hlowest hpay hafter ih =>
    have hi := mem_of_earliestBy hlowest
    have hunpaid := (mem_outstandingOf.mp hi).1
    obtain ⟨hmem, hcontract, -⟩ := InstallmentService.mem_unpaidOf.mp hunpaid
    obtain ⟨e, rfl, he⟩ := PaymentRound.exists_undisturbed t (hopen i hi)
    have hpaid := hpay e le_rfl he
    obtain ⟨hstatus, hcanPay⟩ := PaymentRound.accepted_of_pay hc hpayer hunpaid hpaid
    obtain ⟨db', hpaid', hpays, hopens⟩ := he.pays hc hpayer hunpaid hstatus hcanPay
    obtain rfl : after e = db' := Except.ok.inj (hpaid.symm.trans hpaid')
    have hfirst := (earliest_unpaid_iff hdistinct hlowest).mp
      ((canPay_iff_earliest (mem_contractInstallments.mpr ⟨hmem, hcontract⟩)).mp hcanPay).1
    obtain ⟨c', hc', hpayer', hcompleted, -⟩ := hpays.contract hc hpayer
    have hbehind {j : Installment} (hj : j ∈ outstandingOf contractId db) (hji : j ≠ i) :
        j ∈ outstandingOf contractId (after e) := (hpays.mem_outstandingOf_iff_ne hi).mpr ⟨hj, hji⟩
    have hrest (hsome : outstandingOf contractId (after e) ≠ []) :
        CollectsInOrder contractId c' (after e) :=
      ih e le_rfl he hsome (hopen.pays hpays hopens) hc' hpayer' (hpays.distinctSequences hdistinct)
    refine ⟨hstatus, fun v hv hvoided j hj => ?_, fun j hj k hk hlt => ?_⟩
    · by_cases hji : j = i
      · rw [hji]
        exact hfirst v hv hvoided
      · have hj' := hbehind hj hji
        refine (hrest (List.ne_nil_of_mem hj')).unblocked v ?_ hvoided j hj'
        refine (hpays.mem_unpaidOf contractId).mpr ⟨hv, fun hid => (mem_outstandingOf.mp hi).2 ?_⟩
        obtain ⟨hv, -⟩ := InstallmentService.mem_unpaidOf.mp hv
        rw [← hvoided, db.installments.key_injective hv hmem hid]
    · have hle := earliestBy_le hlowest hj
      have hki : k ≠ i := fun hsame => by
        rw [hsame] at hlt
        omega
      have horder := hrest (List.ne_nil_of_mem (hbehind hk hki))
      by_cases hji : j = i
      · -- had none been PENDING, the payment would have completed the contract
        have hopenStatus : c'.status ≠ .completed := fun hdone => by
          have htakes := horder.status
          rw [hdone] at htakes
          cases htakes
        obtain ⟨l, hl, hpending⟩ : ∃ l ∈ InstallmentService.unpaidOf contractId (after e),
            l.status = .pending := by
          by_contra hnone
          exact hopenStatus (hcompleted fun l hl hpending => hnone ⟨l, hl, hpending⟩)
        have hl := mem_outstandingOf.mpr ⟨hl, by rw [hpending]; exact InstallmentStatus.noConfusion⟩
        obtain ⟨hl, hli⟩ := (hpays.mem_outstandingOf_iff_ne hi).mp hl
        rw [hji]
        exact ⟨l, hl, lt_of_mem_outstandingOf_ne hdistinct hlowest hl hli, hpending⟩
      · obtain ⟨l, hl, hlt, hpending⟩ := horder.pending j (hbehind hj hji) k (hbehind hk hki) hlt
        exact ⟨l, ((hpays.mem_outstandingOf_iff_ne hi).mp hl).1, hlt, hpending⟩

end state
end InstalFlow
