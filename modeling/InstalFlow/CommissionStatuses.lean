import InstalFlow.Reservations

/-!
# The two derivations of a commission's status

`derivePostPaymentStatus` knows what has been paid of a commission,
`deriveReservationStatus` does not. Where nothing is left beyond what is
reserved and paid the two part, and the stored status is then the one of the
operation that came last.
-/

namespace InstalFlow
open Relational Accounting CommissionService Transition

def StatusesAgree (amount reserved paid : ℚ) : Prop :=
  paid < amount ∧ (reserved = 0 ∨ reserved < amount - paid ∨ amount ≤ reserved)

theorem deriveReservationStatus_eq_iff (amount reserved : ℚ) {paid : ℚ} (hpaid : 0 ≤ paid) :
    deriveReservationStatus reserved amount = derivePostPaymentStatus amount reserved paid ↔
      StatusesAgree amount reserved paid := by
  rw [deriveReservationStatus, derivePostPaymentStatus, StatusesAgree]
  by_cases hfull : amount ≤ paid
  · rw [if_pos hfull]
    refine iff_of_false ?_ fun h => absurd h.1 (not_lt.mpr hfull)
    split_ifs <;> decide
  · rw [if_neg hfull]
    have hlt := not_le.mp hfull
    by_cases hzero : reserved = 0
    · simp [hzero, hlt]
    · simp only [hzero, false_or, hlt, true_and]
      by_cases hpart : reserved < amount - paid
      · have hamount : reserved < amount := by linarith
        simp [hpart, hamount]
      · by_cases hamount : reserved < amount
        · simp [hpart, hamount]
        · simp [hpart, not_lt.mp hamount]

theorem le_of_derivePostPaymentStatus_eq_reserved {amount reserved paid : ℚ}
    (h : derivePostPaymentStatus amount reserved paid = .reserved) : amount ≤ reserved + paid := by
  rw [derivePostPaymentStatus] at h
  split_ifs at h with hfull hzero hpart
  linarith [not_lt.mp hpart]

/-- The stored status is the one that knows what has been paid, and RESERVED
means that nothing is left to allocate. -/
def StatusDerived (c : Commission) (f : Fund ℚ) : Prop :=
  c.status = derivePostPaymentStatus c.amount c.reservedAmount f.paid ∧
    (c.status = .reserved → c.amount ≤ c.reservedAmount + f.paid)

theorem statusDerived_iff {c : Commission} {f : Fund ℚ} : StatusDerived c f ↔
    c.status = derivePostPaymentStatus c.amount c.reservedAmount f.paid :=
  ⟨fun h => h.1, fun h => ⟨h, fun hr => le_of_derivePostPaymentStatus_eq_reserved (h ▸ hr)⟩⟩

instance (c : Commission) (f : Fund ℚ) : Decidable (StatusDerived c f) :=
  inferInstanceAs (Decidable (_ ∧ _))

def AgreesAfter (c : Commission) (f : Fund ℚ) : Move ℚ → Prop
  | .stay => StatusDerived c f
  | .settle _ => True
  | .reserve x => StatusesAgree c.amount (c.reservedAmount + x) f.paid
  | .release x => StatusesAgree c.amount (c.reservedAmount - x) f.paid
  | .reverse x => StatusesAgree c.amount (c.reservedAmount + x) (f.paid - x)

theorem statusDerived_afterMove_iff {c : Commission} {f : Fund ℚ} {m : Move ℚ}
    (hpaid : 0 ≤ (f.apply m).paid) :
    StatusDerived (c.afterMove m (f.apply m).paid) (f.apply m) ↔ AgreesAfter c f m := by
  have hagree := deriveReservationStatus_eq_iff c.amount (c.reservedAmount + m.reservedChange) hpaid
  cases m with
  | stay => rw [Fund.apply_stay, Commission.afterMove_stay, AgreesAfter]
  | settle x => exact iff_of_true (statusDerived_iff.mpr rfl) trivial
  | reserve x =>
    rw [statusDerived_iff]
    simpa [Commission.afterMove, statusAfter, AgreesAfter, Move.reservedChange,
      Move.paidChange] using hagree
  | release x =>
    rw [statusDerived_iff]
    simpa [Commission.afterMove, statusAfter, AgreesAfter, Move.reservedChange,
      Move.paidChange, ← sub_eq_add_neg] using hagree
  | reverse x =>
    rw [statusDerived_iff]
    simpa [Commission.afterMove, statusAfter, AgreesAfter, Move.reservedChange,
      Move.paidChange, ← sub_eq_add_neg] using hagree

namespace Operation

/-- The commissions that the step writes without the paid total come to reserved
and paid amounts on which the two derivations agree. -/
def WritesAgreedStatus (db : Database) : Operation → Prop
  | requestPayout userId amount payoutId _ => Accepts userId amount payoutId db →
      ∀ c rest, Draws amount (lockCommissions userId db) c rest →
        StatusesAgree c.amount (min (c.reservedAmount + rest) c.amount)
          (db.fund c.commissionId).paid
  | initiateTransfer payoutId companyUserId _ => ∀ payout bank,
      transferTarget payoutId companyUserId db = .ok (payout, bank) →
      payout.status = .transferFailed →
      ∀ a ∈ db.commissionAllocations.rows, a.payoutId = payoutId → a.status = .released →
        ∀ c, db.commissions.find? a.commissionId = some c →
          StatusesAgree c.amount (c.reservedAmount + a.allocatedAmount)
            (db.fund c.commissionId).paid
  | webhook .failed payload _ => (TransferEvent.failed.target? payload db).isSome →
      ∀ a ∈ db.commissionAllocations.rows, a.payoutId = payload.reference → a.status = .reserved →
        ∀ c, db.commissions.find? a.commissionId = some c →
          StatusesAgree c.amount (c.reservedAmount - a.allocatedAmount)
            (db.fund c.commissionId).paid
  | webhook .reversed payload _ => (TransferEvent.reversed.target? payload db).isSome →
      ∀ a ∈ db.commissionAllocations.rows, a.payoutId = payload.reference → a.status = .paid →
        ∀ c, db.commissions.find? a.commissionId = some c →
          StatusesAgree c.amount (c.reservedAmount + a.allocatedAmount)
            ((db.fund c.commissionId).paid - a.allocatedAmount)
  | _ => True

theorem paid_apply_nonneg {db : Database} (h : Sound db) {op : Operation} {p : String × Move ℚ}
    (hp : p ∈ op.moves db) : 0 ≤ ((db.fund p.1).apply p.2).paid := by
  rw [← fund_apply_of_mem_moves hp]
  exact sumAllocated_nonneg (sound_apply h op) p.1 .paid

theorem each_statusDerived_apply_iff {db : Database} (hs : Sound db)
    (hp : ∀ i ∈ db.installments.rows, 0 < i.amount) (h : db.Each StatusDerived) (op : Operation) :
    (op.apply db).Each StatusDerived ↔ ∀ p ∈ op.moves db, ∀ c,
      db.commissions.find? p.1 = some c → AgreesAfter c (db.fund p.1) p.2 := by
  have hnew : ∀ c : Commission, c.status = .active → c.reservedAmount = 0 →
      (∃ i ∈ db.installments.rows, ∃ rate, 0 < rate ∧ c.amount = i.amount * rate) →
        StatusDerived c ⟨0, 0⟩ := by
    intro c hactive hzero hprice
    obtain ⟨i, hi, rate, hrate, hamount⟩ := hprice
    have hpos : 0 < c.amount := hamount ▸ mul_pos (hp i hi) hrate
    simp [statusDerived_iff, derivePostPaymentStatus, hactive, hzero, not_le.mpr hpos]
  rw [each_apply_iff_moves hs op (moves_nodup db op) h hnew]
  exact forall₂_congr fun p hmem => forall₂_congr fun c _ =>
    statusDerived_afterMove_iff (paid_apply_nonneg hs hmem)

theorem statusDerived_apply_iff {db : Database} (hs : Sound db)
    (hp : ∀ i ∈ db.installments.rows, 0 < i.amount) (h : db.Each StatusDerived) (op : Operation) :
    (op.apply db).Each StatusDerived ↔ WritesAgreedStatus db op := by
  rw [each_statusDerived_apply_iff hs hp h op]
  let R : String → Move ℚ → Prop := fun id m =>
    ∀ c, db.commissions.find? id = some c → AgreesAfter c (db.fund id) m
  have hrow : ∀ a : CommissionAllocation, ∀ m, R a.commissionId m ↔
      ∀ c, db.commissions.find? a.commissionId = some c →
        AgreesAfter c (db.fund c.commissionId) m := by
    intro a m
    refine forall₂_congr fun c hc => ?_
    rw [Table.find?_key hc]
  cases op with
  | requestPayout userId amount payoutId now =>
    rw [forall_moves_requestPayout hs (R := R)]
    refine imp_congr_right fun _ => forall₂_congr fun c rest => imp_congr_right fun hdraw => ?_
    have hmin : c.reservedAmount + min rest (available c) =
        min (c.reservedAmount + rest) c.amount := by
      rw [← min_add_add_left, available, add_sub_cancel]
    simp only [R, find?_of_mem_lockCommissions hdraw.mem, Option.some.injEq, forall_eq',
      AgreesAfter, hmin]
  | initiateTransfer payoutId companyUserId now =>
    rw [forall_moves_allocations (fun _ => mem_moves_initiateTransfer hs) (R := R)]
    simp only [hrow, AgreesAfter, WritesAgreedStatus, exists_imp, and_imp]
  | webhook event payload now =>
    rw [forall_moves_allocations (fun _ => mem_moves_webhook hs) (R := R)]
    simp only [hrow]
    cases event with
    | success => exact iff_of_true (fun _ _ _ _ _ _ _ => trivial) trivial
    | failed => exact Iff.rfl
    | reversed => exact Iff.rfl
  | processPayment | adminApprovePayout | companyApprovePayout | transferJob | transferJobFailed =>
    exact iff_of_true (fun p hp' => by cases hp') trivial

theorem installments_positive_apply {db : Database} (h : ∀ i ∈ db.installments.rows, 0 < i.amount)
    (op : Operation) : ∀ i ∈ (op.apply db).installments.rows, 0 < i.amount := by
  intro i' hi'
  obtain ⟨i, hi, hamount⟩ := (apply_cases db op).1.installment i' hi'
  rw [hamount]
  exact h i hi

end Operation

/-- The statuses stay the ones the paid totals give along exactly the runs whose
steps all write agreed statuses. -/
theorem statusDerived_throughout_iff {db : Database} (hs : Sound db)
    (hp : ∀ i ∈ db.installments.rows, 0 < i.amount) (h : db.Each StatusDerived)
    (ops : List Operation) : Throughout Operation.apply (Database.Each StatusDerived) db ops ↔
      Along Operation.apply Operation.WritesAgreedStatus db ops :=
  throughout_iff_along
    (I := fun db => Sound db ∧ ∀ i ∈ db.installments.rows, 0 < i.amount)
    (fun _ op hi h => Operation.statusDerived_apply_iff hi.1 hi.2 h op)
    (fun _ op hi _ => ⟨Operation.sound_apply hi.1 op,
      Operation.installments_positive_apply hi.2 op⟩) ⟨hs, hp⟩ h

theorem writesAgreedStatus_soleCommission : Along Operation.apply Operation.WritesAgreedStatus
    soleCommission (transferOut "p" 60 ++ [webhookFor .failed "p"]) :=
  (statusDerived_throughout_iff (Sound.of_no_allocations rfl) (by simp [soleCommission])
    (by decide +kernel) _).mp (by decide +kernel)

/-- After 60 of 100 are paid, a request for the other 40 leaves PARTIALLY_RESERVED
where nothing is left to allocate. -/
theorem status_not_derived_after_paid : soleCommission.Each StatusDerived ∧
    ¬ (run Operation.apply soleCommission (transferOut "p" 60 ++
      [webhookFor .success "p", .requestPayout "marketer" 40 "q" 1])).Each StatusDerived := by
  decide +kernel

end InstalFlow
