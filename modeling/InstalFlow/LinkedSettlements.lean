import InstalFlow.SettlementOperations
import InstalFlow.Transition.Run

/-!
# The account of a settlement in transfer

A settlement is queued for the accounts of its company, but its job pays to the account
that the settlement itself is linked to. No operation sets this link, so it has to be
there already when a settlement is put into transfer.
-/

namespace InstalFlow
open Relational Transition MerchantSettlementService MerchantSettlementTransferWorker
  CompanyBankAccountService

/-- The settlement is linked to a verified account of its own company. -/
def MerchantSettlementRequest.Linked (db : Database) (s : MerchantSettlementRequest) : Prop :=
  (s.companyBankAccountId.bind db.companyBankAccounts.find?).any
    (fun b => b.isVerified ∧ b.companyId = s.companyId) = true

instance (db : Database) (s : MerchantSettlementRequest) : Decidable (s.Linked db) :=
  inferInstanceAs (Decidable (_ = true))

def TransfersLinked (db : Database) : Prop :=
  ∀ s ∈ db.merchantSettlementRequests.rows, s.status = .transferInitiated → s.Linked db

instance (db : Database) : Decidable (TransfersLinked db) :=
  inferInstanceAs (Decidable (∀ s ∈ _, _ → _))

/-- The branch of the worker in which a settlement in transfer has no account. -/
def AccountMissing (db : Database) (settlementId : String) : Prop :=
  (db.merchantSettlementRequests.find? settlementId).any (fun s =>
    s.status = .transferInitiated ∧
      s.companyBankAccountId.bind db.companyBankAccounts.find? = none) = true

instance (db : Database) (settlementId : String) : Decidable (AccountMissing db settlementId) :=
  inferInstanceAs (Decidable (_ = true))

theorem process_of_accountMissing {db : Database} {settlementId : String} (paystack : Paystack)
    (now : DateTime) (h : AccountMissing db settlementId) :
    process paystack settlementId now db = (db, .error (.error
      s!"[settlement-transfer-worker] No bank account linked to settlement {settlementId}")) := by
  obtain ⟨s, hs, hmissing⟩ := (Option.any_eq_true _ _).mp h
  obtain ⟨hstatus, hbank⟩ := of_decide_eq_true hmissing
  simp [process, hs, hstatus, hbank]

theorem not_accountMissing {db : Database} (h : TransfersLinked db) (settlementId : String) :
    ¬ AccountMissing db settlementId := by
  intro hmissing
  obtain ⟨s, hs, hbank⟩ := (Option.any_eq_true _ _).mp hmissing
  obtain ⟨hstatus, hbank⟩ := of_decide_eq_true hbank
  have hlinked := h s (Table.mem_of_find? hs) hstatus
  rw [MerchantSettlementRequest.Linked, hbank] at hlinked
  cases hlinked

namespace SettlementOp

/-- The settlements that the step puts into transfer are linked beforehand. -/
def LinkedFirst (db : Database) (op : SettlementOp) : Prop :=
  ∀ s ∈ db.merchantSettlementRequests.rows, op.starts db s.settlementId = true → s.Linked db

instance (db : Database) (op : SettlementOp) : Decidable (op.LinkedFirst db) :=
  inferInstanceAs (Decidable (∀ s ∈ _, _ → _))

/-- The job of the step, if it is one, finds the account of its settlement. -/
def FindsAccount (db : Database) : SettlementOp → Prop
  | transferJob _ settlementId _ => ¬ AccountMissing db settlementId
  | _ => True

instance (db : Database) : ∀ op : SettlementOp, Decidable (op.FindsAccount db)
  | transferJob _ settlementId _ => inferInstanceAs (Decidable (¬ AccountMissing db settlementId))
  | addBankAccount _ _ _ _ | switchPrimaryBankAccount _ _ | removeBankAccount _ _
  | generateForCompany _ _ _ | queueEligibleTransfers _ | retryTransfer _ _ _ | jobFailed _ _ _
  | webhook _ _ _ _ => inferInstanceAs (Decidable True)

end SettlementOp

/-- The link of a settlement seen from its standing. -/
def SettlementStanding.LinkedIn (db : Database) (x : SettlementStanding) : Prop :=
  x.accountId.bind (verifiedFor db) = some x.companyId

section links
variable {db db' : Database} {k : String}

theorem linked_iff {s : MerchantSettlementRequest} :
    s.Linked db ↔ s.standing.LinkedIn db := by
  rw [MerchantSettlementRequest.Linked, SettlementStanding.LinkedIn, Option.any_eq_true,
    MerchantSettlementRequest.standing]
  constructor
  · intro h
    obtain ⟨b, hb, hverified⟩ := h
    obtain ⟨a, ha, hb⟩ := Option.bind_eq_some_iff.mp hb
    refine Option.bind_eq_some_iff.mpr ⟨a, ha, verifiedFor_eq_some.mpr ⟨b, hb, ?_⟩⟩
    exact of_decide_eq_true hverified
  · intro h
    obtain ⟨a, ha, howner⟩ := Option.bind_eq_some_iff.mp h
    obtain ⟨b, hb, hverified, hcompany⟩ := verifiedFor_eq_some.mp howner
    exact ⟨b, Option.bind_eq_some_iff.mpr ⟨a, ha, hb⟩, decide_eq_true ⟨hverified, hcompany⟩⟩

theorem transfersLinked_iff : TransfersLinked db ↔
    ∀ k x, db.settlementStanding k = some x → x.status = .transferInitiated → x.LinkedIn db := by
  constructor
  · intro h k x hx hstatus
    obtain ⟨s, hs, rfl⟩ := Option.map_eq_some_iff.mp hx
    exact linked_iff.mp (h s (Table.mem_of_find? hs) hstatus)
  · intro h s hs hstatus
    have hx : db.settlementStanding s.settlementId = some s.standing := by
      rw [Database.settlementStanding, Table.find?_of_mem hs, Option.map_some]
    exact linked_iff.mpr (h s.settlementId s.standing hx hstatus)

theorem verifiedFor_resolveRecipient {paystack : Paystack} {bank : CompanyBankAccount}
    {code : Option String} (h : resolveRecipient paystack bank db = .ok (code, db')) :
    verifiedFor db' k = verifiedFor db k := by
  rw [resolveRecipient] at h
  split at h
  · cases h
    rfl
  · split at h
    · cases h
    · rename_i recipientCode hcreated
      obtain ⟨rfl, rfl⟩ := Prod.mk.inj (Except.ok.inj h)
      rw [verifiedFor, Table.find?_update, verifiedFor]
      split
      · cases db.companyBankAccounts.find? k with
        | none => rfl
        | some b => simp [Option.filter]
      · rfl

theorem verifiedFor_process (paystack : Paystack) (settlementId : String) (now : DateTime) :
    verifiedFor (process paystack settlementId now db).1 k = verifiedFor db k := by
  rw [process]
  split
  · rfl
  · split
    · rfl
    · split
      · rfl
      · split
        · rfl
        · rename_i hrecipient
          have hkept := verifiedFor_resolveRecipient (k := k) hrecipient
          split
          · exact hkept
          · split
            · exact hkept
            · split
              · exact hkept
              · rename_i hinit
                obtain ⟨ledger, -, rfl⟩ := post_eq_ok hinit
                exact hkept

theorem companyBankAccounts_queueTransfers (now : DateTime) (ss : List MerchantSettlementRequest)
    (db : Database) :
    (ss.foldl (queueTransfer now) db).companyBankAccounts = db.companyBankAccounts := by
  induction ss generalizing db with
  | nil => rfl
  | cons s ss ih =>
    rw [List.foldl_cons, ih]
    rfl

end links

namespace SettlementOp
variable {db : Database} {k a owner : String} {op : SettlementOp} {x : SettlementStanding}

/-- Verified accounts stay verified, except the one that a step deletes. -/
theorem verifiedFor_apply (howner : verifiedFor db a = some owner) (ha : op.removes? db ≠ some a) :
    verifiedFor (op.apply db) a = some owner := by
  cases op with
  | addBankAccount resolveAccount companyId accountId data =>
    refine committed_rule (P := fun db' => verifiedFor db' a = some owner) howner
      fun added hadd => ?_
    exact (addBankAccount_eq_ok hadd).2 a owner howner
  | switchPrimaryBankAccount companyId accountId =>
    refine committed_rule (P := fun db' => verifiedFor db' a = some owner) howner
      fun db' hswitch => ?_
    exact ((switchPrimaryBankAccount_eq_ok hswitch).2 a).trans howner
  | removeBankAccount companyId accountId =>
    refine committed_rule (P := fun db' => verifiedFor db' a = some owner) howner
      fun db' hremove => ?_
    have hne : a ≠ accountId := by
      rintro rfl
      exact ha (by simp [removes?, hremove, Except.isOk, Except.toBool])
    rw [id, (removeBankAccount_eq_ok hremove).1, verifiedFor_deleteAccount hne]
    exact howner
  | generateForCompany companyId settlementId now =>
    refine committed_rule (P := fun db' => verifiedFor db' a = some owner) howner
      fun generated hgenerate => ?_
    rw [verifiedFor, (standing_generateForCompany hgenerate).1]
    exact howner
  | queueEligibleTransfers now =>
    rw [verifiedFor, apply, MerchantSettlementService.queueEligibleTransfers,
      companyBankAccounts_queueTransfers]
    exact howner
  | retryTransfer settlementId superAdminUserId now =>
    refine committed_rule (P := fun db' => verifiedFor db' a = some owner) howner
      fun retried hretry => ?_
    rw [verifiedFor, (retryTransfer_eq_ok hretry).2.1]
    exact howner
  | transferJob paystack settlementId now =>
    exact (verifiedFor_process paystack settlementId now).trans howner
  | jobFailed job message now =>
    rw [apply, onFailed]
    split
    · split <;> exact howner
    · exact howner
  | webhook event settlementId payload now =>
    refine committed_rule (P := fun db' => verifiedFor db' a = some owner) howner
      fun db' hhandle => ?_
    rw [SettlementHandler.handle] at hhandle
    split at hhandle
    · obtain rfl := Except.ok.inj hhandle
      exact howner
    · split at hhandle
      · obtain rfl := Except.ok.inj hhandle
        exact howner
      · rw [SettlementHandler.commit, SettlementHandler.foldl_audit] at hhandle
        obtain ⟨ledger, -, rfl⟩ := post_eq_ok hhandle
        exact howner

theorem removes?_of_starts (h : op.starts db k = true) : op.removes? db = none := by
  cases op with
  | removeBankAccount companyId accountId => cases h
  | addBankAccount | switchPrimaryBankAccount | generateForCompany | queueEligibleTransfers
    | retryTransfer | transferJob | jobFailed | webhook => rfl

theorem sets?_eq_transferInitiated :
    op.sets? db k = some .transferInitiated ↔ op.starts db k = true := by
  cases op with
  | jobFailed job message now =>
    refine iff_of_false (fun h => ?_) Bool.false_ne_true
    simp only [sets?] at h
    split at h <;> cases h
  | webhook event settlementId payload now =>
    refine iff_of_false (fun h => ?_) Bool.false_ne_true
    simp only [sets?] at h
    split at h
    · cases event <;> cases h
    · cases h
  | addBankAccount | switchPrimaryBankAccount | removeBankAccount | generateForCompany
    | queueEligibleTransfers | retryTransfer | transferJob => simp [sets?]

/-- A step that starts transfers leaves the accounts alone. -/
theorem companyBankAccounts_of_starts (h : op.starts db k = true) :
    (op.apply db).companyBankAccounts = db.companyBankAccounts := by
  cases op with
  | queueEligibleTransfers now =>
    exact companyBankAccounts_queueTransfers now _ db
  | retryTransfer settlementId superAdminUserId now =>
    refine committed_rule (P := fun db' => db'.companyBankAccounts = db.companyBankAccounts) rfl
      fun retried hretry => ?_
    exact (retryTransfer_eq_ok hretry).2.1
  | addBankAccount | switchPrimaryBankAccount | removeBankAccount | generateForCompany
    | transferJob | jobFailed | webhook => cases h

/-- An account that a step deletes has no settlement in transfer. -/
theorem accountId_ne_of_removes (hremoves : op.removes? db = some a)
    (hx : db.settlementStanding k = some x) (hstatus : x.status = .transferInitiated) :
    x.accountId ≠ some a := by
  cases op with
  | removeBankAccount companyId accountId =>
    simp only [removes?] at hremoves
    split at hremoves
    · rename_i hok
      obtain ⟨db', hremove⟩ := isOk_iff.mp hok
      cases hremoves
      obtain ⟨s, hs, rfl⟩ := Option.map_eq_some_iff.mp hx
      exact (removeBankAccount_eq_ok hremove).2 s (Table.mem_of_find? hs) hstatus
    · cases hremoves
  | addBankAccount | switchPrimaryBankAccount | generateForCompany | queueEligibleTransfers
    | retryTransfer | transferJob | jobFailed | webhook => cases hremoves

/-- The link of a settlement in transfer survives the step. -/
theorem linkedIn_apply (hx : db.settlementStanding k = some x)
    (hfree : op.removes? db = none ∨ x.status = .transferInitiated) (hlinked : x.LinkedIn db) :
    (op.restand db k x).LinkedIn (op.apply db) := by
  obtain ⟨a, ha, howner⟩ := Option.bind_eq_some_iff.mp hlinked
  have hkept : op.removes? db ≠ some a := by
    intro hremoves
    rcases hfree with hnone | hstatus
    · rw [hnone] at hremoves
      cases hremoves
    · exact accountId_ne_of_removes hremoves hx hstatus ha
  refine Option.bind_eq_some_iff.mpr ⟨a, ?_, verifiedFor_apply howner hkept⟩
  simp [restand, ha, hkept, Option.filter]

/-- A step keeps the transfers linked exactly when those that it starts are linked. -/
theorem transfersLinked_apply_iff (h : TransfersLinked db) (op : SettlementOp) :
    TransfersLinked (op.apply db) ↔ op.LinkedFirst db := by
  have hold := transfersLinked_iff.mp h
  constructor
  · intro hafter s hs hstarts
    have hx : db.settlementStanding s.settlementId = some s.standing := by
      rw [Database.settlementStanding, Table.find?_of_mem hs, Option.map_some]
    have hremoves := removes?_of_starts hstarts
    rcases standing_apply db op s.settlementId with hstep | ⟨hnone, -⟩
    · rw [hx, Option.map_some, restand_eq hremoves, sets?_eq_transferInitiated.mpr hstarts] at hstep
      have hlinked := transfersLinked_iff.mp hafter _ _ hstep rfl
      rw [linked_iff]
      rw [SettlementStanding.LinkedIn] at hlinked ⊢
      have hverified : verifiedFor (op.apply db) = verifiedFor db := by
        funext a
        rw [verifiedFor, companyBankAccounts_of_starts hstarts, verifiedFor]
      rw [hverified] at hlinked
      exact hlinked
    · rw [hx] at hnone
      cases hnone
  · intro hfirst
    refine transfersLinked_iff.mpr fun k y hy hstatus => ?_
    rcases standing_apply db op k with hstep | ⟨-, companyId, hnew⟩
    · rw [hy] at hstep
      obtain ⟨x, hx, rfl⟩ := Option.map_eq_some_iff.mp hstep.symm
      cases hsets : op.sets? db k with
      | none =>
        have hstatus : x.status = .transferInitiated := by
          simpa [restand, hsets] using hstatus
        exact linkedIn_apply hx (.inr hstatus) (hold k x hx hstatus)
      | some status =>
        have hstarts : op.starts db k = true := by
          refine sets?_eq_transferInitiated.mp ?_
          rw [hsets]
          simpa [restand, hsets] using hstatus
        obtain ⟨s, hs, rfl⟩ := Option.map_eq_some_iff.mp hx
        obtain rfl := Table.find?_key hs
        exact linkedIn_apply hx (.inl (removes?_of_starts hstarts))
          (linked_iff.mp (hfirst s (Table.mem_of_find? hs) hstarts))
    · rw [hy] at hnew
      cases hnew
      cases hstatus

end SettlementOp

/-- In any run of the operations, every settlement in transfer is linked to a verified
account of its company, and no job misses the account, in exactly the runs in which each
settlement is linked when it is put into transfer. -/
theorem transfers_linked_iff {db : Database} (h : TransfersLinked db) (ops : List SettlementOp) :
    (Throughout SettlementOp.apply TransfersLinked db ops ∧
      Along SettlementOp.apply SettlementOp.FindsAccount db ops) ↔
      Along SettlementOp.apply SettlementOp.LinkedFirst db ops := by
  have hlinked : Throughout SettlementOp.apply TransfersLinked db ops ↔
      Along SettlementOp.apply SettlementOp.LinkedFirst db ops :=
    throughout_iff_along (I := fun _ => True)
      (fun db op _ hlinked => SettlementOp.transfersLinked_apply_iff hlinked op)
      (fun _ _ _ _ => trivial) trivial h
  rw [← hlinked]
  refine ⟨fun hboth => hboth.1, fun hthroughout => ⟨hthroughout, ?_⟩⟩
  have hfinds : ∀ (db : Database) op, TransfersLinked db → SettlementOp.FindsAccount db op := by
    intro db op hdb
    cases op with
    | transferJob paystack settlementId now => exact not_accountMissing hdb settlementId
    | addBankAccount | switchPrimaryBankAccount | removeBankAccount | generateForCompany
      | queueEligibleTransfers | retryTransfer | jobFailed | webhook => trivial
  exact hthroughout.along.imp hfinds

/-- A merchant with a verified primary account and one paid installment. -/
def accountedMerchant : Database where
  companies := ⟨[{ companyId := "shop", name := "Shop" }], by decide⟩
  users := ⟨[{ userId := "ann", role := .customer, companyId := some "shop" }], by decide⟩
  financingContracts :=
    ⟨[{ contractId := "lease", productId := "shelf", userId := some "ann"
        status := .active }], by decide⟩
  installments :=
    ⟨[{ installmentId := "first", financingContractId := "lease", amount := 100, dueDate := 1
        sequence := 1, status := .paid }], by decide⟩
  companyBankAccounts :=
    ⟨[{ accountId := "giro", companyId := "shop", bankCode := "044", accountName := "Shop"
        accountNumber := "0001", isPrimary := true, isVerified := true }], by decide⟩

/-- A settlement that is linked to the account is queued and paid. -/
theorem transfers_linked_giro :
    let db := { accountedMerchant with
      merchantSettlementRequests := ⟨[{
        settlementId := "due", companyId := "shop", amount := 100, status := .approved
        companyBankAccountId := some "giro" }], by decide⟩ }
    let ops := [.queueEligibleTransfers 1, .transferJob acceptingPaystack "due" 2]
    Throughout SettlementOp.apply TransfersLinked db ops ∧
      Along SettlementOp.apply SettlementOp.FindsAccount db ops :=
  (transfers_linked_iff (by decide +kernel) _).mpr (by decide +kernel)

/-- The settlement that is generated for the merchant is queued without an account. -/
theorem transfer_without_account :
    ¬ Throughout SettlementOp.apply TransfersLinked accountedMerchant
      [.generateForCompany "shop" "due" 1, .queueEligibleTransfers 2] ∧
    ¬ Along SettlementOp.apply SettlementOp.FindsAccount accountedMerchant
      [.generateForCompany "shop" "due" 1, .queueEligibleTransfers 2,
        .transferJob acceptingPaystack "due" 3] := by
  decide +kernel

end InstalFlow
