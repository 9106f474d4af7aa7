import InstalFlow.SettlementOperations
import InstalFlow.Transition.Run

/-!
# A settlement that has been paid

A webhook marks the success of a transfer. Late events and the `failed` listener may
still take a settlement away from its success, and then it is retried: its transfer is
asked for again. Whether a settlement is paid is kept beside the database.
-/

namespace InstalFlow
open Relational Transition MerchantSettlementService MerchantSettlementTransferWorker

namespace MerchantSettlementTransferWorker
variable {paystack : Paystack} {settlementId : String} {now : DateTime} {db : Database}

/-- A job with a transfer to ask for comes as far as asking. -/
def asks (paystack : Paystack) (settlement : MerchantSettlementRequest) (db : Database) : Bool :=
  (settlement.companyBankAccountId.bind db.companyBankAccounts.find?).any
    fun bank => (resolveRecipient paystack bank db).isOk

/-- The settlement whose transfer a job requests from Paystack. -/
def requested? (paystack : Paystack) (settlementId : String) (db : Database) :
    Option MerchantSettlementRequest :=
  (db.merchantSettlementRequests.find? settlementId).filter fun settlement =>
    settlement.status = .transferInitiated ∧ settlement.transferCode = none ∧
      asks paystack settlement db

/-- Of Paystack's answers to requests for transfers, a job looks at the one to its own. -/
theorem process_congr {answer : ℚ → Option String → String → String → Except String (Option String)}
    (h : ∀ s ∈ requested? paystack settlementId db,
      answer (s.amount * 100) = paystack.initiateTransfer (s.amount * 100)) :
    process { paystack with initiateTransfer := answer } settlementId now db =
      process paystack settlementId now db := by
  rw [process, process]
  split
  · rfl
  · rename_i settlement hsettlement
    split
    · rfl
    · rename_i hstatus
      split
      · rfl
      · rename_i bank hbank
        have hrecipient : resolveRecipient { paystack with initiateTransfer := answer } bank db =
            resolveRecipient paystack bank db := rfl
        rw [hrecipient]
        split
        · rfl
        · rename_i recipientCode db₁ hresolved
          split
          · rfl
          · rename_i hcode
            have hasks : asks paystack settlement db = true := by
              rw [asks, hbank, Option.any_some, hresolved]
              rfl
            have hrequested : requested? paystack settlementId db = some settlement := by
              refine Option.filter_eq_some_iff.mpr ⟨hsettlement, decide_eq_true ?_⟩
              exact ⟨not_not.mp hstatus, by simpa using hcode, hasks⟩
            simp only [h settlement hrequested]

end MerchantSettlementTransferWorker

namespace SettlementOp

/-- The settlement whose transfer the step requests. -/
def requests? (db : Database) : SettlementOp → Option String
  | transferJob paystack settlementId _ =>
    (requested? paystack settlementId db).map (·.settlementId)
  | _ => none

/-- The step is a failed event or the end of the last attempt for the settlement. -/
def fails (k : String) : SettlementOp → Bool
  | webhook .failed settlementId _ _ => settlementId = k
  | jobFailed job _ _ => job.exhausted ∧ job.settlementId = k
  | _ => false

def reverses (k : String) : SettlementOp → Bool
  | webhook .reversed settlementId _ _ => settlementId = k
  | _ => false

def succeeds (k : String) : SettlementOp → Bool
  | webhook .success settlementId _ _ => settlementId = k
  | _ => false

end SettlementOp

def Database.settlementStatus (db : Database) (k : String) : Option MerchantSettlementStatus :=
  (db.settlementStanding k).map SettlementStanding.status

/-- The database with what has become of the transfers of one settlement. -/
structure SettlementHistory where
  db : Database
  paid : Bool

namespace SettlementHistory

/-- The settlement is paid from a success event on until its transfer is reversed. -/
def step (k : String) (s : SettlementHistory) (op : SettlementOp) : SettlementHistory where
  db := op.apply s.db
  paid := (s.db.settlementStatus k).isSome && (op.succeeds k || (s.paid && !op.reverses k))

/-- Only the reversed handler takes the settlement away from its success. -/
def KeepsSuccess (k : String) (s : SettlementHistory) (op : SettlementOp) : Prop :=
  s.db.settlementStatus k = some .transferSuccess → op.reverses k = false →
    (op.apply s.db).settlementStatus k = some .transferSuccess

/-- The step requests no transfer of a settlement that is paid. -/
def PaysOnce (k : String) (s : SettlementHistory) (op : SettlementOp) : Prop :=
  s.paid = true → op.requests? s.db ≠ some k

/-- No failure is recorded for a settlement that has succeeded. -/
def SparesSuccess (k : String) (s : SettlementHistory) (op : SettlementOp) : Prop :=
  s.db.settlementStatus k = some .transferSuccess → op.fails k = false

instance (k : String) (s : SettlementHistory) (op : SettlementOp) :
    Decidable (s.KeepsSuccess k op) :=
  inferInstanceAs (Decidable (_ → _ → _))

instance (k : String) (s : SettlementHistory) (op : SettlementOp) : Decidable (s.PaysOnce k op) :=
  inferInstanceAs (Decidable (_ → _ ≠ _))

instance (k : String) (s : SettlementHistory) (op : SettlementOp) :
    Decidable (s.SparesSuccess k op) :=
  inferInstanceAs (Decidable (_ → _ = _))

end SettlementHistory

section steps
variable {db : Database} {k : String} {op : SettlementOp}

theorem settlementStatus_eq_some {status : MerchantSettlementStatus} :
    db.settlementStatus k = some status ↔
      ∃ s, db.merchantSettlementRequests.find? k = some s ∧ s.status = status := by
  rw [Database.settlementStatus, Database.settlementStanding, Option.map_map,
    Option.map_eq_some_iff]
  rfl

theorem settlementStatus_apply {status : MerchantSettlementStatus}
    (h : db.settlementStatus k = some status) :
    (op.apply db).settlementStatus k = some ((op.sets? db k).getD status) := by
  obtain ⟨x, hx, rfl⟩ := Option.map_eq_some_iff.mp h
  rcases SettlementOp.standing_apply db op k with hstep | ⟨hnone, -⟩
  · rw [Database.settlementStatus, hstep, hx]
    rfl
  · rw [hx] at hnone
    cases hnone

/-- Neither the queue nor a retry takes up a settlement that has succeeded. -/
theorem starts_of_success (h : db.settlementStatus k = some .transferSuccess) :
    op.starts db k = false := by
  obtain ⟨s, hs, hstatus⟩ := settlementStatus_eq_some.mp h
  cases op with
  | queueEligibleTransfers now => simp [SettlementOp.starts, hs, eligible, hstatus]
  | retryTransfer settlementId superAdminUserId now =>
    rw [SettlementOp.starts, decide_eq_false_iff_not]
    intro hstarts
    obtain ⟨rfl, hok⟩ := hstarts
    obtain ⟨retried, hretry⟩ := isOk_iff.mp hok
    obtain ⟨found, hfound, hretryable⟩ := (retryTransfer_eq_ok hretry).1
    rw [hs] at hfound
    cases hfound
    rw [hstatus] at hretryable
    cases hretryable
  | addBankAccount | switchPrimaryBankAccount | removeBankAccount | generateForCompany
    | transferJob | jobFailed | webhook => rfl

/-- A success lasts through every step but a failure and a reversal. -/
theorem settlementStatus_of_success (h : db.settlementStatus k = some .transferSuccess)
    (hreverses : op.reverses k = false) :
    (op.apply db).settlementStatus k = some .transferSuccess ↔ op.fails k = false := by
  rw [settlementStatus_apply h]
  cases op with
  | jobFailed job message now =>
    simp only [SettlementOp.sets?, SettlementOp.fails]
    by_cases hfails : job.exhausted = true ∧ job.settlementId = k
    · simp [hfails]
    · simp [hfails]
  | webhook event settlementId payload now =>
    simp only [SettlementOp.sets?]
    by_cases hk : settlementId = k
    · cases event with
      | success => simp [hk, SettlementOp.fails, TransferEvent.settlementHandler,
          handleSettlementTransferSuccess]
      | failed => simp [hk, SettlementOp.fails, TransferEvent.settlementHandler,
          handleSettlementTransferFailed]
      | reversed => simp [hk, SettlementOp.reverses] at hreverses
    · cases event <;> simp [hk, SettlementOp.fails]
  | addBankAccount | switchPrimaryBankAccount | removeBankAccount | generateForCompany
    | queueEligibleTransfers | retryTransfer | transferJob =>
    refine iff_of_true ?_ rfl
    simp only [SettlementOp.sets?, starts_of_success h]
    rfl

/-- A request is for a settlement in transfer. -/
theorem settlementStatus_of_requests (h : op.requests? db = some k) :
    db.settlementStatus k = some .transferInitiated := by
  cases op with
  | transferJob paystack settlementId now =>
    obtain ⟨s, hs, rfl⟩ := Option.map_eq_some_iff.mp h
    obtain ⟨hfound, hguard⟩ := Option.filter_eq_some_iff.mp hs
    obtain rfl := Table.find?_key hfound
    exact settlementStatus_eq_some.mpr ⟨s, hfound, (of_decide_eq_true hguard).1⟩
  | addBankAccount | switchPrimaryBankAccount | removeBankAccount | generateForCompany
    | queueEligibleTransfers | retryTransfer | jobFailed | webhook => cases h

theorem settlementStatus_of_succeeds (h : op.succeeds k = true)
    (hfound : (db.settlementStatus k).isSome = true) :
    (op.apply db).settlementStatus k = some .transferSuccess := by
  obtain ⟨status, hstatus⟩ := Option.isSome_iff_exists.mp hfound
  rw [settlementStatus_apply hstatus]
  cases op with
  | webhook event settlementId payload now =>
    cases event with
    | success =>
      have hk : settlementId = k := of_decide_eq_true h
      simp [SettlementOp.sets?, hk, TransferEvent.settlementHandler,
        handleSettlementTransferSuccess]
    | failed | reversed => cases h
  | addBankAccount | switchPrimaryBankAccount | removeBankAccount | generateForCompany
    | queueEligibleTransfers | retryTransfer | transferJob | jobFailed => cases h

end steps

namespace SettlementHistory
variable {k : String}

/-- What is paid stands as a success. -/
def Recorded (k : String) (s : SettlementHistory) : Prop :=
  s.paid = true → s.db.settlementStatus k = some .transferSuccess

theorem keepsSuccess_iff (s : SettlementHistory) (op : SettlementOp) :
    s.KeepsSuccess k op ↔ s.SparesSuccess k op := by
  constructor
  · intro hkeeps hsuccess
    cases hreverses : op.reverses k with
    | false =>
      exact (settlementStatus_of_success hsuccess hreverses).mp (hkeeps hsuccess hreverses)
    | true =>
      -- A reversal is no failure.
      cases op with
      | webhook event settlementId payload now =>
        cases event with
        | reversed => rfl
        | success | failed => cases hreverses
      | addBankAccount | switchPrimaryBankAccount | removeBankAccount | generateForCompany
        | queueEligibleTransfers | retryTransfer | transferJob | jobFailed => cases hreverses
  · intro hspares hsuccess hreverses
    exact (settlementStatus_of_success hsuccess hreverses).mpr (hspares hsuccess)

theorem paysOnce_of_recorded {s : SettlementHistory} (h : s.Recorded k) (op : SettlementOp) :
    s.PaysOnce k op := by
  intro hpaid hrequests
  have hstatus := h hpaid
  rw [settlementStatus_of_requests hrequests] at hstatus
  cases hstatus

theorem recorded_step {s : SettlementHistory} {op : SettlementOp} (h : s.Recorded k)
    (hkeeps : s.KeepsSuccess k op) : (s.step k op).Recorded k := by
  intro hpaid
  simp only [step, Bool.and_eq_true, Bool.or_eq_true, Bool.not_eq_true'] at hpaid
  obtain ⟨hfound, hsucceeds | ⟨hpaid, hreverses⟩⟩ := hpaid
  · exact settlementStatus_of_succeeds hsucceeds hfound
  · exact hkeeps (h hpaid) hreverses

end SettlementHistory

/-- For every settlement and every run of the operations: only the reversed handler takes
it away from its success, and no transfer is requested of it while it is paid, in exactly
the runs in which no failure is recorded for it while it has succeeded. -/
theorem settlement_paid_once_iff {k : String} {s : SettlementHistory} (h : s.Recorded k)
    (ops : List SettlementOp) :
    (Along (SettlementHistory.step k) (SettlementHistory.KeepsSuccess k) s ops ∧
      Along (SettlementHistory.step k) (SettlementHistory.PaysOnce k) s ops) ↔
      Along (SettlementHistory.step k) (SettlementHistory.SparesSuccess k) s ops := by
  rw [← along_and]
  refine along_iff_along (I := SettlementHistory.Recorded k) (fun s op hs => ?_)
    (fun s op hs hspares => ?_) h
  · rw [SettlementHistory.keepsSuccess_iff]
    exact and_iff_left (SettlementHistory.paysOnce_of_recorded hs op)
  · exact SettlementHistory.recorded_step hs
      ((SettlementHistory.keepsSuccess_iff s op).mpr hspares)

/-- A settlement in transfer, linked to an account of its company. -/
def transferDue : SettlementHistory where
  db := {
    users := ⟨[{ userId := "root", role := .superAdmin }], by decide⟩
    companyBankAccounts :=
      ⟨[{ accountId := "savings", companyId := "store", bankCode := "058", accountName := "Store"
          accountNumber := "0002", isPrimary := true, isVerified := true }], by decide⟩
    merchantSettlementRequests :=
      ⟨[{ settlementId := "share", companyId := "store", amount := 250
          status := .transferInitiated, companyBankAccountId := some "savings" }], by decide⟩ }
  paid := false

/-- What takes the settlement away from its success, and a retry behind it. -/
def retriedBehind (op : SettlementOp) : List SettlementOp :=
  [.transferJob acceptingPaystack "share" 1,
    .webhook .success "share" { reference := "MST-share" } 2, op,
    .retryTransfer "share" "root" 4, .transferJob acceptingPaystack "share" 5]

/-- A transfer that is reversed is asked for again. -/
theorem settlement_paid_once_reversed :
    let ops := retriedBehind (.webhook .reversed "share" { reference := "MST-share" } 3)
    Along (SettlementHistory.step "share") (SettlementHistory.KeepsSuccess "share") transferDue
        ops ∧
      Along (SettlementHistory.step "share") (SettlementHistory.PaysOnce "share") transferDue
        ops :=
  (settlement_paid_once_iff (fun hpaid => absurd hpaid Bool.false_ne_true) _).mpr
    (by decide +kernel)

/-- A late failed event makes way for a second transfer, and so does the end of the last
attempt of another job. -/
theorem settlement_paid_twice :
    let late := retriedBehind (.webhook .failed "share" { reference := "MST-share" } 3)
    let exhausted := retriedBehind (.jobFailed ⟨"share", 3, some 3⟩ "timeout" 3)
    (¬ Along (SettlementHistory.step "share") (SettlementHistory.KeepsSuccess "share")
        transferDue late ∧
      ¬ Along (SettlementHistory.step "share") (SettlementHistory.PaysOnce "share")
        transferDue late) ∧
    ¬ Along (SettlementHistory.step "share") (SettlementHistory.KeepsSuccess "share")
        transferDue exhausted ∧
      ¬ Along (SettlementHistory.step "share") (SettlementHistory.PaysOnce "share")
        transferDue exhausted := by
  decide +kernel

end InstalFlow
