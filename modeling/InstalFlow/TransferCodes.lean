import InstalFlow.MoneyMovements
import Mathlib.Data.List.Induction

/-!
# The codes of a transfer

The transfer jobs read the codes of what Paystack has created from properties that its
responses do not have. What they store is undefined, and an undefined column is left as it was:
the next run of the job finds a transfer without a code and asks for it again.
-/

namespace InstalFlow
open Relational Transition

/-- What the transfer jobs ask Paystack for -/
inductive PaystackRequest
  | transferrecipient (type name accountNumber bankCode currency : String)
  | transfer (source : String) (amount : ℚ) (recipient : Option String) (reason reference : String)

/-- The `data` of a response: the values of its properties, of which it may lack any -/
abbrev ResponseData := String → Option String

namespace PaystackHttpClient
variable (request : PaystackRequest → Except String ResponseData)

def createTransferRecipient (name accountNumber bankCode : String) :
    Except String (Option String) :=
  (request (.transferrecipient "nuban" name accountNumber bankCode "NGN")).map
    fun data => data "recipientCode"

def initiateTransfer (amountKobo : ℚ) (recipientCode : Option String)
    (reference reason : String) : Except String (Option String) :=
  (request (.transfer "balance" amountKobo recipientCode reason reference)).map
    fun data => data "transferCode"

def client : Paystack := ⟨createTransferRecipient request, initiateTransfer request⟩

/-- The responses carry the documented properties. -/
structure Documented : Prop where
  recipient : ∀ type name accountNumber bankCode currency data,
    request (.transferrecipient type name accountNumber bankCode currency) = .ok data →
      (data "recipient_code").isSome ∧ data "recipientCode" = none
  transfer : ∀ source amount recipient reason reference data,
    request (.transfer source amount recipient reason reference) = .ok data →
      (data "transfer_code").isSome ∧ data "transferCode" = none

variable {request}

theorem Documented.recipientCode (h : Documented request) {name accountNumber bankCode : String}
    {code : Option String}
    (hcode : (client request).createTransferRecipient name accountNumber bankCode = .ok code) :
    code = none := by
  change (request _).map _ = .ok code at hcode
  cases hdata : request (.transferrecipient "nuban" name accountNumber bankCode "NGN") with
  | error message =>
    rw [hdata] at hcode
    cases hcode
  | ok data =>
    rw [hdata] at hcode
    cases hcode
    exact (h.recipient _ _ _ _ _ _ hdata).2

theorem Documented.transferCode (h : Documented request) {amountKobo : ℚ}
    {recipientCode : Option String} {reference reason : String} {code : Option String}
    (hcode : (client request).initiateTransfer amountKobo recipientCode reference reason =
      .ok code) : code = none := by
  change (request _).map _ = .ok code at hcode
  cases hdata : request (.transfer "balance" amountKobo recipientCode reason reference) with
  | error message =>
    rw [hdata] at hcode
    cases hcode
  | ok data =>
    rw [hdata] at hcode
    cases hcode
    exact (h.transfer _ _ _ _ _ _ hdata).2

end PaystackHttpClient

open PaystackHttpClient

/-! ### One run of a job -/

section jobs
variable {request : PaystackRequest → Except String ResponseData}

namespace TransferWorker
variable {payoutId : String} {db db' : Database}

theorem resolveRecipient_documented (h : Documented request) {bank : MarketerBankAccount}
    {code : Option String} (hok : resolveRecipient (client request) bank db = .ok (code, db')) :
    db' = db := by
  rw [resolveRecipient] at hok
  split at hok
  · cases hok
    rfl
  · split at hok
    · cases hok
    · rename_i hcode
      cases hok
      rw [h.recipientCode hcode]
      exact congrArg (fun marketerBankAccounts => { db with marketerBankAccounts })
        (Table.update_eq_of_id fun _ => rfl)

/-- A job leaves the payouts and the accounts as they are. -/
theorem process_documented (h : Documented request) (payoutId : String) (db : Database) :
    ∃ ledger, (process (client request) payoutId db).1 = { db with ledger } := by
  rw [process]
  split
  · exact ⟨db.ledger, rfl⟩
  · rename_i payout _
    split
    · exact ⟨db.ledger, rfl⟩
    · split
      · exact ⟨db.ledger, rfl⟩
      · split
        · exact ⟨db.ledger, rfl⟩
        · rename_i hrecipient
          obtain rfl := (resolveRecipient_documented h hrecipient).symm
          split
          · exact ⟨_, rfl⟩
          · split
            · exact ⟨_, rfl⟩
            · rename_i hcode
              split
              · exact ⟨_, rfl⟩
              · rename_i hinit
                obtain ⟨ledger, rfl⟩ := recordTransferInit_eq_ok hinit
                have hpayouts : db.commissionPayoutRequests.update payout.payoutId
                    (fun p => { p with transferCode := none.or p.transferCode }) =
                      db.commissionPayoutRequests := Table.update_eq_of_id fun _ => rfl
                refine ⟨ledger, ?_⟩
                rw [h.transferCode hcode, CommissionService.updatePayout, hpayouts]

end TransferWorker

namespace MerchantSettlementTransferWorker
open MerchantSettlementService
variable {settlementId : String} {db db' : Database}

theorem resolveRecipient_documented (h : Documented request) {bank : CompanyBankAccount}
    {code : Option String} (hok : resolveRecipient (client request) bank db = .ok (code, db')) :
    db' = db := by
  rw [resolveRecipient] at hok
  split at hok
  · cases hok
    rfl
  · split at hok
    · cases hok
    · rename_i hcode
      cases hok
      rw [h.recipientCode hcode]
      exact congrArg (fun companyBankAccounts => { db with companyBankAccounts })
        (Table.update_eq_of_id fun _ => rfl)

def codeReceived (now : DateTime) (s : MerchantSettlementRequest) : MerchantSettlementRequest :=
  { s with transferCodeReceivedAt := some now }

theorem codeReceived_settlementId (now : DateTime) (s : MerchantSettlementRequest) :
    (codeReceived now s).settlementId = s.settlementId := rfl

/-- A job leaves the settlement as it is, but for the moment at which its code was received. -/
theorem process_documented (h : Documented request) (settlementId : String) (now : DateTime)
    (db : Database) : ∃ db', (process (client request) settlementId now db).1 = db' ∧
      db'.companyBankAccounts = db.companyBankAccounts ∧
      (db'.merchantSettlementRequests = db.merchantSettlementRequests ∨
        db'.merchantSettlementRequests = db.merchantSettlementRequests.update settlementId
          (codeReceived now) (codeReceived_settlementId now)) := by
  rw [process]
  split
  · exact ⟨db, rfl, rfl, .inl rfl⟩
  · rename_i settlement hsettlement
    obtain rfl := Table.find?_key hsettlement
    split
    · exact ⟨db, rfl, rfl, .inl rfl⟩
    · split
      · exact ⟨db, rfl, rfl, .inl rfl⟩
      · split
        · exact ⟨db, rfl, rfl, .inl rfl⟩
        · rename_i hrecipient
          obtain rfl := (resolveRecipient_documented h hrecipient).symm
          split
          · exact ⟨db, rfl, rfl, .inl rfl⟩
          · split
            · exact ⟨db, rfl, rfl, .inl rfl⟩
            · rename_i hcode
              split
              · exact ⟨db, rfl, rfl, .inl rfl⟩
              · rename_i hinit
                rw [h.transferCode hcode, recordTransferInit, post] at hinit
                split at hinit
                · cases hinit
                · cases hinit
                  exact ⟨_, rfl, rfl, .inr rfl⟩

end MerchantSettlementTransferWorker

end jobs

/-! ### The runs of a job -/

/-- The responses of Paystack to an execution of a job, and its moment -/
structure JobRun where
  request : PaystackRequest → Except String ResponseData
  now : DateTime

namespace TransferKey
variable (k : TransferKey)

def job (paystack : Paystack) (now : DateTime) : MoneyStep :=
  match k with
  | payout payoutId => .payout (.transferJob paystack payoutId)
  | settlement settlementId => .settlement (.transferJob paystack settlementId now)

def completes (run : JobRun) (db : Database) : Bool :=
  match k with
  | payout payoutId => (TransferWorker.process (client run.request) payoutId db).2.isOk
  | settlement settlementId => (MerchantSettlementTransferWorker.process (client run.request)
      settlementId run.now db).2.isOk

/-- TRANSFER_INITIATED, without a `transferCode` -/
def awaits (db : Database) : Bool :=
  match k with
  | payout payoutId => (db.commissionPayoutRequests.find? payoutId).any
      fun p => p.status = .transferInitiated ∧ p.transferCode = none
  | settlement settlementId => (db.merchantSettlementRequests.find? settlementId).any
      fun s => s.status = .transferInitiated ∧ s.transferCode = none

def transferCode (db : Database) : Option String :=
  match k with
  | payout payoutId => (db.commissionPayoutRequests.find? payoutId).bind
      CommissionPayoutRequest.transferCode
  | settlement settlementId => (db.merchantSettlementRequests.find? settlementId).bind
      MerchantSettlementRequest.transferCode

/-- The code stored with the linked account -/
def recipientCode (db : Database) : Option String :=
  match k with
  | payout payoutId => (((db.commissionPayoutRequests.find? payoutId).bind
      CommissionPayoutRequest.marketerBankAccountId).bind db.marketerBankAccounts.find?).bind
        MarketerBankAccount.recipientCode
  | settlement settlementId => (((db.merchantSettlementRequests.find? settlementId).bind
      MerchantSettlementRequest.companyBankAccountId).bind db.companyBankAccounts.find?).bind
        CompanyBankAccount.recipientCode

/-- The execution comes as far as asking for the transfer. -/
def asks (db : Database) (run : JobRun) : Bool :=
  ((k.job (client run.request) run.now).sent? db).isSome

/-- The executions of the job, one after another -/
def executions (runs : List JobRun) (db : Database) : MoneyState :=
  runs.foldl (fun s run => s.step (k.job (client run.request) run.now)) { db }

end TransferKey

/-- Some response to the runs has this value for a property. -/
def Responded (runs : List JobRun) (field code : String) : Prop :=
  ∃ run ∈ runs, ∃ r data, run.request r = .ok data ∧ data field = some code

/-- Over all the executions the transfer is asked for once and posted once, and the codes of the
responses are stored. -/
structure AskedOnce (k : TransferKey) (runs : List JobRun) (db : Database) : Prop where
  sent : (k.executions runs db).sent.map Prod.fst = [.transfer k]
  booked : (k.executions runs db).booked.map Prod.fst = [.transfer k]
  transferCode : ∃ code, k.transferCode (k.executions runs db).db = some code ∧
    Responded runs "transfer_code" code
  recipientCode : ∃ code, k.recipientCode (k.executions runs db).db = some code ∧
    (k.recipientCode db = some code ∨ Responded runs "recipient_code" code)

section runs
open MerchantSettlementTransferWorker (codeReceived codeReceived_settlementId)
variable {k : TransferKey} {db db' : Database} {request : PaystackRequest → Except String ResponseData}

theorem TransferWorker.resolveRecipient_isOk (paystack : Paystack) (bank : MarketerBankAccount)
    (db : Database) : (resolveRecipient paystack bank db).isOk = (bank.recipientCode.isSome ||
      (paystack.createTransferRecipient bank.accountName bank.accountNumber bank.bankCode).isOk) := by
  rw [resolveRecipient]
  split
  · rename_i hcode
    rw [hcode]
    rfl
  · rename_i hcode
    rw [hcode]
    split
    · rename_i herror
      rw [herror]
      rfl
    · rename_i hok
      rw [hok]
      rfl

theorem MerchantSettlementTransferWorker.resolveRecipient_isOk (paystack : Paystack)
    (bank : CompanyBankAccount) (db : Database) :
    (resolveRecipient paystack bank db).isOk = (bank.recipientCode.isSome ||
      (paystack.createTransferRecipient bank.accountName bank.accountNumber bank.bankCode).isOk) := by
  rw [resolveRecipient]
  split
  · rename_i hcode
    rw [hcode]
    rfl
  · rename_i hcode
    rw [hcode]
    split
    · rename_i herror
      rw [herror]
      rfl
    · rename_i hok
      rw [hok]
      rfl

theorem MerchantSettlementTransferWorker.requested?_codeReceived {paystack : Paystack}
    {settlementId : String} {now : DateTime}
    (hfind : db'.merchantSettlementRequests.find? settlementId =
      (db.merchantSettlementRequests.find? settlementId).map (codeReceived now))
    (hbanks : db'.companyBankAccounts = db.companyBankAccounts) :
    requested? paystack settlementId db' =
      (requested? paystack settlementId db).map (codeReceived now) := by
  simp only [requested?, asks, resolveRecipient_isOk, hfind, hbanks]
  rw [Option.filter_map]
  rfl

/-- To the next run the transfer is as it was. -/
structure Unchanged (k : TransferKey) (db db' : Database) : Prop where
  transferCode : k.transferCode db' = k.transferCode db
  sent : ∀ paystack now, (k.job paystack now).sent? db' = (k.job paystack now).sent? db

theorem Unchanged.refl (db : Database) : Unchanged k db db := ⟨rfl, fun _ _ => rfl⟩

theorem Unchanged.trans {db'' : Database} (h : Unchanged k db db') (h' : Unchanged k db' db'') :
    Unchanged k db db'' where
  transferCode := h'.transferCode.trans h.transferCode
  sent paystack now := (h'.sent paystack now).trans (h.sent paystack now)

theorem unchanged_of_documented (h : Documented request) (now : DateTime) (db : Database) :
    Unchanged k db ((k.job (client request) now).apply db) := by
  cases k with
  | payout payoutId =>
    obtain ⟨ledger, hdb⟩ := TransferWorker.process_documented h payoutId db
    change Unchanged _ db (TransferWorker.process (client request) payoutId db).1
    rw [hdb]
    refine ⟨rfl, fun paystack now => ?_⟩
    change (TransferWorker.requested? paystack payoutId { db with ledger }).map _ =
      (TransferWorker.requested? paystack payoutId db).map _
    simp only [TransferWorker.requested?, TransferWorker.resolveRecipient_isOk]
  | settlement settlementId =>
    obtain ⟨db', hdb, hbanks, hsettlements⟩ :=
      MerchantSettlementTransferWorker.process_documented h settlementId now db
    change Unchanged _ db (MerchantSettlementTransferWorker.process (client request)
      settlementId now db).1
    rw [hdb]
    rcases hsettlements with hsettlements | hsettlements
    · refine ⟨?_, fun paystack now => ?_⟩
      · rw [TransferKey.transferCode, TransferKey.transferCode, hsettlements]
      · change (MerchantSettlementTransferWorker.requested? paystack settlementId db').map _ =
          (MerchantSettlementTransferWorker.requested? paystack settlementId db).map _
        simp only [MerchantSettlementTransferWorker.requested?,
          MerchantSettlementTransferWorker.asks,
          MerchantSettlementTransferWorker.resolveRecipient_isOk, hsettlements, hbanks]
    · have hfind : db'.merchantSettlementRequests.find? settlementId =
          (db.merchantSettlementRequests.find? settlementId).map (codeReceived now) := by
        rw [hsettlements, Table.find?_update, if_pos rfl]
      refine ⟨?_, fun paystack now' => ?_⟩
      · rw [TransferKey.transferCode, TransferKey.transferCode, hfind, Option.bind_map]
        rfl
      · change (MerchantSettlementTransferWorker.requested? paystack settlementId db').map _ =
          (MerchantSettlementTransferWorker.requested? paystack settlementId db).map _
        rw [MerchantSettlementTransferWorker.requested?_codeReceived hfind hbanks, Option.map_map]
        rfl

theorem executions_append (runs : List JobRun) (run : JobRun) :
    k.executions (runs ++ [run]) db =
      (k.executions runs db).step (k.job (client run.request) run.now) := by
  rw [TransferKey.executions, List.foldl_append]
  rfl

/-- Any number of executions leaves the transfer as it was. -/
theorem unchanged_executions {runs : List JobRun} (h : ∀ run ∈ runs, Documented run.request) :
    Unchanged k db (k.executions runs db).db := by
  induction runs using List.reverseRecOn with
  | nil => exact Unchanged.refl db
  | append_singleton runs run ih =>
    rw [executions_append]
    exact (ih fun r hr => h r (List.mem_append_left _ hr)).trans
      (unchanged_of_documented (h run (List.mem_append_right _ (List.mem_singleton_self run))) _ _)

/-- A job asks for the transfer of its own payout or settlement. -/
theorem sent?_job {paystack : Paystack} {now : DateTime} {q : Movement × ℚ}
    (h : (k.job paystack now).sent? db = some q) : q.1 = .transfer k := by
  cases k with
  | payout payoutId =>
    obtain ⟨payout, hrequested, rfl⟩ := Option.map_eq_some_iff.mp h
    obtain ⟨hpayout, -⟩ := Option.filter_eq_some_iff.mp hrequested
    exact congrArg (fun id => Movement.transfer (.payout id)) (Table.find?_key hpayout)
  | settlement settlementId =>
    obtain ⟨settlement, hrequested, rfl⟩ := Option.map_eq_some_iff.mp h
    obtain ⟨hsettlement, -⟩ := Option.filter_eq_some_iff.mp hrequested
    exact congrArg (fun id => Movement.transfer (.settlement id)) (Table.find?_key hsettlement)

/-- Every execution that gets a recipient asks for the transfer. -/
theorem sent_executions {runs : List JobRun} (h : ∀ run ∈ runs, Documented run.request) :
    (k.executions runs db).sent.map Prod.fst =
      List.replicate (runs.countP (k.asks db)) (.transfer k) := by
  induction runs using List.reverseRecOn with
  | nil => rfl
  | append_singleton runs run ih =>
    have hruns : ∀ r ∈ runs, Documented r.request := fun r hr => h r (List.mem_append_left _ hr)
    have hasks : (k.job (client run.request) run.now).sent? (k.executions runs db).db =
        (k.job (client run.request) run.now).sent? db := (unchanged_executions hruns).sent _ _
    rw [executions_append, MoneyState.step, List.map_append, ih hruns, hasks, List.countP_append,
      List.countP_singleton, List.replicate_add]
    congr 1
    rw [TransferKey.asks]
    cases hsent : (k.job (client run.request) run.now).sent? db with
    | none => rfl
    | some q => exact congrArg (fun m => [m]) (sent?_job hsent)

theorem transferCode_of_awaits (h : k.awaits db) : k.transferCode db = none := by
  cases k with
  | payout payoutId =>
    obtain ⟨p, hp, hawaits⟩ := (Option.any_eq_true _ _).mp h
    rw [TransferKey.transferCode, hp]
    exact (of_decide_eq_true hawaits).2
  | settlement settlementId =>
    obtain ⟨s, hs, hawaits⟩ := (Option.any_eq_true _ _).mp h
    rw [TransferKey.transferCode, hs]
    exact (of_decide_eq_true hawaits).2

/-- An execution that completes has asked for the transfer. -/
theorem asks_of_completes {run : JobRun} (h : k.awaits db) (hcompletes : k.completes run db) :
    k.asks db run := by
  cases k with
  | payout payoutId =>
    obtain ⟨payout, hpayout, hawaits⟩ := (Option.any_eq_true _ _).mp h
    obtain ⟨hstatus, hcode⟩ := of_decide_eq_true hawaits
    rw [TransferKey.completes, TransferWorker.process, hpayout] at hcompletes
    have hasks : (payout.marketerBankAccountId.bind db.marketerBankAccounts.find?).any fun bank =>
        (TransferWorker.resolveRecipient (client run.request) bank db).isOk := by
      simp only [hstatus, ne_eq, not_true_eq_false, if_false] at hcompletes
      split at hcompletes
      · cases hcompletes
      · rename_i bank hbank
        split at hcompletes
        · cases hcompletes
        · rename_i hrecipient
          rw [hbank, Option.any_some, hrecipient]
          rfl
    have hrequested : TransferWorker.requested? (client run.request) payoutId db = some payout :=
      Option.filter_eq_some_iff.mpr ⟨hpayout, decide_eq_true ⟨hstatus, hcode, hasks⟩⟩
    change ((TransferWorker.requested? _ payoutId db).map _).isSome = true
    rw [hrequested]
    rfl
  | settlement settlementId =>
    obtain ⟨settlement, hsettlement, hawaits⟩ := (Option.any_eq_true _ _).mp h
    obtain ⟨hstatus, hcode⟩ := of_decide_eq_true hawaits
    rw [TransferKey.completes, MerchantSettlementTransferWorker.process, hsettlement] at hcompletes
    have hasks : MerchantSettlementTransferWorker.asks (client run.request) settlement db := by
      simp only [hstatus, ne_eq, not_true_eq_false, if_false] at hcompletes
      split at hcompletes
      · cases hcompletes
      · rename_i bank hbank
        split at hcompletes
        · cases hcompletes
        · rename_i hrecipient
          rw [MerchantSettlementTransferWorker.asks, hbank, Option.any_some, hrecipient]
          rfl
    have hrequested : MerchantSettlementTransferWorker.requested? (client run.request)
        settlementId db = some settlement :=
      Option.filter_eq_some_iff.mpr ⟨hsettlement, decide_eq_true ⟨hstatus, hcode, hasks⟩⟩
    change ((MerchantSettlementTransferWorker.requested? _ settlementId db).map _).isSome = true
    rw [hrequested]
    rfl

end runs

/-- However often the job of a transfer that awaits its code is run, no code is stored, and each
execution that gets a recipient asks for the transfer, such as one that completes. -/
theorem asked_with_every_run (k : TransferKey) (runs : List JobRun) (db : Database)
    (hdocumented : ∀ run ∈ runs, Documented run.request) (hawaits : k.awaits db) :
    k.transferCode (k.executions runs db).db = none ∧
      (k.executions runs db).sent.map Prod.fst =
        List.replicate (runs.countP (k.asks db)) (.transfer k) ∧
      (∀ run ∈ runs, k.completes run db → k.asks db run) ∧ ¬ AskedOnce k runs db := by
  have hcode : k.transferCode (k.executions runs db).db = none :=
    (unchanged_executions hdocumented).transferCode.trans (transferCode_of_awaits hawaits)
  refine ⟨hcode, sent_executions hdocumented, fun _ _ => asks_of_completes hawaits,
    fun honce => ?_⟩
  obtain ⟨code, hstored, -⟩ := honce.transferCode
  rw [hcode] at hstored
  cases hstored

/-- The first run is answered, the second is told that its reference is known. -/
def firstResponse : PaystackRequest → Except String ResponseData
  | .transferrecipient .. => .ok fun field =>
      if field = "recipient_code" then some "RCP_ada" else none
  | .transfer .. => .ok fun field =>
      if field = "transfer_code" then some "TRF_1" else if field = "status" then some "pending"
      else none

def knownReference : PaystackRequest → Except String ResponseData
  | .transferrecipient .. => .ok fun field =>
      if field = "recipient_code" then some "RCP_ada" else none
  | .transfer .. => .error "Transfer reference already exists"

def secondRun : List JobRun := [⟨firstResponse, 1⟩, ⟨knownReference, 2⟩]

theorem documented_secondRun : ∀ run ∈ secondRun, Documented run.request := by
  intro run hrun
  rcases List.mem_cons.mp hrun with rfl | hrun
  · refine ⟨fun _ _ _ _ _ data hdata => ?_, fun _ _ _ _ _ data hdata => ?_⟩
    · cases hdata
      exact ⟨rfl, rfl⟩
    · cases hdata
      exact ⟨rfl, rfl⟩
  · obtain rfl := List.mem_singleton.mp hrun
    refine ⟨fun _ _ _ _ _ data hdata => ?_, fun _ _ _ _ _ data hdata => ?_⟩
    · cases hdata
      exact ⟨rfl, rfl⟩
    · cases hdata

/-- A payout to an account whose recipient is known to Paystack -/
def initiatedPayout : Database :=
  { commissionPayoutRequests := ⟨[{ payoutId := "PO7", userId := "ADA", companyId := "STORE"
                                    amount := 40, status := .transferInitiated
                                    marketerBankAccountId := some "ADA-1" }], by decide⟩
    marketerBankAccounts := ⟨[{ accountId := "ADA-1", userId := "ADA", bankCode := "058"
                                accountName := "Ada", accountNumber := "0123456789"
                                isPrimary := true, recipientCode := some "RCP_ada" }], by decide⟩ }

theorem asked_with_second_run :
    (TransferKey.payout "PO7").transferCode
        ((TransferKey.payout "PO7").executions secondRun initiatedPayout).db = none ∧
      ((TransferKey.payout "PO7").executions secondRun initiatedPayout).sent.map Prod.fst =
        List.replicate (secondRun.countP ((TransferKey.payout "PO7").asks initiatedPayout))
          (.transfer (.payout "PO7")) ∧
      (∀ run ∈ secondRun, (TransferKey.payout "PO7").completes run initiatedPayout →
        (TransferKey.payout "PO7").asks initiatedPayout run) ∧
      ¬ AskedOnce (.payout "PO7") secondRun initiatedPayout :=
  asked_with_every_run (.payout "PO7") secondRun initiatedPayout documented_secondRun (by decide)

/-- The first run completes, and the second asks for the transfer again. -/
theorem transfer_asked_twice : (TransferKey.payout "PO7").awaits initiatedPayout = true ∧
    (TransferKey.payout "PO7").completes ⟨firstResponse, 1⟩ initiatedPayout = true ∧
    (∀ run ∈ secondRun, Documented run.request) ∧
    ((TransferKey.payout "PO7").executions secondRun initiatedPayout).sent =
      [(.transfer (.payout "PO7"), 4000), (.transfer (.payout "PO7"), 4000)] ∧
    ¬ AskedOnce (.payout "PO7") secondRun initiatedPayout := by
  have hsent : ((TransferKey.payout "PO7").executions secondRun initiatedPayout).sent =
      [(.transfer (.payout "PO7"), 4000), (.transfer (.payout "PO7"), 4000)] := by decide +kernel
  refine ⟨by decide, by decide +kernel, documented_secondRun, hsent, fun honce => ?_⟩
  have hone := honce.sent
  rw [hsent] at hone
  cases hone

end InstalFlow
