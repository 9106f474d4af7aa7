import InstalFlow.CompanyBankAccounts
import InstalFlow.SettlementGeneration
import InstalFlow.TransitAccount

/-!
# The operations on settlements

Generation, queueing, retries, transfer jobs with their final failure, webhooks and
the bank accounts of companies, each as one step. What a step does to a settlement
is read off one table: the status it sets and the account it unlinks.
-/

namespace InstalFlow
open Relational MerchantSettlementService MerchantSettlementTransferWorker
  CompanyBankAccountService

inductive SettlementOp
  | addBankAccount (resolveAccount : String → String → Except String String)
      (companyId accountId : String) (data : AddBankAccount)
  | switchPrimaryBankAccount (companyId accountId : String)
  | removeBankAccount (companyId accountId : String)
  | generateForCompany (companyId settlementId : String) (now : DateTime)
  | queueEligibleTransfers (now : DateTime)
  | retryTransfer (settlementId superAdminUserId : String) (now : DateTime)
  | transferJob (paystack : Paystack) (settlementId : String) (now : DateTime)
  | jobFailed (job : FailedSettlementJob) (message : String) (now : DateTime)
  | webhook (event : TransferEvent) (settlementId : String) (payload : TransferPayload)
      (now : DateTime)

namespace SettlementOp

def apply (db : Database) : SettlementOp → Database
  | addBankAccount resolveAccount companyId accountId data =>
    committed db Prod.snd
      (CompanyBankAccountService.addBankAccount resolveAccount companyId accountId data db)
  | switchPrimaryBankAccount companyId accountId =>
    committed db id (CompanyBankAccountService.switchPrimaryBankAccount companyId accountId db)
  | removeBankAccount companyId accountId =>
    committed db id (CompanyBankAccountService.removeBankAccount companyId accountId db)
  | generateForCompany companyId settlementId now =>
    committed db Prod.snd
      (MerchantSettlementService.generateForCompany companyId settlementId now db)
  | queueEligibleTransfers now => (MerchantSettlementService.queueEligibleTransfers now db).2
  | retryTransfer settlementId superAdminUserId now =>
    committed db Prod.snd
      (MerchantSettlementService.retryTransfer settlementId superAdminUserId now db)
  | transferJob paystack settlementId now => (process paystack settlementId now db).1
  | jobFailed job message now => onFailed job message now db
  | webhook event settlementId payload now =>
    committed db id (event.settlementHandler.handle settlementId payload now db)

/-- The step puts the settlement into transfer. -/
def starts (db : Database) (op : SettlementOp) (k : String) : Bool :=
  match op with
  | queueEligibleTransfers _ => (db.merchantSettlementRequests.find? k).any (eligible db)
  | retryTransfer settlementId superAdminUserId now =>
    settlementId = k ∧
      (MerchantSettlementService.retryTransfer settlementId superAdminUserId now db).isOk
  | _ => false

/-- The status that the step gives the settlement, if it sets one. -/
def sets? (db : Database) (op : SettlementOp) (k : String) : Option MerchantSettlementStatus :=
  match op with
  | jobFailed job _ _ =>
    if job.exhausted ∧ job.settlementId = k then some .transferFailed else none
  | webhook event settlementId _ _ =>
    if settlementId = k then some event.settlementHandler.target else none
  | _ => if op.starts db k then some .transferInitiated else none

/-- The account that the step deletes. -/
def removes? (db : Database) : SettlementOp → Option String
  | removeBankAccount companyId accountId =>
    if (CompanyBankAccountService.removeBankAccount companyId accountId db).isOk then
      some accountId
    else none
  | _ => none

end SettlementOp

/-- How a settlement stands: its status, its company and the account it is linked to. -/
structure SettlementStanding where
  status : MerchantSettlementStatus
  companyId : String
  accountId : Option String

def MerchantSettlementRequest.standing (s : MerchantSettlementRequest) : SettlementStanding :=
  ⟨s.status, s.companyId, s.companyBankAccountId⟩

def Database.settlementStanding (db : Database) (settlementId : String) :
    Option SettlementStanding :=
  (db.merchantSettlementRequests.find? settlementId).map MerchantSettlementRequest.standing

/-- What a step makes of a standing. -/
def SettlementOp.restand (db : Database) (op : SettlementOp) (k : String)
    (x : SettlementStanding) : SettlementStanding where
  status := (op.sets? db k).getD x.status
  companyId := x.companyId
  accountId := x.accountId.filter (fun accountId => op.removes? db ≠ some accountId)

section standing
variable {db db' : Database} {k : String}

def SettlementStanding.withStatus (status : MerchantSettlementStatus) (x : SettlementStanding) :
    SettlementStanding :=
  { x with status }

/-- An update of a settlement, whatever else is written beside it. -/
theorem standing_update {id : String} {f : MerchantSettlementRequest → MerchantSettlementRequest}
    (hf : ∀ s, (f s).settlementId = s.settlementId) (g : SettlementStanding → SettlementStanding)
    (hupdate : db'.merchantSettlementRequests = db.merchantSettlementRequests.update id f hf)
    (hg : ∀ s, (f s).standing = g s.standing) :
    db'.settlementStanding k =
      if k = id then (db.settlementStanding k).map g else db.settlementStanding k := by
  rw [Database.settlementStanding, hupdate, Table.find?_update, Database.settlementStanding]
  split
  · rw [Option.map_map, Option.map_map]
    exact congrArg (Option.map · _) (funext hg)
  · rfl

theorem standing_queueTransfers (now : DateTime) (ss : List MerchantSettlementRequest)
    (db : Database) :
    (ss.foldl (queueTransfer now) db).settlementStanding k =
      if k ∈ ss.map MerchantSettlementRequest.settlementId then
        (db.settlementStanding k).map (SettlementStanding.withStatus .transferInitiated)
      else db.settlementStanding k := by
  induction ss generalizing db with
  | nil => rfl
  | cons s ss ih =>
    have hqueue : (queueTransfer now db s).settlementStanding k =
        if k = s.settlementId then
          (db.settlementStanding k).map (SettlementStanding.withStatus .transferInitiated)
        else db.settlementStanding k :=
      standing_update (f := fun s => { s with
        status := .transferInitiated
        transferQueuedAt := some now
        transferInitiatedAt := some now }) (fun _ => rfl) _ rfl fun _ => rfl
    rw [List.foldl_cons, ih, hqueue, List.map_cons]
    by_cases hk : k = s.settlementId
    · have hmem : k ∈ s.settlementId :: ss.map MerchantSettlementRequest.settlementId := by
        rw [hk]
        exact List.mem_cons_self
      rw [if_pos hk, if_pos hmem, Option.map_map]
      split <;> rfl
    · simp [hk]

/-- The settlements that are queued are the eligible ones. -/
theorem mem_eligible_iff :
    k ∈ (db.merchantSettlementRequests.rows.filter (eligible db)).map
        MerchantSettlementRequest.settlementId ↔
      (db.merchantSettlementRequests.find? k).any (eligible db) = true := by
  rw [List.mem_map, Option.any_eq_true]
  constructor
  · intro h
    obtain ⟨s, hs, rfl⟩ := h
    rw [List.mem_filter] at hs
    exact ⟨s, Table.find?_of_mem hs.1, hs.2⟩
  · intro h
    obtain ⟨s, hs, heligible⟩ := h
    exact ⟨s, List.mem_filter.mpr ⟨Table.mem_of_find? hs, heligible⟩, Table.find?_key hs⟩

theorem standing_recordTransferInit {settlement : MerchantSettlementRequest}
    {code : Option String} {now : DateTime}
    (h : recordTransferInit settlement code now db = .ok db') :
    db'.settlementStanding k = db.settlementStanding k := by
  obtain ⟨ledger, -, rfl⟩ := post_eq_ok h
  refine (standing_update (f := fun s => { s with
    transferCode := code.or s.transferCode, transferCodeReceivedAt := some now })
    (fun _ => rfl) id rfl fun _ => rfl).trans ?_
  rw [Option.map_id_fun, id, ite_self]

theorem standing_process (paystack : Paystack) (settlementId : String) (now : DateTime) :
    (process paystack settlementId now db).1.settlementStanding k = db.settlementStanding k := by
  rw [process]
  split
  · rfl
  · split
    · rfl
    · split
      · rfl
      · split
        · rfl
        · rename_i hrecipient
          obtain ⟨banks, rfl⟩ := resolveRecipient_eq_ok hrecipient
          split
          · rfl
          · split
            · rfl
            · split
              · rfl
              · rename_i hinit
                exact (standing_recordTransferInit hinit).trans rfl

/-- A retry that goes through puts its settlement, which has failed, into transfer. -/
theorem retryTransfer_eq_ok {settlementId superAdminUserId : String} {now : DateTime}
    {retryCount : ℕ}
    (h : retryTransfer settlementId superAdminUserId now db = .ok (retryCount, db')) :
    (∃ s, db.merchantSettlementRequests.find? settlementId = some s ∧ s.status.retryable = true) ∧
      db'.companyBankAccounts = db.companyBankAccounts ∧
      ∀ k, db'.settlementStanding k =
        if k = settlementId then
          (db.settlementStanding k).map (SettlementStanding.withStatus .transferInitiated)
        else db.settlementStanding k := by
  rw [retryTransfer] at h
  split at h
  · cases h
  · split at h
    · cases h
    · rename_i settlement hsettlement
      split at h
      · cases h
      · rename_i hretryable
        cases h
        refine ⟨⟨settlement, hsettlement, by simpa using hretryable⟩, rfl, fun k => ?_⟩
        exact standing_update (f := fun s => { s with
          status := .transferInitiated
          retryCount := settlement.retryCount + 1
          lastRetryAt := some now
          retryInitiatedById := some superAdminUserId
          transferFailedAt := none
          transferFailReason := none
          transferCode := none }) (fun _ => rfl) _ rfl fun _ => rfl

theorem standing_onFailed (job : FailedSettlementJob) (message : String) (now : DateTime) :
    (onFailed job message now db).settlementStanding k =
      if job.exhausted ∧ k = job.settlementId then
        (db.settlementStanding k).map (SettlementStanding.withStatus .transferFailed)
      else db.settlementStanding k := by
  rw [onFailed]
  split
  · rename_i hexhausted
    simp only [hexhausted, true_and]
    split
    · rename_i hnone
      split
      · rename_i hk
        rw [hk, Database.settlementStanding, hnone]
        rfl
      · rfl
    · exact standing_update (f := giveUp message now) (fun _ => rfl) _ rfl fun _ => rfl
  · rename_i hexhausted
    rw [if_neg fun h => hexhausted h.1]

theorem TransferEvent.standing_mark (e : TransferEvent) (payload : TransferPayload)
    (now : DateTime) (s : MerchantSettlementRequest) :
    (e.settlementHandler.mark payload now s).standing =
      s.standing.withStatus e.settlementHandler.target := by
  cases e <;> rfl

/-- A webhook gives its settlement the status of the event, also where it is skipped. -/
theorem standing_webhook {e : TransferEvent} {settlementId : String} {payload : TransferPayload}
    {now : DateTime} (h : e.settlementHandler.handle settlementId payload now db = .ok db') :
    db'.settlementStanding k =
      if k = settlementId then
        (db.settlementStanding k).map (SettlementStanding.withStatus e.settlementHandler.target)
      else db.settlementStanding k := by
  rw [SettlementHandler.handle] at h
  split at h
  · rename_i hnone
    obtain rfl := Except.ok.inj h
    split
    · rename_i hk
      rw [hk, Database.settlementStanding, hnone]
      rfl
    · rfl
  · rename_i settlement hsettlement
    split at h
    · rename_i hstatus
      obtain rfl := Except.ok.inj h
      split
      · rename_i hk
        rw [hk, Database.settlementStanding, hsettlement, ← hstatus]
        rfl
      · rfl
    · rw [SettlementHandler.commit, SettlementHandler.foldl_audit] at h
      obtain ⟨ledger, -, rfl⟩ := post_eq_ok h
      rw [← Table.find?_key hsettlement]
      exact standing_update (f := e.settlementHandler.mark payload now)
        (e.settlementHandler.mark_settlementId payload now) _ rfl
        (e.standing_mark payload now)

/-- What a generation leaves of the settlements there are: all of them, and its own is new. -/
theorem standing_generateForCompany {companyId settlementId : String} {now : DateTime}
    {settlement : Option MerchantSettlementRequest}
    (h : generateForCompany companyId settlementId now db = .ok (settlement, db')) :
    db'.companyBankAccounts = db.companyBankAccounts ∧
      ∀ k, db'.settlementStanding k = db.settlementStanding k ∨
        (db.settlementStanding k = none ∧
          db'.settlementStanding k = some ⟨.approved, companyId, none⟩) := by
  rw [generateForCompany] at h
  split at h
  · obtain ⟨-, rfl⟩ := Prod.mk.inj (Except.ok.inj h)
    exact ⟨rfl, fun k => .inl rfl⟩
  · split at h
    · cases h
    · rename_i created hcreated
      obtain ⟨-, rfl⟩ := Prod.mk.inj (Except.ok.inj h)
      obtain ⟨table, lines, trail, rfl, rfl, hnone, hfind, -⟩ := createSettlement_eq_ok hcreated
      refine ⟨rfl, fun k => ?_⟩
      by_cases hk : k = settlementId
      · refine .inr ⟨by rw [Database.settlementStanding, hk, hnone]; rfl, ?_⟩
        rw [Database.settlementStanding, hfind, if_pos hk]
        rfl
      · refine .inl ?_
        rw [Database.settlementStanding, hfind, if_neg hk, Database.settlementStanding]

theorem standing_deleteAccount (accountId : String) :
    (deleteAccount accountId db).settlementStanding k = (db.settlementStanding k).map fun x =>
      { x with accountId := x.accountId.filter (· ≠ accountId) } := by
  have hfind : (deleteAccount accountId db).merchantSettlementRequests.find? k =
      (db.merchantSettlementRequests.find? k).map fun s =>
        if s.companyBankAccountId = some accountId then s.unlinked else s := by
    refine (Table.find?_updateMany db.merchantSettlementRequests _
      MerchantSettlementRequest.unlinked MerchantSettlementRequest.unlinked_settlementId k).trans ?_
    simp only [decide_eq_true_eq]
  rw [Database.settlementStanding, hfind, Database.settlementStanding, Option.map_map,
    Option.map_map]
  refine congrArg (Option.map · _) (funext fun s => ?_)
  simp only [Function.comp_apply, MerchantSettlementRequest.standing]
  cases hlink : s.companyBankAccountId with
  | none => simp [hlink]
  | some a =>
    by_cases ha : a = accountId
    · simp [ha, MerchantSettlementRequest.unlinked, Option.filter]
    · simp [ha, hlink, Option.filter]

end standing

namespace SettlementOp
variable {db : Database} {k : String}

theorem restand_eq {op : SettlementOp} (h : op.removes? db = none) :
    op.restand db k = fun x => x.withStatus ((op.sets? db k).getD x.status) := by
  funext x
  cases hx : x.accountId with
  | none => simp [restand, SettlementStanding.withStatus, hx]
  | some a => simp [restand, SettlementStanding.withStatus, hx, h, Option.filter]

/-- A step that sets settlements to one status, or leaves them as they are. -/
theorem map_withStatus_eq {op : SettlementOp} {status : MerchantSettlementStatus}
    {p : Prop} [Decidable p] {found : Option SettlementStanding} (hremoves : op.removes? db = none)
    (hsets : op.sets? db k = if p then some status else none) :
    (if p then found.map (SettlementStanding.withStatus status) else found) =
      found.map (op.restand db k) := by
  rw [restand_eq hremoves, hsets]
  split
  · rfl
  · exact (Option.map_id' ..).symm

/-- A step does to each settlement what the table of its writes says, and may create one. -/
theorem standing_apply (db : Database) (op : SettlementOp) (k : String) :
    (op.apply db).settlementStanding k = (db.settlementStanding k).map (op.restand db k) ∨
      (db.settlementStanding k = none ∧
        ∃ companyId, (op.apply db).settlementStanding k = some ⟨.approved, companyId, none⟩) := by
  have hsame (op : SettlementOp) (hremoves : op.removes? db = none)
      (hsets : op.sets? db k = none)
      (hdb : (op.apply db).settlementStanding k = db.settlementStanding k) :
      (op.apply db).settlementStanding k = (db.settlementStanding k).map (op.restand db k) := by
    rw [hdb, restand_eq hremoves, hsets]
    exact (Option.map_id' ..).symm
  cases op with
  | addBankAccount resolveAccount companyId accountId data =>
    refine .inl (hsame _ rfl rfl ?_)
    refine committed_rule (P := fun db' => db'.settlementStanding k = db.settlementStanding k)
      rfl fun added hadd => ?_
    rw [Database.settlementStanding, (addBankAccount_eq_ok hadd).1, Database.settlementStanding]
  | switchPrimaryBankAccount companyId accountId =>
    refine .inl (hsame _ rfl rfl ?_)
    refine committed_rule (P := fun db' => db'.settlementStanding k = db.settlementStanding k)
      rfl fun db' hswitch => ?_
    rw [id, Database.settlementStanding, (switchPrimaryBankAccount_eq_ok hswitch).1,
      Database.settlementStanding]
  | removeBankAccount companyId accountId =>
    refine .inl ?_
    cases hremove : CompanyBankAccountService.removeBankAccount companyId accountId db with
    | error err =>
      refine hsame (removeBankAccount companyId accountId) ?_ rfl ?_
      · rw [removes?, hremove]
        rfl
      · rw [apply, hremove, committed_error]
    | ok db' =>
      have hremoves : removes? db (removeBankAccount companyId accountId) = some accountId := by
        rw [removes?, hremove]
        rfl
      rw [apply, hremove, committed_ok, id, (removeBankAccount_eq_ok hremove).1,
        standing_deleteAccount]
      refine congrArg (Option.map · _) (funext fun x => ?_)
      rw [restand, hremoves]
      simp only [ne_eq, Option.some.injEq, eq_comm]
      rfl
  | generateForCompany companyId settlementId now =>
    cases hgenerate : MerchantSettlementService.generateForCompany companyId settlementId now db with
    | error err =>
      refine .inl (hsame (generateForCompany companyId settlementId now) rfl rfl ?_)
      rw [apply, hgenerate, committed_error]
    | ok generated =>
      have hdb : apply db (generateForCompany companyId settlementId now) = generated.2 := by
        rw [apply, hgenerate, committed_ok]
      rcases (standing_generateForCompany hgenerate).2 k with hkept | ⟨hnone, hnew⟩
      · exact .inl (hsame _ rfl rfl (by rw [hdb, hkept]))
      · exact .inr ⟨hnone, companyId, by rw [hdb, hnew]⟩
  | queueEligibleTransfers now =>
    refine .inl ?_
    rw [apply, MerchantSettlementService.queueEligibleTransfers, standing_queueTransfers]
    exact map_withStatus_eq rfl (if_congr mem_eligible_iff.symm rfl rfl)
  | retryTransfer settlementId superAdminUserId now =>
    refine .inl ?_
    cases hretry : MerchantSettlementService.retryTransfer settlementId superAdminUserId now db with
    | error err =>
      refine hsame (retryTransfer settlementId superAdminUserId now) rfl ?_ ?_
      · simp [sets?, starts, hretry, Except.isOk, Except.toBool]
      · rw [apply, hretry, committed_error]
    | ok retried =>
      rw [apply, hretry, committed_ok, (retryTransfer_eq_ok hretry).2.2]
      refine map_withStatus_eq rfl ?_
      simp [sets?, starts, hretry, Except.isOk, Except.toBool, eq_comm]
  | transferJob paystack settlementId now =>
    exact .inl (hsame _ rfl rfl (standing_process paystack settlementId now))
  | jobFailed job message now =>
    refine .inl ?_
    rw [apply, standing_onFailed]
    refine map_withStatus_eq rfl ?_
    simp only [sets?, eq_comm]
  | webhook event settlementId payload now =>
    refine .inl ?_
    obtain ⟨db', hhandle⟩ := event.settlementHandler_isOk settlementId payload now db
    rw [apply, hhandle, committed_ok, id, standing_webhook hhandle]
    refine map_withStatus_eq rfl ?_
    simp only [sets?, eq_comm]

end SettlementOp
end InstalFlow
