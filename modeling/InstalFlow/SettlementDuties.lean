import InstalFlow.SettlementJobs

/-!
# The duties of settlement calls and settlement jobs

As for payouts: the call that brings a settlement into transfer owes its job, the job is left when
there is nothing to ask Paystack for, and the `failed` listener of the last attempt takes the
settlement out of transfer.
-/

namespace InstalFlow
open Relational Transition Jobs MerchantSettlementService MerchantSettlementTransferWorker

/-- In transfer, with no code recorded -/
def MerchantSettlementRequest.Open (s : MerchantSettlementRequest) : Prop :=
  s.status = .transferInitiated ∧ s.transferCode = none

def Database.SettlementOpen (db : Database) (settlementId : String) : Prop :=
  db.merchantSettlementRequests.HasAt settlementId MerchantSettlementRequest.Open

section records
variable {db db' : Database} {k : String}

theorem settlementOpen_of_eq (h : db'.merchantSettlementRequests = db.merchantSettlementRequests)
    (hk : db'.SettlementOpen k) : db.SettlementOpen k := by
  rwa [Database.SettlementOpen, h] at hk

/-- The transaction of the sweep opens its settlement at most. -/
theorem queueTransfer_opens {now : DateTime} {settlement : MerchantSettlementRequest}
    (hk : (queueTransfer now db settlement).SettlementOpen k) :
    db.SettlementOpen k ∨ k = settlement.settlementId := by
  rw [queueTransfer, audit, updateSettlement, Database.SettlementOpen, Table.hasAt_update] at hk
  rcases hk with h | ⟨rfl, -⟩
  · exact .inl h.2
  · exact .inr rfl

theorem commitRetry_opens {settlementId superAdminUserId : String} {nextRetryCount : ℕ}
    {now : DateTime}
    (hk : (commitRetry settlementId nextRetryCount superAdminUserId now db).SettlementOpen k) :
    db.SettlementOpen k ∨ k = settlementId := by
  rw [commitRetry, audit, updateSettlement, Database.SettlementOpen, Table.hasAt_update] at hk
  rcases hk with h | ⟨rfl, -⟩
  · exact .inl h.2
  · exact .inr rfl

/-- A recorded code closes the settlement. -/
theorem settlementInit_closes {settlement : MerchantSettlementRequest} {code : Option String}
    {now : DateTime} (h : recordTransferInit settlement code now db = .ok db') :
    db'.commissionPayoutRequests = db.commissionPayoutRequests ∧
      (∀ k, db'.SettlementOpen k → db.SettlementOpen k) ∧
      (code.isSome = true → ¬ db'.SettlementOpen settlement.settlementId) := by
  obtain ⟨ledger, -, rfl⟩ := post_eq_ok h
  refine ⟨rfl, fun k hk => ?_, fun hcode hk => ?_⟩
  · rw [Database.SettlementOpen, audit, updateSettlement, Table.hasAt_update] at hk
    rcases hk with h | ⟨rfl, s, hs, hstatus, hnone⟩
    · exact h.2
    · exact ⟨s, hs, hstatus, (Option.or_eq_none_iff.mp hnone).2⟩
  · rw [Database.SettlementOpen, audit, updateSettlement, Table.hasAt_update] at hk
    rcases hk with h | ⟨-, s, -, -, hnone⟩
    · exact h.1 rfl
    · rw [(Option.or_eq_none_iff.mp hnone).1] at hcode
      cases hcode

/-- The listener of a last attempt takes the settlement out of transfer. -/
theorem markGivenUp_closes (job : FailedSettlementJob) (message : String) (now : DateTime)
    (db : Database) :
    (markGivenUp job message now db).commissionPayoutRequests = db.commissionPayoutRequests ∧
      (∀ k, (markGivenUp job message now db).SettlementOpen k → db.SettlementOpen k) ∧
      (job.exhausted = true →
        ¬ (markGivenUp job message now db).SettlementOpen job.settlementId) := by
  have hclosed {k : String} (hk : (updateSettlement db job.settlementId (giveUp message now)
      (giveUp_settlementId message now)).SettlementOpen k) :
      k ≠ job.settlementId ∧ db.SettlementOpen k := by
    rw [Database.SettlementOpen, updateSettlement, Table.hasAt_update] at hk
    rcases hk with h | ⟨-, s, -, hstatus, -⟩
    · exact h
    · cases hstatus
  rw [markGivenUp]
  split
  · exact ⟨rfl, fun k hk => (hclosed hk).2, fun _ hk => (hclosed hk).1 rfl⟩
  · rename_i hexhausted
    exact ⟨rfl, fun k hk => hk, fun h => absurd h hexhausted⟩

theorem auditGivenUp_keeps (job : FailedSettlementJob) (message : String) (db : Database) :
    (auditGivenUp job message db).merchantSettlementRequests = db.merchantSettlementRequests ∧
      (auditGivenUp job message db).commissionPayoutRequests = db.commissionPayoutRequests := by
  rw [auditGivenUp]
  split
  · split <;> exact ⟨rfl, rfl⟩
  · exact ⟨rfl, rfl⟩

end records

deriving instance DecidableEq for MerchantSettlementTransferJobData

def SettlementSystem.Holds (s : SettlementSystem) (job : Job MerchantSettlementTransferJobData) :
    Prop :=
  ∀ j ∈ s.settlementQueue.rows, j.jobId = job.jobId → j = job

instance (s : SettlementSystem) (job : Job MerchantSettlementTransferJobData) :
    Decidable (s.Holds job) :=
  inferInstanceAs (Decidable (∀ j ∈ s.settlementQueue.rows, _))

inductive SettlementProcess
  | caller (caller : SettlementCaller)
  | worker (execution : SettlementExecution)

namespace SettlementCaller

/-- Once the settlement is in transfer, the call owes its job. -/
def duty : SettlementCaller → Duty MerchantSettlementTransferJobData String
  | committed settlement _ _ => .adds settlement.settlementId
  | retryCommitted settlementId _ => .adds settlementId
  | _ => .rests

/-- The job that the next statement of the call adds. -/
def adding? (now : DateTime) : SettlementCaller → Option (Job MerchantSettlementTransferJobData)
  | committed settlement _ _ => some (settlementTransferJob settlement.settlementId now)
  | retryCommitted settlementId _ => some (retryTransferJob settlementId now)
  | _ => none

end SettlementCaller

namespace SettlementExecution

def Names : SettlementExecution → Prop
  | loaded job settlement _ | created job settlement _ _ | ready job settlement _
  | accepted job settlement _ => settlement.settlementId = job.data.settlementId
  | _ => True

def duty : SettlementExecution → Duty MerchantSettlementTransferJobData String
  | idle | marked _ _ => .rests
  | taken job | accepted job _ _ => .runs job
  | loaded job settlement _ | created job settlement _ _ | ready job settlement _ =>
      if settlement.transferCode.isSome then .leaves job else .runs job
  | returned job => .leaves job
  | failed job _ =>
      if job.attempts ≤ job.attemptsMade then .reports job.data.settlementId else .rests

/-- As for payouts; and the listener passes over a job without an id. -/
def SeesThrough (m : TransferMoment) (s : SettlementSystem) : SettlementExecution → Prop
  | idle => m.stalled = false
  | taken job | loaded job _ _ | created job _ _ _ | ready job _ _ => s.Holds job
  | accepted job _ transferCode => transferCode.isSome = true ∧ s.Holds job
  | returned _ | marked _ _ => True
  | failed job _ => job.attempts ≤ job.attemptsMade →
      job.data.settlementId ≠ "" ∧ m.crashes = false ∧ m.fails = none

instance (m : TransferMoment) (s : SettlementSystem) :
    (e : SettlementExecution) → Decidable (e.SeesThrough m s)
  | idle => inferInstanceAs (Decidable (_ = _))
  | taken job | loaded job _ _ | created job _ _ _ | ready job _ _ =>
      inferInstanceAs (Decidable (s.Holds job))
  | accepted job _ _ => inferInstanceAs (Decidable (_ = _ ∧ s.Holds job))
  | returned _ | marked _ _ => inferInstanceAs (Decidable True)
  | failed job _ =>
      inferInstanceAs (Decidable (job.attempts ≤ job.attemptsMade → _ ≠ _ ∧ _ = _ ∧ _ = _))

end SettlementExecution

namespace SettlementProcess

def next (m : TransferMoment) (s : SettlementSystem) :
    SettlementProcess → SettlementSystem × SettlementProcess
  | caller c => ((c.next m s).1, caller (c.next m s).2)
  | worker e => ((e.next m s).1, worker (e.next m s).2)

def Names : SettlementProcess → Prop
  | caller _ => True
  | worker e => e.Names

def duty : SettlementProcess → Duty MerchantSettlementTransferJobData String
  | caller c => c.duty
  | worker e => e.duty

/-- Nothing is lost at the next statement of the thread. -/
def SeesThrough {ι : Type} (duties : ι → Duty MerchantSettlementTransferJobData String)
    (m : TransferMoment) (s : SettlementSystem) : SettlementProcess → Prop
  | caller c => ∀ job ∈ c.adding? m.now,
      (m.crashes = false ∧ m.fails = none) ∧ FreshId keyed s.settlementQueue duties job.jobId
  | worker e => e.SeesThrough m s

instance {ι : Type} [Fintype ι] (duties : ι → Duty MerchantSettlementTransferJobData String)
    (m : TransferMoment) (s : SettlementSystem) :
    (t : SettlementProcess) → Decidable (t.SeesThrough duties m s)
  | caller c => inferInstanceAs (Decidable (∀ job ∈ c.adding? m.now, (_ = _ ∧ _ = _) ∧ _))
  | worker e => inferInstanceAs (Decidable (e.SeesThrough m s))

/-- What a statement does to the settlements, their queue and the duty of its thread. -/
structure Duly {ι : Type} (duties : ι → Duty MerchantSettlementTransferJobData String)
    (s s' : SettlementSystem) (t t' : SettlementProcess) : Prop where
  step : DutyStep keyed MerchantSettlementTransferJobData.settlementId duties s.db.SettlementOpen
    s'.db.SettlementOpen s.settlementQueue s'.settlementQueue t.duty t'.duty
  payouts : s'.db.commissionPayoutRequests = s.db.commissionPayoutRequests
  transferQueue : s'.transferQueue = s.transferQueue
  names : t'.Names

end SettlementProcess

section duly
variable {ι : Type} {duties : ι → Duty MerchantSettlementTransferJobData String}
  {m : TransferMoment} {s : SettlementSystem}
open SettlementProcess

namespace SettlementCaller

theorem queueNext_rests (queued : List String) (eligible : List MerchantSettlementRequest) :
    (queueNext queued eligible).duty = .rests := by
  cases eligible <;> rfl

theorem rests_duly {c c' : SettlementCaller} (hc : c.duty = .rests) (hc' : c'.duty = .rests) :
    Duly duties s s (.caller c) (.caller c') := by
  refine ⟨?_, rfl, rfl, trivial⟩
  simp only [SettlementProcess.duty, hc, hc']
  exact .stay fun _ hk => hk

/-- A call that dies has added the job that it owed. -/
theorem crash_duly {c : SettlementCaller} (hcrashes : m.crashes = true)
    (hsees : (SettlementProcess.caller c).SeesThrough duties m s) :
    Duly duties s s (.caller c) (.caller crashed) := by
  cases c with
  | committed | retryCommitted =>
    have hruns := (hsees _ rfl).1.1
    rw [hcrashes] at hruns
    cases hruns
  | _ => exact rests_duly rfl rfl

theorem duly (c : SettlementCaller)
    (hsees : (SettlementProcess.caller c).SeesThrough duties m s) :
    Duly duties s (c.next m s).1 (.caller c) (.caller (c.next m s).2) := by
  cases hcrashes : m.crashes with
  | true =>
    rw [next, if_pos hcrashes]
    exact crash_duly hcrashes hsees
  | false =>
    rw [next, if_neg (by simp [hcrashes])]
    cases c with
    | queueEligibleTransfers =>
      rw [perform]
      split
      · exact rests_duly rfl rfl
      · exact rests_duly rfl (queueNext_rests _ _)
    | queueing settlement eligible queued =>
      rw [perform]
      split
      · exact rests_duly rfl rfl
      · rename_i db hqueued
        cases m.attempt_eq_ok hqueued
        exact ⟨.commit fun _ hk => queueTransfer_opens hk, rfl, rfl, trivial⟩
    | committed settlement eligible queued =>
      obtain ⟨⟨-, hfails⟩, hfresh⟩ := hsees _ rfl
      rw [perform, m.attempt_of_fails hfails]
      refine ⟨?_, rfl, rfl, trivial⟩
      simp only [SettlementProcess.duty, queueNext_rests]
      exact .add (fun _ hk => hk) rfl hfresh
    | retryTransfer settlementId superAdminUserId =>
      rw [perform]
      split <;> exact rests_duly rfl rfl
    | retryAuthorized settlementId superAdminUserId =>
      rw [perform]
      split <;> exact rests_duly rfl rfl
    | retryable settlementId superAdminUserId settlement =>
      rw [perform]
      split
      · exact rests_duly rfl rfl
      · rename_i db hretried
        cases m.attempt_eq_ok hretried
        exact ⟨.commit fun _ hk => commitRetry_opens hk, rfl, rfl, trivial⟩
    | retryCommitted settlementId nextRetryCount =>
      obtain ⟨⟨-, hfails⟩, hfresh⟩ := hsees _ rfl
      rw [perform, m.attempt_of_fails hfails]
      exact ⟨.add (fun _ hk => hk) rfl hfresh, rfl, rfl, trivial⟩
    | returned | retried | refused | crashed => exact rests_duly rfl rfl

end SettlementCaller

namespace SettlementExecution

/-- Only the listener of a last attempt owes anything. -/
theorem not_owes {e : SettlementExecution}
    (h : ∀ job message, e = failed job message → job.attemptsMade < job.attempts) (k : String) :
    ¬ e.duty.Owes k := by
  rintro (howes | howes)
  all_goals
    cases e with
    | failed job message =>
      rw [duty, if_neg (Nat.not_le.mpr (h job message rfl))] at howes
      cases howes
    | loaded | created | ready =>
      rw [duty] at howes
      split at howes <;> cases howes
    | _ => cases howes

theorem throw_duly {e : SettlementExecution} {job : Job MerchantSettlementTransferJobData}
    (message : String) (hjob : e.duty.job? = some job) (hholds : s.Holds job) :
    Duly duties s (throw s job message).1 (.worker e) (.worker (throw s job message).2) :=
  ⟨.fail (fun _ hk => hk) hjob hholds, rfl, rfl, trivial⟩

theorem loadSettlement_eq_ok {settlementId : String} {db : Database}
    {r : Option (MerchantSettlementRequest × CompanyBankAccount)}
    (h : loadSettlement settlementId db = .ok r) :
    ∃ settlement, db.merchantSettlementRequests.find? settlementId = some settlement ∧
      (r = none → settlement.status ≠ .transferInitiated) ∧ ∀ x ∈ r, x.1 = settlement := by
  rw [loadSettlement] at h
  split at h
  · cases h
  · rename_i settlement hfound
    refine ⟨settlement, hfound, ?_⟩
    split at h
    · rename_i hstatus
      cases h
      exact ⟨fun _ => hstatus, fun x hx => by cases hx⟩
    · split at h
      · cases h
      · cases h
        refine ⟨fun h => (by cases h), fun x hx => ?_⟩
        cases hx
        rfl

theorem initiateTransfer_frame {paystack : Paystack} {settlement : MerchantSettlementRequest}
    {recipientCode code : Option String} {s s' : SettlementSystem}
    (h : s.initiateTransfer paystack settlement recipientCode = .ok (s', code)) :
    ∃ paystackTransfers, s' = { s with paystackTransfers } := by
  rw [SettlementSystem.initiateTransfer] at h
  split at h
  · cases h
  · split at h <;> cases h <;> exact ⟨_, rfl⟩

section statements
variable {job : Job MerchantSettlementTransferJobData} {settlement : MerchantSettlementRequest}

theorem job?_ready (job : Job MerchantSettlementTransferJobData)
    (settlement : MerchantSettlementRequest) (recipientCode : Option String) :
    (ready job settlement recipientCode).duty.job? = some job := by
  rw [duty]
  split <;> rfl

theorem take_duly (hstalled : m.stalled = false) :
    Duly duties s (take m s).1 (.worker idle) (.worker (take m s).2) := by
  have hclose : ∀ k, s.db.SettlementOpen k → s.db.SettlementOpen k := fun _ hk => hk
  rw [take]
  split
  · exact ⟨.stay hclose, rfl, rfl, trivial⟩
  · rename_i hjob
    obtain ⟨id, -, hjob⟩ := Option.bind_eq_some_iff.mp hjob
    split
    · exact ⟨.stay hclose, rfl, rfl, trivial⟩
    · rw [hstalled, if_neg Bool.false_ne_true]
      exact ⟨.take hclose (Queue.mem_of_job? hjob).1, rfl, rfl, trivial⟩

theorem taken_duly (hholds : s.Holds job) :
    Duly duties s ((taken job).perform m s).1 (.worker (taken job))
      (.worker ((taken job).perform m s).2) := by
  have hclose : ∀ k, s.db.SettlementOpen k → s.db.SettlementOpen k := fun _ hk => hk
  rw [perform]
  split
  · exact throw_duly _ rfl hholds
  · rename_i hload
    obtain ⟨settlement, hfound, hstatus, -⟩ := loadSettlement_eq_ok (m.attempt_eq_ok hload)
    refine ⟨.leave hclose fun hopen => ?_, rfl, rfl, trivial⟩
    obtain ⟨x, hx, hinitiated, -⟩ := hopen
    rw [hfound] at hx
    cases hx
    exact hstatus rfl hinitiated
  · rename_i settlement bank hload
    obtain ⟨x, hfound, -, hsettlement⟩ := loadSettlement_eq_ok (m.attempt_eq_ok hload)
    have hsettlement : settlement = x := hsettlement _ rfl
    subst hsettlement
    refine ⟨?_, rfl, rfl, Table.find?_key hfound⟩
    simp only [SettlementProcess.duty, duty]
    split
    · rename_i hcode
      refine .leave hclose fun hopen => ?_
      obtain ⟨x, hx, -, hnone⟩ := hopen
      rw [hfound] at hx
      cases hx
      rw [hnone] at hcode
      cases hcode
    · exact .stay hclose

theorem loaded_duly {bank : CompanyBankAccount}
    (hnames : settlement.settlementId = job.data.settlementId) (hholds : s.Holds job) :
    Duly duties s ((loaded job settlement bank).perform m s).1
      (.worker (loaded job settlement bank))
      (.worker ((loaded job settlement bank).perform m s).2) := by
  have hclose : ∀ k, s.db.SettlementOpen k → s.db.SettlementOpen k := fun _ hk => hk
  rw [perform]
  split
  · exact ⟨.stay hclose, rfl, rfl, hnames⟩
  · split
    · exact throw_duly _ (job?_ready job settlement none) hholds
    · exact ⟨.stay hclose, rfl, rfl, hnames⟩

theorem created_duly {bank : CompanyBankAccount} {recipientCode : Option String}
    (hnames : settlement.settlementId = job.data.settlementId) (hholds : s.Holds job) :
    Duly duties s ((created job settlement bank recipientCode).perform m s).1
      (.worker (created job settlement bank recipientCode))
      (.worker ((created job settlement bank recipientCode).perform m s).2) := by
  rw [perform]
  split
  · exact throw_duly _ (job?_ready job settlement none) hholds
  · rename_i db hstored
    cases m.attempt_eq_ok hstored
    exact ⟨.stay fun k hk => settlementOpen_of_eq rfl hk, rfl, rfl, hnames⟩

theorem ready_duly {recipientCode : Option String}
    (hnames : settlement.settlementId = job.data.settlementId) (hholds : s.Holds job) :
    Duly duties s ((ready job settlement recipientCode).perform m s).1
      (.worker (ready job settlement recipientCode))
      (.worker ((ready job settlement recipientCode).perform m s).2) := by
  have hclose : ∀ k, s.db.SettlementOpen k → s.db.SettlementOpen k := fun _ hk => hk
  rw [perform]
  split
  · rename_i hcode
    refine ⟨?_, rfl, rfl, trivial⟩
    simp only [SettlementProcess.duty, duty, if_pos hcode]
    exact .stay hclose
  · rename_i hcode
    split
    · exact throw_duly _ (job?_ready job settlement recipientCode) hholds
    · rename_i s' code hrequest
      obtain ⟨transfers, rfl⟩ := initiateTransfer_frame hrequest
      refine ⟨?_, rfl, rfl, hnames⟩
      simp only [SettlementProcess.duty, duty, if_neg hcode]
      exact .stay hclose

theorem accepted_duly {code : Option String}
    (hnames : settlement.settlementId = job.data.settlementId) (hcode : code.isSome = true)
    (hholds : s.Holds job) :
    Duly duties s ((accepted job settlement code).perform m s).1
      (.worker (accepted job settlement code))
      (.worker ((accepted job settlement code).perform m s).2) := by
  rw [perform]
  split
  · exact throw_duly _ rfl hholds
  · rename_i db hrecord
    obtain ⟨hpayouts, hcloses, hclosed⟩ := settlementInit_closes (m.attempt_eq_ok hrecord)
    exact ⟨.leave hcloses (hnames ▸ hclosed hcode), hpayouts, rfl, trivial⟩

theorem failed_duly {message : String}
    (hruns : job.attempts ≤ job.attemptsMade → job.data.settlementId ≠ "" ∧ m.fails = none) :
    Duly duties s ((failed job message).perform m s).1 (.worker (failed job message))
      (.worker ((failed job message).perform m s).2) := by
  obtain ⟨hpayouts, hcloses, hclosed⟩ := markGivenUp_closes (failedJob job) message m.now s.db
  rw [perform]
  by_cases hlast : job.attempts ≤ job.attemptsMade
  · obtain ⟨hid, hfails⟩ := hruns hlast
    rw [m.attempt_of_fails hfails]
    refine ⟨?_, hpayouts, rfl, trivial⟩
    simp only [SettlementProcess.duty, duty, if_pos hlast]
    exact .report hcloses (hclosed (decide_eq_true ⟨hid, hlast⟩))
  · have hduty : (failed job message).duty = .rests := if_neg hlast
    cases hmarked : m.attempt (.ok (markGivenUp (failedJob job) message m.now s.db)) with
    | error err =>
      refine ⟨?_, rfl, rfl, trivial⟩
      simp only [SettlementProcess.duty, hduty]
      exact .stay fun _ hk => hk
    | ok db =>
      cases m.attempt_eq_ok hmarked
      refine ⟨?_, hpayouts, rfl, trivial⟩
      simp only [SettlementProcess.duty, hduty]
      exact .stay hcloses

theorem marked_duly {message : String} :
    Duly duties s ((marked job message).perform m s).1 (.worker (marked job message))
      (.worker ((marked job message).perform m s).2) := by
  rw [perform]
  refine committed_rule (P := fun db => Duly duties s { s with db }
    (.worker (marked job message)) (.worker idle)) ⟨.stay fun _ hk => hk, rfl, rfl, trivial⟩
    fun db hdb => ?_
  cases m.attempt_eq_ok hdb
  obtain ⟨hsettlements, hpayouts⟩ := auditGivenUp_keeps (failedJob job) message s.db
  exact ⟨.stay fun k hk => settlementOpen_of_eq hsettlements hk, hpayouts, rfl, trivial⟩

end statements

/-- A job that dies is in the queue still, and only a listener may owe something then. -/
theorem crash_duly {e : SettlementExecution} (hcrashes : m.crashes = true)
    (hsees : e.SeesThrough m s) : Duly duties s s (.worker e) (.worker idle) := by
  refine ⟨.drop (fun _ hk => hk) (not_owes fun job message he => ?_), rfl, rfl, trivial⟩
  subst he
  by_contra hlast
  have hruns := (hsees (Nat.not_lt.mp hlast)).2.1
  rw [hcrashes] at hruns
  cases hruns

theorem duly (e : SettlementExecution) (hnames : e.Names) (hsees : e.SeesThrough m s) :
    Duly duties s (e.next m s).1 (.worker e) (.worker (e.next m s).2) := by
  cases hcrashes : m.crashes with
  | true =>
    rw [next, if_pos hcrashes]
    exact crash_duly hcrashes hsees
  | false =>
    rw [next, if_neg (by simp [hcrashes])]
    cases e with
    | idle => exact take_duly hsees
    | taken job => exact taken_duly hsees
    | loaded job settlement bank => exact loaded_duly hnames hsees
    | created job settlement bank recipientCode => exact created_duly hnames hsees
    | ready job settlement recipientCode => exact ready_duly hnames hsees
    | accepted job settlement code => exact accepted_duly hnames hsees.1 hsees.2
    | returned job => exact ⟨.complete fun _ hk => hk, rfl, rfl, trivial⟩
    | failed job message => exact failed_duly fun hlast => ⟨(hsees hlast).1, (hsees hlast).2.2⟩
    | marked job message => exact marked_duly

end SettlementExecution

theorem SettlementProcess.duly {t : SettlementProcess} (hnames : t.Names)
    (hsees : t.SeesThrough duties m s) : Duly duties s (t.next m s).1 t (t.next m s).2 := by
  cases t with
  | caller c => exact c.duly hsees
  | worker e => exact e.duly hnames hsees

end duly
end InstalFlow
