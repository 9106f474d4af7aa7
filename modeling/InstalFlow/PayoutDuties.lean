import InstalFlow.Jobs.Duties
import InstalFlow.TransferInitiations

/-!
# The duties of transfer calls and transfer jobs

A payout in transfer of which no code is recorded is open. The call that brings it there owes its
job, the job is left when there is nothing to ask Paystack for, and the `failed` listener of the
last attempt takes it out of transfer. This is what each statement of a call or a job does, as long
as a call gets its job added, the listener runs, a job is not given up, and Paystack's answer has a
code.
-/

namespace InstalFlow
open Relational Transition Jobs

/-- In transfer, with no code recorded -/
def CommissionPayoutRequest.Open (p : CommissionPayoutRequest) : Prop :=
  p.status = .transferInitiated ∧ p.transferCode = none

def Database.PayoutOpen (db : Database) (payoutId : String) : Prop :=
  db.commissionPayoutRequests.HasAt payoutId CommissionPayoutRequest.Open

section records
variable {db db' : Database} {k : String}

theorem payoutOpen_of_eq (h : db'.commissionPayoutRequests = db.commissionPayoutRequests)
    (hk : db'.PayoutOpen k) : db.PayoutOpen k := by
  rwa [Database.PayoutOpen, h] at hk

/-- An update to a status out of transfer closes its payout. -/
theorem payoutOpen_updatePayout {id : String}
    {f : CommissionPayoutRequest → CommissionPayoutRequest} {hf : ∀ p, (f p).payoutId = p.payoutId}
    (hstatus : ∀ p, (f p).status ≠ .transferInitiated) :
    (CommissionService.updatePayout db id f hf).PayoutOpen k ↔ k ≠ id ∧ db.PayoutOpen k := by
  rw [Database.PayoutOpen, CommissionService.updatePayout, Table.hasAt_update]
  refine or_iff_left fun h => ?_
  obtain ⟨-, p, -, hopen⟩ := h
  exact hstatus p hopen.1

theorem restorePayout_closes (payout : CommissionPayoutRequest) (db : Database) :
    (CommissionService.restorePayout payout db).merchantSettlementRequests =
      db.merchantSettlementRequests ∧
    ∀ k, (CommissionService.restorePayout payout db).PayoutOpen k → db.PayoutOpen k := by
  obtain ⟨cs, as, payouts, hrestored, hpayouts⟩ := restorePayout_frame payout db
  rw [hrestored]
  refine ⟨rfl, fun k hk => ?_⟩
  rcases hpayouts with rfl | ⟨f, hf, hstatus, rfl⟩
  · exact hk
  · have hne (p : CommissionPayoutRequest) : (f p).status ≠ .transferInitiated := by
      simp [hstatus p]
    exact ((payoutOpen_updatePayout hne).mp hk).2

/-- A recorded code closes the payout. -/
theorem recordTransferInit_closes {payout : CommissionPayoutRequest} {code : Option String}
    (h : TransferWorker.recordTransferInit payout code db = .ok db') :
    db'.merchantSettlementRequests = db.merchantSettlementRequests ∧
      (∀ k, db'.PayoutOpen k → db.PayoutOpen k) ∧
      (code.isSome = true → ¬ db'.PayoutOpen payout.payoutId) := by
  obtain ⟨ledger, -, rfl⟩ := post_eq_ok h
  refine ⟨rfl, fun k hk => ?_, fun hcode hk => ?_⟩
  · rw [Database.PayoutOpen, CommissionService.updatePayout, Table.hasAt_update] at hk
    rcases hk with h | ⟨rfl, p, hp, hstatus, hnone⟩
    · exact h.2
    · exact ⟨p, hp, hstatus, (Option.or_eq_none_iff.mp hnone).2⟩
  · rw [Database.PayoutOpen, CommissionService.updatePayout, Table.hasAt_update] at hk
    rcases hk with h | ⟨-, p, -, -, hnone⟩
    · exact h.1 rfl
    · rw [(Option.or_eq_none_iff.mp hnone).1] at hcode
      cases hcode

theorem markInitiated_opens {payout : CommissionPayoutRequest} {bank : MarketerBankAccount}
    {companyUserId : String} {now : DateTime}
    (hk : (CommissionService.markInitiated payout bank companyUserId now db).PayoutOpen k) :
    db.PayoutOpen k ∨ k = payout.payoutId := by
  rw [CommissionService.markInitiated, Database.PayoutOpen, CommissionService.updatePayout,
    Table.hasAt_update] at hk
  rcases hk with h | ⟨rfl, -⟩
  · exact .inl h.2
  · exact .inr rfl

end records

deriving instance DecidableEq for TransferJobData

/-- The queue has the job as the worker took it. -/
def TransferSystem.Holds (s : TransferSystem) (job : Job TransferJobData) : Prop :=
  ∀ j ∈ s.transferQueue.rows, j.jobId = job.jobId → j = job

instance (s : TransferSystem) (job : Job TransferJobData) : Decidable (s.Holds job) :=
  inferInstanceAs (Decidable (∀ j ∈ s.transferQueue.rows, _))

def InitiationPhase.Names (payoutId : String) : InitiationPhase → Prop
  | found payout | targeted payout _ | restored payout _ => payout.payoutId = payoutId
  | _ => True

namespace TransferCaller

/-- The call works on the payout that it is for. -/
def Names : TransferCaller → Prop
  | initiating _ payoutId phase _ _ => phase.Names payoutId
  | _ => True

/-- Once the payout is in transfer, the call owes its job. -/
def duty : TransferCaller → Duty TransferJobData String
  | initiating _ payoutId .initiated _ _ => .adds payoutId
  | _ => .rests

/-- The job that the next statement of the call adds. -/
def adding? (now : DateTime) : TransferCaller → Option (Job TransferJobData)
  | initiating companyUserId payoutId .initiated _ _ =>
      some (CommissionService.transferJob payoutId companyUserId now)
  | _ => none

end TransferCaller

namespace TransferExecution

def Names : TransferExecution → Prop
  | loaded job payout _ | created job payout _ _ | ready job payout _ | accepted job payout _ =>
      payout.payoutId = job.data.payoutId
  | _ => True

/-- A job is left when its payout needs no transfer any more, and reported by the listener of
its last attempt. -/
def duty : TransferExecution → Duty TransferJobData String
  | idle => .rests
  | taken job | accepted job _ _ => .runs job
  | loaded job payout _ | created job payout _ _ | ready job payout _ =>
      if payout.transferCode.isSome then .leaves job else .runs job
  | returned job => .leaves job
  | failed job _ => if job.attempts ≤ job.attemptsMade then .reports job.data.payoutId else .rests

/-- The job is in the queue as it was taken and not given up as stalled, what Paystack has answered
has a code, and the listener of a last attempt runs. -/
def SeesThrough (m : TransferMoment) (s : TransferSystem) : TransferExecution → Prop
  | idle => m.stalled = false
  | taken job | loaded job _ _ | created job _ _ _ | ready job _ _ => s.Holds job
  | accepted job _ transferCode => transferCode.isSome = true ∧ s.Holds job
  | returned _ => True
  | failed job _ => job.attempts ≤ job.attemptsMade → m.crashes = false ∧ m.fails = none

instance (m : TransferMoment) (s : TransferSystem) :
    (e : TransferExecution) → Decidable (e.SeesThrough m s)
  | idle => inferInstanceAs (Decidable (_ = _))
  | taken job | loaded job _ _ | created job _ _ _ | ready job _ _ =>
      inferInstanceAs (Decidable (s.Holds job))
  | accepted job _ _ => inferInstanceAs (Decidable (_ = _ ∧ s.Holds job))
  | returned _ => inferInstanceAs (Decidable True)
  | failed job _ => inferInstanceAs (Decidable (job.attempts ≤ job.attemptsMade → _ = _ ∧ _ = _))

end TransferExecution

namespace TransferProcess

def Names : TransferProcess → Prop
  | caller c => c.Names
  | worker e => e.Names

def duty : TransferProcess → Duty TransferJobData String
  | caller c => c.duty
  | worker e => e.duty

/-- Nothing is lost at the next statement of the thread: a call that owes a job gets it added, under
an id that no job has, and a job is seen through. -/
def SeesThrough {ι : Type} (duties : ι → Duty TransferJobData String) (m : TransferMoment)
    (s : TransferSystem) : TransferProcess → Prop
  | caller c => ∀ job ∈ c.adding? m.now,
      (m.crashes = false ∧ m.fails = none) ∧ FreshId keyed s.transferQueue duties job.jobId
  | worker e => e.SeesThrough m s

instance {ι : Type} [Fintype ι] (duties : ι → Duty TransferJobData String) (m : TransferMoment)
    (s : TransferSystem) : (t : TransferProcess) → Decidable (t.SeesThrough duties m s)
  | caller c => inferInstanceAs (Decidable (∀ job ∈ c.adding? m.now, (_ = _ ∧ _ = _) ∧ _))
  | worker e => inferInstanceAs (Decidable (e.SeesThrough m s))

/-- What a statement does to the payouts, the queue and the duty of its thread. -/
structure Duly {ι : Type} (duties : ι → Duty TransferJobData String) (s s' : TransferSystem)
    (t t' : TransferProcess) : Prop where
  step : DutyStep keyed TransferJobData.payoutId duties s.db.PayoutOpen s'.db.PayoutOpen
    s.transferQueue s'.transferQueue t.duty t'.duty
  settlements : s'.db.merchantSettlementRequests = s.db.merchantSettlementRequests
  names : t'.Names

end TransferProcess

section duly
variable {ι : Type} {duties : ι → Duty TransferJobData String} {m : TransferMoment}
  {s : TransferSystem}
open TransferProcess

theorem TransferCaller.callNext_rests (companyUserId : String) (results : InitiationResults)
    (rest : List String) : (callNext companyUserId results rest).duty = .rests ∧
      (callNext companyUserId results rest).Names := by
  cases rest <;> exact ⟨rfl, trivial⟩

theorem CommissionService.findTransferable_payoutId {payoutId : String} {db : Database}
    {initiator : User} {payout : CommissionPayoutRequest}
    (h : CommissionService.findTransferable payoutId db initiator = .ok payout) :
    payout.payoutId = payoutId := by
  rw [findTransferable] at h
  split at h
  · cases h
  · rename_i hfound
    split at h
    · cases h
    · split at h
      · cases h
      · cases h
        exact Table.find?_key hfound

/-- A statement of a call before its payout is in transfer. -/
theorem InitiationPhase.next_cases {payoutId companyUserId : String} {now : DateTime}
    {phase : InitiationPhase} {s' : TransferSystem} {next : Option InitiationPhase}
    (hphase : phase ≠ .initiated) (hnames : phase.Names payoutId)
    (h : phase.next payoutId companyUserId now s = .ok (s', next)) :
    s'.transferQueue = s.transferQueue ∧
      s'.db.merchantSettlementRequests = s.db.merchantSettlementRequests ∧
      ∃ phase', next = some phase' ∧ phase'.Names payoutId ∧
        ((phase' ≠ .initiated ∧ ∀ k, s'.db.PayoutOpen k → s.db.PayoutOpen k) ∨
          (phase' = .initiated ∧ ∀ k, s'.db.PayoutOpen k → s.db.PayoutOpen k ∨ k = payoutId)) := by
  have hread {α : Type} {r : Except AppError α} {f : α → InitiationPhase}
      (h : (r.map fun a => (s, some (f a))) = .ok (s', next))
      (hf : ∀ a, r = .ok a → f a ≠ .initiated ∧ (f a).Names payoutId) :
      s' = s ∧ ∃ phase', next = some phase' ∧ phase' ≠ .initiated ∧ phase'.Names payoutId := by
    cases r with
    | error err => cases h
    | ok a =>
      cases h
      exact ⟨rfl, f a, rfl, hf a rfl⟩
  cases phase with
  | called =>
    obtain ⟨rfl, phase', hnext, hne, hnames⟩ :=
      hread h fun _ _ => ⟨by simp, trivial⟩
    exact ⟨rfl, rfl, phase', hnext, hnames, .inl ⟨hne, fun _ hk => hk⟩⟩
  | authorized initiator =>
    obtain ⟨rfl, phase', hnext, hne, hnames⟩ := hread h fun payout hpayout =>
      ⟨by simp, CommissionService.findTransferable_payoutId hpayout⟩
    exact ⟨rfl, rfl, phase', hnext, hnames, .inl ⟨hne, fun _ hk => hk⟩⟩
  | found payout =>
    obtain ⟨rfl, phase', hnext, hne, hnames⟩ :=
      hread h fun _ _ => ⟨by simp, hnames⟩
    exact ⟨rfl, rfl, phase', hnext, hnames, .inl ⟨hne, fun _ hk => hk⟩⟩
  | targeted payout bank =>
    cases h
    obtain ⟨hsettlements, hcloses⟩ := restorePayout_closes payout s.db
    exact ⟨rfl, hsettlements, _, rfl, hnames, .inl ⟨by simp, hcloses⟩⟩
  | restored payout bank =>
    cases h
    have hpayout : payout.payoutId = payoutId := hnames
    exact ⟨rfl, rfl, _, rfl, trivial, .inr ⟨rfl, fun k hk => hpayout ▸ markInitiated_opens hk⟩⟩
  | initiated => exact absurd rfl hphase

namespace TransferCaller

/-- The call comes to rest, and nothing is written. -/
theorem rests_duly {c c' : TransferCaller} (hc : c.duty = .rests)
    (hc' : c'.duty = .rests ∧ c'.Names) : Duly duties s s (.caller c) (.caller c') := by
  refine ⟨?_, rfl, hc'.2⟩
  simp only [TransferProcess.duty, hc, hc'.1]
  exact .stay fun _ hk => hk

theorem duty_initiating {companyUserId payoutId : String} {phase : InitiationPhase}
    {rest : List String} {results : InitiationResults} (h : phase ≠ .initiated) :
    (initiating companyUserId payoutId phase rest results).duty = .rests := by
  cases phase with
  | initiated => exact absurd rfl h
  | _ => rfl

theorem initiating_duly {companyUserId payoutId : String} {phase : InitiationPhase}
    {rest : List String} {results : InitiationResults} (hnames : phase.Names payoutId)
    (hsees : SeesThrough duties m s
      (.caller (initiating companyUserId payoutId phase rest results))) :
    Duly duties s (perform m s (initiating companyUserId payoutId phase rest results)).1
      (.caller (initiating companyUserId payoutId phase rest results))
      (.caller (perform m s (initiating companyUserId payoutId phase rest results)).2) := by
  rw [perform]
  by_cases hphase : phase = .initiated
  · subst hphase
    obtain ⟨⟨-, hfails⟩, hfresh⟩ := hsees _ rfl
    rw [m.attempt_of_fails hfails, InitiationPhase.next, settle]
    obtain ⟨hduty, hnames'⟩ := callNext_rests companyUserId (results ++ [(payoutId, .ok ())]) rest
    refine ⟨?_, rfl, hnames'⟩
    simp only [TransferProcess.duty, hduty]
    exact .add (fun _ hk => hk) rfl hfresh
  · cases hnext : m.attempt (phase.next payoutId companyUserId m.now s) with
    | error err => exact rests_duly (duty_initiating hphase) (callNext_rests _ _ _)
    | ok r =>
      obtain ⟨s', next⟩ := r
      obtain ⟨hqueue, hsettlements, phase', rfl, hnames', hopens⟩ :=
        InitiationPhase.next_cases hphase hnames (m.attempt_eq_ok hnext)
      refine ⟨?_, hsettlements, hnames'⟩
      simp only [TransferProcess.duty, duty_initiating hphase, settle, hqueue]
      rcases hopens with ⟨hne, hclose⟩ | ⟨rfl, hopen⟩
      · rw [duty_initiating hne]
        exact .stay hclose
      · exact .commit hopen

/-- A call that dies has added the job that it owed. -/
theorem crash_duly {c : TransferCaller} (hcrashes : m.crashes = true)
    (hsees : (TransferProcess.caller c).SeesThrough duties m s) :
    Duly duties s s (.caller c) (.caller crashed) := by
  cases c with
  | initiating companyUserId payoutId phase rest results =>
    by_cases hphase : phase = .initiated
    · subst hphase
      have hruns := (hsees _ rfl).1.1
      rw [hcrashes] at hruns
      cases hruns
    · exact rests_duly (duty_initiating hphase) ⟨rfl, trivial⟩
  | _ => exact rests_duly rfl ⟨rfl, trivial⟩

theorem duly (c : TransferCaller) (hnames : c.Names)
    (hsees : (TransferProcess.caller c).SeesThrough duties m s) :
    Duly duties s (c.next m s).1 (.caller c) (.caller (c.next m s).2) := by
  cases hcrashes : m.crashes with
  | true =>
    rw [next, if_pos hcrashes]
    exact crash_duly hcrashes hsees
  | false =>
    rw [next, if_neg (by simp [hcrashes])]
    cases c with
    | bulk companyUserId payoutIds =>
      rw [perform]
      split
      · exact rests_duly rfl ⟨rfl, trivial⟩
      · split <;> exact rests_duly rfl ⟨rfl, trivial⟩
    | bulkAuthorized companyUserId uniqueIds initiator =>
      rw [perform]
      split
      · exact rests_duly rfl ⟨rfl, trivial⟩
      · exact rests_duly rfl (callNext_rests _ _ _)
    | returned | refused | crashed => exact rests_duly rfl ⟨rfl, trivial⟩
    | initiating companyUserId payoutId phase rest results => exact initiating_duly hnames hsees

end TransferCaller

namespace TransferExecution

/-- Only the listener of a last attempt owes anything. -/
theorem not_owes {e : TransferExecution}
    (h : ∀ job message, e = failed job message → job.attemptsMade < job.attempts) (k : String) :
    ¬ e.duty.Owes k := by
  rintro (howes | howes)
  all_goals
    cases e with
    | failed job message =>
      rw [duty, if_neg (Nat.not_le.mpr (h job message rfl))] at howes
      cases howes
    | loaded | created | ready =>
      rw [duty] at howes
      split at howes <;> cases howes
    | _ => cases howes

theorem throw_duly {e : TransferExecution} {job : Job TransferJobData} (message : String)
    (hjob : e.duty.job? = some job) (hholds : s.Holds job) :
    Duly duties s (throw s job message).1 (.worker e) (.worker (throw s job message).2) :=
  ⟨.fail (fun _ hk => hk) hjob hholds, rfl, trivial⟩

theorem loadTransfer_eq_ok {payoutId : String} {db : Database}
    {r : Option (CommissionPayoutRequest × MarketerBankAccount)}
    (h : TransferWorker.loadTransfer payoutId db = .ok r) :
    ∃ payout, db.commissionPayoutRequests.find? payoutId = some payout ∧
      (r = none → payout.status ≠ .transferInitiated) ∧ ∀ x ∈ r, x.1 = payout := by
  rw [TransferWorker.loadTransfer] at h
  split at h
  · cases h
  · rename_i payout hfound
    refine ⟨payout, hfound, ?_⟩
    split at h
    · rename_i hstatus
      cases h
      exact ⟨fun _ => hstatus, fun x hx => by cases hx⟩
    · split at h
      · cases h
      · cases h
        refine ⟨fun h => (by cases h), fun x hx => ?_⟩
        cases hx
        rfl

theorem initiateTransfer_frame {paystack : Paystack} {payout : CommissionPayoutRequest}
    {recipientCode code : Option String} {s s' : TransferSystem}
    (h : s.initiateTransfer paystack payout recipientCode = .ok (s', code)) :
    ∃ paystackTransfers, s' = { s with paystackTransfers } := by
  rw [TransferSystem.initiateTransfer] at h
  split at h
  · cases h
  · split at h <;> cases h <;> exact ⟨_, rfl⟩

theorem onFailed_closes (job : TransferWorker.FailedJob) (message : String) (now : DateTime)
    (db : Database) (r : Except AppError Database)
    (hr : ∀ db', r = .ok db' → TransferWorker.onFailed job message now db = .ok db') :
    (committed db id r).merchantSettlementRequests = db.merchantSettlementRequests ∧
      ∀ k, (committed db id r).PayoutOpen k → db.PayoutOpen k := by
  refine committed_rule (P := fun db' => db'.merchantSettlementRequests =
    db.merchantSettlementRequests ∧ ∀ k, db'.PayoutOpen k → db.PayoutOpen k) ⟨rfl, fun _ hk => hk⟩
    fun db' h => ?_
  rcases TransferWorker.onFailed_eq_ok (hr db' h) with ⟨-, rfl⟩ | ⟨payout, -, -, rfl⟩
  · exact ⟨rfl, fun _ hk => hk⟩
  · refine ⟨rfl, fun k hk => ?_⟩
    rw [id, payoutOpen_updatePayout (by simp)] at hk
    exact hk.2

/-- The listener of a last attempt takes the payout out of transfer. -/
theorem onFailed_exhausted {job : TransferWorker.FailedJob} (h : job.exhausted = true)
    (message : String) (now : DateTime) (db : Database) :
    ¬ (committed db id (TransferWorker.onFailed job message now db)).PayoutOpen job.payoutId := by
  intro hopen
  rw [TransferWorker.onFailed, if_pos h] at hopen
  split at hopen
  · rename_i hnone
    obtain ⟨p, hp, -⟩ := hopen
    cases hnone.symm.trans hp
  · rw [committed_ok, id, payoutOpen_updatePayout (by simp)] at hopen
    exact hopen.1 rfl

section statements
variable {job : Job TransferJobData} {payout : CommissionPayoutRequest}

theorem job?_ready (job : Job TransferJobData) (payout : CommissionPayoutRequest)
    (recipientCode : Option String) : (ready job payout recipientCode).duty.job? = some job := by
  rw [duty]
  split <;> rfl

theorem take_duly (hstalled : m.stalled = false) :
    Duly duties s (take m s).1 (.worker idle) (.worker (take m s).2) := by
  have hclose : ∀ k, s.db.PayoutOpen k → s.db.PayoutOpen k := fun _ hk => hk
  rw [take]
  split
  · exact ⟨.stay hclose, rfl, trivial⟩
  · rename_i hjob
    obtain ⟨id, -, hjob⟩ := Option.bind_eq_some_iff.mp hjob
    split
    · exact ⟨.stay hclose, rfl, trivial⟩
    · rw [hstalled, if_neg Bool.false_ne_true]
      exact ⟨.take hclose (Queue.mem_of_job? hjob).1, rfl, trivial⟩

/-- A payout that is not in transfer, or that has its code, is not open. -/
theorem taken_duly (hholds : s.Holds job) :
    Duly duties s ((taken job).perform m s).1 (.worker (taken job))
      (.worker ((taken job).perform m s).2) := by
  have hclose : ∀ k, s.db.PayoutOpen k → s.db.PayoutOpen k := fun _ hk => hk
  rw [perform]
  split
  · exact throw_duly _ rfl hholds
  · rename_i hload
    obtain ⟨payout, hfound, hstatus, -⟩ := loadTransfer_eq_ok (m.attempt_eq_ok hload)
    refine ⟨.leave hclose fun hopen => ?_, rfl, trivial⟩
    obtain ⟨p, hp, hinitiated, -⟩ := hopen
    rw [hfound] at hp
    cases hp
    exact hstatus rfl hinitiated
  · rename_i payout bank hload
    obtain ⟨p, hfound, -, hpayout⟩ := loadTransfer_eq_ok (m.attempt_eq_ok hload)
    have hpayout : payout = p := hpayout _ rfl
    subst hpayout
    refine ⟨?_, rfl, Table.find?_key hfound⟩
    simp only [TransferProcess.duty, duty]
    split
    · rename_i hcode
      refine .leave hclose fun hopen => ?_
      obtain ⟨p, hp, -, hnone⟩ := hopen
      rw [hfound] at hp
      cases hp
      rw [hnone] at hcode
      cases hcode
    · exact .stay hclose

theorem loaded_duly {bank : MarketerBankAccount} (hnames : payout.payoutId = job.data.payoutId)
    (hholds : s.Holds job) :
    Duly duties s ((loaded job payout bank).perform m s).1 (.worker (loaded job payout bank))
      (.worker ((loaded job payout bank).perform m s).2) := by
  have hclose : ∀ k, s.db.PayoutOpen k → s.db.PayoutOpen k := fun _ hk => hk
  rw [perform]
  split
  · exact ⟨.stay hclose, rfl, hnames⟩
  · split
    · exact throw_duly _ (job?_ready job payout none) hholds
    · exact ⟨.stay hclose, rfl, hnames⟩

theorem created_duly {bank : MarketerBankAccount} {recipientCode : Option String}
    (hnames : payout.payoutId = job.data.payoutId) (hholds : s.Holds job) :
    Duly duties s ((created job payout bank recipientCode).perform m s).1
      (.worker (created job payout bank recipientCode))
      (.worker ((created job payout bank recipientCode).perform m s).2) := by
  rw [perform]
  split
  · exact throw_duly _ (job?_ready job payout none) hholds
  · rename_i db hstored
    cases m.attempt_eq_ok hstored
    exact ⟨.stay fun k hk => payoutOpen_of_eq rfl hk, rfl, hnames⟩

theorem ready_duly {recipientCode : Option String}
    (hnames : payout.payoutId = job.data.payoutId) (hholds : s.Holds job) :
    Duly duties s ((ready job payout recipientCode).perform m s).1
      (.worker (ready job payout recipientCode))
      (.worker ((ready job payout recipientCode).perform m s).2) := by
  have hclose : ∀ k, s.db.PayoutOpen k → s.db.PayoutOpen k := fun _ hk => hk
  rw [perform]
  split
  · rename_i hcode
    refine ⟨?_, rfl, trivial⟩
    simp only [TransferProcess.duty, duty, if_pos hcode]
    exact .stay hclose
  · rename_i hcode
    split
    · exact throw_duly _ (job?_ready job payout recipientCode) hholds
    · rename_i s' code hrequest
      obtain ⟨transfers, rfl⟩ := initiateTransfer_frame hrequest
      refine ⟨?_, rfl, hnames⟩
      simp only [TransferProcess.duty, duty, if_neg hcode]
      exact .stay hclose

theorem accepted_duly {code : Option String} (hnames : payout.payoutId = job.data.payoutId)
    (hcode : code.isSome = true) (hholds : s.Holds job) :
    Duly duties s ((accepted job payout code).perform m s).1 (.worker (accepted job payout code))
      (.worker ((accepted job payout code).perform m s).2) := by
  rw [perform]
  split
  · exact throw_duly _ rfl hholds
  · rename_i db hrecord
    obtain ⟨hsettlements, hcloses, hclosed⟩ := recordTransferInit_closes (m.attempt_eq_ok hrecord)
    exact ⟨.leave hcloses (hnames ▸ hclosed hcode), hsettlements, trivial⟩

theorem failed_duly {message : String} (hfails : job.attempts ≤ job.attemptsMade → m.fails = none) :
    Duly duties s ((failed job message).perform m s).1 (.worker (failed job message))
      (.worker ((failed job message).perform m s).2) := by
  have hframe := onFailed_closes ⟨job.data.payoutId, job.attemptsMade, some job.attempts⟩
    message m.now s.db _ fun db' h => m.attempt_eq_ok h
  rw [perform]
  refine ⟨?_, hframe.1, trivial⟩
  by_cases hlast : job.attempts ≤ job.attemptsMade
  · simp only [TransferProcess.duty, duty, if_pos hlast]
    refine .report hframe.2 ?_
    rw [m.attempt_of_fails (hfails hlast)]
    exact onFailed_exhausted (by simpa [TransferWorker.FailedJob.exhausted] using hlast) _ _ _
  · simp only [TransferProcess.duty, duty, if_neg hlast]
    exact .stay hframe.2

end statements

/-- A job that dies is in the queue still, and only a listener may owe something then. -/
theorem crash_duly {e : TransferExecution} (hcrashes : m.crashes = true)
    (hsees : e.SeesThrough m s) : Duly duties s s (.worker e) (.worker idle) := by
  refine ⟨.drop (fun _ hk => hk) (not_owes fun job message he => ?_), rfl, trivial⟩
  subst he
  by_contra hlast
  have hruns := (hsees (Nat.not_lt.mp hlast)).1
  rw [hcrashes] at hruns
  cases hruns

theorem duly (e : TransferExecution) (hnames : e.Names) (hsees : e.SeesThrough m s) :
    Duly duties s (e.next m s).1 (.worker e) (.worker (e.next m s).2) := by
  cases hcrashes : m.crashes with
  | true =>
    rw [next, if_pos hcrashes]
    exact crash_duly hcrashes hsees
  | false =>
    rw [e.next_of_runs s hcrashes]
    cases e with
    | idle => exact take_duly hsees
    | taken job => exact taken_duly hsees
    | loaded job payout bank => exact loaded_duly hnames hsees
    | created job payout bank recipientCode => exact created_duly hnames hsees
    | ready job payout recipientCode => exact ready_duly hnames hsees
    | accepted job payout code => exact accepted_duly hnames hsees.1 hsees.2
    | returned job => exact ⟨.complete fun _ hk => hk, rfl, trivial⟩
    | failed job message => exact failed_duly fun hlast => (hsees hlast).2

end TransferExecution

theorem TransferProcess.duly {t : TransferProcess} (hnames : t.Names)
    (hsees : t.SeesThrough duties m s) : Duly duties s (t.next m s).1 t (t.next m s).2 := by
  cases t with
  | caller c => exact c.duly hnames hsees
  | worker e => exact e.duly hnames hsees

end duly
end InstalFlow
