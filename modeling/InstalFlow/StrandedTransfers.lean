import InstalFlow.LinkedSettlements
import InstalFlow.SettlementDuties
import Mathlib.Data.Fintype.Prod

/-!
# Stranded transfers

Transfer calls, sweeps, retries and the workers of both queues in any interleaving, with crashes
between any two statements. A payout or a settlement in transfer is not stranded as long as its
code is recorded, a job of it waits or runs, or the call that brought it there has yet to add that
job. The commit and the queue are two systems: what falls between them is never picked up again.
-/

namespace InstalFlow
open Relational Transition Jobs

inductive OutgoingThread
  | payout (process : TransferProcess)
  | settlement (process : SettlementProcess)

namespace OutgoingThread

def next (m : TransferMoment) (s : SettlementSystem) :
    OutgoingThread → SettlementSystem × OutgoingThread
  | payout t =>
    ({ s with toTransferSystem := (t.next m s.toTransferSystem).1 },
      payout (t.next m s.toTransferSystem).2)
  | settlement t => ((t.next m s).1, settlement (t.next m s).2)

def payoutDuty : OutgoingThread → Duty TransferJobData String
  | payout t => t.duty
  | settlement _ => .rests

def settlementDuty : OutgoingThread → Duty MerchantSettlementTransferJobData String
  | payout _ => .rests
  | settlement t => t.duty

def Names : OutgoingThread → Prop
  | payout t => t.Names
  | settlement t => t.Names

/-- The thread has yet to add the job of the payout, or runs one. -/
def WorksOnPayout (payoutId : String) : OutgoingThread → Prop
  | payout (.caller c) => c.duty = .adds payoutId
  | payout (.worker e) => ∃ job ∈ e.job?, job.data.payoutId = payoutId
  | settlement _ => False

def WorksOnSettlement (settlementId : String) : OutgoingThread → Prop
  | payout _ => False
  | settlement (.caller c) => c.duty = .adds settlementId
  | settlement (.worker e) => ∃ job ∈ e.job?, job.data.settlementId = settlementId

theorem worksOnPayout_of_owes {t : OutgoingThread} {k : String} (h : t.payoutDuty.Owes k) :
    t.WorksOnPayout k := by
  cases t with
  | settlement t => rcases h with h | h <;> cases h
  | payout t =>
    cases t with
    | caller c =>
      rcases h with h | h
      · exact h
      · cases c with
        | initiating companyUserId payoutId phase rest results => cases phase <;> cases h
        | _ => cases h
    | worker e =>
      by_contra hnone
      refine TransferExecution.not_owes (fun job message he => ?_) k h
      by_contra hlast
      subst he
      have hduty : (TransferExecution.failed job message).duty = .reports job.data.payoutId :=
        if_pos (Nat.not_lt.mp hlast)
      rcases h with h | h
      · cases hduty.symm.trans h
      · cases hduty.symm.trans h
        exact hnone ⟨job, rfl, rfl⟩

theorem worksOnSettlement_of_owes {t : OutgoingThread} {k : String}
    (h : t.settlementDuty.Owes k) : t.WorksOnSettlement k := by
  cases t with
  | payout t => rcases h with h | h <;> cases h
  | settlement t =>
    cases t with
    | caller c =>
      rcases h with h | h
      · exact h
      · cases c <;> cases h
    | worker e =>
      by_contra hnone
      refine SettlementExecution.not_owes (fun job message he => ?_) k h
      by_contra hlast
      subst he
      have hduty : (SettlementExecution.failed job message).duty =
          .reports job.data.settlementId := if_pos (Nat.not_lt.mp hlast)
      rcases h with h | h
      · cases hduty.symm.trans h
      · cases hduty.symm.trans h
        exact hnone ⟨job, rfl, rfl⟩

instance (payoutId : String) : (t : OutgoingThread) → Decidable (t.WorksOnPayout payoutId)
  | payout (.caller c) => inferInstanceAs (Decidable (c.duty = .adds payoutId))
  | payout (.worker e) => inferInstanceAs (Decidable (∃ job ∈ e.job?, _))
  | settlement _ => inferInstanceAs (Decidable False)

instance (settlementId : String) :
    (t : OutgoingThread) → Decidable (t.WorksOnSettlement settlementId)
  | payout _ => inferInstanceAs (Decidable False)
  | settlement (.caller c) => inferInstanceAs (Decidable (c.duty = .adds settlementId))
  | settlement (.worker e) => inferInstanceAs (Decidable (∃ job ∈ e.job?, _))

end OutgoingThread

abbrev OutgoingThreads (ι : Type) : Type := Config SettlementSystem ι OutgoingThread

namespace OutgoingThreads
variable {ι : Type} [DecidableEq ι]

def step (c : OutgoingThreads ι) (l : ι × TransferMoment) : OutgoingThreads ι :=
  Config.step (fun _ => OutgoingThread.next l.2) c l.1

/-- Nothing is lost at the step. -/
def SeesThrough (c : OutgoingThreads ι) (l : ι × TransferMoment) : Prop :=
  match c.threads l.1 with
  | .payout t => t.SeesThrough (fun i => (c.threads i).payoutDuty) l.2 c.shared.toTransferSystem
  | .settlement t => t.SeesThrough (fun i => (c.threads i).settlementDuty) l.2 c.shared

instance [Fintype ι] (c : OutgoingThreads ι) (l : ι × TransferMoment) :
    Decidable (c.SeesThrough l) :=
  match h : c.threads l.1 with
  | .payout t =>
    decidable_of_iff (t.SeesThrough (fun i => (c.threads i).payoutDuty) l.2
      c.shared.toTransferSystem) (by rw [SeesThrough, h])
  | .settlement t =>
    decidable_of_iff (t.SeesThrough (fun i => (c.threads i).settlementDuty) l.2 c.shared)
      (by rw [SeesThrough, h])

/-- A payout in transfer has its code recorded, may be initiated again, or has a job that waits or
runs, if the call that brought it there has added it yet. -/
def PayoutKept (c : OutgoingThreads ι) (p : CommissionPayoutRequest) : Prop :=
  p.status = .transferInitiated → p.transferCode.isSome = true ∨ p.status.initiatable = true ∨
    keyed.HasLive (fun data => data.payoutId = p.payoutId) c.shared.transferQueue ∨
    ∃ i, (c.threads i).WorksOnPayout p.payoutId

def SettlementKept (c : OutgoingThreads ι) (s : MerchantSettlementRequest) : Prop :=
  s.status = .transferInitiated → s.transferCode.isSome = true ∨
    (s.status.retryable = true ∨ MerchantSettlementService.eligible c.shared.db s = true) ∨
    keyed.HasLive (fun data => data.settlementId = s.settlementId) c.shared.settlementQueue ∨
    ∃ i, (c.threads i).WorksOnSettlement s.settlementId

structure NoneStranded (c : OutgoingThreads ι) : Prop where
  payouts : ∀ p ∈ c.shared.db.commissionPayoutRequests.rows, c.PayoutKept p
  settlements : ∀ s ∈ c.shared.db.merchantSettlementRequests.rows, c.SettlementKept s

instance [Fintype ι] (c : OutgoingThreads ι) (p : CommissionPayoutRequest) :
    Decidable (c.PayoutKept p) :=
  inferInstanceAs (Decidable (_ → _ ∨ _ ∨ _ ∨ ∃ _, _))

instance [Fintype ι] (c : OutgoingThreads ι) (s : MerchantSettlementRequest) :
    Decidable (c.SettlementKept s) :=
  inferInstanceAs (Decidable (_ → _ ∨ (_ ∨ _) ∨ _ ∨ ∃ _, _))

instance [Fintype ι] (c : OutgoingThreads ι) : Decidable c.NoneStranded :=
  decidable_of_iff ((∀ p ∈ c.shared.db.commissionPayoutRequests.rows, c.PayoutKept p) ∧
      ∀ s ∈ c.shared.db.merchantSettlementRequests.rows, c.SettlementKept s)
    ⟨fun h => ⟨h.1, h.2⟩, fun h => ⟨h.1, h.2⟩⟩

/-- Every open payout and settlement is attended to. -/
structure AllWatched (c : OutgoingThreads ι) : Prop where
  payouts : AllAttended keyed TransferJobData.payoutId c.shared.db.PayoutOpen
    c.shared.transferQueue fun i => (c.threads i).payoutDuty
  settlements : AllAttended keyed MerchantSettlementTransferJobData.settlementId
    c.shared.db.SettlementOpen c.shared.settlementQueue fun i => (c.threads i).settlementDuty
  names : ∀ i, (c.threads i).Names

variable {c : OutgoingThreads ι} {l : ι × TransferMoment}

omit [DecidableEq ι] in
theorem AllWatched.noneStranded (h : c.AllWatched) : c.NoneStranded where
  payouts p hp hstatus := by
    cases hcode : p.transferCode with
    | some code => exact .inl rfl
    | none =>
      refine .inr (.inr ?_)
      rcases h.payouts.attended p.payoutId ⟨p, Table.find?_of_mem hp, hstatus, hcode⟩ with
        ⟨j, hj, hlive, hkey, -⟩ | ⟨i, howes⟩
      · exact .inl ⟨j, hj, hlive, hkey⟩
      · exact .inr ⟨i, OutgoingThread.worksOnPayout_of_owes howes⟩
  settlements s hs hstatus := by
    cases hcode : s.transferCode with
    | some code => exact .inl rfl
    | none =>
      refine .inr (.inr ?_)
      rcases h.settlements.attended s.settlementId ⟨s, Table.find?_of_mem hs, hstatus, hcode⟩ with
        ⟨j, hj, hlive, hkey, -⟩ | ⟨i, howes⟩
      · exact .inl ⟨j, hj, hlive, hkey⟩
      · exact .inr ⟨i, OutgoingThread.worksOnSettlement_of_owes howes⟩

theorem AllWatched.step (h : c.AllWatched) (hsees : c.SeesThrough l) : (c.step l).AllWatched := by
  have hshared : (c.step l).shared = ((c.threads l.1).next l.2 c.shared).1 := rfl
  have hself : (c.step l).threads l.1 = ((c.threads l.1).next l.2 c.shared).2 :=
    Config.step_threads_self _ c l.1
  have hothers (j : ι) (hj : j ≠ l.1) : (c.step l).threads j = c.threads j :=
    Config.step_threads_ne _ c hj
  have hnames := h.names l.1
  have hkeepNames (hown : ((c.step l).threads l.1).Names) (i : ι) :
      ((c.step l).threads i).Names := by
    by_cases hi : i = l.1
    · rw [hi]
      exact hown
    · rw [hothers i hi]
      exact h.names i
  cases ht : c.threads l.1 with
  | payout t =>
    rw [SeesThrough, ht] at hsees
    rw [ht] at hnames hshared hself
    obtain ⟨hstep, hkept, hnames'⟩ := TransferProcess.duly hnames hsees
    refine ⟨?_, ?_, hkeepNames (hself ▸ hnames')⟩
    · rw [hshared]
      refine h.payouts.step (i := l.1) (by rw [ht]; exact hstep) (by rw [hself]; rfl) fun j hj => ?_
      rw [hothers j hj]
    · rw [hshared]
      refine h.settlements.step (i := l.1) (.stay fun k hk => settlementOpen_of_eq hkept hk)
        (by rw [hself, ht]; rfl) fun j hj => ?_
      rw [hothers j hj]
  | settlement t =>
    rw [SeesThrough, ht] at hsees
    rw [ht] at hnames hshared hself
    obtain ⟨hstep, hkept, hqueue, hnames'⟩ := SettlementProcess.duly hnames hsees
    refine ⟨?_, ?_, hkeepNames (hself ▸ hnames')⟩
    · rw [hshared]
      change AllAttended _ _ _ (t.next l.2 c.shared).1.transferQueue _
      rw [hqueue]
      refine h.payouts.step (i := l.1) (.stay fun k hk => payoutOpen_of_eq hkept hk)
        (by rw [hself, ht]; rfl) fun j hj => ?_
      rw [hothers j hj]
    · rw [hshared]
      refine h.settlements.step (i := l.1) (by rw [ht]; exact hstep) (by rw [hself]; rfl)
        fun j hj => ?_
      rw [hothers j hj]

end OutgoingThreads

inductive OutgoingOperation
  | initiateTransfer (payoutId companyUserId : String)
  | initiateBulkTransfer (payoutIds : List String) (companyUserId : String)
  | transferWorker
  | queueEligibleTransfers
  | retryTransfer (settlementId superAdminUserId : String)
  | settlementTransferWorker

def OutgoingOperation.thread : OutgoingOperation → OutgoingThread
  | initiateTransfer payoutId companyUserId =>
      .payout (.caller (.single payoutId companyUserId))
  | initiateBulkTransfer payoutIds companyUserId =>
      .payout (.caller (.bulk companyUserId payoutIds))
  | transferWorker => .payout (.worker .idle)
  | queueEligibleTransfers => .settlement (.caller .queueEligibleTransfers)
  | retryTransfer settlementId superAdminUserId =>
      .settlement (.caller (.retryTransfer settlementId superAdminUserId))
  | settlementTransferWorker => .settlement (.worker .idle)

/-- No operation owes anything when it starts. -/
theorem OutgoingOperation.thread_starts (operation : OutgoingOperation) :
    operation.thread.payoutDuty = .rests ∧ operation.thread.settlementDuty = .rests ∧
      operation.thread.Names ∧ (∀ k, ¬ operation.thread.WorksOnPayout k) ∧
      ∀ k, ¬ operation.thread.WorksOnSettlement k := by
  cases operation with
  | transferWorker =>
    refine ⟨rfl, rfl, trivial, fun k h => ?_, fun k h => h⟩
    obtain ⟨job, hjob, -⟩ := h
    cases hjob
  | settlementTransferWorker =>
    refine ⟨rfl, rfl, trivial, fun k h => h, fun k h => ?_⟩
    obtain ⟨job, hjob, -⟩ := h
    cases hjob
  | initiateTransfer | initiateBulkTransfer =>
    have hrests (k : String) : (Duty.rests : Duty TransferJobData String) ≠ .adds k :=
      fun h => by cases h
    exact ⟨rfl, rfl, trivial, hrests, fun k h => h⟩
  | queueEligibleTransfers | retryTransfer =>
    have hrests (k : String) :
        (Duty.rests : Duty MerchantSettlementTransferJobData String) ≠ .adds k :=
      fun h => by cases h
    exact ⟨rfl, rfl, trivial, fun k h => h, hrests⟩

namespace OutgoingThreads
variable {ι : Type}

def launch (operations : ι → OutgoingOperation) (s : SettlementSystem) : OutgoingThreads ι where
  shared := s
  threads i := (operations i).thread

theorem launch_allWatched {operations : ι → OutgoingOperation} {s : SettlementSystem}
    (h : (launch operations s).NoneStranded) : (launch operations s).AllWatched where
  payouts := by
    have hrests (i : ι) : ((launch operations s).threads i).payoutDuty = .rests :=
      (operations i).thread_starts.1
    refine ⟨fun k hk => ?_, fun i job hjob => ?_⟩
    · obtain ⟨p, hp, hstatus, hcode⟩ := hk
      have hid : p.payoutId = k := Table.find?_key hp
      rcases h.payouts p (Table.mem_of_find? hp) hstatus with
        hsome | hagain | ⟨j, hj, hlive, hdata⟩ | ⟨i, hworks⟩
      · rw [hcode] at hsome
        cases hsome
      · rw [hstatus] at hagain
        cases hagain
      · refine .job hj hlive (hdata.trans hid) fun i job hleaves => ?_
        rw [hrests i] at hleaves
        cases hleaves
      · exact absurd hworks ((operations i).thread_starts.2.2.2.1 _)
    · rw [hrests i] at hjob
      cases hjob
  settlements := by
    have hrests (i : ι) : ((launch operations s).threads i).settlementDuty = .rests :=
      (operations i).thread_starts.2.1
    refine ⟨fun k hk => ?_, fun i job hjob => ?_⟩
    · obtain ⟨x, hx, hstatus, hcode⟩ := hk
      have hid : x.settlementId = k := Table.find?_key hx
      rcases h.settlements x (Table.mem_of_find? hx) hstatus with
        hsome | (hagain | hagain) | ⟨j, hj, hlive, hdata⟩ | ⟨i, hworks⟩
      · rw [hcode] at hsome
        cases hsome
      · rw [hstatus] at hagain
        cases hagain
      · have happroved := (of_decide_eq_true hagain).1
        rw [hstatus] at happroved
        cases happroved
      · refine .job hj hlive (hdata.trans hid) fun i job hleaves => ?_
        rw [hrests i] at hleaves
        cases hleaves
      · exact absurd hworks ((operations i).thread_starts.2.2.2.2 _)
    · rw [hrests i] at hjob
      cases hjob
  names i := (operations i).thread_starts.2.2.1

end OutgoingThreads

/-- A call and its job, a sweep and its job: the first component tells settlements from payouts,
the second jobs from calls. -/
def callsAndJobs : Bool × Bool → OutgoingOperation
  | (false, false) => .initiateTransfer "p" "company"
  | (false, true) => .transferWorker
  | (true, false) => .queueEligibleTransfers
  | (true, true) => .settlementTransferWorker

/-- A payout and a settlement that are approved, each with an account. -/
def approvedTransfers : SettlementSystem where
  db :=
    { Transition.run Operation.apply soleCommission ((transferOut "p" 60).take 2) with
      companyBankAccounts := accountedMerchant.companyBankAccounts
      merchantSettlementRequests := ⟨[{
        settlementId := "due", companyId := "shop", amount := 100, status := .approved
        companyBankAccountId := some "giro" }], by decide⟩ }

def runs (thread : Bool × Bool) (n : ℕ) (m : TransferMoment) :
    List ((Bool × Bool) × TransferMoment) :=
  List.replicate n (thread, m)

end InstalFlow
