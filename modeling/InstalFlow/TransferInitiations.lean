import InstalFlow.TransferJobs
import Mathlib.Data.Fintype.Basic

/-!
# One transfer, one posting

Any number of transfer calls and workers run in any interleaving, with crashes
and errors between any two statements. Paystack makes at most one transfer of a
payout, and once all calls and jobs of the payout have ended it should be posted
exactly as often as it was made. A job posts what Paystack has accepted whether
or not it is posted already, and a job that ends otherwise never looks for a
transfer that is not.
-/

namespace InstalFlow
open Relational Transition Jobs LedgerService

theorem TransferSystem.initiateTransfer_eq_ok {paystack : Paystack}
    {payout : CommissionPayoutRequest} {recipientCode code : Option String}
    {s s' : TransferSystem}
    (h : s.initiateTransfer paystack payout recipientCode = .ok (s', code)) :
    s'.db = s.db ∧ (s'.paystackTransfers.find? payout.payoutId).isSome ∧
      ∀ payoutId, payoutId ≠ payout.payoutId →
        s'.paystackTransfers.find? payoutId = s.paystackTransfers.find? payoutId := by
  rw [initiateTransfer] at h
  split at h
  · cases h
  · split at h
    · rename_i transfer hfound
      cases h
      exact ⟨rfl, by rw [hfound]; rfl, fun _ _ => rfl⟩
    · rename_i hnone
      cases h
      have hfind := Table.find?_getD_create (t := s.paystackTransfers)
        (r := ⟨payout.payoutId, payout.amount * 100, recipientCode, code⟩) hnone
      exact ⟨rfl, by rw [hfind, if_pos rfl]; rfl, fun payoutId hne => by rw [hfind, if_neg hne]⟩

/-- The ledger and Paystack's transfers are left alone. -/
structure TransferSystem.Keeps (s s' : TransferSystem) : Prop where
  ledger : s'.db.ledger = s.db.ledger
  paystackTransfers : s'.paystackTransfers = s.paystackTransfers

theorem TransferSystem.Keeps.rfl {s : TransferSystem} : s.Keeps s := ⟨Eq.refl _, Eq.refl _⟩

/-- What may be restored: the reservations and the payout's own row, which is approved then. -/
theorem restorePayout_frame (payout : CommissionPayoutRequest) (db : Database) :
    ∃ commissions commissionAllocations commissionPayoutRequests,
      CommissionService.restorePayout payout db =
        { db with commissions, commissionAllocations, commissionPayoutRequests } ∧
      (commissionPayoutRequests = db.commissionPayoutRequests ∨
        ∃ f hf, (∀ p, (f p).status = .approved) ∧
          commissionPayoutRequests = db.commissionPayoutRequests.update payout.payoutId f hf) := by
  rw [CommissionService.restorePayout]
  by_cases hfailed : payout.status = .transferFailed
  · obtain ⟨cs, as, hloop⟩ := Turn.reReserve.foldl_frame db
      (withStatus .released (db.allocationsOf payout.payoutId))
    simp only [Turn.body] at hloop
    simp only [hfailed, if_true, reduceCtorEq, if_false, CommissionService.reReserve, hloop]
    exact ⟨cs, as, _, rfl, .inr ⟨_, _, fun _ => rfl, rfl⟩⟩
  · simp only [hfailed, if_false]
    split
    · exact ⟨_, _, _, rfl, .inr ⟨_, _, fun _ => rfl, rfl⟩⟩
    · exact ⟨_, _, _, rfl, .inl rfl⟩

theorem InitiationPhase.next_keeps {payoutId companyUserId : String} {now : DateTime}
    {s s' : TransferSystem} {phase : InitiationPhase} {next : Option InitiationPhase}
    (h : phase.next payoutId companyUserId now s = .ok (s', next)) : s.Keeps s' := by
  have hmap {α : Type} {r : Except AppError α} {f : α → InitiationPhase}
      (h : (r.map fun a => (s, some (f a))) = .ok (s', next)) : s.Keeps s' := by
    cases r with
    | error err => cases h
    | ok a =>
      cases h
      exact .rfl
  cases phase with
  | called | authorized | found => exact hmap h
  | targeted payout bank =>
    cases h
    obtain ⟨cs, as, payouts, hrestored, -⟩ := restorePayout_frame payout s.db
    refine ⟨?_, rfl⟩
    rw [hrestored]
  | restored | initiated =>
    cases h
    exact ⟨rfl, rfl⟩

theorem TransferCaller.next_keeps (m : TransferMoment) (s : TransferSystem) (c : TransferCaller) :
    s.Keeps (c.next m s).1 := by
  have hsettle {companyUserId payoutId : String} {rest : List String} {results : InitiationResults}
      {r : Except AppError (TransferSystem × Option InitiationPhase)}
      (h : ∀ s' phase, r = .ok (s', phase) → s.Keeps s') :
      s.Keeps (settle companyUserId payoutId rest results s r).1 := by
    cases r with
    | error err => exact .rfl
    | ok a =>
      obtain ⟨s', phase⟩ := a
      cases phase <;> exact h s' _ rfl
  rw [next]
  split
  · exact .rfl
  cases c with
  | bulk companyUserId payoutIds =>
    rw [perform]
    split
    · exact .rfl
    · split <;> exact .rfl
  | bulkAuthorized companyUserId uniqueIds initiator =>
    rw [perform]
    split <;> exact .rfl
  | initiating companyUserId payoutId phase rest results =>
    refine hsettle fun s' next h => InitiationPhase.next_keeps (m.attempt_eq_ok h)
  | returned | refused | crashed => exact .rfl

namespace TransferExecution

/-- The payout whose transfer the statement posts. -/
def posts? (m : TransferMoment) : TransferExecution → Option CommissionPayoutRequest
  | accepted _ payout _ => if m.crashes ∨ m.fails.isSome then none else some payout
  | _ => none

/-- What one statement of a job can do: it leaves the ledger and Paystack's
transfers alone, asks for a transfer, or posts one. -/
theorem next_cases (m : TransferMoment) (s : TransferSystem) (e : TransferExecution) :
    (e.posts? m = none ∧ s.Keeps (e.next m s).1) ∨
      (∃ job payout recipientCode s' code, e = ready job payout recipientCode ∧
        s.initiateTransfer m.paystack payout recipientCode = .ok (s', code) ∧
        e.next m s = (s', accepted job payout code)) ∨
      ∃ job payout code db, e = accepted job payout code ∧ e.posts? m = some payout ∧
        recordTransaction (TransferWorker.initPosting payout) s.db.ledger = .ok db.ledger ∧
        e.next m s = ({ s with db }, returned job) := by
  cases hcrashes : m.crashes with
  | true =>
    refine .inl ⟨?_, ?_⟩
    · cases e <;> simp [posts?, hcrashes]
    · rw [next, if_pos hcrashes]
      exact .rfl
  | false =>
    rw [e.next_of_runs s hcrashes]
    cases e with
    | idle =>
      refine .inl ⟨rfl, ?_⟩
      rw [perform, take]
      split
      · exact .rfl
      · split
        · exact .rfl
        · split <;> exact ⟨rfl, rfl⟩
    | taken job =>
      refine .inl ⟨rfl, ?_⟩
      rw [perform]
      split <;> exact ⟨rfl, rfl⟩
    | loaded job payout bank =>
      refine .inl ⟨rfl, ?_⟩
      rw [perform]
      split
      · exact .rfl
      · split <;> exact ⟨rfl, rfl⟩
    | created job payout bank recipientCode =>
      refine .inl ⟨rfl, ?_⟩
      rw [perform, TransferMoment.attempt]
      cases m.fails <;> exact ⟨rfl, rfl⟩
    | ready job payout recipientCode =>
      rw [perform]
      split
      · exact .inl ⟨rfl, .rfl⟩
      · cases hrequest : s.initiateTransfer m.paystack payout recipientCode with
        | error message => exact .inl ⟨rfl, rfl, rfl⟩
        | ok r => exact .inr (.inl ⟨job, payout, recipientCode, r.1, r.2, rfl, hrequest, rfl⟩)
    | accepted job payout code =>
      rw [perform, TransferMoment.attempt]
      cases hfails : m.fails with
      | some message => exact .inl ⟨by simp [posts?, hfails], rfl, rfl⟩
      | none =>
        obtain ⟨db, hrecord, hledger⟩ :=
          TransferWorker.recordTransferInit_ledger payout code s.db
        refine .inr (.inr ⟨job, payout, code, db, rfl, ?_, hledger, ?_⟩)
        · simp [posts?, hcrashes, hfails]
        · rw [hrecord]
    | returned job => exact .inl ⟨rfl, rfl, rfl⟩
    | failed job message =>
      refine .inl ⟨rfl,
        committed_rule (P := fun db => db.ledger = s.db.ledger) rfl fun db h => ?_, rfl⟩
      rcases TransferWorker.onFailed_eq_ok (m.attempt_eq_ok h) with
        ⟨-, rfl⟩ | ⟨payout, -, -, rfl⟩ <;> rfl

/-- A job works on the payout it has read, and Paystack has made what it has accepted. -/
def Reads (s : TransferSystem) : TransferExecution → Prop
  | loaded job payout _ | created job payout _ _ | ready job payout _ =>
      payout.payoutId = job.data.payoutId
  | accepted job payout _ => payout.payoutId = job.data.payoutId ∧
      (s.paystackTransfers.find? payout.payoutId).isSome
  | _ => True

theorem Reads.mono {s s' : TransferSystem} {e : TransferExecution} (h : e.Reads s)
    (hs : ∀ id, (s.paystackTransfers.find? id).isSome → (s'.paystackTransfers.find? id).isSome) :
    e.Reads s' := by
  cases e with
  | accepted job payout code => exact ⟨h.1, hs _ h.2⟩
  | loaded | created | ready => exact h
  | _ => trivial

theorem loadTransfer_payoutId {payoutId : String} {db : Database}
    {payout : CommissionPayoutRequest} {bank : MarketerBankAccount}
    (h : TransferWorker.loadTransfer payoutId db = .ok (some (payout, bank))) :
    payout.payoutId = payoutId := by
  rw [TransferWorker.loadTransfer] at h
  split at h
  · cases h
  · rename_i hfound
    split at h
    · cases h
    · split at h
      · cases h
      · cases h
        exact Table.find?_key hfound

theorem reads_next {m : TransferMoment} {s : TransferSystem} {e : TransferExecution}
    (h : e.Reads s) : (e.next m s).2.Reads (e.next m s).1 := by
  cases hcrashes : m.crashes with
  | true =>
    rw [next, if_pos hcrashes]
    trivial
  | false =>
    rw [e.next_of_runs s hcrashes]
    cases e with
    | idle =>
      rw [perform, take]
      split
      · trivial
      · split
        · trivial
        · split <;> trivial
    | taken job =>
      rw [perform]
      split
      · trivial
      · trivial
      · rename_i hload
        exact loadTransfer_payoutId (m.attempt_eq_ok hload)
    | loaded job payout bank =>
      rw [perform]
      split
      · exact h
      · split
        · trivial
        · exact h
    | created job payout bank recipientCode =>
      rw [perform]
      split
      · trivial
      · exact h
    | ready job payout recipientCode =>
      rw [perform]
      split
      · trivial
      · split
        · trivial
        · rename_i hrequest
          exact ⟨h, (TransferSystem.initiateTransfer_eq_ok hrequest).2.1⟩
    | accepted job payout code =>
      rw [perform]
      split <;> trivial
    | returned | failed => trivial

end TransferExecution

inductive TransferProcess
  | caller (caller : TransferCaller)
  | worker (execution : TransferExecution)

namespace TransferProcess

def next (m : TransferMoment) (s : TransferSystem) : TransferProcess → TransferSystem × TransferProcess
  | caller c => ((c.next m s).1, caller (c.next m s).2)
  | worker e => ((e.next m s).1, worker (e.next m s).2)

/-- The payouts on which the thread is still at work. -/
def pending : TransferProcess → List String
  | caller c => c.pending
  | worker e => (e.job?.map fun job => job.data.payoutId).toList

def posts? (m : TransferMoment) : TransferProcess → Option CommissionPayoutRequest
  | caller _ => none
  | worker e => e.posts? m

def Reads (s : TransferSystem) : TransferProcess → Prop
  | caller _ => True
  | worker e => e.Reads s

section next
variable {m : TransferMoment} {s : TransferSystem} {t : TransferProcess}

theorem next_cases (h : t.Reads s) :
    (t.posts? m = none ∧ s.Keeps (t.next m s).1) ∨
      (∃ payout recipientCode code, t.posts? m = none ∧
        payout.payoutId ∈ (t.next m s).2.pending ∧
        s.initiateTransfer m.paystack payout recipientCode = .ok ((t.next m s).1, code)) ∨
      ∃ payout, t.posts? m = some payout ∧ payout.payoutId ∈ (t.next m s).2.pending ∧
        (s.paystackTransfers.find? payout.payoutId).isSome ∧
        (t.next m s).1.paystackTransfers = s.paystackTransfers ∧
        recordTransaction (TransferWorker.initPosting payout) s.db.ledger =
          .ok (t.next m s).1.db.ledger := by
  cases t with
  | caller c => exact .inl ⟨rfl, c.next_keeps m s⟩
  | worker e =>
    rcases e.next_cases m s with hkeeps |
      ⟨job, payout, recipientCode, s', code, rfl, hrequest, hnext⟩ | ⟨job, payout, code, db, rfl, hposts, hrecord, hnext⟩
    · exact .inl hkeeps
    · have hpending : payout.payoutId ∈
          ((worker (.ready job payout recipientCode)).next m s).2.pending := by
        simp [next, hnext, pending, TransferExecution.job?, show payout.payoutId = _ from h]
      refine .inr (.inl ⟨payout, recipientCode, code, rfl, hpending, ?_⟩)
      rw [next, hnext]
      exact hrequest
    · have hpending : payout.payoutId ∈ ((worker (.accepted job payout code)).next m s).2.pending := by
        simp [next, hnext, pending, TransferExecution.job?, show payout.payoutId = _ from h.1]
      refine .inr (.inr ⟨payout, hposts, hpending, h.2, ?_, ?_⟩)
      · rw [next, hnext]
      · rw [next, hnext]
        exact hrecord

theorem found_next (h : t.Reads s) {id : String} (hfound : (s.paystackTransfers.find? id).isSome) :
    ((t.next m s).1.paystackTransfers.find? id).isSome := by
  rcases next_cases (m := m) h with ⟨-, hkeeps⟩ | ⟨payout, recipientCode, code, -, -, hrequest⟩ |
    ⟨payout, -, -, -, htransfers, -⟩
  · rw [hkeeps.paystackTransfers]
    exact hfound
  · obtain ⟨-, hmade, hothers⟩ := TransferSystem.initiateTransfer_eq_ok hrequest
    by_cases hid : id = payout.payoutId
    · rw [hid]
      exact hmade
    · rw [hothers id hid]
      exact hfound
  · rw [htransfers]
    exact hfound

/-- A thread that leaves the payout alone afterwards has made no transfer for it. -/
theorem find?_next (h : t.Reads s) {id : String} (hid : id ∉ (t.next m s).2.pending) :
    (t.next m s).1.paystackTransfers.find? id = s.paystackTransfers.find? id := by
  rcases next_cases (m := m) h with ⟨-, hkeeps⟩ |
    ⟨payout, recipientCode, code, -, hpending, hrequest⟩ | ⟨payout, -, -, -, htransfers, -⟩
  · rw [hkeeps.paystackTransfers]
  · have hne : id ≠ payout.payoutId := by
      rintro rfl
      exact hid hpending
    exact (TransferSystem.initiateTransfer_eq_ok hrequest).2.2 id hne
  · rw [htransfers]

theorem ledger_next (h : t.Reads s) (hposts : t.posts? m = none) :
    (t.next m s).1.db.ledger = s.db.ledger := by
  rcases next_cases (m := m) h with ⟨-, hkeeps⟩ | ⟨payout, recipientCode, code, -, -, hrequest⟩ |
    ⟨payout, hsome, -⟩
  · exact hkeeps.ledger
  · rw [(TransferSystem.initiateTransfer_eq_ok hrequest).1]
  · rw [hposts] at hsome
    cases hsome

theorem posts_next (h : t.Reads s) {payout : CommissionPayoutRequest}
    (hposts : t.posts? m = some payout) :
    payout.payoutId ∈ (t.next m s).2.pending ∧
      (s.paystackTransfers.find? payout.payoutId).isSome ∧
      recordTransaction (TransferWorker.initPosting payout) s.db.ledger =
        .ok (t.next m s).1.db.ledger := by
  rcases next_cases (m := m) h with ⟨hnone, -⟩ | ⟨payout', recipientCode, code, hnone, -⟩ |
    ⟨payout', hsome, hpending, hmade, -, hrecord⟩
  · rw [hposts] at hnone
    cases hnone
  · rw [hposts] at hnone
    cases hnone
  · rw [hposts] at hsome
    cases hsome
    exact ⟨hpending, hmade, hrecord⟩

end next
end TransferProcess

abbrev TransferProcesses (ι : Type) : Type := Config TransferSystem ι TransferProcess

namespace TransferSystem

/-- How often the initiation of the payout's transfer is posted. -/
def posted (payoutId : String) (s : TransferSystem) : ℕ :=
  s.db.ledger.postings ("TRANSFER_INIT_" ++ payoutId)

/-- How many transfers Paystack has made for the payout. -/
def made (payoutId : String) (s : TransferSystem) : ℕ :=
  s.paystackTransfers.rows.countP (fun transfer => transfer.reference = payoutId)

theorem made_eq (payoutId : String) (s : TransferSystem) :
    s.made payoutId = if (s.paystackTransfers.find? payoutId).isSome then 1 else 0 :=
  s.paystackTransfers.countP_key payoutId

end TransferSystem

namespace TransferProcesses
variable {ι : Type} [DecidableEq ι]

/-- The thread named by the label executes its next statement, or dies before it. -/
def step (c : TransferProcesses ι) (l : ι × TransferMoment) : TransferProcesses ι :=
  Config.step (fun _ => TransferProcess.next l.2) c l.1

/-- All calls and jobs of the payout have ended. -/
def Finished (payoutId : String) (c : TransferProcesses ι) : Prop :=
  (∀ i, payoutId ∉ (c.threads i).pending) ∧
    ¬ keyed.HasLive (fun data => data.payoutId = payoutId) c.shared.transferQueue

instance [Fintype ι] (payoutId : String) (c : TransferProcesses ι) :
    Decidable (c.Finished payoutId) :=
  inferInstanceAs (Decidable ((∀ _, _) ∧ ¬ _))

structure PostedOnce (payoutId : String) (c : TransferProcesses ι) : Prop where
  posted_le : c.shared.posted payoutId ≤ c.shared.made payoutId
  made_le : c.Finished payoutId → c.shared.made payoutId ≤ c.shared.posted payoutId

omit [DecidableEq ι] in
theorem PostedOnce.posted_eq {payoutId : String} {c : TransferProcesses ι}
    (h : c.PostedOnce payoutId) (hfinished : c.Finished payoutId) :
    c.shared.posted payoutId = c.shared.made payoutId :=
  le_antisymm h.posted_le (h.made_le hfinished)

/-- A transfer is posted only when none of the payout is, and the last call or
job of the payout does not end while a transfer is not posted. -/
def PostsOnce (payoutId : String) (c : TransferProcesses ι) (l : ι × TransferMoment) : Prop :=
  (∀ payout ∈ (c.threads l.1).posts? l.2, payout.payoutId = payoutId →
    c.shared.posted payoutId = 0) ∧
  (c.shared.posted payoutId < c.shared.made payoutId → ¬ (c.step l).Finished payoutId)

instance [Fintype ι] (payoutId : String) (c : TransferProcesses ι) (l : ι × TransferMoment) :
    Decidable (c.PostsOnce payoutId l) :=
  inferInstanceAs (Decidable ((∀ _ ∈ (c.threads l.1).posts? l.2, _) ∧ (_ → ¬ _)))

variable {payoutId : String} {c : TransferProcesses ι}

theorem reads_step (h : ∀ i, (c.threads i).Reads c.shared) (l : ι × TransferMoment) :
    ∀ i, ((c.step l).threads i).Reads (c.step l).shared := by
  refine Config.step_local_invariant (J := fun s _ (t : TransferProcess) => t.Reads s)
    (fun s t ht => ?_) (fun s t j u _ hu ht => ?_) h
  · cases t with
    | caller => trivial
    | worker e => exact TransferExecution.reads_next ht
  · cases u with
    | caller => trivial
    | worker e => exact hu.mono fun id => TransferProcess.found_next ht

theorem made_step_of_finished (h : ∀ i, (c.threads i).Reads c.shared) (l : ι × TransferMoment)
    (hfinished : (c.step l).Finished payoutId) :
    (c.step l).shared.made payoutId = c.shared.made payoutId := by
  have hpending := hfinished.1 l.1
  rw [step, Config.step_threads_self] at hpending
  rw [TransferSystem.made_eq, TransferSystem.made_eq, step, Config.step_shared,
    TransferProcess.find?_next (h l.1) hpending]

theorem made_le_step (h : ∀ i, (c.threads i).Reads c.shared) (l : ι × TransferMoment) :
    c.shared.made payoutId ≤ (c.step l).shared.made payoutId := by
  rw [TransferSystem.made_eq, TransferSystem.made_eq]
  by_cases hfound : (c.shared.paystackTransfers.find? payoutId).isSome
  · have hafter : ((c.step l).shared.paystackTransfers.find? payoutId).isSome :=
      TransferProcess.found_next (h l.1) hfound
    rw [if_pos hfound, if_pos hafter]
  · rw [if_neg hfound]
    exact Nat.zero_le _

/-- A step that posts nothing for the payout keeps it posted once unless it ends
the work on the payout. -/
theorem postedOnce_step_of_posted (h : ∀ i, (c.threads i).Reads c.shared)
    (hc : c.PostedOnce payoutId) {l : ι × TransferMoment}
    (hposted : (c.step l).shared.posted payoutId = c.shared.posted payoutId) :
    (c.step l).PostedOnce payoutId ↔
      (c.shared.posted payoutId < c.shared.made payoutId → ¬ (c.step l).Finished payoutId) := by
  constructor
  · intro hstep hlt hfinished
    have hle := hstep.made_le hfinished
    rw [hposted, made_step_of_finished h l hfinished] at hle
    omega
  · intro hkept
    refine ⟨?_, fun hfinished => ?_⟩
    · rw [hposted]
      exact hc.posted_le.trans (made_le_step h l)
    · rw [hposted, made_step_of_finished h l hfinished]
      by_contra hlt
      exact hkept (by omega) hfinished

theorem postedOnce_step_iff (h : ∀ i, (c.threads i).Reads c.shared) (hc : c.PostedOnce payoutId)
    (l : ι × TransferMoment) : (c.step l).PostedOnce payoutId ↔ c.PostsOnce payoutId l := by
  cases hposts : (c.threads l.1).posts? l.2 with
  | none =>
    have hledger : (c.step l).shared.db.ledger = c.shared.db.ledger :=
      TransferProcess.ledger_next (h l.1) hposts
    rw [postedOnce_step_of_posted h hc (by rw [TransferSystem.posted, hledger]; rfl), PostsOnce,
      hposts]
    simp
  | some payout =>
    obtain ⟨hpending, hmade, hrecord⟩ := TransferProcess.posts_next (h l.1) hposts
    have hposted : (c.step l).shared.posted payoutId =
        c.shared.posted payoutId + if payout.payoutId = payoutId then 1 else 0 := by
      rw [TransferSystem.posted, step, Config.step_shared,
        postings_recordTransaction hrecord (by simp [TransferWorker.initPosting, transferPosting])]
      simp only [TransferWorker.initPosting, transferPosting, String.append_right_inj]
      rfl
    rw [PostsOnce, hposts]
    simp only [Option.mem_some_iff, forall_eq']
    by_cases hid : payout.payoutId = payoutId
    · subst hid
      have hbusy : ¬ (c.step l).Finished payout.payoutId := by
        intro hfinished
        have hnone := hfinished.1 l.1
        rw [step, Config.step_threads_self] at hnone
        exact hnone hpending
      have hone : c.shared.made payout.payoutId = 1 := by
        rw [TransferSystem.made_eq, if_pos hmade]
      have hafter : ((c.step l).shared.paystackTransfers.find? payout.payoutId).isSome :=
        TransferProcess.found_next (h l.1) hmade
      have hstill : (c.step l).shared.made payout.payoutId = 1 := by
        rw [TransferSystem.made_eq, if_pos hafter]
      rw [if_pos rfl] at hposted
      constructor
      · intro hstep
        have hle := hstep.posted_le
        exact ⟨fun _ => by omega, fun _ => hbusy⟩
      · intro hfirst
        have hzero := hfirst.1 rfl
        exact ⟨by omega, fun hfinished => absurd hfinished hbusy⟩
    · rw [if_neg hid, add_zero] at hposted
      rw [postedOnce_step_of_posted h hc hposted]
      simp [hid]

end TransferProcesses

def twoCallers : Fin 3 → TransferProcess
  | 0 | 1 => .caller (.single "p" "company")
  | 2 => .worker .idle

theorem twoCallers_idle (i : Fin 3) (e : TransferExecution) (h : twoCallers i = .worker e) :
    e = .idle := by
  match i with
  | 0 | 1 => cases h
  | 2 => exact (TransferProcess.worker.inj h).symm

/-- Two callers and a worker, and a payout of 60 that is approved. -/
def approvedForTransfer : TransferProcesses (Fin 3) where
  shared := { db := Transition.run Operation.apply soleCommission ((transferOut "p" 60).take 2) }
  threads := twoCallers

def statements (n : ℕ) (i : Fin 3) (m : TransferMoment) : List (Fin 3 × TransferMoment) :=
  List.replicate n (i, m)

def acceptingAt (now : DateTime) (jobId : Option String := none) : TransferMoment :=
  { now, jobId, paystack := acceptingPaystack }

/-- Paystack refuses a reference that it knows. -/
def duplicateAt (now : DateTime) (jobId : Option String := none) : TransferMoment where
  now := now
  jobId := jobId
  paystack :=
    { acceptingPaystack with initiateTransfer _ _ _ _ := .error "Duplicate transfer reference" }

def overlappingCalls : List (Fin 3 × TransferMoment) :=
  statements 2 1 (acceptingAt 2) ++ statements 6 0 (acceptingAt 1) ++
    statements 7 2 (acceptingAt 1 (some "transfer:p:1")) ++ statements 4 1 (acceptingAt 2) ++
    statements 6 2 (acceptingAt 2 (some "transfer:p:2"))

def lostAnswer : List (Fin 3 × TransferMoment) :=
  statements 6 0 (acceptingAt 1) ++ statements 3 1 (acceptingAt 1) ++
    statements 5 2 (acceptingAt 2 (some "transfer:p:1")) ++
    statements 1 2 { acceptingAt 3 with crashes := true } ++
    statements 15 2 (duplicateAt 4 (some "transfer:p:1"))

end InstalFlow
