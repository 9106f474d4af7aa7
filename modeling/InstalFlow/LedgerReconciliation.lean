import InstalFlow.LedgerReplay

/-!
# The reconciliation job

The job reads all accounts, then all their entries, and then goes through the
accounts and overwrites every stored balance that differs from the one computed
from what it has read. Postings commit between its statements. Two windows
matter to an account: from the reading of the account to the reading of its
entries, and from there to the turn in which the account is written.
-/

namespace InstalFlow
open Relational Transition LedgerService ReconciliationWorker

/-- The job with what it has read and not yet gone through. -/
inductive ReconciliationJob
  | scheduled
  | accountsRead (accounts : List (ℕ × LedgerAccount))
  | correcting (accounts : List (ℕ × LedgerAccount × List JournalEntry))
deriving DecidableEq

structure Reconciliation where
  ledger : Ledger
  job : ReconciliationJob := .scheduled

inductive ReconciliationEvent
  | advance
  | commit (data : LedgerTransaction)

namespace ReconciliationWorker

def readAccounts (l : Ledger) : List (ℕ × LedgerAccount) :=
  l.accounts.zipIdx.map fun x => (x.2, x.1)

def readEntries (accounts : List (ℕ × LedgerAccount)) (l : Ledger) :
    List (ℕ × LedgerAccount × List JournalEntry) :=
  accounts.map fun x => (x.1, x.2, l.entriesOf x.1)

def setBalance (id : ℕ) (balance : ℚ) (l : Ledger) : Ledger :=
  { l with accounts := l.accounts.modify id fun a => { a with balance } }

/-- The turn of one account: an absolute write, and only on a discrepancy. -/
def correct (id : ℕ) (account : LedgerAccount) (entries : List JournalEntry) (l : Ledger) :
    Ledger :=
  if computeCanonicalBalance account.type entries ≠ account.balance then
    setBalance id (computeCanonicalBalance account.type entries) l
  else l

end ReconciliationWorker

namespace Reconciliation

def advance (s : Reconciliation) : Reconciliation :=
  match s.job with
  | .scheduled => { s with job := .accountsRead (readAccounts s.ledger) }
  | .accountsRead accounts => { s with job := .correcting (readEntries accounts s.ledger) }
  | .correcting [] => s
  | .correcting ((id, account, entries) :: rest) =>
      { ledger := correct id account entries s.ledger, job := .correcting rest }

def step (s : Reconciliation) : ReconciliationEvent → Reconciliation
  | .advance => s.advance
  | .commit data => { s with ledger := s.ledger.record data }

end Reconciliation

/-- What a call adds to the balance of an account of this name, company and type. -/
def movement (a : LedgerAccount) (data : LedgerTransaction) : ℚ :=
  if totalDebits data.entries = totalCredits data.entries then
    ((data.entries.filter
      (fun e => e.accountName = a.name ∧ data.companyId = a.companyId)).map
        (fun e => balanceChange a.type e.debit e.credit)).sum
  else 0

namespace ReconciliationJob

/-- The job has read the accounts, and the entries not yet. -/
def betweenReads : ReconciliationJob → Bool
  | accountsRead _ => true
  | _ => false

/-- The job has read everything, and the turn of the account is still to come. -/
def awaits (id : ℕ) : ReconciliationJob → Bool
  | correcting accounts => accounts.any (fun x => x.1 = id)
  | _ => false

end ReconciliationJob

namespace Reconciliation

/-- What the calls that commit while the job is in such a state add to the account. -/
def postedWhile (p : ReconciliationJob → Bool) (a : LedgerAccount) :
    Reconciliation → List ReconciliationEvent → ℚ
  | _, [] => 0
  | s, .advance :: es => postedWhile p a s.advance es
  | s, .commit data :: es =>
      (if p s.job then movement a data else 0) + postedWhile p a (s.step (.commit data)) es

end Reconciliation

namespace Ledger

/-- One account for each name and company, as the unique constraint has it. -/
def Distinct (l : Ledger) : Prop := (l.accounts.map (fun a => (a.name, a.companyId))).Nodup

structure WellFormed (l : Ledger) : Prop where
  referenced : l.Referenced
  distinct : l.Distinct

theorem wellFormed_empty : WellFormed {} := ⟨(by intro e he; cases he), List.nodup_nil⟩

theorem Distinct.eq {l : Ledger} (h : l.Distinct) {i j : ℕ} {a b : LedgerAccount}
    (hi : l.accounts[i]? = some a) (hj : l.accounts[j]? = some b) (hname : a.name = b.name)
    (hcompany : a.companyId = b.companyId) : i = j := by
  have hkey : (l.accounts.map (fun a => (a.name, a.companyId)))[i]? =
      (l.accounts.map (fun a => (a.name, a.companyId)))[j]? := by
    rw [List.getElem?_map, List.getElem?_map, hi, hj]
    simp [hname, hcompany]
  obtain ⟨hlt, -⟩ := List.getElem?_eq_some_iff.mp hi
  exact (List.getElem?_inj (by simpa using hlt) h).mp hkey

end Ledger

section commits
variable {reference : String} {companyId : Option String} {l : Ledger}

theorem distinct_postEntry (h : l.Distinct) (line : ℕ) (entry : LedgerEntry) :
    (postEntry reference companyId l line entry).Distinct := by
  obtain ⟨before, account, after, hname, hcompany, hold, hpost⟩ :=
    postEntry_spec reference companyId l line entry
  have hkeys : (postEntry reference companyId l line entry).accounts.map
      (fun a => (a.name, a.companyId)) =
        (before ++ account :: after).map (fun a => (a.name, a.companyId)) := by
    rw [hpost]
    simp [incrementBalance]
  rw [Ledger.Distinct, hkeys]
  rcases hold with hrows | ⟨hrows, rfl, -, hnew⟩
  · rw [← hrows]
    exact h
  · rw [List.map_append, ← hrows]
    refine List.nodup_append.mpr ⟨h, List.nodup_singleton _, ?_⟩
    intro k hk k' hk' hkk
    obtain ⟨a, ha, rfl⟩ := List.mem_map.mp hk
    rw [List.map_singleton, List.mem_singleton] at hk'
    have hmiss := hnew a (hrows ▸ ha)
    simp only [isAccount, decide_eq_false_iff_not] at hmiss
    rw [← hkk, Prod.mk.injEq, hname, hcompany] at hk'
    exact hmiss hk'

/-- A posting to a well-formed ledger reaches an account exactly when the entry names it. -/
theorem stored_postEntry (h : l.Distinct) (line : ℕ) (entry : LedgerEntry) {id : ℕ}
    {a : LedgerAccount} (ha : l.accounts[id]? = some a) :
    (postEntry reference companyId l line entry).accounts[id]? =
      some (incrementBalance a (if entry.accountName = a.name ∧ companyId = a.companyId then
        balanceChange a.type entry.debit entry.credit else 0)) := by
  obtain ⟨target, account, hto, -, hat⟩ := postEntry_at reference companyId l line entry
  rw [hat]
  by_cases hnamed : entry.accountName = a.name ∧ companyId = a.companyId
  · have htarget : l.accounts[target]? = some account := by
      rcases hto.stored with hstored | ⟨-, -, hnew⟩
      · exact hstored
      · have hmiss := hnew a (List.mem_of_getElem? ha)
        simp [isAccount, hnamed.1, hnamed.2] at hmiss
    have hid : id = target := h.eq ha htarget (hnamed.1.symm.trans hto.name.symm)
      (hnamed.2.symm.trans hto.companyId.symm)
    rw [hid, htarget] at ha
    cases ha
    rw [if_pos hid, if_pos hnamed]
  · have hid : id ≠ target := by
      intro hid
      rcases hto.stored with hstored | ⟨hnew, -⟩
      · rw [← hid, ha] at hstored
        cases hstored
        exact hnamed ⟨hto.name.symm, hto.companyId.symm⟩
      · obtain ⟨hlt, -⟩ := List.getElem?_eq_some_iff.mp ha
        omega
    rw [if_neg hid, if_neg hnamed, ha]
    simp [incrementBalance]

theorem stored_postEntries (h : l.Distinct) (line : ℕ) (entries : List LedgerEntry) {id : ℕ}
    {a : LedgerAccount} (ha : l.accounts[id]? = some a) :
    (postEntries reference companyId l line entries).accounts[id]? =
      some (incrementBalance a ((entries.filter
        (fun e => e.accountName = a.name ∧ companyId = a.companyId)).map
          (fun e => balanceChange a.type e.debit e.credit)).sum) := by
  induction entries generalizing l line a with
  | nil => simp [postEntries, ha, incrementBalance]
  | cons entry entries ih =>
    rw [postEntries, ih (distinct_postEntry h line entry) (line + 1)
      (stored_postEntry h line entry ha)]
    by_cases hnamed : entry.accountName = a.name ∧ companyId = a.companyId
    · simp only [incrementBalance, if_pos hnamed, List.filter_cons, decide_eq_true_eq,
        List.map_cons, List.sum_cons, add_assoc]
    · simp only [incrementBalance, if_neg hnamed, List.filter_cons, decide_eq_true_eq, add_zero]

end commits

namespace Ledger
variable {l : Ledger}

theorem WellFormed.record (h : l.WellFormed) (data : LedgerTransaction) :
    (l.record data).WellFormed := by
  by_cases hbalanced : totalDebits data.entries = totalCredits data.entries
  · rw [record_balanced l hbalanced]
    apply postEntries_rule fun m line entry (hm : m.WellFormed) =>
      ⟨referenced_postEntry hm.referenced line entry, distinct_postEntry hm.distinct line entry⟩
    exact ⟨by simpa [Referenced] using h.referenced, by simpa [Distinct] using h.distinct⟩
  · rw [record_unbalanced l hbalanced]
    exact h

theorem WellFormed.stored_record (h : l.WellFormed) (data : LedgerTransaction) {id : ℕ}
    {a : LedgerAccount} (ha : l.accounts[id]? = some a) :
    (l.record data).accounts[id]? = some (incrementBalance a (movement a data)) := by
  by_cases hbalanced : totalDebits data.entries = totalCredits data.entries
  · rw [record_balanced l hbalanced, movement, if_pos hbalanced]
    exact stored_postEntries (by simpa [Distinct] using h.distinct) 0 data.entries
      (by simpa using ha)
  · rw [record_unbalanced l hbalanced, movement, if_neg hbalanced, ha]
    simp [incrementBalance]

/-- Only the job's own writes change what an account has drifted. -/
theorem WellFormed.drift_record (h : l.WellFormed) (data : LedgerTransaction) (id : ℕ) :
    (l.record data).drift id = l.drift id := by
  by_cases hbalanced : totalDebits data.entries = totalCredits data.entries
  · rw [record_balanced l hbalanced]
    have hstep : ∀ m line entry, (m.Referenced ∧ m.drift id = l.drift id) →
        (postEntry data.reference data.companyId m line entry).Referenced ∧
          (postEntry data.reference data.companyId m line entry).drift id = l.drift id :=
      fun m line entry hm => ⟨referenced_postEntry hm.1 line entry, by
        rw [drift_postEntry hm.1, hm.2]⟩
    have hupsert : (upsertTransaction l data.reference data.description).Referenced ∧
        (upsertTransaction l data.reference data.description).drift id = l.drift id :=
      ⟨by simpa [Referenced] using h.referenced, by simp [drift, canonicalBalance, entriesOf]⟩
    exact (postEntries_rule hstep data.entries 0 hupsert).2
  · rw [record_unbalanced l hbalanced]

theorem canonicalBalance_eq_sub (l : Ledger) {id : ℕ} {a : LedgerAccount}
    (ha : l.accounts[id]? = some a) : l.canonicalBalance id a.type = a.balance - l.drift id := by
  rw [drift, ha]
  ring

theorem WellFormed.canonicalBalance_record (h : l.WellFormed) (data : LedgerTransaction) {id : ℕ}
    {a : LedgerAccount} (ha : l.accounts[id]? = some a) :
    (l.record data).canonicalBalance id a.type = l.canonicalBalance id a.type + movement a data := by
  have hafter := canonicalBalance_eq_sub (l.record data) (h.stored_record data ha)
  rw [h.drift_record] at hafter
  rw [canonicalBalance_eq_sub l ha]
  simp only [incrementBalance] at hafter
  rw [hafter]
  ring

end Ledger

/-- The account is stored at this position, with whatever balance. -/
def Ledger.Holds (l : Ledger) (id : ℕ) (a : LedgerAccount) : Prop :=
  ∃ balance, l.accounts[id]? = some { a with balance }

section turns
variable {l : Ledger} {id : ℕ} {a : LedgerAccount}

theorem Ledger.WellFormed.holds_record (h : l.WellFormed) (data : LedgerTransaction)
    (ha : l.Holds id a) : (l.record data).Holds id a := by
  obtain ⟨balance, hstored⟩ := ha
  have hafter := h.stored_record data hstored
  exact ⟨_, hafter⟩

theorem Ledger.WellFormed.canonicalBalance_record_of_holds (h : l.WellFormed)
    (data : LedgerTransaction) (ha : l.Holds id a) :
    (l.record data).canonicalBalance id a.type = l.canonicalBalance id a.type + movement a data := by
  obtain ⟨balance, hstored⟩ := ha
  have hafter := h.canonicalBalance_record data hstored
  exact hafter

variable {other : ℕ} {account : LedgerAccount} {entries : List JournalEntry}

theorem entries_correct : (correct other account entries l).entries = l.entries := by
  rw [correct]
  split <;> rfl

theorem canonicalBalance_correct (type : AccountType) :
    (correct other account entries l).canonicalBalance id type = l.canonicalBalance id type := by
  rw [Ledger.canonicalBalance, Ledger.entriesOf, entries_correct]
  rfl

theorem correct_ne (h : id ≠ other) :
    (correct other account entries l).accounts[id]? = l.accounts[id]? := by
  rw [correct]
  split
  · rw [setBalance, List.getElem?_modify]
    simp [Ne.symm h]
  · rfl

theorem correct_self (ha : l.Holds id a) :
    (correct id account entries l).Holds id a := by
  obtain ⟨balance, hstored⟩ := ha
  rw [correct]
  split
  · refine ⟨computeCanonicalBalance account.type entries, ?_⟩
    simp [setBalance, hstored]
  · exact ⟨balance, hstored⟩

theorem drift_correct_ne (h : id ≠ other) :
    (correct other account entries l).drift id = l.drift id := by
  rw [Ledger.drift, Ledger.drift, correct_ne h]
  cases l.accounts[id]? with
  | none => rfl
  | some b => simp only [canonicalBalance_correct]

/-- The turn of an account leaves it as far off as the entries the job has read are. -/
theorem drift_correct_self (ha : l.Holds id a) :
    (correct id account entries l).drift id =
      if computeCanonicalBalance account.type entries = account.balance then l.drift id
      else computeCanonicalBalance account.type entries - l.canonicalBalance id a.type := by
  obtain ⟨balance, hstored⟩ := ha
  by_cases heq : computeCanonicalBalance account.type entries = account.balance
  · rw [if_pos heq, correct, if_neg (not_not.mpr heq)]
  · have hafter : (correct id account entries l).accounts[id]? =
        some { a with balance := computeCanonicalBalance account.type entries } := by
      rw [correct, if_pos heq]
      simp [setBalance, hstored]
    rw [if_neg heq, Ledger.drift, hafter]
    simp only [canonicalBalance_correct]

theorem Ledger.WellFormed.correct (h : l.WellFormed) :
    (ReconciliationWorker.correct other account entries l).WellFormed := by
  rw [ReconciliationWorker.correct]
  split
  · constructor
    · intro e he
      have hlt := h.referenced e he
      simpa [setBalance] using hlt
    · have hkeys : (l.accounts.modify other (fun a =>
          { a with balance := computeCanonicalBalance account.type entries })).map
            (fun a => (a.name, a.companyId)) = l.accounts.map (fun a => (a.name, a.companyId)) := by
        apply List.ext_getElem?
        intro i
        rw [List.getElem?_map, List.getElem?_map, List.getElem?_modify]
        cases l.accounts[i]? with
        | none => rfl
        | some b => by_cases hi : other = i <;> simp [hi]
      rw [Ledger.Distinct, setBalance, hkeys]
      exact h.distinct
  · exact h

end turns

namespace Reconciliation
variable {s : Reconciliation} {id : ℕ} {a : LedgerAccount}

theorem postedWhile_eq_zero {p : ReconciliationJob → Bool} {K : ReconciliationJob → Prop}
    (hp : ∀ job, K job → p job = false)
    (hadvance : ∀ s : Reconciliation, K s.job → K s.advance.job) (hs : K s.job)
    (es : List ReconciliationEvent) : postedWhile p a s es = 0 := by
  induction es generalizing s with
  | nil => rfl
  | cons e es ih =>
    cases e with
    | advance => exact ih (hadvance s hs)
    | commit data =>
      have hrest : postedWhile p a (s.step (.commit data)) es = 0 := ih hs
      rw [postedWhile, hp _ hs, hrest]
      simp

/-- The turn of the account is over, or it was not read. -/
def Passed (id : ℕ) : ReconciliationJob → Prop
  | .scheduled => False
  | .accountsRead accounts => ∀ x ∈ accounts, x.1 ≠ id
  | .correcting accounts => ∀ x ∈ accounts, x.1 ≠ id

theorem passed_advance (s : Reconciliation) (h : Passed id s.job) : Passed id s.advance.job := by
  rw [advance]
  cases hjob : s.job with
  | scheduled =>
    rw [hjob] at h
    exact h.elim
  | accountsRead accounts =>
    rw [hjob] at h
    intro x hx
    obtain ⟨y, hy, rfl⟩ := List.mem_map.mp hx
    exact h y hy
  | correcting accounts =>
    cases accounts with
    | nil => exact h
    | cons x rest =>
      rw [hjob] at h
      exact fun y hy => h y (List.mem_cons_of_mem x hy)

theorem awaits_of_passed {job : ReconciliationJob} (h : Passed id job) : job.awaits id = false := by
  cases job with
  | scheduled => rfl
  | accountsRead accounts => rfl
  | correcting accounts =>
    simp only [ReconciliationJob.awaits, List.any_eq_false, decide_eq_true_eq]
    exact h

theorem wellFormed_step (h : s.ledger.WellFormed) (e : ReconciliationEvent) :
    (s.step e).ledger.WellFormed := by
  cases e with
  | commit data => exact h.record data
  | advance =>
    rw [step, advance]
    cases s.job with
    | scheduled => exact h
    | accountsRead accounts => exact h
    | correcting accounts =>
      cases accounts with
      | nil => exact h
      | cons x rest => exact h.correct

theorem holds_step (h : s.ledger.WellFormed) (ha : s.ledger.Holds id a)
    (e : ReconciliationEvent) : (s.step e).ledger.Holds id a := by
  cases e with
  | commit data => exact h.holds_record data ha
  | advance =>
    rw [step, advance]
    cases s.job with
    | scheduled => exact ha
    | accountsRead accounts => exact ha
    | correcting accounts =>
      cases accounts with
      | nil => exact ha
      | cons x rest =>
        by_cases hx : id = x.1
        · subst hx
          exact correct_self ha
        · obtain ⟨balance, hstored⟩ := ha
          exact ⟨balance, (correct_ne hx).trans hstored⟩

/-- An account that the job has left behind drifts no further. -/
theorem drift_of_passed (h : s.ledger.WellFormed) (hs : Passed id s.job)
    (es : List ReconciliationEvent) : (run step s es).ledger.drift id = s.ledger.drift id := by
  induction es generalizing s with
  | nil => rfl
  | cons e es ih =>
    rw [run_cons]
    cases e with
    | commit data =>
      have hrest := ih (s := s.step (.commit data)) (wellFormed_step h _) hs
      rw [hrest]
      exact h.drift_record data id
    | advance =>
      have hrest := ih (s := s.step .advance) (wellFormed_step h _) (passed_advance s hs)
      rw [hrest, step, advance]
      cases hjob : s.job with
      | scheduled => rfl
      | accountsRead accounts => rfl
      | correcting accounts =>
        cases accounts with
        | nil => rfl
        | cons x rest =>
          rw [hjob] at hs
          exact drift_correct_ne (Ne.symm (hs x List.mem_cons_self))

theorem awaits_of_mem {rest : List (ℕ × LedgerAccount × List JournalEntry)}
    {account : LedgerAccount} {entries : List JournalEntry} (h : (id, account, entries) ∈ rest) :
    (ReconciliationJob.correcting rest).awaits id = true := by
  simp only [ReconciliationJob.awaits, List.any_eq_true, decide_eq_true_eq]
  exact ⟨_, h, rfl⟩

theorem awaited_eq_zero (hs : Passed id s.job) (es : List ReconciliationEvent) :
    postedWhile (fun job => job.awaits id) a s es = 0 :=
  postedWhile_eq_zero (K := Passed id) (fun _ => awaits_of_passed) passed_advance hs es

/-- From the reading of the entries on: unless the job has found no discrepancy,
what is posted before the turn of the account is lost. -/
theorem drift_of_correcting {rest : List (ℕ × LedgerAccount × List JournalEntry)}
    {account : LedgerAccount} {entries : List JournalEntry} (h : s.ledger.WellFormed)
    (hs : s.job = .correcting rest) (hnodup : (rest.map Prod.fst).Nodup)
    (hmem : (id, account, entries) ∈ rest) (ha : s.ledger.Holds id a)
    (es : List ReconciliationEvent) (hdone : (run step s es).job = .correcting []) :
    (run step s es).ledger.drift id =
      if computeCanonicalBalance account.type entries = account.balance then s.ledger.drift id
      else computeCanonicalBalance account.type entries - s.ledger.canonicalBalance id a.type -
        postedWhile (fun job => job.awaits id) a s es := by
  induction es generalizing s rest with
  | nil =>
    rw [run_nil, hs] at hdone
    cases hdone
    cases hmem
  | cons e es ih =>
    rw [run_cons] at hdone ⊢
    cases e with
    | commit data =>
      have hrest := ih (s := s.step (.commit data)) (wellFormed_step h _) hs hnodup hmem
        (holds_step h ha _) hdone
      have hdrift : (s.step (.commit data)).ledger.drift id = s.ledger.drift id :=
        h.drift_record data id
      have hcanonical : (s.step (.commit data)).ledger.canonicalBalance id a.type =
          s.ledger.canonicalBalance id a.type + movement a data :=
        h.canonicalBalance_record_of_holds data ha
      rw [hrest, hdrift, hcanonical, postedWhile, hs, awaits_of_mem hmem, if_pos rfl]
      ring_nf
    | advance =>
      cases rest with
      | nil => cases hmem
      | cons x rest =>
        obtain ⟨other, account', entries'⟩ := x
        obtain ⟨hother, hrestNodup⟩ := List.nodup_cons.mp hnodup
        have hadvance : s.step .advance =
            { ledger := correct other account' entries' s.ledger, job := .correcting rest } := by
          rw [step, advance, hs]
        rw [postedWhile, show s.advance = s.step .advance from rfl]
        have hwell := wellFormed_step h .advance
        have hholds := holds_step h ha .advance
        rcases List.mem_cons.mp hmem with heq | hmem
        · cases heq
          -- the turn of the account itself
          have hpassed : Passed id (s.step .advance).job := by
            rw [hadvance]
            intro y hy hid
            exact hother (List.mem_map.mpr ⟨y, hy, hid⟩)
          rw [drift_of_passed hwell hpassed es, awaited_eq_zero hpassed es, hadvance, sub_zero]
          exact drift_correct_self ha
        · have hne : id ≠ other := by
            intro hid
            exact hother (List.mem_map.mpr ⟨_, hmem, hid⟩)
          have hrest := ih (s := s.step .advance) hwell (by rw [hadvance]) hrestNodup hmem hholds
            hdone
          rw [hrest, hadvance]
          simp only [drift_correct_ne hne, canonicalBalance_correct]

/-- Once the entries are read, nothing is posted between the two reads any more. -/
theorem betweenReads_eq_zero {rest : List (ℕ × LedgerAccount × List JournalEntry)}
    (hs : s.job = .correcting rest) (es : List ReconciliationEvent) :
    postedWhile ReconciliationJob.betweenReads a s es = 0 := by
  refine postedWhile_eq_zero (K := fun job => ∃ rest, job = .correcting rest) ?_ ?_ ⟨rest, hs⟩ es
  · intro job hjob
    obtain ⟨rest, rfl⟩ := hjob
    rfl
  · intro s hs
    obtain ⟨rest, hs⟩ := hs
    rw [advance, hs]
    cases rest with
    | nil => exact ⟨[], hs⟩
    | cons x rest => exact ⟨rest, rfl⟩

theorem drift_of_accountsRead {accounts : List (ℕ × LedgerAccount)} {account : LedgerAccount}
    (h : s.ledger.WellFormed) (hs : s.job = .accountsRead accounts)
    (hnodup : (accounts.map Prod.fst).Nodup) (hmem : (id, account) ∈ accounts)
    (htype : account.type = a.type) (ha : s.ledger.Holds id a) (es : List ReconciliationEvent)
    (hdone : (run step s es).job = .correcting []) :
    (run step s es).ledger.drift id =
      if s.ledger.canonicalBalance id a.type +
          postedWhile ReconciliationJob.betweenReads a s es = account.balance then
        s.ledger.drift id
      else -postedWhile (fun job => job.awaits id) a s es := by
  induction es generalizing s with
  | nil =>
    rw [run_nil, hs] at hdone
    cases hdone
  | cons e es ih =>
    rw [run_cons] at hdone ⊢
    cases e with
    | commit data =>
      have hrest := ih (s := s.step (.commit data)) (wellFormed_step h _) hs
        (holds_step h ha _) hdone
      have hdrift : (s.step (.commit data)).ledger.drift id = s.ledger.drift id :=
        h.drift_record data id
      have hcanonical : (s.step (.commit data)).ledger.canonicalBalance id a.type =
          s.ledger.canonicalBalance id a.type + movement a data :=
        h.canonicalBalance_record_of_holds data ha
      rw [hrest, hdrift, hcanonical, postedWhile, postedWhile, hs]
      simp only [ReconciliationJob.betweenReads, ReconciliationJob.awaits, if_true,
        Bool.false_eq_true, if_false, zero_add, add_assoc]
    | advance =>
      have hadvance : s.step .advance =
          { s with job := .correcting (readEntries accounts s.ledger) } := by
        rw [step, advance, hs]
      have hids : (readEntries accounts s.ledger).map Prod.fst = accounts.map Prod.fst := by
        simp [readEntries]
      have hread : (id, account, s.ledger.entriesOf id) ∈ readEntries accounts s.ledger :=
        List.mem_map.mpr ⟨_, hmem, rfl⟩
      have hrest := drift_of_correcting (s := s.step .advance) (wellFormed_step h _)
        (by rw [hadvance]) (by rwa [hids]) hread (holds_step h ha _) es hdone
      have hwindow : postedWhile ReconciliationJob.betweenReads a (s.step .advance) es = 0 :=
        betweenReads_eq_zero (by rw [hadvance]) es
      have hcomputed : computeCanonicalBalance account.type (s.ledger.entriesOf id) =
          s.ledger.canonicalBalance id a.type := by
        rw [htype, Ledger.canonicalBalance]
      have hkept : (s.step .advance).ledger = s.ledger := by rw [hadvance]
      rw [postedWhile, postedWhile, show s.advance = s.step .advance from rfl, hwindow, add_zero,
        hrest, hcomputed, hkept, sub_self, zero_sub]

theorem readAccounts_nodup (l : Ledger) : ((readAccounts l).map Prod.fst).Nodup := by
  have hids : (readAccounts l).map Prod.fst = List.range l.accounts.length := by
    rw [readAccounts, List.map_map, List.range_eq_range']
    exact List.zipIdx_map_snd 0 l.accounts
  rw [hids]
  exact List.nodup_range

theorem mem_readAccounts {l : Ledger} {account : LedgerAccount} :
    (id, account) ∈ readAccounts l ↔ l.accounts[id]? = some account := by
  simp [readAccounts, List.mem_zipIdx_iff_getElem?]

theorem holds_run (h : s.ledger.WellFormed) (ha : s.ledger.Holds id a)
    (es : List ReconciliationEvent) : (run step s es).ledger.Holds id a := by
  have hinv : (run step s es).ledger.WellFormed ∧ (run step s es).ledger.Holds id a :=
    run_invariant (I := fun s : Reconciliation => s.ledger.WellFormed ∧ s.ledger.Holds id a)
      (fun s e hI => ⟨wellFormed_step hI.1 e, holds_step hI.1 hI.2 e⟩) ⟨h, ha⟩ es
  exact hinv.2

/-- What a whole run of the job, from its start, leaves of an account's drift. -/
theorem drift_of_scheduled (h : s.ledger.WellFormed) (hs : s.job = .scheduled)
    (es : List ReconciliationEvent) (hdone : (run step s es).job = .correcting [])
    (ha : (run step s es).ledger.Holds id a) :
    (run step s es).ledger.drift id =
      if postedWhile ReconciliationJob.betweenReads a s es = s.ledger.drift id then
        s.ledger.drift id
      else -postedWhile (fun job => job.awaits id) a s es := by
  induction es generalizing s with
  | nil =>
    rw [run_nil, hs] at hdone
    cases hdone
  | cons e es ih =>
    rw [run_cons] at hdone ha ⊢
    cases e with
    | commit data =>
      have hrest := ih (s := s.step (.commit data)) (wellFormed_step h _) hs hdone ha
      have hdrift : (s.step (.commit data)).ledger.drift id = s.ledger.drift id :=
        h.drift_record data id
      rw [hrest, hdrift, postedWhile, postedWhile, hs]
      simp only [ReconciliationJob.betweenReads, ReconciliationJob.awaits, Bool.false_eq_true,
        if_false, zero_add]
    | advance =>
      have hadvance : s.step .advance = { s with job := .accountsRead (readAccounts s.ledger) } := by
        rw [step, advance, hs]
      have hkept : (s.step .advance).ledger = s.ledger := by rw [hadvance]
      have hjob : (s.step .advance).job = .accountsRead (readAccounts s.ledger) := by rw [hadvance]
      have hwell := wellFormed_step h .advance
      rw [postedWhile, postedWhile, show s.advance = s.step .advance from rfl]
      cases hread : s.ledger.accounts[id]? with
      | none =>
        have hpassed : Passed id (s.step .advance).job := by
          rw [hjob]
          intro x hx hid
          obtain ⟨i, account⟩ := x
          have hstored := mem_readAccounts.mp hx
          rw [show i = id from hid, hread] at hstored
          cases hstored
        have hzero : s.ledger.drift id = 0 := by rw [Ledger.drift, hread]
        rw [drift_of_passed hwell hpassed es, awaited_eq_zero hpassed es, hkept, hzero, neg_zero,
          ite_self]
      | some account =>
        have hstored : (s.step .advance).ledger.Holds id account := ⟨account.balance, by
          rw [hkept, hread]⟩
        obtain ⟨balance, hfinal⟩ := ha
        obtain ⟨balance', hfinal'⟩ := holds_run hwell hstored es
        rw [hfinal] at hfinal'
        -- an account keeps its name, type and company
        have haccount : account = { a with balance := account.balance } := by
          simp only [Option.some.injEq, LedgerAccount.mk.injEq] at hfinal'
          obtain ⟨hname, htype, -, hcompany⟩ := hfinal'
          rw [hname, htype, hcompany]
        have hholds : (s.step .advance).ledger.Holds id a :=
          ⟨account.balance, by rw [hkept, hread, ← haccount]⟩
        have htype : account.type = a.type := by rw [haccount]
        have hrest := drift_of_accountsRead hwell hjob (readAccounts_nodup s.ledger)
          (mem_readAccounts.mpr hread) htype hholds es hdone
        have hbalance : account.balance =
            s.ledger.canonicalBalance id a.type + s.ledger.drift id := by
          rw [Ledger.drift, hread, ← htype]
          ring
        rw [hrest, hkept, hbalance]
        simp only [add_right_inj]

/-- A settled transfer, on the accounts it credits and debits. -/
def settlement (reference : String) : LedgerTransaction where
  reference := reference
  description := "Settlement"
  companyId := some "acme"
  entries :=
    [{ accountName := "MERCHANT_PAYABLE", accountType := .liability, debit := 500 },
     { accountName := "BANK_SETTLED", accountType := .asset, credit := 500 }]

/-- One posting between the reads makes the job see a discrepancy, and a second
one, between the reading of the entries and the writes, is overwritten. -/
def overlappedRun : List ReconciliationEvent :=
  [.commit (settlement "a"), .advance, .commit (settlement "b"), .advance, .commit (settlement "c"),
    .advance, .advance]

/-- With nothing posted between the reads the job finds every account right. -/
def quietRun : List ReconciliationEvent :=
  [.commit (settlement "a"), .advance, .advance, .commit (settlement "c"), .advance, .advance]

end Reconciliation

end InstalFlow
