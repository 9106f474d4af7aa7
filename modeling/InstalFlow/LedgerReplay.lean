import InstalFlow.LedgerBalances

/-!
# Repeated postings

The unique reference keys the `FinancialTransaction` row alone: a second call
under a reference finds the row and posts its entries again. Two ledgers with
the same accounts and journal stay alike under any further postings, so what a
repetition leaves behind is decided by its entries.
-/

namespace InstalFlow
open Relational Transition LedgerService

namespace Ledger

def record (l : Ledger) (data : LedgerTransaction) : Ledger := LedgerCall.step l (.record data)

/-- The same accounts with their balances, and the same journal entries. -/
def SameBooks (l m : Ledger) : Prop := l.accounts = m.accounts ∧ l.entries = m.entries

theorem SameBooks.refl (l : Ledger) : SameBooks l l := ⟨rfl, rfl⟩

theorem SameBooks.trans {l m n : Ledger} (hlm : SameBooks l m) (hmn : SameBooks m n) :
    SameBooks l n := ⟨hlm.1.trans hmn.1, hlm.2.trans hmn.2⟩

theorem record_balanced {data : LedgerTransaction} (l : Ledger)
    (h : totalDebits data.entries = totalCredits data.entries) :
    l.record data = postEntries data.reference data.companyId
      (upsertTransaction l data.reference data.description) 0 data.entries :=
  LedgerCall.step_eq (if_neg (not_not.mpr h))

theorem record_unbalanced {data : LedgerTransaction} (l : Ledger)
    (h : totalDebits data.entries ≠ totalCredits data.entries) : l.record data = l := by
  obtain ⟨err, herr⟩ := LedgerCall.apply_unbalanced (.record data) l h
  exact LedgerCall.step_of_error herr

theorem SameBooks.postEntries {l m : Ledger} (h : SameBooks l m) (reference : String)
    (companyId : Option String) (line : ℕ) (entries : List LedgerEntry) :
    SameBooks (LedgerService.postEntries reference companyId l line entries)
      (LedgerService.postEntries reference companyId m line entries) := by
  induction entries generalizing l m line with
  | nil => exact h
  | cons entry entries ih =>
    apply ih
    simp only [SameBooks, postEntry, h.1, h.2]
    exact ⟨trivial, trivial⟩

theorem SameBooks.record {l m : Ledger} (h : SameBooks l m) (data : LedgerTransaction) :
    SameBooks (l.record data) (m.record data) := by
  by_cases hbalanced : totalDebits data.entries = totalCredits data.entries
  · rw [record_balanced l hbalanced, record_balanced m hbalanced]
    apply SameBooks.postEntries
    simpa [SameBooks] using h
  · rw [record_unbalanced l hbalanced, record_unbalanced m hbalanced]
    exact h

theorem SameBooks.run {l m : Ledger} (h : SameBooks l m) (calls : List LedgerTransaction) :
    SameBooks (Transition.run Ledger.record l calls) (Transition.run Ledger.record m calls) := by
  induction calls generalizing l m with
  | nil => exact h
  | cons data calls ih => exact ih (h.record data)

theorem record_nil {data : LedgerTransaction} (h : data.entries = []) (l : Ledger) :
    SameBooks (l.record data) l := by
  have hbalanced : totalDebits data.entries = totalCredits data.entries := by
    rw [h]
    rfl
  rw [record_balanced l hbalanced, h]
  exact ⟨upsertTransaction_accounts l _ _, upsertTransaction_entries l _ _⟩

theorem length_entries_postEntries (reference : String) (companyId : Option String)
    (l : Ledger) (line : ℕ) (entries : List LedgerEntry) :
    (LedgerService.postEntries reference companyId l line entries).entries.length =
      l.entries.length + entries.length := by
  induction entries generalizing l line with
  | nil => rfl
  | cons entry entries ih =>
    obtain ⟨e, -, -, he⟩ := postEntry_entries reference companyId l line entry
    rw [LedgerService.postEntries, ih, he, List.length_append, List.length_singleton,
      List.length_cons]
    omega

/-- The number of journal lines a call writes, whatever the ledger holds. -/
def written (data : LedgerTransaction) : ℕ :=
  if totalDebits data.entries = totalCredits data.entries then data.entries.length else 0

theorem length_entries_record (l : Ledger) (data : LedgerTransaction) :
    (l.record data).entries.length = l.entries.length + written data := by
  by_cases hbalanced : totalDebits data.entries = totalCredits data.entries
  · rw [record_balanced l hbalanced, length_entries_postEntries, written, if_pos hbalanced,
      upsertTransaction_entries]
  · rw [record_unbalanced l hbalanced, written, if_neg hbalanced, add_zero]

theorem length_entries_run (l : Ledger) (calls : List LedgerTransaction) :
    (Transition.run record l calls).entries.length =
      l.entries.length + (calls.map written).sum := by
  induction calls generalizing l with
  | nil => rfl
  | cons data calls ih =>
    rw [run_cons, ih, length_entries_record, List.map_cons, List.sum_cons, add_assoc]

/-- The repetitions account for the lines that a run without them lacks. -/
theorem sum_written_filter (data : LedgerTransaction) (calls : List LedgerTransaction) :
    (calls.map written).sum =
      ((calls.filter (fun call => call ≠ data)).map written).sum +
        calls.count data * written data := by
  induction calls with
  | nil => simp
  | cons call calls ih =>
    rw [List.map_cons, List.sum_cons, ih]
    by_cases hcall : call = data
    · subst hcall
      simp only [List.count_cons_self, ne_eq, not_true_eq_false, decide_false, Bool.false_eq_true,
        not_false_eq_true, List.filter_cons_of_neg]
      ring
    · have hcount : (call :: calls).count data = calls.count data := by
        simp [hcall]
      simp only [hcount, ne_eq, hcall, not_false_eq_true, decide_true, List.filter_cons_of_pos,
        List.map_cons, List.sum_cons]
      ring

theorem run_filter_of_nil {data : LedgerTransaction} (h : data.entries = []) (l : Ledger)
    (calls : List LedgerTransaction) : SameBooks (Transition.run record l calls)
      (Transition.run record l (calls.filter (fun call => call ≠ data))) := by
  induction calls generalizing l with
  | nil => exact SameBooks.refl l
  | cons call calls ih =>
    by_cases hcall : call = data
    · subst hcall
      simp only [ne_eq, not_true_eq_false, decide_false, Bool.false_eq_true, not_false_eq_true,
        List.filter_cons_of_neg, run_cons]
      exact ((record_nil h l).run calls).trans (ih l)
    · simp only [ne_eq, hcall, not_false_eq_true, decide_true, List.filter_cons_of_pos, run_cons]
      exact ih (l.record call)

end Ledger

open Ledger

/-- A balanced call can be repeated among other postings without leaving a trace
exactly when it posts nothing. -/
theorem repetition_leaves_no_trace_iff (l : Ledger) (data : LedgerTransaction)
    (hbalanced : totalDebits data.entries = totalCredits data.entries)
    (later : List LedgerTransaction) :
    SameBooks (run record l (data :: later))
        (run record l (data :: later.filter (fun call => call ≠ data))) ↔
      data.entries = [] ∨ data ∉ later := by
  constructor
  · intro h
    have hlength := congrArg List.length h.2
    rw [length_entries_run, length_entries_run, List.map_cons, List.map_cons, List.sum_cons,
      List.sum_cons, sum_written_filter data later] at hlength
    have hzero : later.count data * written data = 0 := by omega
    rw [written, if_pos hbalanced, mul_eq_zero, List.length_eq_zero_iff,
      List.count_eq_zero] at hzero
    exact hzero.symm
  · intro h
    rcases h with h | h
    · exact run_filter_of_nil h (l.record data) later
    · have hfilter : later.filter (fun call => call ≠ data) = later := by
        rw [List.filter_eq_self]
        intro call hcall
        have hne : call ≠ data := fun he => h (he ▸ hcall)
        simpa using hne
      rw [hfilter]
      exact SameBooks.refl _

/-- The posting of a `transfer.success` webhook. -/
def redeliveredPosting : LedgerTransaction where
  reference := "TRANSFER_SUCCESS_payout"
  description := "Transfer confirmed for marketer ada"
  companyId := some "acme"
  entries :=
    [{ accountName := "PAYOUTS_IN_TRANSIT", accountType := .asset, debit := 500 },
     { accountName := "BANK_SETTLED", accountType := .asset, credit := 500 }]

/-- Delivered twice with another posting in between, the transfer is posted twice. -/
theorem redelivered_posting_leaves_trace :
    ¬ SameBooks
      (run record {} [redeliveredPosting, { redeliveredPosting with reference := "other" },
        redeliveredPosting])
      (run record {} (redeliveredPosting ::
        [{ redeliveredPosting with reference := "other" }, redeliveredPosting].filter
          (fun call => call ≠ redeliveredPosting))) := by
  intro h
  have hlength := congrArg List.length h.2
  revert hlength
  decide +kernel

theorem empty_posting_leaves_no_trace :
    SameBooks
      (run record {} [{ redeliveredPosting with entries := [] }, redeliveredPosting,
        { redeliveredPosting with entries := [] }])
      (run record {} ({ redeliveredPosting with entries := [] } ::
        [redeliveredPosting, { redeliveredPosting with entries := [] }].filter
          (fun call => call ≠ { redeliveredPosting with entries := [] }))) :=
  (repetition_leaves_no_trace_iff {} { redeliveredPosting with entries := [] } (by decide)
    [redeliveredPosting, { redeliveredPosting with entries := [] }]).mpr (.inl rfl)

end InstalFlow
