import InstalFlow.Accounting.Journal
import InstalFlow.LedgerService
import InstalFlow.Transition.Run
import Mathlib.Data.List.FinRange

/-!
# Stored and canonical balances

The ledger keeps the balance of an account twice: as the column that every
posting increments, and as the sum over its journal entries that
`computeCanonicalBalance` of the reconciliation worker takes. No posting changes
the drift of one from the other, and no posting unbalances a company, so the
ledgers that calls of `recordTransaction` build from an empty one are the books
of a double-entry journal.
-/

namespace InstalFlow
open Relational Accounting Transition LedgerService

def AccountType.side : AccountType → Side
  | .asset | .expense => .debit
  | .liability | .equity | .revenue => .credit

def JournalEntry.toLine (e : JournalEntry) : Line ℕ ℚ := ⟨e.ledgerAccountId, e.debit, e.credit⟩

namespace ReconciliationWorker

def computeCanonicalBalance (accountType : AccountType) (entries : List JournalEntry) : ℚ :=
  entries.foldl (fun sum entry =>
    match accountType with
    | .asset | .expense => sum + entry.debit - entry.credit
    | .liability | .equity | .revenue => sum + entry.credit - entry.debit) 0

end ReconciliationWorker

open ReconciliationWorker

/-- `LedgerCorrectionService.postManualCorrection`, with the `uuid` it draws. -/
def postManualCorrection (uuid : String) (data : LedgerTransaction) (l : Ledger) :
    Except AppError Ledger :=
  if totalDebits data.entries ≠ totalCredits data.entries then
    .error (.badRequest (s!"Correction is not balanced: debits ({totalDebits data.entries}) " ++
      s!"must equal credits ({totalCredits data.entries})."))
  else recordTransaction { data with reference := "CORR-" ++ uuid } l

inductive LedgerCall
  | record (data : LedgerTransaction)
  | correct (uuid : String) (data : LedgerTransaction)

namespace LedgerCall

def entries : LedgerCall → List LedgerEntry
  | record data | correct _ data => data.entries

def apply (l : Ledger) : LedgerCall → Except AppError Ledger
  | record data => recordTransaction data l
  | correct uuid data => postManualCorrection uuid data l

def step (l : Ledger) (call : LedgerCall) : Ledger := (call.apply l).toOption.getD l

end LedgerCall

namespace Ledger

/-- The lines of the journal that belong to the accounts of a company. -/
def companyLines (l : Ledger) (companyId : Option String) : List (Line ℕ ℚ) :=
  (l.entries.map JournalEntry.toLine).filter
    (fun line => (l.accounts[line.account]?).map LedgerAccount.companyId = some companyId)

def entriesOf (l : Ledger) (id : ℕ) : List JournalEntry :=
  l.entries.filter (fun e => e.ledgerAccountId = id)

def canonicalBalance (l : Ledger) (id : ℕ) (type : AccountType) : ℚ :=
  computeCanonicalBalance type (l.entriesOf id)

/-- By how much the stored balance of an account exceeds its canonical one. -/
def drift (l : Ledger) (id : ℕ) : ℚ :=
  match l.accounts[id]? with
  | none => 0
  | some a => a.balance - l.canonicalBalance id a.type

/-- Every journal entry belongs to an account. -/
def Referenced (l : Ledger) : Prop := ∀ e ∈ l.entries, e.ledgerAccountId < l.accounts.length

def entriesUnder (l : Ledger) (reference : String) : List JournalEntry :=
  l.entries.filter (fun e => e.transactionReference = reference)

def debits (entries : List JournalEntry) : ℚ := (entries.map JournalEntry.debit).sum
def credits (entries : List JournalEntry) : ℚ := (entries.map JournalEntry.credit).sum

def normalBalance (l : Ledger) (companyId : Option String) (side : Side) : ℚ :=
  ((l.accounts.filter (fun a => a.companyId = companyId ∧ a.type.side = side)).map
    LedgerAccount.balance).sum

end Ledger

section canonical

theorem foldl_add_eq {α : Type} (f : α → ℚ) (as : List α) (x : ℚ) :
    as.foldl (fun sum a => sum + f a) x = x + (as.map f).sum := by
  induction as generalizing x with
  | nil => simp
  | cons a as ih =>
    rw [List.foldl_cons, ih, List.map_cons, List.sum_cons]
    ring

theorem balanceChange_eq_growth (type : AccountType) (e : JournalEntry) :
    balanceChange type e.debit e.credit = Journal.growth type.side e.toLine := by
  cases type <;> rfl

theorem computeCanonicalBalance_eq_sum (type : AccountType) (entries : List JournalEntry) :
    computeCanonicalBalance type entries =
      (entries.map (fun e => balanceChange type e.debit e.credit)).sum := by
  rw [← zero_add (List.sum _), ← foldl_add_eq]
  cases type <;> simp only [computeCanonicalBalance, balanceChange, add_sub_assoc]

/-- The worker's recomputation is the balance of the journal's account. -/
theorem canonicalBalance_eq (l : Ledger) (id : ℕ) (type : AccountType) :
    l.canonicalBalance id type =
      Journal.balance type.side (l.entries.map JournalEntry.toLine) id := by
  have hline : (fun e : JournalEntry => balanceChange type e.debit e.credit) =
      Journal.growth type.side ∘ JournalEntry.toLine := by
    funext e
    exact balanceChange_eq_growth type e
  rw [Ledger.canonicalBalance, computeCanonicalBalance_eq_sum, hline, Journal.balance,
    List.filter_map, List.map_map, Ledger.entriesOf]
  rfl

theorem canonicalBalance_append {l l' : Ledger} {e : JournalEntry}
    (h : l'.entries = l.entries ++ [e]) (id : ℕ) (type : AccountType) :
    l'.canonicalBalance id type = l.canonicalBalance id type +
      if e.ledgerAccountId = id then balanceChange type e.debit e.credit else 0 := by
  rw [canonicalBalance_eq, canonicalBalance_eq, h, List.map_append, Journal.balance_append,
    List.map_singleton, Journal.balance_singleton, balanceChange_eq_growth]
  rfl

theorem canonicalBalance_eq_zero {l : Ledger} {id : ℕ} (h : ∀ e ∈ l.entries, e.ledgerAccountId ≠ id)
    (type : AccountType) : l.canonicalBalance id type = 0 := by
  rw [canonicalBalance_eq]
  apply Journal.balance_eq_zero
  intro line hline
  obtain ⟨e, he, rfl⟩ := List.mem_map.mp hline
  exact h e he

end canonical

section posting
variable {reference : String} {companyId : Option String} {l : Ledger}

theorem getElem?_append_cons {α : Type} (before after : List α) (x y : α) (i : ℕ) :
    (before ++ x :: after)[i]? =
      if i = before.length then some x else (before ++ y :: after)[i]? := by
  by_cases hi : i = before.length
  · simp [hi]
  · rw [if_neg hi, List.getElem?_append, List.getElem?_append]
    by_cases hlt : i < before.length
    · rw [if_pos hlt, if_pos hlt]
    · obtain ⟨k, hk⟩ : ∃ k, i - before.length = k + 1 := ⟨i - before.length - 1, by omega⟩
      rw [if_neg hlt, if_neg hlt, hk, List.getElem?_cons_succ, List.getElem?_cons_succ]

/-- The account an entry is posted to: the first of its name and company, or a new one. -/
structure PostsTo (l : Ledger) (accountName : String) (company : Option String) (id : ℕ)
    (account : LedgerAccount) : Prop where
  name : account.name = accountName
  companyId : account.companyId = company
  stored : l.accounts[id]? = some account ∨
    (id = l.accounts.length ∧ account.balance = 0 ∧
      ∀ a ∈ l.accounts, isAccount accountName company a = false)

/-- The same as `postEntry_spec`, by the position of the accounts. -/
theorem postEntry_at (reference : String) (companyId : Option String) (l : Ledger) (line : ℕ)
    (entry : LedgerEntry) : ∃ id account, PostsTo l entry.accountName companyId id account ∧
      (postEntry reference companyId l line entry).entries =
        l.entries ++ [⟨reference, line, id, entry.debit, entry.credit⟩] ∧
      ∀ i, (postEntry reference companyId l line entry).accounts[i]? =
        if i = id then
          some (incrementBalance account (balanceChange account.type entry.debit entry.credit))
        else l.accounts[i]? := by
  obtain ⟨before, account, after, hname, hcompany, hold, hpost⟩ :=
    postEntry_spec reference companyId l line entry
  refine ⟨before.length, account, ⟨hname, hcompany, ?_⟩, by rw [hpost], fun i => ?_⟩
  · rcases hold with hrows | ⟨rfl, -, hzero, hnew⟩
    · exact .inl (by simp [hrows])
    · exact .inr ⟨rfl, hzero.1, hnew⟩
  · rw [hpost, getElem?_append_cons before after _ account i]
    by_cases hi : i = before.length
    · rw [if_pos hi, if_pos hi]
    · rw [if_neg hi, if_neg hi]
      rcases hold with hrows | ⟨hrows, rfl, -⟩
      · rw [hrows]
      · rw [hrows, List.getElem?_append]
        by_cases hlt : i < before.length
        · rw [if_pos hlt]
        · rw [if_neg hlt, List.getElem?_eq_none (by simp; omega),
            List.getElem?_eq_none (by omega)]

theorem length_postEntry (line : ℕ) (entry : LedgerEntry) :
    l.accounts.length ≤ (postEntry reference companyId l line entry).accounts.length := by
  obtain ⟨id, account, -, -, hat⟩ := postEntry_at reference companyId l line entry
  by_contra hlt
  rw [not_le] at hlt
  have hnone := hat (postEntry reference companyId l line entry).accounts.length
  rw [List.getElem?_eq_none le_rfl, List.getElem?_eq_getElem hlt] at hnone
  split at hnone
  · cases hnone
  · cases hnone

theorem referenced_postEntry (h : l.Referenced) (line : ℕ) (entry : LedgerEntry) :
    (postEntry reference companyId l line entry).Referenced := by
  obtain ⟨id, account, hto, hentries, hat⟩ := postEntry_at reference companyId l line entry
  intro e he
  rw [hentries] at he
  rcases List.mem_append.mp he with he | he
  · exact (h e he).trans_le (length_postEntry line entry)
  · have hid := hat id
    rw [if_pos rfl] at hid
    obtain ⟨hlt, -⟩ := List.getElem?_eq_some_iff.mp hid
    rw [List.mem_singleton.mp he]
    exact hlt

/-- A posting adds the same to the stored balance and to the canonical one. -/
theorem drift_postEntry (h : l.Referenced) (line : ℕ) (entry : LedgerEntry) (id : ℕ) :
    (postEntry reference companyId l line entry).drift id = l.drift id := by
  obtain ⟨target, account, hto, hentries, hat⟩ := postEntry_at reference companyId l line entry
  have hcanonical (type : AccountType) :
      (postEntry reference companyId l line entry).canonicalBalance id type =
        l.canonicalBalance id type +
          if target = id then balanceChange type entry.debit entry.credit else 0 :=
    canonicalBalance_append hentries id type
  rw [Ledger.drift, hat]
  by_cases hid : id = target
  · subst hid
    have hnew : l.drift id = account.balance - l.canonicalBalance id account.type := by
      rw [Ledger.drift]
      rcases hto.stored with hstored | ⟨rfl, hzero, -⟩
      · rw [hstored]
      · have hnone : ∀ e ∈ l.entries, e.ledgerAccountId ≠ l.accounts.length :=
          fun e he => (h e he).ne
        rw [List.getElem?_eq_none le_rfl, canonicalBalance_eq_zero hnone, hzero, sub_zero]
    rw [hnew, if_pos rfl]
    simp only [hcanonical, if_true, incrementBalance]
    ring
  · rw [Ledger.drift, if_neg hid]
    cases l.accounts[id]? with
    | none => rfl
    | some a => simp [hcanonical, Ne.symm hid]

theorem entriesUnder_postEntry (line : ℕ) (entry : LedgerEntry) (other : String) :
    Ledger.debits ((postEntry reference companyId l line entry).entriesUnder other) -
        Ledger.credits ((postEntry reference companyId l line entry).entriesUnder other) =
      Ledger.debits (l.entriesUnder other) - Ledger.credits (l.entriesUnder other) +
        if reference = other then entry.debit - entry.credit else 0 := by
  obtain ⟨id, account, -, hentries, -⟩ := postEntry_at reference companyId l line entry
  rw [Ledger.entriesUnder, hentries, List.filter_append]
  by_cases href : reference = other
  · simp [href, Ledger.debits, Ledger.credits, Ledger.entriesUnder]
    ring
  · simp [href, Ledger.debits, Ledger.credits, Ledger.entriesUnder]

theorem companyLines_postEntry (h : l.Referenced) (line : ℕ) (entry : LedgerEntry)
    (company : Option String) :
    Journal.excess ((postEntry reference companyId l line entry).companyLines company) =
      Journal.excess (l.companyLines company) +
        if companyId = company then entry.debit - entry.credit else 0 := by
  obtain ⟨id, account, hto, hentries, hat⟩ := postEntry_at reference companyId l line entry
  -- an account keeps its company, so the lines of the company stay its lines
  have hkept : ∀ i < l.accounts.length,
      ((postEntry reference companyId l line entry).accounts[i]?).map LedgerAccount.companyId =
        (l.accounts[i]?).map LedgerAccount.companyId := by
    intro i hi
    rw [hat]
    by_cases hid : i = id
    · rcases hto.stored with hstored | ⟨hnew, -⟩
      · rw [if_pos hid, hid, hstored]
        rfl
      · omega
    · rw [if_neg hid]
  have hold : (l.entries.map JournalEntry.toLine).filter (fun x : Line ℕ ℚ =>
      ((postEntry reference companyId l line entry).accounts[x.account]?).map
        LedgerAccount.companyId = some company) = l.companyLines company := by
    apply List.filter_congr
    intro x hx
    obtain ⟨e, he, rfl⟩ := List.mem_map.mp hx
    have hcompanyId := hkept e.toLine.account (h e he)
    rw [hcompanyId]
  have hcompany : ((postEntry reference companyId l line entry).accounts[id]?).map
      LedgerAccount.companyId = some companyId := by
    rw [hat, if_pos rfl]
    exact congrArg some hto.companyId
  rw [Ledger.companyLines, hentries, List.map_append, List.filter_append, Journal.excess_append,
    hold]
  simp only [List.map_singleton, List.filter_cons, JournalEntry.toLine, hcompany,
    Option.some.injEq, List.filter_nil, decide_eq_true_eq]
  by_cases hcomp : companyId = company
  · simp [hcomp, Journal.growth]
  · simp [hcomp]

end posting

section calls

theorem postEntries_rule {P : Ledger → Prop} {reference : String} {companyId : Option String}
    (h : ∀ l line entry, P l → P (postEntry reference companyId l line entry))
    (entries : List LedgerEntry) {l : Ledger} (line : ℕ) (hl : P l) :
    P (postEntries reference companyId l line entries) := by
  induction entries generalizing l line with
  | nil => exact hl
  | cons entry entries ih => exact ih (line + 1) (h l line entry hl)

/-- A quantity that each entry raises by what it debits more than it credits is
raised by nothing when the entries balance. -/
theorem postEntries_excess (x : Ledger → ℚ) (reference : String) (companyId : Option String)
    {p : Prop} [Decidable p]
    (h : ∀ l line entry, l.Referenced → x (postEntry reference companyId l line entry) =
      x l + if p then entry.debit - entry.credit else 0)
    (entries : List LedgerEntry) {l : Ledger} (line : ℕ) (hl : l.Referenced) :
    x (postEntries reference companyId l line entries) =
      x l + if p then totalDebits entries - totalCredits entries else 0 := by
  induction entries generalizing l line with
  | nil => simp [postEntries, totalDebits, totalCredits]
  | cons entry entries ih =>
    rw [postEntries, ih (line + 1) (referenced_postEntry hl line entry), h l line entry hl]
    by_cases hp : p
    · simp only [if_pos hp, totalDebits, totalCredits, List.map_cons, List.sum_cons]
      ring
    · simp [hp]

/-- The books of a ledger: each account is worth what its lines say, and every
transaction and every company is balanced. -/
structure Ledger.Sound (l : Ledger) : Prop where
  referenced : l.Referenced
  drift : ∀ id, l.drift id = 0
  transactions : ∀ reference,
    Ledger.debits (l.entriesUnder reference) - Ledger.credits (l.entriesUnder reference) = 0
  companies : ∀ company, Journal.excess (l.companyLines company) = 0

theorem Ledger.Sound.empty : Ledger.Sound {} where
  referenced e he := by cases he
  drift _ := rfl
  transactions _ := sub_self _
  companies _ := rfl

theorem Ledger.Sound.upsertTransaction {l : Ledger} (h : l.Sound)
    (reference description : String) :
    (LedgerService.upsertTransaction l reference description).Sound := by
  have hdrift : (LedgerService.upsertTransaction l reference description).drift = l.drift := by
    funext id
    simp [Ledger.drift, Ledger.canonicalBalance, Ledger.entriesOf]
  constructor
  · simpa [Ledger.Referenced] using h.referenced
  · rw [hdrift]
    exact h.drift
  · simpa [Ledger.entriesUnder] using h.transactions
  · simpa [Ledger.companyLines] using h.companies

theorem Ledger.Sound.postEntries {data : LedgerTransaction} {l : Ledger} (h : l.Sound)
    (hbalanced : totalDebits data.entries = totalCredits data.entries) :
    (LedgerService.postEntries data.reference data.companyId l 0 data.entries).Sound := by
  have hkept : ∀ m line entry, (m.Referenced ∧ ∀ id, m.drift id = 0) →
      (postEntry data.reference data.companyId m line entry).Referenced ∧
        ∀ id, (postEntry data.reference data.companyId m line entry).drift id = 0 :=
    fun m line entry hm => ⟨referenced_postEntry hm.1 line entry, fun id => by
      rw [drift_postEntry hm.1, hm.2]⟩
  have hafter := postEntries_rule hkept data.entries 0 ⟨h.referenced, h.drift⟩
  have hzero (p : Prop) [Decidable p] :
      (if p then totalDebits data.entries - totalCredits data.entries else 0) = 0 := by
    rw [hbalanced, sub_self, ite_self]
  constructor
  · exact hafter.1
  · exact hafter.2
  · intro reference
    have hexcess := postEntries_excess
      (fun m => Ledger.debits (m.entriesUnder reference) -
        Ledger.credits (m.entriesUnder reference)) data.reference data.companyId
      (fun m line entry _ => entriesUnder_postEntry line entry reference)
      data.entries 0 h.referenced
    rw [hexcess, h.transactions, hzero, add_zero]
  · intro company
    have hexcess := postEntries_excess (fun m => Journal.excess (m.companyLines company))
      data.reference data.companyId
      (fun m line entry hm => companyLines_postEntry hm line entry company)
      data.entries 0 h.referenced
    rw [hexcess, h.companies, hzero, add_zero]

theorem Ledger.Sound.recordTransaction {data : LedgerTransaction} {l l' : Ledger} (hl : l.Sound)
    (h : recordTransaction data l = .ok l') : l'.Sound := by
  obtain ⟨hbalanced, rfl⟩ := recordTransaction_eq_ok h
  exact (hl.upsertTransaction data.reference data.description).postEntries hbalanced

theorem Ledger.balance_eq_canonical {l : Ledger} (h : ∀ id, l.drift id = 0) {id : ℕ}
    {a : LedgerAccount} (ha : l.accounts[id]? = some a) :
    a.balance = l.canonicalBalance id a.type := by
  have hid := h id
  rw [Ledger.drift, ha] at hid
  exact sub_eq_zero.mp hid

def Ledger.companyAccounts (l : Ledger) (company : Option String) : List (Fin l.accounts.length) :=
  (List.finRange l.accounts.length).filter (fun i => (l.accounts.get i).companyId = company)

theorem Ledger.normalBalance_eq {l : Ledger} (h : ∀ id, l.drift id = 0)
    (company : Option String) (side : Side) : l.normalBalance company side =
      (((l.companyAccounts company).filter (fun i => (l.accounts.get i).type.side = side)).map
        (fun i => Journal.balance side (l.entries.map JournalEntry.toLine) i.val)).sum := by
  have hrows (p : LedgerAccount → Bool) : l.accounts.filter p =
      ((List.finRange l.accounts.length).filter (p ∘ l.accounts.get)).map l.accounts.get := by
    conv_lhs => rw [← List.map_get_finRange l.accounts]
    rw [List.filter_map]
  rw [Ledger.normalBalance, hrows, List.map_map, Ledger.companyAccounts, List.filter_filter]
  have hfilter : ((fun a : LedgerAccount => decide (a.companyId = company ∧ a.type.side = side)) ∘
      l.accounts.get) = fun i => decide ((l.accounts.get i).type.side = side) &&
        decide ((l.accounts.get i).companyId = company) := by
    funext i
    simp [Bool.and_comm]
  rw [hfilter]
  apply congrArg List.sum
  apply List.map_congr_left
  intro i hi
  have hside : (l.accounts.get i).type.side = side := by
    have hmem := (List.mem_filter.mp hi).2
    simp only [Bool.and_eq_true, decide_eq_true_eq] at hmem
    exact hmem.1
  have hcanonical := Ledger.balance_eq_canonical h (List.getElem?_eq_getElem i.isLt)
  rw [canonicalBalance_eq] at hcanonical
  rw [← hside]
  exact hcanonical

/-- The debit-normal accounts of a company are worth what its credit-normal ones are. -/
theorem Ledger.Sound.trial_balance {l : Ledger} (h : l.Sound) (company : Option String) :
    l.normalBalance company .debit = l.normalBalance company .credit := by
  have hnodup : ((l.companyAccounts company).map Fin.val).Nodup :=
    ((List.nodup_finRange _).filter _).map Fin.val_injective
  have hlines : (l.entries.map JournalEntry.toLine).filter
      (fun x : Line ℕ ℚ => x.account ∈ (l.companyAccounts company).map Fin.val) =
        l.companyLines company := by
    apply List.filter_congr
    intro x _
    simp only [Ledger.companyAccounts, List.mem_map, List.mem_filter, List.mem_finRange, true_and,
      decide_eq_true_eq, Option.map_eq_some_iff, List.getElem?_eq_some_iff, decide_eq_decide]
    constructor
    · intro hx
      obtain ⟨i, hi, hix⟩ := hx
      exact ⟨l.accounts.get i, ⟨hix ▸ i.isLt, by simp [← hix]⟩, hi⟩
    · intro hx
      obtain ⟨a, ⟨hlt, ha⟩, hcompany⟩ := hx
      exact ⟨⟨x.account, hlt⟩, by simpa [ha] using hcompany, rfl⟩
  have htrial := Journal.trial_balance (fun i => (l.accounts.get i).type.side)
    (l.entries.map JournalEntry.toLine) hnodup
  rw [hlines, h.companies company, ← Ledger.normalBalance_eq h.drift,
    ← Ledger.normalBalance_eq h.drift] at htrial
  exact sub_eq_zero.mp htrial

theorem LedgerCall.step_eq {l l' : Ledger} {call : LedgerCall} (h : call.apply l = .ok l') :
    call.step l = l' := by
  simp [LedgerCall.step, h, Except.toOption]

theorem LedgerCall.step_of_error {l : Ledger} {call : LedgerCall} {err : AppError}
    (h : call.apply l = .error err) : call.step l = l := by
  simp [LedgerCall.step, h, Except.toOption]

theorem LedgerCall.apply_unbalanced (call : LedgerCall) (l : Ledger)
    (h : totalDebits call.entries ≠ totalCredits call.entries) :
    ∃ err, call.apply l = .error err := by
  cases call with
  | record data => exact ⟨_, if_pos h⟩
  | correct uuid data => exact ⟨_, if_pos h⟩

theorem LedgerCall.apply_sound {call : LedgerCall} {l l' : Ledger} (hl : l.Sound)
    (h : call.apply l = .ok l') : l'.Sound := by
  cases call with
  | record data => exact hl.recordTransaction h
  | correct uuid data =>
    rw [LedgerCall.apply, postManualCorrection] at h
    split at h
    · cases h
    · exact hl.recordTransaction h

theorem LedgerCall.step_sound {l : Ledger} (call : LedgerCall) (hl : l.Sound) :
    (call.step l).Sound := by
  cases h : call.apply l with
  | error err =>
    rw [LedgerCall.step_of_error h]
    exact hl
  | ok l' =>
    rw [LedgerCall.step_eq h]
    exact LedgerCall.apply_sound hl h

/-- Every ledger that calls build is a balanced journal whose stored balances
are the canonical ones, and an unbalanced call is refused without a trace. -/
theorem ledger_stays_balanced (calls : List LedgerCall) (l : Ledger)
    (hl : l = run LedgerCall.step {} calls) :
    (∀ id a, l.accounts[id]? = some a →
      a.balance = computeCanonicalBalance a.type (l.entriesOf id)) ∧
    (∀ t ∈ l.transactions.rows,
      Ledger.debits (l.entriesUnder t.reference) = Ledger.credits (l.entriesUnder t.reference)) ∧
    (∀ company, l.normalBalance company .debit = l.normalBalance company .credit) ∧
    ∀ call : LedgerCall, totalDebits call.entries ≠ totalCredits call.entries →
      (∃ err, call.apply l = .error err) ∧ call.step l = l := by
  have hsound : l.Sound := by
    rw [hl]
    exact run_invariant (fun m call hm => LedgerCall.step_sound call hm) Ledger.Sound.empty calls
  refine ⟨?_, ?_, hsound.trial_balance, ?_⟩
  · intro id a ha
    exact Ledger.balance_eq_canonical hsound.drift ha
  · intro t _
    exact sub_eq_zero.mp (hsound.transactions t.reference)
  · intro call hcall
    obtain ⟨err, herr⟩ := LedgerCall.apply_unbalanced call l hcall
    exact ⟨⟨err, herr⟩, LedgerCall.step_of_error herr⟩

/-- Two entries of one call on one account, a refused call and a correction. -/
def sampleCalls : List LedgerCall :=
  let payment : LedgerTransaction :=
    { reference := "ref", description := "Installment payment", companyId := some "acme"
      entries :=
        [{ accountName := "PAYSTACK_CLEARING", accountType := .asset, debit := 700 },
         { accountName := "PAYSTACK_CLEARING", accountType := .asset, debit := 300 },
         { accountName := "MERCHANT_PAYABLE", accountType := .liability, credit := 1000 }] }
  [.record payment, .record { payment with entries := payment.entries.tail },
    .correct "uuid" payment]

theorem sampleCalls_balanced :
    (run LedgerCall.step {} sampleCalls).normalBalance (some "acme") .debit =
      (run LedgerCall.step {} sampleCalls).normalBalance (some "acme") .credit :=
  (ledger_stays_balanced sampleCalls _ rfl).2.2.1 (some "acme")

end calls

end InstalFlow
