import InstalFlow.Schema
import Mathlib.Tactic.Ring

/-!
# The ledger service

`recordTransaction` refuses unbalanced entries, upserts the transaction under
its reference and then posts every entry: the account of that name and company
is looked up or created, a journal line is written, and the stored balance is
incremented according to the type of the stored account. The upsert does not
look at what an earlier call with the same reference has posted.
-/

namespace InstalFlow
open Relational

structure LedgerEntry where
  accountName : String
  accountType : AccountType
  debit : ℚ := 0
  credit : ℚ := 0
deriving DecidableEq

structure LedgerTransaction where
  reference : String
  description : String
  companyId : Option String := none
  entries : List LedgerEntry
deriving DecidableEq

namespace LedgerService

def totalDebits (entries : List LedgerEntry) : ℚ := (entries.map LedgerEntry.debit).sum
def totalCredits (entries : List LedgerEntry) : ℚ := (entries.map LedgerEntry.credit).sum

/-- Assets and expenses grow on the debit side, the other types on the credit side. -/
def balanceChange (type : AccountType) (debit credit : ℚ) : ℚ :=
  match type with
  | .asset | .expense => debit - credit
  | .liability | .equity | .revenue => credit - debit

def upsertTransaction (l : Ledger) (reference description : String) : Ledger :=
  match l.transactions.create ⟨reference, description⟩ with
  | some transactions => { l with transactions }
  | none => { l with transactions :=
      l.transactions.update reference (fun t => { t with description }) }

def isAccount (name : String) (companyId : Option String) (a : LedgerAccount) : Bool :=
  a.name = name ∧ a.companyId = companyId

/-- The `findFirst` on name and company, with the `create` that follows a miss. -/
def findOrCreateAccount (accounts : List LedgerAccount) (name : String) (type : AccountType)
    (companyId : Option String) : ℕ × List LedgerAccount :=
  match accounts.findIdx? (isAccount name companyId) with
  | some id => (id, accounts)
  | none => (accounts.length, accounts ++ [{ name, type, companyId }])

def incrementBalance (a : LedgerAccount) (x : ℚ) : LedgerAccount :=
  { a with balance := a.balance + x }

def postEntry (reference : String) (companyId : Option String) (l : Ledger)
    (line : ℕ) (entry : LedgerEntry) : Ledger :=
  let (id, accounts) :=
    findOrCreateAccount l.accounts entry.accountName entry.accountType companyId
  { l with
    entries := l.entries ++ [⟨reference, line, id, entry.debit, entry.credit⟩]
    accounts := accounts.modify id fun a =>
      incrementBalance a (balanceChange a.type entry.debit entry.credit) }

def postEntries (reference : String) (companyId : Option String) :
    Ledger → ℕ → List LedgerEntry → Ledger
  | l, _, [] => l
  | l, line, entry :: entries =>
      postEntries reference companyId (postEntry reference companyId l line entry) (line + 1) entries

def recordTransaction (data : LedgerTransaction) (l : Ledger) : Except AppError Ledger :=
  if totalDebits data.entries ≠ totalCredits data.entries then
    .error (.unbalancedLedger (totalDebits data.entries) (totalCredits data.entries))
  else
    .ok (postEntries data.reference data.companyId
      (upsertTransaction l data.reference data.description) 0 data.entries)

theorem recordTransaction_eq_ok {data : LedgerTransaction} {l l' : Ledger}
    (h : recordTransaction data l = .ok l') :
    totalDebits data.entries = totalCredits data.entries ∧
      l' = postEntries data.reference data.companyId
        (upsertTransaction l data.reference data.description) 0 data.entries := by
  rw [recordTransaction] at h
  split at h
  · cases h
  · rename_i hb
    cases h
    exact ⟨not_not.mp hb, rfl⟩

end LedgerService

namespace Ledger
open LedgerService

def balance (l : Ledger) (name : String) (companyId : Option String) : ℚ :=
  ((l.accounts.filter (isAccount name companyId)).map LedgerAccount.balance).sum

/-- All accounts of this name have this type. -/
def Typed (l : Ledger) (name : String) (type : AccountType) : Prop :=
  ∀ a ∈ l.accounts, a.name = name → a.type = type

/-- How often a transaction was posted under the reference: its first lines. -/
def postings (l : Ledger) (reference : String) : ℕ :=
  l.entries.countP (fun e => e.transactionReference = reference ∧ e.line = 0)

end Ledger

namespace LedgerService

theorem balanceChange_eq_zero_iff (type : AccountType) (debit credit : ℚ) :
    balanceChange type debit credit = 0 ↔ debit = credit := by
  cases type <;> simp only [balanceChange, sub_eq_zero] <;> exact eq_comm

@[simp] theorem upsertTransaction_accounts (l : Ledger) (reference description : String) :
    (upsertTransaction l reference description).accounts = l.accounts := by
  rw [upsertTransaction]
  split <;> rfl

@[simp] theorem upsertTransaction_entries (l : Ledger) (reference description : String) :
    (upsertTransaction l reference description).entries = l.entries := by
  rw [upsertTransaction]
  split <;> rfl

theorem findOrCreateAccount_spec (accounts : List LedgerAccount) (name : String)
    (type : AccountType) (companyId : Option String) :
    ∃ before account after,
      (findOrCreateAccount accounts name type companyId).2 = before ++ account :: after ∧
      (findOrCreateAccount accounts name type companyId).1 = before.length ∧
      account.name = name ∧ account.companyId = companyId ∧
      (accounts = before ++ account :: after ∨
        (accounts = before ∧ after = [] ∧ (account.balance = 0 ∧ account.type = type) ∧
          ∀ a ∈ before, isAccount name companyId a = false)) := by
  rw [findOrCreateAccount]
  cases h : accounts.findIdx? (isAccount name companyId) with
  | none =>
    exact ⟨accounts, { name, type, companyId }, [], rfl, rfl, rfl, rfl,
      .inr ⟨rfl, rfl, ⟨rfl, rfl⟩, List.findIdx?_eq_none_iff.mp h⟩⟩
  | some id =>
    obtain ⟨hlt, hp, -⟩ := List.findIdx?_eq_some_iff_getElem.mp h
    have hsplit : accounts = accounts.take id ++ accounts[id] :: accounts.drop (id + 1) := by
      rw [List.getElem_cons_drop, List.take_append_drop]
    have hacc : accounts[id].name = name ∧ accounts[id].companyId = companyId := by
      simpa [isAccount] using hp
    exact ⟨_, _, _, hsplit, by simp [hlt.le], hacc.1, hacc.2, .inl hsplit⟩

/-- An entry moves the balance of one account, found or new, and writes one line to it. -/
theorem postEntry_spec (reference : String) (companyId : Option String) (l : Ledger)
    (line : ℕ) (entry : LedgerEntry) :
    ∃ before account after, account.name = entry.accountName ∧ account.companyId = companyId ∧
      (l.accounts = before ++ account :: after ∨
        (l.accounts = before ∧ after = [] ∧
          (account.balance = 0 ∧ account.type = entry.accountType) ∧
          ∀ a ∈ before, isAccount entry.accountName companyId a = false)) ∧
      postEntry reference companyId l line entry =
        { l with
          accounts := before ++
            incrementBalance account (balanceChange account.type entry.debit entry.credit) :: after
          entries := l.entries ++ [⟨reference, line, before.length, entry.debit, entry.credit⟩] } := by
  obtain ⟨before, account, after, hrows, hid, hname, hcompany, hold⟩ :=
    findOrCreateAccount_spec l.accounts entry.accountName entry.accountType companyId
  refine ⟨before, account, after, hname, hcompany, hold, ?_⟩
  simp only [postEntry]
  rw [hrows, hid, List.modify_eq_take_cons_drop (by simp)]
  simp

theorem balance_postEntry (reference : String) (companyId : Option String) (l : Ledger)
    (line : ℕ) (entry : LedgerEntry) :
    ∃ type, (l.Typed entry.accountName entry.accountType → type = entry.accountType) ∧
      ∀ name company, (postEntry reference companyId l line entry).balance name company =
        l.balance name company +
          if name = entry.accountName ∧ company = companyId then
            balanceChange type entry.debit entry.credit else 0 := by
  obtain ⟨before, account, after, hname, hcompany, hold, hpost⟩ :=
    postEntry_spec reference companyId l line entry
  refine ⟨account.type, fun htyped => ?_, fun name company => ?_⟩
  · rcases hold with h | ⟨-, -, hnew, -⟩
    · exact htyped account (by simp [h]) hname
    · exact hnew.2
  have hbefore : l.balance name company =
      (((before ++ account :: after).filter (isAccount name company)).map
        LedgerAccount.balance).sum := by
    rcases hold with h | ⟨h, rfl, hzero, -⟩
    · rw [Ledger.balance, h]
    · rw [Ledger.balance, h, List.filter_append, List.map_append, List.sum_append]
      by_cases hp : isAccount name company account <;> simp [hp, hzero]
  rw [hbefore, Ledger.balance, hpost]
  have hsame (x : ℚ) : isAccount name company (incrementBalance account x) =
      isAccount name company account := rfl
  have hbalance (x : ℚ) : (incrementBalance account x).balance = account.balance + x := rfl
  by_cases hp : name = entry.accountName ∧ company = companyId
  · have hacc : isAccount name company account = true := by
      simp [isAccount, hname, hcompany, hp.1, hp.2]
    simp only [List.filter_append, List.filter_cons, hsame, hacc, if_true, List.map_append,
      List.map_cons, List.sum_append, List.sum_cons, hbalance, if_pos hp]
    ring
  · have hacc : isAccount name company account = false := by
      simp only [isAccount, hname, hcompany, decide_eq_false_iff_not]
      exact fun h => hp ⟨h.1.symm, h.2.symm⟩
    simp [List.filter_append, hsame, hacc, hp]

theorem typed_postEntry {l : Ledger} {name : String} {type : AccountType} (h : l.Typed name type)
    (reference : String) (companyId : Option String) (line : ℕ) {entry : LedgerEntry}
    (hentry : entry.accountName = name → entry.accountType = type) :
    (postEntry reference companyId l line entry).Typed name type := by
  obtain ⟨before, account, after, hname, -, hold, hpost⟩ :=
    postEntry_spec reference companyId l line entry
  have haccount : account.name = name → account.type = type := by
    intro he
    rcases hold with hrows | ⟨-, -, hnew, -⟩
    · exact h account (by simp [hrows]) he
    · rw [hnew.2]
      exact hentry (hname.symm.trans he)
  intro a ha he
  rw [hpost, List.mem_append, List.mem_cons] at ha
  rcases hold with hrows | ⟨hrows, rfl, -⟩
  · rcases ha with ha | rfl | ha
    · exact h a (by simp [hrows, ha]) he
    · exact haccount he
    · exact h a (by simp [hrows, ha]) he
  · rcases ha with ha | rfl | ha
    · exact h a (hrows ▸ ha) he
    · exact haccount he
    · cases ha

/-- What posting an entry does to the accounts of one name. -/
theorem balance_postEntry_typed {l : Ledger} {name : String} {type : AccountType}
    (h : l.Typed name type) (reference : String) (companyId : Option String) (line : ℕ)
    {entry : LedgerEntry} (hentry : entry.accountName = name → entry.accountType = type)
    (company : Option String) :
    (postEntry reference companyId l line entry).balance name company = l.balance name company +
      if entry.accountName = name ∧ companyId = company then
        balanceChange type entry.debit entry.credit else 0 := by
  obtain ⟨stored, hstored, hbalance⟩ := balance_postEntry reference companyId l line entry
  rw [hbalance]
  by_cases hname : entry.accountName = name
  · subst hname
    rw [hentry rfl] at hstored
    rw [hstored h]
    simp [eq_comm]
  · rw [if_neg fun he => hname he.1.symm, if_neg fun he => hname he.1]

/-- The change that entries of a company make to its accounts of one name. -/
def changeOf (name : String) (type : AccountType) (entries : List LedgerEntry) : ℚ :=
  ((entries.filter (fun e => e.accountName = name)).map
    (fun e => balanceChange type e.debit e.credit)).sum

theorem balance_postEntries_typed {name : String} {type : AccountType} (reference : String)
    (companyId : Option String) (entries : List LedgerEntry)
    (hentries : ∀ e ∈ entries, e.accountName = name → e.accountType = type) (l : Ledger)
    (h : l.Typed name type) (line : ℕ) (company : Option String) :
    (postEntries reference companyId l line entries).Typed name type ∧
      (postEntries reference companyId l line entries).balance name company =
        l.balance name company + if companyId = company then changeOf name type entries else 0 := by
  induction entries generalizing l line with
  | nil => exact ⟨h, by simp [postEntries, changeOf]⟩
  | cons entry entries ih =>
    have hentry := hentries entry List.mem_cons_self
    obtain ⟨htyped, hbalance⟩ := ih (fun e he => hentries e (List.mem_cons_of_mem _ he))
      (postEntry reference companyId l line entry)
      (typed_postEntry h reference companyId line hentry) (line + 1)
    refine ⟨htyped, ?_⟩
    rw [postEntries, hbalance, balance_postEntry_typed h reference companyId line hentry company]
    by_cases hname : entry.accountName = name <;> by_cases hcompany : companyId = company <;>
      simp [changeOf, hname, hcompany, add_assoc]

theorem balance_recordTransaction_typed {data : LedgerTransaction} {l l' : Ledger} {name : String}
    {type : AccountType} (hrecord : recordTransaction data l = .ok l') (h : l.Typed name type)
    (hentries : ∀ e ∈ data.entries, e.accountName = name → e.accountType = type) :
    l'.Typed name type ∧ ∀ company, l'.balance name company = l.balance name company +
      if data.companyId = company then changeOf name type data.entries else 0 := by
  obtain ⟨-, rfl⟩ := recordTransaction_eq_ok hrecord
  have hupserted : (upsertTransaction l data.reference data.description).Typed name type := by
    rw [Ledger.Typed, upsertTransaction_accounts]
    exact h
  have hpost (company : Option String) := balance_postEntries_typed data.reference data.companyId
    data.entries hentries _ hupserted 0 company
  refine ⟨(hpost none).1, fun company => ?_⟩
  rw [(hpost company).2, Ledger.balance, upsertTransaction_accounts, ← Ledger.balance]

theorem postEntry_entries (reference : String) (companyId : Option String) (l : Ledger)
    (line : ℕ) (entry : LedgerEntry) : ∃ e, e.transactionReference = reference ∧ e.line = line ∧
      (postEntry reference companyId l line entry).entries = l.entries ++ [e] := by
  exact ⟨⟨reference, line, _, entry.debit, entry.credit⟩, rfl, rfl, rfl⟩

theorem postings_postEntry (reference other : String) (companyId : Option String) (l : Ledger)
    (line : ℕ) (entry : LedgerEntry) :
    (postEntry reference companyId l line entry).postings other =
      l.postings other + if reference = other ∧ line = 0 then 1 else 0 := by
  obtain ⟨e, href, hline, he⟩ := postEntry_entries reference companyId l line entry
  rw [Ledger.postings, he, List.countP_append, ← Ledger.postings]
  simp [List.countP_singleton, href, hline]

theorem postings_postEntries_succ (reference other : String) (companyId : Option String)
    (entries : List LedgerEntry) (l : Ledger) (line : ℕ) :
    (postEntries reference companyId l (line + 1) entries).postings other = l.postings other := by
  induction entries generalizing l line with
  | nil => rfl
  | cons entry entries ih =>
    rw [postEntries, ih, postings_postEntry, if_neg (by omega)]
    rfl

/-- A recorded transaction counts once under its own reference, whatever stood there. -/
theorem postings_recordTransaction {data : LedgerTransaction} {l l' : Ledger}
    (h : recordTransaction data l = .ok l') (hne : data.entries ≠ []) (other : String) :
    l'.postings other = l.postings other + if data.reference = other then 1 else 0 := by
  obtain ⟨-, rfl⟩ := recordTransaction_eq_ok h
  cases he : data.entries with
  | nil => exact absurd he hne
  | cons entry entries =>
    rw [postEntries, postings_postEntries_succ, postings_postEntry]
    simp [Ledger.postings]

end LedgerService
end InstalFlow
