import InstalFlow.LedgerService
import InstalFlow.Relational.Versions
import InstalFlow.Transition.Run

/-!
# Concurrent ledger transactions

Any number of calls of `recordTransaction`, each in a transaction of its own, with the
statements of the others in between. An account is looked up among the rows that a
statement sees, and created under the unique index on name and company, in which null
companies are distinct. The balance column is kept apart from the other columns.
-/

namespace InstalFlow
open Relational LedgerService

/-- An account without its balance. -/
structure AccountRow where
  id : ℕ
  name : String
  type : AccountType
  companyId : Option String

/-- A journal entry with the account that it was posted for and the increment of its balance. -/
structure PostedEntry extends JournalEntry where
  accountName : String
  companyId : Option String
  balanceChange : ℚ

inductive LedgerPhase
  | start
  | posting (line : ℕ) (entries : List LedgerEntry)
  | missing (line : ℕ) (entry : LedgerEntry) (entries : List LedgerEntry)
  | found (accountId : ℕ) (type : AccountType) (line : ℕ) (entry : LedgerEntry)
      (entries : List LedgerEntry)
  | committed
  | failed (err : AppError)

def LedgerPhase.ended : LedgerPhase → Bool
  | committed | failed _ => true
  | _ => false

/-- All entries are posted, and the next statement is the commit. -/
def LedgerPhase.committing : LedgerPhase → Bool
  | posting _ [] => true
  | _ => false

structure LedgerState (ι : Type) where
  transactions : List (Version ι FinancialTransaction) := []
  accounts : List (Version ι AccountRow) := []
  entries : List (Version ι PostedEntry) := []
  balance : ℕ → ℚ := fun _ => 0
  nextId : ℕ := 0
  phases : ι → LedgerPhase := fun _ => .start

/-- The next statement of a call, or the end of its transaction from outside. -/
inductive LedgerEvent (ι : Type)
  | statement (i : ι)
  | abort (i : ι)

def AccountRow.key (a : AccountRow) : String × Option String := (a.name, a.companyId)

def PostedEntry.key (e : PostedEntry) : String × Option String := (e.accountName, e.companyId)

/-- `@@unique([name, companyId])` -/
def AccountRow.unique (a : AccountRow) : Option (String × String) := a.companyId.map (a.name, ·)

/-- `data.companyId || null` -/
def LedgerTransaction.accountCompany (data : LedgerTransaction) : Option String :=
  data.companyId.filter (· ≠ "")

def LedgerTransaction.keyOf (data : LedgerTransaction) (entry : LedgerEntry) :
    String × Option String :=
  (entry.accountName, data.accountCompany)

namespace LedgerState
variable {ι : Type} [DecidableEq ι]

def setPhase (i : ι) (phase : LedgerPhase) (s : LedgerState ι) : LedgerState ι :=
  { s with phases := Function.update s.phases i phase }

def rollback (i : ι) (err : AppError) (s : LedgerState ι) : LedgerState ι :=
  { s with
    transactions := Versions.rollback i s.transactions
    accounts := Versions.rollback i s.accounts
    entries := Versions.rollback i s.entries
    phases := Function.update s.phases i (.failed err) }

/-- The `upsert` waits for another transaction that has written the reference. -/
def begin (data : LedgerTransaction) (i : ι) (s : LedgerState ι) : LedgerState ι :=
  if totalDebits data.entries ≠ totalCredits data.entries then
    s.setPhase i (.failed
      (.unbalancedLedger (totalDebits data.entries) (totalCredits data.entries)))
  else if s.transactions.any (fun v => v.row.reference = data.reference ∧ !Versions.sees i v) then
    s
  else
    { s with
      transactions := Versions.insert i ⟨data.reference, data.description⟩ s.transactions
      phases := Function.update s.phases i (.posting 0 data.entries) }

/-- The `findFirst` on name and company. -/
def findAccount (key : String × Option String) (i : ι) (s : LedgerState ι) : Option AccountRow :=
  (Versions.seen i s.accounts).find? (fun a => a.key = key)

def lookUp (data : LedgerTransaction) (i : ι) (line : ℕ) (entry : LedgerEntry)
    (entries : List LedgerEntry) (s : LedgerState ι) : LedgerState ι :=
  match s.findAccount (data.keyOf entry) i with
  | some a => s.setPhase i (.found a.id a.type line entry entries)
  | none => s.setPhase i (.missing line entry entries)

def createAccount (data : LedgerTransaction) (i : ι) (line : ℕ) (entry : LedgerEntry)
    (entries : List LedgerEntry) (s : LedgerState ι) : LedgerState ι :=
  let row : AccountRow :=
    { id := s.nextId, name := entry.accountName, type := entry.accountType
      companyId := data.accountCompany }
  match Versions.insertion AccountRow.unique i row s.accounts with
  | .waits => s
  | .violates => s.rollback i (.uniqueViolation ["name", "companyId"])
  | .inserted =>
    { s with
      accounts := Versions.insert i row s.accounts
      nextId := s.nextId + 1
      phases := Function.update s.phases i (.found row.id row.type line entry entries) }

/-- The journal entry, and the increment, which waits for another transaction that has
incremented the balance. -/
def post (data : LedgerTransaction) (i : ι) (accountId : ℕ) (type : AccountType) (line : ℕ)
    (entry : LedgerEntry) (entries : List LedgerEntry) (s : LedgerState ι) : LedgerState ι :=
  if s.entries.any (fun v => v.row.ledgerAccountId = accountId ∧ !Versions.sees i v) then s
  else
    let row : PostedEntry :=
      { transactionReference := data.reference, line, ledgerAccountId := accountId
        debit := entry.debit, credit := entry.credit, accountName := entry.accountName
        companyId := data.accountCompany
        balanceChange := balanceChange type entry.debit entry.credit }
    { s with
      entries := Versions.insert i row s.entries
      phases := Function.update s.phases i (.posting (line + 1) entries) }

/-- What the entries add to the balance of an account. -/
def posted (accountId : ℕ) (entries : List PostedEntry) : ℚ :=
  ((entries.filter (fun e => e.ledgerAccountId = accountId)).map PostedEntry.balanceChange).sum

/-- The new row of the transaction takes the place of one with its reference. -/
def commit (data : LedgerTransaction) (i : ι) (s : LedgerState ι) : LedgerState ι where
  transactions := Versions.commit i
    (s.transactions.filter fun v => v.writer.isSome ∨ v.row.reference ≠ data.reference)
  accounts := Versions.commit i s.accounts
  entries := Versions.commit i s.entries
  balance accountId := s.balance accountId + posted accountId (Versions.written i s.entries)
  nextId := s.nextId
  phases := Function.update s.phases i .committed

def statement (data : LedgerTransaction) (i : ι) (s : LedgerState ι) : LedgerState ι :=
  match s.phases i with
  | .start => s.begin data i
  | .posting _ [] => s.commit data i
  | .posting line (entry :: entries) => s.lookUp data i line entry entries
  | .missing line entry entries => s.createAccount data i line entry entries
  | .found accountId type line entry entries => s.post data i accountId type line entry entries
  | .committed | .failed _ => s

def step (data : ι → LedgerTransaction) (s : LedgerState ι) : LedgerEvent ι → LedgerState ι
  | .statement i => s.statement (data i) i
  | .abort i =>
    if (s.phases i).ended then s else s.rollback i (.error "Transaction aborted")

/-- Each name of a company, or of the system, has one account, and one balance of all the
entries posted for it. -/
structure OneBalance (s : LedgerState ι) : Prop where
  accounts : ((Versions.committed s.accounts).map AccountRow.key).Nodup
  balances : ∀ a ∈ Versions.committed s.accounts, s.balance a.id =
    (((Versions.committed s.entries).filter (fun e => e.key = a.key)).map
      PostedEntry.balanceChange).sum

/-- A commit of system-wide accounts finds none of their names committed. -/
def CommitsNewNames (s : LedgerState ι) : LedgerEvent ι → Prop
  | .statement i =>
    (s.phases i).committing = true →
    ∀ a ∈ Versions.written i s.accounts, a.companyId = none →
      ∀ b ∈ Versions.committed s.accounts, b.companyId = none → a.name ≠ b.name
  | .abort _ => True

instance (s : LedgerState ι) (e : LedgerEvent ι) : Decidable (s.CommitsNewNames e) :=
  match e with
  | .statement i => inferInstanceAs (Decidable ((s.phases i).committing = true →
      ∀ a ∈ Versions.written i s.accounts, a.companyId = none →
        ∀ b ∈ Versions.committed s.accounts, b.companyId = none → a.name ≠ b.name))
  | .abort _ => inferInstanceAs (Decidable True)

end LedgerState
end InstalFlow
