import InstalFlow.LedgerBalances

/-!
# What a reference credits

The credits under one reference to the accounts of a name and company. An entry
stays with its account, so a transaction adds its own credits and nothing else.
-/

namespace InstalFlow
open Relational LedgerService

namespace Ledger

def onAccount (l : Ledger) (name : String) (companyId : Option String) (e : JournalEntry) : Bool :=
  (l.accounts[e.ledgerAccountId]?).any (isAccount name companyId)

def credited (l : Ledger) (reference name : String) (companyId : Option String) : ℚ :=
  ((l.entries.filter fun e => e.transactionReference = reference ∧
    l.onAccount name companyId e).map JournalEntry.credit).sum

end Ledger

namespace LedgerService
variable {l l' : Ledger}

/-- The credits of entries to the accounts of one name. -/
def creditOf (name : String) (entries : List LedgerEntry) : ℚ :=
  ((entries.filter fun e => e.accountName = name).map LedgerEntry.credit).sum

theorem creditOf_cons (name : String) (entry : LedgerEntry) (entries : List LedgerEntry) :
    creditOf name (entry :: entries) =
      (if entry.accountName = name then entry.credit else 0) + creditOf name entries := by
  by_cases hname : entry.accountName = name <;> simp [creditOf, hname]

theorem credited_postEntry (h : l.Referenced) (reference other name : String)
    (companyId company : Option String) (line : ℕ) (entry : LedgerEntry) :
    (postEntry reference companyId l line entry).credited other name company =
      l.credited other name company +
        if reference = other ∧ entry.accountName = name ∧ companyId = company then entry.credit
        else 0 := by
  obtain ⟨id, account, hto, hentries, hat⟩ := postEntry_at reference companyId l line entry
  have hold : ∀ e ∈ l.entries, (postEntry reference companyId l line entry).onAccount name company
      e = l.onAccount name company e := by
    intro e he
    rw [Ledger.onAccount, Ledger.onAccount, hat]
    by_cases hid : e.ledgerAccountId = id
    · rcases hto.stored with hstored | ⟨hnew, -⟩
      · rw [if_pos hid, hid, hstored]
        rfl
      · have hlt := h e he
        omega
    · rw [if_neg hid]
  have hnew : (postEntry reference companyId l line entry).onAccount name company
      ⟨reference, line, id, entry.debit, entry.credit⟩ =
        decide (entry.accountName = name ∧ companyId = company) := by
    rw [Ledger.onAccount, hat, if_pos rfl, ← hto.name, ← hto.companyId]
    rfl
  rw [Ledger.credited, hentries, List.filter_append, List.map_append, List.sum_append,
    List.filter_congr fun e he => by rw [hold e he], ← Ledger.credited]
  congr 1
  simp only [List.filter_cons, hnew]
  by_cases href : reference = other <;>
    by_cases haccount : entry.accountName = name ∧ companyId = company <;>
    simp [href, haccount]

theorem credited_postEntries (reference other name : String) (companyId company : Option String)
    (entries : List LedgerEntry) (h : l.Referenced) (line : ℕ) :
    (postEntries reference companyId l line entries).Referenced ∧
      (postEntries reference companyId l line entries).credited other name company =
        l.credited other name company +
          if reference = other ∧ companyId = company then creditOf name entries else 0 := by
  induction entries generalizing l line with
  | nil => simp [postEntries, creditOf, h]
  | cons entry entries ih =>
    obtain ⟨hreferenced, hcredited⟩ := ih (referenced_postEntry h line entry) (line + 1)
    refine ⟨hreferenced, ?_⟩
    rw [postEntries, hcredited, credited_postEntry h, creditOf_cons, add_assoc]
    by_cases href : reference = other <;> by_cases hname : entry.accountName = name <;>
      by_cases hcompany : companyId = company <;> simp [href, hname, hcompany]

theorem credited_recordTransaction {data : LedgerTransaction}
    (hrecord : recordTransaction data l = .ok l') (h : l.Referenced) :
    l'.Referenced ∧ ∀ other name company, l'.credited other name company =
      l.credited other name company +
        if data.reference = other ∧ data.companyId = company then creditOf name data.entries
        else 0 := by
  obtain ⟨-, rfl⟩ := recordTransaction_eq_ok hrecord
  have hupserted : (upsertTransaction l data.reference data.description).Referenced := by
    simpa [Ledger.Referenced] using h
  have hpost (other name : String) (company : Option String) := credited_postEntries data.reference
    other name data.companyId company data.entries hupserted 0
  refine ⟨(hpost "" "" none).1, fun other name company => ?_⟩
  have hsame : (upsertTransaction l data.reference data.description).onAccount = l.onAccount := by
    funext name company e
    rw [Ledger.onAccount, Ledger.onAccount, upsertTransaction_accounts]
  rw [(hpost other name company).2, Ledger.credited, upsertTransaction_entries, hsame,
    ← Ledger.credited]

end LedgerService
end InstalFlow
