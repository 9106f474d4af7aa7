import InstalFlow.Schema

/-!
# Bank accounts of companies

A company adds accounts, switches the primary one and removes the others. The foreign
key of settlements to accounts is set to null where an account is deleted.
-/

namespace InstalFlow
open Relational

structure AddBankAccount where
  bankName : String
  bankCode : String
  accountNumber : String
  isPrimary : Bool := false

namespace CompanyBankAccount

def withPrimary (isPrimary : Bool) (b : CompanyBankAccount) : CompanyBankAccount :=
  { b with isPrimary }

theorem withPrimary_accountId (isPrimary : Bool) (b : CompanyBankAccount) :
    (b.withPrimary isPrimary).accountId = b.accountId := rfl

end CompanyBankAccount

def MerchantSettlementRequest.unlinked (s : MerchantSettlementRequest) :
    MerchantSettlementRequest :=
  { s with companyBankAccountId := none }

theorem MerchantSettlementRequest.unlinked_settlementId (s : MerchantSettlementRequest) :
    s.unlinked.settlementId = s.settlementId := rfl

namespace CompanyBankAccountService

def demotePrimary (companyId : String) (db : Database) : Database :=
  { db with
    companyBankAccounts := db.companyBankAccounts.updateMany
      (fun b => b.companyId = companyId ∧ b.isPrimary)
      (CompanyBankAccount.withPrimary false) (CompanyBankAccount.withPrimary_accountId false) }

/-- The account of a number, under the name that Paystack resolves it to. -/
def addBankAccount (resolveAccount : String → String → Except String String)
    (companyId accountId : String) (data : AddBankAccount) (db : Database) :
    Except AppError (CompanyBankAccount × Database) :=
  if db.companyBankAccounts.rows.any
      (fun b => b.companyId = companyId ∧ b.accountNumber = data.accountNumber) then
    .error (.conflict "This account number is already registered")
  else
    match resolveAccount data.accountNumber data.bankCode with
    | .error message => .error (.error message)
    | .ok accountName =>
      let db := if data.isPrimary then demotePrimary companyId db else db
      let account : CompanyBankAccount :=
        { accountId, companyId
          bankName := data.bankName
          bankCode := data.bankCode
          accountName
          accountNumber := data.accountNumber
          isPrimary := data.isPrimary
          isVerified := true }
      match createRow db.companyBankAccounts account ["account_id"] with
      | .error err => .error err
      | .ok companyBankAccounts => .ok (account, { db with companyBankAccounts })

def findOwn (companyId accountId : String) (db : Database) :
    Except AppError CompanyBankAccount :=
  match (db.companyBankAccounts.find? accountId).filter (fun b => b.companyId = companyId) with
  | none => .error (.notFound "Bank account not found")
  | some account => .ok account

def switchPrimaryBankAccount (companyId accountId : String) (db : Database) :
    Except AppError Database :=
  match findOwn companyId accountId db with
  | .error err => .error err
  | .ok account =>
    if account.isPrimary then .ok db
    else
      let db := demotePrimary companyId db
      .ok { db with
        companyBankAccounts := db.companyBankAccounts.update accountId
          (CompanyBankAccount.withPrimary true) (CompanyBankAccount.withPrimary_accountId true) }

/-- `delete`, with what the foreign key of settlements does. -/
def deleteAccount (accountId : String) (db : Database) : Database :=
  { db with
    companyBankAccounts := db.companyBankAccounts.deleteMany (fun b => b.accountId = accountId)
    merchantSettlementRequests := db.merchantSettlementRequests.updateMany
      (fun s => s.companyBankAccountId = some accountId)
      MerchantSettlementRequest.unlinked MerchantSettlementRequest.unlinked_settlementId }

def removeBankAccount (companyId accountId : String) (db : Database) : Except AppError Database :=
  match findOwn companyId accountId db with
  | .error err => .error err
  | .ok account =>
    if account.isPrimary then
      .error (.badRequest
        "Cannot delete the primary bank account. Please set another account as primary first.")
    else if db.merchantSettlementRequests.rows.any
        (fun s => s.companyBankAccountId = some accountId ∧ s.status = .transferInitiated) then
      .error (.badRequest
        "Cannot remove a bank account with an active settlement transfer in progress")
    else .ok (deleteAccount accountId db)

section specs
variable {db db' : Database} {companyId accountId k : String}

/-- The company of an account, if the account is verified. -/
def verifiedFor (db : Database) (accountId : String) : Option String :=
  ((db.companyBankAccounts.find? accountId).filter (·.isVerified)).map (·.companyId)

theorem verifiedFor_eq_some {owner : String} :
    verifiedFor db k = some owner ↔
      ∃ b, db.companyBankAccounts.find? k = some b ∧ b.isVerified = true ∧ b.companyId = owner := by
  simp [verifiedFor, Option.filter_eq_some_iff, and_assoc]

theorem verifiedFor_updateMany (db : Database) (p : CompanyBankAccount → Bool) (isPrimary : Bool) :
    verifiedFor { db with
      companyBankAccounts := db.companyBankAccounts.updateMany p
        (CompanyBankAccount.withPrimary isPrimary)
        (CompanyBankAccount.withPrimary_accountId isPrimary) } k = verifiedFor db k := by
  rw [verifiedFor, Table.find?_updateMany, verifiedFor]
  cases db.companyBankAccounts.find? k with
  | none => rfl
  | some b =>
    by_cases hp : p b
    · simp [hp, CompanyBankAccount.withPrimary, Option.filter]
    · simp [hp]

/-- Adding an account leaves the settlements alone and each verified account verified. -/
theorem addBankAccount_eq_ok {resolveAccount : String → String → Except String String}
    {data : AddBankAccount} {account : CompanyBankAccount}
    (h : addBankAccount resolveAccount companyId accountId data db = .ok (account, db')) :
    db'.merchantSettlementRequests = db.merchantSettlementRequests ∧
      ∀ k owner, verifiedFor db k = some owner → verifiedFor db' k = some owner := by
  rw [addBankAccount] at h
  split at h
  · cases h
  split at h
  · cases h
  · rename_i accountName hresolve
    simp only at h
    split at h
    · cases h
    · rename_i banks hcreate
      cases h
      have hcreate := createRow_eq_ok.mp hcreate
      have hdemoted : ∀ k, verifiedFor (if data.isPrimary then demotePrimary companyId db else db) k =
          verifiedFor db k := by
        intro k
        split
        · exact verifiedFor_updateMany db _ false
        · rfl
      refine ⟨?_, fun k owner howner => ?_⟩
      · split <;> rfl
      · rw [← hdemoted k] at howner
        obtain ⟨b, hb, hverified, hcompany⟩ := verifiedFor_eq_some.mp howner
        exact verifiedFor_eq_some.mpr ⟨b, Table.find?_of_create hcreate hb, hverified, hcompany⟩

theorem switchPrimaryBankAccount_eq_ok
    (h : switchPrimaryBankAccount companyId accountId db = .ok db') :
    db'.merchantSettlementRequests = db.merchantSettlementRequests ∧
      ∀ k, verifiedFor db' k = verifiedFor db k := by
  rw [switchPrimaryBankAccount] at h
  split at h
  · cases h
  · split at h
    · cases h
      exact ⟨rfl, fun k => rfl⟩
    · cases h
      refine ⟨rfl, fun k => ?_⟩
      exact (verifiedFor_updateMany (demotePrimary companyId db) _ true).trans
        (verifiedFor_updateMany db _ false)

/-- An account that goes has no settlement in transfer, the others stay. -/
theorem removeBankAccount_eq_ok (h : removeBankAccount companyId accountId db = .ok db') :
    db' = deleteAccount accountId db ∧
      ∀ s ∈ db.merchantSettlementRequests.rows, s.status = .transferInitiated →
        s.companyBankAccountId ≠ some accountId := by
  rw [removeBankAccount] at h
  split at h
  · cases h
  · split at h
    · cases h
    · split at h
      · cases h
      · rename_i hfree
        cases h
        refine ⟨rfl, fun s hs hstatus hlink => hfree ?_⟩
        exact List.any_eq_true.mpr ⟨s, hs, decide_eq_true ⟨hlink, hstatus⟩⟩

theorem verifiedFor_deleteAccount (hk : k ≠ accountId) :
    verifiedFor (deleteAccount accountId db) k = verifiedFor db k := by
  have hfind : (deleteAccount accountId db).companyBankAccounts.find? k =
      db.companyBankAccounts.find? k := by
    refine (Table.find?_deleteMany db.companyBankAccounts _ k).trans ?_
    cases hfound : db.companyBankAccounts.find? k with
    | none => rfl
    | some b => simp [Option.filter, Table.find?_key hfound, hk]
  rw [verifiedFor, hfind, verifiedFor]

end specs
end CompanyBankAccountService
end InstalFlow
