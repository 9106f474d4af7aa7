import InstalFlow.CompanyBankAccounts
import InstalFlow.Relational.Heap
import InstalFlow.Transition.Run
import Mathlib.Data.Fintype.Option

/-!
# Primary bank accounts

Marketers and companies add accounts, switch the primary one and remove the others, by two
services of one shape. A transaction clears the flags of an owner in one statement and sets one
in the next, and no lock keeps two such transactions apart. A removal looks at the flag in front
of its DELETE.
-/

namespace InstalFlow
open Relational Transition

/-- What the services of marketers and of companies differ in -/
structure AccountTable (ρ : Type) where
  owner : ρ → String
  accountNumber : ρ → String
  isPrimary : ρ → Bool
  withPrimary : Bool → ρ → ρ
  newAccount : (owner accountId accountName : String) → AddBankAccount → ρ
  uniqueTarget : List String
  transferMessage : String
  owner_withPrimary : ∀ b r, owner (withPrimary b r) = owner r
  isPrimary_withPrimary : ∀ b r, isPrimary (withPrimary b r) = b
  owner_newAccount : ∀ o k name data, owner (newAccount o k name data) = o
  isPrimary_newAccount : ∀ o k name data, isPrimary (newAccount o k name data) = data.isPrimary

def BankAccountService.accounts : AccountTable MarketerBankAccount where
  owner b := b.userId
  accountNumber b := b.accountNumber
  isPrimary b := b.isPrimary
  withPrimary isPrimary b := { b with isPrimary }
  newAccount userId accountId accountName data :=
    { accountId, userId, bankName := data.bankName, bankCode := data.bankCode, accountName
      accountNumber := data.accountNumber, isPrimary := data.isPrimary, isVerified := true }
  uniqueTarget := ["user_id", "account_number"]
  transferMessage := "Cannot remove a bank account with an active transfer in progress"
  owner_withPrimary _ _ := rfl
  isPrimary_withPrimary _ _ := rfl
  owner_newAccount _ _ _ _ := rfl
  isPrimary_newAccount _ _ _ _ := rfl

def CompanyBankAccountService.accounts : AccountTable CompanyBankAccount where
  owner b := b.companyId
  accountNumber b := b.accountNumber
  isPrimary b := b.isPrimary
  withPrimary := CompanyBankAccount.withPrimary
  newAccount companyId accountId accountName data :=
    { accountId, companyId, bankName := data.bankName, bankCode := data.bankCode, accountName
      accountNumber := data.accountNumber, isPrimary := data.isPrimary, isVerified := true }
  uniqueTarget := ["company_id", "account_number"]
  transferMessage := "Cannot remove a bank account with an active settlement transfer in progress"
  owner_withPrimary _ _ := rfl
  isPrimary_withPrimary _ _ := rfl
  owner_newAccount _ _ _ _ := rfl
  isPrimary_newAccount _ _ _ _ := rfl

/-- A call, with what its environment answers: the key of a new account, the name that Paystack
resolves, and whether a transfer to the account is in progress. -/
inductive BankCall
  | addBankAccount (owner : String) (data : AddBankAccount) (accountId : String)
      (resolved : Except String String)
  | switchPrimaryBankAccount (owner accountId : String)
  | removeBankAccount (owner accountId : String) (activeTransfer : Bool)

namespace BankCall

def owner : BankCall → String
  | addBankAccount owner _ _ _ | switchPrimaryBankAccount owner _ | removeBankAccount owner _ _ =>
      owner

/-- Whether the call is to make an account the primary one -/
def moves : BankCall → Bool
  | addBankAccount _ data _ _ => data.isPrimary
  | switchPrimaryBankAccount _ _ => true
  | removeBankAccount _ _ _ => false

end BankCall

/-- The last statement of a transaction -/
inductive AccountWrite (ρ : Type)
  | create (accountId : String) (account : ρ)
  | setPrimary (accountId : String)
  | delete (accountId : String)

/-- The next statement of a call. One that has found its rows waits for the locks on them. -/
inductive BankPhase (ρ : Type)
  | start
  | resolving
  | transfers
  | clearing (w : AccountWrite ρ)
  | clearingRows (targets : List String) (w : AccountWrite ρ)
  | writing (w : AccountWrite ρ)
  | writingRows (targets : List String) (w : AccountWrite ρ)
  | committing
  | returned
  | failed (err : AppError)

namespace BankPhase
variable {ρ : Type}

/-- The transaction has begun to clear the flags. -/
def clears : BankPhase ρ → Bool
  | clearingRows _ _ | writing _ | writingRows _ _ | committing => true
  | _ => false

def ended : BankPhase ρ → Bool
  | returned | failed _ => true
  | _ => false

end BankPhase

structure BankState (ι ρ : Type) where
  accounts : Heap ι String ρ
  phases : ι → BankPhase ρ := fun _ => .start

/-- The next statement of a call, or the end of its transaction from outside -/
inductive BankEvent (ι : Type)
  | statement (i : ι)
  | abort (i : ι)

namespace BankState
variable {ι ρ : Type} [DecidableEq ι] (T : AccountTable ρ)

def setPhase (i : ι) (phase : BankPhase ρ) (s : BankState ι ρ) : BankState ι ρ :=
  { s with phases := Function.update s.phases i phase }

def fail (i : ι) (err : AppError) (s : BankState ι ρ) : BankState ι ρ where
  accounts := s.accounts.rollback i
  phases := Function.update s.phases i (.failed err)

/-- `findUnique`, and the comparison of the owner -/
def findOwn (owner accountId : String) (i : ι) (s : BankState ι ρ) : Option ρ :=
  ((s.accounts.slots.find? fun slot => slot.key = accountId).bind (Slot.seen i)).filter
    fun account => T.owner account = owner

/-- `@@unique` on owner and account number -/
def unique (account : ρ) : Option (String × String) := some (T.owner account, T.accountNumber account)

/-- The statements of the transactions, of which a DELETE is one by itself -/
def transaction (owner : String) (i : ι) (s : BankState ι ρ) : BankState ι ρ :=
  match s.phases i with
  | .clearing w =>
      s.setPhase i (.clearingRows
        (s.accounts.targets i fun _ r => T.owner r = owner ∧ T.isPrimary r) w)
  | .clearingRows targets w =>
      if s.accounts.free i targets then
        { accounts := s.accounts.change i targets (fun _ r => T.owner r = owner ∧ T.isPrimary r)
            fun r => some (T.withPrimary false r)
          phases := Function.update s.phases i (.writing w) }
      else s
  | .writing (.create accountId account) =>
      match s.accounts.verdict (unique T) i accountId account with
      | .waits => s
      | .violates => s.fail i (.uniqueViolation T.uniqueTarget)
      | .inserted =>
        match s.accounts.insert i accountId account with
        | none => s
        | some accounts => { accounts, phases := Function.update s.phases i .committing }
  | .writing (.setPrimary accountId) =>
      s.setPhase i (.writingRows (s.accounts.targets i fun k _ => k = accountId)
        (.setPrimary accountId))
  | .writing (.delete accountId) =>
      s.setPhase i (.writingRows (s.accounts.targets i fun k _ => k = accountId) (.delete accountId))
  | .writingRows targets (.setPrimary accountId) =>
      if !s.accounts.free i targets then s
      else if !s.accounts.changes i targets (fun k _ => k = accountId) then
        s.fail i (.error "No record was found for an update.")
      else
        { accounts := s.accounts.change i targets (fun k _ => k = accountId)
            fun r => some (T.withPrimary true r)
          phases := Function.update s.phases i .committing }
  | .writingRows targets (.delete accountId) =>
      if !s.accounts.free i targets then s
      else if !s.accounts.changes i targets (fun k _ => k = accountId) then
        s.fail i (.error "No record was found for a delete.")
      else
        { accounts := (s.accounts.change i targets (fun k _ => k = accountId) fun _ => none).commit i
          phases := Function.update s.phases i .returned }
  | .committing =>
      { accounts := s.accounts.commit i, phases := Function.update s.phases i .returned }
  | .writingRows _ (.create _ _) | .start | .resolving | .transfers | .returned | .failed _ => s

def addBankAccount (owner : String) (data : AddBankAccount) (accountId : String)
    (resolved : Except String String) (i : ι) (s : BankState ι ρ) : BankState ι ρ :=
  match s.phases i with
  | .start =>
      if (s.accounts.seen i).any
          fun r => T.owner r = owner ∧ T.accountNumber r = data.accountNumber then
        s.fail i (.conflict "This account number is already registered")
      else s.setPhase i .resolving
  | .resolving =>
      match resolved with
      | .error message => s.fail i (.error message)
      | .ok accountName =>
        let w := .create accountId (T.newAccount owner accountId accountName data)
        s.setPhase i (if data.isPrimary then .clearing w else .writing w)
  | _ => s.transaction T owner i

def switchPrimaryBankAccount (owner accountId : String) (i : ι) (s : BankState ι ρ) :
    BankState ι ρ :=
  match s.phases i with
  | .start =>
      match s.findOwn T owner accountId i with
      | none => s.fail i (.notFound "Bank account not found")
      | some account =>
        s.setPhase i (if T.isPrimary account then .returned else .clearing (.setPrimary accountId))
  | _ => s.transaction T owner i

def removeBankAccount (owner accountId : String) (activeTransfer : Bool) (i : ι)
    (s : BankState ι ρ) : BankState ι ρ :=
  match s.phases i with
  | .start =>
      match s.findOwn T owner accountId i with
      | none => s.fail i (.notFound "Bank account not found")
      | some account =>
        if T.isPrimary account then
          s.fail i (.badRequest ("Cannot delete the primary bank account. " ++
            "Please set another account as primary first."))
        else s.setPhase i .transfers
  | .transfers =>
      if activeTransfer then s.fail i (.badRequest T.transferMessage)
      else s.setPhase i (.writing (.delete accountId))
  | _ => s.transaction T owner i

def statement (call : BankCall) (i : ι) (s : BankState ι ρ) : BankState ι ρ :=
  match call with
  | .addBankAccount owner data accountId resolved => s.addBankAccount T owner data accountId resolved i
  | .switchPrimaryBankAccount owner accountId => s.switchPrimaryBankAccount T owner accountId i
  | .removeBankAccount owner accountId activeTransfer =>
      s.removeBankAccount T owner accountId activeTransfer i

def step (calls : ι → BankCall) (s : BankState ι ρ) : BankEvent ι → BankState ι ρ
  | .statement i => s.statement T (calls i) i
  | .abort i => if (s.phases i).ended then s else s.fail i (.error "Transaction aborted")

/-- The primary accounts of an owner among the committed ones -/
def primaries (owner : String) (s : BankState ι ρ) : ℕ :=
  s.accounts.committed.countP fun r => T.owner r = owner ∧ T.isPrimary r

/-- No call has begun, and no row is held by one. -/
structure Fresh (s : BankState ι ρ) : Prop where
  phases : ∀ i, s.phases i = .start
  rows : ∀ slot ∈ s.accounts.slots, slot.pending = none

/-- What the next statement of a call is to find: no other call that moves the flag of the owner
has begun to clear it, and an account that is deleted is not primary. -/
def Finds (calls : ι → BankCall) (s : BankState ι ρ) (i : ι) : BankPhase ρ → Prop
  | .clearing _ => ∀ j, j ≠ i → (calls j).owner = (calls i).owner → (calls j).moves = true →
      (s.phases j).clears = false
  | .writingRows targets (.delete _) => s.accounts.free i targets = true →
      ∀ slot ∈ s.accounts.slots, slot.key ∈ targets → slot.stored.any T.isPrimary = false
  | _ => True

def Apart (calls : ι → BankCall) (s : BankState ι ρ) : BankEvent ι → Prop
  | .abort _ => True
  | .statement i => s.Finds T calls i (s.phases i)

instance [Fintype ι] (calls : ι → BankCall) (s : BankState ι ρ) (i : ι) :
    ∀ phase, Decidable (s.Finds T calls i phase)
  | .clearing _ => inferInstanceAs (Decidable (∀ _, _ → _ → _ → _ = _))
  | .writingRows targets (.delete _) => inferInstanceAs (Decidable (_ = true →
      ∀ slot ∈ s.accounts.slots, slot.key ∈ targets → slot.stored.any T.isPrimary = false))
  | .start | .resolving | .transfers | .clearingRows _ _ | .writing _
  | .writingRows _ (.create _ _) | .writingRows _ (.setPrimary _) | .committing | .returned
  | .failed _ => inferInstanceAs (Decidable True)

instance [Fintype ι] (calls : ι → BankCall) (s : BankState ι ρ) :
    ∀ e, Decidable (Apart T calls s e)
  | .abort _ => inferInstanceAs (Decidable True)
  | .statement i => inferInstanceAs (Decidable (s.Finds T calls i (s.phases i)))

end BankState
end InstalFlow
