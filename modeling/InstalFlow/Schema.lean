import InstalFlow.Relational.Table
import Mathlib.Algebra.Order.Field.Rat

/-!
# The database schema

The tables of the payment side: users with their sessions and password resets,
registrations, products, applications with their documents, referrals and contracts,
installments and their payments, payment intents, commissions with their
allocations to payouts, settlements of merchants, the reminder settings of
companies, and the ledger. `Decimal` columns are rationals, `uuid()` keys are
strings chosen by the environment, and a `DateTime` is a number of milliseconds.
A row of `CommissionAllocation` is addressed by its unique pair of payout and
commission, a `LedgerAccount` by its autoincrement position, and a `JournalEntry`
by the reference of its transaction and its line number.
-/

namespace InstalFlow
open Relational

abbrev DateTime := ℤ

inductive Role
  | superAdmin | admin | company | marketer | customer
deriving DecidableEq, Repr

inductive InstallmentStatus
  | pending | due | overdue | defaulted | paid | voided
deriving DecidableEq, Repr

inductive PaymentStatus
  | pending | success | failed
deriving DecidableEq, Repr

inductive PaymentIntentType
  | installment | onboarding | subscription
deriving DecidableEq, Repr

inductive PaymentInitStatus
  | initializing | initialized | pending | processing | success | failed | expired | cancelled
deriving DecidableEq, Repr

inductive CommissionStatus
  | active | partiallyReserved | reserved | paid | frozen
deriving DecidableEq, Repr

inductive CommissionAllocationStatus
  | reserved | paid | released
deriving DecidableEq, Repr

inductive AccountType
  | asset | liability | revenue | expense | equity
deriving DecidableEq, Repr

inductive FinancingStatus
  | pendingActivation | active | completed | defaulted | cancelled | rejected | restructured
  | writtenOff
deriving DecidableEq, Repr

def FinancingStatus.name : FinancingStatus → String
  | .pendingActivation => "PENDING_ACTIVATION"
  | .active => "ACTIVE"
  | .completed => "COMPLETED"
  | .defaulted => "DEFAULTED"
  | .cancelled => "CANCELLED"
  | .rejected => "REJECTED"
  | .restructured => "RESTRUCTURED"
  | .writtenOff => "WRITTEN_OFF"

inductive SubscriptionInterval
  | weekly | monthly | yearly
deriving DecidableEq, Repr

inductive SubscriptionStatus
  | pending | active | gracePeriod | restricted | expired | cancelled
deriving DecidableEq, Repr

inductive OnboardingStatus
  | pending | paymentInitialized | paid | completed | failed
deriving DecidableEq, Repr

inductive KycOnboardingStatus
  | pendingKyc | kycSubmitted | approved | expired | expiring | cancelled
deriving DecidableEq, Repr

inductive CommissionPayoutStatus
  | pendingAdminApproval | pendingCompanyApproval | approved | rejected | transferInitiated
  | paid | transferFailed | transferReversed
deriving DecidableEq, Repr

inductive MerchantSettlementStatus
  | generated | approved | transferInitiated | transferSuccess | transferFailed | transferReversed
deriving DecidableEq, Repr

inductive KycApplicationStatus
  | pending | approvalProcessing | approved | rejected
deriving DecidableEq, Repr

def KycApplicationStatus.name : KycApplicationStatus → String
  | .pending => "PENDING"
  | .approvalProcessing => "APPROVAL_PROCESSING"
  | .approved => "APPROVED"
  | .rejected => "REJECTED"

inductive ProductStatus
  | draft | published | soldOut | archived
deriving DecidableEq, Repr

/-- The days before or after the due date that a company can choose. -/
inductive ReminderOffsetOption
  | twoDays | threeDays | sevenDays
deriving DecidableEq, Repr

inductive SettlementAuditActor
  | system | scheduler | worker | webhook | user
deriving DecidableEq, Repr

inductive ApprovalAction
  | toggleActive | softDelete
deriving DecidableEq, Repr

inductive ApprovalStatus
  | pending | approved | rejected
deriving DecidableEq, Repr

structure User where
  userId : String
  email : String := ""
  password : String := ""
  name : Option String := none
  role : Role := .customer
  companyId : Option String := none
  referredByMarketerId : Option String := none
  createdById : Option String := none
  referralCode : Option String := none
  active : Bool := true
  deletedAt : Option DateTime := none
  forcePasswordChange : Bool := false

/-- A login, which holds the hash of its refresh token. -/
structure UserSession where
  sessionId : String
  userId : String
  tokenHash : String
  expiresAt : DateTime
  revoked : Bool := false

/-- A code by which a password can be reset once, kept as its hash -/
structure PasswordReset where
  id : ℕ
  userId : String
  otpHash : String
  expiresAt : DateTime
  attempts : ℕ := 0
  used : Bool := false
  createdAt : DateTime

/-- What an admin asks the company to do with a marketer. -/
structure ApprovalRequest where
  requestId : String
  companyId : String
  requestedById : String
  targetUserId : String
  action : ApprovalAction
  status : ApprovalStatus := .pending
  reviewReason : Option String := none
  reviewedAt : Option DateTime := none

structure OnboardingSession where
  sessionId : String
  name : String
  email : String
  passwordHash : String
  marketerId : Option String := none
  companyId : Option String := none
  status : KycOnboardingStatus := .pendingKyc
  expiresAt : DateTime

structure Category where
  categoryId : String
  name : String
  slug : String

structure Product where
  productId : String
  name : String := ""
  slug : String := ""
  companyId : Option String := none
  minPrice : Option ℚ := none
  maxPrice : Option ℚ := none
  stockQuantity : ℤ := 0
  price : ℚ := 0
  commissionRate : ℚ := 0
  status : ProductStatus := .draft
  categoryId : String := ""
  createdAt : DateTime := 0

structure ProductVariant where
  variantId : String
  productId : String
  sku : String := ""
  price : ℚ := 0
  stockQuantity : ℤ := 0
  isActive : Bool := true
  createdAt : DateTime := 0

structure ProductImage where
  id : ℕ
  imageId : String
  productId : String
  isPrimary : Bool := false
  imageUrl : String := ""
  altText : Option String := none
  sortOrder : ℤ := 0
  cloudinaryPublicId : Option String := none

/-- An image of the gallery that a variant shows. -/
structure ProductVariantImage where
  variantId : String
  imageId : ℕ
  isPrimary : Bool := false
  sortOrder : ℕ := 0

def ProductVariantImage.key (i : ProductVariantImage) : String × ℕ := (i.variantId, i.imageId)

structure ProductInstallmentPlan where
  planId : String
  productId : String
  durationMonths : ℤ
  interestPercentage : ℚ := 0
  active : Bool := true

structure KycApplication where
  kycApplicationId : String
  userId : Option String := none
  onboardingSessionId : Option String := none
  productId : String
  installmentPlanId : String := ""
  variantId : String := ""
  idType : String := ""
  idNumber : String := ""
  status : KycApplicationStatus := .pending
  marketerApproved : Bool := false
  marketerApprovedAt : Option DateTime := none
  adminApproved : Bool := false
  adminApprovedAt : Option DateTime := none
  rejectionReason : Option String := none
  legalHold : Bool := false
  isUnderFraudReview : Bool := false
  createdAt : DateTime := 0

structure KycDocumentAsset where
  assetId : String
  kycApplicationId : String
  cloudinaryPublicId : String
  secureUrl : String
  fileSize : ℕ
  mimeType : String
  fileHash : String
  isDeleted : Bool := false
  scheduledDeletionAt : DateTime

structure KycAuditTrail where
  kycApplicationId : String
  action : String
  documentType : String := "BANK_STATEMENT_PDF"
  fileHash : String
  performedById : Option String := none
  outcome : String := "SUCCESS"
  details : String

structure Referral where
  referralId : String
  marketerId : String
  referralCode : String

structure FinancingContract where
  contractId : String
  userId : Option String
  productId : String
  variantId : Option String := none
  kycApplicationId : String := ""
  approvedProductPrice : ℚ := 0
  approvedInterestPercentage : ℚ := 0
  approvedDurationMonths : ℤ := 0
  principal : ℚ := 0
  interest : ℚ := 0
  totalFinanced : ℚ := 0
  status : FinancingStatus := .active
  activatedAt : Option DateTime := none
  completedAt : Option DateTime := none
  rejectedAt : Option DateTime := none
  restructuredAt : Option DateTime := none
  restructuredById : Option String := none
  writtenOffAt : Option DateTime := none
  writtenOffById : Option String := none
  writeOffReason : Option String := none

structure Installment where
  installmentId : String
  financingContractId : String
  dueDate : DateTime
  amount : ℚ
  sequence : ℕ
  status : InstallmentStatus := .pending
  paidAt : Option DateTime := none
deriving DecidableEq

structure Payment where
  paymentId : String
  installmentId : String
  amount : ℚ
  status : PaymentStatus := .pending
  providerReference : Option String := none
  idempotencyKey : Option String := none

/-- `initializationPayload`, of which only the e-mail decides a branch. -/
structure PaymentInitializationPayload where
  email : String

structure PaymentIntent where
  intentId : String
  type : PaymentIntentType
  reference : Option String := none
  authorizationUrl : Option String := none
  status : PaymentInitStatus := .initializing
  amount : ℚ
  customerId : Option String := none
  companyId : Option String := none
  installmentId : Option String := none
  onboardingId : Option String := none
  planId : Option String := none
  reservationKey : String := ""
  idempotencyKey : String := ""
  expiresAt : DateTime
  initializationPayload : Option PaymentInitializationPayload := none
  recoveryClaimedAt : Option DateTime := none
  recoveryAttempts : ℕ := 0
  lastRecoveryError : Option String := none
  updatedAt : DateTime := 0

structure Commission where
  commissionId : String
  userId : String
  paymentId : Option String := none
  amount : ℚ
  status : CommissionStatus := .active
  reservedAmount : ℚ := 0
  createdAt : DateTime := 0

structure CommissionAllocation where
  payoutId : String
  commissionId : String
  allocatedAmount : ℚ
  status : CommissionAllocationStatus := .reserved

structure CommissionPayoutRequest where
  payoutId : String
  userId : String
  companyId : String
  transferCode : Option String := none
  amount : ℚ
  status : CommissionPayoutStatus := .pendingAdminApproval
  requestedAt : DateTime := 0
  adminApprovedById : Option String := none
  adminApprovedAt : Option DateTime := none
  companyApprovedById : Option String := none
  companyApprovedAt : Option DateTime := none
  paidAt : Option DateTime := none
  marketerBankAccountId : Option String := none
  transferInitiatedAt : Option DateTime := none
  transferCompletedAt : Option DateTime := none
  transferFailedAt : Option DateTime := none
  transferFailReason : Option String := none
  transferInitiatedById : Option String := none

structure MarketerBankAccount where
  accountId : String
  userId : String
  bankCode : String
  accountName : String
  accountNumber : String
  isPrimary : Bool := false
  recipientCode : Option String := none
  createdAt : DateTime := 0
  bankName : String := ""
  isVerified : Bool := false

structure CompanyBankAccount where
  accountId : String
  companyId : String
  bankCode : String
  accountName : String
  accountNumber : String
  isPrimary : Bool := false
  recipientCode : Option String := none
  isVerified : Bool := false
  bankName : String := ""

structure MerchantSettlementRequest where
  settlementId : String
  companyId : String
  amount : ℚ
  status : MerchantSettlementStatus := .generated
  transferCode : Option String := none
  companyBankAccountId : Option String := none
  approvedAt : Option DateTime := none
  transferQueuedAt : Option DateTime := none
  transferInitiatedAt : Option DateTime := none
  transferCodeReceivedAt : Option DateTime := none
  webhookReceivedAt : Option DateTime := none
  transferCompletedAt : Option DateTime := none
  transferFailedAt : Option DateTime := none
  transferFailReason : Option String := none
  lastRetryAt : Option DateTime := none
  retryCount : ℕ := 0
  retryInitiatedById : Option String := none

/-- An installment is in at most one line, by its unique id. -/
structure MerchantSettlementLine where
  settlementId : String
  installmentId : String
  grossAmount : ℚ
  commissionDeducted : ℚ := 0
  netAmount : ℚ

structure MerchantSettlementAuditTrail where
  settlementId : String
  action : String
  actorType : SettlementAuditActor
  performedById : Option String := none
  outcome : String
  details : String

structure Company where
  companyId : String
  name : String
  plan : String := "FREE"
  publicSignupCode : Option String := none

structure EffectiveReminderSettings where
  reminder3DayEnabled : Bool := true
  reminder3DayOffset : ReminderOffsetOption := .threeDays
  reminder1DayEnabled : Bool := true
  reminder1DayOffset : ReminderOffsetOption := .twoDays
  reminderDueTodayEnabled : Bool := true
  reminderRecurringOverdueEnabled : Bool := true
  reminderOverdue3DayEnabled : Bool := true
  reminderOverdue3DayOffset : ReminderOffsetOption := .threeDays
  reminderOverdue7DayEnabled : Bool := true
  reminderOverdue7DayOffset : ReminderOffsetOption := .sevenDays
deriving DecidableEq

structure CompanyReminderSettings extends EffectiveReminderSettings where
  companyId : String

structure SubscriptionPlan where
  planId : String
  name : String
  price : ℚ
  discountPrice : Option ℚ := none
  interval : SubscriptionInterval := .monthly
  active : Bool := true
  gracePeriodDays : ℤ := 7

structure CompanySubscription where
  subscriptionId : String
  companyId : String
  planId : String
  status : SubscriptionStatus := .pending
  startDate : Option DateTime := none
  endDate : Option DateTime := none
  createdAt : DateTime := 0

structure OnboardingIntent where
  intentId : String
  email : String
  companyName : String
  adminName : String
  planId : String
  paymentReference : Option String := none
  status : OnboardingStatus := .pending

structure LedgerAccount where
  name : String
  type : AccountType
  balance : ℚ := 0
  companyId : Option String
deriving DecidableEq

structure FinancialTransaction where
  reference : String
  description : String

structure JournalEntry where
  transactionReference : String
  line : ℕ
  ledgerAccountId : ℕ
  debit : ℚ
  credit : ℚ
deriving DecidableEq

def CommissionAllocation.key (a : CommissionAllocation) : String × String :=
  (a.payoutId, a.commissionId)

structure Ledger where
  accounts : List LedgerAccount := []
  transactions : Table FinancialTransaction.reference := .empty
  entries : List JournalEntry := []

structure Database where
  users : Table User.userId := .empty
  userSessions : Table UserSession.sessionId := .empty
  passwordResets : Table PasswordReset.id := .empty
  approvalRequests : Table ApprovalRequest.requestId := .empty
  companies : Table Company.companyId := .empty
  categories : Table Category.categoryId := .empty
  products : Table Product.productId := .empty
  productVariants : Table ProductVariant.variantId := .empty
  productImages : Table ProductImage.id := .empty
  productVariantImages : Table ProductVariantImage.key := .empty
  productInstallmentPlans : Table ProductInstallmentPlan.planId := .empty
  kycApplications : Table KycApplication.kycApplicationId := .empty
  kycDocumentAssets : Table KycDocumentAsset.assetId := .empty
  kycAuditTrail : List KycAuditTrail := []
  referrals : Table Referral.referralId := .empty
  financingContracts : Table FinancingContract.contractId := .empty
  installments : Table Installment.installmentId := .empty
  payments : Table Payment.paymentId := .empty
  paymentIntents : Table PaymentIntent.intentId := .empty
  commissions : Table Commission.commissionId := .empty
  commissionAllocations : Table CommissionAllocation.key := .empty
  commissionPayoutRequests : Table CommissionPayoutRequest.payoutId := .empty
  marketerBankAccounts : Table MarketerBankAccount.accountId := .empty
  companyBankAccounts : Table CompanyBankAccount.accountId := .empty
  merchantSettlementRequests : Table MerchantSettlementRequest.settlementId := .empty
  merchantSettlementLines : Table MerchantSettlementLine.installmentId := .empty
  merchantSettlementAuditTrail : List MerchantSettlementAuditTrail := []
  companyReminderSettings : Table CompanyReminderSettings.companyId := .empty
  subscriptionPlans : Table SubscriptionPlan.planId := .empty
  companySubscriptions : Table CompanySubscription.subscriptionId := .empty
  onboardingIntents : Table OnboardingIntent.intentId := .empty
  onboardingSessions : Table OnboardingSession.sessionId := .empty
  ledger : Ledger := {}

/-- The errors the services throw: the classes of `AppError` with their texts,
a plain `Error`, the ledger's refusal of unbalanced entries, and a unique
constraint violation (`P2002`) on the named columns. -/
inductive AppError
  | badRequest (message : String)
  | unauthorized (message : String)
  | forbidden (message : String)
  | notFound (message : String)
  | conflict (message : String)
  | error (message : String)
  | unbalancedLedger (debits credits : ℚ)
  | uniqueViolation (target : List String)
deriving DecidableEq

def AppError.message : AppError → String
  | .badRequest m | .unauthorized m | .forbidden m | .notFound m | .conflict m | .error m => m
  | .unbalancedLedger debits credits =>
      s!"Unbalanced Ledger Transaction: Debits ({debits}) != Credits ({credits})"
  | .uniqueViolation target => s!"Unique constraint failed on the fields: {target}"

/-- A refused operation leaves the database as it was. -/
def committed {α : Type} (db : Database) (state : α → Database) : Except AppError α → Database
  | .ok a => state a
  | .error _ => db

@[simp] theorem committed_ok {α : Type} (db : Database) (state : α → Database) (a : α) :
    committed db state (.ok a) = state a := rfl

@[simp] theorem committed_error {α : Type} (db : Database) (state : α → Database) (e : AppError) :
    committed db state (.error e) = db := rfl

theorem committed_rule {α : Type} {P : Database → Prop} {db : Database} {state : α → Database}
    {r : Except AppError α} (hdb : P db) (h : ∀ a, r = .ok a → P (state a)) :
    P (committed db state r) := by
  cases r with
  | error e => exact hdb
  | ok a => exact h a rfl

/-- `create` on a table: a duplicate key is Prisma's unique violation. -/
def createRow {κ ρ : Type} [DecidableEq κ] {key : ρ → κ} (t : Table key) (r : ρ)
    (target : List String) : Except AppError (Table key) :=
  match t.create r with
  | none => .error (.uniqueViolation target)
  | some u => .ok u

theorem createRow_eq_ok {κ ρ : Type} [DecidableEq κ] {key : ρ → κ} {t u : Table key} {r : ρ}
    {target : List String} : createRow t r target = .ok u ↔ t.create r = some u := by
  rw [createRow]
  cases t.create r <;> simp

theorem createRow_isOk_iff {κ ρ : Type} [DecidableEq κ] {key : ρ → κ} (t : Table key) (r : ρ)
    (target : List String) : (createRow t r target).isOk = true ↔ t.find? (key r) = none := by
  cases hcreate : createRow t r target with
  | error err =>
    refine iff_of_false Bool.false_ne_true fun hfree => ?_
    obtain ⟨created, hcreated⟩ := Table.create_isSome hfree
    rw [createRow_eq_ok.mpr hcreated] at hcreate
    cases hcreate
  | ok created =>
    exact iff_of_true rfl (Table.create_eq_some (createRow_eq_ok.mp hcreate)).1

end InstalFlow
