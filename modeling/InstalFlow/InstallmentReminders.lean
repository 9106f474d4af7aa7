import InstalFlow.Calendar
import InstalFlow.PaymentReminder

/-!
# The reminders of the worker

A run moves the statuses and then scans the installments six times: before the
due date, on it, and after it. Each scan has a query for the range of due dates
that some company's offset can reach, a test of the day for each installment,
and a key in Redis that lets the reminder through once a day. The scans run side
by side; they share only Redis, in which each has keys of its own. Dates and
amounts are given to the templates as they are, and a reminder that is sent is a
row of `emitted`.
-/

namespace InstalFlow
open Relational

def REMINDER_OFFSET_DAYS : ReminderOffsetOption → ℤ
  | .twoDays => 2
  | .threeDays => 3
  | .sevenDays => 7

def MAX_REMINDER_OFFSET_DAYS : ℤ := 7

def DEFAULT_REMINDER_SETTINGS : EffectiveReminderSettings := {}

/-- `getEffectiveSettingsMap` -/
def effectiveSettingsMap (db : Database) (companyId : String) : Option EffectiveReminderSettings :=
  (db.companyReminderSettings.find? companyId).map
    CompanyReminderSettings.toEffectiveReminderSettings

def settingsFor (settingsMap : String → Option EffectiveReminderSettings)
    (companyId : Option String) : EffectiveReminderSettings :=
  (companyId.bind settingsMap).getD DEFAULT_REMINDER_SETTINGS

/-- The key `reminder:sent:entityId:type:day`. -/
structure ReminderKey where
  entityId : String
  type : String
  day : ℤ
deriving DecidableEq

inductive ReminderEvent
  | reminder3Day | reminder1Day | dueToday | overdueRecurring | overdue3Day | overdue7Day
deriving DecidableEq

structure ReminderRecipient where
  email : String
  name : String
  userId : String

structure ReminderPayload where
  customerEmail : String
  customerName : String
  customerId : String
  installmentId : String
  sequence : ℕ
  dueDate : DateTime
  amount : ℚ
  productName : String
  variantName : Option String
  percentagePaid : ℚ
  days : ℤ
  marketer : Option ReminderRecipient := none
  admin : Option ReminderRecipient := none

structure EmittedReminder where
  event : ReminderEvent
  payload : ReminderPayload

/-- The database, the keys in Redis with the times they expire, and what has been sent. -/
structure ReminderState where
  db : Database
  redis : List (ReminderKey × DateTime) := []
  emitted : List EmittedReminder := []

namespace PaymentReminderWorker

def reminderTtl : ℤ := 24 * 60 * 60 * 1000

def utcDay (now : DateTime) : ℤ := now / dayMs

def customerOf (db : Database) (i : Installment) : Option User :=
  ((db.financingContracts.find? i.financingContractId).bind FinancingContract.userId).bind
    db.users.find?

/-- What of the contract is paid, in percent, to two decimals. -/
def calculateProgress (contractId : String) (db : Database) : ℚ :=
  match db.financingContracts.find? contractId with
  | none => 0
  | some contract =>
    let totalPaid := db.installments.sumWhere
      (fun i => i.financingContractId = contractId ∧ i.status = .paid) Installment.amount
    if contract.totalFinanced = 0 then 0
    else ((totalPaid / contract.totalFinanced * 100 * 100 + 1 / 2).floor : ℚ) / 100

/-- One of the six scans. -/
structure ReminderScan where
  event : ReminderEvent
  query : DateTime → Database → Installment → Bool
  /-- `daysUntil` or `daysOverdue`, from the start of the day and the due date -/
  days : DateTime → DateTime → ℤ
  due : EffectiveReminderSettings → ℤ → Bool
  type : ℤ → String
  /-- the marketer and the admin to notify; `none` skips the installment -/
  recipients : Database → Option User → Option (Option ReminderRecipient × Option ReminderRecipient)

namespace ReminderScan

def payload (days : ℤ) (i : Installment)
    (recipients : Option ReminderRecipient × Option ReminderRecipient) (db : Database) :
    ReminderPayload :=
  let contract := db.financingContracts.find? i.financingContractId
  let customer := customerOf db i
  { customerEmail := (customer.map User.email).getD ""
    customerName := (customer.bind User.name).getD "Customer"
    customerId := (customer.map User.userId).getD ""
    installmentId := i.installmentId
    sequence := i.sequence
    dueDate := i.dueDate
    amount := i.amount
    productName := ((contract.bind fun c => db.products.find? c.productId).map Product.name).getD ""
    variantName := ((contract.bind FinancingContract.variantId).bind
      db.productVariants.find?).map ProductVariant.sku
    percentagePaid := calculateProgress i.financingContractId db
    days
    marketer := recipients.1
    admin := recipients.2 }

/-- The reminder that an installment of the query's result is due, if there is one. -/
def reminder (scan : ReminderScan) (now : DateTime)
    (settingsMap : String → Option EffectiveReminderSettings) (i : Installment) (db : Database) :
    Option ReminderPayload :=
  let customer := customerOf db i
  let days := scan.days (todayStart now) i.dueDate
  if scan.due (settingsFor settingsMap (customer.bind User.companyId)) days then
    (scan.recipients db customer).map fun recipients => payload days i recipients db
  else none

def key (scan : ReminderScan) (now : DateTime) (i : Installment) : ReminderKey where
  entityId := i.installmentId
  type := scan.type (scan.days (todayStart now) i.dueDate)
  day := utcDay now

/-- `ensureReminderSent` sets the key unless it is there. -/
def remind (scan : ReminderScan) (now : DateTime)
    (settingsMap : String → Option EffectiveReminderSettings) (s : ReminderState)
    (i : Installment) : ReminderState :=
  match scan.reminder now settingsMap i s.db with
  | none => s
  | some payload =>
    if s.redis.any (fun p => p.1 = scan.key now i ∧ now < p.2) then s
    else
      { s with
        redis := s.redis ++ [(scan.key now i, now + reminderTtl)]
        emitted := s.emitted ++ [{ event := scan.event, payload }] }

def process (now : DateTime) (settingsMap : String → Option EffectiveReminderSettings)
    (s : ReminderState) (scan : ReminderScan) : ReminderState :=
  (s.db.installments.rows.filter (scan.query now s.db)).foldl (scan.remind now settingsMap) s

end ReminderScan

/-- `Math.round` of the days from the start of the day to the due date -/
def daysUntil (todayStart dueDate : DateTime) : ℤ := (dueDate - todayStart + dayMs / 2) / dayMs

def daysOverdue (todayStart dueDate : DateTime) : ℤ := (todayStart - dueDate) / dayMs

def unpaidBefore (i : Installment) : Bool := i.status = .pending ∨ i.status = .due

def unpaidAfter (i : Installment) : Bool := i.status = .due ∨ i.status = .overdue

/-- The scans before the due date, which differ in the settings they ask. -/
def beforeDue (event : ReminderEvent) (type : String)
    (enabled : EffectiveReminderSettings → Bool)
    (offset : EffectiveReminderSettings → ReminderOffsetOption) : ReminderScan where
  event := event
  query now db i :=
    let rangeStart := todayStart now
    rangeStart ≤ i.dueDate ∧
      i.dueDate < rangeStart + (MAX_REMINDER_OFFSET_DAYS + 1) * dayMs ∧
      unpaidBefore i ∧ contractActive db i
  days := daysUntil
  due settings days := enabled settings ∧ days = REMINDER_OFFSET_DAYS (offset settings)
  type _ := type
  recipients _ _ := some (none, none)

def process3DayReminders : ReminderScan :=
  beforeDue .reminder3Day "3day" EffectiveReminderSettings.reminder3DayEnabled
    EffectiveReminderSettings.reminder3DayOffset

def process1DayReminders : ReminderScan :=
  beforeDue .reminder1Day "1day" EffectiveReminderSettings.reminder1DayEnabled
    EffectiveReminderSettings.reminder1DayOffset

def processDueTodayReminders : ReminderScan where
  event := .dueToday
  query now db i :=
    todayStart now ≤ i.dueDate ∧ i.dueDate < todayStart now + dayMs ∧ unpaidBefore i ∧
      contractActive db i
  days _ _ := 0
  due settings _ := settings.reminderDueTodayEnabled
  type _ := "due-today"
  recipients _ _ := some (none, none)

def overdueCandidate (db : Database) (i : Installment) : Bool :=
  (i.status = .pending ∨ i.status = .due ∨ i.status = .overdue) ∧ contractActive db i

/-- The first installment of each contract that is not paid. -/
def processRecurringReminders : ReminderScan where
  event := .overdueRecurring
  query _ db i := overdueCandidate db i ∧ db.installments.rows.all (fun j =>
    j.financingContractId = i.financingContractId → overdueCandidate db j → i.sequence ≤ j.sequence)
  days := daysOverdue
  due settings days := settings.reminderRecurringOverdueEnabled ∧ 1 ≤ days
  type days := "recurring-" ++ toString days
  recipients _ _ := some (none, none)

def findMarketer (db : Database) (customer : Option User) : Option User :=
  ((customer.bind User.referredByMarketerId).bind db.users.find?).filter
    (fun u => u.role = .marketer)

/-- The marketer's creator, else some SUPER_ADMIN. -/
def findAdmin (db : Database) (customer : Option User) : Option User :=
  ((((findMarketer db customer).bind User.createdById).bind db.users.find?).filter
    (fun u => u.role = .admin ∨ u.role = .company)).or
    (db.users.rows.find? (fun u => u.role = .superAdmin))

def marketerRecipient (marketer : Option User) : ReminderRecipient where
  email := (marketer.map User.email).getD ""
  name := (marketer.bind User.name).getD "N/A"
  userId := (marketer.map User.userId).getD ""

def adminRecipient (admin : User) : ReminderRecipient where
  email := admin.email
  name := admin.name.getD "Admin"
  userId := admin.userId

/-- The escalations after the due date. -/
def overdueEscalation (event : ReminderEvent) (type : String)
    (enabled : EffectiveReminderSettings → Bool)
    (offset : EffectiveReminderSettings → ReminderOffsetOption)
    (recipients : Database → Option User →
      Option (Option ReminderRecipient × Option ReminderRecipient)) : ReminderScan where
  event := event
  query now db i :=
    todayStart now - MAX_REMINDER_OFFSET_DAYS * dayMs ≤ i.dueDate ∧
      i.dueDate < todayStart now + dayMs ∧ unpaidAfter i ∧ contractActive db i
  days := daysOverdue
  due settings days := enabled settings ∧ days = REMINDER_OFFSET_DAYS (offset settings)
  type _ := type
  recipients := recipients

def process3DayOverdue : ReminderScan :=
  overdueEscalation .overdue3Day "overdue-3day"
    EffectiveReminderSettings.reminderOverdue3DayEnabled
    EffectiveReminderSettings.reminderOverdue3DayOffset
    fun db customer => some (some (marketerRecipient (findMarketer db customer)), none)

def process7DayOverdue : ReminderScan :=
  overdueEscalation .overdue7Day "overdue-7day"
    EffectiveReminderSettings.reminderOverdue7DayEnabled
    EffectiveReminderSettings.reminderOverdue7DayOffset
    fun db customer => (findAdmin db customer).map fun admin =>
      (some (marketerRecipient (findMarketer db customer)), some (adminRecipient admin))

/-- The two updates are sent at once; `pendingFirst` tells which is executed first. -/
def transitionInstallmentStatuses (now : DateTime) (pendingFirst : Bool) (db : Database) :
    Database :=
  if pendingFirst then dueToOverdue now (pendingToDue now db)
  else pendingToDue now (dueToOverdue now db)

def scans : List ReminderScan :=
  [process3DayReminders, process1DayReminders, processDueTodayReminders,
    processRecurringReminders, process3DayOverdue, process7DayOverdue]

def run (now : DateTime) (pendingFirst : Bool) (s : ReminderState) : ReminderState :=
  let db := transitionInstallmentStatuses now pendingFirst s.db
  scans.foldl (ReminderScan.process now (effectiveSettingsMap db)) { s with db }

end PaymentReminderWorker
end InstalFlow
