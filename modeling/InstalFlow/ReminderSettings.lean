import InstalFlow.ReminderDays
import InstalFlow.Transition.Program

/-!
# Reminder settings

A company changes the switches and the offsets of its reminders by patches. A
request reads the settings, merges its patch into them, checks the order of the
offsets and writes all of them at once, so what another request does between the
read and the write can be lost but never mixed in. Every row that is stored has
therefore passed the check, and the worker sends the reminders in their order.
-/

namespace InstalFlow
open Relational Transition PaymentReminderWorker

/-- `UpdateReminderSettingsSchema` -/
structure UpdateReminderSettings where
  reminder3DayEnabled : Option Bool := none
  reminder3DayOffset : Option ReminderOffsetOption := none
  reminder1DayEnabled : Option Bool := none
  reminder1DayOffset : Option ReminderOffsetOption := none
  reminderDueTodayEnabled : Option Bool := none
  reminderRecurringOverdueEnabled : Option Bool := none
  reminderOverdue3DayEnabled : Option Bool := none
  reminderOverdue3DayOffset : Option ReminderOffsetOption := none
  reminderOverdue7DayEnabled : Option Bool := none
  reminderOverdue7DayOffset : Option ReminderOffsetOption := none

/-- `{ ...existing, ...patch }` -/
def UpdateReminderSettings.merge (patch : UpdateReminderSettings)
    (existing : EffectiveReminderSettings) : EffectiveReminderSettings where
  reminder3DayEnabled := patch.reminder3DayEnabled.getD existing.reminder3DayEnabled
  reminder3DayOffset := patch.reminder3DayOffset.getD existing.reminder3DayOffset
  reminder1DayEnabled := patch.reminder1DayEnabled.getD existing.reminder1DayEnabled
  reminder1DayOffset := patch.reminder1DayOffset.getD existing.reminder1DayOffset
  reminderDueTodayEnabled := patch.reminderDueTodayEnabled.getD existing.reminderDueTodayEnabled
  reminderRecurringOverdueEnabled :=
    patch.reminderRecurringOverdueEnabled.getD existing.reminderRecurringOverdueEnabled
  reminderOverdue3DayEnabled :=
    patch.reminderOverdue3DayEnabled.getD existing.reminderOverdue3DayEnabled
  reminderOverdue3DayOffset :=
    patch.reminderOverdue3DayOffset.getD existing.reminderOverdue3DayOffset
  reminderOverdue7DayEnabled :=
    patch.reminderOverdue7DayEnabled.getD existing.reminderOverdue7DayEnabled
  reminderOverdue7DayOffset :=
    patch.reminderOverdue7DayOffset.getD existing.reminderOverdue7DayOffset

inductive ReminderSettingsWrite
  /-- `upsert` -/
  | settings (companyId : String) (merged : EffectiveReminderSettings)
  /-- A statement of other code. None writes settings; a company that is deleted takes
  its own along. -/
  | other (f : Database → Database) (keeps : ∀ db, ∀ row ∈ (f db).companyReminderSettings.rows,
      row ∈ db.companyReminderSettings.rows)

abbrev ReminderSettingsProgram :=
  Program Database ReminderSettingsWrite Unit (Except AppError EffectiveReminderSettings)

namespace ReminderSettingsService

def assertOrdering (settings : EffectiveReminderSettings) : Except AppError Unit :=
  let primary := REMINDER_OFFSET_DAYS settings.reminder3DayOffset
  let secondary := REMINDER_OFFSET_DAYS settings.reminder1DayOffset
  let overdueMarketer := REMINDER_OFFSET_DAYS settings.reminderOverdue3DayOffset
  let overdueAdmin := REMINDER_OFFSET_DAYS settings.reminderOverdue7DayOffset
  if secondary ≥ primary then
    .error (.badRequest "reminder1DayOffset must be fewer days than reminder3DayOffset.")
  else if overdueMarketer > overdueAdmin then
    .error (.badRequest
      "reminderOverdue3DayOffset must not be later than reminderOverdue7DayOffset.")
  else .ok ()

def getForCompany (companyId : String) (db : Database) : EffectiveReminderSettings :=
  match db.companyReminderSettings.find? companyId with
  | some row => row.toEffectiveReminderSettings
  | none => DEFAULT_REMINDER_SETTINGS

def overwrite (merged : EffectiveReminderSettings) (row : CompanyReminderSettings) :
    CompanyReminderSettings :=
  { merged with companyId := row.companyId }

def upsert (companyId : String) (merged : EffectiveReminderSettings) (db : Database) :
    Except AppError Database :=
  match db.companyReminderSettings.find? companyId with
  | some _ => .ok { db with
      companyReminderSettings := db.companyReminderSettings.update companyId (overwrite merged) }
  | none =>
    if (db.companies.find? companyId).isSome then
      (createRow db.companyReminderSettings { merged with companyId } ["companyId"]).map
        fun companyReminderSettings => { db with companyReminderSettings }
    else .error (.error "Foreign key constraint violated")

/-- A statement that the database refuses leaves it as it was. -/
def execute (_ : Unit) (db : Database) : ReminderSettingsWrite → Database
  | .settings companyId merged => committed db id (upsert companyId merged db)
  | .other f _ => f db

def updateForCompany (companyId : String) (patch : UpdateReminderSettings) :
    ReminderSettingsProgram :=
  .read fun _ db =>
    let merged := patch.merge (getForCompany companyId db)
    match assertOrdering merged with
    | .error err => .done (.error err)
    | .ok () => .write (.settings companyId merged) fun _ db =>
        .done ((upsert companyId merged db).map fun _ => merged)

/-- The order that `assertOrdering` asks of the offsets. -/
structure Ordered (settings : EffectiveReminderSettings) : Prop where
  reminders : REMINDER_OFFSET_DAYS settings.reminder1DayOffset <
    REMINDER_OFFSET_DAYS settings.reminder3DayOffset
  escalations : REMINDER_OFFSET_DAYS settings.reminderOverdue3DayOffset ≤
    REMINDER_OFFSET_DAYS settings.reminderOverdue7DayOffset

theorem assertOrdering_eq_ok_iff {settings : EffectiveReminderSettings} :
    assertOrdering settings = .ok () ↔ Ordered settings := by
  simp only [assertOrdering]
  split
  · rename_i hsecondary
    exact iff_of_false (by simp) fun h => not_lt.mpr hsecondary h.reminders
  · rename_i hsecondary
    split
    · rename_i hmarketer
      exact iff_of_false (by simp) fun h => not_lt.mpr h.escalations hmarketer
    · rename_i hmarketer
      exact iff_of_true rfl ⟨not_le.mp hsecondary, not_lt.mp hmarketer⟩

theorem ordered_default : Ordered DEFAULT_REMINDER_SETTINGS := ⟨by decide, by decide⟩

def StoredOrdered (db : Database) : Prop :=
  ∀ row ∈ db.companyReminderSettings.rows, Ordered row.toEffectiveReminderSettings

/-- What a request may send: settings that have passed the check. -/
def Checked : ReminderSettingsWrite → Prop
  | .settings _ merged => Ordered merged
  | .other _ _ => True

theorem sends_updateForCompany (companyId : String) (patch : UpdateReminderSettings) :
    (updateForCompany companyId patch).Sends Checked := by
  intro _ db
  simp only []
  split
  · trivial
  · rename_i hchecked
    exact ⟨assertOrdering_eq_ok_iff.mp hchecked, fun _ _ => trivial⟩

theorem settingsFor_eq_getForCompany (companyId : String) (db : Database) :
    settingsFor (effectiveSettingsMap db) (some companyId) = getForCompany companyId db := by
  rw [settingsFor, Option.bind_some, effectiveSettingsMap, getForCompany]
  cases db.companyReminderSettings.find? companyId <;> rfl

theorem mem_update_overwrite {settings : Table CompanyReminderSettings.companyId}
    {companyId : String} {merged : EffectiveReminderSettings} {row : CompanyReminderSettings}
    (h : row ∈ (settings.update companyId (overwrite merged)).rows) :
    row ∈ settings.rows ∨ row.toEffectiveReminderSettings = merged := by
  refine (Table.mem_update h).imp id fun hnew => ?_
  obtain ⟨_, -, rfl⟩ := hnew
  rfl

/-- The rows after an `upsert` are those before it and the one it writes. -/
theorem mem_upsert {companyId : String} {merged : EffectiveReminderSettings} {db db' : Database}
    (h : upsert companyId merged db = .ok db') {row : CompanyReminderSettings}
    (hrow : row ∈ db'.companyReminderSettings.rows) :
    row ∈ db.companyReminderSettings.rows ∨ row.toEffectiveReminderSettings = merged := by
  rw [upsert] at h
  split at h
  · cases h
    exact mem_update_overwrite hrow
  · split at h
    · cases hcreate : createRow db.companyReminderSettings { merged with companyId } ["companyId"]
        with
      | error err =>
        rw [hcreate] at h
        cases h
      | ok created =>
        rw [hcreate] at h
        cases h
        rw [(Table.create_eq_some (createRow_eq_ok.mp hcreate)).2, List.mem_append,
          List.mem_singleton] at hrow
        refine hrow.imp id fun hnew => ?_
        rw [hnew]
    · cases h

theorem storedOrdered_execute {e : Unit} {db : Database} {w : ReminderSettingsWrite}
    (hw : Checked w) (h : StoredOrdered db) : StoredOrdered (execute e db w) := by
  cases w with
  | settings companyId merged =>
    refine committed_rule h fun db' hok row hrow => ?_
    rcases mem_upsert hok hrow with hold | hnew
    · exact h row hold
    · rw [hnew]
      exact hw
  | other f keeps => exact fun row hrow => h row (keeps db row hrow)

theorem ordered_settingsFor {db : Database} (h : StoredOrdered db) (companyId : Option String) :
    Ordered (settingsFor (effectiveSettingsMap db) companyId) := by
  cases companyId with
  | none => exact ordered_default
  | some companyId =>
    rw [settingsFor_eq_getForCompany, getForCompany]
    split
    · rename_i row hfind
      exact h row (Table.mem_of_find? hfind)
    · exact ordered_default

end ReminderSettingsService

open ReminderSettingsService

/-- The day on which the worker sends the reminder of an installment, under the settings. -/
def ReminderFamily.sentOn (f : ReminderFamily) (settings : EffectiveReminderSettings)
    (dueDate : DateTime) : ℤ :=
  f.day (REMINDER_OFFSET_DAYS (f.offset settings)) dueDate

/-- What the order of the offsets is for: the customer's reminders come one after the other,
on days of their own, and the admin hears of a delay when the marketer has, or later. -/
structure SentInOrder (db : Database) : Prop where
  reminders : ∀ companyId dueDate,
    let settings := settingsFor (effectiveSettingsMap db) companyId
    ReminderFamily.threeDay.sentOn settings dueDate < ReminderFamily.oneDay.sentOn settings dueDate
  escalations : ∀ companyId dueDate,
    let settings := settingsFor (effectiveSettingsMap db) companyId
    ReminderFamily.overdue3Day.sentOn settings dueDate ≤
      ReminderFamily.overdue7Day.sentOn settings dueDate
  apart : ∀ now i,
    (process3DayReminders.reminder now (effectiveSettingsMap db) i db).isSome →
      process1DayReminders.reminder now (effectiveSettingsMap db) i db = none

/-- A scan before the due date sends only as many days ahead as its offset says. -/
theorem daysUntil_of_beforeDue {event : ReminderEvent} {type : String}
    {enabled : EffectiveReminderSettings → Bool}
    {offset : EffectiveReminderSettings → ReminderOffsetOption} {now : DateTime}
    {settingsMap : String → Option EffectiveReminderSettings} {i : Installment} {db : Database}
    (h : ((beforeDue event type enabled offset).reminder now settingsMap i db).isSome) :
    daysUntil (todayStart now) i.dueDate = REMINDER_OFFSET_DAYS
      (offset (settingsFor settingsMap ((customerOf db i).bind User.companyId))) := by
  by_contra hdays
  simp [ReminderScan.reminder, beforeDue, hdays] at h

theorem sentInOrder {db : Database} (h : StoredOrdered db) : SentInOrder db where
  reminders companyId dueDate := by
    have hlt := (ordered_settingsFor h companyId).reminders
    exact sub_lt_sub_left hlt _
  escalations companyId dueDate := by
    have hle := (ordered_settingsFor h companyId).escalations
    exact add_le_add_right hle _
  apart now i hfirst := by
    by_contra hsecond
    have hprimary := daysUntil_of_beforeDue hfirst
    have hsecondary := daysUntil_of_beforeDue (Option.isSome_iff_ne_none.mpr hsecond)
    have hlt := (ordered_settingsFor h ((customerOf db i).bind User.companyId)).reminders
    exact hlt.ne (hsecondary.symm.trans hprimary)

section interleaving
variable {ι : Type}

/-- Requests that update settings, and programs of other code. -/
def SettingsClients (c : Config Database ι ReminderSettingsProgram) : Prop :=
  ∀ i, (∃ companyId patch, c.threads i = updateForCompany companyId patch) ∨
    (c.threads i).Sends fun w => ∃ f keeps, w = .other f keeps

theorem SettingsClients.checked {c : Config Database ι ReminderSettingsProgram}
    (h : SettingsClients c) (i : ι) : (c.threads i).Sends Checked := by
  rcases h i with ⟨companyId, patch, hi⟩ | hother
  · rw [hi]
    exact sends_updateForCompany companyId patch
  · refine hother.imp fun w hw => ?_
    obtain ⟨f, keeps, rfl⟩ := hw
    trivial

variable [DecidableEq ι]

/-- However requests are interleaved, the worker sends reminders in their order. -/
theorem sentInOrder_throughout {c : Config Database ι ReminderSettingsProgram}
    (hclients : SettingsClients c) (hstored : StoredOrdered c.shared) (ls : List (ι × Unit)) :
    Throughout (perform execute) (fun c => SentInOrder c.shared) c ls := by
  have hstep : ∀ (c : Config Database ι ReminderSettingsProgram) (l : ι × Unit),
      (StoredOrdered c.shared ∧ ∀ i, (c.threads i).Sends Checked) → True →
      StoredOrdered (perform execute c l).shared ∧
        ∀ i, ((perform execute c l).threads i).Sends Checked := by
    intro c l hc _
    refine ⟨?_, perform_sends hc.2 l⟩
    rw [perform_shared, Program.advance_shared]
    cases hw : (c.threads l.1).pending with
    | none => exact hc.1
    | some w => exact storedOrdered_execute (e := l.2) ((hc.2 l.1).pending w hw) hc.1
  have hall := (along_of_forall (fun _ _ => trivial) c ls).throughout hstep
    ⟨hstored, hclients.checked⟩
  exact hall.imp fun c hc => sentInOrder hc.1

end interleaving

/-- Two patches that pass only one after the other, both read before either writes. -/
theorem sentInOrder_throughout_two_patches : Throughout (perform execute)
    (fun c => SentInOrder c.shared)
    { shared := { companies := ⟨[{ companyId := "company", name := "Company" }], by decide⟩ }
      threads := fun b => updateForCompany "company"
        (if b then { reminder3DayOffset := some .sevenDays }
        else { reminder1DayOffset := some .threeDays }) }
    [(true, ()), (false, ()), (true, ()), (false, ())] :=
  sentInOrder_throughout (fun _ => .inl ⟨"company", _, rfl⟩)
    (fun _ hrow => absurd hrow List.not_mem_nil) _

end InstalFlow
