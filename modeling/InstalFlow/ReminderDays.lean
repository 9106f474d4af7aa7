import InstalFlow.InstallmentReminders
import InstalFlow.Transition.Run
import Mathlib.Tactic.Linarith

/-!
# The day of a reminder

The worker runs once on every day, while the rest of the database changes as it
likes. Each scan meets its test of the days on one day only. The query reaches
that day, except for an escalation after seven days: seven whole days after a due
time that is not midnight are counted on the eighth day, whose query begins after
the due time.
-/

namespace InstalFlow
open Relational Transition PaymentReminderWorker

/-- The reminders with an offset. -/
inductive ReminderFamily
  | threeDay | oneDay | overdue3Day | overdue7Day
deriving DecidableEq

namespace ReminderFamily

def scan : ReminderFamily → ReminderScan
  | threeDay => process3DayReminders
  | oneDay => process1DayReminders
  | overdue3Day => process3DayOverdue
  | overdue7Day => process7DayOverdue

/-- The type in the keys of the scan -/
def type : ReminderFamily → String
  | threeDay => "3day"
  | oneDay => "1day"
  | overdue3Day => "overdue-3day"
  | overdue7Day => "overdue-7day"

def escalates : ReminderFamily → Bool
  | threeDay | oneDay => false
  | overdue3Day | overdue7Day => true

def enabled : ReminderFamily → EffectiveReminderSettings → Bool
  | threeDay => EffectiveReminderSettings.reminder3DayEnabled
  | oneDay => EffectiveReminderSettings.reminder1DayEnabled
  | overdue3Day => EffectiveReminderSettings.reminderOverdue3DayEnabled
  | overdue7Day => EffectiveReminderSettings.reminderOverdue7DayEnabled

def offset : ReminderFamily → EffectiveReminderSettings → ReminderOffsetOption
  | threeDay => EffectiveReminderSettings.reminder3DayOffset
  | oneDay => EffectiveReminderSettings.reminder1DayOffset
  | overdue3Day => EffectiveReminderSettings.reminderOverdue3DayOffset
  | overdue7Day => EffectiveReminderSettings.reminderOverdue7DayOffset

/-- The day on which the test of the days succeeds: before the due date it rounds to
the nearest midnight, after it to the next. -/
def day (f : ReminderFamily) (offset : ℤ) (dueDate : DateTime) : ℤ :=
  if f.escalates then (dueDate + dayMs - 1) / dayMs + offset
  else (dueDate + dayMs / 2) / dayMs - offset

/-- An escalation after seven days needs a due date at midnight. -/
def Reaches (f : ReminderFamily) (settings : EffectiveReminderSettings) (dueDate : DateTime) :
    Prop :=
  f.escalates = true → f.offset settings ≠ .sevenDays ∨ dueDate % dayMs = 0

instance (f : ReminderFamily) (settings : EffectiveReminderSettings) (dueDate : DateTime) :
    Decidable (f.Reaches settings dueDate) :=
  inferInstanceAs (Decidable (f.escalates = true → _ ∨ _))

end ReminderFamily

/-- How often the reminder has been sent for the installment. -/
def ReminderState.timesSent (s : ReminderState) (event : ReminderEvent) (installmentId : String) :
    ℕ :=
  s.emitted.countP (fun e => e.event = event ∧ e.payload.installmentId = installmentId)

/-- A day: what else happens to the database, and then the run of the worker. -/
structure ReminderDay where
  others : Database → Database := fun db => db
  now : DateTime
  pendingFirst : Bool := true

def remindDaily (s : ReminderState) (day : ReminderDay) : ReminderState :=
  PaymentReminderWorker.run day.now day.pendingFirst { s with db := day.others s.db }

/-- One run on every UTC day from the day number `first`. -/
def Daily : ℤ → List ReminderDay → Prop
  | _, [] => True
  | first, day :: days => utcDay day.now = first ∧ Daily (first + 1) days

instance decidableDaily : ∀ (first : ℤ) (days : List ReminderDay), Decidable (Daily first days)
  | _, [] => inferInstanceAs (Decidable True)
  | first, day :: days =>
    have := decidableDaily (first + 1) days
    inferInstanceAs (Decidable (utcDay day.now = first ∧ Daily (first + 1) days))

/-- The contract is ACTIVE, the settings of the customer's company are those given,
and there is an admin for the escalation that needs one. -/
structure ReminderFamily.Possible (f : ReminderFamily) (i : Installment)
    (settings : EffectiveReminderSettings) (db : Database) : Prop where
  active : contractActive db i = true
  settings : settingsFor (effectiveSettingsMap db) ((customerOf db i).bind User.companyId) = settings
  admin : f = overdue7Day → (findAdmin db (customerOf db i)).isSome = true

instance (f : ReminderFamily) (i : Installment) (settings : EffectiveReminderSettings)
    (db : Database) : Decidable (f.Possible i settings db) :=
  decidable_of_iff (contractActive db i = true ∧
      settingsFor (effectiveSettingsMap db) ((customerOf db i).bind User.companyId) = settings ∧
      (f = .overdue7Day → (findAdmin db (customerOf db i)).isSome = true))
    ⟨fun h => ⟨h.1, h.2.1, h.2.2⟩, fun h => ⟨h.active, h.settings, h.admin⟩⟩

/-- What else happens leaves the installment alone. -/
def ReminderFamily.Undisturbed (f : ReminderFamily) (installmentId : String)
    (settings : EffectiveReminderSettings) (s : ReminderState) (day : ReminderDay) : Prop :=
  (day.others s.db).installments.find? installmentId = s.db.installments.find? installmentId ∧
    ∀ i ∈ s.db.installments.find? installmentId, f.Possible i settings (day.others s.db)

instance (f : ReminderFamily) (installmentId : String) (settings : EffectiveReminderSettings)
    (s : ReminderState) (day : ReminderDay) :
    Decidable (f.Undisturbed installmentId settings s day) :=
  inferInstanceAs (Decidable (_ ∧ ∀ i ∈ s.db.installments.find? installmentId, _))

namespace PaymentReminderWorker
section scans
variable {scan : ReminderScan} {now : DateTime}
  {settingsMap : String → Option EffectiveReminderSettings} {s : ReminderState} {i : Installment}
  {event : ReminderEvent} {type installmentId : String}

namespace ReminderScan

theorem remind_db (scan : ReminderScan) (now : DateTime)
    (settingsMap : String → Option EffectiveReminderSettings) (s : ReminderState)
    (i : Installment) : (scan.remind now settingsMap s i).db = s.db := by
  rw [remind]
  split
  · rfl
  · split <;> rfl

theorem installmentId_reminder {db : Database} {payload : ReminderPayload}
    (h : scan.reminder now settingsMap i db = some payload) :
    payload.installmentId = i.installmentId := by
  rw [reminder] at h
  split at h
  · obtain ⟨recipients, -, rfl⟩ := Option.map_eq_some_iff.mp h
    rfl
  · cases h

/-- A reminder of another kind, or for another installment. -/
theorem timesSent_remind_ne (h : scan.event ≠ event ∨ i.installmentId ≠ installmentId) :
    (scan.remind now settingsMap s i).timesSent event installmentId =
      s.timesSent event installmentId := by
  rw [remind]
  split
  · rfl
  · rename_i payload hpayload
    split
    · rfl
    · have hid := installmentId_reminder hpayload
      rw [ReminderState.timesSent, List.countP_append]
      have hzero : ¬ (scan.event = event ∧ payload.installmentId = installmentId) := by
        rw [hid]
        tauto
      simp [hzero, ReminderState.timesSent]

theorem mem_redis_remind {p : ReminderKey × DateTime}
    (h : p ∈ (scan.remind now settingsMap s i).redis) : p ∈ s.redis ∨ p.1 = scan.key now i := by
  rw [remind] at h
  split at h
  · exact .inl h
  · split at h
    · exact .inl h
    · rcases List.mem_append.mp h with h | h
      · exact .inl h
      · rw [List.mem_singleton.mp h]
        exact .inr rfl

theorem timesSent_remind_self (h : ∀ p ∈ s.redis, p.1 ≠ scan.key now i) :
    (scan.remind now settingsMap s i).timesSent scan.event i.installmentId =
      s.timesSent scan.event i.installmentId +
        if (scan.reminder now settingsMap i s.db).isSome then 1 else 0 := by
  have hfree : s.redis.any (fun p => p.1 = scan.key now i ∧ now < p.2) = false := by
    rw [List.any_eq_false]
    intro p hp
    simp [h p hp]
  rw [remind]
  cases hreminder : scan.reminder now settingsMap i s.db with
  | none => rfl
  | some payload =>
    have hid : payload.installmentId = i.installmentId := installmentId_reminder hreminder
    simp only [hfree, Bool.false_eq_true, if_false]
    rw [ReminderState.timesSent, List.countP_append]
    simp [hid, ReminderState.timesSent]

theorem foldl_remind_db (rows : List Installment) :
    (rows.foldl (scan.remind now settingsMap) s).db = s.db := by
  induction rows generalizing s with
  | nil => rfl
  | cons i rows ih => rw [List.foldl_cons, ih, remind_db]

theorem timesSent_foldl_ne {rows : List Installment}
    (h : scan.event ≠ event ∨ ∀ i ∈ rows, i.installmentId ≠ installmentId) :
    (rows.foldl (scan.remind now settingsMap) s).timesSent event installmentId =
      s.timesSent event installmentId := by
  induction rows generalizing s with
  | nil => rfl
  | cons i rows ih =>
    rw [List.foldl_cons, ih (h.imp id fun h j hj => h j (List.mem_cons_of_mem i hj)),
      timesSent_remind_ne (h.imp id fun h => h i List.mem_cons_self)]

theorem mem_redis_foldl {rows : List Installment} {p : ReminderKey × DateTime}
    (h : p ∈ (rows.foldl (scan.remind now settingsMap) s).redis) :
    p ∈ s.redis ∨ ∃ i ∈ rows, p.1 = scan.key now i := by
  induction rows generalizing s with
  | nil => exact .inl h
  | cons i rows ih =>
    rcases ih h with h | ⟨j, hj, hkey⟩
    · rcases mem_redis_remind h with h | hkey
      · exact .inl h
      · exact .inr ⟨i, List.mem_cons_self, hkey⟩
    · exact .inr ⟨j, List.mem_cons_of_mem i hj, hkey⟩

theorem process_db (scan : ReminderScan) (now : DateTime)
    (settingsMap : String → Option EffectiveReminderSettings) (s : ReminderState) :
    (scan.process now settingsMap s).db = s.db := foldl_remind_db _

theorem timesSent_process_ne (h : scan.event ≠ event) :
    (process now settingsMap s scan).timesSent event installmentId =
      s.timesSent event installmentId := timesSent_foldl_ne (.inl h)

theorem mem_redis_process {p : ReminderKey × DateTime}
    (h : p ∈ (process now settingsMap s scan).redis) :
    p ∈ s.redis ∨ p.1.day = utcDay now ∧ ∃ days, p.1.type = scan.type days := by
  refine (mem_redis_foldl h).imp id fun hkey => ?_
  obtain ⟨i, -, hkey⟩ := hkey
  rw [hkey]
  exact ⟨rfl, _, rfl⟩

/-- The scan sends the reminder of an installment that it finds, if one is due. -/
theorem timesSent_process_self (hfind : s.db.installments.find? installmentId = some i)
    (hfresh : ∀ p ∈ s.redis, p.1 ≠ scan.key now i) :
    (process now settingsMap s scan).timesSent scan.event installmentId =
      s.timesSent scan.event installmentId +
        if scan.query now s.db i ∧ (scan.reminder now settingsMap i s.db).isSome then 1 else 0 := by
  obtain ⟨hmem, rfl⟩ := Table.find?_eq_some_iff.mp hfind
  by_cases hquery : scan.query now s.db i = true
  · have hi : i ∈ s.db.installments.rows.filter (scan.query now s.db) :=
      List.mem_filter.mpr ⟨hmem, hquery⟩
    have hnodup : ((s.db.installments.rows.filter (scan.query now s.db)).map
        Installment.installmentId).Nodup :=
      s.db.installments.unique.sublist (List.filter_sublist.map _)
    obtain ⟨front, rest, hsplit⟩ := List.append_of_mem hi
    rw [hsplit, List.map_append, List.map_cons, List.nodup_append] at hnodup
    obtain ⟨-, hrest, hfront⟩ := hnodup
    have hne : ∀ j ∈ front, j.installmentId ≠ i.installmentId := fun j hj =>
      hfront _ (List.mem_map_of_mem hj) _ List.mem_cons_self
    have hne' : ∀ j ∈ rest, j.installmentId ≠ i.installmentId := fun j hj he =>
      (List.nodup_cons.mp hrest).1 (he ▸ List.mem_map_of_mem hj)
    have hfresh' : ∀ p ∈ (front.foldl (scan.remind now settingsMap) s).redis,
        p.1 ≠ scan.key now i := by
      intro p hp
      rcases mem_redis_foldl hp with hp | ⟨j, hj, hkey⟩
      · exact hfresh p hp
      · intro he
        exact hne j hj (congrArg ReminderKey.entityId (hkey.symm.trans he))
    rw [process, hsplit, List.foldl_append, List.foldl_cons, timesSent_foldl_ne (.inr hne'),
      timesSent_remind_self hfresh', timesSent_foldl_ne (.inr hne), foldl_remind_db]
    simp [hquery]
  · have hne : ∀ j ∈ s.db.installments.rows.filter (scan.query now s.db),
        j.installmentId ≠ i.installmentId := by
      intro j hj he
      obtain ⟨hj, hq⟩ := List.mem_filter.mp hj
      rw [Table.key_injective hj hmem he] at hq
      exact hquery hq
    rw [process, timesSent_foldl_ne (.inr hne)]
    simp [hquery]

theorem foldl_process_db (scans : List ReminderScan) :
    (scans.foldl (process now settingsMap) s).db = s.db := by
  induction scans generalizing s with
  | nil => rfl
  | cons scan scans ih => rw [List.foldl_cons, ih, process_db]

theorem timesSent_foldl_process_ne {scans : List ReminderScan}
    (h : ∀ scan ∈ scans, scan.event ≠ event) :
    (scans.foldl (process now settingsMap) s).timesSent event installmentId =
      s.timesSent event installmentId := by
  induction scans generalizing s with
  | nil => rfl
  | cons scan scans ih =>
    rw [List.foldl_cons, ih fun other hother => h other (List.mem_cons_of_mem scan hother),
      timesSent_process_ne (h scan List.mem_cons_self)]

theorem mem_redis_foldl_process {scans : List ReminderScan} {p : ReminderKey × DateTime}
    (h : p ∈ (scans.foldl (process now settingsMap) s).redis) : p ∈ s.redis ∨
      p.1.day = utcDay now ∧ ∃ scan ∈ scans, ∃ days, p.1.type = scan.type days := by
  induction scans generalizing s with
  | nil => exact .inl h
  | cons scan scans ih =>
    rcases ih h with h | ⟨hday, other, hother, htype⟩
    · rcases mem_redis_process h with h | ⟨hday, htype⟩
      · exact .inl h
      · exact .inr ⟨hday, scan, List.mem_cons_self, htype⟩
    · exact .inr ⟨hday, other, List.mem_cons_of_mem scan hother, htype⟩

end ReminderScan

/-- Another scan sends other events, under other keys. -/
def Apart (f : ReminderFamily) (scan : ReminderScan) : Prop :=
  scan.event ≠ f.scan.event ∧ ∀ days, scan.type days ≠ f.type

theorem apart_processRecurringReminders (f : ReminderFamily) :
    Apart f processRecurringReminders := by
  have htype (days : ℤ) (type : String) (h : type.toList.head? ≠ some 'r') :
      processRecurringReminders.type days ≠ type := by
    rintro rfl
    simp [processRecurringReminders] at h
  cases f <;> exact ⟨nofun, fun days => htype days _ (by decide)⟩

theorem scans_eq (f : ReminderFamily) : ∃ front rest, scans = front ++ f.scan :: rest ∧
    ∀ scan ∈ front ++ rest, Apart f scan := by
  have hrecurring := apart_processRecurringReminders f
  have hapart {others : List ReminderScan} (h : ∀ scan ∈ others, scan = processRecurringReminders ∨
      Apart f scan) : ∀ scan ∈ others, Apart f scan := fun scan hscan => by
    rcases h scan hscan with rfl | h
    exacts [hrecurring, h]
  cases f with
  | threeDay => exact ⟨[], _, rfl, hapart (by simp [Apart, ReminderFamily.scan,
      ReminderFamily.type, process3DayReminders, process1DayReminders, beforeDue,
      processDueTodayReminders, process3DayOverdue, process7DayOverdue, overdueEscalation])⟩
  | oneDay => exact ⟨[_], _, rfl, hapart (by simp [Apart, ReminderFamily.scan,
      ReminderFamily.type, process3DayReminders, process1DayReminders, beforeDue,
      processDueTodayReminders, process3DayOverdue, process7DayOverdue, overdueEscalation])⟩
  | overdue3Day => exact ⟨[_, _, _, _], _, rfl, hapart (by simp [Apart, ReminderFamily.scan,
      ReminderFamily.type, process3DayReminders, process1DayReminders, beforeDue,
      processDueTodayReminders, process3DayOverdue, process7DayOverdue, overdueEscalation])⟩
  | overdue7Day => exact ⟨[_, _, _, _, _], _, rfl, hapart (by simp [Apart, ReminderFamily.scan,
      ReminderFamily.type, process3DayReminders, process1DayReminders, beforeDue,
      processDueTodayReminders, process3DayOverdue, process7DayOverdue, overdueEscalation])⟩

theorem type_scan (f : ReminderFamily) (days : ℤ) : f.scan.type days = f.type := by
  cases f <;> rfl

theorem run_db (now : DateTime) (pendingFirst : Bool) (s : ReminderState) :
    (run now pendingFirst s).db = transitionInstallmentStatuses now pendingFirst s.db := by
  rw [run, ReminderScan.foldl_process_db]

theorem mem_redis_run {pendingFirst : Bool} {p : ReminderKey × DateTime}
    (h : p ∈ (run now pendingFirst s).redis) : p ∈ s.redis ∨ p.1.day = utcDay now := by
  rw [run] at h
  rcases ReminderScan.mem_redis_foldl_process h with h | ⟨hday, -⟩
  · exact .inl h
  · exact .inr hday

/-- A run sends a reminder if its scan finds the installment and it is due. -/
theorem timesSent_run {pendingFirst : Bool} (f : ReminderFamily) {db : Database}
    (hdb : db = transitionInstallmentStatuses now pendingFirst s.db)
    (hfind : db.installments.find? installmentId = some i)
    (hfresh : ∀ p ∈ s.redis, p.1.day ≠ utcDay now) :
    (run now pendingFirst s).timesSent f.scan.event installmentId =
      s.timesSent f.scan.event installmentId +
        if f.scan.query now db i ∧ (f.scan.reminder now (effectiveSettingsMap db) i db).isSome
        then 1 else 0 := by
  obtain ⟨front, rest, hscans, hapart⟩ := scans_eq f
  have hfront (scan : ReminderScan) (h : scan ∈ front) : Apart f scan :=
    hapart scan (List.mem_append_left rest h)
  have hrest (scan : ReminderScan) (h : scan ∈ rest) : Apart f scan :=
    hapart scan (List.mem_append_right front h)
  have hrun : run now pendingFirst s =
      scans.foldl (ReminderScan.process now (effectiveSettingsMap db)) { s with db } := by
    rw [hdb]
    rfl
  have hsame : ReminderState.timesSent { s with db } f.scan.event installmentId =
      s.timesSent f.scan.event installmentId := rfl
  generalize hs : ({ s with db } : ReminderState) = s' at hrun hsame
  have hdb' : s'.db = db := by rw [← hs]
  rw [hrun, hscans, List.foldl_append, List.foldl_cons,
    ReminderScan.timesSent_foldl_process_ne fun scan h => (hrest scan h).1,
    ReminderScan.timesSent_process_self (i := i), ReminderScan.foldl_process_db,
    ReminderScan.timesSent_foldl_process_ne fun scan h => (hfront scan h).1, hsame, hdb']
  · rw [ReminderScan.foldl_process_db, hdb']
    exact hfind
  · intro p hp hkey
    rcases ReminderScan.mem_redis_foldl_process hp with hp | ⟨-, scan, hscan, days, htype⟩
    · rw [← hs] at hp
      exact hfresh p hp (congrArg ReminderKey.day hkey)
    · refine (hfront scan hscan).2 days (htype.symm.trans ?_)
      rw [hkey]
      exact type_scan f _

end scans

/-- An unpaid installment that is OVERDUE only after its due date. -/
structure OnTime (status : InstallmentStatus) (dueDate today : DateTime) : Prop where
  unpaid : status = .pending ∨ status = .due ∨ status = .overdue
  late : status = .overdue → dueDate < today

theorem find?_transition {source target : InstallmentStatus} {dueBy : DateTime → Bool}
    {db : Database} {installmentId : String} {i : Installment}
    (h : db.installments.find? installmentId = some i) (hactive : contractActive db i = true) :
    (transition source target dueBy db).installments.find? installmentId =
      some { i with status := if i.status = source ∧ dueBy i.dueDate then target else i.status } := by
  refine (Table.find?_updateMany db.installments
    (fun i => i.status = source ∧ dueBy i.dueDate ∧ contractActive db i)
    (fun i => { i with status := target }) (fun _ => rfl) installmentId).trans ?_
  rw [h, Option.map_some]
  by_cases hmoves : i.status = source ∧ dueBy i.dueDate = true <;> simp [hmoves, hactive]

section status
variable {now : DateTime} {db : Database} {installmentId : String} {i : Installment}

theorem find?_pendingToDue (h : db.installments.find? installmentId = some i)
    (hactive : contractActive db i = true)
    (hontime : OnTime i.status i.dueDate (todayStart now)) : ∃ status,
    (pendingToDue now db).installments.find? installmentId = some { i with status } ∧
    OnTime status i.dueDate (todayStart now) ∧ (i.dueDate ≤ todayStart now → status ≠ .pending) := by
  refine ⟨_, find?_transition h hactive, ?_⟩
  by_cases hmoves : i.status = .pending ∧ decide (i.dueDate ≤ todayStart now) = true
  · rw [if_pos hmoves]
    exact ⟨⟨.inr (.inl rfl), nofun⟩, fun _ => nofun⟩
  · rw [if_neg hmoves]
    exact ⟨hontime, fun hdue hs => hmoves ⟨hs, by simpa using hdue⟩⟩

theorem find?_dueToOverdue (h : db.installments.find? installmentId = some i)
    (hactive : contractActive db i = true)
    (hontime : OnTime i.status i.dueDate (todayStart now)) : ∃ status,
    (dueToOverdue now db).installments.find? installmentId = some { i with status } ∧
    OnTime status i.dueDate (todayStart now) ∧ (i.status ≠ .pending → status ≠ .pending) := by
  refine ⟨_, find?_transition h hactive, ?_⟩
  by_cases hmoves : i.status = .due ∧ decide (i.dueDate < todayStart now - 3 * dayMs) = true
  · rw [if_pos hmoves]
    have hlate : (i.dueDate : ℤ) < todayStart now - 3 * dayMs := of_decide_eq_true hmoves.2
    have hday : 0 ≤ dayMs := by decide
    exact ⟨⟨.inr (.inr rfl), fun _ => by linarith⟩, fun _ => nofun⟩
  · rw [if_neg hmoves]
    exact ⟨hontime, id⟩

/-- Whichever update is first, what is due is no longer PENDING. -/
theorem find?_transitionInstallmentStatuses (pendingFirst : Bool)
    (h : db.installments.find? installmentId = some i) (hactive : contractActive db i = true)
    (hontime : OnTime i.status i.dueDate (todayStart now)) : ∃ status,
    (transitionInstallmentStatuses now pendingFirst db).installments.find? installmentId =
      some { i with status } ∧
    OnTime status i.dueDate (todayStart now) ∧ (i.dueDate ≤ todayStart now → status ≠ .pending) := by
  rw [transitionInstallmentStatuses]
  cases pendingFirst with
  | true =>
    obtain ⟨first, hfirst, hontime', hdue⟩ := find?_pendingToDue h hactive hontime
    obtain ⟨status, hfind, hontime'', hkept⟩ := find?_dueToOverdue hfirst hactive hontime'
    exact ⟨status, hfind, hontime'', fun hd => hkept (hdue hd)⟩
  | false =>
    obtain ⟨first, hfirst, hontime', -⟩ := find?_dueToOverdue h hactive hontime
    obtain ⟨status, hfind, hontime'', hdue⟩ := find?_pendingToDue hfirst hactive hontime'
    exact ⟨status, hfind, hontime'', hdue⟩

theorem possible_transitionInstallmentStatuses {f : ReminderFamily}
    {settings : EffectiveReminderSettings} (h : f.Possible i settings db) (now : DateTime)
    (pendingFirst : Bool) (status : InstallmentStatus) : f.Possible { i with status } settings
      (transitionInstallmentStatuses now pendingFirst db) := by
  rw [transitionInstallmentStatuses]
  cases pendingFirst <;> exact ⟨h.active, h.settings, h.admin⟩

end status

theorem todayStart_eq (now : DateTime) : todayStart now = utcDay now * dayMs := by
  have hdiv := Int.emod_add_ediv_mul now dayMs
  rw [todayStart, utcDay]
  linarith

theorem daysUntil_eq_iff (today dueDate offset : ℤ) :
    daysUntil (today * dayMs) dueDate = offset ↔ today = (dueDate + dayMs / 2) / dayMs - offset := by
  simp only [daysUntil, dayMs]
  omega

theorem daysOverdue_eq_iff (today dueDate offset : ℤ) :
    daysOverdue (today * dayMs) dueDate = offset ↔
      today = (dueDate + dayMs - 1) / dayMs + offset := by
  simp only [daysOverdue, dayMs]
  omega

theorem reminder_isSome_iff {scan : ReminderScan} {now : DateTime} {i : Installment} {db : Database}
    {settings : EffectiveReminderSettings}
    (h : settingsFor (effectiveSettingsMap db) ((customerOf db i).bind User.companyId) = settings) :
    (scan.reminder now (effectiveSettingsMap db) i db).isSome ↔
      scan.due settings (scan.days (todayStart now) i.dueDate) = true ∧
      (scan.recipients db (customerOf db i)).isSome := by
  rw [ReminderScan.reminder, h]
  by_cases hdue : scan.due settings (scan.days (todayStart now) i.dueDate) = true <;> simp [hdue]

theorem offset_pos (offset : ReminderOffsetOption) :
    1 ≤ REMINDER_OFFSET_DAYS offset ∧ REMINDER_OFFSET_DAYS offset ≤ MAX_REMINDER_OFFSET_DAYS := by
  cases offset <;> decide

theorem offset_eq_max_iff (offset : ReminderOffsetOption) :
    REMINDER_OFFSET_DAYS offset = MAX_REMINDER_OFFSET_DAYS ↔ offset = .sevenDays := by
  cases offset <;> decide

theorem before_day {day dueDate offset : ℤ} (hpos : 1 ≤ offset)
    (hmax : offset ≤ MAX_REMINDER_OFFSET_DAYS) (hday : day = (dueDate + dayMs / 2) / dayMs - offset) :
    day * dayMs ≤ dueDate ∧ dueDate < day * dayMs + (MAX_REMINDER_OFFSET_DAYS + 1) * dayMs := by
  simp only [dayMs, MAX_REMINDER_OFFSET_DAYS] at *
  omega

theorem after_day {day dueDate offset : ℤ} (hpos : 1 ≤ offset)
    (hmax : offset ≤ MAX_REMINDER_OFFSET_DAYS)
    (hday : day = (dueDate + dayMs - 1) / dayMs + offset) : dueDate < day * dayMs ∧
      (day * dayMs - MAX_REMINDER_OFFSET_DAYS * dayMs ≤ dueDate ↔
        offset ≠ MAX_REMINDER_OFFSET_DAYS ∨ dueDate % dayMs = 0) := by
  simp only [dayMs, MAX_REMINDER_OFFSET_DAYS] at *
  omega

section fires
variable {now : DateTime} {i : Installment} {db : Database} {settings : EffectiveReminderSettings}
  {event : ReminderEvent} {type : String} {enabled : EffectiveReminderSettings → Bool}
  {offset : EffectiveReminderSettings → ReminderOffsetOption}

theorem beforeDue_fires_iff (hactive : contractActive db i = true)
    (hsettings : settingsFor (effectiveSettingsMap db) ((customerOf db i).bind User.companyId) =
      settings)
    (hontime : OnTime i.status i.dueDate (todayStart now)) (henabled : enabled settings = true) :
    ((beforeDue event type enabled offset).query now db i ∧
      ((beforeDue event type enabled offset).reminder now (effectiveSettingsMap db) i db).isSome) ↔
    utcDay now = (i.dueDate + dayMs / 2) / dayMs - REMINDER_OFFSET_DAYS (offset settings) := by
  have hmax := offset_pos (offset settings)
  rw [reminder_isSome_iff hsettings]
  have hdays := daysUntil_eq_iff (utcDay now) i.dueDate (REMINDER_OFFSET_DAYS (offset settings))
  rw [← todayStart_eq] at hdays
  simp only [beforeDue, henabled, hactive, hdays, decide_eq_true_eq, Bool.decide_and, Bool.and_eq_true,
    true_and, and_true, Option.isSome_some]
  refine and_iff_right_of_imp fun hday => ?_
  obtain ⟨hpast, hfuture⟩ := before_day hmax.1 hmax.2 hday
  rw [← todayStart_eq] at hpast hfuture
  refine ⟨hpast, hfuture, ?_⟩
  rcases hontime.unpaid with hs | hs | hs
  · simp [unpaidBefore, hs]
  · simp [unpaidBefore, hs]
  · exact absurd (hontime.late hs) (not_lt.mpr hpast)

/-- The query of an escalation ends seven days after the due date to the millisecond. -/
theorem overdueEscalation_fires_iff
    {recipients : Database → Option User →
      Option (Option ReminderRecipient × Option ReminderRecipient)}
    (hactive : contractActive db i = true)
    (hsettings : settingsFor (effectiveSettingsMap db) ((customerOf db i).bind User.companyId) =
      settings)
    (hontime : OnTime i.status i.dueDate (todayStart now))
    (hdue : i.dueDate ≤ todayStart now → i.status ≠ .pending) (henabled : enabled settings = true)
    (hrecipients : (recipients db (customerOf db i)).isSome = true) :
    ((overdueEscalation event type enabled offset recipients).query now db i ∧
      ((overdueEscalation event type enabled offset recipients).reminder now
        (effectiveSettingsMap db) i db).isSome) ↔
    utcDay now = (i.dueDate + dayMs - 1) / dayMs + REMINDER_OFFSET_DAYS (offset settings) ∧
      (offset settings ≠ .sevenDays ∨ i.dueDate % dayMs = 0) := by
  have hmax := offset_pos (offset settings)
  rw [reminder_isSome_iff hsettings]
  have hdays := daysOverdue_eq_iff (utcDay now) i.dueDate (REMINDER_OFFSET_DAYS (offset settings))
  rw [← todayStart_eq] at hdays
  simp only [overdueEscalation, henabled, hactive, hdays, hrecipients, decide_eq_true_eq,
    Bool.decide_and, Bool.and_eq_true, true_and, and_true]
  rw [and_comm]
  refine and_congr_right fun hday => ?_
  obtain ⟨hpast, hreach⟩ := after_day hmax.1 hmax.2 hday
  rw [← todayStart_eq] at hpast hreach
  rw [hreach, ne_eq, offset_eq_max_iff]
  have hlater : i.dueDate < todayStart now + dayMs := by
    have hday : (0 : ℤ) < dayMs := by decide
    linarith
  have hunpaid : unpaidAfter i = true := by
    rcases hontime.unpaid with hs | hs | hs
    · exact absurd hs (hdue hpast.le)
    · simp [unpaidAfter, hs]
    · simp [unpaidAfter, hs]
  exact and_iff_left ⟨hlater, hunpaid⟩

end fires

theorem fires_iff {f : ReminderFamily} {now : DateTime} {i : Installment} {db : Database}
    {settings : EffectiveReminderSettings} (hpossible : f.Possible i settings db)
    (hontime : OnTime i.status i.dueDate (todayStart now))
    (hdue : i.dueDate ≤ todayStart now → i.status ≠ .pending)
    (henabled : f.enabled settings = true) :
    (f.scan.query now db i ∧ (f.scan.reminder now (effectiveSettingsMap db) i db).isSome) ↔
      utcDay now = f.day (REMINDER_OFFSET_DAYS (f.offset settings)) i.dueDate ∧
        f.Reaches settings i.dueDate := by
  cases f with
  | threeDay =>
    refine (beforeDue_fires_iff hpossible.active hpossible.settings hontime henabled).trans ?_
    simp [ReminderFamily.day, ReminderFamily.Reaches, ReminderFamily.escalates,
      ReminderFamily.offset]
  | oneDay =>
    refine (beforeDue_fires_iff hpossible.active hpossible.settings hontime henabled).trans ?_
    simp [ReminderFamily.day, ReminderFamily.Reaches, ReminderFamily.escalates,
      ReminderFamily.offset]
  | overdue3Day =>
    refine (overdueEscalation_fires_iff hpossible.active hpossible.settings hontime hdue henabled
      rfl).trans ?_
    simp [ReminderFamily.day, ReminderFamily.Reaches, ReminderFamily.escalates,
      ReminderFamily.offset]
  | overdue7Day =>
    have hadmin := hpossible.admin rfl
    refine (overdueEscalation_fires_iff hpossible.active hpossible.settings hontime hdue henabled
      (by simpa using hadmin)).trans ?_
    simp [ReminderFamily.day, ReminderFamily.Reaches, ReminderFamily.escalates,
      ReminderFamily.offset]

/-- Before the run of a day: the installment is unpaid, and Redis has no key of the day. -/
structure Awaiting (installmentId : String) (dueDate : DateTime) (today : ℤ) (s : ReminderState) :
    Prop where
  installment : ∃ i, s.db.installments.find? installmentId = some i ∧ i.dueDate = dueDate ∧
    OnTime i.status dueDate (today * dayMs)
  redis : ∀ p ∈ s.redis, p.1.day < today

theorem awaiting_remindDaily {f : ReminderFamily} {installmentId : String} {dueDate : DateTime}
    {settings : EffectiveReminderSettings} {s : ReminderState} {day : ReminderDay}
    (h : Awaiting installmentId dueDate (utcDay day.now) s)
    (hundisturbed : f.Undisturbed installmentId settings s day)
    (henabled : f.enabled settings = true) :
    Awaiting installmentId dueDate (utcDay day.now + 1) (remindDaily s day) ∧
      (remindDaily s day).timesSent f.scan.event installmentId =
        s.timesSent f.scan.event installmentId +
          if utcDay day.now = f.day (REMINDER_OFFSET_DAYS (f.offset settings)) dueDate ∧
            f.Reaches settings dueDate then 1 else 0 := by
  obtain ⟨⟨i, hfind, rfl, hontime⟩, hredis⟩ := h
  have hpossible := hundisturbed.2 i hfind
  have hfind' : (day.others s.db).installments.find? installmentId = some i :=
    hundisturbed.1.trans hfind
  rw [← todayStart_eq] at hontime
  obtain ⟨status, hmoved, hontime', hdue⟩ :=
    find?_transitionInstallmentStatuses day.pendingFirst hfind' hpossible.active hontime
  have hfires := fires_iff (possible_transitionInstallmentStatuses hpossible day.now
    day.pendingFirst status)
    hontime' hdue henabled
  constructor
  · refine ⟨⟨{ i with status }, ?_, rfl, ?_⟩, fun p hp => ?_⟩
    · rw [remindDaily, run_db]
      exact hmoved
    · refine ⟨hontime'.unpaid, fun hs => (hontime'.late hs).trans_le ?_⟩
      have hday : (0 : ℤ) ≤ dayMs := by decide
      rw [todayStart_eq]
      linarith
    · rcases mem_redis_run hp with hp | hday
      · have := hredis p hp
        omega
      · omega
  · rw [remindDaily, timesSent_run (s := { s with db := day.others s.db }) f rfl hmoved
      fun p hp => (hredis p hp).ne]
    simp only [hfires]
    rfl

end PaymentReminderWorker

theorem one_day_more (day today : ℤ) (n : ℕ) {p : Prop} [Decidable p] :
    ((if day = today ∧ p then 1 else 0) +
        if day + 1 ≤ today ∧ today < day + 1 + n ∧ p then 1 else 0) =
      if day ≤ today ∧ today < day + (n + 1 : ℕ) ∧ p then 1 else 0 := by
  by_cases hp : p
  · simp only [hp, and_true]
    push_cast
    split_ifs <;> omega
  · simp [hp]

/-- Over the days of a run: at most once, and then on the day the test names. -/
theorem timesSent_days {f : ReminderFamily} {installmentId : String} {dueDate : DateTime}
    {settings : EffectiveReminderSettings} (henabled : f.enabled settings = true)
    {first : ℤ} {s : ReminderState} {days : List ReminderDay} (hdaily : Daily first days)
    (h : Awaiting installmentId dueDate first s)
    (hundisturbed : Along remindDaily (f.Undisturbed installmentId settings) s days) :
    let today := f.day (REMINDER_OFFSET_DAYS (f.offset settings)) dueDate
    (run remindDaily s days).timesSent f.scan.event installmentId =
      s.timesSent f.scan.event installmentId +
        if first ≤ today ∧ today < first + days.length ∧ f.Reaches settings dueDate then 1
        else 0 := by
  intro today
  induction days generalizing s first with
  | nil =>
    have hnever : ¬ (first ≤ today ∧ today < first + ([] : List ReminderDay).length ∧
        f.Reaches settings dueDate) := by
      simp only [List.length_nil]
      omega
    rw [if_neg hnever]
    rfl
  | cons day days ih =>
    obtain ⟨rfl, hdaily⟩ := hdaily
    obtain ⟨hawaiting, hsent⟩ := awaiting_remindDaily h hundisturbed.1 henabled
    rw [run_cons, ih hdaily hawaiting hundisturbed.2, hsent, List.length_cons, add_assoc]
    exact congrArg _ (one_day_more (utcDay day.now) today days.length)

/-- Of the reminders that are enabled, exactly the escalations after seven days of
installments that are not due at midnight are never sent; every other is sent once.
The runs begin a week before the due date at the latest, and go on for a week after. -/
theorem reminder_sent_once_iff (f : ReminderFamily) (i : Installment)
    (settings : EffectiveReminderSettings) (s : ReminderState) (first : ℤ) (days : List ReminderDay)
    (hfind : s.db.installments.find? i.installmentId = some i)
    (hunpaid : i.status = .pending ∨ i.status = .due) (hredis : ∀ p ∈ s.redis, p.1.day < first)
    (hemitted : s.emitted = []) (hdaily : Daily first days)
    (hundisturbed : Along remindDaily (f.Undisturbed i.installmentId settings) s days)
    (hbefore : first + 7 ≤ utcDay i.dueDate) (hafter : utcDay i.dueDate + 8 < first + days.length)
    (henabled : f.enabled settings = true) :
    (run remindDaily s days).timesSent f.scan.event i.installmentId = 1 ↔
      f.Reaches settings i.dueDate := by
  have hontime : OnTime i.status i.dueDate (first * dayMs) :=
    ⟨hunpaid.imp id .inl, fun hs => by rcases hunpaid with h | h <;> rw [hs] at h <;> cases h⟩
  have hawaiting : Awaiting i.installmentId i.dueDate first s :=
    ⟨⟨i, hfind, rfl, hontime⟩, hredis⟩
  have hzero : s.timesSent f.scan.event i.installmentId = 0 := by
    rw [ReminderState.timesSent, hemitted]
    rfl
  have hrange : first ≤ f.day (REMINDER_OFFSET_DAYS (f.offset settings)) i.dueDate ∧
      f.day (REMINDER_OFFSET_DAYS (f.offset settings)) i.dueDate < first + days.length := by
    have hmax := offset_pos (f.offset settings)
    simp only [ReminderFamily.day, utcDay, dayMs, MAX_REMINDER_OFFSET_DAYS] at *
    split_ifs <;> omega
  rw [timesSent_days henabled hdaily hawaiting hundisturbed, hzero, zero_add]
  simp [hrange]

/-- An ACTIVE contract with one installment, and somebody to notify. -/
def remindedAt (dueDate : DateTime) : ReminderState where
  db :=
    { users := ⟨[{ userId := "root", role := .superAdmin }, { userId := "u" }], by decide⟩
      financingContracts := ⟨[{ contractId := "c", userId := some "u", productId := "p" }],
        by decide⟩
      installments := ⟨[{ installmentId := "i", financingContractId := "c", dueDate, amount := 100
                          sequence := 1 }], List.nodup_singleton _⟩ }

/-- A run at nine in the morning of each of twenty days. -/
def everyMorning : List ReminderDay :=
  (List.range 20).map fun n => { now := n * dayMs + 9 * 60 * 60 * 1000 }

theorem due_at_midnight_escalated :
    (run remindDaily (remindedAt (10 * dayMs)) everyMorning).timesSent .overdue7Day "i" = 1 :=
  (reminder_sent_once_iff .overdue7Day
    { installmentId := "i", financingContractId := "c", dueDate := 10 * dayMs, amount := 100
      sequence := 1 } DEFAULT_REMINDER_SETTINGS (remindedAt (10 * dayMs)) 0 everyMorning rfl
    (.inl rfl) (fun _ hp => nomatch hp) rfl (by decide +kernel) (by decide +kernel) (by decide)
    (by decide +kernel) rfl).mpr (by decide)

/-- Due at noon, and never escalated after seven days. -/
theorem due_at_noon_not_escalated :
    Along remindDaily (ReminderFamily.overdue7Day.Undisturbed "i" DEFAULT_REMINDER_SETTINGS)
      (remindedAt (10 * dayMs + dayMs / 2)) everyMorning ∧
    (run remindDaily (remindedAt (10 * dayMs + dayMs / 2)) everyMorning).timesSent
      .overdue7Day "i" = 0 := by
  decide +kernel

end InstalFlow
