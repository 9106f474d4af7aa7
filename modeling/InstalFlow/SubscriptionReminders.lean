import InstalFlow.InstallmentReminders
import InstalFlow.SubscriptionPrograms
import InstalFlow.Transition.Credit
import Mathlib.Tactic.Linarith

/-!
# The announcements of the renewal worker

A run of the worker scans the subscriptions for those that end soon, end today or are
about to leave their grace period, and moves those that have ended. Before each reminder
it sets a key in Redis that names the subscription, the kind and the day, if the key is not
there, and sends the reminder only then. Runs overlap when one is slow or a server has
been restarted: their statements are executed in any order, and one may stop anywhere.
-/

namespace InstalFlow
open Relational Transition PaymentReminderWorker

inductive SubscriptionEvent
  | renewalReminder7Day | renewalReminder3Day | expiresToday | gracePeriodStarted
  | gracePeriodExpiring | restricted
deriving DecidableEq, Repr

/-- The type in the key of a reminder; a transition has none. -/
def SubscriptionEvent.type : SubscriptionEvent → Option String
  | renewalReminder7Day => some "7day"
  | renewalReminder3Day => some "3day"
  | expiresToday => some "expires-today"
  | gracePeriodExpiring => some "grace-expiring"
  | gracePeriodStarted | restricted => none

structure SubscriptionPayload where
  companyId : String
  companyEmails : List String
  companyName : String
  planName : String
  endDate : Option DateTime
  gracePeriodDays : Option ℤ := none

/-- An event of the worker, with the key that has been set for it, if any -/
structure SubscriptionAnnouncement where
  event : SubscriptionEvent
  payload : SubscriptionPayload
  claimed : Option ReminderKey := none

/-- The clock is that of the last statement. -/
structure RenewalState where
  db : Database
  clock : DateTime
  redis : List (ReminderKey × DateTime) := []
  emitted : List SubscriptionAnnouncement := []

inductive RenewalWrite
  /-- `SET key 1 EX ttl NX` -/
  | claim (entityId type : String)
  | emit (announcement : SubscriptionAnnouncement)
  | transitionTo (subscriptionId : String) (status : SubscriptionStatus)
  /-- A statement of other code -/
  | other (f : Database → Database)

namespace RenewalState

/-- `elapsed` is the time since the last statement. -/
def now (s : RenewalState) (elapsed : ℕ) : DateTime := s.clock + elapsed

def reminderKey (s : RenewalState) (elapsed : ℕ) (entityId type : String) : ReminderKey where
  entityId := entityId
  type := type
  day := utcDay (s.now elapsed)

/-- The key is not there, or it has expired. -/
def free (s : RenewalState) (elapsed : ℕ) (key : ReminderKey) : Bool :=
  !s.redis.any fun p => p.1 = key ∧ s.now elapsed < p.2

end RenewalState

theorem CompanySubscription.withStatus_id (status : SubscriptionStatus) (s : CompanySubscription) :
    (s.withStatus status).subscriptionId = s.subscriptionId := rfl

def RenewalWrite.execute (elapsed : ℕ) (s : RenewalState) : RenewalWrite → RenewalState
  | claim entityId type =>
    let key := s.reminderKey elapsed entityId type
    { s with
      clock := s.now elapsed
      redis := if s.free elapsed key then s.redis ++ [(key, s.now elapsed + reminderTtl)]
        else s.redis }
  | emit announcement =>
    { s with clock := s.now elapsed, emitted := s.emitted ++ [announcement] }
  | transitionTo subscriptionId status =>
    { s with
      clock := s.now elapsed
      db := { s.db with
        companySubscriptions := s.db.companySubscriptions.update subscriptionId
          (CompanySubscription.withStatus status) (CompanySubscription.withStatus_id status) } }
  | other f => { s with clock := s.now elapsed, db := f s.db }

abbrev RenewalProgram := Program RenewalState RenewalWrite ℕ Unit

namespace RenewalScans
open SubscriptionRenewalWorker (lapsed graceElapsed)

/-- Midnight of the day so many days after today, and of the next one -/
def dayWindow (now : DateTime) (offsetDays : ℤ) : DateTime × DateTime :=
  (todayStart now + offsetDays * dayMs, todayStart now + (offsetDays + 1) * dayMs)

def basePayload (db : Database) (sub : CompanySubscription) : SubscriptionPayload where
  companyId := sub.companyId
  companyEmails := (db.users.rows.filter fun u =>
    u.companyId = some sub.companyId ∧ u.role = .company).map User.email
  companyName := ((db.companies.find? sub.companyId).map Company.name).getD ""
  planName := ((db.subscriptionPlans.find? sub.planId).map SubscriptionPlan.name).getD ""
  endDate := sub.endDate

def gracePeriodDays (db : Database) (sub : CompanySubscription) : ℤ :=
  ((db.subscriptionPlans.find? sub.planId).map SubscriptionPlan.gracePeriodDays).getD 0

/-- The loop of a scan over what its query has found: claim, and then announce -/
def remindAll (type : String) (event : SubscriptionEvent) :
    List (String × SubscriptionPayload) → RenewalProgram
  | [] => .done ()
  | sub :: subs => .write (.claim sub.1 type) fun elapsed s =>
    let key := s.reminderKey elapsed sub.1 type
    if s.free elapsed key then
      .write (.emit { event, payload := sub.2, claimed := some key }) fun _ _ =>
        remindAll type event subs
    else remindAll type event subs

/-- ACTIVE subscriptions that end in the window -/
def endingIn (window : DateTime × DateTime) (db : Database) : List (String × SubscriptionPayload) :=
  (db.companySubscriptions.rows.filter fun s => s.status = .active ∧
    s.endDate.any fun endDate => window.1 ≤ endDate ∧ endDate < window.2).map
    fun s => (s.subscriptionId, basePayload db s)

def processReminder (offsetDays : ℤ) (type : String) (event : SubscriptionEvent) :
    RenewalProgram :=
  .read fun elapsed s =>
    let window := dayWindow (s.now elapsed) offsetDays
    .read fun _ s => remindAll type event (endingIn window s.db)

def process7DayReminder : RenewalProgram := processReminder 7 "7day" .renewalReminder7Day

def process3DayReminder : RenewalProgram := processReminder 3 "3day" .renewalReminder3Day

def processExpiresTodayReminder : RenewalProgram :=
  processReminder 0 "expires-today" .expiresToday

/-- `Math.ceil` of the days until the grace period is over -/
def daysLeft (now : DateTime) (graceExpiresAt : DateTime) : ℤ :=
  (graceExpiresAt - now + (dayMs - 1)) / dayMs

def graceExpiresAt (db : Database) (s : CompanySubscription) : Option DateTime :=
  s.endDate.map fun endDate => endDate + gracePeriodDays db s * dayMs

def gracePayload (db : Database) (s : CompanySubscription) : SubscriptionPayload :=
  { basePayload db s with gracePeriodDays := some (gracePeriodDays db s) }

def processGracePeriodExpiryReminder : RenewalProgram :=
  .read fun elapsed s =>
    let now := s.now elapsed
    .read fun _ s => remindAll "grace-expiring" .gracePeriodExpiring
      ((s.db.companySubscriptions.rows.filter fun sub => sub.status = .gracePeriod ∧
        (graceExpiresAt s.db sub).any fun expiry => daysLeft now expiry = 1).map
        fun sub => (sub.subscriptionId, gracePayload s.db sub))

/-- The loop of a transition, which announces without a key. The update of a row that is
not there ends it. -/
def transitionAll (status : SubscriptionStatus) (event : SubscriptionEvent) :
    List (String × SubscriptionPayload) → RenewalProgram
  | [] => .done ()
  | sub :: subs => .write (.transitionTo sub.1 status) fun _ s =>
    if (s.db.companySubscriptions.find? sub.1).isSome then
      .write (.emit { event, payload := sub.2 }) fun _ _ => transitionAll status event subs
    else .done ()

def processGracePeriodTransition : RenewalProgram :=
  .read fun elapsed s =>
    let now := s.now elapsed
    .read fun _ s => transitionAll .gracePeriod .gracePeriodStarted
      ((s.db.companySubscriptions.rows.filter (lapsed now)).map
        fun sub => (sub.subscriptionId, gracePayload s.db sub))

def processRestrictedTransition : RenewalProgram :=
  .read fun elapsed s =>
    let now := s.now elapsed
    .read fun _ s => transitionAll .restricted .restricted
      ((s.db.companySubscriptions.rows.filter fun sub =>
        sub.status = .gracePeriod ∧ graceElapsed now s.db sub).map
        fun sub => (sub.subscriptionId, basePayload s.db sub))

/-- The six passes of a run, which are started together -/
def passes : List RenewalProgram :=
  [process7DayReminder, process3DayReminder, processExpiresTodayReminder,
    processGracePeriodTransition, processGracePeriodExpiryReminder, processRestrictedTransition]

section claims
variable (key : ReminderKey)

/-- The write sets the key. -/
def sets (elapsed : ℕ) (s : RenewalState) : RenewalWrite → Bool
  | .claim entityId type => s.reminderKey elapsed entityId type = key ∧ s.free elapsed key
  | _ => false

/-- The write announces what the key has been set for. -/
def announces (_ : ℕ) (_ : RenewalState) : RenewalWrite → Bool
  | .emit announcement => announcement.claimed = some key
  | _ => false

/-- The key has been set and stays until its day is over. -/
def Held (s : RenewalState) : Prop :=
  ∃ p ∈ s.redis, p.1 = key ∧ (key.day + 1) * dayMs ≤ p.2

variable {key} {elapsed : ℕ} {s : RenewalState} {w : RenewalWrite}

theorem redis_execute (elapsed : ℕ) (s : RenewalState) (w : RenewalWrite) :
    s.redis ⊆ (w.execute elapsed s).redis := by
  cases w with
  | claim entityId type =>
    simp only [RenewalWrite.execute]
    split
    · exact List.subset_append_left _ _
    · exact fun p hp => hp
  | emit announcement => exact fun p hp => hp
  | transitionTo subscriptionId status => exact fun p hp => hp
  | other f => exact fun p hp => hp

theorem held_execute (h : Held key s) : Held key (w.execute elapsed s) := by
  obtain ⟨p, hp, hkey⟩ := h
  exact ⟨p, redis_execute elapsed s w hp, hkey⟩

theorem utcDay_bounds (now : DateTime) :
    utcDay now * dayMs ≤ now ∧ now < (utcDay now + 1) * dayMs := by
  have hpos : (0 : ℤ) < dayMs := by decide
  exact ⟨Int.ediv_mul_le now hpos.ne', by
    rw [add_mul, one_mul]
    exact Int.lt_ediv_add_one_mul_self now hpos |>.trans_eq (by rw [add_mul, one_mul]; rfl)⟩

/-- A key is set when it is not held, and then it is held: it outlives the day it names. -/
theorem held_of_sets (h : sets key elapsed s w = true) :
    ¬ Held key s ∧ Held key (w.execute elapsed s) := by
  cases w with
  | claim entityId type =>
    simp only [sets, decide_eq_true_eq] at h
    obtain ⟨hkey, hfree⟩ := h
    have hday : key.day = utcDay (s.now elapsed) := by
      rw [← hkey]
      rfl
    have hbounds := utcDay_bounds (s.now elapsed)
    refine ⟨fun hheld => ?_, (key, s.now elapsed + reminderTtl), ?_, rfl, ?_⟩
    · obtain ⟨p, hp, hpkey, hexpiry⟩ := hheld
      have hlive : s.now elapsed < p.2 := by
        rw [hday] at hexpiry
        exact hbounds.2.trans_le hexpiry
      simp only [RenewalState.free, Bool.not_eq_true', List.any_eq_false] at hfree
      exact hfree p hp (by simp [hpkey, hlive])
    · simp only [RenewalWrite.execute, hkey, hfree, if_true]
      exact List.mem_append_right _ (List.mem_singleton_self _)
    · rw [hday]
      have httl : reminderTtl = dayMs := rfl
      rw [httl]
      linarith [hbounds.1]
  | emit announcement => cases h
  | transitionTo subscriptionId status => cases h
  | other f => cases h

/-- A loop announces under a key only what it has set that key for. -/
theorem credited_remindAll (type : String) (event : SubscriptionEvent)
    (subs : List (String × SubscriptionPayload)) (n : ℕ) :
    (remindAll type event subs).Credited (fun _ => True) (sets key) (announces key)
      (fun _ _ => True) n := by
  induction subs generalizing n with
  | nil => trivial
  | cons sub subs ih =>
    refine fun elapsed s _ => ⟨fun h => absurd h Bool.false_ne_true, ?_⟩
    dsimp only
    split
    · rename_i hfree
      refine fun elapsed' s' _ => ⟨fun hannounces => ?_, ih _⟩
      simp only [announces, Option.some.injEq, decide_eq_true_eq] at hannounces
      rw [hannounces] at hfree
      simp [sets, announces, hannounces, hfree]
    · exact ih _

theorem credited_transitionAll (status : SubscriptionStatus) (event : SubscriptionEvent)
    (subs : List (String × SubscriptionPayload)) (n : ℕ) :
    (transitionAll status event subs).Credited (fun _ => True) (sets key) (announces key)
      (fun _ _ => True) n := by
  induction subs generalizing n with
  | nil => trivial
  | cons sub subs ih =>
    refine fun elapsed s _ => ⟨fun h => absurd h Bool.false_ne_true, ?_⟩
    dsimp only
    split
    · exact fun elapsed' s' _ => ⟨fun h => absurd h Bool.false_ne_true, ih _⟩
    · trivial

theorem credited_pass {p : RenewalProgram} (h : p ∈ passes) (n : ℕ) :
    p.Credited (fun _ => True) (sets key) (announces key) (fun _ _ => True) n := by
  simp only [passes, List.mem_cons, List.not_mem_nil, or_false] at h
  rcases h with rfl | rfl | rfl | rfl | rfl | rfl
  · exact fun _ _ _ _ _ _ => credited_remindAll ..
  · exact fun _ _ _ _ _ _ => credited_remindAll ..
  · exact fun _ _ _ _ _ _ => credited_remindAll ..
  · exact fun _ _ _ _ _ _ => credited_transitionAll ..
  · exact fun _ _ _ _ _ _ => credited_remindAll ..
  · exact fun _ _ _ _ _ _ => credited_transitionAll ..

/-- A reminder names the key it has been claimed by, which is of its kind. -/
def WellClaimed (a : SubscriptionAnnouncement) : Prop :=
  ∀ type ∈ a.event.type, ∃ key, a.claimed = some key ∧ key.type = type

def Attributed (w : RenewalWrite) : Prop := ∀ a, w = .emit a → WellClaimed a

theorem sends_remindAll {type : String} {event : SubscriptionEvent} (h : event.type = some type)
    (subs : List (String × SubscriptionPayload)) :
    (remindAll type event subs).Sends Attributed := by
  induction subs with
  | nil => trivial
  | cons sub subs ih =>
    refine ⟨fun a he => (by cases he), fun elapsed s => ?_⟩
    dsimp only
    split
    · refine ⟨fun a he type' htype => ?_, fun _ _ => ih⟩
      cases he
      rw [Option.mem_def, h, Option.some.injEq] at htype
      exact ⟨_, rfl, htype⟩
    · exact ih

theorem sends_transitionAll {status : SubscriptionStatus} {event : SubscriptionEvent}
    (h : event.type = none) (subs : List (String × SubscriptionPayload)) :
    (transitionAll status event subs).Sends Attributed := by
  induction subs with
  | nil => trivial
  | cons sub subs ih =>
    refine ⟨fun a he => (by cases he), fun elapsed s => ?_⟩
    dsimp only
    split
    · refine ⟨fun a he type htype => ?_, fun _ _ => ih⟩
      cases he
      rw [h] at htype
      cases htype
    · trivial

theorem sends_pass {p : RenewalProgram} (h : p ∈ passes) : p.Sends Attributed := by
  simp only [passes, List.mem_cons, List.not_mem_nil, or_false] at h
  rcases h with rfl | rfl | rfl | rfl | rfl | rfl
  · exact fun _ _ _ _ => sends_remindAll rfl _
  · exact fun _ _ _ _ => sends_remindAll rfl _
  · exact fun _ _ _ _ => sends_remindAll rfl _
  · exact fun _ _ _ _ => sends_transitionAll rfl _
  · exact fun _ _ _ _ => sends_remindAll rfl _
  · exact fun _ _ _ _ => sends_transitionAll rfl _

end claims

section interleaving
variable {ι : Type}

/-- The passes of any number of runs, and programs of other code -/
def Workers (c : Config RenewalState ι RenewalProgram) : Prop :=
  ∀ i, c.threads i ∈ passes ∨ (c.threads i).Sends fun w => ∃ f, w = .other f

theorem Workers.credited {c : Config RenewalState ι RenewalProgram} (h : Workers c)
    (key : ReminderKey) (i : ι) :
    (c.threads i).Credited (fun _ => True) (sets key) (announces key) (fun _ _ => True) 0 := by
  rcases h i with hpass | hother
  · exact credited_pass hpass 0
  · refine Program.Credited.of_sends hother fun elapsed s w hw => ?_
    obtain ⟨f, rfl⟩ := hw
    rfl

theorem Workers.sends {c : Config RenewalState ι RenewalProgram} (h : Workers c) (i : ι) :
    (c.threads i).Sends Attributed := by
  rcases h i with hpass | hother
  · exact sends_pass hpass
  · refine hother.imp fun w hw a he => ?_
    obtain ⟨f, rfl⟩ := hw
    cases he

variable [DecidableEq ι] {c : Config RenewalState ι RenewalProgram}

/-- In every interleaving a key is set once at most. -/
theorem length_sets_le_one (c : Config RenewalState ι RenewalProgram) (key : ReminderKey)
    (ls : List (ι × ℕ)) :
    (history (perform RenewalWrite.execute) (counted (sets key)) c ls).length ≤ 1 := by
  have hheld : ∀ (c : Config RenewalState ι RenewalProgram) (l : ι × ℕ), True →
      Held key c.shared → Held key (perform RenewalWrite.execute c l).shared := by
    intro c l _ h
    rw [perform_shared, Program.advance_shared]
    cases (c.threads l.1).pending with
    | none => exact h
    | some w => exact held_execute h
  have hset : ∀ (c : Config RenewalState ι RenewalProgram) (l : ι × ℕ) (i : ι), True →
      counted (sets key) c l = some i → true = true →
      ¬ Held key c.shared ∧ Held key (perform RenewalWrite.execute c l).shared := by
    intro c l i _ hcounted _
    rw [counted] at hcounted
    split at hcounted
    · rename_i hany
      rw [perform_shared, Program.advance_shared]
      cases hw : (c.threads l.1).pending with
      | none =>
        rw [hw] at hany
        cases hany
      | some w =>
        rw [hw] at hany
        exact held_of_sets hany
    · cases hcounted
  have hcount := (countP_history_le_one (p := fun _ => true) (fun _ _ _ => trivial) hheld hset
    (s := c) trivial ls).1
  rwa [List.countP_true] at hcount

/-- What has been announced under a key is what the announcing statements announced. -/
theorem countP_emitted (c : Config RenewalState ι RenewalProgram) (key : ReminderKey)
    (ls : List (ι × ℕ)) :
    (run (perform RenewalWrite.execute) c ls).shared.emitted.countP
        (fun a => a.claimed = some key) =
      c.shared.emitted.countP (fun a => a.claimed = some key) +
        (history (perform RenewalWrite.execute) (counted (announces key)) c ls).length := by
  have hstep : ∀ (c : Config RenewalState ι RenewalProgram) (l : ι × ℕ), True →
      (perform RenewalWrite.execute c l).shared.emitted.countP (fun a => a.claimed = some key) =
        c.shared.emitted.countP (fun a => a.claimed = some key) +
          (counted (announces key) c l).toList.countP fun _ => true := by
    intro c l _
    rw [perform_shared, Program.advance_shared, counted]
    cases (c.threads l.1).pending with
    | none => rfl
    | some w =>
      cases w with
      | claim entityId type => rfl
      | transitionTo subscriptionId status => rfl
      | other f => rfl
      | emit announcement =>
        by_cases hkey : announcement.claimed = some key <;>
          simp [RenewalWrite.execute, announces, hkey]
  have hrun := run_countP (I := fun _ => True) (p := fun _ => true)
    (v := fun c => c.shared.emitted.countP fun a => a.claimed = some key)
    (fun _ _ _ => trivial) hstep (s := c) trivial ls
  rwa [List.countP_true] at hrun

theorem wellClaimed_run (hsends : ∀ i, (c.threads i).Sends Attributed)
    (hstart : ∀ a ∈ c.shared.emitted, WellClaimed a) (ls : List (ι × ℕ)) :
    ∀ a ∈ (run (perform RenewalWrite.execute) c ls).shared.emitted, WellClaimed a := by
  refine (run_invariant (I := fun c : Config RenewalState ι RenewalProgram =>
    (∀ i, (c.threads i).Sends Attributed) ∧ ∀ a ∈ c.shared.emitted, WellClaimed a)
    (fun c l h => ⟨perform_sends h.1 l, ?_⟩) ⟨hsends, hstart⟩ ls).2
  rw [perform_shared, Program.advance_shared]
  cases hw : (c.threads l.1).pending with
  | none => exact h.2
  | some w =>
    have hattributed := (h.1 l.1).pending w hw
    cases w with
    | claim entityId type => exact h.2
    | transitionTo subscriptionId status => exact h.2
    | other f => exact h.2
    | emit announcement =>
      intro a ha
      rcases List.mem_append.mp ha with ha | ha
      · exact h.2 a ha
      · rw [List.mem_singleton.mp ha]
        exact hattributed announcement rfl

end interleaving

end RenewalScans
end InstalFlow
