import InstalFlow.KycRegistration
import InstalFlow.Relational.UniqueOn
import InstalFlow.Transition.Program

/-!
# Registrations side by side

A registration looks for an open session of its e-mail and then resumes that one or creates its
own, as two statements. Between them other registrations may do the same, and a session that is
resumed keeps the referrer, the company and the password of the registration that created it.
-/

namespace InstalFlow
open Relational Transition

def OnboardingSession.active (now : DateTime) (s : OnboardingSession) : Bool :=
  (s.status = .pendingKyc ∨ s.status = .kycSubmitted) ∧ now < s.expiresAt

/-- At most one session of an e-mail is active. -/
def OneActive (now : DateTime) (db : Database) : Prop :=
  db.onboardingSessions.UniqueOn (fun s => s.active now = true) OnboardingSession.email

/-- The session that a call wanted to register, and the one that its token is for. -/
structure SessionGrant where
  asked : OnboardingSession
  session : OnboardingSession

def SessionGrant.Own (g : SessionGrant) : Prop :=
  g.session.marketerId = g.asked.marketerId ∧ g.session.companyId = g.asked.companyId ∧
    g.session.passwordHash = g.asked.passwordHash

/-- The clock is that of the last write. -/
structure RegistrationState where
  db : Database
  clock : DateTime
  granted : List SessionGrant := []

/-- The time since the last write, and the identifier of a session to create. -/
structure RegistrationMoment where
  elapsed : ℕ
  sessionId : String

def RegistrationMoment.now (m : RegistrationMoment) (s : RegistrationState) : DateTime :=
  s.clock + m.elapsed

inductive SessionWrite
  | resume (sessionId : String) (asked : OnboardingSession)
  | create (asked : OnboardingSession)

namespace SessionWrite

def asked : SessionWrite → OnboardingSession
  | resume _ asked | create asked => asked

def extended (expiresAt : DateTime) (s : OnboardingSession) : OnboardingSession :=
  { s with expiresAt }

def commit (db : Database) : SessionWrite → Except AppError (OnboardingSession × Database)
  | resume sessionId asked =>
    match db.onboardingSessions.find? sessionId with
    | none => .error (.error "No record was found for an update.")
    | some session =>
      let onboardingSessions := db.onboardingSessions.update sessionId (extended asked.expiresAt)
        (fun _ => rfl)
      .ok (extended asked.expiresAt session, { db with onboardingSessions })
  | create asked => (createRow db.onboardingSessions asked ["sessionId"]).map
      fun onboardingSessions => (asked, { db with onboardingSessions })

def execute (m : RegistrationMoment) (s : RegistrationState) (w : SessionWrite) :
    RegistrationState :=
  match w.commit s.db with
  | .error _ => { s with clock := m.now s }
  | .ok (session, db) =>
    { db, clock := m.now s, granted := s.granted ++ [{ asked := w.asked, session }] }

end SessionWrite

abbrev RegistrationProgram (α : Type) : Type :=
  ExceptT AppError (Program RegistrationState SessionWrite RegistrationMoment) α

namespace RegistrationProgram
open KycService

def select {α : Type} (f : Database → Except AppError α) : RegistrationProgram α :=
  ExceptT.mk (.read fun _ s => .done (f s.db))

def assertFree (email : String) : RegistrationProgram Unit :=
  select fun db =>
    if db.users.rows.any (fun u => u.email = email) then
      .error (.conflict "Email is already in use.")
    else .ok ()

/-- What the search for an active session leads to. -/
def resumeOrCreate (params : OnboardingSession) (m : RegistrationMoment) (s : RegistrationState) :
    SessionWrite :=
  let asked := { params with
    sessionId := m.sessionId
    status := .pendingKyc
    expiresAt := m.now s + expiryHours * 60 * 60 * 1000 }
  match s.db.onboardingSessions.rows.find? (resumable params.email (m.now s)) with
  | some activeSession => .resume activeSession.sessionId asked
  | none => .create asked

def createOrResumeOnboardingSession (params : OnboardingSession) :
    RegistrationProgram OnboardingSession :=
  ExceptT.mk (.read fun m s =>
    .write (resumeOrCreate params m s) fun _ t =>
      .done (((resumeOrCreate params m s).commit t.db).map Prod.fst))

section register
variable (bcryptHash : String → String)

def registerViaReferral (data : Registration) : RegistrationProgram OnboardingSession := do
  let email := normalizeEmail data.email
  let (marketerId, companyId) ← select (findReferrer data)
  assertFree email
  createOrResumeOnboardingSession
    { sessionId := "", name := data.name, email, passwordHash := bcryptHash data.password
      marketerId, companyId, expiresAt := 0 }

def assertStaff (reviewerId : String) (db : Database) : Except AppError User :=
  match (db.users.find? reviewerId).filter (fun u => u.companyId.isSome) with
  | none => .error (.unauthorized
      "Only company staff with an associated company can register a customer directly.")
  | some reviewer =>
    if reviewer.role ≠ .company ∧ reviewer.role ≠ .admin then
      .error (.unauthorized "Only COMPANY or ADMIN users can register a customer directly.")
    else .ok reviewer

def registerDirect (reviewerId : String) (data : Registration) :
    RegistrationProgram OnboardingSession := do
  let email := normalizeEmail data.email
  let reviewer ← select (assertStaff reviewerId)
  assertFree email
  createOrResumeOnboardingSession
    { sessionId := "", name := data.name, email, passwordHash := bcryptHash data.password
      marketerId := if reviewer.role = .admin then some reviewer.userId else none
      companyId := reviewer.companyId, expiresAt := 0 }

end register
end RegistrationProgram

inductive RegistrationCall
  | viaReferral (data : Registration)
  | direct (reviewerId : String) (data : Registration)

namespace RegistrationCall
variable (bcryptHash : String → String)

def program : RegistrationCall → RegistrationProgram OnboardingSession
  | viaReferral data => RegistrationProgram.registerViaReferral bcryptHash data
  | direct reviewerId data => RegistrationProgram.registerDirect bcryptHash reviewerId data

/-- The call as one step. -/
def register (sessionId : String) (now : DateTime) (db : Database) :
    RegistrationCall → Except AppError (OnboardingSession × Database)
  | viaReferral data => KycService.registerViaReferral bcryptHash data sessionId now db
  | direct reviewerId data => KycService.registerDirect bcryptHash reviewerId data sessionId now db

end RegistrationCall

section alone
variable {m : RegistrationMoment} {s : RegistrationState}

/-- Right after its search a write does what the sequential step does. -/
theorem commit_resumeOrCreate (params : OnboardingSession) :
    (RegistrationProgram.resumeOrCreate params m s).commit s.db =
      KycService.createOrResumeOnboardingSession { params with sessionId := m.sessionId }
        (m.now s) s.db := by
  rw [RegistrationProgram.resumeOrCreate, KycService.createOrResumeOnboardingSession]
  cases hfind : s.db.onboardingSessions.rows.find? (KycService.resumable params.email (m.now s)) with
  | none =>
    simp only [SessionWrite.commit]
    cases createRow s.db.onboardingSessions
      { params with
        sessionId := m.sessionId
        status := .pendingKyc
        expiresAt := m.now s + KycService.expiryHours * 60 * 60 * 1000 } ["sessionId"] <;> rfl
  | some activeSession =>
    simp only [SessionWrite.commit, Table.find?_of_mem (List.mem_of_find?_eq_some hfind)]
    rfl

theorem RegistrationProgram.complete_select {α : Type} (f : Database → Except AppError α) :
    (RegistrationProgram.select f).run.complete SessionWrite.execute m s = (s, f s.db) := rfl

theorem complete_assertFree (email : String) :
    (RegistrationProgram.assertFree email).run.complete SessionWrite.execute m s =
      (s, if s.db.users.rows.any (fun u => u.email = email) then
        .error (.conflict "Email is already in use.") else .ok ()) := rfl

theorem complete_createOrResume (params : OnboardingSession) :
    ((RegistrationProgram.createOrResumeOnboardingSession params).run.complete
        SessionWrite.execute m s).2 =
      (KycService.createOrResumeOnboardingSession { params with sessionId := m.sessionId }
        (m.now s) s.db).map Prod.fst ∧
    ((RegistrationProgram.createOrResumeOnboardingSession params).run.complete
        SessionWrite.execute m s).1.db =
      committed s.db Prod.snd (KycService.createOrResumeOnboardingSession
        { params with sessionId := m.sessionId } (m.now s) s.db) := by
  rw [← commit_resumeOrCreate]
  refine ⟨rfl, ?_⟩
  show (SessionWrite.execute m s (RegistrationProgram.resumeOrCreate params m s)).db = _
  rw [SessionWrite.execute]
  cases (RegistrationProgram.resumeOrCreate params m s).commit s.db <;> rfl

end alone

/-- A call whose statements nothing comes between is one step. -/
theorem RegistrationCall.complete_program (bcryptHash : String → String) (call : RegistrationCall)
    (m : RegistrationMoment) (s : RegistrationState) :
    ((call.program bcryptHash).run.complete SessionWrite.execute m s).2 =
      (call.register bcryptHash m.sessionId (m.now s) s.db).map Prod.fst ∧
    ((call.program bcryptHash).run.complete SessionWrite.execute m s).1.db =
      committed s.db Prod.snd (call.register bcryptHash m.sessionId (m.now s) s.db) := by
  cases call with
  | viaReferral data =>
    rw [program, register, RegistrationProgram.registerViaReferral, KycService.registerViaReferral]
    simp only [Program.complete_exceptBind, RegistrationProgram.complete_select, complete_assertFree]
    cases KycService.findReferrer data s.db with
    | error err => exact ⟨rfl, rfl⟩
    | ok referrer =>
      by_cases htaken : s.db.users.rows.any (fun u => u.email = normalizeEmail data.email)
      · simp only [if_pos htaken]
        exact ⟨rfl, rfl⟩
      · simp only [if_neg htaken]
        exact complete_createOrResume _
  | direct reviewerId data =>
    rw [program, register, RegistrationProgram.registerDirect, KycService.registerDirect]
    simp only [Program.complete_exceptBind, RegistrationProgram.complete_select, complete_assertFree,
      RegistrationProgram.assertStaff]
    cases (s.db.users.find? reviewerId).filter (fun u => u.companyId.isSome) with
    | none => exact ⟨rfl, rfl⟩
    | some reviewer =>
      by_cases hrole : reviewer.role ≠ .company ∧ reviewer.role ≠ .admin
      · simp only [if_pos hrole]
        exact ⟨rfl, rfl⟩
      · simp only [if_neg hrole]
        by_cases htaken : s.db.users.rows.any (fun u => u.email = normalizeEmail data.email)
        · simp only [if_pos htaken]
          exact ⟨rfl, rfl⟩
        · simp only [if_neg htaken]
          exact complete_createOrResume _

/-- From the last write on, an e-mail has one active session, and every call has been given a
session of its own. -/
structure OwnSessions (s : RegistrationState) : Prop where
  one : ∀ now ≥ s.clock, OneActive now s.db
  own : ∀ g ∈ s.granted, g.Own

/-- The session found by the search is the call's own and the only active one of its e-mail; or
none was found, and there is still none. -/
def SessionWrite.Current (m : RegistrationMoment) (s : RegistrationState) : SessionWrite → Prop
  | resume sessionId asked => ∀ session ∈ s.db.onboardingSessions.find? sessionId,
      SessionGrant.Own { asked, session } ∧
      ((extended asked.expiresAt session).active (m.now s) = true →
        ∀ t ∈ s.db.onboardingSessions.rows, t.active (m.now s) = true → t.email = session.email →
          t.sessionId = sessionId)
  | create asked => s.db.onboardingSessions.find? asked.sessionId = none →
      asked.active (m.now s) = true →
        ∀ t ∈ s.db.onboardingSessions.rows, t.active (m.now s) = true → t.email ≠ asked.email

section sessions
variable {db : Database} {now later : DateTime}

theorem OnboardingSession.active.before {s : OnboardingSession} (h : s.active later = true)
    (hle : now ≤ later) : s.active now = true := by
  simp only [active, decide_eq_true_eq] at h ⊢
  exact ⟨h.1, lt_of_le_of_lt hle h.2⟩

theorem ownSessions_iff {s : RegistrationState} :
    OwnSessions s ↔ OneActive s.clock s.db ∧ ∀ g ∈ s.granted, g.Own := by
  constructor
  · intro h
    exact ⟨h.one _ le_rfl, h.own⟩
  · intro h
    exact ⟨fun now hnow => h.1.imp fun r _ hr => OnboardingSession.active.before hr hnow, h.2⟩

/-- After a write that has given a session, what was there before and the session decide. -/
theorem ownSessions_granted_iff {s : RegistrationState} {g : SessionGrant} (h : OwnSessions s) :
    OwnSessions { db, clock := now, granted := s.granted ++ [g] } ↔ g.Own ∧ OneActive now db := by
  rw [ownSessions_iff]
  constructor
  · intro hown
    exact ⟨hown.2 g (List.mem_append_right _ (List.mem_singleton_self g)), hown.1⟩
  · intro hown
    refine ⟨hown.2, fun g' hg' => ?_⟩
    rcases List.mem_append.mp hg' with hg' | hg'
    · exact h.own g' hg'
    · rw [List.mem_singleton.mp hg']
      exact hown.1

theorem ownSessions_execute_iff {s : RegistrationState} (h : OwnSessions s) (m : RegistrationMoment)
    (w : SessionWrite) : OwnSessions (w.execute m s) ↔ w.Current m s := by
  have hnow : s.clock ≤ m.now s := Int.le_add_of_nonneg_right (Int.natCast_nonneg _)
  have hone : OneActive (m.now s) s.db := h.one _ hnow
  have hrefused : OwnSessions { s with clock := m.now s } := ownSessions_iff.mpr ⟨hone, h.own⟩
  cases w with
  | resume sessionId asked =>
    rw [SessionWrite.execute, SessionWrite.commit, SessionWrite.Current]
    cases hfind : s.db.onboardingSessions.find? sessionId with
    | none => exact iff_of_true hrefused fun session hsession => (by cases hsession)
    | some session =>
      simp only [Option.mem_def, Option.some.injEq, forall_eq']
      rw [ownSessions_granted_iff h, OneActive]
      exact and_congr_right' (Table.uniqueOn_update_iff (f := SessionWrite.extended asked.expiresAt)
        (fun _ => rfl) (fun _ => rfl) hone hfind)
  | create asked =>
    rw [SessionWrite.execute, SessionWrite.commit, SessionWrite.Current]
    cases hcreate : s.db.onboardingSessions.create asked with
    | none =>
      rw [createRow, hcreate]
      refine iff_of_true hrefused fun hfree => ?_
      obtain ⟨rows, hrows⟩ := Table.create_isSome hfree
      rw [hcreate] at hrows
      cases hrows
    | some rows =>
      rw [createRow_eq_ok.mpr hcreate]
      have hfree := (Table.create_eq_some hcreate).1
      refine (ownSessions_granted_iff h).trans ?_
      rw [OneActive, Table.uniqueOn_create_iff hone hcreate]
      constructor
      · intro hown _
        exact hown.2
      · intro hcurrent
        exact ⟨⟨rfl, rfl, rfl⟩, hcurrent hfree⟩

end sessions

section interleaving
variable {ι : Type} [DecidableEq ι]

abbrev RegistrationThreads (ι : Type) : Type :=
  Config RegistrationState ι
    (Program RegistrationState SessionWrite RegistrationMoment (Except AppError OnboardingSession))

def launchRegistrations (bcryptHash : String → String) (calls : ι → RegistrationCall)
    (db : Database) (now : DateTime) : RegistrationThreads ι where
  shared := { db, clock := now }
  threads i := ((calls i).program bcryptHash).run

def performRegistration (c : RegistrationThreads ι) (l : ι × RegistrationMoment) :
    RegistrationThreads ι :=
  perform SessionWrite.execute c l

/-- In every interleaving each e-mail has one active session and each call gets its own, exactly
as long as no write finds what its search did not. -/
theorem registrations_own_sessions_iff (bcryptHash : String → String) (calls : ι → RegistrationCall)
    (db : Database) (now : DateTime) (hone : OneActive now db)
    (schedule : List (ι × RegistrationMoment)) :
    Throughout performRegistration (fun c => OwnSessions c.shared)
        (launchRegistrations bcryptHash calls db now) schedule ↔
      Along performRegistration
        (fun c l => ∀ w ∈ (c.threads l.1).pending, w.Current l.2 c.shared)
        (launchRegistrations bcryptHash calls db now) schedule := by
  refine throughout_iff_along (I := fun _ => True) (fun c l _ hown => ?_) (fun _ _ _ _ => trivial)
    trivial (ownSessions_iff.mpr ⟨hone, fun g hg => absurd hg List.not_mem_nil⟩)
  rw [performRegistration, perform_shared, Program.advance_shared]
  cases (c.threads l.1).pending with
  | none => exact iff_of_true hown fun w hw => (by cases hw)
  | some w =>
    simp only [Option.mem_def, Option.some.injEq, forall_eq']
    exact ownSessions_execute_iff hown l.2 w

end interleaving

instance (now : DateTime) (db : Database) : Decidable (OneActive now db) :=
  inferInstanceAs (Decidable (Table.UniqueOn _ _ _))

instance (g : SessionGrant) : Decidable g.Own :=
  inferInstanceAs (Decidable (_ ∧ _ ∧ _))

instance (s : RegistrationState) : Decidable (OwnSessions s) :=
  decidable_of_iff _ ownSessions_iff.symm

def twoReferrers : Database where
  users := ⟨[{ userId := "mia", email := "mia@x.y", role := .marketer, referralCode := some "MIA" },
    { userId := "noa", email := "noa@x.y", role := .marketer, referralCode := some "NOA" }],
    by decide⟩

def referredBy (email password code : String) : RegistrationCall :=
  .viaReferral { name := "Ivy", email, password, referredByCode := some code }

/-- One e-mail under two referrers, and passwords -/
def registeredTwice : Fin 2 → RegistrationCall
  | 0 => referredBy "ivy@x.y" "first" "MIA"
  | 1 => referredBy "IVY@x.y" "second" "NOA"

def registeredApart : Fin 2 → RegistrationCall
  | 0 => referredBy "ivy@x.y" "first" "MIA"
  | 1 => referredBy "ida@x.y" "second" "NOA"

/-- The statements of the calls in the order given, a second apart -/
def secondsApart (order : List (Fin 2)) : List (Fin 2 × RegistrationMoment) :=
  order.map fun i => (i, { elapsed := 1000, sessionId := toString i })

theorem registered_apart_current :
    Along performRegistration
      (fun c l => ∀ w ∈ (c.threads l.1).pending, w.Current l.2 c.shared)
      (launchRegistrations id registeredApart twoReferrers 0)
      (secondsApart [0, 1, 0, 1, 0, 1, 0, 1]) :=
  (registrations_own_sessions_iff id registeredApart twoReferrers 0 (by decide) _).mp
    (by decide +kernel)

/-- Both searches in front of both writes leave two active sessions. One call behind the other
is given the session, the referrer and the password of the first. -/
theorem registered_twice :
    ¬ OneActive 2000 (run performRegistration
      (launchRegistrations id registeredTwice twoReferrers 0)
      (secondsApart [0, 1, 0, 1, 0, 1, 0, 1])).shared.db ∧
    ∃ g ∈ (run performRegistration (launchRegistrations id registeredTwice twoReferrers 0)
      (secondsApart [0, 0, 0, 0, 1, 1, 1, 1])).shared.granted, ¬ g.Own := by
  decide +kernel

end InstalFlow
