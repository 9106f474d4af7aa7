import InstalFlow.SessionSweeps
import InstalFlow.Transition.Trace

/-!
# Announcements of expired sessions

After the transaction of each session of its batch a sweep looks up whom to notify
and emits `ONBOARDING_SESSION_EXPIRED`, whether the transaction has expired the
session or has found it expired or approved by another operation.
-/

namespace InstalFlow
open Relational Transition

/-- Whom to notify of an expired session. -/
structure SessionContext where
  marketerId : String := ""
  marketerEmail : String := ""
  marketerName : String := ""
  companyId : String := ""
  companyEmails : List String := []

/-- The payload of `ONBOARDING_SESSION_EXPIRED`. -/
structure SessionExpired extends SessionContext where
  sessionId : String
  email : String
  hadKycApplication : Bool
  customerName : String
  customerEmail : String

/-- The database, and the events that have been emitted. -/
structure Announcements where
  db : Database
  emitted : List SessionExpired := []

inductive SweepWrite
  | kyc (w : KycWrite)
  | emit (event : SessionExpired)

namespace SweepWrite

def execute (m : KycMoment) (s : Announcements) : SweepWrite → Announcements
  | kyc w => { s with db := w.execute m s.db }
  | emit event => { s with emitted := s.emitted ++ [event] }

/-- The session that the write finalizes, if it finds it EXPIRING. -/
def finalizes : SweepWrite → Option String
  | kyc (.finalizeSession stale) => some stale.sessionId
  | _ => none

def announces : SweepWrite → Option String
  | emit event => some event.sessionId
  | _ => none

end SweepWrite

abbrev SweepProgram (α : Type) : Type :=
  ExceptT AppError (Program Announcements SweepWrite KycMoment) α

namespace SweepProgram

def select {α : Type} (f : KycMoment → Database → α) : SweepProgram α :=
  ExceptT.mk (.read fun m s => .done (.ok (f m s.db)))

def send {α : Type} (w : SweepWrite) (f : KycMoment → Database → α) : SweepProgram α :=
  ExceptT.mk (.write w fun m s => .done (.ok (f m s.db)))

/-- An operation that emits nothing. -/
def ofKyc {α : Type} (p : KycProgram α) : SweepProgram α :=
  ExceptT.mk (p.run.embed Announcements.db .kyc)

/-- An id that is given and not empty. -/
def given (id : Option String) : Bool := id.any (fun id => id ≠ "")

/-- The marketer and the company of the session, read again. -/
def resolveContext (s : OnboardingSession) : SweepProgram SessionContext := do
  if given s.marketerId || given s.companyId then
    match ← select fun _ db => db.onboardingSessions.find? s.sessionId with
    | none => return {}
    | some sessionFull =>
      let marketer ← select fun _ db => sessionFull.marketerId.bind db.users.find?
      let company ← select fun _ db => sessionFull.companyId.bind db.companies.find?
      let users ← select fun _ db => db.users.rows.filter fun u =>
        u.companyId = company.map Company.companyId ∧ (u.role = .company ∨ u.role = .admin)
      return {
        marketerId := sessionFull.marketerId.getD ""
        marketerEmail := (marketer.map User.email).getD ""
        marketerName := (marketer.bind User.name).getD ""
        companyId := sessionFull.companyId.getD ""
        companyEmails := if company.isSome then users.map User.email else [] }
  else return {}

/-- The name goes into the field of the email, and the email into that of the name. -/
def expiredEvent (s : OnboardingSession) (applicationId : Option String)
    (context : SessionContext) : SessionExpired where
  toSessionContext := context
  sessionId := s.sessionId
  email := s.email
  hadKycApplication := applicationId.isSome
  customerName := s.email
  customerEmail := s.name

/-- The body of the loop. -/
def expireSession (s : OnboardingSession) (applicationId : Option String) : SweepProgram Unit := do
  send (.kyc (.finalizeSession ⟨s.sessionId, applicationId⟩)) fun _ _ => ()
  let context ← resolveContext s
  send (.emit (expiredEvent s applicationId context)) fun _ _ => ()

def expireStaleOnboardingSessions (batchSize : ℕ) : SweepProgram ℕ := do
  let m ← select fun m _ => m
  let claimed ← send (.kyc (.claimSessions m.now)) fun _ db =>
    db.onboardingSessions.rows.countP (OnboardingService.sweepable m.now)
  if claimed = 0 then return 0
  let sessions ← select (KycProgram.expiringBatch batchSize)
  let stale ← select fun _ db => sessions.map fun s => (s, KycProgram.applicationOf s.sessionId db)
  stale.forM fun (s, applicationId) => expireSession s applicationId
  return stale.length

end SweepProgram

/-- What runs beside each other: sweeps, and the other operations on the sessions and
their applications. Only a sweep answers a count. -/
inductive SweepOperation
  | expireStaleOnboardingSessions (batchSize : ℕ)
  | approve (applicationId reviewerId : String)
  | reject (applicationId adminId reason : String)
  | autoRejectStale

def SweepOperation.program : SweepOperation → SweepProgram ℕ
  | expireStaleOnboardingSessions batchSize => SweepProgram.expireStaleOnboardingSessions batchSize
  | approve applicationId reviewerId =>
      (fun _ => 0) <$> SweepProgram.ofKyc (KycProgram.approveApplication applicationId reviewerId)
  | reject applicationId adminId reason =>
      (fun _ => 0) <$> SweepProgram.ofKyc (KycProgram.rejectApplication applicationId adminId reason)
  | autoRejectStale => (fun _ => 0) <$> SweepProgram.ofKyc KycProgram.autoRejectStale

section yields
open Program

/-- The sessions that were finalized are those that were announced, and `n` of them. -/
def Accounted (n : ℕ) (ws : List SweepWrite) : Prop :=
  ws.filterMap SweepWrite.announces = ws.filterMap SweepWrite.finalizes ∧
    (ws.filterMap SweepWrite.finalizes).length = n

namespace SweepProgram
variable {α β : Type} {ws : List SweepWrite} {n : ℕ}

/-- A program that cannot fail and whose writes and answer meet `Q`. -/
def Answers (Q : List SweepWrite → α → Prop) (p : SweepProgram α) (ws : List SweepWrite) : Prop :=
  p.run.Yields (fun ws r => ∃ a, r = .ok a ∧ Q ws a) ws

namespace Answers
variable {Q : List SweepWrite → α → Prop} {Q' : List SweepWrite → β → Prop}

theorem bind {p : SweepProgram α} {f : α → SweepProgram β}
    (h : p.Answers (fun ws a => (f a).Answers Q' ws) ws) : (p >>= f).Answers Q' ws := by
  refine Yields.exceptBind (Yields.imp (fun ws r hr => ?_) h)
  obtain ⟨a, rfl, ha⟩ := hr
  refine ⟨fun b hb => ?_, fun err herr => ?_⟩
  · cases hb
    exact ha
  · cases herr

theorem imp {P : List SweepWrite → α → Prop} {p : SweepProgram α} (hPQ : ∀ ws a, P ws a → Q ws a)
    (h : p.Answers P ws) : p.Answers Q ws := by
  refine Yields.imp (fun ws r hr => ?_) h
  obtain ⟨a, ha, hP⟩ := hr
  exact ⟨a, ha, hPQ ws a hP⟩

theorem pure {a : α} (h : Q ws a) : (Pure.pure a : SweepProgram α).Answers Q ws := ⟨a, rfl, h⟩

theorem select {f : KycMoment → Database → α} (h : ∀ a, Q ws a) :
    (SweepProgram.select f).Answers Q ws :=
  fun m s => ⟨f m s.db, rfl, h _⟩

theorem send {w : SweepWrite} {f : KycMoment → Database → α} (h : ∀ a, Q (ws ++ [w]) a) :
    (SweepProgram.send w f).Answers Q ws :=
  fun m s => ⟨f m s.db, rfl, h _⟩

end Answers

theorem resolveContext_answers (s : OnboardingSession) :
    (resolveContext s).Answers (fun vs _ => vs = ws) ws := by
  rw [resolveContext]
  split
  · refine .bind (.select fun full => ?_)
    cases full with
    | none => exact .pure rfl
    | some sessionFull =>
      exact .bind (.select fun _ => .bind (.select fun _ => .bind (.select fun _ => .pure rfl)))
  · exact .pure rfl

theorem expireSession_answers (s : OnboardingSession) (applicationId : Option String)
    (h : Accounted n ws) :
    (expireSession s applicationId).Answers (fun ws _ => Accounted (n + 1) ws) ws := by
  refine .bind (.send fun _ => .bind (.imp (fun vs context hvs => ?_) (resolveContext_answers s)))
  subst hvs
  refine .send fun _ => ?_
  simp only [Accounted, List.filterMap_append, List.length_append, List.append_assoc, h.1, h.2]
  exact ⟨rfl, rfl⟩

theorem forM_answers (stale : List (OnboardingSession × Option String)) (h : Accounted n ws) :
    SweepProgram.Answers (fun ws _ => Accounted (n + stale.length) ws)
      (stale.forM fun x => expireSession x.1 x.2) ws := by
  induction stale generalizing n ws with
  | nil => exact .pure h
  | cons x stale ih =>
    refine .bind (.imp (fun ws _ hws => ?_) (expireSession_answers x.1 x.2 h))
    rw [List.length_cons, Nat.add_comm stale.length 1, ← Nat.add_assoc]
    exact ih hws

theorem expireStaleOnboardingSessions_answers (batchSize : ℕ) :
    (expireStaleOnboardingSessions batchSize).Answers (fun ws n => Accounted n ws) [] := by
  refine .bind (.select fun m => .bind (.send fun claimed => ?_))
  by_cases hclaimed : claimed = 0
  · rw [if_pos hclaimed]
    exact .pure ⟨rfl, rfl⟩
  · rw [if_neg hclaimed]
    refine .bind (.select fun sessions => .bind (.select fun stale => .bind ?_))
    refine .imp (fun ws _ hws => .pure ?_) (forM_answers (n := 0) stale ⟨rfl, rfl⟩)
    rwa [Nat.zero_add] at hws

/-- An operation that finalizes nothing answers no count. -/
theorem ofKyc_yields {p : KycProgram α}
    (hp : Program.Sends (fun w => (SweepWrite.kyc w).finalizes = none) p.run) :
    Yields (fun ws r => Accounted (r.toOption.getD 0) ws) ((fun _ => 0) <$> ofKyc p).run [] := by
  have hquiet : (ofKyc p).run.Sends fun w => w.finalizes = none ∧ w.announces = none :=
    Sends.embed (Sends.imp (fun w hw => ⟨hw, rfl⟩) hp)
  have hnone : (ofKyc p).run.Yields (fun ws _ => ws.filterMap SweepWrite.announces = [] ∧
      ws.filterMap SweepWrite.finalizes = []) [] := by
    refine hquiet.yields (P := fun ws => ws.filterMap SweepWrite.announces = [] ∧
      ws.filterMap SweepWrite.finalizes = []) (fun ws w hw hws => ?_) ⟨rfl, rfl⟩
    simp [hws.1, hws.2, hw.1, hw.2]
  refine Yields.bind (Yields.imp (fun ws r hr => ?_) hnone)
  cases r with
  | error err => exact ⟨hr.1.trans hr.2.symm, congrArg List.length hr.2⟩
  | ok a => exact ⟨hr.1.trans hr.2.symm, congrArg List.length hr.2⟩

section sends
variable {A : KycWrite → Prop}

theorem sends_select (f : KycMoment → Database → α) : (KycProgram.select f).run.Sends A :=
  fun _ _ => trivial

theorem sends_lift (result : Except AppError α) : (KycProgram.lift result).run.Sends A := trivial

theorem sends_send {w : KycWrite} (hw : A w) (f : KycMoment → Database → Except AppError α) :
    (KycProgram.send w f).run.Sends A :=
  ⟨hw, fun _ _ => trivial⟩

theorem sends_loadApplication (applicationId : String) :
    (KycProgram.loadApplication applicationId).run.Sends A := by
  refine Sends.exceptBind (sends_select _) fun application => ?_
  cases application with
  | none => trivial
  | some application =>
    exact Sends.exceptBind (sends_select _) fun _ => Sends.exceptBind (sends_select _) fun _ =>
      Sends.exceptBind (sends_select _) fun _ => trivial

theorem sends_approveApplication (hA : ∀ r signature, A (.approve r signature))
    (applicationId reviewerId : String) :
    (KycProgram.approveApplication applicationId reviewerId).run.Sends A := by
  refine Sends.exceptBind (sends_select _) fun _ =>
    Sends.exceptBind (sends_loadApplication applicationId) fun _ =>
    Sends.exceptBind (sends_lift _) fun r => Sends.exceptBind (sends_lift _) fun signature =>
    Sends.exceptBind (sends_lift _) fun _ => ?_
  exact sends_send (hA r signature) _

theorem sends_rejectApplication (hA : ∀ admin loaded reason, A (.reject admin loaded reason))
    (applicationId adminId reason : String) :
    (KycProgram.rejectApplication applicationId adminId reason).run.Sends A := by
  refine Sends.exceptBind (sends_select _) fun _ => Sends.exceptBind (sends_lift _) fun admin =>
    Sends.exceptBind (sends_loadApplication applicationId) fun _ =>
    Sends.exceptBind (sends_lift _) fun loaded => Sends.exceptBind (sends_select _) fun _ =>
    Sends.exceptBind (sends_lift _) fun _ => ?_
  exact sends_send (hA admin loaded reason) _

theorem sends_autoRejectStale (hA : ∀ applicationId fileHash, A (.autoReject applicationId fileHash)) :
    KycProgram.autoRejectStale.run.Sends A := by
  refine Sends.exceptBind (sends_select _) fun _ => Sends.exceptBind (sends_select _) fun stale => ?_
  induction stale with
  | nil => trivial
  | cons x stale ih => exact Sends.exceptBind (sends_send (hA x.1 x.2) _) fun _ => ih

end sends

end SweepProgram

theorem SweepOperation.yields (operation : SweepOperation) :
    operation.program.run.Yields (fun ws r => Accounted (r.toOption.getD 0) ws) [] := by
  cases operation with
  | expireStaleOnboardingSessions batchSize =>
    refine Yields.imp (fun ws r hr => ?_)
      (SweepProgram.expireStaleOnboardingSessions_answers batchSize)
    obtain ⟨n, rfl, hn⟩ := hr
    exact hn
  | approve applicationId reviewerId =>
    exact SweepProgram.ofKyc_yields
      (SweepProgram.sends_approveApplication (fun _ _ => rfl) applicationId reviewerId)
  | reject applicationId adminId reason =>
    exact SweepProgram.ofKyc_yields
      (SweepProgram.sends_rejectApplication (fun _ _ _ => rfl) applicationId adminId reason)
  | autoRejectStale =>
    exact SweepProgram.ofKyc_yields (SweepProgram.sends_autoRejectStale fun _ _ => rfl)

end yields

section statuses
variable {id : String} {m : KycMoment} {db : Database} {status : KycOnboardingStatus}

/-- What a write makes of the status of a session. -/
theorem KycWrite.status_execute (w : KycWrite) (m : KycMoment)
    (h : (db.onboardingSessions.find? id).map OnboardingSession.status = some status) :
    ((w.execute m db).onboardingSessions.find? id).map OnboardingSession.status = some status ∨
    ((w.execute m db).onboardingSessions.find? id).map OnboardingSession.status = some .approved ∨
    ((w.execute m db).onboardingSessions.find? id).map OnboardingSession.status = some .expiring ∧
      (status = .pendingKyc ∨ status = .kycSubmitted) ∨
    ((w.execute m db).onboardingSessions.find? id).map OnboardingSession.status = some .expired ∧
      status = .expiring ∧ (SweepWrite.kyc w).finalizes = some id := by
  cases w with
  | approve r signature =>
    cases signature with
    | marketer => exact .inl h
    | admin =>
      cases hrecord : KycService.recordAdminApproval r m db with
      | error err =>
        rw [execute, KycService.commitApproval, hrecord]
        exact .inl h
      | ok result =>
        rw [execute, KycService.commitApproval, hrecord]
        obtain ⟨application, -, ⟨-, rfl⟩ | ⟨-, contract, -, hactivates, -⟩⟩ :=
          KycService.recordAdminApproval_eq_ok hrecord
        · exact .inl h
        · rw [committed_ok, hactivates.sessions]
          have hfind := Table.find?_update db.onboardingSessions r.session.sessionId id
            KycService.approvedSession fun _ => rfl
          obtain ⟨s, hs, hstatus⟩ := Option.map_eq_some_iff.mp h
          rw [hs] at hfind
          by_cases hid : id = r.session.sessionId
          · rw [if_pos hid] at hfind
            exact .inr (.inl (congrArg (Option.map OnboardingSession.status) hfind))
          · rw [if_neg hid] at hfind
            refine .inl ((congrArg (Option.map OnboardingSession.status) hfind).trans ?_)
            rw [Option.map_some, hstatus]
  | reject admin loaded reason => exact .inl h
  | claimSessions now =>
    obtain ⟨s, hs, rfl⟩ := Option.map_eq_some_iff.mp h
    have hfind := Table.find?_updateMany db.onboardingSessions (OnboardingService.sweepable now)
      OnboardingService.expiringSession (fun _ => rfl) id
    rw [hs, Option.map_some] at hfind
    have hstatus := congrArg (Option.map OnboardingSession.status) hfind
    by_cases hsweepable : OnboardingService.sweepable now s = true
    · rw [if_pos hsweepable] at hstatus
      exact .inr (.inr (.inl ⟨hstatus, (of_decide_eq_true hsweepable).1⟩))
    · rw [if_neg hsweepable] at hstatus
      exact .inl hstatus
  | finalizeSession stale =>
    have hstatus := OnboardingService.status_finalizeSession stale id db
    rw [h, Option.map_some] at hstatus
    by_cases hexpiring : id = stale.sessionId ∧ status = .expiring
    · rw [if_pos hexpiring] at hstatus
      exact .inr (.inr (.inr ⟨hstatus, hexpiring.2, congrArg some hexpiring.1.symm⟩))
    · rw [if_neg hexpiring] at hstatus
      exact .inl hstatus
  | autoReject applicationId fileHash => exact .inl h

/-- EXPIRED and APPROVED are not left for another status than these. -/
def Database.Closed (id : String) (db : Database) : Prop :=
  (db.onboardingSessions.find? id).map OnboardingSession.status = some .expired ∨
    (db.onboardingSessions.find? id).map OnboardingSession.status = some .approved

theorem closed_execute (w : KycWrite) (m : KycMoment) (h : db.Closed id) :
    (w.execute m db).Closed id := by
  rcases h with h | h
  · rcases w.status_execute m h with hsame | happroved | ⟨-, hopen⟩ | ⟨-, hopen, -⟩
    · exact .inl hsame
    · exact .inr happroved
    · cases hopen with
      | inl hopen => cases hopen
      | inr hopen => cases hopen
    · cases hopen
  · rcases w.status_execute m h with hsame | happroved | ⟨-, hopen⟩ | ⟨-, hopen, -⟩
    · exact .inr hsame
    · exact .inr happroved
    · cases hopen with
      | inl hopen => cases hopen
      | inr hopen => cases hopen
    · cases hopen

/-- The session that becomes EXPIRED. -/
def expiredIn (db db' : Database) : Option String :=
  (db.onboardingSessions.rows.find? fun s => s.status ≠ .expired ∧
    (db'.onboardingSessions.find? s.sessionId).map OnboardingSession.status = some .expired).map
      OnboardingSession.sessionId

theorem expiredIn_of_unchanged {db' : Database}
    (h : ∀ id status, (db.onboardingSessions.find? id).map OnboardingSession.status = some status →
      (db'.onboardingSessions.find? id).map OnboardingSession.status = some .expired →
      status = .expired) : expiredIn db db' = none := by
  rw [expiredIn, Option.map_eq_none_iff, List.find?_eq_none]
  intro s hs hexpired
  obtain ⟨hne, hafter⟩ := of_decide_eq_true hexpired
  exact hne (h s.sessionId s.status (by rw [Table.find?_of_mem hs, Option.map_some]) hafter)

/-- A write expires the session that it finalizes, if it finds it EXPIRING. -/
theorem expiredIn_execute (w : KycWrite) (m : KycMoment) (db : Database) :
    expiredIn db (w.execute m db) = (SweepWrite.kyc w).finalizes.filter fun id =>
      OnboardingService.isExpiring id db := by
  have hexpires {id : String} {status : KycOnboardingStatus}
      (hbefore : (db.onboardingSessions.find? id).map OnboardingSession.status = some status)
      (hafter : ((w.execute m db).onboardingSessions.find? id).map OnboardingSession.status =
        some .expired) :
      status = .expired ∨ status = .expiring ∧ (SweepWrite.kyc w).finalizes = some id := by
    rcases w.status_execute m hbefore with hsame | happroved | ⟨hexpiring, -⟩ | ⟨-, hexpiring, hid⟩
    · rw [hafter] at hsame
      exact .inl (Option.some.inj hsame).symm
    · rw [hafter] at happroved
      cases happroved
    · rw [hafter] at hexpiring
      cases hexpiring
    · exact .inr ⟨hexpiring, hid⟩
  by_cases hfinds : ∃ k ∈ (SweepWrite.kyc w).finalizes, OnboardingService.isExpiring k db = true
  · obtain ⟨k, hk, hexpiring⟩ := hfinds
    have hk : (SweepWrite.kyc w).finalizes = some k := hk
    obtain ⟨s, hs, hstatus⟩ := Option.map_eq_some_iff.mp (OnboardingService.isExpiring_iff.mp hexpiring)
    have hafter : ((w.execute m db).onboardingSessions.find? k).map OnboardingSession.status =
        some .expired := by
      cases w with
      | finalizeSession stale =>
        cases hk
        refine (OnboardingService.status_finalizeSession stale _ db).trans ?_
        rw [hs, Option.map_some, Option.map_some, if_pos ⟨rfl, hstatus⟩]
      | _ => cases hk
    rw [hk, Option.filter_some, if_pos hexpiring, expiredIn]
    cases hfind : db.onboardingSessions.rows.find? fun s => s.status ≠ .expired ∧
        ((w.execute m db).onboardingSessions.find? s.sessionId).map OnboardingSession.status =
          some .expired with
    | none =>
      refine absurd (decide_eq_true ⟨?_, ?_⟩)
        (List.find?_eq_none.mp hfind s (Table.mem_of_find? hs))
      · rw [hstatus]
        decide
      · rw [Table.find?_key hs]
        exact hafter
    | some t =>
      have htmem := List.mem_of_find?_eq_some hfind
      have ht := List.find?_some hfind
      simp only [decide_eq_true_eq] at ht
      rcases hexpires (by rw [Table.find?_of_mem htmem, Option.map_some]) ht.2 with hdone | ⟨-, hid⟩
      · exact absurd hdone ht.1
      · rw [hk] at hid
        exact hid.symm
  · have hfilter : ((SweepWrite.kyc w).finalizes.filter fun id =>
        OnboardingService.isExpiring id db) = none := by
      rw [Option.filter_eq_none_iff]
      intro k hk hexpiring
      exact hfinds ⟨k, hk, hexpiring⟩
    rw [hfilter]
    refine expiredIn_of_unchanged fun id status hbefore hafter => ?_
    rcases hexpires hbefore hafter with hdone | ⟨hexpiring, hid⟩
    · exact hdone
    · refine absurd ⟨id, hid, OnboardingService.isExpiring_iff.mpr ?_⟩ hfinds
      rw [hbefore, hexpiring]

end statuses

section interleaving
variable {ι : Type}

abbrev SweepThreads (ι : Type) : Type :=
  Config Announcements ι (Program Announcements SweepWrite KycMoment (Except AppError ℕ))

def launchSweeps (operations : ι → SweepOperation) (db : Database) : SweepThreads ι where
  shared := { db }
  threads i := (operations i).program.run

variable [DecidableEq ι]

/-- The thread named by the label executes its next statement at the moment given. -/
def performSweep (c : SweepThreads ι) (l : ι × KycMoment) : SweepThreads ι :=
  perform SweepWrite.execute c l

namespace SweepThreads

/-- The session that the step finalizes. -/
def finalizes (c : SweepThreads ι) (l : ι × KycMoment) : Option String :=
  (sent c l).bind fun x => x.2.finalizes

/-- The session that the step makes EXPIRED. -/
def expires (c : SweepThreads ι) (l : ι × KycMoment) : Option String :=
  expiredIn c.shared.db (performSweep c l).shared.db

/-- The count that the operation has answered. -/
def returned (c : SweepThreads ι) (i : ι) : ℕ :=
  ((c.threads i).result.bind Except.toOption).getD 0

/-- A finalization finds its session EXPIRING. -/
def FindsExpiring (c : SweepThreads ι) (l : ι × KycMoment) : Prop :=
  ∀ id ∈ c.finalizes l, OnboardingService.isExpiring id c.shared.db = true

theorem expires_eq (c : SweepThreads ι) (l : ι × KycMoment) :
    c.expires l = (c.finalizes l).filter fun id => OnboardingService.isExpiring id c.shared.db := by
  have hidle : expiredIn c.shared.db c.shared.db = none :=
    expiredIn_of_unchanged fun id status hbefore hafter =>
      Option.some.inj (hbefore.symm.trans hafter)
  rw [expires, performSweep, perform_shared, Program.advance_shared, finalizes, sent]
  cases (c.threads l.1).pending with
  | none => exact hidle
  | some w =>
    cases w with
    | kyc w => exact expiredIn_execute w l.2 c.shared.db
    | emit event => exact hidle

theorem expires_eq_finalizes_iff (c : SweepThreads ι) (l : ι × KycMoment) :
    c.expires l = c.finalizes l ↔ c.FindsExpiring l := by
  rw [expires_eq, FindsExpiring]
  cases c.finalizes l with
  | none => simp
  | some id => simp [Option.filter_some]

theorem closed_performSweep {id : String} (c : SweepThreads ι) (l : ι × KycMoment)
    (h : c.shared.db.Closed id) : (performSweep c l).shared.db.Closed id := by
  rw [performSweep, perform_shared, Program.advance_shared]
  cases (c.threads l.1).pending with
  | none => exact h
  | some w =>
    cases w with
    | kyc w => exact closed_execute w l.2 h
    | emit event => exact h

/-- A session becomes EXPIRED once at most. -/
theorem nodup_expires (c : SweepThreads ι) (schedule : List (ι × KycMoment)) :
    (history performSweep expires c schedule).Nodup := by
  refine List.nodup_iff_count_le_one.mpr fun id => ?_
  refine (countP_history_le_one (I := fun _ => True) (J := fun c => c.shared.db.Closed id)
    (fun _ _ _ => trivial) (fun c l _ h => closed_performSweep c l h) (fun c l k _ hk hid => ?_)
    trivial schedule).1
  obtain rfl := eq_of_beq hid
  obtain ⟨s, hs, rfl⟩ := Option.map_eq_some_iff.mp hk
  have hfound := List.find?_some hs
  simp only [decide_eq_true_eq] at hfound
  have hexpiring : OnboardingService.isExpiring s.sessionId c.shared.db = true := by
    rw [expires_eq] at hk
    exact (Option.filter_eq_some_iff.mp hk).2
  refine ⟨fun hclosed => ?_, .inl hfound.2⟩
  rw [OnboardingService.isExpiring_iff] at hexpiring
  rcases hclosed with hclosed | hclosed
  · rw [hexpiring] at hclosed
    cases hclosed
  · rw [hexpiring] at hclosed
    cases hclosed

theorem emitted_run (operations : ι → SweepOperation) (db : Database)
    (schedule : List (ι × KycMoment)) :
    (run performSweep (launchSweeps operations db) schedule).shared.emitted.map
        SessionExpired.sessionId =
      (history performSweep sent (launchSweeps operations db) schedule).flatMap
        fun x => x.2.announces.toList := by
  refine run_history (v := fun c : SweepThreads ι => c.shared.emitted.map SessionExpired.sessionId)
    (fun c l => ?_) schedule
  rw [performSweep, perform_shared, Program.advance_shared, sent]
  cases (c.threads l.1).pending with
  | none => simp
  | some w =>
    cases w with
    | kyc w => simp [SweepWrite.execute, SweepWrite.announces]
    | emit event => simp [SweepWrite.execute, SweepWrite.announces]

variable [Fintype ι]

/-- In a finished interleaving as much has been announced and returned as has been finalized. -/
theorem accounted_run (operations : ι → SweepOperation) (db : Database)
    (schedule : List (ι × KycMoment))
    (hfinished : ∀ i, ((run performSweep (launchSweeps operations db) schedule).threads i).result
      ≠ none) :
    (∀ id, ((run performSweep (launchSweeps operations db) schedule).shared.emitted.map
        SessionExpired.sessionId).count id =
      (history performSweep finalizes (launchSweeps operations db) schedule).count id) ∧
    ∑ i, (run performSweep (launchSweeps operations db) schedule).returned i =
      (history performSweep finalizes (launchSweeps operations db) schedule).length := by
  have haccounted (i : ι) : Accounted
      ((run performSweep (launchSweeps operations db) schedule).returned i)
      (writesOf i (history performSweep sent (launchSweeps operations db) schedule)) := by
    have hstart (j : ι) : ((launchSweeps operations db).threads j).Yields
        (fun ws r => Accounted (r.toOption.getD 0) ws) (writesOf j []) := (operations j).yields
    have hyields : ((run performSweep (launchSweeps operations db) schedule).threads i).Yields
        (fun ws r => Accounted (r.toOption.getD 0) ws)
        (writesOf i ([] ++ history performSweep sent (launchSweeps operations db) schedule)) :=
      yields_run hstart schedule i
    obtain ⟨r, hr⟩ := Option.ne_none_iff_exists'.mp (hfinished i)
    have hresult := hyields.of_result hr
    rw [returned, hr]
    exact hresult
  have hfinalized : history performSweep finalizes (launchSweeps operations db) schedule =
      (history performSweep sent (launchSweeps operations db) schedule).filterMap
        fun x => x.2.finalizes := history_bind _ schedule
  constructor
  · intro id
    rw [emitted_run, ← List.filterMap_eq_flatMap_toList, hfinalized, List.count_filterMap,
      List.count_filterMap, ← sum_countP_writesOf (fun w : SweepWrite => w.announces == some id),
      ← sum_countP_writesOf (fun w : SweepWrite => w.finalizes == some id)]
    refine Finset.sum_congr rfl fun i _ => ?_
    rw [← List.count_filterMap, ← List.count_filterMap, (haccounted i).1]
  · rw [hfinalized, List.length_filterMap_eq_countP,
      ← sum_countP_writesOf (fun w : SweepWrite => w.finalizes.isSome)]
    refine Finset.sum_congr rfl fun i _ => ?_
    rw [← List.length_filterMap_eq_countP, (haccounted i).2]

/-- When all operations have finished, each session that became EXPIRED has been
announced once, no other has, and the counts add up to their number, in exactly the
interleavings in which every finalization finds its session EXPIRING. -/
theorem announced_once_iff (operations : ι → SweepOperation) (db : Database)
    (schedule : List (ι × KycMoment))
    (hfinished : ∀ i, ((run performSweep (launchSweeps operations db) schedule).threads i).result
      ≠ none) :
    let final := run performSweep (launchSweeps operations db) schedule
    let expired := history performSweep expires (launchSweeps operations db) schedule
    (∀ id, (final.shared.emitted.map SessionExpired.sessionId).count id =
        if id ∈ expired then 1 else 0) ∧
      ∑ i, final.returned i = expired.length ↔
    Along performSweep FindsExpiring (launchSweeps operations db) schedule := by
  intro final expired
  obtain ⟨hcount, hsum⟩ := accounted_run operations db schedule hfinished
  have hexpires (c : SweepThreads ι) (l : ι × KycMoment) :
      expires c l = none ∨ expires c l = finalizes c l := by
    rw [expires_eq]
    cases c.finalizes l with
    | none => exact .inl rfl
    | some id => by_cases h : OnboardingService.isExpiring id c.shared.db <;>
        simp [Option.filter_some, h]
  have hlength : expired.length = (history performSweep finalizes (launchSweeps operations db)
      schedule).length ↔ Along performSweep (fun c l => expires c l = finalizes c l)
        (launchSweeps operations db) schedule := (length_history_eq_iff hexpires schedule).2
  have halong : Along performSweep (fun c l => expires c l = finalizes c l)
      (launchSweeps operations db) schedule ↔
      Along performSweep FindsExpiring (launchSweeps operations db) schedule :=
    along_iff_along (I := fun _ => True) (fun c l _ => expires_eq_finalizes_iff c l)
      (fun _ _ _ _ => trivial) trivial
  rw [← halong]
  constructor
  · intro hannounced
    exact hlength.mp (hannounced.2.symm.trans hsum)
  · intro hfinds
    have hsame : expired = _ := history_congr hfinds
    refine ⟨fun id => ?_, ?_⟩
    · rw [hcount id, ← hsame, (nodup_expires (launchSweeps operations db) schedule).count]
    · rw [hsum, hsame]

end SweepThreads

end interleaving

/-- Two sweeps, as two instances of the worker run them. -/
def twoSweeps (_ : Bool) : SweepOperation := .expireStaleOnboardingSessions 500

def sweepMoment (now : DateTime) : KycMoment where
  now := now

instance {ι : Type} [DecidableEq ι] (c : SweepThreads ι) (l : ι × KycMoment) :
    Decidable (c.FindsExpiring l) :=
  inferInstanceAs (Decidable (∀ id ∈ c.finalizes l, _))

/-- One sweep after the other, each with the session that has expired meanwhile. -/
def sweepsInTurn : List (Bool × KycMoment) :=
  List.replicate 6 (true, sweepMoment 10) ++ List.replicate 6 (false, sweepMoment 20)

theorem sweeps_in_turn_announce_once :
    let final := run performSweep (launchSweeps twoSweeps twoSessions) sweepsInTurn
    let expired := history performSweep SweepThreads.expires (launchSweeps twoSweeps twoSessions)
      sweepsInTurn
    (∀ id, (final.shared.emitted.map SessionExpired.sessionId).count id =
        if id ∈ expired then 1 else 0) ∧
      ∑ i, final.returned i = expired.length :=
  (SweepThreads.announced_once_iff twoSweeps twoSessions sweepsInTurn (by decide +kernel)).mpr
    (by decide +kernel)

/-- The second sweep finds the session of the first one EXPIRING and takes it too. -/
def overlappingSweeps : List (Bool × KycMoment) :=
  List.replicate 3 (true, sweepMoment 10) ++ List.replicate 8 (false, sweepMoment 20) ++
    List.replicate 3 (true, sweepMoment 20)

theorem overlapping_sweeps_announce_twice :
    let final := run performSweep (launchSweeps twoSweeps twoSessions) overlappingSweeps
    let expired := history performSweep SweepThreads.expires (launchSweeps twoSweeps twoSessions)
      overlappingSweeps
    (∀ i, (final.threads i).result ≠ none) ∧ expired = ["s", "t"] ∧
      final.shared.emitted.map SessionExpired.sessionId = ["s", "t", "s"] ∧
      ¬ ((∀ id, (final.shared.emitted.map SessionExpired.sessionId).count id =
          if id ∈ expired then 1 else 0) ∧
        ∑ i, final.returned i = expired.length) := by
  intro final expired
  refine ⟨by decide +kernel, by decide +kernel, by decide +kernel, fun h => ?_⟩
  have hsum : ∑ i, final.returned i = 3 ∧ expired.length = 2 := by decide +kernel
  have heq := h.2
  rw [hsum.1, hsum.2] at heq
  cases heq

end InstalFlow
