import InstalFlow.KycRecords

/-!
# Sweeping expired sessions

A run of the sweep claims what has gone stale, reads a batch of claimed sessions,
and finalizes them one by one. It reads no batch when it has claimed nothing, so
what a crash or a full batch has left behind waits for the next stale session.
-/

namespace InstalFlow
open Relational Transition

namespace OnboardingSweeperWorker

/-- Answers `drained`. -/
def run (batchSize : ℕ) : KycProgram Bool := do
  let expiredCount ← KycProgram.expireStaleOnboardingSessions batchSize
  return decide (expiredCount < batchSize)

end OnboardingSweeperWorker

/-- The unique index on the session of an application. -/
def Database.OneApplication (db : Database) : Prop :=
  ∀ a ∈ db.kycApplications.rows, ∀ b ∈ db.kycApplications.rows,
    a.onboardingSessionId = b.onboardingSessionId → a.onboardingSessionId ≠ none → a = b

/-- The session is EXPIRED, and the application it has led to is REJECTED. -/
def Database.Finished (sessionId : String) (db : Database) : Prop :=
  (db.onboardingSessions.find? sessionId).map OnboardingSession.status = some .expired ∧
    ∀ a ∈ db.kycApplications.rows, a.onboardingSessionId = some sessionId → a.status = .rejected

/-- The session is EXPIRING, and its application the one that was read with it. -/
def StaleSession.Waits (stale : StaleSession) (db : Database) : Prop :=
  (db.onboardingSessions.find? stale.sessionId).map OnboardingSession.status = some .expiring ∧
    ∀ a ∈ db.kycApplications.rows, a.onboardingSessionId = some stale.sessionId →
      stale.applicationId = some a.kycApplicationId

namespace OnboardingService
variable {stale other : StaleSession} {db : Database} {sessionId : String}

theorem expiredSession_sessionId (s : OnboardingSession) :
    (expiredSession s).sessionId = s.sessionId := rfl

theorem isExpiring_iff : isExpiring sessionId db = true ↔
    (db.onboardingSessions.find? sessionId).map OnboardingSession.status = some .expiring := by
  rw [isExpiring]
  cases db.onboardingSessions.find? sessionId <;> simp

/-- The conditional update that finalizes a session. -/
theorem onboardingSessions_finalizeSession (stale : StaleSession) (db : Database) :
    (finalizeSession stale db).onboardingSessions = db.onboardingSessions.updateMany
      (fun s => s.sessionId = stale.sessionId ∧ s.status = .expiring) expiredSession
      expiredSession_sessionId := by
  rw [finalizeSession]
  by_cases hexpiring : isExpiring stale.sessionId db
  · obtain ⟨s, hs, hstatus⟩ := Option.map_eq_some_iff.mp (isExpiring_iff.mp hexpiring)
    have hupdate : db.onboardingSessions.update stale.sessionId expiredSession
        expiredSession_sessionId = db.onboardingSessions.updateMany
          (fun s => s.sessionId = stale.sessionId ∧ s.status = .expiring) expiredSession
          expiredSession_sessionId := by
      refine (Table.update_eq_updateMany (p := fun s => s.status = .expiring) hs
        (decide_eq_true hstatus)).trans ?_
      simp
    simp only [hexpiring, Bool.not_true, Bool.false_eq_true, if_false]
    cases stale.applicationId with
    | none => simpa using hupdate
    | some applicationId => simpa [KycService.updateApplication] using hupdate
  · rw [if_pos (by simpa using hexpiring), Table.updateMany_eq_self]
    intro s hs
    have hfind := Table.find?_of_mem hs
    rw [decide_eq_false_iff_not]
    rintro ⟨hid, hstatus⟩
    rw [hid] at hfind
    exact hexpiring (isExpiring_iff.mpr (by rw [hfind, Option.map_some, hstatus]))

theorem status_finalizeSession (stale : StaleSession) (sessionId : String) (db : Database) :
    ((finalizeSession stale db).onboardingSessions.find? sessionId).map OnboardingSession.status =
      ((db.onboardingSessions.find? sessionId).map OnboardingSession.status).map fun status =>
        if sessionId = stale.sessionId ∧ status = .expiring then .expired else status := by
  rw [onboardingSessions_finalizeSession, Table.find?_updateMany]
  cases hs : db.onboardingSessions.find? sessionId with
  | none => rfl
  | some s =>
    have hid := Table.find?_key hs
    by_cases hmatch : s.sessionId = stale.sessionId ∧ s.status = .expiring
    · simp [hid ▸ hmatch.1, hmatch, expiredSession]
    · have hmatch' : ¬ (sessionId = stale.sessionId ∧ s.status = .expiring) := hid ▸ hmatch
      simp [hmatch, hmatch']

/-- An application is left alone or rejected. -/
theorem mem_applications_finalizeSession {a : KycApplication}
    (h : a ∈ (finalizeSession stale db).kycApplications.rows) :
    ∃ b ∈ db.kycApplications.rows, b.origin = a.origin ∧
      (a.status = b.status ∨ a.status = .rejected) := by
  rw [finalizeSession] at h
  split at h
  · exact ⟨a, h, rfl, .inl rfl⟩
  · cases happlication : stale.applicationId with
    | none =>
      rw [happlication] at h
      exact ⟨a, h, rfl, .inl rfl⟩
    | some applicationId =>
      rw [happlication] at h
      have h : a ∈ (db.kycApplications.update applicationId
        (KycService.rejectedApplication "Onboarding session expired.") fun _ => rfl).rows := h
      rcases Table.mem_update h with h | ⟨b, hb, rfl⟩
      · exact ⟨a, h, rfl, .inl rfl⟩
      · exact ⟨b, hb, rfl, .inr rfl⟩

theorem finished_finalizeSession (h : db.Finished sessionId) :
    (finalizeSession stale db).Finished sessionId := by
  refine ⟨?_, fun a ha hlink => ?_⟩
  · rw [status_finalizeSession, h.1, Option.map_some, if_neg]
    rintro ⟨-, hstatus⟩
    cases hstatus
  · obtain ⟨b, hb, hsame, hstatus | hstatus⟩ := mem_applications_finalizeSession ha
    · rw [hstatus]
      exact h.2 b hb ((congrArg KycApplication.onboardingSessionId hsame :).trans hlink)
    · exact hstatus

/-- What a session waits for does not change while another one is finalized. -/
theorem waits_finalizeSession (hne : other.sessionId ≠ stale.sessionId) (h : other.Waits db) :
    other.Waits (finalizeSession stale db) := by
  refine ⟨?_, fun a ha hlink => ?_⟩
  · rw [status_finalizeSession, h.1, Option.map_some, if_neg fun hsame => hne hsame.1]
  · obtain ⟨b, hb, hsame, -⟩ := mem_applications_finalizeSession ha
    have hkey : b.kycApplicationId = a.kycApplicationId :=
      (congrArg KycApplication.kycApplicationId hsame :)
    rw [← hkey]
    exact h.2 b hb ((congrArg KycApplication.onboardingSessionId hsame :).trans hlink)

theorem finished_of_waits (h : stale.Waits db) :
    (finalizeSession stale db).Finished stale.sessionId := by
  refine ⟨?_, fun a ha hlink => ?_⟩
  · rw [status_finalizeSession, h.1, Option.map_some, if_pos ⟨rfl, rfl⟩]
  · obtain ⟨b, hb, hsame, -⟩ := mem_applications_finalizeSession ha
    have hkey : b.kycApplicationId = a.kycApplicationId :=
      (congrArg KycApplication.kycApplicationId hsame :)
    have happlication := h.2 b hb ((congrArg KycApplication.onboardingSessionId hsame :).trans hlink)
    rw [finalizeSession, isExpiring_iff.mpr h.1, happlication] at ha
    have ha : a ∈ (db.kycApplications.updateMany
      (fun a => a.kycApplicationId = b.kycApplicationId)
      (KycService.rejectedApplication "Onboarding session expired.") fun _ => rfl).rows := ha
    rcases Table.mem_updateMany.mp ha with ⟨-, hother⟩ | ⟨c, -, -, rfl⟩
    · exact absurd hkey.symm (of_decide_eq_false hother)
    · rfl

/-- The batch, one session after the other. -/
def finalizeAll (batch : List StaleSession) (db : Database) : Database :=
  batch.foldl (fun db stale => finalizeSession stale db) db

theorem finished_finalizeAll {batch : List StaleSession} (h : db.Finished sessionId) :
    (finalizeAll batch db).Finished sessionId := by
  induction batch generalizing db with
  | nil => exact h
  | cons stale batch ih => exact ih (finished_finalizeSession h)

theorem finished_of_mem_batch {batch : List StaleSession}
    (hnodup : (batch.map StaleSession.sessionId).Nodup) (hwaits : ∀ stale ∈ batch, stale.Waits db) :
    ∀ stale ∈ batch, (finalizeAll batch db).Finished stale.sessionId := by
  induction batch generalizing db with
  | nil =>
    intro stale hstale
    cases hstale
  | cons first batch ih =>
    obtain ⟨hfirst, hnodup⟩ := List.nodup_cons.mp hnodup
    intro stale hstale
    rcases List.mem_cons.mp hstale with rfl | hstale
    · have hdone := finished_of_waits (hwaits stale List.mem_cons_self)
      have hrest : (finalizeAll batch (finalizeSession stale db)).Finished stale.sessionId :=
        finished_finalizeAll hdone
      exact hrest
    · refine ih hnodup (fun other hother => ?_) stale hstale
      refine waits_finalizeSession (fun hsame => hfirst ?_)
        (hwaits other (List.mem_cons_of_mem first hother))
      rw [← hsame]
      exact List.mem_map_of_mem hother

theorem expiring_of_finalizeAll {batch : List StaleSession}
    (h : ((finalizeAll batch db).onboardingSessions.find? sessionId).map
      OnboardingSession.status = some .expiring) :
    (db.onboardingSessions.find? sessionId).map OnboardingSession.status = some .expiring := by
  induction batch generalizing db with
  | nil => exact h
  | cons stale batch ih =>
    have hstatus := ih h
    rw [status_finalizeSession] at hstatus
    obtain ⟨status, hfind, hexpiring⟩ := Option.map_eq_some_iff.mp hstatus
    rw [hfind]
    split at hexpiring
    · cases hexpiring
    · rw [hexpiring]

end OnboardingService

namespace KycProgram
variable {α β : Type} {m : KycMoment} {db d : Database}

/-- The program alone, all of it at one moment. -/
def complete (p : KycProgram α) (m : KycMoment) (db : Database) : Database × Except AppError α :=
  p.run.complete KycWrite.execute m db

theorem complete_bind_of_ok {p : KycProgram α} {f : α → KycProgram β} {a : α}
    (h : p.complete m db = (d, .ok a)) : (p >>= f).complete m db = (f a).complete m d := by
  refine (Program.complete_exceptBind p f m db).trans ?_
  rw [complete] at h
  rw [h]
  rfl

/-- The batch with the applications as they are when it has been read. -/
def staleBatch (batchSize : ℕ) (m : KycMoment) (db : Database) : List StaleSession :=
  (expiringBatch batchSize m db).map fun s => ⟨s.sessionId, applicationOf s.sessionId db⟩

theorem complete_finalizeAll (batch : List StaleSession) (m : KycMoment) (db : Database) :
    KycProgram.complete (batch.forM fun stale => send (.finalizeSession stale) fun _ _ => .ok ())
      m db = (OnboardingService.finalizeAll batch db, .ok ()) := by
  induction batch generalizing db with
  | nil => rfl
  | cons stale batch ih =>
    refine (complete_bind_of_ok (a := ()) (d := OnboardingService.finalizeSession stale db) rfl).trans
      ?_
    exact ih (OnboardingService.finalizeSession stale db)

theorem expire_of_none (batchSize : ℕ)
    (h : ∀ s ∈ db.onboardingSessions.rows, OnboardingService.sweepable m.now s = false) :
    (expireStaleOnboardingSessions batchSize).complete m db = (db, .ok 0) := by
  have hsessions : db.onboardingSessions.updateMany (OnboardingService.sweepable m.now)
      OnboardingService.expiringSession (fun _ => rfl) = db.onboardingSessions :=
    Table.updateMany_eq_self h
  have hclaim : OnboardingService.claimSessions m.now db = db :=
    congrArg (fun onboardingSessions => { db with onboardingSessions }) hsessions
  have hcount : db.onboardingSessions.rows.countP (OnboardingService.sweepable m.now) = 0 :=
    List.countP_eq_zero.mpr fun s hs => by simp [h s hs]
  refine (complete_bind_of_ok (a := m) (d := db) rfl).trans ?_
  refine (complete_bind_of_ok (a := 0) (d := db) ?_).trans rfl
  rw [← hcount]
  exact congrArg (fun d => (d, _)) hclaim

theorem expire_of_some (batchSize : ℕ) {s : OnboardingSession}
    (hs : s ∈ db.onboardingSessions.rows) (hstale : OnboardingService.sweepable m.now s = true) :
    let claimed := OnboardingService.claimSessions m.now db
    (expireStaleOnboardingSessions batchSize).complete m db =
      (OnboardingService.finalizeAll (staleBatch batchSize m claimed) claimed,
        .ok (expiringBatch batchSize m claimed).length) := by
  intro claimed
  have hcount : db.onboardingSessions.rows.countP (OnboardingService.sweepable m.now) ≠ 0 :=
    (List.countP_pos_iff.mpr ⟨s, hs, hstale⟩).ne'
  refine (complete_bind_of_ok (a := m) (d := db) rfl).trans ?_
  refine (complete_bind_of_ok (d := claimed) rfl).trans ?_
  rw [if_neg hcount]
  refine (complete_bind_of_ok (a := expiringBatch batchSize m claimed) (d := claimed) rfl).trans ?_
  refine (complete_bind_of_ok (a := staleBatch batchSize m claimed) (d := claimed) rfl).trans ?_
  exact complete_bind_of_ok (complete_finalizeAll (staleBatch batchSize m claimed) m claimed)

/-- A batch that is not full has every claimed session. -/
theorem mem_expiringBatch {batchSize : ℕ} {s : OnboardingSession}
    (hlength : (expiringBatch batchSize m db).length < batchSize)
    (hs : s ∈ db.onboardingSessions.rows) (hstatus : s.status = .expiring) :
    s ∈ expiringBatch batchSize m db := by
  rw [expiringBatch] at hlength ⊢
  rw [List.length_take, min_lt_iff] at hlength
  rw [List.take_of_length_le (hlength.resolve_left (lt_irrefl batchSize)).le,
    List.mem_insertionSort, List.mem_filter]
  exact ⟨hs, decide_eq_true hstatus⟩

theorem of_mem_expiringBatch {batchSize : ℕ} {s : OnboardingSession}
    (hs : s ∈ expiringBatch batchSize m db) :
    s ∈ db.onboardingSessions.rows ∧ s.status = .expiring := by
  have hs := List.mem_of_mem_take hs
  rw [List.mem_insertionSort, List.mem_filter] at hs
  exact ⟨hs.1, of_decide_eq_true hs.2⟩

theorem nodup_staleBatch (batchSize : ℕ) (m : KycMoment) (db : Database) :
    ((staleBatch batchSize m db).map StaleSession.sessionId).Nodup := by
  have hkeys : (staleBatch batchSize m db).map StaleSession.sessionId =
      (expiringBatch batchSize m db).map OnboardingSession.sessionId := by
    rw [staleBatch, List.map_map]
    rfl
  have hfilter : ((db.onboardingSessions.rows.filter (fun s => s.status = .expiring)).map
      OnboardingSession.sessionId).Nodup :=
    db.onboardingSessions.unique.sublist (List.filter_sublist.map _)
  rw [hkeys, expiringBatch]
  refine List.Nodup.sublist ((List.take_sublist _ _).map _) ?_
  exact ((List.perm_insertionSort _ _).map _).nodup_iff.mpr hfilter

theorem waits_of_mem_staleBatch {batchSize : ℕ} {stale : StaleSession} (hone : db.OneApplication)
    (h : stale ∈ staleBatch batchSize m db) : stale.Waits db := by
  obtain ⟨s, hs, rfl⟩ := List.mem_map.mp h
  obtain ⟨hmem, hstatus⟩ := of_mem_expiringBatch hs
  refine ⟨?_, fun a ha hlink => ?_⟩
  · rw [Table.find?_of_mem hmem, Option.map_some, hstatus]
  · rw [applicationOf]
    cases hfind :
        db.kycApplications.rows.find? (fun a => a.onboardingSessionId = some s.sessionId) with
    | none => exact absurd (decide_eq_true hlink) (List.find?_eq_none.mp hfind a ha)
    | some b =>
      have hb := List.find?_some hfind
      simp only [decide_eq_true_eq] at hb
      rw [hone a ha b (List.mem_of_find?_eq_some hfind) (hlink.trans hb.symm)
        (by rw [hlink]; exact Option.some_ne_none _)]
      rfl

end KycProgram

section events
variable {db : Database}

/-- A write creates no application. -/
theorem KycWrite.mem_applications_execute (w : KycWrite) {m : KycMoment} {a : KycApplication}
    (h : a ∈ (w.execute m db).kycApplications.rows) :
    ∃ b ∈ db.kycApplications.rows, b.origin = a.origin := by
  have hupdate {t : Table KycApplication.kycApplicationId} {id : String}
      {f : KycApplication → KycApplication} (hf : ∀ a, (f a).kycApplicationId = a.kycApplicationId)
      (hsame : ∀ a, (f a).origin = a.origin) {a : KycApplication} (ha : a ∈ (t.update id f hf).rows) :
      ∃ b ∈ t.rows, b.origin = a.origin := by
    rcases Table.mem_update ha with ha | ⟨b, hb, rfl⟩
    · exact ⟨a, ha, rfl⟩
    · exact ⟨b, hb, (hsame b).symm⟩
  cases w with
  | approve r signature =>
    cases signature with
    | marketer => exact hupdate (f := KycService.marketerSigned m.now) (fun _ => rfl) (fun _ => rfl) h
    | admin =>
      have hsigned {a : KycApplication}
          (ha : a ∈ (KycService.signAsAdmin r m db).kycApplications.rows) :
          ∃ b ∈ db.kycApplications.rows, b.origin = a.origin :=
        hupdate (KycService.adminSigned_kycApplicationId r.requiresMarketerApproval m.now)
          (KycService.origin_adminSigned r.requiresMarketerApproval m.now) ha
      cases hrecord : KycService.recordAdminApproval r m db with
      | error err =>
        rw [execute, KycService.commitApproval, hrecord] at h
        exact ⟨a, h, rfl⟩
      | ok result =>
        rw [execute, KycService.commitApproval, hrecord] at h
        obtain ⟨application, -, ⟨-, rfl⟩ | ⟨-, contract, -, hactivates, -⟩⟩ :=
          KycService.recordAdminApproval_eq_ok hrecord
        · exact hsigned h
        · have h : a ∈ result.2.kycApplications.rows := h
          rw [hactivates.applications] at h
          obtain ⟨b, hb, hsame⟩ := hupdate (f := KycService.approvedApplication m.userId)
            (fun _ => rfl) (fun _ => rfl) h
          obtain ⟨b', hb', hsame'⟩ := hsigned hb
          exact ⟨b', hb', hsame'.trans hsame⟩
  | reject admin loaded reason =>
    exact hupdate (f := KycService.rejectedApplication reason) (fun _ => rfl) (fun _ => rfl) h
  | claimSessions now => exact ⟨a, h, rfl⟩
  | finalizeSession stale =>
    obtain ⟨b, hb, hsame, -⟩ := OnboardingService.mem_applications_finalizeSession h
    exact ⟨b, hb, hsame⟩
  | autoReject applicationId fileHash =>
    exact hupdate (f := KycService.rejectedApplication
      ("Auto-expired: KYC Application remained pending for more " ++
        "than 15 days without approval.")) (fun _ => rfl) (fun _ => rfl) h

theorem oneApplication_execute (w : KycWrite) (m : KycMoment) (h : db.OneApplication) :
    (w.execute m db).OneApplication := by
  intro a ha b hb hsame hsome
  obtain ⟨a', ha', haorigin⟩ := w.mem_applications_execute ha
  obtain ⟨b', hb', hborigin⟩ := w.mem_applications_execute hb
  have halink : a'.onboardingSessionId = a.onboardingSessionId :=
    (congrArg KycApplication.onboardingSessionId haorigin :)
  have hblink : b'.onboardingSessionId = b.onboardingSessionId :=
    (congrArg KycApplication.onboardingSessionId hborigin :)
  have heq : a' = b' :=
    h a' ha' b' hb' (halink.trans (hsame.trans hblink.symm)) (halink ▸ hsome)
  have hakey : a'.kycApplicationId = a.kycApplicationId :=
    (congrArg KycApplication.kycApplicationId haorigin :)
  have hbkey : b'.kycApplicationId = b.kycApplicationId :=
    (congrArg KycApplication.kycApplicationId hborigin :)
  exact Table.key_injective ha hb (hakey.symm.trans ((congrArg _ heq).trans hbkey))

end events

/-- What happens around the sweeps: a run of the worker, a run that a crash stops
after some of its statements, and what other operations make of the rows, under the
unique index on the session of an application. -/
inductive SweepEvent
  | run (m : KycMoment)
  | crash (m : KycMoment) (statements : ℕ)
  | meanwhile (f : Database → Database) (hf : ∀ db, db.OneApplication → (f db).OneApplication)

namespace SweepEvent

def apply (batchSize : ℕ) (db : Database) : SweepEvent → Database
  | run m => ((OnboardingSweeperWorker.run batchSize).complete m db).1
  | crash m statements =>
      (OnboardingSweeperWorker.run batchSize).run.interrupt KycWrite.execute m statements db
  | meanwhile f _ => f db

/-- The run has answered that it drained the sessions. -/
def drained (batchSize : ℕ) (m : KycMoment) (db : Database) : Bool :=
  ((OnboardingSweeperWorker.run batchSize).complete m db).2.toOption.getD false

end SweepEvent

/-- Nothing is EXPIRING, and what was stale or EXPIRING before is finished. -/
structure Database.Drained (now : DateTime) (db db' : Database) : Prop where
  none : ∀ s ∈ db'.onboardingSessions.rows, s.status ≠ .expiring
  finished : ∀ s ∈ db.onboardingSessions.rows,
    OnboardingService.sweepable now s = true ∨ s.status = .expiring → db'.Finished s.sessionId

namespace SweepEvent
variable {batchSize : ℕ} {m : KycMoment} {db : Database}

def Drains (batchSize : ℕ) (db : Database) : SweepEvent → Prop
  | run m => drained batchSize m db = true → db.Drained m.now ((run m).apply batchSize db)
  | _ => True

/-- A run that finds nothing stale finds nothing EXPIRING either. -/
def FindsAll (db : Database) : SweepEvent → Prop
  | run m => (∃ s ∈ db.onboardingSessions.rows, OnboardingService.sweepable m.now s = true) ∨
      ∀ s ∈ db.onboardingSessions.rows, s.status ≠ .expiring
  | _ => True

theorem oneApplication_apply (h : db.OneApplication) (e : SweepEvent) :
    (e.apply batchSize db).OneApplication := by
  cases e with
  | run m => exact Program.complete_invariant (fun _ w hone => oneApplication_execute w m hone) _ h
  | crash m statements =>
    exact Program.interrupt_invariant (fun _ w hone => oneApplication_execute w m hone) statements _ h
  | meanwhile f hf => exact hf db h

theorem finished_of_notFull (hone : db.OneApplication)
    (hlength : (KycProgram.expiringBatch batchSize m db).length < batchSize) {sessionId : String}
    (h : (db.onboardingSessions.find? sessionId).map OnboardingSession.status = some .expiring) :
    (OnboardingService.finalizeAll (KycProgram.staleBatch batchSize m db) db).Finished sessionId := by
  obtain ⟨s, hs, hstatus⟩ := Option.map_eq_some_iff.mp h
  have hbatch := KycProgram.mem_expiringBatch hlength (Table.mem_of_find? hs) hstatus
  have hstale : (⟨s.sessionId, KycProgram.applicationOf s.sessionId db⟩ : StaleSession) ∈
      KycProgram.staleBatch batchSize m db := List.mem_map.mpr ⟨s, hbatch, rfl⟩
  have hfinished := OnboardingService.finished_of_mem_batch
    (KycProgram.nodup_staleBatch batchSize m db)
    (fun _ hstale => KycProgram.waits_of_mem_staleBatch hone hstale) _ hstale
  rwa [Table.find?_key hs] at hfinished

/-- A batch that is not full leaves nothing EXPIRING. -/
theorem drained_of_notFull (hone : db.OneApplication)
    (hlength : (KycProgram.expiringBatch batchSize m
      (OnboardingService.claimSessions m.now db)).length < batchSize) :
    db.Drained m.now (OnboardingService.finalizeAll
      (KycProgram.staleBatch batchSize m (OnboardingService.claimSessions m.now db))
      (OnboardingService.claimSessions m.now db)) := by
  have hclaim : (OnboardingService.claimSessions m.now db).OneApplication := hone
  refine ⟨fun s hs hstatus => ?_, fun s hs hstale => finished_of_notFull hclaim hlength ?_⟩
  · have hexpiring : ((OnboardingService.finalizeAll
        (KycProgram.staleBatch batchSize m (OnboardingService.claimSessions m.now db))
        (OnboardingService.claimSessions m.now db)).onboardingSessions.find? s.sessionId).map
          OnboardingSession.status = some .expiring := by
      rw [Table.find?_of_mem hs, Option.map_some, hstatus]
    have hdone := (finished_of_notFull hclaim hlength
      (OnboardingService.expiring_of_finalizeAll hexpiring)).1
    rw [hexpiring] at hdone
    cases hdone
  · have hclaimed : (OnboardingService.claimSessions m.now db).onboardingSessions.find? s.sessionId =
        (db.onboardingSessions.find? s.sessionId).map (fun s =>
          if OnboardingService.sweepable m.now s then OnboardingService.expiringSession s else s) :=
      Table.find?_updateMany db.onboardingSessions (OnboardingService.sweepable m.now)
        OnboardingService.expiringSession (fun _ => rfl) s.sessionId
    rw [hclaimed, Table.find?_of_mem hs, Option.map_some, Option.map_some]
    rcases hstale with hstale | hexpiring
    · rw [if_pos hstale]
      rfl
    · split
      · rfl
      · rw [hexpiring]

theorem drains_run_iff (hbatch : 0 < batchSize) (hone : db.OneApplication) :
    (run m).Drains batchSize db ↔ (run m).FindsAll db := by
  by_cases hstale : ∃ s ∈ db.onboardingSessions.rows, OnboardingService.sweepable m.now s = true
  · obtain ⟨s, hs, hsweepable⟩ := hstale
    have hcomplete : (OnboardingSweeperWorker.run batchSize).complete m db = _ :=
      KycProgram.complete_bind_of_ok (KycProgram.expire_of_some batchSize hs hsweepable)
    refine iff_of_true (fun hdrained => ?_) (.inl ⟨s, hs, hsweepable⟩)
    rw [drained, hcomplete] at hdrained
    rw [apply, hcomplete]
    exact drained_of_notFull hone (of_decide_eq_true hdrained)
  · have hnone : ∀ s ∈ db.onboardingSessions.rows,
        OnboardingService.sweepable m.now s = false := by simpa using hstale
    have hcomplete : (OnboardingSweeperWorker.run batchSize).complete m db = _ :=
      KycProgram.complete_bind_of_ok (KycProgram.expire_of_none batchSize hnone)
    have hdrained : drained batchSize m db = true := by
      rw [drained, hcomplete]
      exact decide_eq_true hbatch
    rw [Drains, FindsAll, apply, hcomplete]
    constructor
    · intro hdrains
      exact .inr (hdrains hdrained).none
    · intro hfinds _
      have hidle := hfinds.resolve_left hstale
      refine ⟨hidle, fun s hs hpending => ?_⟩
      rcases hpending with hpending | hpending
      · exact absurd hpending (by simp [hnone s hs])
      · exact absurd hpending (hidle s hs)

/-- Over every series of runs, crashes and other operations, what a run reports to be
drained is so exactly when no run finds EXPIRING sessions but nothing stale. -/
theorem sweeps_drain_iff (hbatch : 0 < batchSize) (hone : db.OneApplication)
    (events : List SweepEvent) :
    Along (apply batchSize) (Drains batchSize) db events ↔
      Along (apply batchSize) FindsAll db events := by
  refine along_iff_along (I := Database.OneApplication) (fun db e hone => ?_)
    (fun db e hone _ => oneApplication_apply hone e) hone
  cases e with
  | run m => exact drains_run_iff hbatch hone
  | crash m statements => exact Iff.rfl
  | meanwhile f hf => exact Iff.rfl

end SweepEvent

instance (sessionId : String) (db : Database) : Decidable (db.Finished sessionId) :=
  inferInstanceAs (Decidable (_ ∧ _))

instance (now : DateTime) (db db' : Database) : Decidable (db.Drained now db') :=
  decidable_of_iff ((∀ s ∈ db'.onboardingSessions.rows, s.status ≠ .expiring) ∧
      ∀ s ∈ db.onboardingSessions.rows,
        OnboardingService.sweepable now s = true ∨ s.status = .expiring → db'.Finished s.sessionId)
    ⟨fun h => ⟨h.1, h.2⟩, fun h => ⟨h.none, h.finished⟩⟩

instance (batchSize : ℕ) (db : Database) : ∀ e : SweepEvent, Decidable (e.Drains batchSize db)
  | .run m => inferInstanceAs (Decidable (SweepEvent.drained batchSize m db = true → _))
  | .crash _ _ | .meanwhile _ _ => inferInstanceAs (Decidable True)

instance (db : Database) : ∀ e : SweepEvent, Decidable (e.FindsAll db)
  | .run _ => inferInstanceAs (Decidable (_ ∨ _))
  | .crash _ _ | .meanwhile _ _ => inferInstanceAs (Decidable True)

/-- Two sessions that expire one after the other. -/
def twoSessions : Database where
  onboardingSessions := ⟨[{ sessionId := "s", name := "Uma", email := "uma@x.y"
                            passwordHash := "h", status := .kycSubmitted, expiresAt := 9 },
    { sessionId := "t", name := "Tim", email := "tim@x.y", passwordHash := "h", expiresAt := 19 }],
    by decide⟩
  kycApplications := ⟨[{ kycApplicationId := "k", onboardingSessionId := some "s"
                         productId := "bike" }], by decide⟩

theorem oneApplication_twoSessions : twoSessions.OneApplication := by
  intro a ha b hb _ _
  rw [List.mem_singleton.mp ha, List.mem_singleton.mp hb]

/-- A crash right after the claim of the first session, and a run when the second
has expired too. -/
theorem drained_after_crash :
    Along (SweepEvent.apply 5) (SweepEvent.Drains 5) twoSessions
      [.crash { now := 10 } 2, .run { now := 20 }] :=
  (SweepEvent.sweeps_drain_iff (by decide) oneApplication_twoSessions
    [.crash { now := 10 } 2, .run { now := 20 }]).mpr (by decide +kernel)

/-- The second of two batches is never read, and neither is what a crash has left:
both runs report that they drained everything. -/
theorem drained_with_sessions_left :
    ¬ Along (SweepEvent.apply 1) (SweepEvent.Drains 1) twoSessions
        [.run { now := 20 }, .run { now := 20 }] ∧
    ¬ Along (SweepEvent.apply 5) (SweepEvent.Drains 5) twoSessions
        [.crash { now := 20 } 2, .run { now := 20 }] := by
  decide +kernel

end InstalFlow
