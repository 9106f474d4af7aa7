import InstalFlow.KycApplications
import InstalFlow.Transition.Program

/-!
# Reviews and sweeps as programs

Approvals, rejections, the sweep of expired sessions and the automatic rejection
of stale applications, as programs of single statements. A transaction is one
writing statement: the row of the application or of the session that it updates
first is locked until it commits. Reads are made one table at a time.
-/

namespace InstalFlow
open Relational Transition

/-- A session as the sweep loads it, with the application it leads to. -/
structure StaleSession where
  sessionId : String
  applicationId : Option String

/-- The transactions, with what they have read before, and the sweep's claim. -/
inductive KycWrite
  | approve (review : Review) (signature : Signature)
  | reject (admin : User) (loaded : LoadedApplication) (reason : String)
  | claimSessions (now : DateTime)
  | finalizeSession (stale : StaleSession)
  | autoReject (applicationId fileHash : String)

namespace OnboardingService

def sweepable (now : DateTime) (s : OnboardingSession) : Bool :=
  (s.status = .pendingKyc ∨ s.status = .kycSubmitted) ∧ s.expiresAt < now

def expiringSession (s : OnboardingSession) : OnboardingSession :=
  { s with status := .expiring, passwordHash := "" }

def claimSessions (now : DateTime) (db : Database) : Database :=
  let onboardingSessions := db.onboardingSessions.updateMany (sweepable now) expiringSession
    (fun _ => rfl)
  { db with onboardingSessions }

def expiredSession (s : OnboardingSession) : OnboardingSession := { s with status := .expired }

def isExpiring (sessionId : String) (db : Database) : Bool :=
  (db.onboardingSessions.find? sessionId).any (fun s => s.status = .expiring)

/-- The transaction of one session, which leaves a session that is no longer
EXPIRING alone. -/
def finalizeSession (stale : StaleSession) (db : Database) : Database :=
  if !isExpiring stale.sessionId db then db
  else
    let onboardingSessions := db.onboardingSessions.update stale.sessionId expiredSession
      (fun _ => rfl)
    let db := { db with onboardingSessions }
    match stale.applicationId with
    | none => db
    | some applicationId => KycService.updateApplication applicationId
        (KycService.rejectedApplication "Onboarding session expired.") (fun _ => rfl) db

end OnboardingService

namespace KycRetentionWorker

def graceDays : ℤ := 15

def isStale (now : DateTime) (a : KycApplication) : Bool :=
  a.status = .pending ∧ a.createdAt ≤ DateTime.addDays now (-graceDays) ∧ !a.legalHold ∧
    !a.isUnderFraudReview

def autoReject (applicationId fileHash : String) (m : KycMoment) (db : Database) : Database :=
  let db := KycService.updateApplication applicationId
    (KycService.rejectedApplication ("Auto-expired: KYC Application remained pending for more " ++
      "than 15 days without approval.")) (fun _ => rfl) db
  let db := KycService.auditKyc
    { kycApplicationId := applicationId, action := "REJECTED", fileHash
      details := "Auto-expired: Pending KYC application stale threshold exceeded (15 days " ++
        "grace period)." } db
  KycService.scheduleDeletion applicationId m.now db

end KycRetentionWorker

namespace KycWrite

/-- A transaction that fails leaves nothing. -/
def execute (m : KycMoment) (db : Database) : KycWrite → Database
  | approve review signature =>
      committed db Prod.snd (KycService.commitApproval review m db signature)
  | reject admin loaded reason => KycService.recordRejection admin loaded reason m db
  | claimSessions now => OnboardingService.claimSessions now db
  | finalizeSession stale => OnboardingService.finalizeSession stale db
  | autoReject applicationId fileHash =>
      KycRetentionWorker.autoReject applicationId fileHash m db

end KycWrite

abbrev KycProgram (α : Type) : Type :=
  ExceptT AppError (Program Database KycWrite KycMoment) α

namespace KycProgram
open KycService

def select {α : Type} (f : KycMoment → Database → α) : KycProgram α :=
  ExceptT.mk (.read fun m db => .done (.ok (f m db)))

def send {α : Type} (w : KycWrite) (f : KycMoment → Database → Except AppError α) :
    KycProgram α :=
  ExceptT.mk (.write w fun m db => .done (f m db))

def lift {α : Type} (result : Except AppError α) : KycProgram α := ExceptT.mk (.done result)

def findUser (userId : String) : KycProgram (Option User) :=
  select fun _ db => db.users.find? userId

/-- The row of the application, its document, its session and the session's marketer. -/
def loadApplication (applicationId : String) : KycProgram (Option LoadedApplication) := do
  match ← select fun _ db => db.kycApplications.find? applicationId with
  | none => return none
  | some application =>
    let fileHash ← select fun _ db => primaryFileHash applicationId db
    let session ← select fun _ db => sessionOf application db
    let marketer ← select fun _ db => marketerOf session db
    return some { application, fileHash, session, marketer }

def approveApplication (applicationId reviewerId : String) : KycProgram KycApplicationStatus := do
  let reviewer ← findUser reviewerId
  let loaded ← loadApplication applicationId
  let r ← lift (openReview reviewer loaded)
  let signature ← lift (authorize r)
  lift (assertApprovable r signature)
  send (.approve r signature) fun m db => (commitApproval r m db signature).map Prod.fst

def rejectApplication (applicationId adminId reason : String) : KycProgram Unit := do
  let admin ← lift (assertRejecter (← findUser adminId))
  let loaded ← lift (assertUndecided (← loadApplication applicationId))
  let marketer ← select fun _ db => marketerOf loaded.session db
  lift (assertAssociated admin loaded.session marketer)
  send (.reject admin loaded reason) fun _ _ => .ok ()

def applicationOf (sessionId : String) (db : Database) : Option String :=
  (db.kycApplications.rows.find? (fun a => a.onboardingSessionId = some sessionId)).map
    KycApplication.kycApplicationId

/-- At most `batchSize` of the sessions that are EXPIRING, in the order in which
the database returns them. -/
def expiringBatch (batchSize : ℕ) (m : KycMoment) (db : Database) : List OnboardingSession :=
  ((db.onboardingSessions.rows.filter (fun s => s.status = .expiring)).insertionSort
    (fun s t => m.rank s.sessionId ≤ m.rank t.sessionId)).take batchSize

/-- Answers how many sessions the batch had. -/
def expireStaleOnboardingSessions (batchSize : ℕ) : KycProgram ℕ := do
  let m ← select fun m _ => m
  let claimed ← send (.claimSessions m.now) fun _ db =>
    .ok (db.onboardingSessions.rows.countP (OnboardingService.sweepable m.now))
  if claimed = 0 then return 0
  let sessions ← select (expiringBatch batchSize)
  let stale ← select fun _ db =>
    sessions.map fun s => ⟨s.sessionId, applicationOf s.sessionId db⟩
  stale.forM fun stale => send (.finalizeSession stale) fun _ _ => .ok ()
  return sessions.length

def staleApplications (m : KycMoment) (db : Database) : List KycApplication :=
  (db.kycApplications.rows.filter (KycRetentionWorker.isStale m.now)).insertionSort
    (fun a b => m.rank a.kycApplicationId ≤ m.rank b.kycApplicationId)

def autoRejectStale : KycProgram Unit := do
  let applications ← select staleApplications
  let stale ← select fun _ db =>
    applications.map fun a => (a.kycApplicationId, primaryFileHash a.kycApplicationId db)
  stale.forM fun (applicationId, fileHash) =>
    send (.autoReject applicationId fileHash) fun _ _ => .ok ()

end KycProgram

inductive KycOperation
  | approve (applicationId reviewerId : String)
  | reject (applicationId adminId reason : String)
  | expireStaleOnboardingSessions (batchSize : ℕ)
  | autoRejectStale

def KycOperation.program : KycOperation → KycProgram Unit
  | approve applicationId reviewerId =>
      discard (KycProgram.approveApplication applicationId reviewerId)
  | reject applicationId adminId reason =>
      KycProgram.rejectApplication applicationId adminId reason
  | expireStaleOnboardingSessions batchSize =>
      discard (KycProgram.expireStaleOnboardingSessions batchSize)
  | autoRejectStale => KycProgram.autoRejectStale

end InstalFlow
