import InstalFlow.KycPrograms

/-!
# What reviews leave alone

No review, sweep or registration removes a row, and each row keeps the columns
it was created with: the person and the referrer of a session, what an
application is for, the terms of a contract, and all of a user. What has been
read of these columns stays true however the statements are interleaved.
-/

namespace InstalFlow
open Relational

/-- The columns a registration sets for good. -/
def OnboardingSession.origin (s : OnboardingSession) : OnboardingSession :=
  { s with passwordHash := "", status := .pendingKyc, expiresAt := 0 }

def KycApplication.origin (a : KycApplication) : KycApplication :=
  { a with
    userId := none
    status := .pending
    marketerApproved := false
    marketerApprovedAt := none
    adminApproved := false
    adminApprovedAt := none
    rejectionReason := none }

def FinancingContract.origin (c : FinancingContract) : FinancingContract :=
  { c with userId := none, status := .pendingActivation, activatedAt := none, rejectedAt := none }

/-- The rows are still there, with the columns they were created with. -/
structure Database.Keeps (db db' : Database) : Prop where
  users : ∀ id u, db.users.find? id = some u → db'.users.find? id = some u
  sessions : ∀ id s, db.onboardingSessions.find? id = some s →
    (db'.onboardingSessions.find? id).map OnboardingSession.origin = some s.origin
  applications : ∀ id a, db.kycApplications.find? id = some a →
    (db'.kycApplications.find? id).map KycApplication.origin = some a.origin
  contracts : ∀ id c, db.financingContracts.find? id = some c →
    (db'.financingContracts.find? id).map FinancingContract.origin = some c.origin

namespace Database.Keeps
variable {db db' db'' : Database}

theorem rfl : db.Keeps db where
  users _ _ h := h
  sessions _ _ h := by rw [h, Option.map_some]
  applications _ _ h := by rw [h, Option.map_some]
  contracts _ _ h := by rw [h, Option.map_some]

theorem trans (h : db.Keeps db') (h' : db'.Keeps db'') : db.Keeps db'' where
  users id u hu := h'.users id u (h.users id u hu)
  sessions id s hs := by
    obtain ⟨s', hs', he⟩ := Option.map_eq_some_iff.mp (h.sessions id s hs)
    rw [h'.sessions id s' hs', he]
  applications id a ha := by
    obtain ⟨a', ha', he⟩ := Option.map_eq_some_iff.mp (h.applications id a ha)
    rw [h'.applications id a' ha', he]
  contracts id c hc := by
    obtain ⟨c', hc', he⟩ := Option.map_eq_some_iff.mp (h.contracts id c hc)
    rw [h'.contracts id c' hc', he]

/-- Only the four tables matter. -/
theorem of_tables (h : db.Keeps db') (husers : db''.users = db'.users)
    (hsessions : db''.onboardingSessions = db'.onboardingSessions)
    (happlications : db''.kycApplications = db'.kycApplications)
    (hcontracts : db''.financingContracts = db'.financingContracts) : db.Keeps db'' where
  users := by simpa only [husers] using h.users
  sessions := by simpa only [hsessions] using h.sessions
  applications := by simpa only [happlications] using h.applications
  contracts := by simpa only [hcontracts] using h.contracts

theorem createUser {user : User} {users : Table User.userId}
    (h : db.users.create user = some users) : db.Keeps { db with users } where
  users _ _ hu := Table.find?_of_create h hu
  sessions := (rfl : db.Keeps db).sessions
  applications := (rfl : db.Keeps db).applications
  contracts := (rfl : db.Keeps db).contracts

theorem createSession {session : OnboardingSession}
    {onboardingSessions : Table OnboardingSession.sessionId}
    (h : db.onboardingSessions.create session = some onboardingSessions) :
    db.Keeps { db with onboardingSessions } where
  users := (rfl : db.Keeps db).users
  sessions _ _ hs := by rw [Table.find?_of_create h hs, Option.map_some]
  applications := (rfl : db.Keeps db).applications
  contracts := (rfl : db.Keeps db).contracts

theorem createApplication {application : KycApplication} {contract : FinancingContract}
    {kycApplications : Table KycApplication.kycApplicationId}
    {financingContracts : Table FinancingContract.contractId}
    (h : db.kycApplications.create application = some kycApplications)
    (hcontract : db.financingContracts.create contract = some financingContracts) :
    db.Keeps { db with kycApplications, financingContracts } where
  users := (rfl : db.Keeps db).users
  sessions := (rfl : db.Keeps db).sessions
  applications _ _ ha := by rw [Table.find?_of_create h ha, Option.map_some]
  contracts _ _ hc := by rw [Table.find?_of_create hcontract hc, Option.map_some]

theorem updateApplication (id : String) (f : KycApplication → KycApplication)
    (hf : ∀ a, (f a).kycApplicationId = a.kycApplicationId) (h : ∀ a, (f a).origin = a.origin) :
    db.Keeps (KycService.updateApplication id f hf db) where
  users := (rfl : db.Keeps db).users
  sessions := (rfl : db.Keeps db).sessions
  applications k a ha := by
    rw [KycService.updateApplication, Table.find?_update_map db.kycApplications id k hf h, ha,
      Option.map_some]
  contracts := (rfl : db.Keeps db).contracts

theorem updateSession (id : String) (f : OnboardingSession → OnboardingSession)
    (hf : ∀ s, (f s).sessionId = s.sessionId) (h : ∀ s, (f s).origin = s.origin) :
    db.Keeps { db with onboardingSessions := db.onboardingSessions.update id f hf } where
  users := (rfl : db.Keeps db).users
  sessions k s hs := by
    rw [Table.find?_update_map db.onboardingSessions id k hf h, hs, Option.map_some]
  applications := (rfl : db.Keeps db).applications
  contracts := (rfl : db.Keeps db).contracts

theorem updateSessions (p : OnboardingSession → Bool) (f : OnboardingSession → OnboardingSession)
    (hf : ∀ s, (f s).sessionId = s.sessionId) (h : ∀ s, (f s).origin = s.origin) :
    db.Keeps { db with onboardingSessions := db.onboardingSessions.updateMany p f hf } where
  users := (rfl : db.Keeps db).users
  sessions k s hs := by
    rw [Table.find?_updateMany_map db.onboardingSessions p k hf h, hs, Option.map_some]
  applications := (rfl : db.Keeps db).applications
  contracts := (rfl : db.Keeps db).contracts

theorem updateContracts (p : FinancingContract → Bool) (f : FinancingContract → FinancingContract)
    (hf : ∀ c, (f c).contractId = c.contractId) (h : ∀ c, (f c).origin = c.origin) :
    db.Keeps { db with financingContracts := db.financingContracts.updateMany p f hf } where
  users := (rfl : db.Keeps db).users
  sessions := (rfl : db.Keeps db).sessions
  applications := (rfl : db.Keeps db).applications
  contracts k c hc := by
    rw [Table.find?_updateMany_map db.financingContracts p k hf h, hc, Option.map_some]

/-- An application still leads to its session. -/
theorem sessionOf (hk : db.Keeps db') {id : String} {a : KycApplication} {s : OnboardingSession}
    (ha : db.kycApplications.find? id = some a) (hs : KycService.sessionOf a db = some s) :
    ∃ a' s', db'.kycApplications.find? id = some a' ∧ KycService.sessionOf a' db' = some s' ∧
      s'.origin = s.origin := by
  obtain ⟨a', ha', hasame⟩ := Option.map_eq_some_iff.mp (hk.applications id a ha)
  obtain ⟨sessionId, hlink, hfind⟩ := Option.bind_eq_some_iff.mp hs
  obtain ⟨s', hs', hssame⟩ := Option.map_eq_some_iff.mp (hk.sessions sessionId s hfind)
  have hsame : a'.onboardingSessionId = a.onboardingSessionId :=
    (congrArg KycApplication.onboardingSessionId hasame :)
  refine ⟨a', s', ha', ?_, hssame⟩
  rw [KycService.sessionOf, hsame, hlink]
  exact hs'

end Database.Keeps

theorem find?_updateApplication (id : String) (f : KycApplication → KycApplication)
    (hf : ∀ a, (f a).kycApplicationId = a.kycApplicationId) (k : String) (db : Database) :
    (KycService.updateApplication id f hf db).kycApplications.find? k =
      (db.kycApplications.find? k).map (if k = id then f else fun a => a) := by
  rw [KycService.updateApplication, Table.find?_update]
  by_cases hk : k = id <;> simp [hk]

theorem contractOf_updateMany (q : FinancingContract → Bool)
    (f : FinancingContract → FinancingContract) (hf : ∀ c, (f c).contractId = c.contractId)
    (hk : ∀ c, (f c).kycApplicationId = c.kycApplicationId) (k : String) (db : Database) :
    KycService.contractOf k
        { db with financingContracts := db.financingContracts.updateMany q f hf } =
      (KycService.contractOf k db).map (fun c => if q c then f c else c) :=
  Table.find?_rows_updateMany db.financingContracts q f hf fun c => by rw [hk]

namespace KycService
variable {r : Review} {contract : FinancingContract} {m : KycMoment} {db db' : Database}

theorem origin_adminSigned (requires : Bool) (now : DateTime) (a : KycApplication) :
    (adminSigned requires now a).origin = a.origin := by
  cases requires <;> rfl

theorem keeps_recordMarketerApproval (r : Review) (m : KycMoment) (db : Database) :
    db.Keeps (recordMarketerApproval r m db) := by
  have h : db.Keeps (updateApplication r.application.kycApplicationId (marketerSigned m.now)
    (fun _ => rfl) db) := .updateApplication _ _ _ fun _ => rfl
  exact h.of_tables rfl rfl rfl rfl

theorem keeps_signAsAdmin (r : Review) (m : KycMoment) (db : Database) :
    db.Keeps (signAsAdmin r m db) := by
  have h : db.Keeps (updateApplication r.application.kycApplicationId
      (adminSigned r.requiresMarketerApproval m.now)
      (adminSigned_kycApplicationId r.requiresMarketerApproval m.now) db) :=
    .updateApplication _ _ _ (origin_adminSigned r.requiresMarketerApproval m.now)
  exact h.of_tables rfl rfl rfl rfl

theorem Activates.keeps (h : Activates r contract m db db') : db.Keeps db' where
  users _ _ hu := Table.find?_of_create h.users hu
  sessions id s hs := by
    rw [h.sessions]
    refine (Table.find?_update_map _ _ id _ ?_).trans (by rw [hs, Option.map_some])
    exact fun _ => rfl
  applications id a ha := by
    rw [h.applications]
    refine (Table.find?_update_map _ _ id _ ?_).trans (by rw [ha, Option.map_some])
    exact fun _ => rfl
  contracts id c hc := by
    rw [h.contracts]
    refine (Table.find?_update_map _ _ id _ ?_).trans (by rw [hc, Option.map_some])
    exact fun _ => rfl

theorem keeps_commitApproval {signature : Signature} {result : KycApplicationStatus × Database}
    (h : commitApproval r m db signature = .ok result) : db.Keeps result.2 := by
  cases signature with
  | marketer =>
    cases h
    exact keeps_recordMarketerApproval r m db
  | admin =>
    obtain ⟨application, -, ⟨-, rfl⟩ | ⟨-, contract, -, hactivate, -⟩⟩ :=
      recordAdminApproval_eq_ok h
    · exact keeps_signAsAdmin r m db
    · exact (keeps_signAsAdmin r m db).trans hactivate.keeps

theorem mem_sessions_commitApproval {signature : Signature}
    {result : KycApplicationStatus × Database} (h : commitApproval r m db signature = .ok result)
    {t : OnboardingSession} (ht : t ∈ result.2.onboardingSessions.rows) :
    ∃ s ∈ db.onboardingSessions.rows, t.origin = s.origin := by
  cases signature with
  | marketer =>
    cases h
    exact ⟨t, ht, rfl⟩
  | admin =>
    obtain ⟨application, -, ⟨-, rfl⟩ | ⟨-, contract, -, hactivate, -⟩⟩ :=
      recordAdminApproval_eq_ok h
    · exact ⟨t, ht, rfl⟩
    · rw [hactivate.sessions] at ht
      have ht : t ∈ (db.onboardingSessions.update r.session.sessionId approvedSession
        fun _ => rfl).rows := ht
      rcases Table.mem_update ht with ht | ⟨s, hs, rfl⟩
      · exact ⟨t, ht, rfl⟩
      · exact ⟨s, hs, rfl⟩

theorem keeps_recordRejection (admin : User) (loaded : LoadedApplication) (reason : String)
    (m : KycMoment) (db : Database) : db.Keeps (recordRejection admin loaded reason m db) := by
  have happ : db.Keeps (updateApplication loaded.application.kycApplicationId
    (rejectedApplication reason) (fun _ => rfl) db) := .updateApplication _ _ _ fun _ => rfl
  have hcontract := happ.trans (.updateContracts
    (fun c => c.kycApplicationId = loaded.application.kycApplicationId)
    (rejectedContract m.now) (fun _ => rfl) fun _ => rfl)
  exact hcontract.of_tables rfl rfl rfl rfl

/-- A registration opens the session it was asked for, or resumes one. -/
theorem createOrResume_eq_ok {params session : OnboardingSession} {now : DateTime}
    (h : createOrResumeOnboardingSession params now db = .ok (session, db')) :
    ∃ onboardingSessions, db' = { db with onboardingSessions } ∧
      ((∃ created, created.origin = params.origin ∧
          db.onboardingSessions.create created = some onboardingSessions) ∨
        ∃ sessionId expiresAt, onboardingSessions = db.onboardingSessions.update sessionId
          (fun s => { s with expiresAt }) (fun _ => rfl)) := by
  rw [createOrResumeOnboardingSession] at h
  simp only at h
  split at h
  · rename_i active hactive
    cases h
    exact ⟨_, rfl, .inr ⟨_, _, rfl⟩⟩
  · split at h
    · cases h
    · rename_i sessions hsessions
      cases h
      exact ⟨sessions, rfl, .inl ⟨{ params with
      status := .pendingKyc, expiresAt := now + expiryHours * 60 * 60 * 1000 }, rfl,
      createRow_eq_ok.mp hsessions⟩⟩

theorem keeps_createOrResume {params session : OnboardingSession} {now : DateTime}
    (h : createOrResumeOnboardingSession params now db = .ok (session, db')) : db.Keeps db' := by
  obtain ⟨sessions, rfl, ⟨created, -, hcreate⟩ | ⟨sessionId, expiresAt, rfl⟩⟩ :=
    createOrResume_eq_ok h
  · exact .createSession hcreate
  · exact .updateSession _ _ _ fun _ => rfl

theorem createApplication_eq_ok {application : KycApplication} {contract : FinancingContract}
    {asset : KycDocumentAsset} (h : createApplication application contract asset db = .ok db') :
    ∃ kycApplications financingContracts kycDocumentAssets,
      db.kycApplications.create application = some kycApplications ∧
      db.financingContracts.create contract = some financingContracts ∧
      db' = { db with kycApplications, financingContracts, kycDocumentAssets } ∧
      ∀ a ∈ db.kycApplications.rows, a.onboardingSessionId ≠ application.onboardingSessionId := by
  rw [createApplication] at h
  split at h
  · cases h
  · rename_i hfree
    obtain ⟨applications, happ, h⟩ := bind_eq_ok.mp h
    obtain ⟨contracts, hcontract, h⟩ := bind_eq_ok.mp h
    obtain ⟨assets, -, h⟩ := bind_eq_ok.mp h
    cases h
    exact ⟨applications, contracts, assets, createRow_eq_ok.mp happ, createRow_eq_ok.mp hcontract,
      rfl, by simpa using hfree⟩

/-- What the submission of an application creates. -/
theorem submitApplication_eq_ok {storage : Storage} {sessionId : String}
    {params : SubmitApplication} {file : UploadedPdfFile} {application : KycApplication}
    (h : submitApplication storage sessionId params file m db = .ok (application, db')) :
    ∃ session plan variant kycApplications financingContracts kycDocumentAssets kycAuditTrail,
      db.onboardingSessions.find? sessionId = some session ∧
      findOffer params db = .ok (plan, variant) ∧
      application = newApplication sessionId params m ∧
      db.kycApplications.create application = some kycApplications ∧
      db.financingContracts.create (newContract params plan variant m) =
        some financingContracts ∧
      (∀ a ∈ db.kycApplications.rows, a.onboardingSessionId ≠ some sessionId) ∧
      db' = { db with
        kycApplications, financingContracts, kycDocumentAssets, kycAuditTrail
        onboardingSessions := db.onboardingSessions.update sessionId submittedRow
          (fun _ => rfl) } := by
  obtain ⟨session, hsession, h⟩ := bind_eq_ok.mp h
  obtain ⟨_, -, h⟩ := bind_eq_ok.mp h
  obtain ⟨uploadResult, -, h⟩ := bind_eq_ok.mp h
  have hfound : db.onboardingSessions.find? sessionId = some session := by
    rw [findSession] at hsession
    split at hsession
    · cases hsession
    · rename_i hfind
      split at hsession
      · cases hsession
      · split at hsession
        · cases hsession
        · cases hsession
          exact hfind
  have hid := Table.find?_key hfound
  rw [persistApplication] at h
  split at h
  · cases h
  · obtain ⟨⟨plan, variant⟩, hoffer, h⟩ := bind_eq_ok.mp h
    obtain ⟨db₁, hcreate, h⟩ := bind_eq_ok.mp h
    obtain ⟨applications, contracts, assets, happ, hcontract, rfl, hfree⟩ :=
      createApplication_eq_ok hcreate
    cases h
    rw [hid] at happ hfree ⊢
    exact ⟨session, plan, variant, applications, contracts, assets, _, hfound, hoffer, rfl, happ,
      hcontract, hfree, rfl⟩

theorem keeps_submitApplication {storage : Storage} {sessionId : String}
    {params : SubmitApplication} {file : UploadedPdfFile} {application : KycApplication}
    (h : submitApplication storage sessionId params file m db = .ok (application, db')) :
    db.Keeps db' := by
  obtain ⟨session, plan, variant, applications, contracts, assets, trail, -, -, -, happ, hcontract,
    -, rfl⟩ := submitApplication_eq_ok h
  have hcreated : db.Keeps { db with
    kycApplications := applications, financingContracts := contracts } :=
    .createApplication happ hcontract
  have hsession := hcreated.trans (.updateSession sessionId submittedRow (fun _ => rfl) fun _ => rfl)
  exact hsession.of_tables rfl rfl rfl rfl

end KycService

theorem OnboardingService.keeps_finalizeSession (stale : StaleSession) (db : Database) :
    db.Keeps (finalizeSession stale db) := by
  rw [finalizeSession]
  split
  · exact .rfl
  · have hsession := (Database.Keeps.rfl : db.Keeps db).trans
      (.updateSession stale.sessionId expiredSession (fun _ => rfl) fun _ => rfl)
    cases stale.applicationId with
    | none => exact hsession
    | some applicationId => exact hsession.trans (.updateApplication _ _ _ fun _ => rfl)

theorem KycWrite.keeps_execute (m : KycMoment) (db : Database) (w : KycWrite) :
    db.Keeps (w.execute m db) := by
  cases w with
  | approve review signature =>
    exact committed_rule (P := db.Keeps) .rfl fun _ h => KycService.keeps_commitApproval h
  | reject admin loaded reason => exact KycService.keeps_recordRejection admin loaded reason m db
  | claimSessions now => exact .updateSessions _ _ _ fun _ => rfl
  | finalizeSession stale => exact OnboardingService.keeps_finalizeSession stale db
  | autoReject applicationId fileHash =>
    have h : db.Keeps (KycService.updateApplication applicationId (KycService.rejectedApplication
      ("Auto-expired: KYC Application remained pending for more " ++
        "than 15 days without approval.")) (fun _ => rfl) db) :=
      .updateApplication _ _ _ fun _ => rfl
    exact h.of_tables rfl rfl rfl rfl

end InstalFlow
