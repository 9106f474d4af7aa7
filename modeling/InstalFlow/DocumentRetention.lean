import InstalFlow.DualSignature
import InstalFlow.Rejections
import InstalFlow.Transition.Trace

/-!
# Retention of documents

The retention worker has the file of a document deleted in the storage and records that in
one transaction with an entry of the audit trail. Documents are scheduled for deletion 15 days
ahead when they are submitted, and at once when their application is decided. The worker's
requests and transactions run between submissions, reviews and sweeps.
-/

namespace InstalFlow
open Relational Transition

/-- What the storage is asked for, with the start of the run that asks. -/
structure PurgeRequest where
  asset : KycDocumentAsset
  startedAt : DateTime

/-- The database, and what the storage has been asked to delete. -/
structure RetentionState where
  db : Database
  requests : List PurgeRequest := []

/-- A transaction of the worker may fail, and then the next document follows. -/
structure RetentionMoment extends KycMoment where
  commits : Bool := true

inductive RetentionWrite
  | submit (session : OnboardingSession) (params : SubmitApplication)
      (uploadResult : UploadResult) (fileHash : String) (file : UploadedPdfFile)
  | review (w : KycWrite)
  | deleteAsset (request : PurgeRequest)
  | recordPurge (request : PurgeRequest)

namespace KycRetentionWorker

/-- Neither under a legal hold nor under a review for fraud -/
def unheld (a : KycApplication) : Bool := !a.legalHold && !a.isUnderFraudReview

def isDue (now : DateTime) (db : Database) (d : KycDocumentAsset) : Bool :=
  d.scheduledDeletionAt ≤ now && !d.isDeleted &&
    (db.kycApplications.find? d.kycApplicationId).any unheld

def assetsToPurge (m : KycMoment) (db : Database) : List KycDocumentAsset :=
  (db.kycDocumentAssets.rows.filter (isDue m.now db)).insertionSort
    (fun a b => m.rank a.assetId ≤ m.rank b.assetId)

def deletedAsset (d : KycDocumentAsset) : KycDocumentAsset := { d with isDeleted := true }

def purgedEntry (d : KycDocumentAsset) : KycAuditTrail where
  kycApplicationId := d.kycApplicationId
  action := "ASSET_DELETED"
  fileHash := d.fileHash
  details := "Physical PDF bank statement purged permanently from active servers under CBN/NDPR " ++
    "separation regulations."

/-- The transaction of one document. -/
def recordPurge (d : KycDocumentAsset) (db : Database) : Database :=
  let kycDocumentAssets := db.kycDocumentAssets.update d.assetId deletedAsset (fun _ => rfl)
  KycService.auditKyc (purgedEntry d) { db with kycDocumentAssets }

end KycRetentionWorker

def RetentionWrite.execute (m : RetentionMoment) (s : RetentionState) :
    RetentionWrite → RetentionState
  | submit session params uploadResult fileHash file =>
      let result := KycService.persistApplication session params uploadResult fileHash file
        m.toKycMoment s.db
      { s with db := committed s.db Prod.snd result }
  | review w => { s with db := w.execute m.toKycMoment s.db }
  -- the storage's failures are caught and forgotten
  | deleteAsset request => { s with requests := s.requests ++ [request] }
  | recordPurge request =>
      if m.commits then { s with db := KycRetentionWorker.recordPurge request.asset s.db } else s

abbrev RetentionProgram (α : Type) : Type :=
  Program RetentionState RetentionWrite RetentionMoment α

namespace RetentionProgram

/-- A program over the database alone, with its own inputs. -/
def ofKyc {α : Type} : Program Database KycWrite KycMoment α → RetentionProgram α
  | .done a => .done a
  | .read next => .read fun m s => ofKyc (next m.toKycMoment s.db)
  | .write w next => .write (.review w) fun m s => ofKyc (next m.toKycMoment s.db)

/-- The file is uploaded between the checks and the transaction. -/
def submitApplication (storage : Storage) (sessionId : String) (params : SubmitApplication)
    (file : UploadedPdfFile) : RetentionProgram Unit :=
  .read fun m s =>
    let checked : Except AppError (OnboardingSession × UploadResult) := do
      let session ← KycService.findSession sessionId m.now s.db
      KycService.assertPdf file
      return (session, ← KycService.upload storage file)
    match checked with
    | .error _ => .done ()
    | .ok (session, uploadResult) =>
      .write (.submit session params uploadResult (storage.fileHash file.path) file)
        fun _ _ => .done ()

def purge (request : PurgeRequest) : RetentionProgram Unit :=
  .write (.deleteAsset request) fun _ _ => .write (.recordPurge request) fun _ _ => .done ()

def purgeDue : RetentionProgram Unit := do
  let requests ← Program.read fun m s => .done
    ((KycRetentionWorker.assetsToPurge m.toKycMoment s.db).map fun asset => ⟨asset, m.now⟩)
  requests.forM purge

def runCleanup : RetentionProgram Unit := do
  purgeDue
  discard (ofKyc KycProgram.autoRejectStale.run)

end RetentionProgram

/-- Whoever reads and writes documents. -/
inductive RetentionClient
  | submit (storage : Storage) (sessionId : String) (params : SubmitApplication)
      (file : UploadedPdfFile)
  | review (operation : KycOperation)
  | cleanup

def RetentionClient.program : RetentionClient → RetentionProgram Unit
  | submit storage sessionId params file =>
      RetentionProgram.submitApplication storage sessionId params file
  | review operation => discard (RetentionProgram.ofKyc operation.program.run)
  | cleanup => RetentionProgram.runCleanup

/-- What a document keeps from its submission on -/
def KycDocumentAsset.file (d : KycDocumentAsset) : KycDocumentAsset :=
  { d with isDeleted := false, scheduledDeletionAt := 0 }

namespace Database

/-- The trail shows that the application was decided. -/
def Decided (applicationId : String) (db : Database) : Prop :=
  ∃ e ∈ db.kycAuditTrail, e.kycApplicationId = applicationId ∧
    (e.action = "REJECTED" ∨ e.action = "ADMIN_APPROVED")

/-- The time to keep the documents of an application is over at `t`. -/
def Expired (applicationId : String) (t : DateTime) (db : Database) : Prop :=
  (∃ a, db.kycApplications.find? applicationId = some a ∧
    DateTime.addDays a.createdAt 15 ≤ t) ∨ db.Decided applicationId

def Unheld (applicationId : String) (db : Database) : Prop :=
  ∃ a, db.kycApplications.find? applicationId = some a ∧ KycRetentionWorker.unheld a = true

def HasDocument (d : KycDocumentAsset) (db : Database) : Prop :=
  ∃ d' ∈ db.kycDocumentAssets.rows, d'.file = d.file

/-- No document leaves the table, and none comes back. -/
def KeepsDocuments (db db' : Database) : Prop :=
  ∀ d ∈ db.kycDocumentAssets.rows, ∃ d' ∈ db'.kycDocumentAssets.rows,
    d'.file = d.file ∧ (d.isDeleted = true → d'.isDeleted = true)

end Database

namespace RetentionState

structure Onward (s t : RetentionState) : Prop where
  records : s.db.Records t.db
  documents : s.db.KeepsDocuments t.db
  requests : ∀ q ∈ s.requests, q ∈ t.requests

structure Kept (s : RetentionState) : Prop where
  /-- A document is not scheduled before its time. -/
  scheduled : ∀ d ∈ s.db.kycDocumentAssets.rows,
    s.db.Expired d.kycApplicationId d.scheduledDeletionAt
  /-- The storage is asked for documents whose time is over, and that nobody holds. -/
  requested : ∀ q ∈ s.requests, s.db.Expired q.asset.kycApplicationId q.startedAt ∧
    s.db.Unheld q.asset.kycApplicationId
  /-- A document that is marked has been asked for, and the trail shows it. -/
  recorded : ∀ d ∈ s.db.kycDocumentAssets.rows, d.isDeleted = true →
    (∃ q ∈ s.requests, q.asset.file = d.file) ∧
      KycRetentionWorker.purgedEntry d ∈ s.db.kycAuditTrail

end RetentionState

section steps
variable {k : String} {m : KycMoment} {t u : DateTime} {d : KycDocumentAsset}
  {db db' db'' : Database} {s : RetentionState} {w : RetentionWrite}

namespace Database

theorem KeepsDocuments.rfl : db.KeepsDocuments db := fun d hd => ⟨d, hd, .refl _, id⟩

theorem KeepsDocuments.trans (h : db.KeepsDocuments db') (h' : db'.KeepsDocuments db'') :
    db.KeepsDocuments db'' := by
  intro d hd
  obtain ⟨d', hd', hfile, hdeleted⟩ := h d hd
  obtain ⟨d'', hd'', hfile', hdeleted'⟩ := h' d' hd'
  exact ⟨d'', hd'', hfile'.trans hfile, fun h => hdeleted' (hdeleted h)⟩

theorem HasDocument.keeps (h : db.HasDocument d) (hk : db.KeepsDocuments db') :
    db'.HasDocument d := by
  obtain ⟨d', hd', hfile⟩ := h
  obtain ⟨d'', hd'', hfile', -⟩ := hk d' hd'
  exact ⟨d'', hd'', hfile'.trans hfile⟩

theorem Decided.keeps (h : db.Decided k) (hr : db.Records db') : db'.Decided k := by
  obtain ⟨e, he, hdecided⟩ := h
  exact ⟨e, hr.trail e he, hdecided⟩

theorem Expired.keeps (h : db.Expired k t) (hr : db.Records db') : db'.Expired k t := by
  rcases h with ⟨a, ha, hdays⟩ | hdecided
  · obtain ⟨a', ha', horigin⟩ := Option.map_eq_some_iff.mp (hr.keeps.applications k a ha)
    have hcreated : a'.createdAt = a.createdAt := (congrArg KycApplication.createdAt horigin :)
    exact .inl ⟨a', ha', hcreated ▸ hdays⟩
  · exact .inr (hdecided.keeps hr)

theorem Expired.mono (h : db.Expired k t) (htu : t ≤ u) : db.Expired k u := by
  rcases h with ⟨a, ha, hdays⟩ | hdecided
  · exact .inl ⟨a, ha, hdays.trans htu⟩
  · exact .inr hdecided

theorem Unheld.keeps (h : db.Unheld k) (hr : db.Records db') : db'.Unheld k := by
  obtain ⟨a, ha, hunheld⟩ := h
  obtain ⟨a', ha', horigin⟩ := Option.map_eq_some_iff.mp (hr.keeps.applications k a ha)
  have hlegal : a'.legalHold = a.legalHold := (congrArg KycApplication.legalHold horigin :)
  have hfraud : a'.isUnderFraudReview = a.isUnderFraudReview :=
    (congrArg KycApplication.isUnderFraudReview horigin :)
  exact ⟨a', ha', by rw [KycRetentionWorker.unheld, hlegal, hfraud]; exact hunheld⟩

end Database

theorem RetentionState.Onward.rfl : s.Onward s := ⟨.rfl, .rfl, fun _ hq => hq⟩

theorem RetentionState.Onward.trans {s t u : RetentionState} (h : s.Onward t) (h' : t.Onward u) :
    s.Onward u :=
  ⟨h.records.trans h'.records, h.documents.trans h'.documents,
    fun q hq => h'.requests q (h.requests q hq)⟩

namespace KycService

theorem decided_auditKyc {entry : KycAuditTrail}
    (h : entry.action = "REJECTED" ∨ entry.action = "ADMIN_APPROVED") :
    (auditKyc entry db).Decided entry.kycApplicationId :=
  ⟨entry, List.mem_append_right _ List.mem_cons_self, rfl, h⟩

/-- The documents of an application that has been decided are scheduled. -/
def Schedules (m : KycMoment) (db db' : Database) : Prop :=
  db'.kycDocumentAssets = db.kycDocumentAssets ∨
    ∃ k, db'.kycDocumentAssets = (scheduleDeletion k m.now db).kycDocumentAssets ∧ db'.Decided k

theorem documents_activate {r : Review} {contract : FinancingContract}
    (h : activate r contract m db = .ok db') : db'.kycDocumentAssets =
      (scheduleDeletion r.application.kycApplicationId m.now db).kycDocumentAssets := by
  obtain ⟨⟨user, db₁⟩, huser, h⟩ := bind_eq_ok.mp h
  obtain ⟨db₂, hreferral, h⟩ := bind_eq_ok.mp h
  obtain ⟨schedule, hschedule, h⟩ := bind_eq_ok.mp h
  obtain ⟨db₃, hcreate, h⟩ := bind_eq_ok.mp h
  cases h
  obtain ⟨users, husers, rfl, rfl, hemail⟩ := createUser_eq_ok huser
  obtain ⟨referrals, rfl⟩ := createReferral_eq_ok hreferral
  obtain ⟨installments, rfl, hrows, hfree⟩ := InstallmentService.createInstallments_eq_ok hcreate
  rfl

theorem schedules_commitApproval {r : Review} {signature : Signature}
    {result : KycApplicationStatus × Database}
    (h : commitApproval r m db signature = .ok result) : Schedules m db result.2 := by
  cases signature with
  | marketer =>
    cases h
    exact .inl rfl
  | admin =>
    have hdecided : (signAsAdmin r m db).Decided r.application.kycApplicationId :=
      decided_auditKyc (.inr rfl)
    simp only [commitApproval, recordAdminApproval] at h
    split at h
    · cases h
    · split at h
      · cases h
        exact .inl rfl
      · split at h
        · cases h
        · split at h
          · cases h
          · rename_i hactivate
            cases h
            have hdocuments := documents_activate hactivate
            refine .inr ⟨r.application.kycApplicationId, hdocuments, ?_⟩
            obtain ⟨e, he, hof⟩ := hdecided
            exact ⟨e, by rwa [trail_activates (activates_of_ok hactivate)], hof⟩

end KycService

theorem KycWrite.schedules_execute (w : KycWrite) (m : KycMoment) (db : Database) :
    KycService.Schedules m db (w.execute m db) := by
  cases w with
  | approve r signature =>
    exact committed_rule (P := KycService.Schedules m db) (.inl rfl) fun result hresult =>
      KycService.schedules_commitApproval hresult
  | reject admin loaded reason =>
    exact .inr ⟨loaded.application.kycApplicationId, rfl,
      ⟨_, List.mem_append_right _ List.mem_cons_self, rfl, .inl rfl⟩⟩
  | claimSessions now => exact .inl rfl
  | finalizeSession stale =>
    refine .inl ?_
    simp only [execute, OnboardingService.finalizeSession]
    split
    · rfl
    · cases stale.applicationId <;> rfl
  | autoReject applicationId fileHash =>
    exact .inr ⟨applicationId, rfl,
      ⟨_, List.mem_append_right _ List.mem_cons_self, rfl, .inl rfl⟩⟩

/-- What the transaction of a submission creates, and that it keeps the rest. -/
theorem KycService.persistApplication_eq_ok {session : OnboardingSession}
    {params : SubmitApplication} {uploadResult : UploadResult} {fileHash : String}
    {file : UploadedPdfFile} {result : KycApplication × Database}
    (h : persistApplication session params uploadResult fileHash file m db = .ok result) :
    db.Records result.2 ∧ ∃ (application : KycApplication) (document : KycDocumentAsset),
      db.kycApplications.create application = some result.2.kycApplications ∧
      db.kycDocumentAssets.create document = some result.2.kycDocumentAssets ∧
      document.kycApplicationId = application.kycApplicationId ∧ document.isDeleted = false ∧
      document.scheduledDeletionAt = DateTime.addDays application.createdAt 15 := by
  rw [persistApplication] at h
  split at h
  · cases h
  · obtain ⟨⟨plan, variant⟩, hoffer, h⟩ := bind_eq_ok.mp h
    obtain ⟨db₁, hcreate, h⟩ := bind_eq_ok.mp h
    rw [createApplication] at hcreate
    split at hcreate
    · cases hcreate
    · obtain ⟨applications, happ, hcreate⟩ := bind_eq_ok.mp hcreate
      obtain ⟨contracts, hcontract, hcreate⟩ := bind_eq_ok.mp hcreate
      obtain ⟨assets, hasset, hcreate⟩ := bind_eq_ok.mp hcreate
      cases hcreate
      cases h
      have hcreated : db.Keeps { db with
          kycApplications := applications, financingContracts := contracts } :=
        .createApplication (createRow_eq_ok.mp happ) (createRow_eq_ok.mp hcontract)
      have hsession := hcreated.trans
        (.updateSession session.sessionId submittedRow (fun _ => rfl) fun _ => rfl)
      refine ⟨⟨hsession.of_tables rfl rfl rfl rfl, fun e he => List.mem_append_left _ he⟩,
        _, _, createRow_eq_ok.mp happ, createRow_eq_ok.mp hasset, rfl, rfl, rfl⟩

section documents

/-- Documents are scheduled, and neither marked nor removed. -/
theorem KycService.Schedules.cases (h : KycService.Schedules m db db')
    {d' : KycDocumentAsset} (hd' : d' ∈ db'.kycDocumentAssets.rows) :
    ∃ d ∈ db.kycDocumentAssets.rows, d'.file = d.file ∧ d'.isDeleted = d.isDeleted ∧
      (d' = d ∨ db'.Decided d.kycApplicationId) := by
  rcases h with h | ⟨k, h, hdecided⟩
  · rw [h] at hd'
    exact ⟨d', hd', rfl, rfl, .inl rfl⟩
  · rw [h] at hd'
    obtain ⟨d, hd, rfl⟩ := List.mem_map.mp hd'
    refine ⟨d, hd, ?_⟩
    split
    · rename_i hk
      obtain rfl := of_decide_eq_true hk
      exact ⟨rfl, rfl, .inr hdecided⟩
    · exact ⟨rfl, rfl, .inl rfl⟩

theorem KycService.Schedules.keepsDocuments (h : KycService.Schedules m db db') :
    db.KeepsDocuments db' := by
  intro d hd
  rcases h with h | ⟨k, h, -⟩
  · exact ⟨d, h ▸ hd, rfl, id⟩
  · rw [h]
    refine ⟨_, List.mem_map.mpr ⟨d, hd, rfl⟩, ?_⟩
    split
    · exact ⟨rfl, id⟩
    · exact ⟨rfl, id⟩

theorem KycService.keeps_persistApplication {session : OnboardingSession}
    {params : SubmitApplication} {uploadResult : UploadResult} {fileHash : String}
    {file : UploadedPdfFile} {result : KycApplication × Database}
    (h : persistApplication session params uploadResult fileHash file m db = .ok result) :
    db.Records result.2 ∧ db.KeepsDocuments result.2 := by
  obtain ⟨hrecords, application, document, -, hcreate, -⟩ := persistApplication_eq_ok h
  refine ⟨hrecords, fun d hd => ⟨d, ?_, rfl, id⟩⟩
  rw [(Table.create_eq_some hcreate).2]
  exact List.mem_append_left _ hd

namespace KycRetentionWorker

theorem mem_recordPurge {d' : KycDocumentAsset}
    (hd' : d' ∈ (recordPurge d db).kycDocumentAssets.rows) :
    d' ∈ db.kycDocumentAssets.rows ∨
      ∃ d₀ ∈ db.kycDocumentAssets.rows, d₀.assetId = d.assetId ∧ d' = deletedAsset d₀ := by
  obtain ⟨d₀, hd₀, rfl⟩ := List.mem_map.mp hd'
  split
  · rename_i hid
    exact .inr ⟨d₀, hd₀, of_decide_eq_true hid, rfl⟩
  · exact .inl hd₀

theorem records_recordPurge (d : KycDocumentAsset) (db : Database) :
    db.Records (recordPurge d db) :=
  ⟨Database.Keeps.rfl.of_tables rfl rfl rfl rfl, fun _ he => List.mem_append_left _ he⟩

theorem keepsDocuments_recordPurge (d : KycDocumentAsset) (db : Database) :
    db.KeepsDocuments (recordPurge d db) := by
  intro d₀ hd₀
  refine ⟨_, List.mem_map.mpr ⟨d₀, hd₀, rfl⟩, ?_⟩
  split
  · exact ⟨rfl, fun _ => rfl⟩
  · exact ⟨rfl, id⟩

end KycRetentionWorker

/-- Documents of one key and one table are one. -/
theorem Database.HasDocument.eq_file (h : db.HasDocument d) {d₀ : KycDocumentAsset}
    (hd₀ : d₀ ∈ db.kycDocumentAssets.rows) (hid : d₀.assetId = d.assetId) : d₀.file = d.file := by
  obtain ⟨d₁, hd₁, hfile⟩ := h
  have hkey : d₁.assetId = d.assetId := (congrArg KycDocumentAsset.assetId hfile :)
  obtain rfl := Table.key_injective hd₀ hd₁ (hid.trans hkey.symm)
  exact hfile

end documents

/-- What a client knows when it writes. -/
def RetentionWrite.Grounded (s : RetentionState) : RetentionWrite → Prop
  | .submit .. | .review _ => True
  | .deleteAsset q => s.db.HasDocument q.asset ∧
      s.db.Expired q.asset.kycApplicationId q.startedAt ∧ s.db.Unheld q.asset.kycApplicationId
  | .recordPurge q => s.db.HasDocument q.asset ∧ q ∈ s.requests

theorem RetentionState.onward_execute (w : RetentionWrite) (m : RetentionMoment)
    (s : RetentionState) : s.Onward (w.execute m s) := by
  cases w with
  | submit session params uploadResult fileHash file =>
    have hsubmitted : s.db.Records (committed s.db Prod.snd
        (KycService.persistApplication session params uploadResult fileHash file
          m.toKycMoment s.db)) ∧ s.db.KeepsDocuments (committed s.db Prod.snd
        (KycService.persistApplication session params uploadResult fileHash file
          m.toKycMoment s.db)) :=
      committed_rule (P := fun db => s.db.Records db ∧ s.db.KeepsDocuments db) ⟨.rfl, .rfl⟩
        fun result hresult => KycService.keeps_persistApplication hresult
    exact ⟨hsubmitted.1, hsubmitted.2, fun q hq => hq⟩
  | review w =>
    exact ⟨records_execute w m.toKycMoment s.db,
      (w.schedules_execute m.toKycMoment s.db).keepsDocuments, fun q hq => hq⟩
  | deleteAsset q => exact ⟨.rfl, .rfl, fun q hq => List.mem_append_left _ hq⟩
  | recordPurge q =>
    cases hcommits : m.commits with
    | false =>
      rw [RetentionWrite.execute, hcommits]
      exact .rfl
    | true =>
      rw [RetentionWrite.execute, hcommits, if_pos rfl]
      exact ⟨KycRetentionWorker.records_recordPurge q.asset s.db,
        KycRetentionWorker.keepsDocuments_recordPurge q.asset s.db, fun q hq => hq⟩

theorem KycRetentionWorker.purgedEntry_congr {d d' : KycDocumentAsset} (h : d'.file = d.file) :
    purgedEntry d' = purgedEntry d := by
  have happlication : d'.kycApplicationId = d.kycApplicationId :=
    (congrArg KycDocumentAsset.kycApplicationId h :)
  have hhash : d'.fileHash = d.fileHash := (congrArg KycDocumentAsset.fileHash h :)
  rw [purgedEntry, purgedEntry, happlication, hhash]

namespace RetentionState.Kept

/-- What has been requested stays justified. -/
theorem requested_keeps (h : s.Kept) (hr : s.db.Records db) : ∀ q ∈ s.requests,
    db.Expired q.asset.kycApplicationId q.startedAt ∧ db.Unheld q.asset.kycApplicationId :=
  fun q hq => ⟨(h.requested q hq).1.keeps hr, (h.requested q hq).2.keeps hr⟩

theorem submit (h : s.Kept) {session : OnboardingSession} {params : SubmitApplication}
    {uploadResult : UploadResult} {fileHash : String} {file : UploadedPdfFile}
    {result : KycApplication × Database}
    (hresult : KycService.persistApplication session params uploadResult fileHash file m s.db =
      .ok result) : ({ s with db := result.2 } : RetentionState).Kept := by
  obtain ⟨hrecords, application, document, happlication, hdocument, hof, hnew, hdays⟩ :=
    KycService.persistApplication_eq_ok hresult
  have hmem : ∀ d ∈ result.2.kycDocumentAssets.rows,
      d ∈ s.db.kycDocumentAssets.rows ∨ d = document := fun d hd => by
    rwa [(Table.create_eq_some hdocument).2, List.mem_append, List.mem_singleton] at hd
  refine ⟨fun d hd => ?_, h.requested_keeps hrecords, fun d hd hdeleted => ?_⟩
  · rcases hmem d hd with hd | rfl
    · exact (h.scheduled d hd).keeps hrecords
    · refine .inl ⟨application, ?_, hdays.ge⟩
      rw [hof, Table.find?_create happlication, if_pos rfl]
  · rcases hmem d hd with hd | rfl
    · obtain ⟨hasked, hentry⟩ := h.recorded d hd hdeleted
      exact ⟨hasked, hrecords.trail _ hentry⟩
    · exact absurd (hnew.symm.trans hdeleted) Bool.false_ne_true

theorem review (h : s.Kept) (w : KycWrite) (m : KycMoment) :
    ({ s with db := w.execute m s.db } : RetentionState).Kept := by
  have hrecords := records_execute w m s.db
  have hschedules := w.schedules_execute m s.db
  refine ⟨fun d' hd' => ?_, h.requested_keeps hrecords, fun d' hd' hdeleted => ?_⟩
  · obtain ⟨d, hd, hfile, -, rfl | hdecided⟩ := hschedules.cases hd'
    · exact (h.scheduled d' hd).keeps hrecords
    · have happlication : d'.kycApplicationId = d.kycApplicationId :=
        (congrArg KycDocumentAsset.kycApplicationId hfile :)
      exact .inr (happlication ▸ hdecided)
  · obtain ⟨d, hd, hfile, hsame, -⟩ := hschedules.cases hd'
    obtain ⟨⟨q, hq, hasked⟩, hentry⟩ := h.recorded d hd (hsame ▸ hdeleted)
    exact ⟨⟨q, hq, hasked.trans hfile.symm⟩,
      KycRetentionWorker.purgedEntry_congr hfile ▸ hrecords.trail _ hentry⟩

theorem deleteAsset (h : s.Kept) {q : PurgeRequest}
    (hexpired : s.db.Expired q.asset.kycApplicationId q.startedAt)
    (hunheld : s.db.Unheld q.asset.kycApplicationId) :
    ({ s with requests := s.requests ++ [q] } : RetentionState).Kept := by
  refine ⟨h.scheduled, fun q' hq' => ?_, fun d hd hdeleted => ?_⟩
  · rcases List.mem_append.mp hq' with hq' | hq'
    · exact h.requested q' hq'
    · rw [List.mem_singleton.mp hq']
      exact ⟨hexpired, hunheld⟩
  · obtain ⟨⟨q', hq', hasked⟩, hentry⟩ := h.recorded d hd hdeleted
    exact ⟨⟨q', List.mem_append_left _ hq', hasked⟩, hentry⟩

theorem recordPurge (h : s.Kept) {q : PurgeRequest} (hdocument : s.db.HasDocument q.asset)
    (hq : q ∈ s.requests) :
    ({ s with db := KycRetentionWorker.recordPurge q.asset s.db } : RetentionState).Kept := by
  have hrecords := KycRetentionWorker.records_recordPurge q.asset s.db
  refine ⟨fun d' hd' => ?_, h.requested_keeps hrecords, fun d' hd' hdeleted => ?_⟩
  · rcases KycRetentionWorker.mem_recordPurge hd' with hd' | ⟨d, hd, -, rfl⟩
    · exact (h.scheduled d' hd').keeps hrecords
    · exact (h.scheduled d hd).keeps hrecords
  · rcases KycRetentionWorker.mem_recordPurge hd' with hd' | ⟨d, hd, hid, rfl⟩
    · obtain ⟨hasked, hentry⟩ := h.recorded d' hd' hdeleted
      exact ⟨hasked, hrecords.trail _ hentry⟩
    · have hsame : d.file = q.asset.file := hdocument.eq_file hd hid
      have hfile : (KycRetentionWorker.deletedAsset d).file = q.asset.file := hsame
      refine ⟨⟨q, hq, hfile.symm⟩, ?_⟩
      rw [KycRetentionWorker.purgedEntry_congr hfile]
      exact List.mem_append_right _ List.mem_cons_self

end RetentionState.Kept

theorem RetentionState.kept_execute (h : s.Kept) (hw : w.Grounded s) (m : RetentionMoment) :
    (w.execute m s).Kept := by
  cases w with
  | submit session params uploadResult fileHash file =>
    exact committed_rule (P := fun db => ({ s with db } : RetentionState).Kept) h
      fun result hresult => h.submit hresult
  | review w => exact h.review w m.toKycMoment
  | deleteAsset q => exact h.deleteAsset hw.2.1 hw.2.2
  | recordPurge q =>
    cases hcommits : m.commits with
    | false =>
      rw [RetentionWrite.execute, hcommits]
      exact h
    | true =>
      rw [RetentionWrite.execute, hcommits, if_pos rfl]
      exact h.recordPurge hw.1 hw.2

end steps

section clients
variable {s : RetentionState} {m : RetentionMoment} {request : PurgeRequest}

/-- What is known of a client while the others run, in states that are `Kept` -/
abbrev RetentionProgram.Known (p : RetentionProgram Unit) (s : RetentionState) : Prop :=
  p.Outline RetentionWrite.execute RetentionState.Onward (fun s _ => s.Kept)
    RetentionWrite.Grounded (fun _ _ => True) s

namespace RetentionProgram

theorem known_ofKyc {α : Type} (p : Program Database KycWrite KycMoment α) (s : RetentionState) :
    (discard (ofKyc p)).Known s := by
  suffices h : ∀ s, (ofKyc p).Outline RetentionWrite.execute RetentionState.Onward
      (fun s _ => s.Kept) RetentionWrite.Grounded (fun _ _ => True) s from
    Program.Outline.bind (Program.Outline.imp (fun _ _ _ => trivial) (h s))
  induction p with
  | done a => exact fun s => trivial
  | read next ih => exact fun s m t _ _ => ih m.toKycMoment t.db t
  | write w next ih => exact fun s m t _ _ => ⟨trivial, ih m.toKycMoment t.db _⟩

theorem known_submitApplication (storage : Storage) (sessionId : String)
    (params : SubmitApplication) (file : UploadedPdfFile) (s : RetentionState) :
    (submitApplication storage sessionId params file).Known s := by
  intro m t _ _
  simp only
  split
  · trivial
  · exact fun m t _ _ => ⟨trivial, trivial⟩

/-- What justifies a request -/
structure Justified (request : PurgeRequest) (s : RetentionState) : Prop where
  document : s.db.HasDocument request.asset
  expired : s.db.Expired request.asset.kycApplicationId request.startedAt
  unheld : s.db.Unheld request.asset.kycApplicationId

theorem Justified.onward (h : Justified request s) {t : RetentionState} (hst : s.Onward t) :
    Justified request t :=
  ⟨h.document.keeps hst.documents, h.expired.keeps hst.records, h.unheld.keeps hst.records⟩

/-- A request that is justified when it is read is justified when it is sent. -/
theorem outline_purge (h : Justified request s) :
    (purge request).Outline RetentionWrite.execute RetentionState.Onward (fun s _ => s.Kept)
      RetentionWrite.Grounded (fun t _ => s.Onward t) s := by
  intro m t hst _
  have hsent := h.onward hst
  have hasked := RetentionState.onward_execute (.deleteAsset request) m t
  refine ⟨⟨hsent.document, hsent.expired, hsent.unheld⟩, fun m' u htu _ => ⟨⟨?_, ?_⟩, ?_⟩⟩
  · exact (hsent.onward (hasked.trans htu)).document
  · exact htu.requests request (List.mem_append_right _ List.mem_cons_self)
  · exact ((hst.trans hasked).trans htu).trans
      (RetentionState.onward_execute (.recordPurge request) m' u)

theorem known_forM_purge {requests : List PurgeRequest}
    (h : ∀ request ∈ requests, Justified request s) : (requests.forM purge).Known s := by
  induction requests generalizing s with
  | nil => trivial
  | cons request requests ih =>
    refine Program.Outline.bind (Program.Outline.imp (fun t _ hst => ih fun other hother => ?_)
      (outline_purge (h request List.mem_cons_self)))
    exact (h other (List.mem_cons_of_mem request hother)).onward hst

/-- Whatever is due has been scheduled in time, and nobody holds it. -/
theorem justified_of_due (hkept : s.Kept) {d : KycDocumentAsset}
    (hd : d ∈ KycRetentionWorker.assetsToPurge m.toKycMoment s.db) :
    Justified ⟨d, m.now⟩ s := by
  obtain ⟨hd, hdue⟩ := List.mem_filter.mp ((List.mem_insertionSort _).mp hd)
  simp only [KycRetentionWorker.isDue, Bool.and_eq_true, decide_eq_true_eq, Option.any_eq_true]
    at hdue
  obtain ⟨⟨htime, -⟩, a, ha, hunheld⟩ := hdue
  exact ⟨⟨d, hd, rfl⟩, (hkept.scheduled d hd).mono htime, a, ha, hunheld⟩

theorem known_runCleanup (s : RetentionState) : runCleanup.Known s := by
  refine Program.Outline.bind ?_
  refine Program.Outline.imp (fun t _ _ => known_ofKyc KycProgram.autoRejectStale.run t)
    (Program.Outline.bind ?_ : purgeDue.Known s)
  intro m t _ hkept
  refine known_forM_purge fun request hrequest => ?_
  obtain ⟨d, hd, rfl⟩ := List.mem_map.mp hrequest
  exact justified_of_due hkept hd

end RetentionProgram

theorem RetentionClient.known (client : RetentionClient) (s : RetentionState) :
    client.program.Known s := by
  cases client with
  | submit storage sessionId params file =>
    exact RetentionProgram.known_submitApplication storage sessionId params file s
  | review operation => exact RetentionProgram.known_ofKyc operation.program.run s
  | cleanup => exact RetentionProgram.known_runCleanup s

end clients

section interleaving
variable {ι : Type} [DecidableEq ι] {c : Config RetentionState ι (RetentionProgram Unit)}

theorem known_pending {s : RetentionState} {p : RetentionProgram Unit} (hs : s.Kept)
    (h : p.Known s) (m : RetentionMoment) : ∀ w ∈ p.pending, w.Grounded s :=
  h.pending (fun _ => .rfl) hs m

theorem retained_perform (hc : c.shared.Kept ∧ ∀ i, RetentionProgram.Known (c.threads i) c.shared)
    (l : ι × RetentionMoment) :
    ((perform RetentionWrite.execute c l).shared.Kept ∧
      c.shared.Onward (perform RetentionWrite.execute c l).shared) ∧
    ∀ i, RetentionProgram.Known ((perform RetentionWrite.execute c l).threads i)
      (perform RetentionWrite.execute c l).shared := by
  have hstep : (perform RetentionWrite.execute c l).shared.Kept ∧
      c.shared.Onward (perform RetentionWrite.execute c l).shared := by
    rw [perform_shared, Program.advance_shared]
    cases hw : (c.threads l.1).pending with
    | none => exact ⟨hc.1, .rfl⟩
    | some w =>
      have hgrounded := known_pending hc.1 (hc.2 l.1) l.2 w hw
      exact ⟨RetentionState.kept_execute hc.1 hgrounded l.2,
        RetentionState.onward_execute w l.2 c.shared⟩
  exact ⟨hstep, perform_outline (fun _ => .rfl) .trans (fun _ _ _ _ _ _ => trivial) hc.1 hstep.2
    hc.2⟩

/-- An application that was rejected and one under a legal hold, with a document each -/
def documentsAtRest : RetentionState where
  db :=
    { kycApplications := ⟨
        [{ kycApplicationId := "rejected", productId := "p", status := .rejected },
          { kycApplicationId := "held", productId := "p", legalHold := true }], by decide⟩
      kycDocumentAssets := ⟨
        [{ assetId := "d1", kycApplicationId := "rejected", cloudinaryPublicId := "f1"
           secureUrl := "", fileSize := 1, mimeType := "application/pdf", fileHash := "h1"
           scheduledDeletionAt := 5 },
          { assetId := "d2", kycApplicationId := "held", cloudinaryPublicId := "f2"
            secureUrl := "", fileSize := 1, mimeType := "application/pdf", fileHash := "h2"
            scheduledDeletionAt := 15 * msPerDay }], by decide⟩
      kycAuditTrail := [{ kycApplicationId := "rejected", action := "REJECTED", fileHash := "h1"
                          details := "" }] }

theorem kept_documentsAtRest : documentsAtRest.Kept := by
  refine ⟨fun d hd => ?_, fun q hq => ?_, fun d hd hdeleted => ?_⟩
  · rcases List.mem_cons.mp hd with rfl | hd
    · exact .inr ⟨_, List.mem_cons_self, rfl, .inl rfl⟩
    · obtain rfl := List.mem_singleton.mp hd
      exact .inl ⟨_, rfl, by decide⟩
  · cases hq
  · rcases List.mem_cons.mp hd with rfl | hd
    · cases hdeleted
    · obtain rfl := List.mem_singleton.mp hd
      cases hdeleted

end interleaving

section cleanups
variable {m m' : RetentionMoment} {s : RetentionState} {db : Database}

namespace KycRetentionWorker

/-- What a run marks -/
def marked (ids : List String) (d : KycDocumentAsset) : KycDocumentAsset :=
  if d.assetId ∈ ids then deletedAsset d else d

/-- What a run schedules at once -/
def rescheduled (now : DateTime) (ids : List String) (d : KycDocumentAsset) : KycDocumentAsset :=
  if d.kycApplicationId ∈ ids then { d with scheduledDeletionAt := now - 1000 } else d

def expiredApplication : KycApplication → KycApplication :=
  KycService.rejectedApplication ("Auto-expired: KYC Application remained pending for more " ++
    "than 15 days without approval.")

theorem marked_marked (id : String) (ids : List String) (d : KycDocumentAsset) :
    marked ids (if d.assetId = id then deletedAsset d else d) = marked (id :: ids) d := by
  have hid : (if d.assetId = id then deletedAsset d else d).assetId = d.assetId := by
    split <;> rfl
  simp only [marked, hid, List.mem_cons]
  by_cases hfirst : d.assetId = id
  · simp [hfirst, deletedAsset]
  · simp [hfirst]

theorem rescheduled_rescheduled (now : DateTime) (id : String) (ids : List String)
    (d : KycDocumentAsset) : rescheduled now ids
      (if d.kycApplicationId = id then { d with scheduledDeletionAt := now - 1000 } else d) =
        rescheduled now (id :: ids) d := by
  have hid : (if d.kycApplicationId = id then { d with scheduledDeletionAt := now - 1000 }
      else d).kycApplicationId = d.kycApplicationId := by
    split <;> rfl
  simp only [rescheduled, hid, List.mem_cons]
  by_cases hfirst : d.kycApplicationId = id
  · simp [hfirst]
  · simp [hfirst]

end KycRetentionWorker

namespace RetentionProgram
open KycRetentionWorker

theorem complete_forM_purge (hcommits : m.commits = true) (requests : List PurgeRequest)
    (s : RetentionState) :
    let t := ((requests.forM purge).complete RetentionWrite.execute m s).1
    t.db.kycDocumentAssets.rows =
        s.db.kycDocumentAssets.rows.map (marked (requests.map fun q => q.asset.assetId)) ∧
      t.db.kycApplications = s.db.kycApplications := by
  induction requests generalizing s with
  | nil => exact ⟨(List.map_id _).symm, rfl⟩
  | cons request requests ih =>
    have hfirst : ((purge request).complete RetentionWrite.execute m s).1 =
        { s with
          requests := s.requests ++ [request]
          db := recordPurge request.asset s.db } := by
      simp only [purge, Program.complete, RetentionWrite.execute, hcommits, if_pos]
    obtain ⟨hrows, happlications⟩ := ih ((purge request).complete RetentionWrite.execute m s).1
    have hsplit : (((request :: requests).forM purge).complete RetentionWrite.execute m s).1 =
        ((requests.forM purge).complete RetentionWrite.execute m
          ((purge request).complete RetentionWrite.execute m s).1).1 :=
      congrArg Prod.fst (Program.complete_bind (purge request) (fun _ => requests.forM purge) m s)
    refine ⟨?_, ?_⟩
    · rw [hsplit, hrows, hfirst]
      refine List.map_map.trans (List.map_congr_left fun d _ => ?_)
      simpa using marked_marked request.asset.assetId _ d
    · rw [hsplit, happlications, hfirst]
      rfl

theorem complete_ofKyc {α : Type} (p : Program Database KycWrite KycMoment α)
    (m : RetentionMoment) (s : RetentionState) :
    ((discard (ofKyc p)).complete RetentionWrite.execute m s).1 =
      { s with db := (p.complete KycWrite.execute m.toKycMoment s.db).1 } := by
  have h : ((ofKyc p).complete RetentionWrite.execute m s).1 =
      { s with db := (p.complete KycWrite.execute m.toKycMoment s.db).1 } := by
    induction p generalizing s with
    | done a => rfl
    | read next ih => exact ih m.toKycMoment s.db s
    | write w next ih => exact ih m.toKycMoment s.db (RetentionWrite.execute m s (.review w))
  exact (congrArg Prod.fst (Program.complete_bind (ofKyc p) (fun _ => .done ()) m s)).trans h

end RetentionProgram

namespace KycProgram
open KycRetentionWorker

/-- The state after the automatic rejection of one application -/
theorem find?_autoReject (applicationId fileHash k : String) (m : KycMoment) (db : Database) :
    (autoReject applicationId fileHash m db).kycApplications.find? k =
      (db.kycApplications.find? k).map fun a =>
        if k = applicationId then expiredApplication a else a := by
  refine (find?_updateApplication applicationId expiredApplication
    (fun _ => rfl) k db).trans ?_
  by_cases hk : k = applicationId <;> simp [hk]

def autoRejectAll (stale : List (String × String)) : KycProgram Unit :=
  stale.forM fun (applicationId, fileHash) =>
    send (.autoReject applicationId fileHash) fun _ _ => .ok ()

theorem complete_autoRejectAll (stale : List (String × String)) (m : KycMoment) (db : Database) :
    let t := ((autoRejectAll stale).run.complete KycWrite.execute m db).1
    t.kycDocumentAssets.rows =
        db.kycDocumentAssets.rows.map (rescheduled m.now (stale.map Prod.fst)) ∧
      ∀ k, t.kycApplications.find? k = (db.kycApplications.find? k).map fun a =>
        if k ∈ stale.map Prod.fst then expiredApplication a else a := by
  induction stale generalizing db with
  | nil =>
    refine ⟨(List.map_id _).symm, fun k => ?_⟩
    simp [autoRejectAll, Program.complete, ExceptT.run, Pure.pure, ExceptT.pure, ExceptT.mk]
  | cons first stale ih =>
    obtain ⟨applicationId, fileHash⟩ := first
    obtain ⟨hrows, hfind⟩ := ih (autoReject applicationId fileHash m db)
    have hsplit : ((autoRejectAll ((applicationId, fileHash) :: stale)).run.complete
        KycWrite.execute m db).1 = ((autoRejectAll stale).run.complete KycWrite.execute m
          (autoReject applicationId fileHash m db)).1 := rfl
    refine ⟨?_, fun k => ?_⟩
    · rw [hsplit, hrows]
      refine List.map_map.trans (List.map_congr_left fun d _ => ?_)
      simpa using rescheduled_rescheduled m.now applicationId (stale.map Prod.fst) d
    · rw [hsplit, hfind, find?_autoReject, Option.map_map]
      congr 1
      funext a
      by_cases hk : k = applicationId <;>
        by_cases hrest : k ∈ stale.map Prod.fst <;>
          simp [hk, hrest, expiredApplication, KycService.rejectedApplication]

end KycProgram

namespace RetentionProgram
open KycRetentionWorker

/-- The identifiers of the documents that a run finds due -/
def dueIds (m : KycMoment) (db : Database) : List String :=
  (assetsToPurge m db).map KycDocumentAsset.assetId

def staleIds (m : KycMoment) (db : Database) : List String :=
  (KycProgram.staleApplications m db).map KycApplication.kycApplicationId

theorem mem_dueIds {d : KycDocumentAsset} (hd : d ∈ db.kycDocumentAssets.rows) (m : KycMoment) :
    d.assetId ∈ dueIds m db ↔ isDue m.now db d = true := by
  simp only [dueIds, assetsToPurge, List.mem_map, List.mem_insertionSort, List.mem_filter]
  constructor
  · rintro ⟨d', ⟨hd', hdue⟩, hid⟩
    rwa [Table.key_injective hd hd' hid.symm]
  · exact fun hdue => ⟨d, ⟨hd, hdue⟩, rfl⟩

theorem mem_staleIds {k : String} {m : KycMoment} : k ∈ staleIds m db ↔
    ∃ a, db.kycApplications.find? k = some a ∧ isStale m.now a = true := by
  simp only [staleIds, KycProgram.staleApplications, List.mem_map, List.mem_insertionSort,
    List.mem_filter, Table.find?_eq_some_iff]
  constructor
  · rintro ⟨a, ⟨ha, hstale⟩, hk⟩
    exact ⟨a, ⟨ha, hk⟩, hstale⟩
  · rintro ⟨a, ⟨ha, hk⟩, hstale⟩
    exact ⟨a, ⟨ha, hstale⟩, hk⟩

/-- What one run of the worker leaves: the documents that were due are marked, those of stale
applications scheduled, and the stale applications rejected. -/
theorem complete_runCleanup (hcommits : m.commits = true) (s : RetentionState) :
    let t := (runCleanup.complete RetentionWrite.execute m s).1
    t.db.kycDocumentAssets.rows = s.db.kycDocumentAssets.rows.map (fun d =>
        rescheduled m.now (staleIds m.toKycMoment s.db) (marked (dueIds m.toKycMoment s.db) d)) ∧
      ∀ k, t.db.kycApplications.find? k = (s.db.kycApplications.find? k).map fun a =>
        if k ∈ staleIds m.toKycMoment s.db then expiredApplication a else a := by
  let requests : List PurgeRequest :=
    (assetsToPurge m.toKycMoment s.db).map fun asset => ⟨asset, m.now⟩
  have hids : (requests.map fun q => q.asset.assetId) = dueIds m.toKycMoment s.db := by
    simp [requests, dueIds, Function.comp_def]
  obtain ⟨hmarked, hsame⟩ := complete_forM_purge hcommits requests s
  let u := ((requests.forM purge).complete RetentionWrite.execute m s).1
  have hu : u.db.kycDocumentAssets.rows =
      s.db.kycDocumentAssets.rows.map (marked (dueIds m.toKycMoment s.db)) := hids ▸ hmarked
  have happlications : u.db.kycApplications = s.db.kycApplications := hsame
  let stale := (KycProgram.staleApplications m.toKycMoment u.db).map fun a =>
    (a.kycApplicationId, KycService.primaryFileHash a.kycApplicationId u.db)
  have hstale : stale.map Prod.fst = staleIds m.toKycMoment s.db := by
    simp only [stale, List.map_map, Function.comp_def, staleIds, KycProgram.staleApplications,
      happlications]
  obtain ⟨hrows, hfind⟩ := KycProgram.complete_autoRejectAll stale m.toKycMoment u.db
  have hsplit : (runCleanup.complete RetentionWrite.execute m s).1 = { u with
      db := ((KycProgram.autoRejectAll stale).run.complete
        KycWrite.execute m.toKycMoment u.db).1 } :=
    (congrArg Prod.fst (Program.complete_bind purgeDue
      (fun _ => discard (ofKyc KycProgram.autoRejectStale.run)) m s)).trans
        (complete_ofKyc KycProgram.autoRejectStale.run m u)
  refine ⟨?_, fun k => ?_⟩
  · rw [hsplit, hrows, hu, hstale, List.map_map]
    rfl
  · rw [hsplit, hfind, happlications, hstale]

variable {d : KycDocumentAsset}

@[simp] theorem file_marked (ids : List String) (d : KycDocumentAsset) :
    (marked ids d).file = d.file := by
  rw [marked]
  split <;> rfl

@[simp] theorem file_rescheduled (now : DateTime) (ids : List String) (d : KycDocumentAsset) :
    (rescheduled now ids d).file = d.file := by
  rw [rescheduled]
  split <;> rfl

@[simp] theorem isDeleted_rescheduled (now : DateTime) (ids : List String)
    (d : KycDocumentAsset) : (rescheduled now ids d).isDeleted = d.isDeleted := by
  rw [rescheduled]
  split <;> rfl

theorem isDeleted_marked {ids : List String}
    (h : d.isDeleted = true ∨ d.assetId ∈ ids) : (marked ids d).isDeleted = true := by
  rw [marked]
  split
  · rfl
  · rename_i hids
    exact h.resolve_right hids

theorem unheld_of_stale {now : DateTime} {a : KycApplication} (h : isStale now a = true) :
    unheld a = true := by
  simp only [isStale, decide_eq_true_eq] at h
  simp [unheld, h.2.2.1, h.2.2.2]

/-- Who is held is held after a run. -/
theorem unheld_complete (hcommits : m.commits = true) {k : String} :
    (runCleanup.complete RetentionWrite.execute m s).1.db.Unheld k ↔ s.db.Unheld k := by
  have hfind := (complete_runCleanup hcommits s).2 k
  have hsame (a : KycApplication) : unheld (if k ∈ staleIds m.toKycMoment s.db then
      expiredApplication a else a) = unheld a := by
    split <;> rfl
  constructor
  · rintro ⟨a', ha', hunheld⟩
    obtain ⟨a, ha, rfl⟩ := Option.map_eq_some_iff.mp (hfind.symm.trans ha')
    exact ⟨a, ha, (hsame a).symm.trans hunheld⟩
  · rintro ⟨a, ha, hunheld⟩
    exact ⟨_, hfind.trans (by rw [ha, Option.map_some]), (hsame a).trans hunheld⟩

/-- A run leaves the documents of an application that is held as they are. -/
theorem mem_complete_of_held (hcommits : m.commits = true) (hd : d ∈ s.db.kycDocumentAssets.rows)
    (hheld : ¬ s.db.Unheld d.kycApplicationId) :
    d ∈ (runCleanup.complete RetentionWrite.execute m s).1.db.kycDocumentAssets.rows := by
  have hdue : d.assetId ∉ dueIds m.toKycMoment s.db := by
    rw [mem_dueIds hd, isDue, Bool.and_eq_true]
    rintro ⟨-, hany⟩
    exact hheld ((Option.any_eq_true _ _).mp hany)
  have hstale : d.kycApplicationId ∉ staleIds m.toKycMoment s.db := by
    rw [mem_staleIds]
    rintro ⟨a, ha, hstale⟩
    exact hheld ⟨a, ha, unheld_of_stale hstale⟩
  rw [(complete_runCleanup hcommits s).1]
  refine List.mem_map.mpr ⟨d, hd, ?_⟩
  rw [marked, if_neg hdue, rescheduled, if_neg hstale]

/-- What a run finds due, it marks. -/
theorem marked_of_due (hcommits : m.commits = true) (hd : d ∈ s.db.kycDocumentAssets.rows)
    (hdue : d.isDeleted = true ∨ isDue m.now s.db d = true) :
    ∃ d' ∈ (runCleanup.complete RetentionWrite.execute m s).1.db.kycDocumentAssets.rows,
      d'.file = d.file ∧ d'.isDeleted = true := by
  rw [(complete_runCleanup hcommits s).1]
  refine ⟨_, List.mem_map.mpr ⟨d, hd, rfl⟩, by simp, ?_⟩
  rw [isDeleted_rescheduled]
  exact isDeleted_marked (hdue.imp_right (mem_dueIds hd m.toKycMoment).mpr)

/-- What belongs to a stale application is marked, or due for the next run. -/
theorem due_of_stale (hcommits : m.commits = true) (htime : m.now ≤ m'.now)
    (hd : d ∈ s.db.kycDocumentAssets.rows) {a : KycApplication}
    (ha : s.db.kycApplications.find? d.kycApplicationId = some a)
    (hstale : isStale m.now a = true) :
    let t := (runCleanup.complete RetentionWrite.execute m s).1
    ∃ d' ∈ t.db.kycDocumentAssets.rows, d'.file = d.file ∧
      (d'.isDeleted = true ∨ isDue m'.now t.db d' = true) := by
  let t := (runCleanup.complete RetentionWrite.execute m s).1
  let d' := rescheduled m.now (staleIds m.toKycMoment s.db)
    (marked (dueIds m.toKycMoment s.db) d)
  have hd' : d' ∈ t.db.kycDocumentAssets.rows := by
    rw [(complete_runCleanup hcommits s).1]
    exact List.mem_map.mpr ⟨d, hd, rfl⟩
  have hfile : d'.file = d.file := by simp [d']
  have happlication : d'.kycApplicationId = d.kycApplicationId :=
    (congrArg KycDocumentAsset.kycApplicationId hfile :)
  have hmarked : (marked (dueIds m.toKycMoment s.db) d).kycApplicationId = d.kycApplicationId :=
    (congrArg KycDocumentAsset.kycApplicationId (file_marked (dueIds m.toKycMoment s.db) d) :)
  have htime' : d'.scheduledDeletionAt ≤ m'.now := by
    have hnow : d'.scheduledDeletionAt = m.now - 1000 := by
      simp only [d', rescheduled, hmarked, mem_staleIds.mpr ⟨a, ha, hstale⟩, if_pos]
    rw [hnow]
    exact (Int.sub_le_self m.now (by decide)).trans htime
  have hunheld : t.db.Unheld d.kycApplicationId :=
    (unheld_complete hcommits).mpr ⟨a, ha, unheld_of_stale hstale⟩
  refine ⟨d', hd', hfile, ?_⟩
  cases hdeleted : d'.isDeleted with
  | true => exact .inl rfl
  | false =>
    refine .inr ?_
    rw [isDue, hdeleted, happlication, (Option.any_eq_true _ _).mpr hunheld, decide_eq_true htime']
    rfl

/-- Two runs one after the other: every document that the first one finds due or of which it
finds the application pending for more than 15 days is marked, and a document that somebody
holds is as it was. -/
theorem purged_by_two_cleanups (hcommits : m.commits = true) (hcommits' : m'.commits = true)
    (htime : m.now ≤ m'.now) (s : RetentionState) :
    let t := (runCleanup.complete RetentionWrite.execute m'
      (runCleanup.complete RetentionWrite.execute m s).1).1
    ∀ d ∈ s.db.kycDocumentAssets.rows,
      ((isDue m.now s.db d = true ∨
          ∃ a, s.db.kycApplications.find? d.kycApplicationId = some a ∧ isStale m.now a = true) →
        ∃ d' ∈ t.db.kycDocumentAssets.rows, d'.file = d.file ∧ d'.isDeleted = true) ∧
      (¬ s.db.Unheld d.kycApplicationId → d ∈ t.db.kycDocumentAssets.rows) := by
  intro t d hd
  refine ⟨fun hcase => ?_, fun hheld => ?_⟩
  · let u := (runCleanup.complete RetentionWrite.execute m s).1
    have hnext : ∃ d' ∈ u.db.kycDocumentAssets.rows, d'.file = d.file ∧
        (d'.isDeleted = true ∨ isDue m'.now u.db d' = true) := by
      rcases hcase with hdue | ⟨a, ha, hstale⟩
      · obtain ⟨d', hd', hfile, hdeleted⟩ := marked_of_due hcommits hd (.inr hdue)
        exact ⟨d', hd', hfile, .inl hdeleted⟩
      · exact due_of_stale hcommits htime hd ha hstale
    obtain ⟨d', hd', hfile, hdue⟩ := hnext
    obtain ⟨d'', hd'', hfile', hdeleted⟩ := marked_of_due hcommits' hd' hdue
    exact ⟨d'', hd'', hfile'.trans hfile, hdeleted⟩
  · refine mem_complete_of_held hcommits' (mem_complete_of_held hcommits hd hheld) ?_
    rwa [unheld_complete hcommits]

/-- The worker on the days 20 and 21: the first application was decided, the second is held. -/
theorem purged_by_two_cleanups_at_rest :
    let first : RetentionMoment := { now := 20 * msPerDay }
    let second : RetentionMoment := { now := 21 * msPerDay }
    let t := (runCleanup.complete RetentionWrite.execute second
      (runCleanup.complete RetentionWrite.execute first documentsAtRest).1).1
    ∀ d ∈ documentsAtRest.db.kycDocumentAssets.rows,
      ((isDue first.now documentsAtRest.db d = true ∨
          ∃ a, documentsAtRest.db.kycApplications.find? d.kycApplicationId = some a ∧
            isStale first.now a = true) →
        ∃ d' ∈ t.db.kycDocumentAssets.rows, d'.file = d.file ∧ d'.isDeleted = true) ∧
      (¬ documentsAtRest.db.Unheld d.kycApplicationId → d ∈ t.db.kycDocumentAssets.rows) :=
  purged_by_two_cleanups rfl rfl (by decide) documentsAtRest

end RetentionProgram
end cleanups

end InstalFlow
