import InstalFlow.KycReviews

/-!
# The two signatures of a financing

A customer whom a marketer has referred is financed on two signatures. The
marketer's is a flag of the application and an entry of the audit trail, written
together; the last approval has read the flag in some state before, and writes
the entry of its own in the transaction that activates the contract.
-/

namespace InstalFlow
open Relational Transition

namespace Database

def SignedBy (applicationId action userId : String) (db : Database) : Prop :=
  ∃ e ∈ db.kycAuditTrail, e.kycApplicationId = applicationId ∧ e.action = action ∧
    e.performedById = some userId

def HasRole (userId : String) (role : Role) (db : Database) : Prop :=
  (db.users.find? userId).map User.role = some role

/-- The session of the application has the marketer as its referrer. -/
def ReferredBy (applicationId marketerId : String) (db : Database) : Prop :=
  ∃ a s, db.kycApplications.find? applicationId = some a ∧
    KycService.sessionOf a db = some s ∧ s.marketerId = some marketerId

/-- The marketer's flag is set only with the marketer's entry. -/
structure MarketerSigned (applicationId marketerId : String) (db : Database) : Prop where
  referred : db.ReferredBy applicationId marketerId
  signed : ∀ a ∈ db.kycApplications.rows, a.kycApplicationId = applicationId →
    a.marketerApproved = true →
      db.SignedBy applicationId "MARKETER_APPROVED" marketerId ∧ db.HasRole marketerId .marketer

/-- The rows keep what they were created with, and no entry leaves the trail. -/
structure Records (db db' : Database) : Prop where
  keeps : db.Keeps db'
  trail : ∀ e ∈ db.kycAuditTrail, e ∈ db'.kycAuditTrail

/-- A contract of the application becomes ACTIVE. -/
def Activated (applicationId : String) (db db' : Database) : Prop :=
  ∃ c' ∈ db'.financingContracts.rows, c'.kycApplicationId = applicationId ∧ c'.status = .active ∧
    ∀ c ∈ db.financingContracts.rows, c.contractId = c'.contractId → c.status ≠ .active

/-- The marketer has signed in front of the transaction, and somebody else of the
company or an admin in it. -/
structure BothSigned (applicationId marketerId : String) (db db' : Database) : Prop where
  marketer : db.SignedBy applicationId "MARKETER_APPROVED" marketerId
  admin : ∃ userId, userId ≠ marketerId ∧
    (db'.HasRole userId .company ∨ db'.HasRole userId .admin) ∧
    db'.SignedBy applicationId "ADMIN_APPROVED" userId

end Database

section steps
variable {k marketerId : String} {m : KycMoment} {db db' db'' : Database} {w : KycWrite}

namespace Database

theorem Records.rfl : db.Records db := ⟨.rfl, fun _ he => he⟩

theorem Records.trans (h : db.Records db') (h' : db'.Records db'') : db.Records db'' :=
  ⟨h.keeps.trans h'.keeps, fun e he => h'.trail e (h.trail e he)⟩

theorem SignedBy.mono {action userId : String} (h : db.SignedBy k action userId)
    (htrail : ∀ e ∈ db.kycAuditTrail, e ∈ db'.kycAuditTrail) : db'.SignedBy k action userId := by
  obtain ⟨e, he, hsigned⟩ := h
  exact ⟨e, htrail e he, hsigned⟩

theorem HasRole.keeps {userId : String} {role : Role} (h : db.HasRole userId role)
    (hk : db.Keeps db') : db'.HasRole userId role := by
  obtain ⟨u, hu, hrole⟩ := Option.map_eq_some_iff.mp h
  exact Option.map_eq_some_iff.mpr ⟨u, hk.users userId u hu, hrole⟩

theorem HasRole.unique {userId : String} {role role' : Role} (h : db.HasRole userId role)
    (h' : db.HasRole userId role') : role = role' :=
  Option.some.inj (h.symm.trans h')

theorem ReferredBy.keeps (h : db.ReferredBy k marketerId) (hk : db.Keeps db') :
    db'.ReferredBy k marketerId := by
  obtain ⟨a, s, ha, hs, hmarketer⟩ := h
  obtain ⟨a', s', ha', hs', hsame⟩ := hk.sessionOf ha hs
  have hkept : s'.marketerId = s.marketerId := (congrArg OnboardingSession.marketerId hsame :)
  exact ⟨a', s', ha', hs', hkept.trans hmarketer⟩

/-- A review of the application was opened on a session with its marketer. -/
theorem ReferredBy.of_pair {a : KycApplication} {s : OnboardingSession}
    (h : db.ReferredBy a.kycApplicationId marketerId) (hpair : db.HasPair a s) :
    s.marketerId = some marketerId := by
  obtain ⟨b, t, hb, ht, hmarketer⟩ := h
  obtain ⟨t', ht', hsame⟩ := Option.map_eq_some_iff.mp hpair.session
  rw [KycService.sessionOf, hpair.application.sessionId hb, hpair.link, Option.bind_some, ht'] at ht
  obtain rfl := Option.some.inj ht
  have hkept : t'.marketerId = s.marketerId := (congrArg OnboardingSession.marketerId hsame :)
  exact hkept.symm.trans hmarketer

end Database

theorem trail_activates {r : Review} {contract : FinancingContract}
    (h : KycService.Activates r contract m db db') : db'.kycAuditTrail = db.kycAuditTrail := by
  obtain ⟨referrals, assets, helsewhere⟩ := h.elsewhere
  rw [helsewhere]

theorem records_execute (w : KycWrite) (m : KycMoment) (db : Database) :
    db.Records (w.execute m db) := by
  refine ⟨w.keeps_execute m db, fun e he => ?_⟩
  cases w with
  | approve r signature =>
    cases signature with
    | marketer => exact List.mem_append_left _ he
    | admin =>
      refine committed_rule (P := fun db => e ∈ db.kycAuditTrail) he fun result hresult => ?_
      have hsigned : e ∈ (KycService.signAsAdmin r m db).kycAuditTrail := List.mem_append_left _ he
      obtain ⟨application, -, ⟨-, rfl⟩ | ⟨-, contract, -, hactivates, -⟩⟩ :=
        KycService.recordAdminApproval_eq_ok hresult
      · exact hsigned
      · rw [trail_activates hactivates]
        exact hsigned
  | reject admin loaded reason => exact List.mem_append_left _ he
  | claimSessions now => exact he
  | finalizeSession stale =>
    simp only [KycWrite.execute, OnboardingService.finalizeSession]
    split
    · exact he
    · cases stale.applicationId <;> exact he
  | autoReject applicationId fileHash => exact List.mem_append_left _ he

/-- The flag of a row was there before, or is set by an approval of the application
that counts as the marketer's. -/
def Flagged (w : KycWrite) (db : Database) (a' : KycApplication) : Prop :=
  (∃ a ∈ db.kycApplications.rows, a.kycApplicationId = a'.kycApplicationId ∧
    a.marketerApproved = true) ∨
  ∃ r signature, w = .approve r signature ∧
    r.application.kycApplicationId = a'.kycApplicationId ∧
    (signature = .admin → r.requiresMarketerApproval = false)

theorem flagged_update (id : String) (f : KycApplication → KycApplication)
    (hf : ∀ a, (f a).kycApplicationId = a.kycApplicationId)
    (hflag : ∀ a, (f a).marketerApproved = a.marketerApproved ∨
      ∃ r signature, w = .approve r signature ∧ r.application.kycApplicationId = id ∧
        (signature = .admin → r.requiresMarketerApproval = false))
    {a' : KycApplication} (ha' : a' ∈ (db.kycApplications.update id f hf).rows)
    (hset : a'.marketerApproved = true) : Flagged w db a' := by
  rcases Table.mem_updateMany.mp ha' with ⟨ha', -⟩ | ⟨a, ha, hid, rfl⟩
  · exact .inl ⟨a', ha', rfl, hset⟩
  · rcases hflag a with hsame | ⟨r, signature, hw, hr, hcounts⟩
    · exact .inl ⟨a, ha, (hf a).symm, hsame ▸ hset⟩
    · have hkey : a.kycApplicationId = id := of_decide_eq_true hid
      exact .inr ⟨r, signature, hw, hr.trans (hkey.symm.trans (hf a).symm), hcounts⟩

theorem flagged_rejected (id reason : String) {a' : KycApplication}
    (ha' : a' ∈ (db.kycApplications.update id (KycService.rejectedApplication reason)
      fun _ => rfl).rows) (hset : a'.marketerApproved = true) : Flagged w db a' :=
  flagged_update id (KycService.rejectedApplication reason) (fun _ => rfl) (fun _ => .inl rfl) ha' hset

theorem flagged_signAsAdmin {r : Review} {a' : KycApplication}
    (ha' : a' ∈ (KycService.signAsAdmin r m db).kycApplications.rows)
    (hset : a'.marketerApproved = true) : Flagged (.approve r .admin) db a' := by
  refine flagged_update r.application.kycApplicationId
    (KycService.adminSigned r.requiresMarketerApproval m.now)
    (KycService.adminSigned_kycApplicationId _ _) (fun a => ?_) ha' hset
  cases hrequires : r.requiresMarketerApproval with
  | true => exact .inl rfl
  | false => exact .inr ⟨r, .admin, rfl, rfl, fun _ => hrequires⟩

theorem flagged_execute (w : KycWrite) (m : KycMoment) {a' : KycApplication}
    (ha' : a' ∈ (w.execute m db).kycApplications.rows) (hset : a'.marketerApproved = true) :
    Flagged w db a' := by
  have hsame (h : a' ∈ db.kycApplications.rows) : Flagged w db a' := .inl ⟨a', h, rfl, hset⟩
  cases w with
  | approve r signature =>
    cases signature with
    | marketer =>
      refine flagged_update r.application.kycApplicationId (KycService.marketerSigned m.now)
        (fun _ => rfl) (fun a => .inr ⟨r, .marketer, rfl, rfl, fun h => ?_⟩) ha' hset
      cases h
    | admin =>
      revert ha'
      refine committed_rule (P := fun db' => a' ∈ db'.kycApplications.rows → _) hsame
        fun result hresult ha' => ?_
      obtain ⟨application, -, ⟨-, rfl⟩ | ⟨-, contract, -, hactivates, -⟩⟩ :=
        KycService.recordAdminApproval_eq_ok hresult
      · exact flagged_signAsAdmin ha' hset
      · rw [hactivates.applications] at ha'
        have ha' : a' ∈ ((KycService.signAsAdmin r m db).kycApplications.update
          r.application.kycApplicationId (KycService.approvedApplication m.userId)
            fun _ => rfl).rows := ha'
        rcases Table.mem_update ha' with ha' | ⟨a, ha, rfl⟩
        · exact flagged_signAsAdmin ha' hset
        · have hflagged : Flagged (.approve r .admin) db a := flagged_signAsAdmin ha hset
          exact hflagged
  | reject admin loaded reason =>
    exact flagged_rejected loaded.application.kycApplicationId reason ha' hset
  | claimSessions now => exact hsame ha'
  | finalizeSession stale =>
    by_cases hexpiring : OnboardingService.isExpiring stale.sessionId db
    · rw [KycWrite.execute, OnboardingService.finalizeSession, hexpiring] at ha'
      cases happlication : stale.applicationId with
      | none =>
        rw [happlication] at ha'
        exact hsame ha'
      | some applicationId =>
        rw [happlication] at ha'
        exact flagged_rejected applicationId "Onboarding session expired." ha' hset
    · rw [KycWrite.execute, OnboardingService.finalizeSession, if_pos (by simpa using hexpiring)]
        at ha'
      exact hsame ha'
  | autoReject applicationId fileHash =>
    exact flagged_rejected applicationId _ ha' hset

theorem authorize_eq_ok {r : Review} {signature : Signature}
    (h : KycService.authorize r = .ok signature) :
    signature = .marketer ∧ r.reviewer.role = .marketer ∧
        r.session.marketerId = some r.reviewer.userId ∨
      signature = .admin ∧ (r.reviewer.role = .company ∨ r.reviewer.role = .admin) := by
  rw [KycService.authorize] at h
  cases hrole : r.reviewer.role with
  | marketer =>
    rw [hrole] at h
    by_cases hreferrer : r.session.marketerId = some r.reviewer.userId
    · rw [if_neg (not_not.mpr hreferrer)] at h
      cases h
      exact .inl ⟨rfl, rfl, hreferrer⟩
    · rw [if_pos hreferrer] at h
      cases h
  | company =>
    rw [hrole] at h
    simp only at h
    split at h
    · cases h
    · cases h
      exact .inr ⟨rfl, .inl rfl⟩
  | admin =>
    rw [hrole] at h
    simp only at h
    split at h
    · cases h
    · cases h
      exact .inr ⟨rfl, .inr rfl⟩
  | superAdmin =>
    rw [hrole] at h
    cases h
  | customer =>
    rw [hrole] at h
    cases h

theorem marketerSigned_execute (h : db.MarketerSigned k marketerId) (hground : w.Grounded db)
    (hreviewed : w.Reviewed Database.Records (Database.MarketerSigned k marketerId) db)
    (m : KycMoment) : (w.execute m db).MarketerSigned k marketerId := by
  have hrecords := records_execute w m db
  refine ⟨h.referred.keeps hrecords.keeps, fun a' ha' hk hset => ?_⟩
  rcases flagged_execute w m ha' hset with ⟨a, ha, hid, hflag⟩ | ⟨r, signature, rfl, hid, hcounts⟩
  · obtain ⟨hsigned, hrole⟩ := h.signed a ha (hid.trans hk) hflag
    exact ⟨hsigned.mono hrecords.trail, hrole.keeps hrecords.keeps⟩
  · have hreferrer : r.session.marketerId = some marketerId := by
      have hreferred := h.referred
      rw [← hk, ← hid] at hreferred
      exact hreferred.of_pair hground
    rcases authorize_eq_ok hreviewed.authorized with ⟨rfl, hrole, hreviewer⟩ | ⟨rfl, -⟩
    · obtain rfl : r.reviewer.userId = marketerId :=
        Option.some.inj (hreviewer.symm.trans hreferrer)
      obtain ⟨d, hd, -, hread⟩ := hreviewed.reviewer
      have hmarketer : d.HasRole r.reviewer.userId .marketer := by
        rw [Database.HasRole, hread, Option.map_some, hrole]
      refine ⟨⟨_, List.mem_append_right _ List.mem_cons_self, hid.trans hk, rfl, rfl⟩, ?_⟩
      exact (hmarketer.keeps hd.keeps).keeps hrecords.keeps
    · have hnone : r.requiresMarketerApproval = false := hcounts rfl
      rw [Review.requiresMarketerApproval, hreferrer] at hnone
      cases hnone

/-- Only the last approval of an application activates its contract. -/
theorem activates_of_activated (h : db.Activated k (w.execute m db)) :
    ∃ r contract, w = .approve r .admin ∧ r.application.kycApplicationId = k ∧
      KycService.Activates r contract m (KycService.signAsAdmin r m db) (w.execute m db) := by
  obtain ⟨c', hc', hk, hactive, hnew⟩ := h
  have hsame (h : c' ∈ db.financingContracts.rows) : False := hnew c' h rfl hactive
  cases w with
  | approve r signature =>
    rcases (KycWrite.approve r signature).activation_cases m db with
      ⟨_, contract, hw, -, hcontract, hactivates⟩ | ⟨-, huntouched, -⟩
    · cases hw
      rw [hactivates.contracts] at hc'
      have hc' : c' ∈ (db.financingContracts.updateMany
        (fun c => c.contractId = contract.contractId)
          (KycService.activatedContract m.userId m.now) fun _ => rfl).rows := hc'
      rcases Table.mem_updateMany.mp hc' with ⟨hc', -⟩ | ⟨c, hc, hid, rfl⟩
      · exact (hsame hc').elim
      · obtain ⟨hmem, hof⟩ := KycService.contractOf_eq_some hcontract
        obtain rfl : c = contract := Table.key_injective hc hmem (of_decide_eq_true hid)
        exact ⟨r, c, rfl, hof.symm.trans hk, hactivates⟩
    · rw [(huntouched rfl).contracts] at hc'
      exact (hsame hc').elim
  | reject admin loaded reason =>
    have hc' : c' ∈ (db.financingContracts.updateMany
      (fun c => c.kycApplicationId = loaded.application.kycApplicationId)
        (KycService.rejectedContract m.now) fun _ => rfl).rows := hc'
    rcases Table.mem_updateMany.mp hc' with ⟨hc', -⟩ | ⟨c, -, -, rfl⟩
    · exact (hsame hc').elim
    · cases hactive
  | claimSessions now => exact (hsame hc').elim
  | finalizeSession stale =>
    have huntouched := untouched_finalizeSession stale db
    rw [KycWrite.execute, huntouched.contracts] at hc'
    exact (hsame hc').elim
  | autoReject applicationId fileHash => exact (hsame hc').elim

theorem bothSigned_execute (h : db.MarketerSigned k marketerId) (hground : w.Grounded db)
    (hreviewed : w.Reviewed Database.Records (Database.MarketerSigned k marketerId) db)
    (hactivated : db.Activated k (w.execute m db)) :
    db.BothSigned k marketerId (w.execute m db) := by
  have hrecords := records_execute w m db
  obtain ⟨r, contract, rfl, rfl, hactivates⟩ := activates_of_activated hactivated
  have hreferrer : r.session.marketerId = some marketerId := h.referred.of_pair hground
  -- the flag was read in a state in which the marketer had signed
  obtain ⟨d, hd, hsigned, happlication⟩ := hreviewed.application
  have happroved : r.application.marketerApproved = true := by
    refine (KycService.assertApprovable_admin hreviewed.approvable).2 ?_
    rw [Review.requiresMarketerApproval, hreferrer]
    rfl
  obtain ⟨hmarketer, hmarketerRole⟩ :=
    hsigned.signed r.application (Table.mem_of_find? happlication) rfl happroved
  refine ⟨hmarketer.mono hd.trail, r.reviewer.userId, ?_⟩
  rcases authorize_eq_ok hreviewed.authorized with ⟨hadmin, -⟩ | ⟨-, hrole⟩
  · cases hadmin
  · obtain ⟨e, he, hread⟩ := hreviewed.reviewer
    have hreviewer : ((KycWrite.approve r .admin).execute m db).HasRole r.reviewer.userId
        r.reviewer.role := by
      refine Database.HasRole.keeps ?_ (he.1.trans hrecords.keeps)
      rw [Database.HasRole, hread.2, Option.map_some]
    refine ⟨fun hsame => ?_, ?_, ?_⟩
    · have hunique := hreviewer.unique
        (hsame ▸ (hmarketerRole.keeps hd.keeps).keeps hrecords.keeps)
      rw [hunique] at hrole
      rcases hrole with hrole | hrole <;> cases hrole
    · rcases hrole with hrole | hrole
      · exact .inl (hrole ▸ hreviewer)
      · exact .inr (hrole ▸ hreviewer)
    · have hadmin : (KycService.signAsAdmin r m db).SignedBy
          r.application.kycApplicationId "ADMIN_APPROVED" r.reviewer.userId :=
        ⟨_, List.mem_append_right _ List.mem_cons_self, rfl, rfl, rfl⟩
      refine hadmin.mono fun entry hentry => ?_
      rw [trail_activates hactivates]
      exact hentry

end steps

section interleaving
variable {ι : Type} [DecidableEq ι]

/-- However reviews and sweeps are interleaved, a contract of an application with a
marketer becomes ACTIVE only on both signatures. -/
theorem active_on_both_signatures (operations : ι → KycOperation) (applicationId marketerId : String)
    (db : Database) (h : db.MarketerSigned applicationId marketerId)
    (schedule : List (ι × KycMoment)) :
    Along performKyc (fun c l => c.shared.Activated applicationId (performKyc c l).shared →
        c.shared.BothSigned applicationId marketerId (performKyc c l).shared)
      (launchKyc operations db) schedule := by
  have htrans (a b c : Database) : a.Records b → b.Records c → a.Records c := .trans
  let I (c : KycThreads ι) : Prop := c.Grounded ∧
    c.Reviewed Database.Records (Database.MarketerSigned applicationId marketerId) ∧
    c.shared.MarketerSigned applicationId marketerId
  have hrecords (c : KycThreads ι) (l : ι × KycMoment) :
      c.shared.Records (performKyc c l).shared := by
    rw [performKyc, perform_shared, Program.advance_shared]
    cases (c.threads l.1).pending with
    | none => exact .rfl
    | some w => exact records_execute w l.2 c.shared
  refine along_of_invariant (I := I) (fun c l hc => ?_) (fun c l hc => ?_)
    ⟨grounded_launchKyc operations db, reviewed_launchKyc htrans (fun _ => .rfl) operations db, h⟩
    schedule
  · refine ⟨hc.1.step l, hc.2.1.step htrans (fun _ => .rfl) hc.2.2 (hrecords c l), ?_⟩
    rw [performKyc, perform_shared, Program.advance_shared]
    cases hw : (c.threads l.1).pending with
    | none => exact hc.2.2
    | some w =>
      have hreviewed := hc.2.1.pending (fun _ => .rfl) hc.2.2 l w hw
      exact marketerSigned_execute hc.2.2 (hc.1.pending l w hw) hreviewed l.2
  · rw [performKyc, perform_shared, Program.advance_shared]
    cases hw : (c.threads l.1).pending with
    | none =>
      intro hactivated
      obtain ⟨c', hc', -, hactive, hnew⟩ := hactivated
      exact absurd hactive (hnew c' hc' rfl)
    | some w =>
      have hreviewed := hc.2.1.pending (fun _ => .rfl) hc.2.2 l w hw
      exact bothSigned_execute hc.2.2 (hc.1.pending l w hw) hreviewed

end interleaving

/-- An application that was just submitted carries no flag. -/
theorem marketerSigned_submitApplication {storage : Storage} {sessionId marketerId : String}
    {params : SubmitApplication} {file : UploadedPdfFile} {m : KycMoment} {db db' : Database}
    {application : KycApplication} {session : OnboardingSession}
    (hsession : db.onboardingSessions.find? sessionId = some session)
    (hmarketer : session.marketerId = some marketerId)
    (h : KycService.submitApplication storage sessionId params file m db =
      .ok (application, db')) :
    db'.MarketerSigned application.kycApplicationId marketerId := by
  obtain ⟨_, plan, variant, applications, contracts, assets, trail, -, -, rfl, happlication, -, -,
    rfl⟩ := KycService.submitApplication_eq_ok h
  have hfind := (Table.find?_create happlication m.applicationId).trans (if_pos rfl)
  refine ⟨⟨_, KycService.submittedRow session, hfind, ?_, hmarketer⟩, fun a ha hid hset => ?_⟩
  · have hupdated := Table.find?_update db.onboardingSessions sessionId sessionId
      KycService.submittedRow fun _ => rfl
    rw [if_pos rfl, hsession] at hupdated
    exact hupdated
  · have hnew := Table.find?_of_mem ha
    rw [hid] at hnew
    obtain rfl := Option.some.inj (hfind.symm.trans hnew)
    cases hset

/-- An application of a customer whom a marketer has referred, not signed yet. -/
def unsignedApplication : Database where
  users := ⟨[{ userId := "marketer", password := "p", role := .marketer, companyId := some "shop"
               createdById := some "boss" },
             { userId := "staff", password := "p", role := .company, companyId := some "shop" }],
    by decide⟩
  onboardingSessions := ⟨[{ sessionId := "s", name := "Eva", email := "eva@x.y"
                            passwordHash := "h", marketerId := some "marketer"
                            companyId := some "shop", status := .kycSubmitted
                            expiresAt := 90 }], by decide⟩
  kycApplications := ⟨[{ kycApplicationId := "k", onboardingSessionId := some "s"
                         productId := "lamp" }], by decide⟩
  financingContracts := ⟨[{ contractId := "c", userId := none, productId := "lamp"
                            kycApplicationId := "k", approvedDurationMonths := 2
                            totalFinanced := 100, status := .pendingActivation }], by decide⟩

theorem marketerSigned_unsignedApplication :
    unsignedApplication.MarketerSigned "k" "marketer" where
  referred := ⟨_, _, rfl, rfl, rfl⟩
  signed a ha _ hset := by
    obtain rfl := List.mem_singleton.mp ha
    cases hset

def marketerAndStaff : Bool → KycOperation
  | true => .approve "k" "marketer"
  | false => .approve "k" "staff"

def signatureMoment : KycMoment where
  now := 10
  userId := "eva"
  installmentId := fun n => "i" ++ toString n

/-- The marketer approves, then the company. -/
def signaturesInTurn : List (Bool × KycMoment) :=
  List.replicate 6 (true, signatureMoment) ++ List.replicate 6 (false, signatureMoment)

theorem active_after_both_signatures :
    (KycService.contractOf "k" (run performKyc (launchKyc marketerAndStaff unsignedApplication)
      signaturesInTurn).shared).map FinancingContract.status = some .active ∧
    Along performKyc (fun c l => c.shared.Activated "k" (performKyc c l).shared →
        c.shared.BothSigned "k" "marketer" (performKyc c l).shared)
      (launchKyc marketerAndStaff unsignedApplication) signaturesInTurn :=
  ⟨by decide +kernel, active_on_both_signatures marketerAndStaff "k" "marketer" unsignedApplication
    marketerSigned_unsignedApplication signaturesInTurn⟩

end InstalFlow
