import InstalFlow.KycOutlines

/-!
# Decisions on an application

Only the claim of the last approval looks at the status when it writes. The
marketer's approval and the rejections write by id, and whether a decision stays
and agrees with its contract depends on the status that these find. The sweep of
sessions needs no such care: the session of an approved application is closed.
-/

namespace InstalFlow
open Relational Transition

/-- ACTIVE or a later status -/
def FinancingStatus.activated : FinancingStatus → Bool
  | .pendingActivation | .rejected => false
  | _ => true

def KycApplication.hasCustomer (a : KycApplication) (db : Database) : Bool :=
  (a.userId.bind db.users.find?).isSome

def contractActivated (applicationId : String) (db : Database) : Bool :=
  (KycService.contractOf applicationId db).any (fun c => c.status.activated)

/-- APPROVED goes with an activated contract and a customer. -/
def DecisionConsistent (applicationId : String) (db : Database) : Prop :=
  ∀ a ∈ db.kycApplications.find? applicationId,
    a.status = .approved ↔ contractActivated applicationId db = true ∧ a.hasCustomer db = true

/-- A decided application keeps its status. -/
def DecisionFinal (applicationId : String) (db db' : Database) : Prop :=
  ∀ a ∈ db.kycApplications.find? applicationId, KycService.undecided a = false →
    (db'.kycApplications.find? applicationId).map KycApplication.status = some a.status

/-- A marketer's approval finds the application undecided, a rejection by id not
APPROVED. -/
def KycWrite.Current (applicationId : String) (db : Database) : KycWrite → Prop
  | approve r .marketer => r.application.kycApplicationId = applicationId →
      ∀ a ∈ db.kycApplications.find? applicationId, KycService.undecided a = true
  | reject _ loaded _ => loaded.application.kycApplicationId = applicationId →
      ∀ a ∈ db.kycApplications.find? applicationId, a.status ≠ .approved
  | autoReject id _ => id = applicationId →
      ∀ a ∈ db.kycApplications.find? applicationId, a.status ≠ .approved
  | approve _ .admin | claimSessions _ | finalizeSession _ => True

/-- A consistent application, whose customer is a user, and whose session is
closed once it is approved. -/
structure Database.Settled (applicationId : String) (db : Database) : Prop where
  consistent : DecisionConsistent applicationId db
  customer : ∀ a ∈ db.kycApplications.find? applicationId, a.userId.isSome = true →
    a.hasCustomer db = true
  session : ∀ a ∈ db.kycApplications.find? applicationId, a.status = .approved →
    (KycService.sessionOf a db).map OnboardingSession.status = some .approved

section decisions
variable {k : String} {db db' : Database}

theorem undecided_eq_false_iff {a : KycApplication} :
    KycService.undecided a = false ↔ a.status = .approved ∨ a.status = .rejected := by
  cases h : a.status <;> simp [KycService.undecided, h]

theorem KycApplication.hasCustomer_keeps {a b : KycApplication} (h : a.hasCustomer db = true)
    (hkeeps : db.Keeps db') (hb : b.userId = a.userId) : b.hasCustomer db' = true := by
  obtain ⟨u, hu⟩ := Option.isSome_iff_exists.mp h
  obtain ⟨id, hid, hfind⟩ := Option.bind_eq_some_iff.mp hu
  rw [KycApplication.hasCustomer, hb, hid, Option.bind_some, hkeeps.users id u hfind]
  rfl

theorem KycApplication.hasCustomer_isSome {a : KycApplication} (h : a.hasCustomer db = true) :
    a.userId.isSome = true := by
  obtain ⟨u, hu⟩ := Option.isSome_iff_exists.mp h
  obtain ⟨id, hid, -⟩ := Option.bind_eq_some_iff.mp hu
  rw [hid]
  rfl

/-- Sessions that are closed stay closed. -/
def KeepsClosed (db db' : Database) : Prop :=
  ∀ id s, db.onboardingSessions.find? id = some s → s.status = .approved →
    (db'.onboardingSessions.find? id).map OnboardingSession.status = some .approved

/-- A write that leaves the status and the customer of the application alone, and
whether its contract is activated. -/
theorem Database.Settled.transfer (h : db.Settled k) (hkeeps : db.Keeps db')
    {g : KycApplication → KycApplication}
    (happ : db'.kycApplications.find? k = (db.kycApplications.find? k).map g)
    (hg : ∀ a, (g a).status = a.status ∧ (g a).userId = a.userId ∧
      (g a).onboardingSessionId = a.onboardingSessionId)
    (hcontract : contractActivated k db' = contractActivated k db) (hclosed : KeepsClosed db db') :
    db'.Settled k ∧ DecisionFinal k db db' := by
  refine ⟨⟨fun a' ha' => ?_, fun a' ha' hsome => ?_, fun a' ha' hstatus => ?_⟩, fun a ha _ => ?_⟩
  · obtain ⟨a, ha, rfl⟩ := Option.map_eq_some_iff.mp (happ.symm.trans ha')
    rw [(hg a).1, hcontract, h.consistent a ha]
    refine and_congr_right fun _ =>
      ⟨fun hc => KycApplication.hasCustomer_keeps hc hkeeps (hg a).2.1, fun hc => ?_⟩
    exact h.customer a ha ((hg a).2.1 ▸ KycApplication.hasCustomer_isSome hc)
  · obtain ⟨a, ha, rfl⟩ := Option.map_eq_some_iff.mp (happ.symm.trans ha')
    exact KycApplication.hasCustomer_keeps (h.customer a ha ((hg a).2.1 ▸ hsome)) hkeeps (hg a).2.1
  · obtain ⟨a, ha, rfl⟩ := Option.map_eq_some_iff.mp (happ.symm.trans ha')
    obtain ⟨s, hs, hs'⟩ := Option.map_eq_some_iff.mp (h.session a ha ((hg a).1 ▸ hstatus))
    obtain ⟨id, hid, hfind⟩ := Option.bind_eq_some_iff.mp hs
    rw [KycService.sessionOf, (hg a).2.2, hid]
    exact hclosed id s hfind hs'
  · have ha : db.kycApplications.find? k = some a := ha
    rw [happ, ha, Option.map_some, Option.map_some, (hg a).1]

/-- A write that gives an application that is not APPROVED another such status. -/
theorem Database.Settled.undecide (h : db.Settled k) (hkeeps : db.Keeps db')
    {g : KycApplication → KycApplication}
    (happ : db'.kycApplications.find? k = (db.kycApplications.find? k).map g)
    (hg : ∀ a, (g a).status ≠ .approved ∧ (g a).userId = a.userId)
    (hne : ∀ a ∈ db.kycApplications.find? k, a.status ≠ .approved)
    (hcontract : contractActivated k db' = true → contractActivated k db = true) :
    db'.Settled k := by
  constructor
  · intro a' ha'
    obtain ⟨a, ha, rfl⟩ := Option.map_eq_some_iff.mp (happ.symm.trans ha')
    refine iff_of_false (hg a).1 fun hactive =>
      hne a ha ((h.consistent a ha).mpr ⟨hcontract hactive.1, ?_⟩)
    exact h.customer a ha ((hg a).2 ▸ KycApplication.hasCustomer_isSome hactive.2)
  · intro a' ha' hsome
    obtain ⟨a, ha, rfl⟩ := Option.map_eq_some_iff.mp (happ.symm.trans ha')
    exact KycApplication.hasCustomer_keeps (h.customer a ha ((hg a).2 ▸ hsome)) hkeeps (hg a).2
  · intro a' ha' hstatus
    obtain ⟨a, ha, rfl⟩ := Option.map_eq_some_iff.mp (happ.symm.trans ha')
    exact absurd hstatus (hg a).1

/-- A rejection of an application that is not APPROVED. -/
theorem final_of_rejected {g : KycApplication → KycApplication}
    (happ : db'.kycApplications.find? k = (db.kycApplications.find? k).map g)
    (hg : ∀ a, (g a).status = .rejected)
    (hne : ∀ a ∈ db.kycApplications.find? k, a.status ≠ .approved) : DecisionFinal k db db' := by
  intro a ha hdecided
  have ha' : db.kycApplications.find? k = some a := ha
  rw [happ, ha', Option.map_some, Option.map_some, hg,
    (undecided_eq_false_iff.mp hdecided).resolve_left (hne a ha)]

theorem DecisionFinal.trans {db'' : Database} (h : DecisionFinal k db db')
    (h' : DecisionFinal k db' db'') : DecisionFinal k db db'' := by
  intro a ha hdecided
  obtain ⟨a', ha', hstatus⟩ := Option.map_eq_some_iff.mp (h a ha hdecided)
  rw [h' a' ha' (undecided_eq_false_iff.mpr (hstatus ▸ undecided_eq_false_iff.mp hdecided)), hstatus]

theorem keepsClosed_of_eq (h : db'.onboardingSessions = db.onboardingSessions) :
    KeepsClosed db db' := by
  intro id s hs hstatus
  rw [h, hs, Option.map_some, hstatus]

theorem settled_recordMarketerApproval {r : Review} (h : db.Settled k) (m : KycMoment)
    (hcurrent : (KycWrite.approve r .marketer).Current k db) :
    (KycService.recordMarketerApproval r m db).Settled k ∧
      DecisionFinal k db (KycService.recordMarketerApproval r m db) := by
  have hkeeps := KycService.keeps_recordMarketerApproval r m db
  have happ := find?_updateApplication r.application.kycApplicationId
    (KycService.marketerSigned m.now) (fun _ => rfl) k db
  by_cases hid : k = r.application.kycApplicationId
  · rw [if_pos hid] at happ
    have hundecided := hcurrent hid.symm
    refine ⟨h.undecide hkeeps happ (fun _ => ⟨by simp [KycService.marketerSigned], rfl⟩)
      (fun a ha hstatus => ?_) id, fun a ha hdecided => ?_⟩
    · have := hundecided a ha
      simp [KycService.undecided, hstatus] at this
    · rw [hundecided a ha] at hdecided
      cases hdecided
  · rw [if_neg hid] at happ
    exact h.transfer hkeeps happ (fun _ => ⟨rfl, rfl, rfl⟩) rfl (keepsClosed_of_eq rfl)

theorem settled_signAsAdmin (h : db.Settled k) (r : Review) (m : KycMoment) :
    (KycService.signAsAdmin r m db).Settled k ∧
      DecisionFinal k db (KycService.signAsAdmin r m db) := by
  have happ := find?_updateApplication r.application.kycApplicationId
    (KycService.adminSigned r.requiresMarketerApproval m.now)
    (KycService.adminSigned_kycApplicationId r.requiresMarketerApproval m.now) k db
  refine h.transfer (KycService.keeps_signAsAdmin r m db) happ (fun a => ?_) rfl
    (keepsClosed_of_eq rfl)
  by_cases hid : k = r.application.kycApplicationId
  · rw [if_pos hid, KycService.adminSigned]
    cases r.requiresMarketerApproval <;> exact ⟨rfl, rfl, rfl⟩
  · rw [if_neg hid]
    exact ⟨rfl, rfl, rfl⟩

/-- Closing a session leaves the closed ones closed. -/
theorem keepsClosed_approvedSession {sessionId : String}
    (h : db'.onboardingSessions = db.onboardingSessions.update sessionId
      KycService.approvedSession (fun _ => rfl)) : KeepsClosed db db' := by
  intro id s hs hstatus
  rw [h]
  refine (congrArg _ (Table.find?_update _ sessionId id _ _)).trans ?_
  rw [hs]
  by_cases hid : id = sessionId <;> simp [hid, hstatus, KycService.approvedSession]

theorem settled_activates {r : Review} {contract : FinancingContract} {m : KycMoment}
    (h : db.Settled k) (hpair : db.HasPair r.application r.session)
    (hundecided : ∀ a ∈ db.kycApplications.find? r.application.kycApplicationId,
      KycService.undecided a = true)
    (hcontract : KycService.contractOf r.application.kycApplicationId db = some contract)
    (hactivates : KycService.Activates r contract m db db') :
    db'.Settled k ∧ DecisionFinal k db db' := by
  have happ : db'.kycApplications.find? k = (db.kycApplications.find? k).map
      (if k = r.application.kycApplicationId then KycService.approvedApplication m.userId
        else fun a => a) := by
    rw [hactivates.applications]
    exact find?_updateApplication r.application.kycApplicationId
      (KycService.approvedApplication m.userId) (fun _ => rfl) k db
  have hcontracts : KycService.contractOf k db' = (KycService.contractOf k db).map (fun c =>
      if c.contractId = contract.contractId then KycService.activatedContract m.userId m.now c
      else c) := by
    rw [KycService.contractOf, hactivates.contracts]
    refine (Table.find?_rows_updateMany db.financingContracts
      (fun c => c.contractId = contract.contractId) (KycService.activatedContract m.userId m.now)
      (fun _ => rfl) (fun _ => rfl)).trans ?_
    simp only [decide_eq_true_eq]
    rfl
  by_cases hid : k = r.application.kycApplicationId
  · subst hid
    rw [if_pos rfl] at happ
    rw [hcontract, Option.map_some, if_pos rfl] at hcontracts
    have hactivated : contractActivated r.application.kycApplicationId db' = true := by
      rw [contractActivated, hcontracts]
      rfl
    have hcustomer (a : KycApplication) :
        (KycService.approvedApplication m.userId a).hasCustomer db' = true := by
      rw [KycApplication.hasCustomer, KycService.approvedApplication, Option.bind_some,
        hactivates.find?_newUser]
      rfl
    refine ⟨⟨fun a' ha' => ?_, fun a' ha' _ => ?_, fun a' ha' _ => ?_⟩, fun a ha hdecided => ?_⟩
    · obtain ⟨a, ha, rfl⟩ := Option.map_eq_some_iff.mp (happ.symm.trans ha')
      exact iff_of_true rfl ⟨hactivated, hcustomer a⟩
    · obtain ⟨a, ha, rfl⟩ := Option.map_eq_some_iff.mp (happ.symm.trans ha')
      exact hcustomer a
    · obtain ⟨a, ha, rfl⟩ := Option.map_eq_some_iff.mp (happ.symm.trans ha')
      obtain ⟨s, hs, -⟩ := Option.map_eq_some_iff.mp hpair.session
      have hlink : (KycService.approvedApplication m.userId a).onboardingSessionId =
          some r.session.sessionId := (hpair.application.sessionId ha).trans hpair.link
      rw [KycService.sessionOf, hlink, hactivates.sessions]
      refine (congrArg _ (Table.find?_update _ r.session.sessionId r.session.sessionId _ _)).trans ?_
      rw [if_pos rfl, hs]
      rfl
    · rw [hundecided a ha] at hdecided
      cases hdecided
  · rw [if_neg hid] at happ
    refine h.transfer hactivates.keeps happ (fun _ => ⟨rfl, rfl, rfl⟩) ?_
      (keepsClosed_approvedSession hactivates.sessions)
    -- the contract of another application is another contract
    rw [contractActivated, contractActivated, hcontracts]
    cases hc : KycService.contractOf k db with
    | none => rfl
    | some c =>
      obtain ⟨hmem, hk⟩ := KycService.contractOf_eq_some hc
      obtain ⟨hmem', hk'⟩ := KycService.contractOf_eq_some hcontract
      have hne : c.contractId ≠ contract.contractId := by
        intro he
        rw [Table.key_injective hmem hmem' he] at hk
        exact hid (hk.symm.trans hk')
      simp [hne]

theorem settled_recordRejection (h : db.Settled k) (admin : User) (loaded : LoadedApplication)
    (reason : String) (m : KycMoment)
    (hcurrent : (KycWrite.reject admin loaded reason).Current k db) :
    (KycService.recordRejection admin loaded reason m db).Settled k ∧
      DecisionFinal k db (KycService.recordRejection admin loaded reason m db) := by
  have hkeeps := KycService.keeps_recordRejection admin loaded reason m db
  have happ := find?_updateApplication loaded.application.kycApplicationId
    (KycService.rejectedApplication reason) (fun _ => rfl) k db
  have hcontracts := contractOf_updateMany
    (fun c => c.kycApplicationId = loaded.application.kycApplicationId)
    (KycService.rejectedContract m.now) (fun _ => rfl) (fun _ => rfl) k db
  have hactivated : contractActivated k (KycService.recordRejection admin loaded reason m db) =
      ((KycService.contractOf k db).map fun c =>
        if decide (c.kycApplicationId = loaded.application.kycApplicationId) then
          KycService.rejectedContract m.now c else c).any fun c => c.status.activated :=
    congrArg (fun c => c.any fun c => c.status.activated) hcontracts
  by_cases hid : k = loaded.application.kycApplicationId
  · rw [if_pos hid] at happ
    have hne := hcurrent hid.symm
    refine ⟨h.undecide hkeeps happ (fun _ => ⟨KycApplicationStatus.noConfusion, rfl⟩) hne
      fun hactive => ?_, final_of_rejected happ (fun _ => rfl) hne⟩
    rw [hactivated] at hactive
    cases hc : KycService.contractOf k db with
    | none => simp [hc] at hactive
    | some c =>
      have hk := (KycService.contractOf_eq_some hc).2.trans hid
      simp [hc, hk, KycService.rejectedContract, FinancingStatus.activated] at hactive
  · rw [if_neg hid] at happ
    refine h.transfer hkeeps happ (fun _ => ⟨rfl, rfl, rfl⟩) (hactivated.trans ?_)
      (keepsClosed_of_eq rfl)
    rw [contractActivated]
    cases hc : KycService.contractOf k db with
    | none => rfl
    | some c =>
      have hk : c.kycApplicationId ≠ loaded.application.kycApplicationId := fun he =>
        hid ((KycService.contractOf_eq_some hc).2.symm.trans he)
      simp [hk]

theorem settled_claimSessions (h : db.Settled k) (now : DateTime) :
    (OnboardingService.claimSessions now db).Settled k ∧
      DecisionFinal k db (OnboardingService.claimSessions now db) := by
  have hkeeps : db.Keeps (OnboardingService.claimSessions now db) :=
    .updateSessions _ _ _ fun _ => rfl
  refine h.transfer (g := fun a => a) hkeeps Option.map_id'.symm (fun _ => ⟨rfl, rfl, rfl⟩) rfl ?_
  intro id s hs hstatus
  refine (congrArg _ (Table.find?_updateMany db.onboardingSessions
    (OnboardingService.sweepable now) OnboardingService.expiringSession (fun _ => rfl) id)).trans ?_
  simp [hs, OnboardingService.sweepable, hstatus]

theorem settled_finalizeSession (h : db.Settled k) {stale : StaleSession}
    (hground : (KycWrite.finalizeSession stale).Grounded db) :
    (OnboardingService.finalizeSession stale db).Settled k ∧
      DecisionFinal k db (OnboardingService.finalizeSession stale db) := by
  have hkeeps := OnboardingService.keeps_finalizeSession stale db
  rw [OnboardingService.finalizeSession] at hkeeps ⊢
  by_cases hexpiring : OnboardingService.isExpiring stale.sessionId db
  · simp only [hexpiring, Bool.not_true, Bool.false_eq_true, if_false] at hkeeps ⊢
    have hopen : ∀ s, db.onboardingSessions.find? stale.sessionId = some s →
        s.status ≠ .approved := by
      intro s hs hstatus
      rw [OnboardingService.isExpiring, hs] at hexpiring
      simp [hstatus] at hexpiring
    have hclosed : KeepsClosed db { db with
        onboardingSessions := db.onboardingSessions.update stale.sessionId
          OnboardingService.expiredSession (fun _ => rfl) } := by
      intro id s hs hstatus
      refine (congrArg _ (Table.find?_update db.onboardingSessions stale.sessionId id
        OnboardingService.expiredSession (fun _ => rfl))).trans ?_
      have hne : id ≠ stale.sessionId := fun he => hopen s (he ▸ hs) hstatus
      rw [if_neg hne, hs, Option.map_some, hstatus]
    cases happlication : stale.applicationId with
    | none =>
      simp only [happlication] at hkeeps
      exact h.transfer (g := fun a => a) hkeeps Option.map_id'.symm (fun _ => ⟨rfl, rfl, rfl⟩) rfl
        hclosed
    | some applicationId =>
      simp only [happlication] at hkeeps
      have happ := find?_updateApplication applicationId
        (KycService.rejectedApplication "Onboarding session expired.") (fun _ => rfl) k db
      by_cases hid : k = applicationId
      · rw [if_pos hid] at happ
        -- an EXPIRING session is not that of an approved application
        have hne : ∀ a ∈ db.kycApplications.find? k, a.status ≠ .approved := by
          intro a ha hstatus
          have hlink := hground applicationId happlication a (hid ▸ ha)
          obtain ⟨s, hs, hs'⟩ := Option.map_eq_some_iff.mp (h.session a ha hstatus)
          rw [KycService.sessionOf, hlink] at hs
          exact hopen s hs hs'
        exact ⟨h.undecide hkeeps happ (fun _ => ⟨KycApplicationStatus.noConfusion, rfl⟩) hne id,
          final_of_rejected happ (fun _ => rfl) hne⟩
      · rw [if_neg hid] at happ
        exact h.transfer hkeeps happ (fun _ => ⟨rfl, rfl, rfl⟩) rfl hclosed
  · simp only [hexpiring, Bool.not_false, if_true] at hkeeps ⊢
    exact h.transfer (g := fun a => a) hkeeps Option.map_id'.symm (fun _ => ⟨rfl, rfl, rfl⟩) rfl
      (keepsClosed_of_eq rfl)

theorem settled_autoReject (h : db.Settled k) (applicationId fileHash : String) (m : KycMoment)
    (hcurrent : (KycWrite.autoReject applicationId fileHash).Current k db) :
    (KycRetentionWorker.autoReject applicationId fileHash m db).Settled k ∧
      DecisionFinal k db (KycRetentionWorker.autoReject applicationId fileHash m db) := by
  have hkeeps := (KycWrite.autoReject applicationId fileHash).keeps_execute m db
  have happ := find?_updateApplication applicationId (KycService.rejectedApplication
    ("Auto-expired: KYC Application remained pending for more " ++
      "than 15 days without approval.")) (fun _ => rfl) k db
  by_cases hid : k = applicationId
  · rw [if_pos hid] at happ
    have hne := hcurrent hid.symm
    exact ⟨h.undecide hkeeps happ (fun _ => ⟨KycApplicationStatus.noConfusion, rfl⟩) hne id,
      final_of_rejected happ (fun _ => rfl) hne⟩
  · rw [if_neg hid] at happ
    exact h.transfer hkeeps happ (fun _ => ⟨rfl, rfl, rfl⟩) rfl (keepsClosed_of_eq rfl)

theorem KycService.find?_signAsAdmin (r : Review) (m : KycMoment) (db : Database) :
    (signAsAdmin r m db).kycApplications.find? r.application.kycApplicationId =
      (db.kycApplications.find? r.application.kycApplicationId).map
        (adminSigned r.requiresMarketerApproval m.now) :=
  (find?_updateApplication r.application.kycApplicationId
    (adminSigned r.requiresMarketerApproval m.now)
    (adminSigned_kycApplicationId r.requiresMarketerApproval m.now)
    r.application.kycApplicationId db).trans (by rw [if_pos rfl])

theorem KycService.adminSigned_status (requiresMarketerApproval : Bool) (now : DateTime)
    (a : KycApplication) : (adminSigned requiresMarketerApproval now a).status = a.status := by
  cases requiresMarketerApproval <;> rfl

theorem KycService.undecided_of_claimable {r : Review} {a : KycApplication} {now : DateTime}
    (h : a.status = r.claimable) :
    undecided (adminSigned r.requiresMarketerApproval now a) = true := by
  rw [undecided, adminSigned_status, h, Review.claimable]
  cases r.requiresMarketerApproval <;> rfl

theorem settled_execute (h : db.Settled k) {w : KycWrite} (hground : w.Grounded db) (m : KycMoment)
    (hcurrent : w.Current k db) :
    (w.execute m db).Settled k ∧ DecisionFinal k db (w.execute m db) := by
  cases w with
  | approve r signature =>
    cases signature with
    | marketer => exact settled_recordMarketerApproval h m hcurrent
    | admin =>
      refine committed_rule (P := fun db' => db'.Settled k ∧ DecisionFinal k db db')
        ⟨h, fun a ha _ => congrArg (Option.map _) ha⟩ fun result hresult => ?_
      have hsigned := settled_signAsAdmin h r m
      obtain ⟨application, hfind, ⟨-, rfl⟩ | ⟨hstatus, contract, hcontract, hactivates, -⟩⟩ :=
        KycService.recordAdminApproval_eq_ok hresult
      · exact hsigned
      · have hundecided : ∀ a ∈ (KycService.signAsAdmin r m db).kycApplications.find?
            r.application.kycApplicationId, KycService.undecided a = true := by
          intro a ha
          obtain ⟨b, hb, rfl⟩ := Option.map_eq_some_iff.mp
            ((KycService.find?_signAsAdmin r m db).symm.trans ha)
          rw [hfind] at hb
          cases hb
          exact KycService.undecided_of_claimable hstatus
        have hactivated := settled_activates hsigned.1
          (Database.HasPair.keeps hground (KycService.keeps_signAsAdmin r m db)) hundecided hcontract
          hactivates
        exact ⟨hactivated.1, hsigned.2.trans hactivated.2⟩
  | reject admin loaded reason => exact settled_recordRejection h admin loaded reason m hcurrent
  | claimSessions now => exact settled_claimSessions h now
  | finalizeSession stale => exact settled_finalizeSession h hground
  | autoReject applicationId fileHash => exact settled_autoReject h applicationId fileHash m hcurrent

theorem DecisionFinal.status {g : KycApplication → KycApplication}
    (hfinal : DecisionFinal k db db')
    (happ : db'.kycApplications.find? k = (db.kycApplications.find? k).map g) {a : KycApplication}
    (ha : a ∈ db.kycApplications.find? k) (hdecided : KycService.undecided a = false) :
    (g a).status = a.status := by
  have hkept := hfinal a ha hdecided
  have ha' : db.kycApplications.find? k = some a := ha
  rw [happ, ha', Option.map_some, Option.map_some] at hkept
  exact Option.some.inj hkept

theorem DecisionFinal.not_approved {g : KycApplication → KycApplication}
    (hfinal : DecisionFinal k db db')
    (happ : db'.kycApplications.find? k = (db.kycApplications.find? k).map g)
    (hg : ∀ a, (g a).status = .rejected) :
    ∀ a ∈ db.kycApplications.find? k, a.status ≠ .approved := by
  intro a ha happroved
  have hstatus := hfinal.status happ ha (undecided_eq_false_iff.mpr (.inl happroved))
  rw [hg, happroved] at hstatus
  cases hstatus

/-- A write that takes no decision back was current. -/
theorem current_of_final {w : KycWrite} (m : KycMoment)
    (hfinal : DecisionFinal k db (w.execute m db)) : w.Current k db := by
  cases w with
  | approve r signature =>
    cases signature with
    | admin => trivial
    | marketer =>
      intro hid a ha
      have happ := find?_updateApplication r.application.kycApplicationId
        (KycService.marketerSigned m.now) (fun _ => rfl) k db
      rw [if_pos hid.symm] at happ
      by_contra hdecided
      have hstatus := hfinal.status happ ha (by simpa using hdecided)
      rw [KycService.undecided, ← hstatus] at hdecided
      exact hdecided (by simp [KycService.marketerSigned])
  | reject admin loaded reason =>
    intro hid
    have happ := find?_updateApplication loaded.application.kycApplicationId
      (KycService.rejectedApplication reason) (fun _ => rfl) k db
    rw [if_pos hid.symm] at happ
    exact hfinal.not_approved happ fun _ => rfl
  | autoReject applicationId fileHash =>
    intro hid
    have happ := find?_updateApplication applicationId (KycService.rejectedApplication
      ("Auto-expired: KYC Application remained pending for more " ++
        "than 15 days without approval.")) (fun _ => rfl) k db
    rw [if_pos hid.symm] at happ
    exact hfinal.not_approved happ fun _ => rfl
  | claimSessions now => trivial
  | finalizeSession stale => trivial

end decisions

section interleaving
variable {ι : Type} [DecidableEq ι]

/-- Decisions are final and consistent in exactly the interleavings in which every
marketer's approval and every rejection still finds what it has checked. -/
theorem decisions_final_iff (operations : ι → KycOperation) (applicationId : String)
    (db : Database) (hsettled : db.Settled applicationId) (schedule : List (ι × KycMoment)) :
    Along performKyc (fun c l => DecisionFinal applicationId c.shared (performKyc c l).shared ∧
        DecisionConsistent applicationId (performKyc c l).shared)
      (launchKyc operations db) schedule ↔
    Along performKyc (fun c l => ∀ w ∈ (c.threads l.1).pending, w.Current applicationId c.shared)
      (launchKyc operations db) schedule := by
  have hstep (c : KycThreads ι) (l : ι × KycMoment)
      (hc : c.Grounded ∧ c.shared.Settled applicationId)
      (hcurrent : ∀ w ∈ (c.threads l.1).pending, w.Current applicationId c.shared) :
      (performKyc c l).shared.Settled applicationId ∧
        DecisionFinal applicationId c.shared (performKyc c l).shared := by
    rw [performKyc, perform_shared, Program.advance_shared]
    cases hw : (c.threads l.1).pending with
    | none => exact ⟨hc.2, fun a ha _ => congrArg (Option.map _) ha⟩
    | some w => exact settled_execute hc.2 (hc.1.pending l w hw) l.2 (hcurrent w hw)
  refine along_iff_along (I := fun c => c.Grounded ∧ c.shared.Settled applicationId)
    (fun c l hc => ⟨fun h w hw => ?_, fun h => ?_⟩)
    (fun c l hc h => ⟨hc.1.step l, (hstep c l hc h).1⟩) ⟨grounded_launchKyc operations db, hsettled⟩
  · have hw' : (c.threads l.1).pending = some w := hw
    rw [performKyc, perform_shared, Program.advance_shared, hw'] at h
    exact current_of_final l.2 h.1
  · exact ⟨(hstep c l hc h).2, (hstep c l hc h).1.consistent⟩

end interleaving

instance (applicationId : String) (db : Database) :
    Decidable (DecisionConsistent applicationId db) :=
  inferInstanceAs (Decidable (∀ a ∈ db.kycApplications.find? applicationId, _ ↔ _))

instance (applicationId : String) (db db' : Database) :
    Decidable (DecisionFinal applicationId db db') :=
  inferInstanceAs (Decidable (∀ a ∈ db.kycApplications.find? applicationId, _ → _))

instance (applicationId : String) (db : Database) :
    ∀ w : KycWrite, Decidable (w.Current applicationId db)
  | .approve r .marketer => inferInstanceAs (Decidable (r.application.kycApplicationId =
      applicationId → ∀ a ∈ db.kycApplications.find? applicationId, _))
  | .approve _ .admin | .claimSessions _ | .finalizeSession _ => inferInstanceAs (Decidable True)
  | .reject _ loaded _ => inferInstanceAs (Decidable (loaded.application.kycApplicationId =
      applicationId → ∀ a ∈ db.kycApplications.find? applicationId, _))
  | .autoReject id _ => inferInstanceAs (Decidable (id = applicationId →
      ∀ a ∈ db.kycApplications.find? applicationId, _))

/-- An application by a company's code, with staff of the company and an ADMIN. -/
def awaitingDecision : Database where
  users := ⟨[{ userId := "staff", role := .company, companyId := some "a" },
    { userId := "head", role := .admin, companyId := some "a" }], by decide⟩
  onboardingSessions := ⟨[{ sessionId := "s", name := "Eve", email := "eve@x.y", passwordHash := "h"
                            companyId := some "a", status := .kycSubmitted, expiresAt := 9 }],
    by decide⟩
  kycApplications := ⟨[{ kycApplicationId := "k", onboardingSessionId := some "s"
                         productId := "fridge" }], by decide⟩
  financingContracts := ⟨[{ contractId := "c", userId := none, productId := "fridge"
                            kycApplicationId := "k", approvedDurationMonths := 2
                            totalFinanced := 100, status := .pendingActivation }], by decide⟩

def decisionMoment : KycMoment where
  now := 0
  userId := "u"
  installmentId := fun n => toString n

/-- `true` approves, `false` rejects. -/
def approvalAndRejection : Bool → KycOperation
  | true => .approve "k" "staff"
  | false => .reject "k" "head" "late"

theorem settled_awaitingDecision : awaitingDecision.Settled "k" :=
  ⟨by decide, by decide, by decide⟩

/-- The approval alone, statement by statement. -/
theorem approval_is_final :
    Along performKyc (fun c l => DecisionFinal "k" c.shared (performKyc c l).shared ∧
        DecisionConsistent "k" (performKyc c l).shared)
      (launchKyc approvalAndRejection awaitingDecision)
      (List.replicate 6 (true, decisionMoment)) :=
  (decisions_final_iff approvalAndRejection "k" awaitingDecision settled_awaitingDecision
    (List.replicate 6 (true, decisionMoment))).mpr (by decide +kernel)

/-- A rejection that has read the application in front of its approval. -/
theorem rejection_after_approval :
    ¬ Along performKyc (fun c l => DecisionFinal "k" c.shared (performKyc c l).shared ∧
        DecisionConsistent "k" (performKyc c l).shared)
      (launchKyc approvalAndRejection awaitingDecision)
      (List.replicate 6 (false, decisionMoment) ++ List.replicate 6 (true, decisionMoment) ++
        [(false, decisionMoment)]) := by
  decide +kernel

end InstalFlow
