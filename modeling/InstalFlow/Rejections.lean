import InstalFlow.KycDecisions

/-!
# What a rejection leaves

An admin, the sweep of expired sessions and the retention worker reject applications, each in a
transaction of its own. Only the admin's rejects the financing contract, and the sweep leaves
the documents and the audit trail alone too.
-/

namespace InstalFlow
open Relational Transition

def Undecided (applicationId : String) (db : Database) : Prop :=
  ∃ a ∈ db.kycApplications.find? applicationId, KycService.undecided a = true

def ApplicationRejected (applicationId : String) (db : Database) : Prop :=
  ∃ a ∈ db.kycApplications.find? applicationId,
    a.status = .rejected ∧ a.rejectionReason.isSome = true

def ContractsRejected (applicationId : String) (db : Database) : Prop :=
  ∀ c ∈ db.financingContracts.rows, c.kycApplicationId = applicationId →
    c.status = .rejected ∧ c.rejectedAt.isSome = true

def DocumentsScheduled (applicationId : String) (now : DateTime) (db : Database) : Prop :=
  ∀ d ∈ db.kycDocumentAssets.rows, d.kycApplicationId = applicationId → d.scheduledDeletionAt ≤ now

def RejectionAudited (applicationId : String) (db : Database) : Prop :=
  ∃ e ∈ db.kycAuditTrail, e.kycApplicationId = applicationId ∧ e.action = "REJECTED"

/-- A pending application is REJECTED afterwards. -/
def Rejects (applicationId : String) (db db' : Database) : Prop :=
  Undecided applicationId db ∧
    ∃ a ∈ db'.kycApplications.find? applicationId, a.status = .rejected

def RejectedInFull (applicationId : String) (now : DateTime) (db : Database) : Prop :=
  ApplicationRejected applicationId db ∧ ContractsRejected applicationId db ∧
    DocumentsScheduled applicationId now db ∧ RejectionAudited applicationId db

/-- What a transaction does not write of the rejection of a pending application is there
already. -/
def KycWrite.FindsRest (applicationId : String) (now : DateTime) (db : Database) : KycWrite → Prop
  | .finalizeSession stale =>
      stale.applicationId = some applicationId → Undecided applicationId db →
      OnboardingService.isExpiring stale.sessionId db = true →
        ContractsRejected applicationId db ∧ DocumentsScheduled applicationId now db ∧
          RejectionAudited applicationId db
  | .autoReject id _ =>
      id = applicationId → Undecided applicationId db → ContractsRejected applicationId db
  | _ => True

section transactions
variable {k : String} {db db' : Database}

theorem not_rejects {g : KycApplication → KycApplication}
    (happ : db'.kycApplications.find? k = (db.kycApplications.find? k).map g)
    (hg : ∀ a, KycService.undecided a = true → (g a).status ≠ .rejected) : ¬ Rejects k db db' := by
  rintro ⟨⟨a, ha, hundecided⟩, a', ha', hrejected⟩
  obtain ⟨b, hb, rfl⟩ := Option.map_eq_some_iff.mp (happ.symm.trans ha')
  obtain rfl : a = b := Option.some.inj (ha.symm.trans hb)
  exact hg a hundecided hrejected

theorem not_rejected_of_undecided {a : KycApplication} (h : KycService.undecided a = true) :
    a.status ≠ .rejected := by
  intro hrejected
  rw [KycService.undecided, hrejected] at h
  cases h

theorem not_rejects_of_same (happ : db'.kycApplications.find? k = db.kycApplications.find? k) :
    ¬ Rejects k db db' :=
  not_rejects (g := fun a => a) (happ.trans Option.map_id'.symm) fun _ => not_rejected_of_undecided

theorem rejects_iff_undecided {reason : String}
    (happ : db'.kycApplications.find? k =
      (db.kycApplications.find? k).map (KycService.rejectedApplication reason)) :
    Rejects k db db' ↔ Undecided k db := by
  refine ⟨fun h => h.1, fun h => ⟨h, ?_⟩⟩
  obtain ⟨a, ha, -⟩ := h
  exact ⟨KycService.rejectedApplication reason a, by rw [happ, ha]; rfl, rfl⟩

theorem applicationRejected_of_undecided {reason : String}
    (happ : db'.kycApplications.find? k =
      (db.kycApplications.find? k).map (KycService.rejectedApplication reason))
    (h : Undecided k db) : ApplicationRejected k db' := by
  obtain ⟨a, ha, -⟩ := h
  exact ⟨KycService.rejectedApplication reason a, by rw [happ, ha]; rfl, rfl, rfl⟩

theorem documentsScheduled_scheduleDeletion (now : DateTime) :
    DocumentsScheduled k now (KycService.scheduleDeletion k now db) := by
  intro d hd hk
  obtain ⟨s, -, rfl⟩ := List.mem_map.mp hd
  by_cases hs : s.kycApplicationId = k
  · simp only [hs, decide_true, if_true]
    exact Int.sub_le_self now (by decide)
  · simp only [hs, decide_false, Bool.false_eq_true, if_false] at hk

theorem contractsRejected_updateMany (now : DateTime)
    (h : db'.financingContracts = db.financingContracts.updateMany (fun c => c.kycApplicationId = k)
      (KycService.rejectedContract now) (fun _ => rfl)) : ContractsRejected k db' := by
  intro c hc hk
  rw [h] at hc
  obtain ⟨s, -, rfl⟩ := List.mem_map.mp hc
  by_cases hs : s.kycApplicationId = k
  · simp only [hs, decide_true, if_true]
    exact ⟨rfl, rfl⟩
  · simp only [hs, decide_false, Bool.false_eq_true, if_false] at hk

theorem not_rejects_approve (r : Review) (signature : Signature) (m : KycMoment) :
    ¬ Rejects k db ((KycWrite.approve r signature).execute m db) := by
  cases signature with
  | marketer =>
    refine not_rejects (find?_updateApplication r.application.kycApplicationId
      (KycService.marketerSigned m.now) (fun _ => rfl) k db) fun a hundecided => ?_
    split
    · exact KycApplicationStatus.noConfusion
    · exact not_rejected_of_undecided hundecided
  | admin =>
    have hsigned : ∃ g : KycApplication → KycApplication, (∀ a, (g a).status = a.status) ∧
        (KycService.signAsAdmin r m db).kycApplications.find? k =
          (db.kycApplications.find? k).map g := by
      refine ⟨_, fun a => ?_, find?_updateApplication r.application.kycApplicationId
        (KycService.adminSigned r.requiresMarketerApproval m.now)
        (KycService.adminSigned_kycApplicationId r.requiresMarketerApproval m.now) k db⟩
      split
      · exact KycService.adminSigned_status _ _ a
      · rfl
    obtain ⟨g, hg, happ⟩ := hsigned
    refine committed_rule (P := fun db' => ¬ Rejects k db db') (not_rejects_of_same rfl)
      fun result hresult => ?_
    obtain ⟨application, -, ⟨-, rfl⟩ | ⟨-, contract, -, hactivates, -⟩⟩ :=
      KycService.recordAdminApproval_eq_ok hresult
    · refine not_rejects happ fun a hundecided => ?_
      rw [hg a]
      exact not_rejected_of_undecided hundecided
    · have happroved := find?_updateApplication r.application.kycApplicationId
        (KycService.approvedApplication m.userId) (fun _ => rfl) k (KycService.signAsAdmin r m db)
      rw [happ, Option.map_map] at happroved
      refine not_rejects (by rw [hactivates.applications]; exact happroved) fun a hundecided => ?_
      rw [Function.comp_apply]
      split
      · exact KycApplicationStatus.noConfusion
      · rw [hg a]
        exact not_rejected_of_undecided hundecided

theorem rejectedInFull_finalizeSession_iff (stale : StaleSession) (now : DateTime) :
    (Rejects k db (OnboardingService.finalizeSession stale db) →
      RejectedInFull k now (OnboardingService.finalizeSession stale db)) ↔
      (KycWrite.finalizeSession stale).FindsRest k now db := by
  rw [OnboardingService.finalizeSession, KycWrite.FindsRest]
  cases hexpiring : OnboardingService.isExpiring stale.sessionId db with
  | false =>
    simp only [Bool.not_false, if_true]
    exact iff_of_true (fun h => absurd h (not_rejects_of_same rfl)) fun _ _ h => (by cases h)
  | true =>
    simp only [Bool.not_true, Bool.false_eq_true, if_false, forall_const]
    cases stale.applicationId with
    | none =>
      exact iff_of_true (fun h => absurd h (not_rejects_of_same rfl)) fun h => (by cases h)
    | some id =>
      have happ := find?_updateApplication id
        (KycService.rejectedApplication "Onboarding session expired.") (fun _ => rfl) k db
      by_cases hid : k = id
      · subst hid
        rw [if_pos rfl] at happ
        constructor
        · intro h _ hundecided
          exact (h ((rejects_iff_undecided happ).mpr hundecided)).2
        · intro h hrejects
          exact ⟨applicationRejected_of_undecided happ hrejects.1, h rfl hrejects.1⟩
      · rw [if_neg hid, Option.map_id'] at happ
        exact iff_of_true (fun h => absurd h (not_rejects_of_same happ))
          fun h => absurd (Option.some.inj h).symm hid

/-- A transaction rejects the application in full exactly when it finds there what it does not
write. -/
theorem rejectedInFull_iff (w : KycWrite) (m : KycMoment) :
    (Rejects k db (w.execute m db) → RejectedInFull k m.now (w.execute m db)) ↔
      w.FindsRest k m.now db := by
  cases w with
  | approve r signature =>
    exact iff_of_true (fun h => absurd h (not_rejects_approve r signature m)) trivial
  | claimSessions now => exact iff_of_true (fun h => absurd h (not_rejects_of_same rfl)) trivial
  | reject admin loaded reason =>
    refine iff_of_true (fun h => ?_) trivial
    have happ := find?_updateApplication loaded.application.kycApplicationId
      (KycService.rejectedApplication reason) (fun _ => rfl) k db
    by_cases hid : k = loaded.application.kycApplicationId
    · rw [if_pos hid] at happ
      subst hid
      exact ⟨applicationRejected_of_undecided happ h.1, contractsRejected_updateMany m.now rfl,
        documentsScheduled_scheduleDeletion m.now, _,
        List.mem_append_right _ (List.mem_singleton_self _), rfl, rfl⟩
    · rw [if_neg hid, Option.map_id'] at happ
      exact absurd h (not_rejects_of_same happ)
  | finalizeSession stale => exact rejectedInFull_finalizeSession_iff stale m.now
  | autoReject id fileHash =>
    have happ := find?_updateApplication id (KycService.rejectedApplication
      ("Auto-expired: KYC Application remained pending for more " ++
        "than 15 days without approval.")) (fun _ => rfl) k db
    by_cases hid : k = id
    · rw [if_pos hid] at happ
      subst hid
      constructor
      · intro h _ hundecided
        exact (h ((rejects_iff_undecided happ).mpr hundecided)).2.1
      · intro h hrejects
        exact ⟨applicationRejected_of_undecided happ hrejects.1, h rfl hrejects.1,
          documentsScheduled_scheduleDeletion m.now, _,
          List.mem_append_right _ (List.mem_singleton_self _), rfl, rfl⟩
    · rw [if_neg hid, Option.map_id'] at happ
      exact iff_of_true (fun h => absurd h (not_rejects_of_same happ)) fun h => absurd h.symm hid

end transactions

section interleaving
variable {ι : Type} [DecidableEq ι]

/-- However reviews and sweeps interleave, the rejections of an application are in full exactly
when each finds there what its path does not write. -/
theorem rejections_in_full_iff (operations : ι → KycOperation) (applicationId : String)
    (db : Database) (schedule : List (ι × KycMoment)) :
    Along performKyc (fun c l => Rejects applicationId c.shared (performKyc c l).shared →
        RejectedInFull applicationId l.2.now (performKyc c l).shared)
      (launchKyc operations db) schedule ↔
    Along performKyc (fun c l => ∀ w ∈ (c.threads l.1).pending,
        w.FindsRest applicationId l.2.now c.shared) (launchKyc operations db) schedule := by
  have hstep (c : KycThreads ι) (l : ι × KycMoment) :
      (Rejects applicationId c.shared (performKyc c l).shared →
        RejectedInFull applicationId l.2.now (performKyc c l).shared) ↔
      ∀ w ∈ (c.threads l.1).pending, w.FindsRest applicationId l.2.now c.shared := by
    rw [performKyc, perform_shared, Program.advance_shared]
    cases (c.threads l.1).pending with
    | none => exact iff_of_true (fun h => absurd h (not_rejects_of_same rfl)) fun w h => (by cases h)
    | some w =>
      simp only [Option.mem_def, Option.some.injEq, forall_eq']
      exact rejectedInFull_iff w l.2
  exact ⟨Along.imp fun c l => (hstep c l).mp, Along.imp fun c l => (hstep c l).mpr⟩

end interleaving

instance (applicationId : String) (db db' : Database) : Decidable (Rejects applicationId db db') :=
  inferInstanceAs (Decidable ((∃ a ∈ db.kycApplications.find? applicationId, _) ∧
    ∃ a ∈ db'.kycApplications.find? applicationId, _))

instance (applicationId : String) (now : DateTime) (db : Database) :
    Decidable (RejectedInFull applicationId now db) :=
  inferInstanceAs (Decidable ((∃ a ∈ db.kycApplications.find? applicationId, _) ∧
    (∀ c ∈ db.financingContracts.rows, _) ∧ (∀ d ∈ db.kycDocumentAssets.rows, _) ∧
      ∃ e ∈ db.kycAuditTrail, _))

def momentAt (now : DateTime) : KycMoment where
  now := now
  userId := "u"
  installmentId := fun n => toString n

/-- Neither the sweep, a moment after the session has expired, nor the retention worker, after
sixteen days, rejects the contract of the application. -/
theorem sweeps_leave_contract :
    ¬ Along performKyc (fun c l => Rejects "k" c.shared (performKyc c l).shared →
        RejectedInFull "k" l.2.now (performKyc c l).shared)
      (launchKyc (fun _ : Fin 1 => .expireStaleOnboardingSessions 500) awaitingDecision)
      (List.replicate 5 (0, momentAt 10)) ∧
    ¬ Along performKyc (fun c l => Rejects "k" c.shared (performKyc c l).shared →
        RejectedInFull "k" l.2.now (performKyc c l).shared)
      (launchKyc (fun _ : Fin 1 => .autoRejectStale) awaitingDecision)
      (List.replicate 3 (0, momentAt (16 * msPerDay))) := by
  decide +kernel

end InstalFlow
