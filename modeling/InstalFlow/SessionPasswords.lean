import InstalFlow.KycReviews

/-!
# The password of an approved customer

A registration stores the hash of the customer's password in the session, and the
last approval carries it into the User. The sweep blanks it as soon as it claims
the session, long before the application is rejected, and an approval does not
look at the status of the session it has read.
-/

namespace InstalFlow
open Relational Transition

namespace OnboardingSession

/-- The sweep has claimed the session. -/
def claimed (s : OnboardingSession) : Bool := s.status = .expiring ∨ s.status = .expired

/-- A claimed session has no hash, and another the one of its registration, unless
the customer is a user already. -/
structure Holds (registered : String → String) (db : Database) (s : OnboardingSession) : Prop where
  blank : s.claimed = true → s.passwordHash = ""
  kept : s.claimed = false →
    s.passwordHash = registered s.sessionId ∨ ∃ u ∈ db.users.rows, u.email = s.email

end OnboardingSession

def Database.HoldsPasswords (registered : String → String) (db : Database) : Prop :=
  ∀ s ∈ db.onboardingSessions.rows, s.Holds registered db

section steps
variable {registered : String → String} {db db' : Database} {s t : OnboardingSession}

theorem OnboardingSession.Holds.of_users (h : s.Holds registered db)
    (husers : ∀ u ∈ db.users.rows, u ∈ db'.users.rows) : s.Holds registered db' where
  blank := h.blank
  kept hopen := by
    rcases h.kept hopen with hhash | ⟨u, hu, hemail⟩
    · exact .inl hhash
    · exact .inr ⟨u, husers u hu, hemail⟩

theorem Database.Keeps.mem_users (h : db.Keeps db') : ∀ u ∈ db.users.rows, u ∈ db'.users.rows :=
  fun u hu => Table.mem_of_find? (h.users u.userId u (Table.find?_of_mem hu))

theorem holdsPasswords_of_eq (h : db.HoldsPasswords registered) (hk : db.Keeps db')
    (hsessions : db'.onboardingSessions = db.onboardingSessions) :
    db'.HoldsPasswords registered := by
  intro s hs
  rw [hsessions] at hs
  exact (h s hs).of_users hk.mem_users

theorem holdsPasswords_claimSessions (h : db.HoldsPasswords registered) (now : DateTime) :
    (OnboardingService.claimSessions now db).HoldsPasswords registered := by
  intro s hs
  have hs : s ∈ (db.onboardingSessions.updateMany (OnboardingService.sweepable now)
    OnboardingService.expiringSession fun _ => rfl).rows := hs
  rcases Table.mem_updateMany.mp hs with ⟨hs, -⟩ | ⟨t, -, -, rfl⟩
  · exact ⟨(h s hs).blank, (h s hs).kept⟩
  · exact ⟨fun _ => rfl, fun hopen => absurd hopen.symm Bool.false_ne_true⟩

theorem holdsPasswords_finalizeSession (h : db.HoldsPasswords registered) (stale : StaleSession) :
    (OnboardingService.finalizeSession stale db).HoldsPasswords registered := by
  have hk := OnboardingService.keeps_finalizeSession stale db
  by_cases hexpiring : OnboardingService.isExpiring stale.sessionId db
  · have hsessions : (OnboardingService.finalizeSession stale db).onboardingSessions =
        db.onboardingSessions.update stale.sessionId OnboardingService.expiredSession
          fun _ => rfl := by
      rw [OnboardingService.finalizeSession, hexpiring]
      cases stale.applicationId <;> rfl
    intro s hs
    rw [hsessions] at hs
    have hs : s ∈ (db.onboardingSessions.updateMany (fun s => s.sessionId = stale.sessionId)
      OnboardingService.expiredSession fun _ => rfl).rows := hs
    rcases Table.mem_updateMany.mp hs with ⟨hs, -⟩ | ⟨t, ht, hid, rfl⟩
    · exact (h s hs).of_users hk.mem_users
    · have hfind := Table.find?_of_mem ht
      rw [of_decide_eq_true hid] at hfind
      rw [OnboardingService.isExpiring, hfind, Option.any_some] at hexpiring
      refine ⟨fun _ => (h t ht).blank ?_, fun hopen => absurd hopen.symm Bool.false_ne_true⟩
      rw [OnboardingSession.claimed, of_decide_eq_true hexpiring]
      rfl
  · rw [OnboardingService.finalizeSession, if_pos (by simpa using hexpiring)]
    exact h

theorem holdsPasswords_activates {r : Review} {contract : FinancingContract} {m : KycMoment}
    (h : db.HoldsPasswords registered) (hsession : db.HasSession r.session)
    (hactivates : KycService.Activates r contract m db db') : db'.HoldsPasswords registered := by
  have hk := hactivates.keeps
  intro s hs
  rw [hactivates.sessions] at hs
  have hs : s ∈ (db.onboardingSessions.updateMany (fun s => s.sessionId = r.session.sessionId)
    KycService.approvedSession fun _ => rfl).rows := hs
  rcases Table.mem_updateMany.mp hs with ⟨hs, -⟩ | ⟨t, ht, hid, rfl⟩
  · exact (h s hs).of_users hk.mem_users
  · refine ⟨fun hclaimed => absurd hclaimed Bool.false_ne_true, fun _ => .inr ?_⟩
    -- the customer was created with the email of the session
    obtain ⟨t', ht', hsame⟩ := Option.map_eq_some_iff.mp hsession
    have hfind := Table.find?_of_mem ht
    rw [of_decide_eq_true hid, ht'] at hfind
    cases hfind
    have hemail : t.email = r.session.email := (congrArg OnboardingSession.email hsame :)
    exact ⟨_, Table.mem_of_find? hactivates.find?_newUser, hemail.symm⟩

/-- A write keeps what every open session holds. -/
theorem holdsPasswords_execute (h : db.HoldsPasswords registered) {w : KycWrite}
    (hground : w.Grounded db) (m : KycMoment) : (w.execute m db).HoldsPasswords registered := by
  have hk := w.keeps_execute m db
  cases w with
  | approve r signature =>
    cases signature with
    | marketer => exact holdsPasswords_of_eq h hk rfl
    | admin =>
      refine committed_rule (P := fun db => db.HoldsPasswords registered) h fun result hresult => ?_
      have hsigned : (KycService.signAsAdmin r m db).HoldsPasswords registered :=
        holdsPasswords_of_eq h (KycService.keeps_signAsAdmin r m db) rfl
      obtain ⟨application, -, ⟨-, rfl⟩ | ⟨-, contract, -, hactivates, -⟩⟩ :=
        KycService.recordAdminApproval_eq_ok hresult
      · exact hsigned
      · exact holdsPasswords_activates hsigned
          (hground.session.keeps (KycService.keeps_signAsAdmin r m db)) hactivates
  | reject admin loaded reason => exact holdsPasswords_of_eq h hk rfl
  | claimSessions now => exact holdsPasswords_claimSessions h now
  | finalizeSession stale => exact holdsPasswords_finalizeSession h stale
  | autoReject applicationId fileHash => exact holdsPasswords_of_eq h hk rfl

/-- The User of an activation has the password of its registration exactly when the
session, as the approval read it, had not been claimed. -/
theorem password_of_activation (hregistered : ∀ id, registered id ≠ "") {w : KycWrite}
    {m : KycMoment} (hreviewed : w.Reviewed Database.Keeps (Database.HoldsPasswords registered) db)
    {a : Activation} (ha : w.activation m db = some a) :
    a.customer.password = registered a.review.session.sessionId ↔
      a.review.session.claimed = false := by
  rcases w.activation_cases m db with ⟨r, contract, rfl, hactivation, -, hactivates⟩ | ⟨hnone, -⟩
  · obtain rfl := Option.some.inj (hactivation.symm.trans ha)
    obtain ⟨d, hd, hholds, hread⟩ := hreviewed.session
    obtain ⟨id, -, hfind⟩ := Option.bind_eq_some_iff.mp hread
    have hsession := (hholds r.session (Table.mem_of_find? hfind)).of_users hd.mem_users
    cases hclaimed : r.session.claimed with
    | true =>
      refine iff_of_false (fun hpassword => ?_) Bool.false_ne_true.symm
      exact hregistered _ (hpassword.symm.trans (hsession.blank hclaimed))
    | false =>
      refine iff_of_true ?_ rfl
      rcases hsession.kept hclaimed with hhash | ⟨u, hu, hemail⟩
      · exact hhash
      · exact absurd hemail (hactivates.email u hu)
  · rw [hnone] at ha
    cases ha

end steps

section interleaving
variable {ι : Type} [DecidableEq ι]

theorem password_of_history (operations : ι → KycOperation) {registered : String → String}
    (hregistered : ∀ id, registered id ≠ "") {db : Database}
    (hholds : db.HoldsPasswords registered) (schedule : List (ι × KycMoment)) :
    ∀ a ∈ history performKyc KycThreads.activation (launchKyc operations db) schedule,
      a.customer.password = registered a.review.session.sessionId ↔
        a.review.session.claimed = false := by
  have htrans (a b c : Database) : a.Keeps b → b.Keeps c → a.Keeps c := .trans
  refine forall_mem_history (I := fun c => c.Grounded ∧
    c.Reviewed Database.Keeps (Database.HoldsPasswords registered) ∧
    c.shared.HoldsPasswords registered) (fun c l hc => ⟨hc.1.step l, ?_, ?_⟩) (fun c l a hc ha => ?_)
    ⟨grounded_launchKyc operations db, reviewed_launchKyc htrans (fun _ => .rfl) operations db,
      hholds⟩ schedule
  · exact hc.2.1.step htrans (fun _ => .rfl) hc.2.2 (keeps_performKyc c l)
  · rw [performKyc, perform_shared, Program.advance_shared]
    cases hw : (c.threads l.1).pending with
    | none => exact hc.2.2
    | some w => exact holdsPasswords_execute hc.2.2 (hc.1.pending l w hw) l.2
  · obtain ⟨w, hw, hactivation⟩ := Option.bind_eq_some_iff.mp ha
    exact password_of_activation hregistered
      (hc.2.1.pending (fun _ => .rfl) hc.2.2 l w hw) hactivation

/-- The users created in an interleaving are those of its activations, and they all
have the password of their registration exactly when no activation had read its
session after the sweep claimed it. -/
theorem carries_password_iff (operations : ι → KycOperation) (registered : String → String)
    (hregistered : ∀ id, registered id ≠ "") (db : Database)
    (hholds : db.HoldsPasswords registered) (schedule : List (ι × KycMoment)) :
    let activations := history performKyc KycThreads.activation (launchKyc operations db) schedule
    (run performKyc (launchKyc operations db) schedule).shared.users.rows =
      db.users.rows ++ activations.map Activation.customer ∧
    ((∀ a ∈ activations, a.customer.password = registered a.review.session.sessionId) ↔
      ∀ a ∈ activations, a.review.session.claimed = false) := by
  intro activations
  refine ⟨?_, forall₂_congr (password_of_history operations hregistered hholds schedule)⟩
  have happend (c : KycThreads ι) (l : ι × KycMoment) :=
    appends_performKyc (v := fun db => db.users.rows) users_execute c l
  rw [List.map_eq_flatMap]
  exact run_history (v := fun c : KycThreads ι => c.shared.users.rows) happend schedule

end interleaving

/-- An application by a company's code whose session expires at 9. -/
def expiringApplication : Database where
  users := ⟨[{ userId := "staff", password := "own", role := .company
               companyId := some "shop" }], by decide⟩
  onboardingSessions := ⟨[{ sessionId := "s", name := "Ida", email := "ida@x.y"
                            passwordHash := "hash", companyId := some "shop"
                            status := .kycSubmitted, expiresAt := 9 }], by decide⟩
  kycApplications := ⟨[{ kycApplicationId := "k", onboardingSessionId := some "s"
                         productId := "sofa" }], by decide⟩
  financingContracts := ⟨[{ contractId := "c", userId := none, productId := "sofa"
                            kycApplicationId := "k", approvedDurationMonths := 2
                            totalFinanced := 100, status := .pendingActivation }], by decide⟩

def registeredHash (_ : String) : String := "hash"

theorem holdsPasswords_expiringApplication : expiringApplication.HoldsPasswords registeredHash := by
  intro s hs
  obtain rfl := List.mem_singleton.mp hs
  exact ⟨fun hclaimed => absurd hclaimed (by decide), fun _ => .inl rfl⟩

/-- `true` approves, `false` sweeps. -/
def approvalAndSweep : Bool → KycOperation
  | true => .approve "k" "staff"
  | false => .expireStaleOnboardingSessions 500

def approvalMoment : KycMoment where
  now := 10
  userId := "ida"
  installmentId := fun n => toString n

/-- The approval before the sweep. -/
theorem approval_carries_password :
    let schedule := List.replicate 6 (true, approvalMoment) ++
      List.replicate 2 (false, approvalMoment)
    ∀ a ∈ history performKyc KycThreads.activation
        (launchKyc approvalAndSweep expiringApplication) schedule,
      a.customer.password = registeredHash a.review.session.sessionId :=
  (carries_password_iff approvalAndSweep registeredHash (fun _ => by simp [registeredHash])
    expiringApplication holdsPasswords_expiringApplication _).2.mpr (by decide +kernel)

/-- The sweep claims the session, and the approval creates a User without a password. -/
theorem approval_after_claim :
    (run performKyc (launchKyc approvalAndSweep expiringApplication)
      (List.replicate 2 (false, approvalMoment) ++
        List.replicate 6 (true, approvalMoment))).shared.users.rows.map
          (fun u => (u.userId, u.password)) = [("staff", "own"), ("ida", "")] ∧
    ¬ ∀ a ∈ history performKyc KycThreads.activation
        (launchKyc approvalAndSweep expiringApplication)
        (List.replicate 2 (false, approvalMoment) ++ List.replicate 6 (true, approvalMoment)),
      a.customer.password = registeredHash a.review.session.sessionId := by
  decide +kernel

end InstalFlow
