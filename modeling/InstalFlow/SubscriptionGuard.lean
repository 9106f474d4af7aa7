import InstalFlow.LiveSubscriptions
import InstalFlow.Relational.Latest

/-!
# The guard in front of a restricted company

`requireActiveSubscription` looks at the most recent subscription of a company
only. A RESTRICTED company is blocked as long as no statement but the activation
of a paid subscription puts another row, or another status, in that place.
-/

namespace InstalFlow
open Relational Transition

/-- The most recent subscription of the company is RESTRICTED. -/
def LatestRestricted (companyId : String) (db : Database) : Prop :=
  ∃ s, SubscriptionService.latest companyId db = some s ∧ s.status = .restricted

namespace SubscriptionGuard

def exemptRoles : List Role := [.superAdmin, .customer]

def safeMethods : List String := ["GET", "HEAD", "OPTIONS"]

structure AuthUser where
  companyId : Option String
  role : Role

structure Request where
  method : String
  user : Option AuthUser

def restrictedError : AppError :=
  .forbidden ("Your company's subscription is restricted due to a lapsed renewal. " ++
    "Renew your subscription to resume full access.")

/-- `next()` is the result without an error. -/
def requireActiveSubscription (req : Request) (db : Database) : Except AppError Unit :=
  if req.method ∈ safeMethods then .ok ()
  else
    match (req.user.bind AuthUser.companyId).filter fun companyId => companyId ≠ "" with
    | none => .ok ()
    | some companyId =>
      if req.user.any fun user => user.role ∈ exemptRoles then .ok ()
      else if (SubscriptionService.latest companyId db).any fun s => s.status = .restricted then
        .error restrictedError
      else .ok ()

/-- The requests of a company that the guard is there for: they may write, and
neither a customer nor the platform sends them. -/
structure Request.Writes (companyId : String) (req : Request) : Prop where
  method : req.method ∉ safeMethods
  user : ∃ user, req.user = some user ∧ user.companyId = some companyId ∧ user.role ∉ exemptRoles

/-- The guard rejects every such request. -/
def Closed (companyId : String) (db : Database) : Prop :=
  ∀ req : Request, req.Writes companyId → requireActiveSubscription req db = .error restrictedError

theorem closed_iff {companyId : String} (hid : companyId ≠ "") {db : Database} :
    Closed companyId db ↔ LatestRestricted companyId db := by
  have hguard {req : Request} (hreq : req.Writes companyId) : requireActiveSubscription req db =
      if (SubscriptionService.latest companyId db).any fun s => s.status = .restricted then
        .error restrictedError
      else .ok () := by
    obtain ⟨hmethod, user, huser, hcompany, hrole⟩ := hreq
    rw [requireActiveSubscription, if_neg hmethod, huser, Option.bind_some, hcompany,
      Option.filter_some, if_pos (decide_eq_true hid)]
    simp [hrole]
  constructor
  · intro h
    have hpost : Request.Writes companyId
        { method := "POST", user := some { companyId := some companyId, role := .company } } :=
      ⟨by simp [safeMethods], _, rfl, rfl, by simp [exemptRoles]⟩
    have hrejected := h _ hpost
    rw [hguard hpost] at hrejected
    split at hrejected
    · rename_i hrestricted
      cases hlatest : SubscriptionService.latest companyId db with
      | none =>
        rw [hlatest] at hrestricted
        cases hrestricted
      | some s =>
        rw [hlatest, Option.any_some] at hrestricted
        exact ⟨s, hlatest, of_decide_eq_true hrestricted⟩
    · cases hrejected
  · intro h req hreq
    obtain ⟨s, hs, hstatus⟩ := h
    rw [hguard hreq, hs, Option.any_some, hstatus]
    rfl

end SubscriptionGuard

section latest
variable {companyId : String} {db db' : Database}

theorem latest_eq (companyId : String) (db : Database) :
    SubscriptionService.latest companyId db =
      latestBy CompanySubscription.createdAt
        (db.companySubscriptions.rows.filter fun s => s.companyId = companyId) := rfl

theorem mem_of_latest {s : CompanySubscription}
    (h : SubscriptionService.latest companyId db = some s) :
    s ∈ db.companySubscriptions.rows ∧ s.companyId = companyId := by
  obtain ⟨hmem, hcompany⟩ := List.mem_filter.mp (mem_of_latestBy h)
  exact ⟨hmem, of_decide_eq_true hcompany⟩

/-- A change of rows that keeps their companies and times changes the latest row alike. -/
theorem latest_of_map {g : CompanySubscription → CompanySubscription}
    (hrows : db'.companySubscriptions.rows = db.companySubscriptions.rows.map g)
    (hcompany : ∀ s, (g s).companyId = s.companyId) (hcreatedAt : ∀ s, (g s).createdAt = s.createdAt) :
    SubscriptionService.latest companyId db' = (SubscriptionService.latest companyId db).map g := by
  rw [latest_eq, latest_eq, ← latestBy_map hcreatedAt, hrows, List.filter_map]
  congr 2
  refine List.filter_congr fun s _ => ?_
  simp only [Function.comp_apply, hcompany]

end latest

/-- The id is that of a subscription of the company. -/
def Database.SubscriptionOf (companyId : Option String) (subscriptionId : String) (db : Database) :
    Prop :=
  ∃ s ∈ db.companySubscriptions.rows, s.subscriptionId = subscriptionId ∧
    some s.companyId = companyId

/-- Subscriptions stay, and stay with their companies. -/
def Database.KeepsCompanies (db db' : Database) : Prop :=
  ∀ companyId subscriptionId, db.SubscriptionOf companyId subscriptionId →
    db'.SubscriptionOf companyId subscriptionId

namespace SubscriptionWrite

/-- What is known of the rows that a statement names: those of an activation are
of the company that has paid. -/
def Attributed (db : Database) : SubscriptionWrite → Prop
  | intent w => w.Subscribes
  | transitionTo _ status => status = .gracePeriod ∨ status = .restricted
  | activate v => ∀ id, id = v.pendingSubscription.subscriptionId ∨ id ∈ v.others →
      db.SubscriptionOf v.intent.companyId id

/-- Whether a company has been restricted, without a payment activated for it since. -/
def restricts (companyId : String) (db : Database) (restricted : Bool) : SubscriptionWrite → Bool
  | intent _ => restricted
  | transitionTo subscriptionId status =>
      restricted || (status = .restricted && db.companySubscriptions.rows.any fun s =>
        s.subscriptionId = subscriptionId ∧ s.companyId = companyId)
  | activate v =>
      restricted && !(((activate v).activation db).isSome && v.intent.companyId = some companyId)

/-- The row of a new request would be inserted, and be the latest of the company. -/
def InsertsLatest (companyId subscriptionId : String) (now : DateTime) (db : Database) : Prop :=
  (∀ s ∈ db.companySubscriptions.rows, s.companyId = companyId → s.status ≠ .pending) ∧
  db.companySubscriptions.find? subscriptionId = none ∧
  ∀ s ∈ SubscriptionService.latest companyId db, s.createdAt < now

/-- No statement without a payment takes the RESTRICTED row out of the place that the
guard looks at: a request does not insert a row behind it, the worker does not
give it another status, and what the worker restricts is in that place. -/
def KeepsClosed (companyId : String) (db : Database) (restricted : Bool) : SubscriptionWrite → Prop
  | intent (.elsewhere f _) => restricted = true → ∀ subscriptionId planId now,
      f = SubscriptionService.createPendingSubscription subscriptionId companyId planId now →
      ¬ InsertsLatest companyId subscriptionId now db
  | intent _ => True
  | transitionTo subscriptionId .restricted =>
      ∀ s ∈ db.companySubscriptions.rows, s.subscriptionId = subscriptionId →
        s.companyId = companyId → ∀ t ∈ SubscriptionService.latest companyId db,
          t.subscriptionId = subscriptionId ∨ t.status = .restricted
  | transitionTo subscriptionId _ => restricted = true →
      ∀ t ∈ SubscriptionService.latest companyId db, t.subscriptionId ≠ subscriptionId
  | activate _ => True

end SubscriptionWrite

section steps
variable {companyId : String} {m : Moment} {db db' : Database} {w : SubscriptionWrite}

theorem Database.KeepsCompanies.rfl : db.KeepsCompanies db := fun _ _ h => h

theorem Database.KeepsCompanies.trans {db'' : Database} (h : db.KeepsCompanies db')
    (h' : db'.KeepsCompanies db'') : db.KeepsCompanies db'' :=
  fun companyId id hs => h' companyId id (h companyId id hs)

theorem keepsCompanies_of_map {g : CompanySubscription → CompanySubscription}
    (hrows : db'.companySubscriptions.rows = db.companySubscriptions.rows.map g)
    (hid : ∀ s, (g s).subscriptionId = s.subscriptionId)
    (hcompany : ∀ s, (g s).companyId = s.companyId) : db.KeepsCompanies db' := by
  intro companyId subscriptionId h
  obtain ⟨s, hs, rfl, rfl⟩ := h
  refine ⟨g s, ?_, hid s, congrArg some (hcompany s)⟩
  rw [hrows]
  exact List.mem_map_of_mem hs

theorem keepsCompanies_execute (hw : w.Subscribes) : db.KeepsCompanies (w.execute m db) := by
  cases w with
  | intent w =>
    obtain ⟨subscriptions, intents, heq, hadded⟩ := IntentWrite.addsPending_execute hw m db
    rw [SubscriptionWrite.execute, heq]
    rcases hadded with rfl | ⟨t, -, -, hcreate⟩
    · exact fun _ _ h => h
    · intro companyId subscriptionId h
      obtain ⟨s, hs, hsame⟩ := h
      refine ⟨s, ?_, hsame⟩
      simp only [(Table.create_eq_some hcreate).2]
      exact List.mem_append_left _ hs
  | transitionTo subscriptionId status =>
    refine keepsCompanies_of_map (rows_transitionTo subscriptionId status) (fun s => ?_) fun s => ?_
    · rw [transitionedRow]
      split <;> rfl
    · rw [transitionedRow]
      split <;> rfl
  | activate v =>
    rcases rows_activate m db v with hsame | ⟨-, hrows⟩
    · rw [hsame]
      exact fun _ _ h => h
    · exact keepsCompanies_of_map hrows (by simp) (by simp)

theorem latest_createPendingSubscription_of_ne {other subscriptionId planId : String}
    {now : DateTime} (hne : other ≠ companyId) :
    SubscriptionService.latest companyId
      (SubscriptionService.createPendingSubscription subscriptionId other planId now db) =
        SubscriptionService.latest companyId db := by
  rw [SubscriptionService.createPendingSubscription]
  split
  · rfl
  · cases hcreate : db.companySubscriptions.create
      { subscriptionId, companyId := other, planId, createdAt := now } with
    | none => rfl
    | some subscriptions =>
      rw [latest_eq, latest_eq, Option.getD_some, (Table.create_eq_some hcreate).2,
        List.filter_append]
      simp [hne]

/-- A request inserts the latest row, or leaves the latest one in its place. -/
theorem latest_createPendingSubscription (subscriptionId planId : String) (now : DateTime)
    {s : CompanySubscription} (hs : SubscriptionService.latest companyId db = some s) :
    (SubscriptionWrite.InsertsLatest companyId subscriptionId now db ∧
      SubscriptionService.latest companyId
        (SubscriptionService.createPendingSubscription subscriptionId companyId planId now db) =
          some { subscriptionId, companyId, planId, createdAt := now }) ∨
    ¬ SubscriptionWrite.InsertsLatest companyId subscriptionId now db ∧
      SubscriptionService.latest companyId
        (SubscriptionService.createPendingSubscription subscriptionId companyId planId now db) =
          some s := by
  rw [SubscriptionService.createPendingSubscription]
  split
  · rename_i htaken
    obtain ⟨t, ht, hpending⟩ := List.any_eq_true.mp htaken
    obtain ⟨hcompany, hpending⟩ := of_decide_eq_true hpending
    exact .inr ⟨fun h => h.1 t ht hcompany hpending, hs⟩
  · rename_i hfree
    have hnone : ∀ t ∈ db.companySubscriptions.rows, t.companyId = companyId →
        t.status ≠ .pending := by simpa using hfree
    cases hcreate : db.companySubscriptions.create
      { subscriptionId, companyId, planId, createdAt := now } with
    | none =>
      refine .inr ⟨fun h => ?_, hs⟩
      obtain ⟨subscriptions, hcreated⟩ := Table.create_isSome (t := db.companySubscriptions)
        (r := { subscriptionId, companyId, planId, createdAt := now }) h.2.1
      rw [hcreate] at hcreated
      cases hcreated
    | some subscriptions =>
      obtain ⟨hfind, hrows⟩ := Table.create_eq_some hcreate
      have hlatest : SubscriptionService.latest companyId
          { db with companySubscriptions := subscriptions } =
            some (later CompanySubscription.createdAt s
              { subscriptionId, companyId, planId, createdAt := now }) := by
        rw [latest_eq] at hs
        rw [latest_eq, hrows, List.filter_append]
        simp only [decide_true, List.filter_cons_of_pos, List.filter_nil]
        rw [latestBy_append, hs, Option.elim_some]
      rw [Option.getD_some, hlatest, later]
      by_cases hnow : s.createdAt < now
      · rw [if_neg (not_le.mpr hnow)]
        refine .inl ⟨⟨hnone, hfind, fun t ht => ?_⟩, rfl⟩
        rw [hs, Option.mem_some] at ht
        exact ht ▸ hnow
      · rw [if_pos (not_lt.mp hnow)]
        exact .inr ⟨fun h => hnow (h.2.2 s hs), rfl⟩

@[simp] theorem transitionedRow_companyId (subscriptionId : String) (status : SubscriptionStatus)
    (s : CompanySubscription) :
    (transitionedRow subscriptionId status s).companyId = s.companyId := by
  rw [transitionedRow]
  split <;> rfl

@[simp] theorem transitionedRow_createdAt (subscriptionId : String) (status : SubscriptionStatus)
    (s : CompanySubscription) :
    (transitionedRow subscriptionId status s).createdAt = s.createdAt := by
  rw [transitionedRow]
  split <;> rfl

@[simp] theorem VerifiedPayment.onRow_createdAt (v : VerifiedPayment) (s : CompanySubscription) :
    (v.onRow s).createdAt = s.createdAt := by
  rw [onRow]
  split
  · rfl
  · split <;> rfl

/-- A transition changes the latest row when it names it. -/
theorem latestRestricted_transitionTo (subscriptionId : String) (status : SubscriptionStatus) :
    LatestRestricted companyId ((SubscriptionWrite.transitionTo subscriptionId status).execute m db) ↔
      ∃ t, SubscriptionService.latest companyId db = some t ∧
        (t.subscriptionId = subscriptionId ∧ status = .restricted ∨
          t.subscriptionId ≠ subscriptionId ∧ t.status = .restricted) := by
  rw [LatestRestricted, latest_of_map (rows_transitionTo subscriptionId status) (by simp) (by simp)]
  have hrow (t : CompanySubscription) : (transitionedRow subscriptionId status t).status = .restricted ↔
      (t.subscriptionId = subscriptionId ∧ status = .restricted ∨
        t.subscriptionId ≠ subscriptionId ∧ t.status = .restricted) := by
    rw [transitionedRow]
    by_cases hid : t.subscriptionId = subscriptionId
    · rw [if_pos hid]
      simp [hid, CompanySubscription.withStatus]
    · rw [if_neg hid]
      simp [hid]
  cases SubscriptionService.latest companyId db with
  | none => simp
  | some t => simp [hrow]

/-- An activation for another company leaves the latest row alone. -/
theorem latest_activate {v : VerifiedPayment}
    (hw : (SubscriptionWrite.activate v).Attributed db)
    (hother : ¬ (((SubscriptionWrite.activate v).activation db).isSome = true ∧
      v.intent.companyId = some companyId)) :
    SubscriptionService.latest companyId ((SubscriptionWrite.activate v).execute m db) =
      SubscriptionService.latest companyId db := by
  rcases rows_activate m db v with hsame | ⟨hactivates, hrows⟩
  · rw [hsame]
  · obtain ⟨u, hactivation, -⟩ := Option.map_eq_some_iff.mp hactivates
    rw [latest_of_map hrows (by simp) (by simp)]
    cases hlatest : SubscriptionService.latest companyId db with
    | none => rfl
    | some t =>
      obtain ⟨ht, hcompany⟩ := mem_of_latest hlatest
      have hunnamed : ¬ (t.subscriptionId = v.pendingSubscription.subscriptionId ∨
          t.subscriptionId ∈ v.others) := by
        intro hnamed
        obtain ⟨s, hs, hid, hpaid⟩ := hw t.subscriptionId hnamed
        have hsame : s = t := Table.key_injective hs ht hid
        refine hother ⟨by rw [hactivation]; rfl, ?_⟩
        rw [← hpaid, hsame, hcompany]
      obtain ⟨hpending, hothers⟩ := not_or.mp hunnamed
      rw [Option.map_some, VerifiedPayment.onRow, if_neg hpending, if_neg hothers]

/-- A request for the company, by a statement that may be written in several ways. -/
theorem latestRestricted_elsewhere {f : Database → Database}
    (hw : ∃ subscriptionId other planId now,
      f = SubscriptionService.createPendingSubscription subscriptionId other planId now)
    (hclosed : LatestRestricted companyId db) :
    LatestRestricted companyId (f db) ↔ ∀ subscriptionId planId now,
      f = SubscriptionService.createPendingSubscription subscriptionId companyId planId now →
      ¬ SubscriptionWrite.InsertsLatest companyId subscriptionId now db := by
  obtain ⟨s, hs, hstatus⟩ := hclosed
  constructor
  · rintro ⟨s', hs', hstatus'⟩ subscriptionId planId now rfl hinserts
    rcases latest_createPendingSubscription subscriptionId planId now hs with
      ⟨-, hlatest⟩ | ⟨hkept, -⟩
    · rw [hlatest] at hs'
      cases hs'
      cases hstatus'
    · exact hkept hinserts
  · intro hkept
    obtain ⟨subscriptionId, other, planId, now, rfl⟩ := hw
    by_cases hcompany : other = companyId
    · subst hcompany
      rcases latest_createPendingSubscription subscriptionId planId now hs with
        ⟨hinserts, -⟩ | ⟨-, hlatest⟩
      · exact absurd hinserts (hkept subscriptionId planId now rfl)
      · exact ⟨s, hlatest, hstatus⟩
    · exact ⟨s, (latest_createPendingSubscription_of_ne hcompany).trans hs, hstatus⟩

theorem latestRestricted_gracePeriod {subscriptionId : String} {restricted : Bool}
    (hclosed : restricted = true → LatestRestricted companyId db) :
    (restricted = true → LatestRestricted companyId
      ((SubscriptionWrite.transitionTo subscriptionId .gracePeriod).execute m db)) ↔
    (restricted = true → ∀ t ∈ SubscriptionService.latest companyId db,
      t.subscriptionId ≠ subscriptionId) := by
  refine forall_congr' fun hrestricted => ?_
  obtain ⟨s, hs, hstatus⟩ := hclosed hrestricted
  rw [latestRestricted_transitionTo, hs]
  simp [hstatus]

theorem latestRestricted_restricted {subscriptionId : String} {restricted : Bool}
    (hclosed : restricted = true → LatestRestricted companyId db) :
    ((SubscriptionWrite.transitionTo subscriptionId .restricted).restricts companyId db
      restricted = true → LatestRestricted companyId
        ((SubscriptionWrite.transitionTo subscriptionId .restricted).execute m db)) ↔
    (SubscriptionWrite.transitionTo subscriptionId .restricted).KeepsClosed companyId db
      restricted := by
  have hafter : LatestRestricted companyId
      ((SubscriptionWrite.transitionTo subscriptionId .restricted).execute m db) ↔
        ∃ t, SubscriptionService.latest companyId db = some t ∧
          (t.subscriptionId = subscriptionId ∨ t.status = .restricted) := by
    rw [latestRestricted_transitionTo]
    refine exists_congr fun t => and_congr_right fun _ => ?_
    tauto
  rw [hafter]
  by_cases hrow : ∃ s ∈ db.companySubscriptions.rows, s.subscriptionId = subscriptionId ∧
      s.companyId = companyId
  · obtain ⟨s, hs, hid, hcompany⟩ := hrow
    have hrestricts : (SubscriptionWrite.transitionTo subscriptionId .restricted).restricts companyId
        db restricted = true := by
      rw [SubscriptionWrite.restricts, Bool.or_eq_true]
      refine .inr (Bool.and_eq_true_iff.mpr ⟨rfl, List.any_eq_true.mpr ⟨s, hs, ?_⟩⟩)
      exact decide_eq_true ⟨hid, hcompany⟩
    cases hlatest : SubscriptionService.latest companyId db with
    | none =>
      rw [latest_eq, latestBy_eq_none] at hlatest
      have hmem : s ∈ db.companySubscriptions.rows.filter fun s => s.companyId = companyId :=
        List.mem_filter.mpr ⟨hs, decide_eq_true hcompany⟩
      rw [hlatest] at hmem
      cases hmem
    | some t =>
      constructor
      · intro h r _ _ _ u hu
        obtain ⟨t', ht', hkept⟩ := h hrestricts
        rw [hlatest, Option.mem_some] at hu
        cases ht'
        exact hu ▸ hkept
      · intro h _
        exact ⟨t, rfl, h s hs hid hcompany t hlatest⟩
  · refine iff_of_true (fun hrestricts => ?_) fun s hs hid hcompany => ?_
    · have hnone : (db.companySubscriptions.rows.any fun s =>
          s.subscriptionId = subscriptionId ∧ s.companyId = companyId) = false := by
        refine List.any_eq_false.mpr fun s hs hnamed => hrow ⟨s, hs, ?_⟩
        exact of_decide_eq_true hnamed
      rw [SubscriptionWrite.restricts, hnone, Bool.and_false, Bool.or_false] at hrestricts
      obtain ⟨t, ht, hstatus⟩ := hclosed hrestricts
      exact ⟨t, ht, .inr hstatus⟩
    · exact absurd ⟨s, hs, hid, hcompany⟩ hrow

/-- A statement keeps the guard closed on a restricted company when it meets the condition. -/
theorem latestRestricted_execute_iff {restricted : Bool} (hw : w.Attributed db)
    (hclosed : restricted = true → LatestRestricted companyId db) :
    (w.restricts companyId db restricted = true → LatestRestricted companyId (w.execute m db)) ↔
      w.KeepsClosed companyId db restricted := by
  cases w with
  | intent w =>
    have hkept (hw : w.Collects fun _ => False) (hcollect : ∀ a, w ≠ .collect a) :
        restricted = true → LatestRestricted companyId
          ((SubscriptionWrite.intent w).execute m db) := by
      intro hrestricted
      obtain ⟨intents, heq⟩ := execute_paymentIntents m db hw hcollect
      rw [SubscriptionWrite.execute, heq]
      exact hclosed hrestricted
    cases w with
    | elsewhere f hf =>
      exact forall_congr' fun hrestricted => latestRestricted_elsewhere hw (hclosed hrestricted)
    | collect attempt => exact hw.elim
    | create intent => exact iff_of_true (hkept trivial (by simp)) trivial
    | transition intentId t => exact iff_of_true (hkept trivial (by simp)) trivial
    | recordRecoveryFailure intentId message => exact iff_of_true (hkept trivial (by simp)) trivial
    | expireStale now => exact iff_of_true (hkept trivial (by simp)) trivial
    | claim intentIds => exact iff_of_true (hkept trivial (by simp)) trivial
  | transitionTo subscriptionId status =>
    rcases hw with rfl | rfl
    · rw [SubscriptionWrite.restricts, decide_eq_false (by decide), Bool.false_and, Bool.or_false]
      exact latestRestricted_gracePeriod hclosed
    · exact latestRestricted_restricted hclosed
  | activate v =>
    refine iff_of_true (fun hrestricted => ?_) trivial
    rw [SubscriptionWrite.restricts, Bool.and_eq_true] at hrestricted
    obtain ⟨hrestricted, hother⟩ := hrestricted
    rw [LatestRestricted, latest_activate hw]
    · exact hclosed hrestricted
    · intro hown
      simp [hown.1, hown.2] at hother

end steps

namespace SubscriptionProgram
variable (db : Database)

/-- A verification activates a subscription of the company that has paid, and
expires subscriptions of this company. -/
theorem verifySubscription_attributed (reference : String) :
    Program.Reaches SubscriptionWrite.execute Database.KeepsCompanies (fun _ _ => True)
      SubscriptionWrite.Attributed (fun _ _ => True) (verifySubscription reference) db := by
  refine .bind (.read fun _ db₁ _ intent _ => .bind ?_)
  refine .map (.read fun _ db₂ _ verification _ => ?_)
  refine .bind (.read fun _ db₃ _ plan _ => .bind (.read fun _ db₄ _ pending hpending => ?_))
  obtain ⟨hmem, hcompany, -⟩ := SubscriptionService.findPending_eq_ok hpending
  have hpaid : db₄.SubscriptionOf intent.companyId pending.subscriptionId :=
    ⟨pending, hmem, rfl, hcompany⟩
  refine .bind (.read fun _ db₅ h₅ now _ => .bind (.read fun _ db₆ h₆ others hothers => ?_))
  cases hothers
  refine .bind (.map (.read fun _ db₇ h₇ _ _ => .bind (.map (.read fun _ db₈ h₈ _ _ => ?_))))
  have hmarks : Program.Sends IntentWrite.Subscribes
      (IntentProgram.transitionStatus intent.intentId .success).run :=
    IntentProgram.sends_transitionStatus trivial
  refine .bind (.map (.imp (fun db₉ _ h₉ => ?_) (reaches_ofIntent (fun _ => .rfl) .trans
    (fun _ _ hw => hw) (fun m _ w hw _ => keepsCompanies_execute (w := .intent w) hw) hmarks db₈)))
  refine .bind (.map (.read fun _ db₁₀ h₁₀ _ _ => .write fun m db₁₁ h₁₁ _ => ⟨?_, ?_⟩))
  · have hlater : db₆.KeepsCompanies db₁₁ := (((h₇.trans h₈).trans h₉).trans h₁₀).trans h₁₁
    intro id hid
    rcases hid with rfl | hid
    · exact (h₅.trans h₆).trans hlater _ _ hpaid
    · obtain ⟨s, hs, rfl⟩ := List.mem_map.mp hid
      obtain ⟨hs, hother⟩ := List.mem_filter.mp hs
      exact hlater _ _ ⟨s, hs, rfl, (of_decide_eq_true hother).1⟩
  · exact fun _ _ => trivial

end SubscriptionProgram

/-- Every operation names rows of the company that it is for. -/
theorem SubscriptionOperation.attributed (operation : SubscriptionOperation) (db : Database) :
    operation.program.run.Outline SubscriptionWrite.execute Database.KeepsCompanies
      (fun _ _ => True) SubscriptionWrite.Attributed (fun _ _ => True) db := by
  have hsends (hother : ∀ reference, operation ≠ .verifySubscription reference) :
      Program.Sends (fun w => w.Subscribes ∧ ∀ v, w ≠ .activate v) operation.program.run := by
    refine operation.sends (fun reference h => absurd h (hother reference)) fun _ =>
      ⟨fun w hw => ⟨hw, fun v h => by cases h⟩, fun id status hstatus => ⟨hstatus, fun v h => by cases h⟩⟩
  by_cases hverifies : ∃ reference, operation = .verifySubscription reference
  · obtain ⟨reference, rfl⟩ := hverifies
    exact .imp (fun _ _ _ => trivial)
      (SubscriptionProgram.verifySubscription_attributed db reference)
  · refine .imp (fun _ _ _ => trivial)
      (Program.Outline.of_sends (R := Database.KeepsCompanies) (fun _ => .rfl) .trans
        (fun db w hw => ?_) (fun m db w hw _ => keepsCompanies_execute hw.1)
        (hsends fun reference h => hverifies ⟨reference, h⟩) db)
    cases w with
    | activate v => exact absurd rfl (hw.2 v)
    | intent w => exact hw.1
    | transitionTo subscriptionId status => exact hw.1

theorem SubscriptionWrite.Attributed.subscribes {db : Database} {w : SubscriptionWrite}
    (hw : w.Attributed db) : w.Subscribes := by
  cases w with
  | activate v => trivial
  | _ => exact hw

section interleaving
variable {ι : Type}

/-- The threads, and whether the company has been restricted without a payment
activated for it since. -/
structure RestrictedCompany (ι : Type) where
  threads : SubscriptionThreads ι
  restricted : Bool

namespace RestrictedCompany

/-- The guard is closed on a company that has been restricted. -/
def Blocked (companyId : String) (c : RestrictedCompany ι) : Prop :=
  c.restricted = true → SubscriptionGuard.Closed companyId c.threads.shared

def KeepsClosed (companyId : String) (c : RestrictedCompany ι) (l : ι × Moment) : Prop :=
  ∀ w ∈ (c.threads.threads l.1).pending,
    w.KeepsClosed companyId c.threads.shared c.restricted

variable [DecidableEq ι]

def step (companyId : String) (c : RestrictedCompany ι) (l : ι × Moment) : RestrictedCompany ι where
  threads := performSubscription c.threads l
  restricted := ((c.threads.threads l.1).pending.map
    (SubscriptionWrite.restricts companyId c.threads.shared c.restricted)).getD c.restricted

/-- All threads name rows of the company that they are for. -/
def Attributed (c : RestrictedCompany ι) : Prop :=
  ∀ i, (c.threads.threads i).Outline SubscriptionWrite.execute Database.KeepsCompanies
    (fun _ _ => True) SubscriptionWrite.Attributed (fun _ _ => True) c.threads.shared

variable {companyId : String} {c : RestrictedCompany ι} {l : ι × Moment}

omit [DecidableEq ι] in
theorem Attributed.pending (h : c.Attributed) :
    ∀ w ∈ (c.threads.threads l.1).pending, w.Attributed c.threads.shared :=
  (h l.1).pending (fun _ => .rfl) trivial l.2

theorem Attributed.step (h : c.Attributed) : (c.step companyId l).Attributed := by
  refine perform_outline (C := fun _ _ _ => True) (A := fun _ => SubscriptionWrite.Attributed)
    (Q := fun _ _ _ => True) (fun _ => .rfl) .trans (fun _ {_ _ _} _ h => h) trivial ?_ h
  rw [perform_shared, Program.advance_shared]
  cases hw : (c.threads.threads l.1).pending with
  | none => exact .rfl
  | some w => exact keepsCompanies_execute (h.pending w hw).subscribes

theorem blocked_step_iff (hid : companyId ≠ "") (h : c.Attributed) (hblocked : c.Blocked companyId) :
    (c.step companyId l).Blocked companyId ↔ c.KeepsClosed companyId l := by
  rw [Blocked, SubscriptionGuard.closed_iff hid] at hblocked ⊢
  simp only [step, performSubscription, perform_shared, Program.advance_shared, KeepsClosed]
  cases hw : (c.threads.threads l.1).pending with
  | none => simpa using hblocked
  | some w =>
    have hiff := latestRestricted_execute_iff (m := l.2) (h.pending w hw) hblocked
    simpa using hiff

end RestrictedCompany

variable [DecidableEq ι]

/-- However requests, verifications, renewals and transitions of intents are
interleaved, a company that has been restricted finds the guard closed until a
payment has activated a subscription for it, in exactly the interleavings whose
unpaid statements leave a RESTRICTED row in the place that the guard looks at. -/
theorem restricted_blocked_iff (companyId : String) (hid : companyId ≠ "")
    (operations : ι → SubscriptionOperation) (db : Database) (restricted : Bool)
    (hstart : restricted = true → SubscriptionGuard.Closed companyId db)
    (schedule : List (ι × Moment)) :
    Throughout (RestrictedCompany.step companyId) (RestrictedCompany.Blocked companyId)
      ⟨launchSubscriptions operations db, restricted⟩ schedule ↔
    Along (RestrictedCompany.step companyId) (RestrictedCompany.KeepsClosed companyId)
      ⟨launchSubscriptions operations db, restricted⟩ schedule :=
  throughout_iff_along (I := RestrictedCompany.Attributed)
    (s := ⟨launchSubscriptions operations db, restricted⟩)
    (fun _ _ h hblocked => RestrictedCompany.blocked_step_iff hid h hblocked)
    (fun _ _ h _ => h.step) (fun i => (operations i).attributed db) hstart

end interleaving

/-- A company whose grace period has elapsed. -/
def elapsedCompany : Database where
  companies := ⟨[{ companyId := "co", name := "Elapsed company" }], by decide⟩
  subscriptionPlans := ⟨[{ planId := "quarterly", name := "Quarterly", price := 90
                           gracePeriodDays := 0 }], by decide⟩
  companySubscriptions := ⟨[{ subscriptionId := "elapsed", companyId := "co"
                              planId := "quarterly", status := .gracePeriod
                              endDate := some 5 }], by decide⟩

def requestBehindWorker : Bool → SubscriptionOperation
  | true => .processRestrictedTransition
  | false => .initializeSubscription "co" "quarterly" "owner@co"

/-- The pass of the worker, and the statements of a request up to the new row. -/
def restrictedThenRequested : List (Bool × Moment) :=
  List.replicate 4 (true, subscriptionMoment) ++ List.replicate 5 (false, subscriptionMoment)

def postRequest : SubscriptionGuard.Request where
  method := "POST"
  user := some { companyId := some "co", role := .company }

theorem postRequest_writes : postRequest.Writes "co" :=
  ⟨by decide, _, rfl, rfl, by decide⟩

/-- The request of a restricted company, which has not paid, opens the guard. -/
theorem restricted_company_unblocked :
    (run (RestrictedCompany.step "co")
      ⟨launchSubscriptions requestBehindWorker elapsedCompany, false⟩
      restrictedThenRequested).restricted = true ∧
    ¬ Throughout (RestrictedCompany.step "co") (RestrictedCompany.Blocked "co")
      ⟨launchSubscriptions requestBehindWorker elapsedCompany, false⟩ restrictedThenRequested := by
  refine ⟨by decide +kernel, fun h => ?_⟩
  have hrejected := h.last (by decide +kernel) postRequest postRequest_writes
  have hopen : (SubscriptionGuard.requireActiveSubscription postRequest
      (run (RestrictedCompany.step "co")
        ⟨launchSubscriptions requestBehindWorker elapsedCompany, false⟩
        restrictedThenRequested).threads.shared).isOk = true := by decide +kernel
  rw [hrejected] at hopen
  cases hopen

/-- The pass of the worker alone blocks the company. -/
theorem restricted_company_blocked :
    Throughout (RestrictedCompany.step "co") (RestrictedCompany.Blocked "co")
      ⟨launchSubscriptions requestBehindWorker elapsedCompany, false⟩
      (List.replicate 4 (true, subscriptionMoment)) := by
  refine (restricted_blocked_iff "co" (by decide) requestBehindWorker elapsedCompany false
    (fun h => absurd h Bool.false_ne_true) _).mpr ⟨?_, ?_, ?_, ?_, trivial⟩
  · intro w hw
    cases hw
  · intro w hw
    cases hw
  · intro w hw
    cases hw
  · intro w hw
    cases hw
    intro s _ hs _ t ht
    cases ht
    exact .inl rfl

end InstalFlow
