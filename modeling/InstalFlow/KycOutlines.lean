import InstalFlow.KycRecords
import InstalFlow.Transition.Outline

/-!
# What reviews and sweeps know when they write

The rows that an operation has read may have changed by the time it writes, but
not in the columns they were created with: a review still belongs to its
application and session, and a session of the sweep to its application.
-/

namespace InstalFlow
open Relational Transition

namespace Database

def HasApplication (db : Database) (a : KycApplication) : Prop :=
  (db.kycApplications.find? a.kycApplicationId).map KycApplication.origin = some a.origin

def HasSession (db : Database) (s : OnboardingSession) : Prop :=
  (db.onboardingSessions.find? s.sessionId).map OnboardingSession.origin = some s.origin

/-- The application is that of the session, and both are there. -/
structure HasPair (db : Database) (a : KycApplication) (s : OnboardingSession) : Prop where
  application : db.HasApplication a
  session : db.HasSession s
  link : a.onboardingSessionId = some s.sessionId

variable {db db' : Database}

theorem HasApplication.keeps {a : KycApplication} (h : db.HasApplication a) (hk : db.Keeps db') :
    db'.HasApplication a := by
  obtain ⟨a', ha', he⟩ := Option.map_eq_some_iff.mp h
  exact (hk.applications _ a' ha').trans (congrArg some he)

theorem HasSession.keeps {s : OnboardingSession} (h : db.HasSession s) (hk : db.Keeps db') :
    db'.HasSession s := by
  obtain ⟨s', hs', he⟩ := Option.map_eq_some_iff.mp h
  exact (hk.sessions _ s' hs').trans (congrArg some he)

theorem HasPair.keeps {a : KycApplication} {s : OnboardingSession} (h : db.HasPair a s)
    (hk : db.Keeps db') : db'.HasPair a s :=
  ⟨h.application.keeps hk, h.session.keeps hk, h.link⟩

theorem hasApplication_of_find? {id : String} {a : KycApplication}
    (h : db.kycApplications.find? id = some a) : db.HasApplication a := by
  rw [HasApplication, Table.find?_key h, h, Option.map_some]

theorem hasSession_of_find? {id : String} {s : OnboardingSession}
    (h : db.onboardingSessions.find? id = some s) : db.HasSession s := by
  rw [HasSession, Table.find?_key h, h, Option.map_some]

/-- The stored row of an application that was read has the same session. -/
theorem HasApplication.sessionId {a b : KycApplication} (h : db.HasApplication a)
    (hb : db.kycApplications.find? a.kycApplicationId = some b) :
    b.onboardingSessionId = a.onboardingSessionId := by
  rw [HasApplication, hb, Option.map_some, Option.some.injEq] at h
  exact (congrArg KycApplication.onboardingSessionId h :)

end Database

/-- What is known of the database when a transaction is sent. -/
def KycWrite.Grounded (db : Database) : KycWrite → Prop
  | approve r _ => db.HasPair r.application r.session
  | reject _ loaded _ => db.HasApplication loaded.application
  | claimSessions _ => True
  | finalizeSession stale => ∀ id ∈ stale.applicationId, ∀ a ∈ db.kycApplications.find? id,
      a.onboardingSessionId = some stale.sessionId
  | autoReject _ _ => True

/-- A program that succeeds with `Q` while the others keep to `R` and all states are
in `I`, and sends only what meets `A`. -/
def KycProgram.Reaches {α : Type} (R : Database → Database → Prop) (I : Database → Prop)
    (A : Database → KycWrite → Prop) (Q : Database → α → Prop) (p : KycProgram α)
    (db : Database) : Prop :=
  p.run.Outline KycWrite.execute R (fun db _ => I db) A (fun db r => ∀ a, r = .ok a → Q db a) db

/-- A program that succeeds with `Q`, and sends only what is grounded. -/
def KycProgram.Establishes {α : Type} (Q : Database → α → Prop) (p : KycProgram α)
    (db : Database) : Prop :=
  p.run.Outline KycWrite.execute Database.Keeps (fun _ _ => True) KycWrite.Grounded
    (fun db r => ∀ a, r = .ok a → Q db a) db

namespace KycProgram
namespace Reaches
variable {α β : Type} {R : Database → Database → Prop} {I : Database → Prop}
  {A : Database → KycWrite → Prop} {Q : Database → α → Prop} {Q' : Database → β → Prop}
  {db : Database}

theorem bind {p : KycProgram α} {f : α → KycProgram β}
    (h : p.Reaches R I A (fun db a => (f a).Reaches R I A Q' db) db) :
    (p >>= f).Reaches R I A Q' db := by
  refine Program.Outline.exceptBind (Program.Outline.imp (fun db r hr => ⟨hr, ?_⟩) h)
  intro err _ b hb
  cases hb

theorem imp {p : KycProgram α} {P : Database → α → Prop} (hP : ∀ db a, P db a → Q db a)
    (h : p.Reaches R I A P db) : p.Reaches R I A Q db :=
  Program.Outline.imp (fun db _ hr a ha => hP db a (hr a ha)) h

theorem select {f : KycMoment → Database → α} (h : ∀ m db', R db db' → I db' → Q db' (f m db')) :
    (KycProgram.select f).Reaches R I A Q db := by
  intro m db' hR hI a ha
  cases ha
  exact h m db' hR hI

theorem send {w : KycWrite} {f : KycMoment → Database → Except AppError α}
    (h : ∀ m db', R db db' → I db' → A db' w ∧ ∀ a, Q (w.execute m db') a) :
    (KycProgram.send w f).Reaches R I A Q db := by
  intro m db' hR hI
  exact ⟨(h m db' hR hI).1, fun a _ => (h m db' hR hI).2 a⟩

theorem lift {result : Except AppError α} (h : ∀ a, result = .ok a → Q db a) :
    (KycProgram.lift result).Reaches R I A Q db := h

theorem pure {a : α} (h : Q db a) : (Pure.pure a : KycProgram α).Reaches R I A Q db := by
  intro b hb
  cases hb
  exact h

theorem discard {p : KycProgram α} (h : p.Reaches R I A (fun _ _ => True) db) :
    (discard p).Reaches R I A (fun _ _ => True) db :=
  bind (imp (fun _ _ _ => pure trivial) h)

theorem forM {γ : Type} {xs : List γ} {f : γ → KycProgram Unit}
    (h : ∀ x ∈ xs, ∀ db', (f x).Reaches R I A (fun _ _ => True) db') (db : Database) :
    (xs.forM f).Reaches R I A (fun _ _ => True) db := by
  induction xs generalizing db with
  | nil => exact pure trivial
  | cons x xs ih =>
    refine bind (imp (fun db' _ _ => ?_) (h x List.mem_cons_self db))
    exact ih (fun y hy => h y (List.mem_cons_of_mem x hy)) db'

end Reaches

namespace Establishes
variable {α β : Type} {Q : Database → α → Prop} {Q' : Database → β → Prop} {db : Database}

theorem bind {p : KycProgram α} {f : α → KycProgram β}
    (h : p.Establishes (fun db a => (f a).Establishes Q' db) db) : (p >>= f).Establishes Q' db :=
  Reaches.bind h

theorem imp {p : KycProgram α} {P : Database → α → Prop} (hP : ∀ db a, P db a → Q db a)
    (h : p.Establishes P db) : p.Establishes Q db :=
  Reaches.imp hP h

theorem select {f : KycMoment → Database → α} (h : ∀ m db', db.Keeps db' → Q db' (f m db')) :
    (KycProgram.select f).Establishes Q db :=
  Reaches.select fun m db' hk _ => h m db' hk

theorem send {w : KycWrite} {f : KycMoment → Database → Except AppError α}
    (h : ∀ m db', db.Keeps db' → w.Grounded db' ∧ ∀ a, Q (w.execute m db') a) :
    (KycProgram.send w f).Establishes Q db :=
  Reaches.send fun m db' hk _ => h m db' hk

theorem lift {result : Except AppError α} (h : ∀ a, result = .ok a → Q db a) :
    (KycProgram.lift result).Establishes Q db := h

theorem pure {a : α} (h : Q db a) : (Pure.pure a : KycProgram α).Establishes Q db :=
  Reaches.pure h

theorem discard {p : KycProgram α} (h : p.Establishes (fun _ _ => True) db) :
    (discard p).Establishes (fun _ _ => True) db :=
  Reaches.discard h

theorem forM {xs : List α} {f : α → KycProgram Unit}
    (h : ∀ x ∈ xs, ∀ db', db.Keeps db' → (f x).Establishes (fun db'' _ => db.Keeps db'') db') :
    (xs.forM f).Establishes (fun db' _ => db.Keeps db') db := by
  suffices hfrom : ∀ db', db.Keeps db' → (xs.forM f).Establishes (fun db' _ => db.Keeps db') db' from
    hfrom db .rfl
  induction xs with
  | nil => exact fun db' hk => pure hk
  | cons x xs ih =>
    intro db' hk
    refine bind (imp (fun db'' _ hk' => ?_) (h x List.mem_cons_self db' hk))
    exact ih (fun y hy => h y (List.mem_cons_of_mem x hy)) db'' hk'

end Establishes

/-- A loaded application is grounded, with the session if there is one. -/
structure Knows (db : Database) (l : LoadedApplication) : Prop where
  application : db.HasApplication l.application
  session : ∀ s, l.session = some s → db.HasPair l.application s

variable {db : Database}

theorem loadApplication_establishes (applicationId : String) (db : Database) :
    (loadApplication applicationId).Establishes
      (fun db loaded => ∀ l, loaded = some l → Knows db l) db := by
  refine .bind (.select fun m db₁ _ => ?_)
  cases ha : db₁.kycApplications.find? applicationId with
  | none => exact .pure fun l hl => nomatch hl
  | some application =>
    have hhas := Database.hasApplication_of_find? ha
    refine .bind (.select fun _ db₂ hk₂ => .bind (.select fun _ db₃ hk₃ =>
      .bind (.select fun _ db₄ hk₄ => .pure fun l hl => ?_)))
    cases hl
    refine ⟨((hhas.keeps hk₂).keeps hk₃).keeps hk₄, fun s hs => ?_⟩
    obtain ⟨id, hid, hfind⟩ := Option.bind_eq_some_iff.mp hs
    refine ⟨((hhas.keeps hk₂).keeps hk₃).keeps hk₄, (Database.hasSession_of_find? hfind).keeps hk₄, ?_⟩
    rw [Table.find?_key hfind]
    exact hid

theorem approveApplication_establishes (applicationId reviewerId : String) (db : Database) :
    (approveApplication applicationId reviewerId).Establishes (fun _ _ => True) db := by
  refine .bind (.select fun _ db₁ _ => .bind ?_)
  refine .imp (fun db₂ loaded hloaded => ?_) (loadApplication_establishes applicationId db₁)
  refine .bind (.lift fun r hr => .bind (.lift fun signature _ => .bind (.lift fun _ _ => ?_)))
  refine .send fun m db₃ hk => ⟨?_, fun _ => trivial⟩
  obtain ⟨-, hsome⟩ := KycService.openReview_eq_ok hr
  exact ((hloaded _ hsome).session r.session rfl).keeps hk

theorem rejectApplication_establishes (applicationId adminId reason : String) (db : Database) :
    (rejectApplication applicationId adminId reason).Establishes (fun _ _ => True) db := by
  refine .bind (.select fun _ db₁ _ => .bind (.lift fun admin _ => .bind ?_))
  refine .imp (fun db₂ loaded hloaded => ?_) (loadApplication_establishes applicationId db₁)
  refine .bind (.lift fun l hl => .bind (.select fun _ db₃ hk₃ => .bind (.lift fun _ _ => ?_)))
  refine .send fun m db₄ hk₄ => ⟨?_, fun _ => trivial⟩
  have hknows := hloaded l (KycService.assertUndecided_eq_ok hl).1
  exact (hknows.application.keeps hk₃).keeps hk₄

theorem expireStaleOnboardingSessions_establishes (batchSize : ℕ) (db : Database) :
    (expireStaleOnboardingSessions batchSize).Establishes (fun _ _ => True) db := by
  refine .bind (.select fun m db₁ _ => .bind (.send fun _ db₂ _ => ⟨trivial, fun claimed => ?_⟩))
  by_cases hclaimed : claimed = 0
  · simp only [hclaimed, if_true]
    exact .pure trivial
  · simp only [hclaimed, if_false]
    refine .bind (.select fun _ db₃ _ => .bind (.select fun _ db₄ _ => .bind (.imp
      (fun _ _ _ => .pure trivial) (.forM fun stale hstale db₅ hk₅ => ?_))))
    obtain ⟨s, -, rfl⟩ := List.mem_map.mp hstale
    refine .send fun m db₆ hk₆ => ⟨?_, fun _ => (hk₅.trans hk₆).trans (KycWrite.keeps_execute _ _ _)⟩
    -- the application was the session's when the batch was read
    intro id hid a ha
    obtain ⟨b, hb, rfl⟩ := Option.map_eq_some_iff.mp hid
    have hlink := List.find?_some hb
    simp only [decide_eq_true_eq] at hlink
    have hhas := ((Database.hasApplication_of_find?
      (Table.find?_of_mem (List.mem_of_find?_eq_some hb))).keeps hk₅).keeps hk₆
    exact (hhas.sessionId ha).trans hlink

theorem autoRejectStale_establishes (db : Database) :
    autoRejectStale.Establishes (fun _ _ => True) db := by
  refine .bind (.select fun _ db₁ _ => .bind (.select fun _ db₂ _ => ?_))
  refine .imp (fun _ _ _ => trivial) (.forM fun stale _ db₃ hk₃ => ?_)
  exact .send fun _ db₄ hk₄ =>
    ⟨trivial, fun _ => (hk₃.trans hk₄).trans (KycWrite.keeps_execute _ _ _)⟩

end KycProgram

theorem KycOperation.establishes (operation : KycOperation) (db : Database) :
    operation.program.Establishes (fun _ _ => True) db := by
  cases operation with
  | approve applicationId reviewerId =>
    exact (KycProgram.approveApplication_establishes applicationId reviewerId db).discard
  | reject applicationId adminId reason =>
    exact KycProgram.rejectApplication_establishes applicationId adminId reason db
  | expireStaleOnboardingSessions batchSize =>
    exact (KycProgram.expireStaleOnboardingSessions_establishes batchSize db).discard
  | autoRejectStale => exact KycProgram.autoRejectStale_establishes db

section interleaving
variable {ι : Type}

abbrev KycThreads (ι : Type) : Type :=
  Config Database ι (Program Database KycWrite KycMoment (Except AppError Unit))

def launchKyc (operations : ι → KycOperation) (db : Database) : KycThreads ι where
  shared := db
  threads i := (operations i).program.run

/-- Every thread is grounded in the rows as they are. -/
def KycThreads.Grounded (c : KycThreads ι) : Prop :=
  ∀ i, (c.threads i).Outline KycWrite.execute Database.Keeps (fun _ _ => True) KycWrite.Grounded
    (fun _ _ => True) c.shared

theorem grounded_launchKyc (operations : ι → KycOperation) (db : Database) :
    (launchKyc operations db).Grounded :=
  fun i => Program.Outline.imp (fun _ _ _ => trivial) ((operations i).establishes db)

theorem KycThreads.Grounded.pending {c : KycThreads ι} (h : c.Grounded) (l : ι × KycMoment) :
    ∀ w ∈ (c.threads l.1).pending, w.Grounded c.shared :=
  (h l.1).pending (fun _ => .rfl) trivial l.2

variable [DecidableEq ι]

/-- The thread named by the label executes its next statement at the moment given. -/
def performKyc (c : KycThreads ι) (l : ι × KycMoment) : KycThreads ι :=
  perform KycWrite.execute c l

theorem keeps_performKyc (c : KycThreads ι) (l : ι × KycMoment) :
    c.shared.Keeps (performKyc c l).shared := by
  rw [performKyc, perform_shared, Program.advance_shared]
  cases (c.threads l.1).pending with
  | none => exact .rfl
  | some w => exact w.keeps_execute l.2 c.shared

theorem KycThreads.Grounded.step {c : KycThreads ι} (h : c.Grounded) (l : ι × KycMoment) :
    (performKyc c l).Grounded :=
  perform_outline (R := Database.Keeps) (C := fun _ _ _ => True) (A := fun _ => KycWrite.Grounded)
    (Q := fun _ _ _ => True) (fun _ => .rfl) .trans (fun _ {_ _ _} _ h => h) trivial
    (keeps_performKyc c l) h

end interleaving
end InstalFlow
