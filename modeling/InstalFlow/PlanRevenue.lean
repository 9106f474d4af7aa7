import InstalFlow.MoneyMovements
import InstalFlow.PaidPlans

/-!
# The revenue of a plan

An intent is reserved at the discount of its plan, when that is positive, and at its price
otherwise. A verification books the discount whatever it is, and the onboarding job the price,
both as the plan stands then. What is booked was charged where these agree.
-/

namespace InstalFlow
open Relational LedgerService

/-- The ledger has two lines more: the amount at Paystack, and as revenue. -/
def RevenueBooked (reference : String) (amount : ℚ) (l l' : Ledger) : Prop :=
  ∃ clearing revenue : ℕ, l'.entries = l.entries ++
      [⟨reference, 0, clearing, amount, 0⟩, ⟨reference, 1, revenue, 0, amount⟩] ∧
    (l'.accounts[clearing]?).map LedgerAccount.name = some "PAYSTACK_CLEARING" ∧
    (l'.accounts[revenue]?).map LedgerAccount.name = some "PLATFORM_REVENUE"

section ledger
variable {reference description : String} {companyId : Option String} {price amount : ℚ}
  {l l' : Ledger}

/-- An entry is written to an account of its name, and no account is renamed. -/
theorem postEntry_names (reference : String) (companyId : Option String) (l : Ledger) (line : ℕ)
    (entry : LedgerEntry) : ∃ id : ℕ, (postEntry reference companyId l line entry).entries =
        l.entries ++ [⟨reference, line, id, entry.debit, entry.credit⟩] ∧
      ((postEntry reference companyId l line entry).accounts[id]?).map LedgerAccount.name =
        some entry.accountName ∧
      ∀ (k : ℕ) name, (l.accounts[k]?).map LedgerAccount.name = some name →
        ((postEntry reference companyId l line entry).accounts[k]?).map LedgerAccount.name =
          some name := by
  obtain ⟨before, account, after, hname, -, hold, hpost⟩ :=
    postEntry_spec reference companyId l line entry
  rw [hpost]
  refine ⟨before.length, rfl, by simp [incrementBalance, hname], fun k name hk => ?_⟩
  rw [← List.getElem?_map] at hk ⊢
  rcases hold with hold | ⟨hold, -, -, -⟩
  · rw [hold] at hk
    simpa [incrementBalance] using hk
  · rw [hold] at hk
    rw [List.map_append, List.getElem?_append_left]
    · exact hk
    · exact (List.getElem?_eq_some_iff.mp hk).1

theorem revenueBooked_revenuePosting
    (h : recordTransaction (SubscriptionService.revenuePosting reference description companyId price)
      l = .ok l') : RevenueBooked reference price l l' := by
  obtain ⟨-, rfl⟩ := recordTransaction_eq_ok h
  let entered := upsertTransaction l reference description
  obtain ⟨clearing, hentries, hclearing, -⟩ := postEntry_names reference companyId entered 0
    { accountName := "PAYSTACK_CLEARING", accountType := .asset, debit := price }
  obtain ⟨revenue, hentries', hrevenue, hkept⟩ := postEntry_names reference companyId
    (postEntry reference companyId entered 0
      { accountName := "PAYSTACK_CLEARING", accountType := .asset, debit := price }) 1
    { accountName := "PLATFORM_REVENUE", accountType := .revenue, credit := price }
  refine ⟨clearing, revenue, ?_, hkept _ _ hclearing, hrevenue⟩
  refine hentries'.trans ?_
  rw [hentries, List.append_assoc]
  simp only [entered, upsertTransaction_entries]
  rfl

theorem RevenueBooked.debits (h : RevenueBooked reference amount l l') :
    l'.entries.map JournalEntry.debit = l.entries.map JournalEntry.debit ++ [amount, 0] := by
  obtain ⟨clearing, revenue, hentries, -⟩ := h
  rw [hentries, List.map_append]
  rfl

/-- A posting books one amount. -/
theorem revenueBooked_iff (h : RevenueBooked reference price l l') :
    RevenueBooked reference amount l l' ↔ price = amount := by
  constructor
  · intro hamount
    obtain ⟨clearing, revenue, hentries, -⟩ := h
    obtain ⟨clearing', revenue', hentries', -⟩ := hamount
    have hlines := List.append_cancel_left (hentries.symm.trans hentries')
    simp only [List.cons.injEq, JournalEntry.mk.injEq] at hlines
    exact hlines.1.2.2.2.1
  · rintro rfl
    exact h

end ledger

namespace SubscriptionService
variable (plan : SubscriptionPlan)

/-- An unedited plan is booked by a verification as charged unless its discount is zero or less. -/
theorem chargedPrice_eq_bookedPrice_iff : chargedPrice plan = bookedPrice plan ↔
    ∀ discount ∈ plan.discountPrice, 0 < discount ∨ discount = plan.price := by
  rw [chargedPrice, bookedPrice]
  cases plan.discountPrice with
  | none => simp
  | some discount =>
    by_cases hpos : 0 < discount
    · simp [Option.filter, hpos]
    · simp [Option.filter, hpos, eq_comm]

/-- It is booked by an onboarding job as charged unless it has a discount. -/
theorem chargedPrice_eq_price_iff : chargedPrice plan = plan.price ↔
    ∀ discount ∈ plan.discountPrice, discount ≤ 0 ∨ discount = plan.price := by
  rw [chargedPrice]
  cases plan.discountPrice with
  | none => simp
  | some discount =>
    by_cases hpos : 0 < discount
    · simp [Option.filter, hpos, not_le.mpr hpos]
    · simp [Option.filter, hpos, not_lt.mp hpos]

end SubscriptionService

/-- The amounts of the intents. -/
def Database.charges (db : Database) : String → Option ℚ :=
  db.paymentIntents.view PaymentIntent.amount

namespace IntentProgram
variable {m : Moment} {db : Database} {intentId : String}

theorem charges_moved (intentId : String) (t : IntentTransition) (now : DateTime) (db : Database) :
    (moved intentId t now db).charges = db.charges :=
  Table.view_update db.paymentIntents intentId (fun n => t.row_intentId now n)
    fun _ => by cases t <;> rfl

theorem charges_openTransaction {f : ProviderResponse → IntentProgram PaymentLink}
    (hf : ∀ response d, ((f response).complete m d).1.paymentIntents = d.paymentIntents) :
    ((openTransaction intentId >>= f).complete m db).1.charges = db.charges := by
  rcases openTransaction_cases intentId m db with
    ⟨n, email, response, -, -, -, hopened⟩ | ⟨err, hkept | ⟨reason, hfailed⟩⟩
  · rw [complete_bind_of_ok hopened, Database.charges, hf, ← Database.charges, charges_moved,
      charges_moved]
  · rw [complete_bind_of_error hkept]
  · rw [complete_bind_of_error hfailed, charges_moved]

/-- A reservation adds one intent at most, of its amount. -/
theorem charges_reserve {params : ReserveIntentParams} {g : Reservation → IntentProgram PaymentLink}
    (hkey : params.clientIdempotencyKey = none)
    (hg : ∀ reservation d, ((g reservation).complete m d).1.charges = d.charges) :
    Grows (fun amount => amount = params.amount) db.charges
      ((reserve params >>= g).complete m db).1.charges := by
  rcases reserve_cases hkey m db with
    ⟨intents, hcreate, -, hreserve⟩ | ⟨existing, -, hreserve⟩ | ⟨err, hreserve⟩
  · rw [complete_bind_of_ok hreserve, hg]
    exact Table.grows_create (g := PaymentIntent.amount) hcreate rfl
  · rw [complete_bind_of_ok hreserve, hg]
    exact .of_eq rfl
  · rw [complete_bind_of_error hreserve]
    exact .of_eq rfl

theorem charges_createPendingSubscriptionAndIntent (companyId : String) (plan : SubscriptionPlan)
    (email : String) : Grows (fun amount => amount = SubscriptionService.chargedPrice plan) db.charges
      ((createPendingSubscriptionAndIntent companyId plan email).complete m db).1.charges := by
  refine charges_reserve rfl fun reservation d => ?_
  have hopen (d : Database) : ((openTransaction reservation.intent.intentId >>= fun response =>
      pure (PaymentLink.ofResponse response)).complete m d).1.charges = d.charges :=
    charges_openTransaction fun response d => rfl
  dsimp only
  split
  · rfl
  · split
    · let d' := SubscriptionService.createPendingSubscription m.uuid companyId plan.planId m.now d
      have hcreated : (createPendingSubscription companyId plan.planId).complete m d =
          (d', .ok ()) := rfl
      rw [complete_bind_of_ok hcreated, hopen, Database.charges,
        SubscriptionService.createPendingSubscription_paymentIntents, ← Database.charges]
    · exact hopen d

end IntentProgram

namespace PlanEvent

/-- The plan that a call reserves an intent for. -/
def plan? (db : Database) : PlanEvent → Option SubscriptionPlan
  | request r _ => r.plan? db
  | _ => none

/-- What a payment that goes through books is the amount of its intent. -/
def BooksCharged (db : Database) (e : PlanEvent) : Prop :=
  match e with
  | verifySubscription reference m =>
      ∀ q ∈ SubscriptionService.verified? m.verifyTransaction reference db,
        RevenueBooked reference q.1.amount db.ledger (e.apply db).ledger
  | onboardingJob job ids m =>
      ∀ q ∈ OnboardingWorker.onboarded? m.verifyTransaction job ids db,
        RevenueBooked job.reference q.1.amount db.ledger (e.apply db).ledger
  | _ => True

end PlanEvent

/-- The plan of each intent that a call of the run has reserved, as it was then. -/
structure ChargeHistory where
  db : Database
  reserved : String → Option SubscriptionPlan := fun _ => none

namespace ChargeHistory

def step (s : ChargeHistory) (e : PlanEvent) : ChargeHistory where
  db := e.apply s.db
  reserved := fun intentId =>
    if (s.db.charges intentId).isSome then s.reserved intentId else e.plan? s.db

/-- The charged price of the plan as it was reserved; of an intent from before the run, its
amount. -/
def charged (s : ChargeHistory) (n : PaymentIntent) : ℚ :=
  ((s.reserved n.intentId).map SubscriptionService.chargedPrice).getD n.amount

/-- The price that is booked for the plan as it stands is what was charged for it. -/
def ChargesBooked (s : ChargeHistory) : PlanEvent → Prop
  | .verifySubscription reference m =>
      ∀ q ∈ SubscriptionService.verified? m.verifyTransaction reference s.db,
        SubscriptionService.bookedPrice q.2 = s.charged q.1
  | .onboardingJob job ids m =>
      ∀ q ∈ OnboardingWorker.onboarded? m.verifyTransaction job ids s.db,
        q.2.price = s.charged q.1
  | _ => True

/-- An intent has the charged price of the plan that it was reserved for. -/
def Charged (s : ChargeHistory) : Prop :=
  ∀ intentId, ∀ amount ∈ s.db.charges intentId, ∀ plan ∈ s.reserved intentId,
    amount = SubscriptionService.chargedPrice plan

end ChargeHistory

namespace PlanEvent
variable {db : Database}

theorem charges_initializeOnboardingPayment {m : Moment} {intentId : String}
    {onboardingIntent : OnboardingIntent} {plan : SubscriptionPlan}
    (hfind : SubscriptionService.findOnboarding intentId db = .ok (onboardingIntent, plan)) :
    Grows (fun amount => amount = SubscriptionService.chargedPrice plan) db.charges
      ((IntentProgram.initializeOnboardingPayment intentId).complete m db).1.charges := by
  open IntentProgram in
  have hread : (select fun _ db => SubscriptionService.findOnboarding intentId db).complete m db =
      (db, .ok (onboardingIntent, plan)) := by
    rw [complete_select, hfind]
  rw [initializeOnboardingPayment, complete_bind_of_ok hread]
  refine charges_reserve rfl fun reservation d => ?_
  split
  · rfl
  · refine charges_openTransaction fun response d => ?_
    obtain ⟨onboardingIntents, r, heq, -⟩ := recordOnboardingReference_complete (m := m) intentId
      response d
    rw [heq]

open IntentProgram SubscriptionService in
/-- The call reads its plan, and reserves at its price. -/
theorem charges_request (r : LinkRequest) (m : Moment) (db : Database) :
    Grows (fun amount => ∃ plan, r.plan? db = some plan ∧ amount = chargedPrice plan) db.charges
      (r.program.complete m db).1.charges := by
  have hread {α : Type} {f : Database → Except AppError α} {x : Except AppError α} (h : f db = x) :
      (select fun _ db => f db).complete m db = (db, x) := by
    rw [complete_select, h]
  have hrefused {err : AppError} (h : r.program.complete m db = (db, .error err)) :
      Grows (fun amount => ∃ plan, r.plan? db = some plan ∧ amount = chargedPrice plan) db.charges
        (r.program.complete m db).1.charges := by
    rw [h]
    exact .of_eq rfl
  have hreserved (plan : SubscriptionPlan) (hplan : r.plan? db = some plan)
      (h : Grows (fun amount => amount = chargedPrice plan) db.charges
        (r.program.complete m db).1.charges) :
      Grows (fun amount => ∃ plan, r.plan? db = some plan ∧ amount = chargedPrice plan) db.charges
        (r.program.complete m db).1.charges :=
    fun k => (h k).imp_right fun hnew => ⟨hnew.1, fun t ht => ⟨plan, hplan, hnew.2 t ht⟩⟩
  cases r with
  | initializeSubscription companyId planId email =>
    cases hplan : findActivePlan planId db with
    | error err => exact hrefused (complete_bind_of_error (hread hplan))
    | ok plan =>
      refine hreserved plan ?_ ?_
      · rw [LinkRequest.plan?, hplan]
        rfl
      · rw [LinkRequest.program, IntentProgram.initializeSubscription,
          complete_bind_of_ok (hread hplan)]
        exact charges_createPendingSubscriptionAndIntent companyId plan email
  | renewSubscription companyId planId =>
    cases howner : findOwner companyId db with
    | error err => exact hrefused (complete_bind_of_error (hread howner))
    | ok owner =>
      cases htarget : targetPlan companyId planId db with
      | error err =>
        exact hrefused ((complete_bind_of_ok (hread howner)).trans
          (complete_bind_of_error (hread htarget)))
      | ok targetPlanId =>
        cases hplan : findActivePlan targetPlanId db with
        | error err =>
          exact hrefused ((complete_bind_of_ok (hread howner)).trans
            ((complete_bind_of_ok (hread htarget)).trans (complete_bind_of_error (hread hplan))))
        | ok plan =>
          refine hreserved plan ?_ ?_
          · rw [LinkRequest.plan?, htarget]
            exact congrArg Except.toOption hplan
          · rw [LinkRequest.program, IntentProgram.renewSubscription,
              complete_bind_of_ok (hread howner), complete_bind_of_ok (hread htarget),
              complete_bind_of_ok (hread hplan)]
            exact charges_createPendingSubscriptionAndIntent companyId plan owner.email
  | initializeOnboardingPayment intentId =>
    cases hfind : findOnboarding intentId db with
    | error err => exact hrefused (complete_bind_of_error (hread hfind))
    | ok onboarding =>
      refine hreserved onboarding.2 ?_ (charges_initializeOnboardingPayment hfind)
      rw [LinkRequest.plan?, hfind]
      rfl

theorem charges_markedSuccess (payment : PaymentIntent) (now : DateTime) (db : Database) :
    (PaymentWorker.markedSuccess payment now db).view PaymentIntent.amount = db.charges :=
  Table.view_updateMany db.paymentIntents _
    (f := fun i => { i with status := .success, updatedAt := now }) (fun _ => rfl) fun _ => rfl

theorem charges_apply (e : PlanEvent) (db : Database) :
    Grows (fun amount => ∃ plan, e.plan? db = some plan ∧
        amount = SubscriptionService.chargedPrice plan) db.charges (e.apply db).charges := by
  cases e with
  | request r m => exact charges_request r m db
  | editPlans plans => exact .of_eq rfl
  | startOnboarding data uuid =>
    refine .of_eq (committed_rule (P := fun db' => db'.charges = db.charges) rfl fun db' h => ?_)
    obtain ⟨onboardingIntents, rfl⟩ := startOnboarding_eq_ok h
    rfl
  | transitionIntent intentId t now =>
    refine .of_eq ?_
    rw [apply, IntentTransition.committed_apply]
    split
    · rfl
    · exact Table.view_updateMany db.paymentIntents _ (fun i => t.row_intentId now i)
        fun _ => by cases t <;> rfl
  | expireStale now =>
    exact .of_eq (Table.view_updateMany db.paymentIntents _
      (f := fun i => { i with status := .expired, recoveryClaimedAt := none, updatedAt := now })
      (fun _ => rfl) fun _ => rfl)
  | verifySubscription reference m =>
    refine .of_eq ?_
    rw [apply]
    rcases SubscriptionService.verifySubscription_cases m.verifyTransaction reference m.now db with
      ⟨intent, plan, s, -, ledger, -, hdb⟩ | ⟨-, hdb⟩
    · rw [hdb]
      exact Table.view_update db.paymentIntents intent.intentId
        (f := fun i => { i with status := .success, updatedAt := m.now }) (fun _ => rfl) fun _ => rfl
    · rw [hdb]
  | onboardingJob job ids m =>
    refine .of_eq ?_
    rw [apply]
    rcases OnboardingWorker.process_cases m.verifyTransaction job ids m.now db with
      ⟨onboarding, payment, plan, -, companies, users, subscriptions, ledger, onboardings, -, -, -,
        hdb⟩ | ⟨-, hdb | ⟨payment, onboardings, hdb⟩⟩
    · rw [hdb]
      exact charges_markedSuccess payment m.now db
    · rw [hdb]
    · rw [hdb]
      exact charges_markedSuccess payment m.now db

end PlanEvent

namespace ChargeHistory
variable {s : ChargeHistory}

theorem Charged.charged_eq (h : s.Charged) {n : PaymentIntent}
    (hn : s.db.paymentIntents.find? n.intentId = some n) : s.charged n = n.amount := by
  rw [charged]
  cases hplan : s.reserved n.intentId with
  | none => rfl
  | some plan =>
    have hamount : s.db.charges n.intentId = some n.amount := by
      rw [Database.charges, Table.view, hn]
      rfl
    exact (h n.intentId n.amount hamount plan hplan).symm

theorem Charged.step (h : s.Charged) (e : PlanEvent) : (s.step e).Charged := by
  intro intentId amount hamount plan hplan
  have hgrows := PlanEvent.charges_apply e s.db
  have hamount : (e.apply s.db).charges intentId = some amount := hamount
  rw [ChargeHistory.step] at hplan
  cases hold : s.db.charges intentId with
  | some found =>
    simp only [hold, Option.isSome_some, if_true] at hplan
    rw [hgrows.kept hold] at hamount
    cases hamount
    exact h intentId amount hold plan hplan
  | none =>
    simp only [hold, Option.isSome_none, Bool.false_eq_true, if_false] at hplan
    rcases hgrows intentId with hsame | ⟨-, hnew⟩
    · rw [hsame, hold] at hamount
      cases hamount
    · obtain ⟨plan', hplan', hprice⟩ := hnew amount hamount
      rw [Option.mem_def, hplan'] at hplan
      cases hplan
      exact hprice

end ChargeHistory

open SubscriptionService OnboardingWorker in
/-- A payment that goes through books the price of its plan. -/
theorem PlanEvent.booksCharged_iff {s : ChargeHistory} (h : s.Charged) (e : PlanEvent) :
    e.BooksCharged s.db ↔ s.ChargesBooked e := by
  cases e with
  | verifySubscription reference m =>
    rw [BooksCharged, ChargeHistory.ChargesBooked, apply]
    rcases verifySubscription_cases m.verifyTransaction reference m.now s.db with
      ⟨intent, plan, pending, hverifies, ledger, hrecord, hdb⟩ | ⟨hnone, -⟩
    · have hbooked : RevenueBooked reference (bookedPrice plan) s.db.ledger ledger :=
        revenueBooked_revenuePosting hrecord
      rw [verified?_eq_some.mpr ⟨pending, hverifies⟩, hdb]
      simp only [Option.mem_def, Option.some.injEq, forall_eq']
      rw [revenueBooked_iff hbooked, h.charged_eq (MarkingCall.checkIntent_find? hverifies.checked)]
    · have hrefused (q : PaymentIntent × SubscriptionPlan) :
          q ∉ verified? m.verifyTransaction reference s.db := by
        intro hq
        obtain ⟨pending, hverifies⟩ := verified?_eq_some.mp hq
        exact hnone q.1 q.2 pending hverifies
      exact iff_of_true (fun q hq => absurd hq (hrefused q)) fun q hq => absurd hq (hrefused q)
  | onboardingJob job ids m =>
    rw [BooksCharged, ChargeHistory.ChargesBooked, apply]
    rcases process_cases m.verifyTransaction job ids m.now s.db with
      ⟨onboarding, payment, plan, honboards, companies, users, subscriptions, ledger, onboardings,
        hrecord, -, -, hdb⟩ | ⟨hnone, -⟩
    · have hbooked : RevenueBooked job.reference plan.price s.db.ledger ledger :=
        revenueBooked_revenuePosting hrecord
      rw [onboarded?_eq_some.mpr ⟨onboarding, honboards⟩, hdb]
      simp only [Option.mem_def, Option.some.injEq, forall_eq']
      rw [revenueBooked_iff hbooked,
        h.charged_eq (MarkingCall.onboardingCheck_find? honboards.checked)]
    · have hrefused (q : PaymentIntent × SubscriptionPlan) :
          q ∉ onboarded? m.verifyTransaction job ids s.db := by
        intro hq
        obtain ⟨onboarding, honboards⟩ := onboarded?_eq_some.mp hq
        exact hnone onboarding q.1 q.2 honboards
      exact iff_of_true (fun q hq => absurd hq (hrefused q)) fun q hq => absurd hq (hrefused q)
  | _ => exact Iff.rfl

/-- In every run of calls, payments and edits of plans, what the payments that go through book is
what was charged, exactly as long as each finds its plan booked at the price that it was
reserved for. -/
theorem booked_as_charged_iff (db : Database) (events : List PlanEvent) :
    Transition.Along ChargeHistory.step (fun s e => e.BooksCharged s.db) { db } events ↔
      Transition.Along ChargeHistory.step ChargeHistory.ChargesBooked { db } events :=
  Transition.along_iff_along (I := ChargeHistory.Charged)
    (fun _ e h => PlanEvent.booksCharged_iff h e) (fun _ e h _ => h.step e)
    fun _ _ _ _ hplan => (by cases hplan)

/-- A plan with a discount of zero, and an onboarding for one with a discount of 20 -/
def discountedPlans : Database where
  companies := ⟨[{ companyId := "co", name := "Subscribed company" }], by decide⟩
  subscriptionPlans :=
    ⟨[{ planId := "trial", name := "Trial", price := 100, discountPrice := some 0 },
      { planId := "launch", name := "Launch", price := 100, discountPrice := some 80 }], by decide⟩
  onboardingIntents :=
    ⟨[{ intentId := "on", email := "owner@new", companyName := "New company", adminName := "Uma"
        planId := "launch" }], by decide⟩

def paidAt (now : DateTime) : Moment where
  now := now
  verifyTransaction := fun _ => .ok { status := "success" }

def trialPaid : List PlanEvent :=
  [.request (.initializeSubscription "co" "trial" "owner@co") (openingMoment "s"),
    .verifySubscription "ref-s" (paidAt 5)]

def launchPaid : List PlanEvent :=
  [.request (.initializeOnboardingPayment "on") (openingMoment "o"),
    .onboardingJob ⟨"on", "ref-o"⟩ ⟨"new", "uma", "first"⟩ (paidAt 5)]

/-- The verification of 100 books nothing, and the job for a payment of 80 books 100. -/
theorem discounts_misbooked :
    ¬ Transition.Along ChargeHistory.step (fun s e => e.BooksCharged s.db)
      { db := discountedPlans } trialPaid ∧
    ¬ Transition.Along ChargeHistory.step (fun s e => e.BooksCharged s.db)
      { db := discountedPlans } launchPaid := by
  constructor
  · intro h
    obtain ⟨-, hbooks, -⟩ := h
    obtain ⟨q, hq, hamount⟩ : ∃ q ∈ SubscriptionService.verified?
        (fun _ => .ok { status := "success" }) "ref-s"
        ((trialPaid.take 1).foldl PlanEvent.apply discountedPlans), q.1.amount = 100 := by
      decide +kernel
    have hdebits := (hbooks q hq).debits
    rw [hamount] at hdebits
    revert hdebits
    decide +kernel
  · intro h
    obtain ⟨-, hbooks, -⟩ := h
    obtain ⟨q, hq, hamount⟩ : ∃ q ∈ OnboardingWorker.onboarded?
        (fun _ => .ok { status := "success" }) ⟨"on", "ref-o"⟩ ⟨"new", "uma", "first"⟩
        ((launchPaid.take 1).foldl PlanEvent.apply discountedPlans), q.1.amount = 80 := by
      decide +kernel
    have hdebits := (hbooks q hq).debits
    rw [hamount] at hdebits
    revert hdebits
    decide +kernel

end InstalFlow
