import InstalFlow.SubscriptionCalls
import InstalFlow.Transition.Run

/-!
# What a payment link is for

A call for a subscription or an onboarding answers a payment link. The link is
that of a new intent, for the plan of the call at its price, as long as no intent is
open for the company or the onboarding; an open one is handed out again as it is,
whatever plan the call names.
-/

namespace InstalFlow
open Relational Transition

/-- The calls that answer a payment link. -/
inductive LinkRequest
  | initializeSubscription (companyId planId email : String)
  | renewSubscription (companyId : String) (planId : Option String)
  | initializeOnboardingPayment (intentId : String)

namespace LinkRequest

def program : LinkRequest → IntentProgram PaymentLink
  | initializeSubscription companyId planId email =>
      IntentProgram.initializeSubscription companyId planId email
  | renewSubscription companyId planId => IntentProgram.renewSubscription companyId planId
  | initializeOnboardingPayment intentId => IntentProgram.initializeOnboardingPayment intentId

def reservationKey : LinkRequest → String
  | initializeSubscription companyId _ _ | renewSubscription companyId _ =>
      "SUBSCRIPTION:" ++ companyId
  | initializeOnboardingPayment intentId => "ONBOARDING:" ++ intentId

/-- The plan that the call is for. -/
def plan? (db : Database) : LinkRequest → Option SubscriptionPlan
  | initializeSubscription _ planId _ => (SubscriptionService.findActivePlan planId db).toOption
  | renewSubscription companyId planId =>
      (SubscriptionService.targetPlan companyId planId db).toOption.bind fun planId =>
        (SubscriptionService.findActivePlan planId db).toOption
  | initializeOnboardingPayment intentId =>
      (SubscriptionService.findOnboarding intentId db).toOption.map Prod.snd

end LinkRequest

/-- The link and the reference that Paystack has given are there. -/
def PaymentIntent.HoldsLink (n : PaymentIntent) : Prop :=
  ∃ authorizationUrl reference, n.authorizationUrl = some authorizationUrl ∧
    n.reference = some reference ∧ authorizationUrl ≠ "" ∧ reference ≠ ""

/-- An intent whose link is handed out again has one. -/
def Database.HoldsLinks (db : Database) : Prop :=
  ∀ n ∈ db.paymentIntents.rows, n.status.hasLink = true → n.HoldsLink

/-- Paystack answers an initialization with a link and a reference. -/
def Moment.Answers (m : Moment) : Prop :=
  ∀ email amount response, m.initializeTransaction email amount = .ok response →
    response.authorizationUrl ≠ "" ∧ response.reference ≠ ""

/-- The link is that of the intent. -/
structure PaymentLink.Of (link : PaymentLink) (n : PaymentIntent) : Prop where
  reference : n.reference = some link.reference
  authorizationUrl : n.authorizationUrl = some link.authorizationUrl
  hasReference : link.reference ≠ ""
  hasAuthorizationUrl : link.authorizationUrl ≠ ""

theorem PaymentIntent.HoldsLink.of {n : PaymentIntent} (h : n.HoldsLink) :
    (PaymentLink.ofIntent n).Of n := by
  obtain ⟨authorizationUrl, reference, hurl, href, hurl_ne, href_ne⟩ := h
  refine ⟨?_, ?_, ?_, ?_⟩ <;> simp [PaymentLink.ofIntent, hurl, href, hurl_ne, href_ne]

/-- The two are the same reservation: what its link is for has not changed. -/
structure PaymentIntent.SameTerms (n existing : PaymentIntent) : Prop where
  intentId : n.intentId = existing.intentId
  reservationKey : n.reservationKey = existing.reservationKey
  planId : n.planId = existing.planId
  amount : n.amount = existing.amount

theorem PaymentIntent.SameTerms.refl (n : PaymentIntent) : n.SameTerms n := ⟨rfl, rfl, rfl, rfl⟩

theorem PaymentIntent.SameTerms.row {n existing : PaymentIntent} (h : n.SameTerms existing)
    (t : IntentTransition) (now : DateTime) : (t.row now n).SameTerms existing := by
  obtain ⟨hid, hkey, hplan, hamount⟩ := h
  cases t <;> exact ⟨hid, hkey, hplan, hamount⟩

section moved
variable {intentId : String} {t : IntentTransition} {now : DateTime} {db : Database}

/-- The transition of one intent keeps the links when it keeps that of this intent. -/
theorem Database.HoldsLinks.moved (hdb : db.HoldsLinks) (h : ∀ n ∈ db.paymentIntents.rows,
    n.intentId = intentId → (t.row now n).status.hasLink = true → (t.row now n).HoldsLink) :
    (IntentProgram.moved intentId t now db).HoldsLinks := by
  intro n hn
  have hn : n ∈ (db.paymentIntents.update intentId (fun i => t.row now i)
    fun i => t.row_intentId now i).rows := hn
  rcases Table.mem_update_iff.mp hn with ⟨hn, -⟩ | ⟨s, hs, hid, rfl⟩
  · exact hdb n hn
  · exact h s hs hid

/-- Intents that come to an end take no link with them. -/
theorem Database.HoldsLinks.updateMany {p : PaymentIntent → Bool} {f : PaymentIntent → PaymentIntent}
    {hf : ∀ n, (f n).intentId = n.intentId} (hdb : db.HoldsLinks)
    (h : ∀ n, (f n).status.hasLink = false) :
    Database.HoldsLinks { db with paymentIntents := db.paymentIntents.updateMany p f hf } := by
  intro n hn
  have hn : n ∈ (db.paymentIntents.updateMany p f hf).rows := hn
  rcases Table.mem_updateMany.mp hn with ⟨hn, -⟩ | ⟨s, -, -, rfl⟩
  · exact hdb n hn
  · intro hlink
    rw [h s] at hlink
    cases hlink

theorem Database.HoldsLinks.moved_closed (hdb : db.HoldsLinks) (ht : t.target.hasLink = false) :
    (IntentProgram.moved intentId t now db).HoldsLinks :=
  hdb.updateMany fun n => by rw [IntentTransition.row_status, ht]

/-- An intent that Paystack has answered for has its link. -/
theorem Database.HoldsLinks.opened {response : ProviderResponse} (hdb : db.HoldsLinks)
    (hurl : response.authorizationUrl ≠ "") (href : response.reference ≠ "") :
    (IntentProgram.moved intentId .pending now
      (IntentProgram.moved intentId (.initialized response) now db)).HoldsLinks := by
  refine Database.HoldsLinks.moved (hdb.moved fun n _ _ _ => ?_) fun n hn hid _ => ?_
  · exact ⟨response.authorizationUrl, response.reference, rfl, rfl, hurl, href⟩
  · have hn : n ∈ (db.paymentIntents.update intentId
      (fun i => (IntentTransition.initialized response).row now i)
      fun i => (IntentTransition.initialized response).row_intentId now i).rows := hn
    rcases Table.mem_update_iff.mp hn with ⟨-, hother⟩ | ⟨s, -, -, rfl⟩
    · exact absurd hid hother
    · exact ⟨response.authorizationUrl, response.reference, rfl, rfl, hurl, href⟩

end moved

namespace IntentProgram
variable {m : Moment} {db : Database} {n : PaymentIntent}

/-- The program answers the link of the intent, or none, and links are kept. -/
structure HandsOut (n : PaymentIntent) (p : IntentProgram PaymentLink) (m : Moment)
    (db : Database) : Prop where
  linked : (p.complete m db).1.HoldsLinks
  answer : ∀ link, (p.complete m db).2 = .ok link →
    ∃ n' ∈ (p.complete m db).1.paymentIntents.rows, link.Of n' ∧ n'.SameTerms n

theorem HandsOut.of_complete_eq {p q : IntentProgram PaymentLink} {d : Database}
    (hq : HandsOut n q m d) (h : p.complete m db = q.complete m d) : HandsOut n p m db := by
  obtain ⟨hlinked, hanswer⟩ := hq
  rw [← h] at hlinked hanswer
  exact ⟨hlinked, hanswer⟩

/-- An open transaction ends with the link of its intent, or with none. -/
theorem HandsOut.of_openTransaction {intentId : String}
    {f : ProviderResponse → IntentProgram PaymentLink}
    (hintents : ∀ response d, ((f response).complete m d).1.paymentIntents = d.paymentIntents)
    (hanswer : ∀ response d link, ((f response).complete m d).2 = .ok link →
      link = PaymentLink.ofResponse response)
    (hfind : db.paymentIntents.find? intentId = some n) (hdb : db.HoldsLinks) (hm : m.Answers) :
    HandsOut n (openTransaction intentId >>= f) m db := by
  rcases openTransaction_cases intentId m db with
    ⟨n', email, response, hfind', -, hprovider, hopened⟩ | ⟨err, hkept | ⟨reason, hfailed⟩⟩
  · rw [hfind] at hfind'
    cases hfind'
    obtain ⟨hurl, href⟩ := hm _ _ _ hprovider
    have hbind := complete_bind_of_ok (f := f) hopened
    refine ⟨?_, fun link hlink => ?_⟩
    · rw [hbind, Database.HoldsLinks, hintents]
      exact hdb.opened hurl href
    · rw [hbind] at hlink
      rw [hbind, hintents, hanswer response _ link hlink]
      have hfound := find?_moved .pending m.now (find?_moved (.initialized response) m.now hfind)
      refine ⟨_, Table.mem_of_find? hfound, ⟨rfl, rfl, href, hurl⟩, ?_⟩
      exact ((PaymentIntent.SameTerms.refl n).row (.initialized response) m.now).row .pending m.now
  · have hbind := complete_bind_of_error (f := f) hkept
    refine ⟨?_, fun link hlink => ?_⟩
    · rw [hbind]
      exact hdb
    · rw [hbind] at hlink
      cases hlink
  · have hbind := complete_bind_of_error (f := f) hfailed
    refine ⟨?_, fun link hlink => ?_⟩
    · rw [hbind]
      exact hdb.moved_closed rfl
    · rw [hbind] at hlink
      cases hlink

/-- An intent with a link hands it out again. -/
theorem HandsOut.of_existing (hn : n ∈ db.paymentIntents.rows) (hlink : n.status.hasLink = true)
    (hdb : db.HoldsLinks) : HandsOut n (pure (PaymentLink.ofIntent n)) m db := by
  refine ⟨hdb, fun link hanswer => ?_⟩
  cases hanswer
  exact ⟨n, hn, (hdb n hn hlink).of, .refl n⟩

/-- What a call behind its reads answers and leaves. -/
structure ReservesLink (params : ReserveIntentParams) (p : IntentProgram PaymentLink) (m : Moment)
    (db : Database) : Prop where
  linked : (p.complete m db).1.HoldsLinks
  answer : ∀ link, (p.complete m db).2 = .ok link →
    ∃ n ∈ (p.complete m db).1.paymentIntents.rows, link.Of n ∧
      n.reservationKey = PaymentIntentService.buildReservationKey params ∧
      (openIntent (PaymentIntentService.buildReservationKey params) db = none →
        n.SameTerms (reservedIntent params m)) ∧
      ∀ existing, openIntent (PaymentIntentService.buildReservationKey params) db = some existing →
        n.SameTerms existing

theorem ReservesLink.of_complete_eq {params : ReserveIntentParams} {p q : IntentProgram PaymentLink}
    (hq : ReservesLink params q m db) (h : p.complete m db = q.complete m db) :
    ReservesLink params p m db := by
  obtain ⟨hlinked, hanswer⟩ := hq
  rw [← h] at hlinked hanswer
  exact ⟨hlinked, hanswer⟩

/-- The two ways of a reservation: the intent is new, or the open one of its key. -/
theorem ReservesLink.of_reserve {params : ReserveIntentParams}
    {g : Reservation → IntentProgram PaymentLink} (hkey : params.clientIdempotencyKey = none)
    (hdb : db.HoldsLinks)
    (hnew : ∀ intents, Database.HoldsLinks { db with paymentIntents := intents } →
      intents.find? m.uuid = some (reservedIntent params m) →
      HandsOut (reservedIntent params m) (g { intent := reservedIntent params m, isExisting := false })
        m { db with paymentIntents := intents })
    (hexisting : ∀ existing ∈ db.paymentIntents.rows,
      HandsOut existing (g (PaymentIntentService.existingReservation existing)) m db) :
    ReservesLink params (reserve params >>= g) m db := by
  rcases reserve_cases hkey m db with
    ⟨intents, hcreate, hnone, hreserve⟩ | ⟨existing, hopen, hreserve⟩ | ⟨err, hreserve⟩
  · have hbind := complete_bind_of_ok (f := g) hreserve
    have hlinked : Database.HoldsLinks { db with paymentIntents := intents } := by
      intro n hn hlink
      have hn : n ∈ intents.rows := hn
      rw [(Table.create_eq_some hcreate).2, List.mem_append, List.mem_singleton] at hn
      rcases hn with hn | rfl
      · exact hdb n hn hlink
      · cases hlink
    have hfind : intents.find? m.uuid = some (reservedIntent params m) :=
      (Table.find?_create hcreate m.uuid).trans (if_pos rfl)
    obtain ⟨hafter, hanswer⟩ := (hnew intents hlinked hfind).of_complete_eq hbind
    refine ⟨hafter, fun link hlink => ?_⟩
    obtain ⟨n, hn, hof, hterms⟩ := hanswer link hlink
    refine ⟨n, hn, hof, hterms.reservationKey, fun _ => hterms, fun existing hopen => ?_⟩
    rw [hnone] at hopen
    cases hopen
  · obtain ⟨hmem, hkey, -⟩ := openIntent_eq_some hopen
    have hbind := complete_bind_of_ok (f := g) hreserve
    obtain ⟨hafter, hanswer⟩ := (hexisting existing hmem).of_complete_eq hbind
    refine ⟨hafter, fun link hlink => ?_⟩
    obtain ⟨n, hn, hof, hterms⟩ := hanswer link hlink
    refine ⟨n, hn, hof, hterms.reservationKey.trans hkey, fun hnone => ?_, fun other hother => ?_⟩
    · rw [hnone] at hopen
      cases hopen
    · rw [hopen] at hother
      cases hother
      exact hterms
  · have hbind := complete_bind_of_error (f := g) hreserve
    refine ⟨?_, fun link hlink => ?_⟩
    · rw [hbind]
      exact hdb
    · rw [hbind] at hlink
      cases hlink

/-- A response is handed out as it is. -/
theorem HandsOut.of_opening {intentId : String}
    (hfind : db.paymentIntents.find? intentId = some n) (hdb : db.HoldsLinks) (hm : m.Answers) :
    HandsOut n (openTransaction intentId >>= fun response => pure (PaymentLink.ofResponse response))
      m db := by
  refine .of_openTransaction (fun response d => rfl) (fun response d link hlink => ?_) hfind hdb hm
  cases hlink
  rfl

theorem reservesLink_createPendingSubscriptionAndIntent (companyId : String)
    (plan : SubscriptionPlan) (email : String) (hdb : db.HoldsLinks) (hm : m.Answers) :
    ReservesLink
      { type := .subscription, amount := SubscriptionService.chargedPrice plan
        companyId := companyId, planId := plan.planId, initializationPayload := { email } }
      (createPendingSubscriptionAndIntent companyId plan email) m db := by
  refine .of_reserve rfl hdb (fun intents hlinked hfind => ?_) fun existing hexisting => ?_
  · let d := SubscriptionService.createPendingSubscription m.uuid companyId plan.planId m.now
      { db with paymentIntents := intents }
    have hd : d.paymentIntents = intents :=
      SubscriptionService.createPendingSubscription_paymentIntents m.uuid companyId plan.planId
        m.now { db with paymentIntents := intents }
    have hcreated : (createPendingSubscription companyId plan.planId).complete m
        { db with paymentIntents := intents } = (d, .ok ()) := rfl
    refine HandsOut.of_complete_eq (d := d) (HandsOut.of_opening ?_ ?_ hm)
      (complete_bind_of_ok hcreated)
    · rw [hd]
      exact hfind
    · rw [Database.HoldsLinks, hd]
      exact hlinked
  · dsimp only [PaymentIntentService.existingReservation]
    cases hlink : existing.status.hasLink with
    | true => exact .of_existing hexisting hlink hdb
    | false => exact .of_opening (Table.find?_of_mem hexisting) hdb hm

/-- The reference is recorded in another table. -/
theorem recordOnboardingReference_complete (intentId : String) (response : ProviderResponse)
    (d : Database) : ∃ onboardingIntents r,
      (do
        recordOnboardingReference intentId response.reference
        pure (PaymentLink.ofResponse response) : IntentProgram PaymentLink).complete m d =
          ({ d with onboardingIntents }, r) ∧
      ∀ link, r = .ok link → link = PaymentLink.ofResponse response := by
  let onboardingIntents := d.onboardingIntents.update intentId (fun i =>
    { i with paymentReference := some response.reference, status := .paymentInitialized })
    fun _ => rfl
  have hsent : (recordOnboardingReference intentId response.reference).complete m d =
      ({ d with onboardingIntents },
        (updateRow d.onboardingIntents intentId id (fun _ => rfl)).map fun _ => ()) := rfl
  cases hupdate : updateRow d.onboardingIntents intentId id (fun _ => rfl) with
  | error err =>
    rw [hupdate] at hsent
    refine ⟨onboardingIntents, .error err, complete_bind_of_error hsent, fun link hlink => ?_⟩
    cases hlink
  | ok updated =>
    rw [hupdate] at hsent
    refine ⟨onboardingIntents, .ok (PaymentLink.ofResponse response),
      (complete_bind_of_ok hsent).trans rfl, fun link hlink => ?_⟩
    cases hlink
    rfl

theorem reservesLink_initializeOnboardingPayment {intentId : String}
    {onboardingIntent : OnboardingIntent} {plan : SubscriptionPlan}
    (hfind : SubscriptionService.findOnboarding intentId db = .ok (onboardingIntent, plan))
    (hdb : db.HoldsLinks) (hm : m.Answers) :
    ReservesLink
      { type := .onboarding, amount := SubscriptionService.chargedPrice plan
        onboardingId := intentId, planId := onboardingIntent.planId
        initializationPayload := { email := onboardingIntent.email } }
      (initializeOnboardingPayment intentId) m db := by
  have hread : (select fun _ db => SubscriptionService.findOnboarding intentId db).complete m db =
      (db, .ok (onboardingIntent, plan)) := by
    rw [complete_select, hfind]
  have hopening {n : PaymentIntent} {d : Database} {id : String}
      (hfind : d.paymentIntents.find? id = some n) (hd : d.HoldsLinks) :
      HandsOut n (openTransaction id >>= fun response => do
        recordOnboardingReference intentId response.reference
        pure (PaymentLink.ofResponse response)) m d := by
    refine .of_openTransaction (fun response d => ?_) (fun response d link hlink => ?_) hfind hd hm
    · obtain ⟨onboardingIntents, r, heq, -⟩ := recordOnboardingReference_complete (m := m) intentId
        response d
      rw [heq]
    · obtain ⟨onboardingIntents, r, heq, hr⟩ := recordOnboardingReference_complete (m := m) intentId
        response d
      rw [heq] at hlink
      exact hr link hlink
  refine ReservesLink.of_complete_eq ?_ (complete_bind_of_ok hread)
  refine ReservesLink.of_reserve rfl hdb (fun intents hlinked hfind => ?_) fun existing hexisting => ?_
  · exact hopening hfind hlinked
  · dsimp only [PaymentIntentService.existingReservation]
    cases hlink : existing.status.hasLink with
    | true => exact .of_existing hexisting hlink hdb
    | false => exact hopening (Table.find?_of_mem hexisting) hdb

end IntentProgram

theorem findOnboarding_planId {intentId : String} {onboardingIntent : OnboardingIntent}
    {plan : SubscriptionPlan} {db : Database}
    (h : SubscriptionService.findOnboarding intentId db = .ok (onboardingIntent, plan)) :
    plan.planId = onboardingIntent.planId := by
  rw [SubscriptionService.findOnboarding] at h
  split at h
  · cases h
  · split at h
    · cases h
    · rename_i hplan
      cases h
      exact Table.find?_key hplan

namespace LinkRequest
variable {m : Moment} {db : Database}

/-- The answer is a link for the plan of the call, at its price. -/
def AnswersPlan (request : LinkRequest) (m : Moment) (db : Database) : Prop :=
  ∀ link, (request.program.complete m db).2 = .ok link → ∃ plan, request.plan? db = some plan ∧
    ∃ n ∈ (request.program.complete m db).1.paymentIntents.rows, link.Of n ∧
      n.planId = some plan.planId ∧ n.amount = SubscriptionService.chargedPrice plan

/-- The answer is a link for the plan of the call, at its price, when no intent is
open for the company or the onboarding. It is the link of the open one otherwise,
for the plan and the amount that this was reserved with. -/
def AnswersReservation (request : LinkRequest) (m : Moment) (db : Database) : Prop :=
  ∀ link, (request.program.complete m db).2 = .ok link → ∃ plan, request.plan? db = some plan ∧
    ∃ n ∈ (request.program.complete m db).1.paymentIntents.rows, link.Of n ∧
      n.reservationKey = request.reservationKey ∧
      (IntentProgram.openIntent request.reservationKey db = none →
        n.planId = some plan.planId ∧ n.amount = SubscriptionService.chargedPrice plan) ∧
      ∀ existing, IntentProgram.openIntent request.reservationKey db = some existing →
        n.SameTerms existing

/-- The call keeps the links, and its answer is right. -/
structure Correct (request : LinkRequest) (m : Moment) (db : Database) : Prop where
  linked : (request.program.complete m db).1.HoldsLinks
  answer : request.AnswersReservation m db

theorem Correct.of_error {request : LinkRequest} {err : AppError} (hdb : db.HoldsLinks)
    (h : request.program.complete m db = (db, .error err)) : request.Correct m db := by
  refine ⟨?_, fun link hlink => ?_⟩
  · rw [h]
    exact hdb
  · rw [h] at hlink
    cases hlink

theorem Correct.of_reservesLink {request : LinkRequest} {params : ReserveIntentParams}
    {plan : SubscriptionPlan} (hplan : request.plan? db = some plan)
    (hkey : PaymentIntentService.buildReservationKey params = request.reservationKey)
    (hplanId : params.planId = some plan.planId)
    (hamount : params.amount = SubscriptionService.chargedPrice plan)
    (h : IntentProgram.ReservesLink params request.program m db) : request.Correct m db := by
  refine ⟨h.linked, fun link hlink => ⟨plan, hplan, ?_⟩⟩
  obtain ⟨n, hn, hof, hreservation, hnew, hexisting⟩ := h.answer link hlink
  rw [hkey] at hreservation hnew hexisting
  refine ⟨n, hn, hof, hreservation, fun hnone => ?_, hexisting⟩
  obtain ⟨-, -, hterms, hprice⟩ := hnew hnone
  exact ⟨hterms.trans hplanId, hprice.trans hamount⟩

open IntentProgram in
theorem Correct.of_subscription {request : LinkRequest} {companyId email : String}
    {plan : SubscriptionPlan} (hplan : request.plan? db = some plan)
    (hkey : "SUBSCRIPTION:" ++ companyId = request.reservationKey) (hdb : db.HoldsLinks)
    (hm : m.Answers) (h : request.program.complete m db =
      (createPendingSubscriptionAndIntent companyId plan email).complete m db) :
    request.Correct m db := by
  have hreserves := reservesLink_createPendingSubscriptionAndIntent companyId plan email hdb hm
  refine .of_reservesLink hplan ?_ rfl rfl (hreserves.of_complete_eq h)
  exact hkey

open IntentProgram SubscriptionService in
theorem correct (request : LinkRequest) (hdb : db.HoldsLinks) (hm : m.Answers) :
    request.Correct m db := by
  have hread {α : Type} {f : Database → Except AppError α} {r : Except AppError α} (h : f db = r) :
      (select fun _ db => f db).complete m db = (db, r) := by
    rw [complete_select, h]
  cases request with
  | initializeSubscription companyId planId email =>
    cases hplan : findActivePlan planId db with
    | error err => exact .of_error hdb (complete_bind_of_error (hread hplan))
    | ok plan =>
      have hfound : (initializeSubscription companyId planId email).plan? db = some plan := by
        rw [plan?, hplan]
        rfl
      exact .of_subscription hfound rfl hdb hm (complete_bind_of_ok (hread hplan))
  | renewSubscription companyId planId =>
    cases howner : findOwner companyId db with
    | error err => exact .of_error hdb (complete_bind_of_error (hread howner))
    | ok owner =>
      cases htarget : targetPlan companyId planId db with
      | error err =>
        exact .of_error hdb ((complete_bind_of_ok (hread howner)).trans
          (complete_bind_of_error (hread htarget)))
      | ok targetPlanId =>
        cases hplan : findActivePlan targetPlanId db with
        | error err =>
          exact .of_error hdb ((complete_bind_of_ok (hread howner)).trans
            ((complete_bind_of_ok (hread htarget)).trans (complete_bind_of_error (hread hplan))))
        | ok plan =>
          have hfound : (renewSubscription companyId planId).plan? db = some plan := by
            rw [plan?, htarget]
            exact congrArg Except.toOption hplan
          exact .of_subscription hfound rfl hdb hm ((complete_bind_of_ok (hread howner)).trans
            ((complete_bind_of_ok (hread htarget)).trans (complete_bind_of_ok (hread hplan))))
  | initializeOnboardingPayment intentId =>
    cases hfind : findOnboarding intentId db with
    | error err => exact .of_error hdb (complete_bind_of_error (hread hfind))
    | ok onboarding =>
      obtain ⟨onboardingIntent, plan⟩ := onboarding
      have hreserves := reservesLink_initializeOnboardingPayment hfind hdb hm
      have hfound : (initializeOnboardingPayment intentId).plan? db = some plan := by
        rw [plan?, hfind]
        rfl
      exact .of_reservesLink hfound rfl (congrArg some (findOnboarding_planId hfind).symm) rfl
        hreserves

end LinkRequest

/-- The calls, and what happens between them: intents come to an end or are being
verified, and plans, prices, companies and onboardings change. -/
inductive LinkEvent
  | request (request : LinkRequest) (m : Moment)
  | close (intentId : String) (t : IntentTransition) (ht : t.target.hasLink = false) (now : DateTime)
  | expireStale (now : DateTime)
  | elsewhere (f : Database → Database) (hf : ∀ db, (f db).paymentIntents = db.paymentIntents)

namespace LinkEvent

def apply (db : Database) : LinkEvent → Database
  | request r m => (r.program.complete m db).1
  | close intentId t _ now => committed db id (t.apply intentId now db)
  | expireStale now => PaymentIntentService.expireStale now db
  | elsewhere f _ => f db

/-- What Paystack answers is complete. -/
def Answered : LinkEvent → Prop
  | request _ m => m.Answers
  | _ => True

def AnswersPlan (db : Database) : LinkEvent → Prop
  | request r m => r.AnswersPlan m db
  | _ => True

def AnswersReservation (db : Database) : LinkEvent → Prop
  | request r m => r.AnswersReservation m db
  | _ => True

theorem apply_linked {db : Database} (hdb : db.HoldsLinks) {e : LinkEvent} (he : e.Answered) :
    (e.apply db).HoldsLinks := by
  cases e with
  | request r m => exact (r.correct hdb he).linked
  | close intentId t ht now =>
    simp only [apply, IntentTransition.committed_apply]
    split
    · exact hdb
    · exact hdb.updateMany fun n => by rw [IntentTransition.row_status, ht]
  | expireStale now => exact hdb.updateMany fun n => rfl
  | elsewhere f hf =>
    rw [apply, Database.HoldsLinks, hf]
    exact hdb

end LinkEvent

/-- A company that may choose between two plans. -/
def choosingCompany : Database where
  companies := ⟨[{ companyId := "co", name := "Choosing company" }], by decide⟩
  subscriptionPlans := ⟨[{ planId := "basic", name := "Basic", price := 100 },
                         { planId := "premium", name := "Premium", price := 300 }], by decide⟩

/-- Paystack opens every transaction. -/
def openingMoment (uuid : String) : Moment where
  now := 0
  uuid := uuid
  initializeTransaction := fun _ _ =>
    .ok { reference := "ref-" ++ uuid, authorizationUrl := "https://checkout/" ++ uuid }

/-- A call for one plan, and one for the other. -/
def basicThenPremium : List LinkEvent :=
  [.request (.initializeSubscription "co" "basic" "owner@co") (openingMoment "first"),
    .request (.initializeSubscription "co" "premium" "owner@co") (openingMoment "second")]

theorem openingMoment_answers (uuid : String) : (openingMoment uuid).Answers := by
  intro email amount response h
  cases h
  exact ⟨by simp, by simp⟩

theorem choosingCompany_linked : choosingCompany.HoldsLinks := by
  intro n hn
  cases hn

theorem basicThenPremium_answered : ∀ e ∈ basicThenPremium, e.Answered := by
  intro e he
  rcases List.mem_pair.mp he with rfl | rfl
  · exact openingMoment_answers "first"
  · exact openingMoment_answers "second"

end InstalFlow
