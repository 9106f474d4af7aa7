import InstalFlow.InstallmentFlows

/-!
# Opening a payment

`initializeInstallmentPayment` executed with nothing in between: it answers a link
exactly when the contract takes payments, the installment is the next one to pay,
its window is open and a customer with an e-mail is linked, as long as no intent
is open for the installment and Paystack answers with a new reference.
-/

namespace InstalFlow
open Relational Transition

namespace IntentProgram
variable {α β : Type} {m : Moment} {db db' : Database}

/-- The program with nothing in between, all at one moment. -/
def complete (p : IntentProgram α) (m : Moment) (db : Database) : Database × Except AppError α :=
  Program.complete IntentWrite.execute m p.run db

theorem complete_pure (a : α) : (pure a : IntentProgram α).complete m db = (db, .ok a) := rfl

theorem complete_select (f : Moment → Database → Except AppError α) :
    (select f).complete m db = (db, f m db) := rfl

theorem complete_send (w : IntentWrite) (f : Moment → Database → Except AppError α) :
    (send w f).complete m db = (w.execute m db, f m db) := rfl

theorem complete_lift (result : Except AppError α) : (lift result).complete m db = (db, result) := rfl

theorem complete_bind_of_ok {p : IntentProgram α} {f : α → IntentProgram β} {a : α} {d : Database}
    (h : p.complete m db = (d, .ok a)) : (p >>= f).complete m db = (f a).complete m d := by
  refine (Program.complete_exceptBind p f m db).trans ?_
  rw [complete] at h
  rw [h]
  rfl

theorem complete_bind_of_error {p : IntentProgram α} {f : α → IntentProgram β} {err : AppError}
    {d : Database} (h : p.complete m db = (d, .error err)) :
    (p >>= f).complete m db = (d, .error err) := by
  refine (Program.complete_exceptBind p f m db).trans ?_
  rw [complete] at h
  rw [h]

theorem complete_bind_eq_ok {p : IntentProgram α} {f : α → IntentProgram β} {b : β}
    (h : (p >>= f).complete m db = (db', .ok b)) : ∃ between a,
      p.complete m db = (between, .ok a) ∧ (f a).complete m between = (db', .ok b) := by
  rw [complete, Program.complete_exceptBind] at h
  rw [complete]
  cases hp : Program.complete IntentWrite.execute m p.run db with
  | mk between r =>
    rw [hp] at h
    cases r with
    | error err => cases h
    | ok a => exact ⟨between, a, rfl, h⟩

theorem complete_discard_of_ok {p : IntentProgram α} {a : α} (h : p.complete m db = (db', .ok a)) :
    (discard p).complete m db = (db', .ok ()) :=
  complete_bind_of_ok h

theorem complete_tryCatch_of_ok {p : IntentProgram α} {f : AppError → IntentProgram α} {a : α}
    (h : p.complete m db = (db', .ok a)) : (tryCatch p f).complete m db = (db', .ok a) := by
  refine (Program.complete_exceptTryCatch p f m db).trans ?_
  rw [complete] at h
  rw [h]

/-- A program that commits no job touches the intents only. -/
theorem Collecting.complete {p : IntentProgram α} (hp : p.Collecting fun _ => False) (m : Moment)
    (db : Database) : ∃ paymentIntents, (p.complete m db).1 = { db with paymentIntents } := by
  refine Program.Sends.complete (A := IntentWrite.Collects fun _ => False)
    (P := fun db' => ∃ paymentIntents, db' = { db with paymentIntents }) ?_ hp
    ⟨db.paymentIntents, rfl⟩
  rintro s w hw ⟨intents, rfl⟩
  obtain ⟨paymentIntents, heq⟩ := execute_paymentIntents m { db with paymentIntents := intents } hw
    fun a ha => by subst ha; exact hw
  exact ⟨paymentIntents, heq⟩

theorem initializeInstallmentPayment_eq_ok {installmentId customerId : String} {link : PaymentLink}
    (h : (initializeInstallmentPayment installmentId customerId).complete m db =
      (db', .ok link)) : ∃ i customer product eligibility,
      InstallmentService.assertMayPay installmentId customerId db = .ok i ∧
      InstallmentService.assertInstallmentIsPayable i.installment m.now db = .ok eligibility ∧
      InstallmentService.assertPayer i = .ok (customer, product) ∧
      isBlank customer.email = false ∧ ∃ paymentIntents, db' = { db with paymentIntents } := by
  have hframe := Collecting.complete
    (Collecting.initializeInstallmentPayment installmentId customerId) m db
  rw [h] at hframe
  obtain ⟨db₁, i, hmay, h⟩ := complete_bind_eq_ok h
  obtain ⟨db₂, _, hpayable, h⟩ := complete_bind_eq_ok h
  obtain ⟨_, eligibility, hpayable, -⟩ := complete_bind_eq_ok hpayable
  obtain ⟨db₃, ⟨customer, product⟩, hpayer, h⟩ := complete_bind_eq_ok h
  obtain ⟨db₄, reservation, hreserve, -⟩ := complete_bind_eq_ok h
  obtain ⟨_, _, hvalid, -⟩ := complete_bind_eq_ok hreserve
  obtain ⟨_, payload, hvalid, -⟩ := complete_bind_eq_ok hvalid
  simp only [complete_select, complete_lift, Prod.mk.injEq] at hmay hpayable hpayer hvalid
  obtain ⟨rfl, hmay⟩ := hmay
  refine ⟨i, customer, product, eligibility, hmay, hpayable.2, hpayer.2, ?_, hframe⟩
  have hvalid := hvalid.2
  rw [PaymentIntentService.assertValidInitializationPayload] at hvalid
  split at hvalid
  · cases hvalid
  · rename_i hblank
    simpa using hblank

/-- The row that `reserve` inserts without a key of the client. -/
def reservedIntent (params : ReserveIntentParams) (m : Moment) : PaymentIntent where
  intentId := m.uuid
  type := params.type
  amount := params.amount
  customerId := params.customerId
  companyId := params.companyId
  installmentId := params.installmentId
  onboardingId := params.onboardingId
  planId := params.planId
  reservationKey := PaymentIntentService.buildReservationKey params
  idempotencyKey := params.clientIdempotencyKey.getD m.uuid
  expiresAt := m.now + PaymentIntentService.intentExpirationMs
  initializationPayload := some params.initializationPayload
  updatedAt := m.now

/-- The uuid is new among the intents. -/
structure FreshUuid (m : Moment) (db : Database) : Prop where
  intentId : ∀ n ∈ db.paymentIntents.rows, n.intentId ≠ m.uuid
  idempotencyKey : ∀ n ∈ db.paymentIntents.rows, n.idempotencyKey ≠ m.uuid

def NoOpenIntent (reservationKey : String) (db : Database) : Prop :=
  ∀ n ∈ db.paymentIntents.rows, n.reservationKey = reservationKey → n.status.active = false

/-- Nothing that is stored keeps the intent out. -/
structure Insertable (intent : PaymentIntent) (db : Database) : Prop where
  intentId : ∀ i ∈ db.paymentIntents.rows, i.intentId ≠ intent.intentId
  idempotencyKey : ∀ i ∈ db.paymentIntents.rows, i.idempotencyKey ≠ intent.idempotencyKey
  reservation : NoOpenIntent intent.reservationKey db

theorem Insertable.createIntent {intent : PaymentIntent} (h : Insertable intent db) :
    ∃ intents, db.paymentIntents.create intent = some intents ∧
      createIntent intent db = .ok { db with paymentIntents := intents } := by
  obtain ⟨intents, hcreate⟩ := Table.create_isSome (t := db.paymentIntents) (r := intent)
    (Table.find?_eq_none_iff.mpr h.intentId)
  have hkey : db.paymentIntents.rows.any (fun i => i.idempotencyKey = intent.idempotencyKey) =
      false := by
    simpa using h.idempotencyKey
  have hactive : db.paymentIntents.rows.any
      (fun i => i.reservationKey = intent.reservationKey ∧ i.status.active) = false := by
    refine List.any_eq_false.mpr fun n hn hactive => ?_
    obtain ⟨hreservation, hactive⟩ := of_decide_eq_true hactive
    rw [h.reservation n hn hreservation] at hactive
    cases hactive
  refine ⟨intents, hcreate, ?_⟩
  rw [InstalFlow.createIntent, hkey, hactive, if_neg Bool.false_ne_true, if_neg Bool.false_ne_true,
    createRow_eq_ok.mpr hcreate]

section reservation
variable {params : ReserveIntentParams}

theorem createIntent_reserved (hkey : params.clientIdempotencyKey = none) (hfresh : FreshUuid m db)
    (hopen : NoOpenIntent (PaymentIntentService.buildReservationKey params) db) :
    ∃ intents, db.paymentIntents.create (reservedIntent params m) = some intents ∧
      createIntent (reservedIntent params m) db = .ok { db with paymentIntents := intents } := by
  refine Insertable.createIntent ⟨hfresh.intentId, ?_, hopen⟩
  rw [reservedIntent, hkey]
  exact hfresh.idempotencyKey

theorem insertOrFind_complete {intents : Table PaymentIntent.intentId}
    (hcreate : createIntent (reservedIntent params m) db = .ok { db with paymentIntents := intents })
    (changed : IntentProgram Reservation) :
    (insertOrFind params changed).complete m db = ({ db with paymentIntents := intents },
      .ok { intent := reservedIntent params m, isExisting := false }) := by
  refine (complete_bind_of_ok (p := moment) (a := m) rfl).trans ?_
  refine (complete_bind_of_ok (a := true) (d := { db with paymentIntents := intents }) ?_).trans rfl
  rw [reservedIntent] at hcreate
  rw [complete_send, IntentWrite.execute, hcreate]
  rfl

variable (params) in
theorem reserve_complete (hkey : params.clientIdempotencyKey = none)
    (hemail : isBlank params.initializationPayload.email = false) (hfresh : FreshUuid m db)
    (hopen : NoOpenIntent (PaymentIntentService.buildReservationKey params) db) :
    ∃ intents, db.paymentIntents.create (reservedIntent params m) = some intents ∧
      (reserve params).complete m db = ({ db with paymentIntents := intents },
        .ok { intent := reservedIntent params m, isExisting := false }) := by
  obtain ⟨intents, hcreate, hinsert⟩ := createIntent_reserved hkey hfresh hopen
  refine ⟨intents, hcreate, ?_⟩
  have hvalid : (discard (lift (PaymentIntentService.assertValidInitializationPayload
      (some params.initializationPayload) "PaymentIntentService.reserve"))).complete m db =
      (db, .ok ()) := by
    refine complete_discard_of_ok (a := params.initializationPayload) ?_
    rw [complete_lift, PaymentIntentService.assertValidInitializationPayload, hemail]
    rfl
  refine (complete_bind_of_ok hvalid).trans ?_
  rw [reserveAttempt, hkey, Option.filter_none]
  exact (complete_bind_of_ok (complete_pure none)).trans (insertOrFind_complete hinsert _)

end reservation

section transaction
variable {intentId : String} {n : PaymentIntent}

/-- The intents after a transition. -/
def moved (intentId : String) (t : IntentTransition) (now : DateTime) (db : Database) : Database :=
  { db with
    paymentIntents := db.paymentIntents.update intentId (fun i => t.row now i)
      (fun i => t.row_intentId now i) }

theorem find?_moved (t : IntentTransition) (now : DateTime)
    (hfind : db.paymentIntents.find? intentId = some n) :
    (moved intentId t now db).paymentIntents.find? intentId = some (t.row now n) := by
  refine (Table.find?_update _ _ _ (fun i => t.row now i) fun i => t.row_intentId now i).trans ?_
  rw [if_pos rfl, hfind, Option.map_some]

theorem apply_eq_moved {t : IntentTransition} (now : DateTime)
    (hfind : db.paymentIntents.find? intentId = some n) (hstatus : n.status.terminal = false)
    (hrefused : t.refused intentId db = false) :
    t.apply intentId now db = .ok (moved intentId t now db) := by
  cases t with
  | initialized response =>
    simp only [IntentTransition.refused] at hrefused
    simp only [IntentTransition.apply, PaymentIntentService.markInitialized,
      PaymentIntentService.transitionStatus, hfind, hstatus, hrefused]
    rfl
  | _ =>
    simp only [IntentTransition.apply, PaymentIntentService.markPending,
      PaymentIntentService.markProcessing, PaymentIntentService.markSuccess,
      PaymentIntentService.markFailed, PaymentIntentService.markExpired,
      PaymentIntentService.cancel, PaymentIntentService.transitionStatus, hfind, hstatus]
    rfl

/-- An intent that is not terminal is moved. -/
theorem transitionStatus_complete {t : IntentTransition}
    (hfind : db.paymentIntents.find? intentId = some n) (hstatus : n.status.terminal = false)
    (hrefused : t.refused intentId db = false) :
    (transitionStatus intentId t).complete m db =
      (moved intentId t m.now db, .ok (t.row m.now n)) := by
  have happly := apply_eq_moved m.now hfind hstatus hrefused
  have hread : (findIntent intentId).complete m (moved intentId t m.now db) =
      (moved intentId t m.now db, .ok (some (t.row m.now n))) := by
    rw [findIntent, complete_select, find?_moved t m.now hfind]
  refine (complete_bind_of_ok (a := true) (d := moved intentId t m.now db) ?_).trans
    (complete_bind_of_ok hread)
  rw [complete_send, IntentWrite.execute, happly]
  rfl

/-- `initializePaystack` and `markPending` on a new intent, when Paystack answers
with a reference that no intent has. -/
theorem openTransaction_complete {payload : PaymentInitializationPayload}
    {response : ProviderResponse} (hfind : db.paymentIntents.find? intentId = some n)
    (hstatus : n.status.terminal = false) (hpayload : n.initializationPayload = some payload)
    (hemail : isBlank payload.email = false)
    (hprovider : m.initializeTransaction payload.email (n.amount * 100) = .ok response)
    (hreference : ∀ i ∈ db.paymentIntents.rows, i.reference ≠ some response.reference) :
    (openTransaction intentId).complete m db =
      (moved intentId .pending m.now (moved intentId (.initialized response) m.now db),
        .ok response) := by
  have hrefused : (IntentTransition.initialized response).refused intentId db = false := by
    rw [IntentTransition.refused, PaymentIntentService.referenceTaken]
    refine List.any_eq_false.mpr fun i hi htaken => ?_
    exact hreference i hi (of_decide_eq_true htaken).1
  have hread : (findIntent intentId).complete m db = (db, .ok (some n)) := by
    rw [findIntent, complete_select, hfind]
  have hlift : (lift (PaymentIntentService.assertValidInitializationPayload n.initializationPayload
      s!"PaymentIntentService.initializePaystack:{intentId}")).complete m db = (db, .ok payload) := by
    rw [complete_lift, hpayload, PaymentIntentService.assertValidInitializationPayload, hemail]
    rfl
  have hinitialized := complete_discard_of_ok
    (transitionStatus_complete (m := m) (t := .initialized response) hfind hstatus hrefused)
  have hpending := complete_discard_of_ok (transitionStatus_complete (m := m) (t := .pending)
    (find?_moved (.initialized response) m.now hfind) rfl rfl)
  have hpaystack : (initializePaystack intentId true).complete m db =
      (moved intentId (.initialized response) m.now db, .ok response) := by
    refine (complete_bind_of_ok hread).trans ?_
    refine (complete_bind_of_ok hlift).trans (complete_tryCatch_of_ok ?_)
    refine (complete_bind_of_ok (a := response) (d := db) ?_).trans
      ((complete_bind_of_ok hinitialized).trans rfl)
    rw [complete_select, hprovider]
  exact (complete_bind_of_ok hpaystack).trans ((complete_bind_of_ok hpending).trans rfl)

end transaction

/-- The `reservationKey` of the intents of an installment -/
def installmentKey (installmentId : String) : String := "INSTALLMENT:" ++ installmentId

theorem moved_rows {intentId : String} {t : IntentTransition} {now : DateTime} {key : String}
    {rows : List PaymentIntent} (hfresh : ∀ n ∈ rows, n.intentId ≠ intentId)
    (hrows : ∀ n ∈ db.paymentIntents.rows, n ∈ rows ∨ n.reservationKey = key) :
    ∀ n ∈ (moved intentId t now db).paymentIntents.rows, n ∈ rows ∨ n.reservationKey = key := by
  intro n hn
  have hn : n ∈ (db.paymentIntents.update intentId (fun i => t.row now i)
    fun i => t.row_intentId now i).rows := hn
  rcases Table.mem_update_iff.mp hn with ⟨hn, -⟩ | ⟨s, hs, hid, rfl⟩
  · exact hrows n hn
  · refine .inr ?_
    have hkey : (t.row now s).reservationKey = s.reservationKey := by cases t <;> rfl
    rw [hkey]
    exact (hrows s hs).resolve_left fun hmem => hfresh s hmem hid

/-- The link that is answered, and the one intent that stands for it. -/
theorem initializeInstallmentPayment_accepts {installmentId customerId : String}
    {i : InstallmentForPayment} {customer : User} {product : Product}
    {eligibility : InstallmentEligibility} {response : ProviderResponse}
    (hmay : InstallmentService.assertMayPay installmentId customerId db = .ok i)
    (hpayable : InstallmentService.assertInstallmentIsPayable i.installment m.now db =
      .ok eligibility)
    (hpayer : InstallmentService.assertPayer i = .ok (customer, product))
    (hemail : isBlank customer.email = false) (hfresh : FreshUuid m db)
    (hopen : NoOpenIntent (installmentKey i.installment.installmentId) db)
    (hprovider : m.initializeTransaction customer.email (i.installment.amount * 100) = .ok response)
    (hreference : ∀ n ∈ db.paymentIntents.rows, n.reference ≠ some response.reference) :
    ∃ link intents, (initializeInstallmentPayment installmentId customerId).complete m db =
        ({ db with paymentIntents := intents }, .ok link) ∧
      link.reference = response.reference ∧
      (∃ n ∈ intents.rows, n.reference = some response.reference) ∧
      ∀ n ∈ intents.rows, n ∈ db.paymentIntents.rows ∨
        n.reservationKey = installmentKey i.installment.installmentId := by
  let params : ReserveIntentParams :=
    { type := .installment, amount := i.installment.amount, customerId := customer.userId
      installmentId := i.installment.installmentId, planId := product.productId
      initializationPayload := { email := customer.email } }
  obtain ⟨intents, hcreate, hreserve⟩ := reserve_complete params rfl hemail hfresh hopen
  have hrows := (Table.create_eq_some hcreate).2
  have hfind : intents.find? m.uuid = some (reservedIntent params m) :=
    (Table.find?_create hcreate m.uuid).trans (if_pos rfl)
  have hopened : (openTransaction m.uuid).complete m { db with paymentIntents := intents } =
      (moved m.uuid .pending m.now
        (moved m.uuid (.initialized response) m.now { db with paymentIntents := intents }),
        .ok response) := by
    refine openTransaction_complete (n := reservedIntent params m) hfind rfl rfl hemail hprovider ?_
    intro n hn
    have hn : n ∈ intents.rows := hn
    rw [hrows, List.mem_append, List.mem_singleton] at hn
    rcases hn with hn | rfl
    · exact hreference n hn
    · simp [reservedIntent]
  have hread : (select fun _ db => InstallmentService.assertMayPay installmentId customerId
      db).complete m db = (db, .ok i) := by
    rw [complete_select, hmay]
  have hassert : (discard (select fun m db =>
      InstallmentService.assertInstallmentIsPayable i.installment m.now db)).complete m db =
      (db, .ok ()) :=
    complete_discard_of_ok (a := eligibility) (by rw [complete_select, hpayable])
  have hlift : (lift (InstallmentService.assertPayer i)).complete m db =
      (db, .ok (customer, product)) := by
    rw [complete_lift, hpayer]
  let pending := moved m.uuid .pending m.now
    (moved m.uuid (.initialized response) m.now { db with paymentIntents := intents })
  refine ⟨_, pending.paymentIntents, (complete_bind_of_ok hread).trans
    ((complete_bind_of_ok hassert).trans ((complete_bind_of_ok hlift).trans
      ((complete_bind_of_ok hreserve).trans ((complete_bind_of_ok hopened).trans rfl)))), rfl, ?_, ?_⟩
  · have hfound : pending.paymentIntents.find? m.uuid = _ :=
      find?_moved .pending m.now (find?_moved (.initialized response) m.now hfind)
    exact ⟨_, Table.mem_of_find? hfound, rfl⟩
  · refine moved_rows hfresh.intentId (moved_rows hfresh.intentId fun n hn => ?_)
    have hn : n ∈ intents.rows := hn
    rw [hrows, List.mem_append, List.mem_singleton] at hn
    rcases hn with hn | rfl
    · exact .inl hn
    · exact .inr rfl

end IntentProgram
end InstalFlow
