import InstalFlow.PaymentOpening
import InstalFlow.SubscriptionPrograms

/-!
# Calls for a subscription, one after another

What a reservation and the opening of its transaction come to when nothing runs
in between: the reservation is new, or the open intent of its key, or fails; the
transaction is opened, or its intent has failed, or nothing has happened.
-/

namespace InstalFlow
open Relational Transition

namespace IntentProgram
variable {α β : Type} {m : Moment} {db db' : Database}

theorem complete_tryCatch_of_error {p : IntentProgram α} {f : AppError → IntentProgram α}
    {err : AppError} {d : Database} (h : p.complete m db = (d, .error err)) :
    (tryCatch p f).complete m db = (f err).complete m d := by
  refine (Program.complete_exceptTryCatch p f m db).trans ?_
  rw [complete] at h
  rw [h]
  rfl

section reservation
variable {params : ReserveIntentParams}

/-- The open intent under the key. -/
def openIntent (reservationKey : String) (db : Database) : Option PaymentIntent :=
  db.paymentIntents.rows.find? (fun i => i.reservationKey = reservationKey ∧ i.status.active)

theorem openIntent_eq_some {key : String} {n : PaymentIntent} (h : openIntent key db = some n) :
    n ∈ db.paymentIntents.rows ∧ n.reservationKey = key ∧ n.status.active = true := by
  have hmatch := List.find?_some h
  simp only [decide_eq_true_eq] at hmatch
  exact ⟨List.mem_of_find?_eq_some h, hmatch⟩

theorem createIntent_cases (intent : PaymentIntent) (db : Database) :
    (∃ intents, db.paymentIntents.create intent = some intents ∧
      openIntent intent.reservationKey db = none ∧
      createIntent intent db = .ok { db with paymentIntents := intents }) ∨
    (∃ existing, openIntent intent.reservationKey db = some existing ∧
      createIntent intent db = .error (.uniqueViolation ["reservation_key"])) ∨
    createIntent intent db = .error (.uniqueViolation ["idempotencyKey"]) ∨
    createIntent intent db = .error (.uniqueViolation ["intentId"]) := by
  rw [createIntent]
  split
  · exact .inr (.inr (.inl rfl))
  · split
    · rename_i hactive
      obtain ⟨n, hn, hopen⟩ := List.any_eq_true.mp hactive
      cases hfind : openIntent intent.reservationKey db with
      | none => exact absurd hopen (List.find?_eq_none.mp hfind n hn)
      | some existing => exact .inr (.inl ⟨existing, rfl, rfl⟩)
    · rename_i hactive
      have hnone : openIntent intent.reservationKey db = none := by
        refine List.find?_eq_none.mpr fun n hn hopen => hactive ?_
        exact List.any_eq_true.mpr ⟨n, hn, hopen⟩
      rw [createRow]
      cases hcreate : db.paymentIntents.create intent with
      | none => exact .inr (.inr (.inr rfl))
      | some intents => exact .inl ⟨intents, rfl, hnone, rfl⟩

theorem insertOrFind_cases (params : ReserveIntentParams) (changed : IntentProgram Reservation)
    (m : Moment) (db : Database) :
    (∃ intents, db.paymentIntents.create (reservedIntent params m) = some intents ∧
      openIntent (PaymentIntentService.buildReservationKey params) db = none ∧
      (insertOrFind params changed).complete m db = ({ db with paymentIntents := intents },
        .ok { intent := reservedIntent params m, isExisting := false })) ∨
    (∃ existing, openIntent (PaymentIntentService.buildReservationKey params) db = some existing ∧
      (insertOrFind params changed).complete m db =
        (db, .ok (PaymentIntentService.existingReservation existing))) ∨
    ∃ err, (insertOrFind params changed).complete m db = (db, .error err) := by
  have hmoment {f : Moment → IntentProgram Reservation} :
      (moment >>= f).complete m db = (f m).complete m db := complete_bind_of_ok rfl
  rcases createIntent_cases (reservedIntent params m) db with
    ⟨intents, hcreate, hnone, hcreated⟩ | ⟨existing, hopen, hrefused⟩ | hrefused | hrefused
  · exact .inl ⟨intents, hcreate, hnone, insertOrFind_complete hcreated changed⟩
  · refine .inr (.inl ⟨existing, hopen, hmoment.trans ?_⟩)
    rw [reservedIntent] at hrefused
    refine (complete_bind_of_ok (a := false) (d := db) ?_).trans
      ((complete_bind_of_ok (a := some existing) (d := db) ?_).trans rfl)
    · rw [complete_send, IntentWrite.execute, hrefused]
      rfl
    · rw [complete_select]
      exact congrArg (fun r => (db, Except.ok r)) hopen
  · refine .inr (.inr ⟨.uniqueViolation ["idempotencyKey"], hmoment.trans ?_⟩)
    rw [reservedIntent] at hrefused
    refine complete_bind_of_error ?_
    rw [complete_send, IntentWrite.execute, hrefused]
    rfl
  · refine .inr (.inr ⟨.uniqueViolation ["intentId"], hmoment.trans ?_⟩)
    rw [reservedIntent] at hrefused
    refine complete_bind_of_error ?_
    rw [complete_send, IntentWrite.execute, hrefused]
    rfl

/-- What a reservation without a key of the client comes to. -/
theorem reserve_cases (hkey : params.clientIdempotencyKey = none) (m : Moment) (db : Database) :
    (∃ intents, db.paymentIntents.create (reservedIntent params m) = some intents ∧
      openIntent (PaymentIntentService.buildReservationKey params) db = none ∧
      (reserve params).complete m db = ({ db with paymentIntents := intents },
        .ok { intent := reservedIntent params m, isExisting := false })) ∨
    (∃ existing, openIntent (PaymentIntentService.buildReservationKey params) db = some existing ∧
      (reserve params).complete m db =
        (db, .ok (PaymentIntentService.existingReservation existing))) ∨
    ∃ err, (reserve params).complete m db = (db, .error err) := by
  cases hvalid : PaymentIntentService.assertValidInitializationPayload
      (some params.initializationPayload) "PaymentIntentService.reserve" with
  | error err =>
    refine .inr (.inr ⟨err, complete_bind_of_error (complete_bind_of_error ?_)⟩)
    rw [complete_lift, hvalid]
  | ok payload =>
    have hlift : (discard (lift (PaymentIntentService.assertValidInitializationPayload
        (some params.initializationPayload) "PaymentIntentService.reserve"))).complete m db =
        (db, .ok ()) :=
      complete_discard_of_ok (a := payload) (by rw [complete_lift, hvalid])
    have hattempt {changed : IntentProgram Reservation} :
        (reserveAttempt params changed).complete m db =
          (insertOrFind params changed).complete m db := by
      rw [reserveAttempt, hkey, Option.filter_none]
      exact complete_bind_of_ok (complete_pure none)
    have hreserve : (reserve params).complete m db = (insertOrFind params _).complete m db :=
      (complete_bind_of_ok hlift).trans hattempt
    rw [hreserve]
    exact insertOrFind_cases params _ m db

end reservation

section transaction
variable {intentId : String}

/-- A transition of an intent that is missing or terminal is refused. -/
theorem apply_eq_error {t : IntentTransition} (now : DateTime)
    (h : ∀ n, db.paymentIntents.find? intentId = some n → n.status.terminal = true) :
    ∃ err, t.apply intentId now db = .error err ∧ ∀ target, err ≠ .uniqueViolation target := by
  have hstatus (toStatus : PaymentInitStatus) (extraData : PaymentIntent → PaymentIntent)
      (hextra : ∀ i, (extraData i).intentId = i.intentId) :
      ∃ err, PaymentIntentService.transitionStatus intentId toStatus extraData hextra now db =
        .error err ∧ ∀ target, err ≠ .uniqueViolation target := by
    rw [PaymentIntentService.transitionStatus]
    cases hfind : db.paymentIntents.find? intentId with
    | none => exact ⟨_, rfl, fun target heq => by cases heq⟩
    | some n =>
      simp only [h n hfind, if_true]
      exact ⟨_, rfl, fun target heq => by cases heq⟩
  cases t with
  | initialized response =>
    simp only [IntentTransition.apply, PaymentIntentService.markInitialized]
    obtain ⟨err, herr, hother⟩ := hstatus .initialized (fun i =>
      { i with
        reference := some response.reference
        authorizationUrl := some response.authorizationUrl
        recoveryClaimedAt := none }) fun _ => rfl
    exact ⟨err, by rw [herr], hother⟩
  | _ => exact hstatus _ _ _

theorem transitionStatus_cases (intentId : String) (t : IntentTransition) (m : Moment)
    (db : Database) :
    (∃ n, db.paymentIntents.find? intentId = some n ∧ n.status.terminal = false ∧
      t.refused intentId db = false ∧
      (transitionStatus intentId t).complete m db = (moved intentId t m.now db, .ok (t.row m.now n))) ∨
    ∃ err, (transitionStatus intentId t).complete m db = (db, .error err) := by
  by_cases hopen : ∃ n, db.paymentIntents.find? intentId = some n ∧ n.status.terminal = false
  · obtain ⟨n, hfind, hstatus⟩ := hopen
    cases hrefused : t.refused intentId db with
    | false => exact .inl ⟨n, hfind, hstatus, rfl, transitionStatus_complete hfind hstatus hrefused⟩
    | true =>
      cases t with
      | initialized response =>
        refine .inr ⟨.uniqueViolation ["reference"], complete_bind_of_error ?_⟩
        rw [IntentTransition.refused] at hrefused
        have happly : (IntentTransition.initialized response).apply intentId m.now db =
            .error (.uniqueViolation ["reference"]) := by
          simp only [IntentTransition.apply, PaymentIntentService.markInitialized,
            PaymentIntentService.transitionStatus, hfind, hstatus, hrefused]
          rfl
        rw [complete_send, IntentWrite.execute, happly]
        rfl
      | _ => cases hrefused
  · have hterminal : ∀ n, db.paymentIntents.find? intentId = some n → n.status.terminal = true := by
      intro n hfind
      by_contra hstatus
      exact hopen ⟨n, hfind, by simpa using hstatus⟩
    obtain ⟨err, happly, hother⟩ := apply_eq_error (t := t) m.now hterminal
    have hsend {f : Moment → Database → Except AppError Bool} (hf : f m db = .ok false) :
        (send (.transition intentId t) f).complete m db = (db, .ok false) := by
      rw [complete_send, IntentWrite.execute, happly, hf]
      rfl
    have hread : (findIntent intentId).complete m db =
        (db, .ok (db.paymentIntents.find? intentId)) := by
      rw [findIntent, complete_select]
    right
    rw [transitionStatus, complete_bind_of_ok (a := false) (hsend ?_), complete_bind_of_ok hread]
    · cases db.paymentIntents.find? intentId with
      | none => exact ⟨_, rfl⟩
      | some n => exact ⟨_, rfl⟩
    · rw [happly]
      cases err with
      | uniqueViolation target => exact absurd rfl (hother target)
      | _ => rfl

/-- The `catch` of `initializePaystack` marks the intent FAILED, unless it has ended. -/
theorem markFailed_cases (intentId : String) (err : AppError) (m : Moment) (db : Database) :
    ∃ err', (do
        discard (transitionStatus intentId (.failed (some err.message)))
        throw err : IntentProgram ProviderResponse).complete m db =
          (moved intentId (.failed (some err.message)) m.now db, .error err') ∨
      (do
        discard (transitionStatus intentId (.failed (some err.message)))
        throw err : IntentProgram ProviderResponse).complete m db = (db, .error err') := by
  rcases transitionStatus_cases intentId (.failed (some err.message)) m db with
    ⟨n, -, -, -, hmoved⟩ | ⟨err', hrefused⟩
  · exact ⟨err, .inl (complete_bind_of_ok (complete_discard_of_ok hmoved))⟩
  · exact ⟨err', .inr (complete_bind_of_error (complete_bind_of_error hrefused))⟩

/-- The statements inside the `try` of `initializePaystack`. -/
def openOnce (intentId : String) (payload : PaymentInitializationPayload) (amount : ℚ) :
    IntentProgram ProviderResponse := do
  let response ← select fun m _ =>
    match m.initializeTransaction payload.email (amount * 100) with
    | .error message => .error (.error message)
    | .ok response => .ok response
  discard (transitionStatus intentId (.initialized response))
  return response

/-- What `initializePaystack` comes to. -/
theorem initializePaystack_cases (intentId : String) (m : Moment) (db : Database) :
    (∃ n email response, db.paymentIntents.find? intentId = some n ∧
      n.status.terminal = false ∧
      m.initializeTransaction email (n.amount * 100) = .ok response ∧
      (initializePaystack intentId true).complete m db =
        (moved intentId (.initialized response) m.now db, .ok response)) ∨
    ∃ err, (initializePaystack intentId true).complete m db = (db, .error err) ∨
      ∃ reason, (initializePaystack intentId true).complete m db =
        (moved intentId (.failed reason) m.now db, .error err) := by
  cases hfind : db.paymentIntents.find? intentId with
  | none =>
    have hread : (findIntent intentId).complete m db = (db, .ok none) := by
      rw [findIntent, complete_select, hfind]
    exact .inr ⟨_, .inl ((complete_bind_of_ok hread).trans rfl)⟩
  | some n =>
    have hread : (findIntent intentId).complete m db = (db, .ok (some n)) := by
      rw [findIntent, complete_select, hfind]
    cases hvalid : PaymentIntentService.assertValidInitializationPayload n.initializationPayload
        s!"PaymentIntentService.initializePaystack:{intentId}" with
    | error err =>
      refine .inr ⟨err, .inl ((complete_bind_of_ok hread).trans (complete_bind_of_error ?_))⟩
      rw [complete_lift, hvalid]
    | ok payload =>
      have hlift : (lift (PaymentIntentService.assertValidInitializationPayload
          n.initializationPayload s!"PaymentIntentService.initializePaystack:{intentId}")).complete
          m db = (db, .ok payload) := by
        rw [complete_lift, hvalid]
      have hcatch : (initializePaystack intentId true).complete m db =
          (tryCatch (openOnce intentId payload n.amount) fun err => do
            discard (transitionStatus intentId (.failed (some err.message)))
            throw err).complete m db :=
        (complete_bind_of_ok hread).trans (complete_bind_of_ok hlift)
      have hfailed (err : AppError)
          (hbody : (openOnce intentId payload n.amount).complete m db = (db, .error err)) :
          ∃ err', (initializePaystack intentId true).complete m db = (db, .error err') ∨
            ∃ reason, (initializePaystack intentId true).complete m db =
              (moved intentId (.failed reason) m.now db, .error err') := by
        rw [hcatch, complete_tryCatch_of_error hbody]
        obtain ⟨err', hmoved | hkept⟩ := markFailed_cases intentId err m db
        · exact ⟨err', .inr ⟨_, hmoved⟩⟩
        · exact ⟨err', .inl hkept⟩
      cases hprovider : m.initializeTransaction payload.email (n.amount * 100) with
      | error message =>
        refine .inr (hfailed (.error message) (complete_bind_of_error ?_))
        rw [complete_select, hprovider]
      | ok response =>
        have hanswer {f : Moment → Database → Except AppError ProviderResponse}
            (hf : f m db = .ok response) : (select f).complete m db = (db, .ok response) := by
          rw [complete_select, hf]
        rcases transitionStatus_cases intentId (.initialized response) m db with
          ⟨n', hfind', hstatus, -, hmoved⟩ | ⟨err, hrefused⟩
        · rw [hfind] at hfind'
          cases hfind'
          refine .inl ⟨n, payload.email, response, rfl, hstatus, hprovider, hcatch.trans ?_⟩
          exact complete_tryCatch_of_ok ((complete_bind_of_ok (hanswer (by rw [hprovider]))).trans
            ((complete_bind_of_ok (complete_discard_of_ok hmoved)).trans rfl))
        · exact .inr (hfailed _ ((complete_bind_of_ok (hanswer (by rw [hprovider]))).trans
            (complete_bind_of_error (complete_bind_of_error hrefused))))

/-- What `initializePaystack` and `markPending` come to. -/
theorem openTransaction_cases (intentId : String) (m : Moment) (db : Database) :
    (∃ n email response, db.paymentIntents.find? intentId = some n ∧
      n.status.terminal = false ∧
      m.initializeTransaction email (n.amount * 100) = .ok response ∧
      (openTransaction intentId).complete m db =
        (moved intentId .pending m.now (moved intentId (.initialized response) m.now db),
          .ok response)) ∨
    ∃ err, (openTransaction intentId).complete m db = (db, .error err) ∨
      ∃ reason, (openTransaction intentId).complete m db =
        (moved intentId (.failed reason) m.now db, .error err) := by
  rcases initializePaystack_cases intentId m db with
    ⟨n, email, response, hfind, hstatus, hprovider, hopened⟩ | ⟨err, hkept | ⟨reason, hfailed⟩⟩
  · refine .inl ⟨n, email, response, hfind, hstatus, hprovider, (complete_bind_of_ok hopened).trans ?_⟩
    have hpending := transitionStatus_complete (m := m) (t := .pending)
      (find?_moved (.initialized response) m.now hfind) rfl rfl
    exact (complete_bind_of_ok (complete_discard_of_ok hpending)).trans rfl
  · exact .inr ⟨err, .inl (complete_bind_of_error hkept)⟩
  · exact .inr ⟨err, .inr ⟨reason, complete_bind_of_error hfailed⟩⟩

end transaction
end IntentProgram
end InstalFlow
