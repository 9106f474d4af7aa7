import InstalFlow.PaymentOpening
import InstalFlow.Relational.UniqueOn
import InstalFlow.Transition.Outline

/-!
# Exclusive reservations

Two unique indexes guard the intents: one active intent for a reservation key, one intent for an
idempotency key. Whatever is interleaved, they hold, and an intent keeps the keys it was created
with. What a call of `reserve` returns depends on what it finds under the key of its client, and
on what is there when it inserts.
-/

namespace InstalFlow
open Relational Transition

/-- The columns that no statement changes -/
def PaymentIntent.keys (i : PaymentIntent) : String × String × String :=
  (i.intentId, i.reservationKey, i.idempotencyKey)

/-- The two unique indexes of the intents -/
structure UniqueIntents (db : Database) : Prop where
  active : db.paymentIntents.UniqueOn (fun i => i.status.active = true) PaymentIntent.reservationKey
  idempotencyKey : db.paymentIntents.UniqueOn (fun _ => True) PaymentIntent.idempotencyKey

/-- Each stored intent stays, with its keys. -/
def Database.KeepsIntents (db db' : Database) : Prop :=
  ∀ i ∈ db.paymentIntents.rows, ∃ i' ∈ db'.paymentIntents.rows, i'.keys = i.keys

section statements
variable {m : Moment} {db db' db'' : Database} {intent : PaymentIntent}

theorem Database.KeepsIntents.rfl : db.KeepsIntents db := fun i hi => ⟨i, hi, Eq.refl _⟩

theorem Database.KeepsIntents.trans (h : db.KeepsIntents db') (h' : db'.KeepsIntents db'') :
    db.KeepsIntents db'' := by
  intro i hi
  obtain ⟨i', hi', hkeys⟩ := h i hi
  obtain ⟨i'', hi'', hkeys'⟩ := h' i' hi'
  exact ⟨i'', hi'', hkeys'.trans hkeys⟩

/-- An insertion that succeeds finds both keys free. -/
theorem createIntent_eq_ok (h : createIntent intent db = .ok db') :
    (∀ i ∈ db.paymentIntents.rows, i.idempotencyKey ≠ intent.idempotencyKey) ∧
    (∀ i ∈ db.paymentIntents.rows, i.reservationKey = intent.reservationKey →
      i.status.active = false) ∧
    ∃ intents, db.paymentIntents.create intent = some intents ∧
      db' = { db with paymentIntents := intents } := by
  rw [createIntent] at h
  split at h
  · cases h
  · rename_i hkey
    split at h
    · cases h
    · rename_i hactive
      split at h
      · cases h
      · rename_i intents hcreate
        cases h
        refine ⟨fun i hi hsame => hkey ?_, fun i hi hsame => ?_, intents,
          createRow_eq_ok.mp hcreate, rfl⟩
        · exact List.any_eq_true.mpr ⟨i, hi, decide_eq_true hsame⟩
        · refine Bool.eq_false_iff.mpr fun hopen => hactive ?_
          exact List.any_eq_true.mpr ⟨i, hi, decide_eq_true ⟨hsame, hopen⟩⟩

theorem active_eq_not_terminal (s : PaymentInitStatus) : s.active = !s.terminal := by
  cases s <;> rfl

namespace IntentWrite

theorem onRow_keys (w : IntentWrite) (i : PaymentIntent) : (w.onRow m db i).keys = i.keys := by
  cases w with
  | transition intentId t =>
    simp only [onRow]
    split
    · cases t <;> rfl
    · rfl
  | recordRecoveryFailure intentId errorMessage =>
    simp only [onRow]
    split <;> rfl
  | expireStale now =>
    simp only [onRow]
    split <;> rfl
  | claim intentIds =>
    simp only [onRow]
    split <;> rfl
  | create intent => rfl
  | collect attempt => rfl
  | elsewhere f hf => rfl

theorem onRow_active (w : IntentWrite) {i : PaymentIntent}
    (h : (w.onRow m db i).status.active = true) : i.status.active = true := by
  rw [active_eq_not_terminal] at h ⊢
  cases hterminal : i.status.terminal with
  | false => rfl
  | true =>
    rw [onRow_terminal w hterminal, hterminal] at h
    cases h

/-- A statement rewrites the rows one by one, or is an insertion that is accepted. -/
theorem execute_cases (w : IntentWrite) (m : Moment) (db : Database) :
    (w.execute m db).paymentIntents.rows = db.paymentIntents.rows.map (w.onRow m db) ∨
      ∃ intent, w = .create intent ∧ createIntent intent db = .ok (w.execute m db) := by
  cases w with
  | create intent =>
    cases hcreate : createIntent intent db with
    | error err =>
      rw [execute, hcreate]
      exact .inl (List.map_id' _).symm
    | ok db' =>
      refine .inr ⟨intent, rfl, ?_⟩
      rw [execute, hcreate]
      rfl
  | transition id t =>
    refine .inl ?_
    rw [execute, IntentTransition.committed_apply]
    by_cases hrefused : t.refused id db
    · rw [if_pos hrefused]
      refine (List.map_id'' (fun i => ?_) _).symm
      simp [onRow, hrefused]
    · rw [if_neg hrefused]
      refine List.map_congr_left fun i _ => ?_
      simp [onRow, hrefused]
  | recordRecoveryFailure id errorMessage =>
    refine .inl (List.map_congr_left fun i _ => ?_)
    simp [onRow]
  | expireStale now => exact .inl rfl
  | claim intentIds =>
    refine .inl (List.map_congr_left fun i _ => ?_)
    simp [onRow, claimedRow]
  | collect attempt =>
    refine .inl ?_
    rw [execute, attempt.committed_collect_paymentIntents]
    exact (List.map_id' _).symm
  | elsewhere f hf =>
    refine .inl ?_
    rw [execute, hf]
    exact (List.map_id' _).symm

theorem keepsIntents_execute (w : IntentWrite) (m : Moment) (db : Database) :
    db.KeepsIntents (w.execute m db) := by
  intro i hi
  rcases w.execute_cases m db with hrows | ⟨intent, -, hcreate⟩
  · exact ⟨w.onRow m db i, hrows ▸ List.mem_map_of_mem hi, w.onRow_keys i⟩
  · obtain ⟨-, -, intents, hcreate, hdb⟩ := createIntent_eq_ok hcreate
    rw [hdb]
    refine ⟨i, ?_, rfl⟩
    change i ∈ intents.rows
    rw [(Table.create_eq_some hcreate).2]
    exact List.mem_append_left _ hi

end IntentWrite

/-- No statement breaks the indexes. -/
theorem UniqueIntents.execute (h : UniqueIntents db) (w : IntentWrite) (m : Moment) :
    UniqueIntents (w.execute m db) := by
  rcases w.execute_cases m db with hrows | ⟨intent, -, hcreate⟩
  · have hid (i : PaymentIntent) : (w.onRow m db i).intentId = i.intentId :=
      congrArg Prod.fst (w.onRow_keys i)
    refine ⟨h.active.map hrows hid (fun i => ?_) fun i => w.onRow_active,
      h.idempotencyKey.map hrows hid (fun i => ?_) fun _ _ => trivial⟩
    · exact congrArg (fun keys => keys.2.1) (w.onRow_keys i)
    · exact congrArg (fun keys => keys.2.2) (w.onRow_keys i)
  · obtain ⟨hkey, hactive, intents, hcreate, hdb⟩ := createIntent_eq_ok hcreate
    rw [hdb]
    refine ⟨(Table.uniqueOn_create_iff h.active hcreate).mpr fun _ i hi hopen hsame => ?_,
      (Table.uniqueOn_create_iff h.idempotencyKey hcreate).mpr fun _ i hi _ => hkey i hi⟩
    rw [hactive i hi hsame] at hopen
    cases hopen

end statements

instance (intent : PaymentIntent) (db : Database) :
    Decidable (IntentProgram.Insertable intent db) :=
  decidable_of_iff ((∀ i ∈ db.paymentIntents.rows, i.intentId ≠ intent.intentId) ∧
      (∀ i ∈ db.paymentIntents.rows, i.idempotencyKey ≠ intent.idempotencyKey) ∧
      ∀ i ∈ db.paymentIntents.rows, i.reservationKey = intent.reservationKey →
        i.status.active = false)
    ⟨fun h => ⟨h.1, h.2.1, h.2.2⟩, fun h => ⟨h.intentId, h.idempotencyKey, h.reservation⟩⟩

/-- The row that the statement inserts -/
def IntentWrite.inserted : IntentWrite → Option PaymentIntent
  | create intent => some intent
  | _ => none

namespace ReserveIntentParams

/-- The key of the client serves a call: what is stored under it belongs to the reservation, and
when another call comes with the same key and parameters, nothing keeps its insertion out. -/
def KeyServes (params : ReserveIntentParams) (twin : Prop) (db : Database)
    (pending : Option IntentWrite) : Prop :=
  ∀ key ∈ params.clientIdempotencyKey,
    (key ≠ "" → ∀ i ∈ db.paymentIntents.rows, i.idempotencyKey = key →
      i.reservationKey = PaymentIntentService.buildReservationKey params) ∧
    (twin → ∀ intent ∈ pending.bind IntentWrite.inserted, IntentProgram.Insertable intent db)

instance (params : ReserveIntentParams) (twin : Prop) [Decidable twin] (db : Database)
    (pending : Option IntentWrite) : Decidable (params.KeyServes twin db pending) :=
  inferInstanceAs (Decidable (∀ key ∈ params.clientIdempotencyKey,
    (key ≠ "" → ∀ i ∈ db.paymentIntents.rows, i.idempotencyKey = key →
      i.reservationKey = PaymentIntentService.buildReservationKey params) ∧
    (twin → ∀ intent ∈ pending.bind IntentWrite.inserted, IntentProgram.Insertable intent db)))

theorem KeyServes.imp {params : ReserveIntentParams} {twin twin' : Prop} {db : Database}
    {pending : Option IntentWrite} (htwin : twin' → twin) (h : params.KeyServes twin db pending) :
    params.KeyServes twin' db pending := fun key hkey =>
  ⟨(h key hkey).1, fun hother => (h key hkey).2 (htwin hother)⟩

/-- The payload is refused before the first statement. -/
def PayloadRefused (params : ReserveIntentParams) (err : AppError) : Prop :=
  PaymentIntentService.assertValidInitializationPayload (some params.initializationPayload)
    "PaymentIntentService.reserve" = .error err

end ReserveIntentParams

/-- What a call of `reserve` has come to: an intent of its own reservation, which is the one under
the key of the client when another call comes with the same key and parameters. -/
structure Served (params : ReserveIntentParams) (twin : Prop) (db : Database)
    (result : Except AppError Reservation) : Prop where
  own : ∀ r, result = .ok r →
    r.intent.reservationKey = PaymentIntentService.buildReservationKey params
  stored : twin → ∀ key ∈ params.clientIdempotencyKey, ∀ r, result = .ok r →
    ∃ i ∈ db.paymentIntents.rows, i.intentId = r.intent.intentId ∧ i.idempotencyKey = key
  fails : twin → params.clientIdempotencyKey.isSome = true → ∀ err, result = .error err →
    params.PayloadRefused err

section served
variable {params : ReserveIntentParams} {twin : Prop} {db db' : Database}

theorem Served.of_error {err : AppError}
    (h : twin → params.clientIdempotencyKey.isSome = true → params.PayloadRefused err) :
    Served params twin db (.error err) where
  own r hr := by cases hr
  stored _ key _ r hr := by cases hr
  fails htwin hkey err' herr := by
    cases herr
    exact h htwin hkey

/-- An intent that is there -/
theorem Served.of_mem {i : PaymentIntent} {r : Reservation} (hi : i ∈ db.paymentIntents.rows)
    (hr : r.intent = i) (hown : i.reservationKey = PaymentIntentService.buildReservationKey params)
    (hkey : twin → ∀ key ∈ params.clientIdempotencyKey, i.idempotencyKey = key) :
    Served params twin db (.ok r) where
  own r' hr' := by
    cases hr'
    rw [hr, hown]
  stored htwin key hmem r' hr' := by
    cases hr'
    exact ⟨i, hi, by rw [hr], hkey htwin key hmem⟩
  fails _ _ err herr := by cases herr

/-- What is stored stays under its key. -/
theorem Served.mono {result : Except AppError Reservation} (h : Served params twin db result)
    (hkeeps : db.KeepsIntents db') : Served params twin db' result where
  own := h.own
  stored htwin key hkey r hr := by
    obtain ⟨i, hi, hid, hsame⟩ := h.stored htwin key hkey r hr
    obtain ⟨i', hi', hkeys⟩ := hkeeps i hi
    simp only [PaymentIntent.keys, Prod.mk.injEq] at hkeys
    exact ⟨i', hi', hkeys.1.trans hid, hkeys.2.2.trans hsame⟩
  fails := h.fails

end served

namespace IntentProgram

/-- The call comes to be served, whatever the others do between its statements. -/
def Serves (params : ReserveIntentParams) (twin : Prop) (p : IntentProgram Reservation)
    (db : Database) : Prop :=
  p.run.Outline IntentWrite.execute Database.KeepsIntents (params.KeyServes twin)
    (fun _ _ => True) (Served params twin) db

/-- Another call comes with the same key. -/
def Shared (params : ReserveIntentParams) (twin : Prop) : Prop :=
  twin ∧ params.clientIdempotencyKey.isSome = true

section outlines
variable {params : ReserveIntentParams} {twin : Prop} {db : Database}

theorem insertable_of_shared {intent : PaymentIntent} (hshared : Shared params twin)
    (hserves : params.KeyServes twin db (some (.create intent))) : Insertable intent db := by
  obtain ⟨htwin, hkey⟩ := hshared
  obtain ⟨key, hkey⟩ := Option.isSome_iff_exists.mp hkey
  exact (hserves key hkey).2 htwin intent (by rfl)

/-- The intent that holds the reservation, or another attempt -/
def findHolder (params : ReserveIntentParams) (changed : IntentProgram Reservation) :
    IntentProgram Reservation := do
  match ← select (fun _ db => .ok (db.paymentIntents.rows.find? (fun i =>
      i.reservationKey = PaymentIntentService.buildReservationKey params ∧ i.status.active))) with
  | some existing => return PaymentIntentService.existingReservation existing
  | none => changed

/-- What the insertion tells the call -/
def insertionAnswer (intent : PaymentIntent) (db : Database) : Except AppError Bool :=
  match createIntent intent db with
  | .ok _ => .ok true
  | .error (.uniqueViolation ["reservation_key"]) => .ok false
  | .error err => .error err

theorem insertOrFind_eq (changed : IntentProgram Reservation) :
    insertOrFind params changed = (do
      let m ← moment
      let inserted ← send (.create (reservedIntent params m)) fun _ db =>
        insertionAnswer (reservedIntent params m) db
      if inserted then return { intent := reservedIntent params m, isExisting := false }
      else findHolder params changed) := rfl

theorem findHolder_serves {changed : IntentProgram Reservation}
    (halone : ¬ Shared params twin) (hchanged : ∀ db, Serves params twin changed db) :
    Serves params twin (findHolder params changed) db := by
  refine Program.Outline.exceptBind fun m db₁ _ _ =>
    ⟨fun found hfound => ?_, fun err herr => by cases herr⟩
  cases hfound
  cases hfind : db₁.paymentIntents.rows.find? (fun i =>
      i.reservationKey = PaymentIntentService.buildReservationKey params ∧ i.status.active) with
  | none => exact hchanged db₁
  | some existing =>
    have hheld := List.find?_some hfind
    simp only [decide_eq_true_eq] at hheld
    exact Served.of_mem (List.mem_of_find?_eq_some hfind) rfl hheld.1 fun htwin key hkey =>
      absurd ⟨htwin, Option.isSome_iff_exists.mpr ⟨key, hkey⟩⟩ halone

theorem served_inserted {m : Moment} {db' : Database}
    (hcreate : createIntent (reservedIntent params m) db = .ok db') :
    Served params twin db' (.ok { intent := reservedIntent params m, isExisting := false }) := by
  obtain ⟨-, -, intents, hcreated, rfl⟩ := createIntent_eq_ok hcreate
  have hmem : reservedIntent params m ∈ intents.rows := by
    rw [(Table.create_eq_some hcreated).2]
    exact List.mem_append_right _ (List.mem_singleton_self _)
  refine Served.of_mem hmem rfl rfl fun _ key hkey => ?_
  rw [reservedIntent, Option.mem_def.mp hkey]
  rfl

theorem insertOrFind_serves {changed : IntentProgram Reservation}
    (hchanged : ¬ Shared params twin → ∀ db, Serves params twin changed db) :
    Serves params twin (insertOrFind params changed) db := by
  rw [insertOrFind_eq]
  refine Program.Outline.exceptBind fun m db₁ _ _ =>
    ⟨fun m' hm => ?_, fun err herr => by cases herr⟩
  cases hm
  refine Program.Outline.exceptBind fun m' db₂ _ hserves => ⟨trivial, ?_⟩
  rw [IntentWrite.execute]
  dsimp only [insertionAnswer]
  cases hcreate : createIntent (reservedIntent params m) db₂ with
  | ok db' =>
    refine ⟨fun answer hanswer => ?_, fun err herr => by cases herr⟩
    cases hanswer
    exact served_inserted hcreate
  | error refusal =>
    have halone : ¬ Shared params twin := by
      intro hshared
      obtain ⟨intents, -, haccepted⟩ := (insertable_of_shared hshared hserves).createIntent
      rw [hcreate] at haccepted
      cases haccepted
    refine ⟨fun inserted hinserted => ?_, fun err _ => Served.of_error fun htwin hkey =>
      absurd ⟨htwin, hkey⟩ halone⟩
    have hfalse : inserted = false := by
      split at hinserted
      · rename_i haccepted
        cases haccepted
      · cases hinserted
        rfl
      · cases hinserted
    subst hfalse
    exact findHolder_serves halone (hchanged halone)

/-- An attempt finds what is stored under the key of the client, or inserts. -/
theorem reserveAttempt_serves {changed : IntentProgram Reservation}
    (hchanged : ¬ Shared params twin → ∀ db, Serves params twin changed db) :
    Serves params twin (reserveAttempt params changed) db := by
  have hinsert (db : Database) : Serves params twin (insertOrFind params changed) db :=
    insertOrFind_serves hchanged
  rw [reserveAttempt]
  cases hlookup : params.clientIdempotencyKey.filter (fun key => key ≠ "") with
  | none => exact hinsert db
  | some key =>
    obtain ⟨hkey, hnonempty⟩ := Option.filter_eq_some_iff.mp hlookup
    refine Program.Outline.exceptBind fun m db₁ _ hserves =>
      ⟨fun found hfound => ?_, fun err herr => by cases herr⟩
    cases hfound
    cases hfind : db₁.paymentIntents.rows.find? (fun i => i.idempotencyKey = key) with
    | none => exact hinsert db₁
    | some existing =>
      have hmem := List.mem_of_find?_eq_some hfind
      have hunder : existing.idempotencyKey = key := by
        simpa using List.find?_some hfind
      have hown := (hserves key hkey).1 (of_decide_eq_true hnonempty) existing hmem hunder
      refine Served.of_mem hmem rfl hown fun _ key' hkey' => ?_
      rw [hkey] at hkey'
      cases hkey'
      exact hunder

theorem reserve_serves : Serves params twin (reserve params) db := by
  rw [reserve]
  cases hvalid : PaymentIntentService.assertValidInitializationPayload
      (some params.initializationPayload) "PaymentIntentService.reserve" with
  | error err => exact Served.of_error fun _ _ => hvalid
  | ok payload =>
    refine reserveAttempt_serves fun halone db₁ => reserveAttempt_serves fun _ db₂ => ?_
    exact Served.of_error fun htwin hkey => absurd ⟨htwin, hkey⟩ halone

end outlines
end IntentProgram

/-- The operation, with what a call of `reserve` returns. -/
def IntentOperation.answer : IntentOperation → IntentProgram (Option Reservation)
  | reserve params => do return some (← IntentProgram.reserve params)
  | operation => do
    operation.program
    return none

section interleaving
variable {ι : Type} [DecidableEq ι]

abbrev ReservationThreads (ι : Type) : Type :=
  Config Database ι (Program Database IntentWrite Moment (Except AppError (Option Reservation)))

namespace ReservationThreads

def launch (operations : ι → IntentOperation) (db : Database) : ReservationThreads ι where
  shared := db
  threads i := (operations i).answer.run

def step (c : ReservationThreads ι) (l : ι × Moment) : ReservationThreads ι :=
  perform IntentWrite.execute c l

/-- What the call of a thread has returned. -/
def Returns (c : ReservationThreads ι) (i : ι) (r : Reservation) : Prop :=
  (c.threads i).result = some (.ok (some r))

def Fails (c : ReservationThreads ι) (i : ι) (err : AppError) : Prop :=
  (c.threads i).result = some (.error err)

end ReservationThreads

variable (operations : ι → IntentOperation)

/-- Another call comes with the parameters. -/
def Twin (i : ι) (params : ReserveIntentParams) : Prop :=
  ∃ j, j ≠ i ∧ operations j = .reserve params

/-- At the next statement of a call, the key of its client serves it. -/
def KeysServe (i : ι) (db : Database) (pending : Option IntentWrite) : Prop :=
  ∀ params, operations i = .reserve params → params.KeyServes (Twin operations i params) db pending

/-- One active intent holds a reservation; a call returns an intent of its own reservation; two
calls with the same key and parameters return the same one, and none fails but for its payload. -/
structure ReservationsAnswered (c : ReservationThreads ι) : Prop where
  exclusive : c.shared.paymentIntents.UniqueOn (fun i => i.status.active = true)
    PaymentIntent.reservationKey
  own : ∀ i params r, operations i = .reserve params → c.Returns i r →
    r.intent.reservationKey = PaymentIntentService.buildReservationKey params
  same : ∀ i j params r r', i ≠ j → operations i = .reserve params →
    operations j = .reserve params → params.clientIdempotencyKey.isSome = true →
      c.Returns i r → c.Returns j r' → r.intent.intentId = r'.intent.intentId
  unhindered : ∀ i params err, operations i = .reserve params → Twin operations i params →
    params.clientIdempotencyKey.isSome = true → c.Fails i err → params.PayloadRefused err

/-- What a thread has come to, when it is a call. -/
def AnswersCall (i : ι) (db : Database) (result : Except AppError (Option Reservation)) : Prop :=
  ∀ params, operations i = .reserve params → ∃ answer : Except AppError Reservation,
    Served params (Twin operations i params) db answer ∧ result = answer.map some

/-- All calls come to be served. -/
def AllServed (c : ReservationThreads ι) : Prop :=
  UniqueIntents c.shared ∧ ∀ i, (c.threads i).Outline IntentWrite.execute Database.KeepsIntents
    (KeysServe operations i) (fun _ _ => True) (AnswersCall operations i) c.shared

variable {operations} {c : ReservationThreads ι} {l : ι × Moment} {db : Database}

omit [DecidableEq ι] in
theorem keysServe_of_reserve {i : ι} {params : ReserveIntentParams}
    (hcall : operations i = .reserve params) :
    KeysServe operations i = params.KeyServes (Twin operations i params) := by
  funext db pending
  refine propext ⟨fun h => h params hcall, fun h params' hcall' => ?_⟩
  cases hcall.symm.trans hcall'
  exact h

omit [DecidableEq ι] in
theorem answer_outline (i : ι) (db : Database) :
    (operations i).answer.run.Outline IntentWrite.execute Database.KeepsIntents
      (KeysServe operations i) (fun _ _ => True) (AnswersCall operations i) db := by
  by_cases hcall : ∃ params, operations i = .reserve params
  · obtain ⟨params, hcall⟩ := hcall
    have hserved (db : Database) (answer : Except AppError Reservation)
        (h : Served params (Twin operations i params) db answer) :
        AnswersCall operations i db (answer.map some) := by
      intro params' hcall'
      cases hcall.symm.trans hcall'
      exact ⟨answer, h, rfl⟩
    rw [keysServe_of_reserve hcall, hcall]
    refine Program.Outline.exceptBind (IntentProgram.reserve_serves.imp fun db answer h =>
      ⟨fun r hr => ?_, fun err herr => ?_⟩)
    · exact hserved db (.ok r) (hr ▸ h)
    · exact hserved db (.error err) (herr ▸ h)
  · exact Program.Outline.of_forall (fun _ _ => trivial)
      (fun _ _ params h => absurd ⟨params, h⟩ hcall) _ db

omit [DecidableEq ι] in
theorem AnswersCall.mono {db' : Database} {i : ι} {result : Except AppError (Option Reservation)}
    (hkeeps : db.KeepsIntents db') (h : AnswersCall operations i db result) :
    AnswersCall operations i db' result := by
  intro params hcall
  obtain ⟨answer, hserved, rfl⟩ := h params hcall
  exact ⟨answer, hserved.mono hkeeps, rfl⟩

theorem UniqueIntents.step (h : UniqueIntents c.shared) (l : ι × Moment) :
    UniqueIntents (c.step l).shared := by
  rw [ReservationThreads.step, perform_shared, Program.advance_shared]
  cases (c.threads l.1).pending with
  | none => exact h
  | some w => exact h.execute w l.2

theorem AllServed.step (h : AllServed operations c)
    (hserve : KeysServe operations l.1 c.shared (c.threads l.1).pending) :
    AllServed operations (c.step l) := by
  refine ⟨h.1.step l, perform_outline (fun _ => .rfl) .trans (fun _ {_ _ _} hkeeps => .mono hkeeps)
    hserve ?_ h.2⟩
  rw [perform_shared, Program.advance_shared]
  cases (c.threads l.1).pending with
  | none => exact .rfl
  | some w => exact w.keepsIntents_execute l.2 c.shared

omit [DecidableEq ι] in
theorem AllServed.returns {i : ι} {params : ReserveIntentParams} {r : Reservation}
    (h : AllServed operations c) (hcall : operations i = .reserve params) (hr : c.Returns i r) :
    Served params (Twin operations i params) c.shared (.ok r) := by
  obtain ⟨answer, hserved, hresult⟩ := (h.2 i).result hr params hcall
  cases answer with
  | error err => cases hresult
  | ok r' =>
    cases hresult
    exact hserved

omit [DecidableEq ι] in
theorem AllServed.fails {i : ι} {params : ReserveIntentParams} {err : AppError}
    (h : AllServed operations c) (hcall : operations i = .reserve params) (hr : c.Fails i err) :
    Served params (Twin operations i params) c.shared (.error err) := by
  obtain ⟨answer, hserved, hresult⟩ := (h.2 i).result hr params hcall
  cases answer with
  | error err' =>
    cases hresult
    exact hserved
  | ok r' => cases hresult

omit [DecidableEq ι] in
theorem AllServed.answered (h : AllServed operations c) : ReservationsAnswered operations c where
  exclusive := h.1.active
  own i params r hcall hr := (h.returns hcall hr).own r rfl
  same i j params r r' hne hi hj hkey hr hr' := by
    obtain ⟨key, hkey⟩ := Option.isSome_iff_exists.mp hkey
    obtain ⟨x, hx, hid, hsame⟩ := (h.returns hi hr).stored ⟨j, hne.symm, hj⟩ key hkey r rfl
    obtain ⟨y, hy, hid', hsame'⟩ := (h.returns hj hr').stored ⟨i, hne, hi⟩ key hkey r' rfl
    rw [← hid, ← hid']
    exact h.1.idempotencyKey x hx y hy trivial trivial (hsame.trans hsame'.symm)
  unhindered i params err hcall htwin hkey herr := (h.fails hcall herr).fails htwin hkey err rfl

end interleaving

/-- A payment that a client asks for under a key. -/
def keyedParams : ReserveIntentParams where
  type := .installment
  amount := 100
  installmentId := some "i"
  clientIdempotencyKey := some "key"
  initializationPayload := { email := "a@b.c" }

def keyedMoment (uuid : String) : Moment where
  now := 0
  uuid := uuid

/-- The client asks a second time when the first call has returned. -/
def askedAgain : List (Bool × Moment) :=
  List.replicate 3 (true, keyedMoment "n") ++ List.replicate 3 (false, keyedMoment "n'")

/-- Two calls with one key, and the failure of the intent that is inserted. -/
def racingCalls : Option Bool → IntentOperation
  | some _ => .reserve keyedParams
  | none => .mark "n" (.failed none)

/-- Both calls have looked for the key before one inserts. -/
def race : List (Option Bool × Moment) :=
  [(some true, keyedMoment "n"), (some false, keyedMoment "n'"), (some true, keyedMoment "n"),
    (some true, keyedMoment "n"), (none, keyedMoment ""), (some false, keyedMoment "n'"),
    (some false, keyedMoment "n'")]

/-- An intent of another installment under the key -/
def keyTaken : Database where
  paymentIntents :=
    ⟨[{ intentId := "n", type := .installment, amount := 50, installmentId := some "other"
        reservationKey := "INSTALLMENT:other", idempotencyKey := "key", expiresAt := 0 }],
      by decide⟩

def afterRace : ReservationThreads (Option Bool) :=
  run ReservationThreads.step (ReservationThreads.launch racingCalls {}) race

end InstalFlow
