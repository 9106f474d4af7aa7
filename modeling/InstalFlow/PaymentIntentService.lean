import InstalFlow.Schema

/-!
# Payment intents

The guarded status machine of a payment intent. Every transition is one
conditional update that leaves the terminal statuses alone, except the two
sweeps, which name the statuses they start from. What Paystack answers to an
initialization is a parameter.
-/

namespace InstalFlow
open Relational

namespace PaymentInitStatus

def terminal : PaymentInitStatus → Bool
  | .success | .failed | .expired | .cancelled => true
  | _ => false

def name : PaymentInitStatus → String
  | .initializing => "INITIALIZING"
  | .initialized => "INITIALIZED"
  | .pending => "PENDING"
  | .processing => "PROCESSING"
  | .success => "SUCCESS"
  | .failed => "FAILED"
  | .expired => "EXPIRED"
  | .cancelled => "CANCELLED"

end PaymentInitStatus

/-- What `trim` strips: the white space and the line terminators of Unicode. -/
def isSpace (c : Char) : Bool :=
  c.isWhitespace ∨ c.toNat ∈ [0x0b, 0x0c, 0xa0, 0x1680, 0x2028, 0x2029, 0x202f, 0x205f, 0x3000,
    0xfeff] ∨ (0x2000 ≤ c.toNat ∧ c.toNat ≤ 0x200a)

/-- `s.trim() === ""` -/
def isBlank (s : String) : Bool := s.toList.all isSpace

structure ProviderResponse where
  reference : String
  authorizationUrl : String
  accessCode : String := ""

namespace PaymentIntentService

def findByReference (reference : String) (db : Database) : Option PaymentIntent :=
  db.paymentIntents.rows.find? (fun i => i.reference = some reference)

theorem of_findByReference {reference : String} {db : Database} {i : PaymentIntent}
    (h : findByReference reference db = some i) :
    i ∈ db.paymentIntents.rows ∧ i.reference = some reference :=
  ⟨List.mem_of_find?_eq_some h, by simpa using List.find?_some h⟩

def updateIntent (db : Database) (intentId : String) (f : PaymentIntent → PaymentIntent)
    (hf : ∀ i, (f i).intentId = i.intentId := by intro i; rfl) : Database :=
  { db with paymentIntents := db.paymentIntents.update intentId f hf }

/-- `updateMany` on the intent unless it is terminal; a count of zero is told
apart into a missing and a terminal intent. -/
def transitionStatus (intentId : String) (toStatus : PaymentInitStatus)
    (extraData : PaymentIntent → PaymentIntent)
    (hextra : ∀ i, (extraData i).intentId = i.intentId) (now : DateTime) (db : Database) :
    Except AppError Database :=
  match db.paymentIntents.find? intentId with
  | none => .error (.notFound "Payment intent not found")
  | some current =>
    if current.status.terminal then
      .error (.conflict (s!"Cannot transition intent {intentId} to {toStatus.name}: " ++
        s!"already in terminal state {current.status.name}"))
    else .ok (updateIntent db intentId
      (fun i => { extraData i with status := toStatus, updatedAt := now }) hextra)

/-- The unique index on `reference`, met by an intent that takes one over. -/
def referenceTaken (intentId reference : String) (db : Database) : Bool :=
  db.paymentIntents.rows.any (fun i => i.reference = some reference ∧ i.intentId ≠ intentId)

def markInitialized (intentId : String) (r : ProviderResponse) (now : DateTime) (db : Database) :
    Except AppError Database :=
  match transitionStatus intentId .initialized (fun i =>
      { i with
        reference := some r.reference
        authorizationUrl := some r.authorizationUrl
        recoveryClaimedAt := none }) (fun _ => rfl) now db with
  | .error err => .error err
  | .ok db' => if referenceTaken intentId r.reference db then .error (.uniqueViolation ["reference"])
      else .ok db'

def markPending (intentId : String) : DateTime → Database → Except AppError Database :=
  transitionStatus intentId .pending id (fun _ => rfl)

def markProcessing (intentId : String) : DateTime → Database → Except AppError Database :=
  transitionStatus intentId .processing id (fun _ => rfl)

def markSuccess (intentId : String) : DateTime → Database → Except AppError Database :=
  transitionStatus intentId .success id (fun _ => rfl)

def markFailed (intentId : String) (reason : Option String) :
    DateTime → Database → Except AppError Database :=
  transitionStatus intentId .failed (fun i =>
    { i with recoveryClaimedAt := none, lastRecoveryError := reason.or i.lastRecoveryError })
    (fun _ => rfl)

def markExpired (intentId : String) : DateTime → Database → Except AppError Database :=
  transitionStatus intentId .expired (fun i => { i with recoveryClaimedAt := none }) (fun _ => rfl)

/-- `transitionStatus` to CANCELLED; the reason is written to the URL column. -/
def cancel (intentId : String) (reason : Option String) :
    DateTime → Database → Except AppError Database :=
  transitionStatus intentId .cancelled (fun i =>
    { i with authorizationUrl := reason.or i.authorizationUrl, recoveryClaimedAt := none })
    (fun _ => rfl)

def recordRecoveryFailure (intentId errorMessage : String) (now : DateTime) (db : Database) :
    Database :=
  let paymentIntents := db.paymentIntents.updateMany
    (fun i => i.intentId = intentId ∧ i.status = .initializing)
    (fun i =>
      { i with
        recoveryClaimedAt := none
        lastRecoveryError := some (errorMessage.take 2000).copy
        updatedAt := now })
  { db with paymentIntents }

def stale (now : DateTime) (i : PaymentIntent) : Bool :=
  (i.status = .initializing ∨ i.status = .initialized) ∧ i.expiresAt < now

def expireStale (now : DateTime) (db : Database) : Database :=
  let paymentIntents := db.paymentIntents.updateMany (stale now)
    (fun i => { i with status := .expired, recoveryClaimedAt := none, updatedAt := now })
  { db with paymentIntents }

/-- A `ConflictError` is swallowed by the callers that mark an intent they may
find terminal. -/
def ignoreConflict (db : Database) : Except AppError Database → Except AppError Database
  | .error (.conflict _) => .ok db
  | r => r

abbrev InitializeTransaction := String → ℚ → Except String ProviderResponse

/-- The `catch` of `initializePaystack`. -/
def initializationFailed (intentId : String) (markFailedOnError : Bool) (now : DateTime)
    (db : Database) (err : AppError) : Database × Except AppError ProviderResponse :=
  if markFailedOnError then
    match markFailed intentId (some err.message) now db with
    | .error conflict => (db, .error conflict)
    | .ok db => (db, .error err)
  else (db, .error err)

def initializePaystack (provider : InitializeTransaction) (intentId : String)
    (markFailedOnError : Bool) (now : DateTime) (db : Database) :
    Database × Except AppError ProviderResponse :=
  match db.paymentIntents.find? intentId with
  | none => (db, .error (.notFound "Payment intent not found"))
  | some intent =>
    match intent.initializationPayload with
    | none => (db, .error (.error (s!"[PaymentIntentService.initializePaystack:{intentId}] " ++
        "initializationPayload is missing or not an object")))
    | some payload =>
      if isBlank payload.email then
        (db, .error (.error (s!"[PaymentIntentService.initializePaystack:{intentId}] " ++
          "initializationPayload.email must be a non-empty string")))
      else
        let attempt : Except AppError (ProviderResponse × Database) :=
          match provider payload.email (intent.amount * 100) with
          | .error message => .error (.error message)
          | .ok response =>
            match markInitialized intentId response now db with
            | .error err => .error err
            | .ok db => .ok (response, db)
        match attempt with
        | .ok (response, db) => (db, .ok response)
        | .error err => initializationFailed intentId markFailedOnError now db err

section statements
variable {intentId : String} {toStatus : PaymentInitStatus} {now : DateTime} {db : Database}

variable (toStatus now) in
/-- The update `transitionStatus` sends: it names the intent and excludes the
terminal statuses, and changes nothing when it refuses. -/
theorem committed_transitionStatus (extraData : PaymentIntent → PaymentIntent)
    (hextra : ∀ i, (extraData i).intentId = i.intentId) :
    committed db id (transitionStatus intentId toStatus extraData hextra now db) =
      { db with
        paymentIntents := db.paymentIntents.updateMany
          (fun i => i.intentId = intentId ∧ !i.status.terminal)
          (fun i => { extraData i with status := toStatus, updatedAt := now }) hextra } := by
  have hstay (h : ∀ i ∈ db.paymentIntents.rows, i.intentId = intentId → i.status.terminal) :
      db = { db with
        paymentIntents := db.paymentIntents.updateMany
          (fun i => i.intentId = intentId ∧ !i.status.terminal)
          (fun i => { extraData i with status := toStatus, updatedAt := now }) hextra } := by
    rw [Table.updateMany_eq_self]
    intro i hi
    by_cases hid : i.intentId = intentId <;> simp [hid]
    exact h i hi hid
  rw [transitionStatus]
  cases hfind : db.paymentIntents.find? intentId with
  | none =>
    refine hstay fun i hi hid => ?_
    exact absurd hid (Table.find?_eq_none_iff.mp hfind i hi)
  | some current =>
    by_cases hterminal : current.status.terminal
    · simp only [hterminal, if_true, committed_error]
      refine hstay fun i hi hid => ?_
      have hic := Table.find?_of_mem hi
      rw [hid, hfind] at hic
      cases hic
      exact hterminal
    · simp only [hterminal, Bool.false_eq_true, if_false, committed_ok, updateIntent, id]
      rw [Table.update_eq_updateMany hfind (p := fun i => !i.status.terminal)
        (by simpa using hterminal)]

theorem committed_markInitialized {response : ProviderResponse} :
    committed db id (markInitialized intentId response now db) =
      if referenceTaken intentId response.reference db then db
      else { db with
        paymentIntents := db.paymentIntents.updateMany
          (fun i => i.intentId = intentId ∧ !i.status.terminal)
          (fun i =>
            { i with
              reference := some response.reference
              authorizationUrl := some response.authorizationUrl
              recoveryClaimedAt := none
              status := .initialized
              updatedAt := now }) } := by
  rw [← committed_transitionStatus .initialized now (fun i =>
    { i with
      reference := some response.reference
      authorizationUrl := some response.authorizationUrl
      recoveryClaimedAt := none }) (fun _ => rfl), markInitialized]
  cases transitionStatus intentId .initialized _ _ now db with
  | error err => simp
  | ok db' => by_cases htaken : referenceTaken intentId response.reference db <;> simp [htaken]

end statements
end PaymentIntentService
end InstalFlow
