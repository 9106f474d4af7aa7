import InstalFlow.JsonValue
import InstalFlow.Schema
import InstalFlow.Transition.Run
import Mathlib.Data.List.Infix

/-!
# The client of the payment provider

A request makes up to three attempts and a circuit breaker counts the timeouts. What `fetch`
throws when the client aborts an attempt carries a code of its own, and is taken for an error of
this client with that code: it is neither counted nor tried again.
-/

namespace InstalFlow
open Transition

inductive PaystackErrorCode
  | timeout | networkError | invalidResponse | authFailed | insufficientFunds | transferFailed
  | accountResolutionFailed | requestFailed
deriving DecidableEq

/-- The property `code` of a thrown error: one of this client, or the number of a `DOMException` -/
inductive ThrownCode
  | paystack (code : PaystackErrorCode)
  | legacy (code : ℕ)
deriving DecidableEq

/-- A thrown `Error` with the properties that are looked at; a property may be missing. -/
structure ThrownError where
  name : String := "Error"
  message : String
  code : Option ThrownCode := none
  retryable : Option Bool := none
  status : Option ℕ := none
  data : Option JsonValue := none

structure CircuitState where
  failures : ℕ := 0
  lastFailure : DateTime := 0
  isOpen : Bool := false

structure HttpStatus where
  code : ℕ
  lower : 100 ≤ code
  upper : code ≤ 599

/-- How `fetch` ends: with a response, whose body may not parse, with an error of the network, or
aborted by the timer of the client -/
inductive FetchOutcome
  | response (status : HttpStatus) (body : Option JsonValue)
  | networkError (message : String)
  | aborted

/-- What the environment gives an attempt: its outcome, when it ends and the random number -/
structure FetchAttempt where
  outcome : FetchOutcome
  endedAt : DateTime
  random : ℚ := 0

/-- An attempt that was made, whether a failure was recorded for it, and the wait behind it -/
structure AttemptLog where
  attempt : FetchAttempt
  succeeded : Bool := false
  recorded : Bool := false
  backoffMs : Option ℚ := none

/-- How a request ends, what it leaves of the circuit and the attempts it has made -/
structure RequestRun where
  result : Except ThrownError (Option JsonValue)
  circuit : CircuitState
  attempts : List AttemptLog

namespace PaystackHttpClient

def circuitThreshold : ℕ := 5

def circuitTimeoutMs : ℤ := 60000

def maxRetries : ℕ := 3

def baseDelayMs : ℚ := 500

def isCircuitOpen (now : DateTime) (circuit : CircuitState) : Bool × CircuitState :=
  if circuit.isOpen then
    if circuitTimeoutMs < now - circuit.lastFailure then
      (false, { circuit with isOpen := false, failures := 0 })
    else (true, circuit)
  else (false, circuit)

def recordFailure (now : DateTime) (circuit : CircuitState) : CircuitState :=
  let failures := circuit.failures + 1
  { failures, lastFailure := now, isOpen := circuit.isOpen || circuitThreshold ≤ failures }

def recordSuccess (circuit : CircuitState) : CircuitState :=
  { circuit with failures := 0, isOpen := false }

def calculateBackoff (attempt : ℕ) (random : ℚ) : ℚ :=
  let exponential := baseDelayMs * 2 ^ (attempt - 1)
  let jitter := random * 0.3 * exponential
  min (exponential + jitter) 10000

def createError (code : PaystackErrorCode) (message : String) (retryable : Bool)
    (status : Option ℕ) (data : Option JsonValue) : ThrownError :=
  { message, code := some (.paystack code), retryable := some retryable, status, data }

def getResponseMessage (data : JsonValue) : Option String :=
  match data.field "message" with
  | some (.string message) => some message
  | _ => none

def isRetryableStatus (status : ℕ) : Bool :=
  status = 0 ∨ status = 429 ∨ 500 ≤ status ∨ status = 408

/-- `text.includes(part)` -/
def includes (text part : String) : Bool := part.toList <:+: text.toList

def mapErrorCode (message : Option String) (endpoint : String) : PaystackErrorCode :=
  match message.filter (· ≠ "") with
  | none => .requestFailed
  | some message =>
    let lowerMessage := message.toLower
    if includes lowerMessage "timeout" then .timeout
    else if includes lowerMessage "insufficient" then .insufficientFunds
    else if includes endpoint "transfer" then .transferFailed
    else if includes endpoint "resolve" then .accountResolutionFailed
    else .requestFailed

def isOk (status : HttpStatus) : Bool := 200 ≤ status.code ∧ status.code ≤ 299

/-- The error for a response that is not a success -/
def apiError (endpoint : String) (status : HttpStatus) (data : JsonValue) : ThrownError :=
  let message := getResponseMessage data
  createError (mapErrorCode message endpoint)
    (message.getD ("Paystack request failed with status " ++ toString status.code))
    (isRetryableStatus status.code) (some status.code) (some data)

/-- The body of the `try`: an attempt returns the data of the response or throws. -/
def respond (endpoint : String) : FetchOutcome → Except ThrownError (Option JsonValue)
  | .aborted =>
    .error { name := "AbortError", message := "This operation was aborted", code := some (.legacy 20) }
  | .networkError message => .error { name := "TypeError", message }
  | .response status none =>
    .error (createError .invalidResponse "Failed to parse Paystack response" false
      (some status.code) none)
  | .response status (some data) =>
    if isOk status then
      -- of `null` no property can be read
      if data.isNull then
        .error
          { name := "TypeError", message := "Cannot read properties of null (reading 'status')" }
      else if (data.field "status").any JsonValue.truthy then .ok (data.field "data")
      else .error (apiError endpoint status data)
    else .error (apiError endpoint status data)

def isAbortError (error : ThrownError) : Bool := error.name = "AbortError"

/-- What the `catch` makes of a thrown error: one with a code is taken as it is. -/
def lastErrorOf (error : ThrownError) : ThrownError :=
  if error.code.isSome then error
  else createError (if isAbortError error then .timeout else .networkError) error.message true none none

/-- The attempts from the given one on, `left` of them at most behind it -/
def attemptFrom (endpoint : String) (env : ℕ → FetchAttempt) : ℕ → ℕ → CircuitState → RequestRun
  | left, attempt, circuit =>
    let made := env attempt
    match respond endpoint made.outcome with
    | .ok data => ⟨.ok data, recordSuccess circuit, [{ attempt := made, succeeded := true }]⟩
    | .error error =>
      let lastError := lastErrorOf error
      let recorded : Bool := lastError.code = some (.paystack .timeout)
      let circuit := if recorded then recordFailure made.endedAt circuit else circuit
      match left with
      | 0 => ⟨.error lastError, circuit, [{ attempt := made, recorded }]⟩
      | left + 1 =>
        if lastError.retryable = some true then
          let backoff := calculateBackoff attempt made.random
          let rest := attemptFrom endpoint env left (attempt + 1) circuit
          { rest with
            attempts := { attempt := made, recorded, backoffMs := some backoff } :: rest.attempts }
        else ⟨.error lastError, circuit, [{ attempt := made, recorded }]⟩

def circuitOpenError : ThrownError :=
  createError .requestFailed "Paystack temporarily unavailable (circuit open)" false (some 503) none

def request (endpoint : String) (env : ℕ → FetchAttempt) (startedAt : DateTime) (skipCircuitCheck : Bool)
    (circuit : CircuitState) : RequestRun :=
  let (blocked, circuit) :=
    if skipCircuitCheck then (false, circuit) else isCircuitOpen startedAt circuit
  if blocked then ⟨.error circuitOpenError, circuit, []⟩
  else attemptFrom endpoint env (maxRetries - 1) 1 circuit

/-! The design: what is tried again, and when the circuit is open -/

def Retryable : FetchOutcome → Prop
  | .aborted | .networkError _ => True
  | .response _ none => False
  | .response status (some _) => status.code = 408 ∨ status.code = 429 ∨ 500 ≤ status.code

/-- A success by its status, with the body `null` -/
def NullBody : FetchOutcome → Prop
  | .response status (some data) => isOk status = true ∧ data.isNull = true
  | _ => False

/-- The circuit, and the times of the failures recorded since the last success or re-close -/
structure ClientState where
  circuit : CircuitState := {}
  failures : List DateTime := []

structure ClientCall where
  endpoint : String
  startedAt : DateTime
  env : ℕ → FetchAttempt

def failuresAfter (attempts : List AttemptLog) (failures : List DateTime) : List DateTime :=
  attempts.foldl (fun failures log =>
    if log.succeeded then []
    else if log.recorded then failures ++ [log.attempt.endedAt] else failures) failures

/-- The circuit is closed again at the start of a request. -/
def recloses (now : DateTime) (circuit : CircuitState) : Bool :=
  circuit.isOpen && circuitTimeoutMs < now - circuit.lastFailure

/-- A request by one of the methods of the client, none of which skips the check -/
def ClientCall.run (call : ClientCall) (s : ClientState) : RequestRun :=
  request call.endpoint call.env call.startedAt false s.circuit

def clientStep (s : ClientState) (call : ClientCall) : ClientState where
  circuit := (call.run s).circuit
  failures := failuresAfter (call.run s).attempts
    (if recloses call.startedAt s.circuit then [] else s.failures)

/-- Enough failures, the last of them not too long ago -/
def OpenAt (failures : List DateTime) (now : DateTime) : Prop :=
  circuitThreshold ≤ failures.length ∧
    ∀ last ∈ failures.getLast?, now - last ≤ circuitTimeoutMs

/-- A request keeps to the number of attempts, tries again after exactly the outcomes that are
retryable, records every timeout, makes no attempt while the circuit is open, and leaves the
circuit open exactly when it should be. -/
structure AsDesigned (s : ClientState) (call : ClientCall) : Prop where
  bounded : (call.run s).attempts.length ≤ maxRetries
  retries : ∀ (i : ℕ) (log : AttemptLog), (call.run s).attempts[i]? = some log →
    (i + 1 < (call.run s).attempts.length ↔ i + 1 < maxRetries ∧ Retryable log.attempt.outcome)
  recorded : ∀ log ∈ (call.run s).attempts, log.attempt.outcome = .aborted → log.recorded = true
  blocked : OpenAt s.failures call.startedAt → (call.run s).attempts = []
  opens : ∀ now, (isCircuitOpen now (clientStep s call).circuit).1 = true ↔
    OpenAt (clientStep s call).failures now

/-- No attempt that is due is aborted, and none but the last is answered by `null`. -/
def Undisturbed (env : ℕ → FetchAttempt) : ℕ → ℕ → Prop
  | 0, attempt => (env attempt).outcome ≠ .aborted
  | left + 1, attempt => (env attempt).outcome ≠ .aborted ∧ ¬ NullBody (env attempt).outcome ∧
      (Retryable (env attempt).outcome → Undisturbed env left (attempt + 1))

section attempts
variable {endpoint : String} {env : ℕ → FetchAttempt} {left attempt : ℕ} {circuit : CircuitState}

/-- What the catch decides of an outcome: whether it is tried again -/
def triesAgain (endpoint : String) (outcome : FetchOutcome) : Bool :=
  match respond endpoint outcome with
  | .ok _ => false
  | .error error => (lastErrorOf error).retryable = some true

/-- What the catch decides of an outcome: whether it is recorded as a failure -/
def records (endpoint : String) (outcome : FetchOutcome) : Bool :=
  match respond endpoint outcome with
  | .ok _ => false
  | .error error => (lastErrorOf error).code = some (.paystack .timeout)

theorem records_aborted : records endpoint .aborted = false := rfl

theorem isRetryableStatus_iff (status : HttpStatus) : isRetryableStatus status.code = true ↔
    status.code = 408 ∨ status.code = 429 ∨ 500 ≤ status.code := by
  have hlower := status.lower
  rw [isRetryableStatus, decide_eq_true_eq]
  omega

theorem isRetryableStatus_of_isOk {status : HttpStatus} (h : isOk status = true) :
    isRetryableStatus status.code = false := by
  have hlower := status.lower
  rw [isOk, decide_eq_true_eq] at h
  rw [isRetryableStatus, decide_eq_false_iff_not]
  omega

/-- A parsed body is tried again by its status, unless it is the `null` of a success. -/
theorem triesAgain_response {status : HttpStatus} {data : JsonValue}
    (hnull : ¬ NullBody (.response status (some data))) :
    triesAgain endpoint (.response status (some data)) = isRetryableStatus status.code := by
  have hapi : decide ((lastErrorOf (apiError endpoint status data)).retryable = some true) =
      isRetryableStatus status.code := by
    rw [apiError, createError, lastErrorOf]
    simp
  rw [triesAgain, respond]
  by_cases hok : isOk status = true
  · have hfalse := isRetryableStatus_of_isOk hok
    rw [if_pos hok, if_neg fun h => hnull ⟨hok, h⟩]
    by_cases hstatus : (data.field "status").any JsonValue.truthy = true
    · rw [if_pos hstatus]
      exact hfalse.symm
    · rw [if_neg hstatus]
      exact hapi
  · rw [if_neg hok]
    exact hapi

theorem triesAgain_iff {outcome : FetchOutcome} (haborted : outcome ≠ .aborted)
    (hnull : ¬ NullBody outcome) : triesAgain endpoint outcome = true ↔ Retryable outcome := by
  cases outcome with
  | aborted => exact absurd rfl haborted
  | networkError message => exact iff_of_true rfl trivial
  | response status body =>
    cases body with
    | none => exact iff_of_false Bool.false_ne_true id
    | some data => rw [triesAgain_response hnull, isRetryableStatus_iff, Retryable]

theorem triesAgain_null {outcome : FetchOutcome} (hnull : NullBody outcome) :
    triesAgain endpoint outcome = true ∧ ¬ Retryable outcome := by
  cases outcome with
  | aborted | networkError _ => exact hnull.elim
  | response status body =>
    cases body with
    | none => exact hnull.elim
    | some data =>
      obtain ⟨hok, hnull⟩ := hnull
      refine ⟨?_, fun h => ?_⟩
      · rw [triesAgain, respond, if_pos hok, if_pos hnull]
        rfl
      · rw [Retryable, ← isRetryableStatus_iff, isRetryableStatus_of_isOk hok] at h
        cases h

section unfolding
variable {data : Option JsonValue} {error : ThrownError}

theorem attemptFrom_ok (h : respond endpoint (env attempt).outcome = .ok data) :
    attemptFrom endpoint env left attempt circuit =
      ⟨.ok data, recordSuccess circuit, [{ attempt := env attempt, succeeded := true }]⟩ := by
  rw [attemptFrom]
  simp only [h]

/-- The circuit after an attempt that threw -/
def circuitAfter (endpoint : String) (made : FetchAttempt) (circuit : CircuitState) : CircuitState :=
  if records endpoint made.outcome then recordFailure made.endedAt circuit else circuit

theorem attemptFrom_last (h : respond endpoint (env attempt).outcome = .error error)
    (hstop : left = 0 ∨ triesAgain endpoint (env attempt).outcome = false) :
    attemptFrom endpoint env left attempt circuit =
      ⟨.error (lastErrorOf error), circuitAfter endpoint (env attempt) circuit,
        [{ attempt := env attempt, recorded := records endpoint (env attempt).outcome }]⟩ := by
  have hagain : triesAgain endpoint (env attempt).outcome =
      decide ((lastErrorOf error).retryable = some true) := by rw [triesAgain, h]
  cases left with
  | zero =>
    rw [attemptFrom]
    simp only [circuitAfter, records, h]
  | succ left =>
    rw [hagain] at hstop
    have hstop := of_decide_eq_false (hstop.resolve_left (Nat.succ_ne_zero left))
    rw [attemptFrom]
    simp only [circuitAfter, records, h, if_neg hstop]

theorem attemptFrom_again (hagain : triesAgain endpoint (env attempt).outcome = true) :
    attemptFrom endpoint env (left + 1) attempt circuit =
      { attemptFrom endpoint env left (attempt + 1) (circuitAfter endpoint (env attempt) circuit) with
        attempts :=
          { attempt := env attempt, recorded := records endpoint (env attempt).outcome
            backoffMs := some (calculateBackoff attempt (env attempt).random) } ::
          (attemptFrom endpoint env left (attempt + 1)
            (circuitAfter endpoint (env attempt) circuit)).attempts } := by
  cases h : respond endpoint (env attempt).outcome with
  | ok data =>
    rw [triesAgain, h] at hagain
    cases hagain
  | error error =>
    rw [triesAgain, h] at hagain
    have hretry := of_decide_eq_true hagain
    rw [attemptFrom]
    simp only [circuitAfter, records, h, if_pos hretry]

end unfolding

/-- An attempt stands alone, or the others stand behind it. -/
theorem attemptFrom_attempts (endpoint : String) (env : ℕ → FetchAttempt) (left attempt : ℕ)
    (circuit : CircuitState) :
    ∃ log : AttemptLog, log.attempt = env attempt ∧
      log.recorded = records endpoint (env attempt).outcome ∧
      ((left = 0 ∨ triesAgain endpoint (env attempt).outcome = false) ∧
        (attemptFrom endpoint env left attempt circuit).attempts = [log] ∨
      ∃ left', left = left' + 1 ∧ triesAgain endpoint (env attempt).outcome = true ∧
        (attemptFrom endpoint env left attempt circuit).attempts =
          log :: (attemptFrom endpoint env left' (attempt + 1)
            (circuitAfter endpoint (env attempt) circuit)).attempts) := by
  cases h : respond endpoint (env attempt).outcome with
  | ok data =>
    refine ⟨{ attempt := env attempt, succeeded := true }, rfl, ?_, .inl ⟨.inr ?_, ?_⟩⟩
    · rw [records, h]
    · rw [triesAgain, h]
    · rw [attemptFrom_ok h]
  | error error =>
    by_cases hstop : left = 0 ∨ triesAgain endpoint (env attempt).outcome = false
    · refine ⟨{ attempt := env attempt, recorded := records endpoint (env attempt).outcome }, rfl,
        rfl, .inl ⟨hstop, ?_⟩⟩
      rw [attemptFrom_last h hstop]
    · rw [not_or, Bool.not_eq_false] at hstop
      obtain ⟨left', rfl⟩ := Nat.exists_eq_succ_of_ne_zero hstop.1
      refine ⟨{ attempt := env attempt, recorded := records endpoint (env attempt).outcome
                backoffMs := some (calculateBackoff attempt (env attempt).random) }, rfl, rfl,
        .inr ⟨left', rfl, hstop.2, ?_⟩⟩
      rw [Nat.succ_eq_add_one, attemptFrom_again hstop.2]

theorem attempts_ne_nil : (attemptFrom endpoint env left attempt circuit).attempts ≠ [] := by
  obtain ⟨log, -, -, ⟨-, hlogs⟩ | ⟨left', -, -, hlogs⟩⟩ :=
    attemptFrom_attempts endpoint env left attempt circuit
  all_goals
    rw [hlogs]
    exact List.cons_ne_nil _ _

theorem length_attempts_le (left attempt : ℕ) (circuit : CircuitState) :
    (attemptFrom endpoint env left attempt circuit).attempts.length ≤ left + 1 := by
  induction left generalizing attempt circuit with
  | zero =>
    obtain ⟨log, -, -, ⟨-, hlogs⟩ | ⟨left', hleft, -, -⟩⟩ :=
      attemptFrom_attempts endpoint env 0 attempt circuit
    · rw [hlogs]
      rfl
    · cases hleft
  | succ left ih =>
    obtain ⟨log, -, -, ⟨-, hlogs⟩ | ⟨left', hleft, -, hlogs⟩⟩ :=
      attemptFrom_attempts endpoint env (left + 1) attempt circuit
    · rw [hlogs]
      exact Nat.le_add_left 1 _
    · obtain rfl := Nat.succ.inj hleft
      rw [hlogs, List.length_cons]
      exact Nat.succ_le_succ (ih _ _)

/-- An attempt has another behind it exactly when it is retryable and may be tried again. -/
def RetriesRight (left : ℕ) (logs : List AttemptLog) : Prop :=
  ∀ (i : ℕ) (log : AttemptLog), logs[i]? = some log →
    (i + 1 < logs.length ↔ i < left ∧ Retryable log.attempt.outcome)

theorem retriesRight_singleton {log : AttemptLog} :
    RetriesRight left [log] ↔ (0 < left → ¬ Retryable log.attempt.outcome) := by
  constructor
  · intro h hleft hretry
    exact absurd ((h 0 log rfl).mpr ⟨hleft, hretry⟩) (Nat.lt_irrefl 1)
  · intro h i made hmade
    obtain ⟨hi, hmade⟩ := List.getElem?_eq_some_iff.mp hmade
    obtain rfl : i = 0 := Nat.lt_one_iff.mp hi
    obtain rfl : log = made := hmade
    exact iff_of_false (Nat.lt_irrefl 1) fun hagain => h hagain.1 hagain.2

theorem retriesRight_cons {log : AttemptLog} {rest : List AttemptLog} (hrest : rest ≠ []) :
    RetriesRight (left + 1) (log :: rest) ↔
      Retryable log.attempt.outcome ∧ RetriesRight left rest := by
  have hpos := List.length_pos_iff.mpr hrest
  constructor
  · intro h
    refine ⟨((h 0 log rfl).mp (Nat.succ_lt_succ hpos)).2, fun i made hmade => ?_⟩
    have hnext := h (i + 1) made hmade
    rw [List.length_cons, Nat.add_lt_add_iff_right, Nat.add_lt_add_iff_right] at hnext
    exact hnext
  · rintro ⟨hretry, h⟩ i made hmade
    cases i with
    | zero =>
      obtain rfl := Option.some.inj hmade
      exact iff_of_true (Nat.succ_lt_succ hpos) ⟨Nat.succ_pos left, hretry⟩
    | succ i =>
      rw [List.length_cons, Nat.add_lt_add_iff_right, Nat.add_lt_add_iff_right]
      exact h i made hmade

theorem not_aborted_iff {log : AttemptLog} (hmade : log.attempt = env attempt)
    (hrecorded : log.recorded = records endpoint (env attempt).outcome) :
    (log.attempt.outcome = .aborted → log.recorded = true) ↔
      (env attempt).outcome ≠ .aborted := by
  rw [hmade, hrecorded]
  constructor
  · intro h haborted
    have hfalse := h haborted
    rw [haborted, records_aborted] at hfalse
    cases hfalse
  · intro h haborted
    exact absurd haborted h

/-- The attempts go on and are recorded as they should exactly when none is disturbed. -/
theorem attempts_right_iff (left attempt : ℕ) (circuit : CircuitState) :
    (RetriesRight left (attemptFrom endpoint env left attempt circuit).attempts ∧
      ∀ log ∈ (attemptFrom endpoint env left attempt circuit).attempts,
        log.attempt.outcome = .aborted → log.recorded = true) ↔ Undisturbed env left attempt := by
  induction left generalizing attempt circuit with
  | zero =>
    obtain ⟨log, hmade, hrecorded, ⟨-, hlogs⟩ | ⟨left', hleft, -, -⟩⟩ :=
      attemptFrom_attempts endpoint env 0 attempt circuit
    · rw [hlogs, retriesRight_singleton, List.forall_mem_singleton, not_aborted_iff hmade hrecorded]
      exact and_iff_right fun h => absurd h (Nat.lt_irrefl 0)
    · cases hleft
  | succ left ih =>
    obtain ⟨log, hmade, hrecorded, ⟨hstop, hlogs⟩ | ⟨left', hleft, hagain, hlogs⟩⟩ :=
      attemptFrom_attempts endpoint env (left + 1) attempt circuit
    · have hstop := hstop.resolve_left (Nat.succ_ne_zero left)
      rw [hlogs, retriesRight_singleton, List.forall_mem_singleton, not_aborted_iff hmade hrecorded,
        Undisturbed, hmade]
      constructor
      · rintro ⟨hnever, haborted⟩
        refine ⟨haborted, fun hnull => ?_, fun hretry => absurd hretry (hnever left.succ_pos)⟩
        rw [(triesAgain_null hnull).1] at hstop
        cases hstop
      · rintro ⟨haborted, hnull, -⟩
        refine ⟨fun _ hretry => ?_, haborted⟩
        rw [(triesAgain_iff haborted hnull).mpr hretry] at hstop
        cases hstop
    · obtain rfl := Nat.succ.inj hleft
      rw [hlogs, retriesRight_cons attempts_ne_nil, List.forall_mem_cons,
        not_aborted_iff hmade hrecorded, Undisturbed, hmade, ← ih (attempt + 1)
          (circuitAfter endpoint (env attempt) circuit)]
      constructor
      · rintro ⟨⟨hretry, hrest⟩, haborted, hrecorded⟩
        exact ⟨haborted, fun hnull => (@triesAgain_null endpoint _ hnull).2 hretry,
          fun _ => ⟨hrest, hrecorded⟩⟩
      · rintro ⟨haborted, hnull, hrest⟩
        have hretry := (triesAgain_iff haborted hnull).mp hagain
        exact ⟨⟨hretry, (hrest hretry).1⟩, haborted, (hrest hretry).2⟩

end attempts

section circuit
variable {circuit : CircuitState} {failures : List DateTime} {now : DateTime}

/-- The circuit counts the failures since the last success or re-close, and knows the last one. -/
structure Counts (circuit : CircuitState) (failures : List DateTime) : Prop where
  count : circuit.failures = failures.length
  isOpen : circuit.isOpen = true ↔ circuitThreshold ≤ failures.length
  last : ∀ last ∈ failures.getLast?, circuit.lastFailure = last

theorem counts_recordFailure (h : Counts circuit failures) (now : DateTime) :
    Counts (recordFailure now circuit) (failures ++ [now]) := by
  refine ⟨?_, ?_, ?_⟩
  · rw [List.length_append, ← h.count]
    rfl
  · rw [recordFailure, Bool.or_eq_true, h.isOpen, decide_eq_true_eq, h.count, List.length_append,
      List.length_singleton]
    omega
  · intro last hlast
    rw [List.getLast?_concat] at hlast
    exact Option.some.inj hlast

theorem counts_nil (hfailures : circuit.failures = 0) (hclosed : circuit.isOpen = false) :
    Counts circuit [] := by
  refine ⟨hfailures, iff_of_false ?_ (by decide), fun last hlast => ?_⟩
  · rw [hclosed]
    exact Bool.false_ne_true
  · cases hlast

theorem counts_circuitAfter (endpoint : String) (made : FetchAttempt) (h : Counts circuit failures) :
    Counts (circuitAfter endpoint made circuit)
      (if records endpoint made.outcome then failures ++ [made.endedAt] else failures) := by
  rw [circuitAfter]
  split
  · exact counts_recordFailure h made.endedAt
  · exact h

theorem counts_attemptFrom (endpoint : String) (env : ℕ → FetchAttempt) (left attempt : ℕ)
    (h : Counts circuit failures) :
    Counts (attemptFrom endpoint env left attempt circuit).circuit
      (failuresAfter (attemptFrom endpoint env left attempt circuit).attempts failures) := by
  induction left generalizing attempt circuit failures with
  | zero =>
    cases hresponse : respond endpoint (env attempt).outcome with
    | ok data =>
      rw [attemptFrom_ok hresponse]
      exact counts_nil rfl rfl
    | error error =>
      rw [attemptFrom_last hresponse (.inl rfl)]
      exact counts_circuitAfter endpoint (env attempt) h
  | succ left ih =>
    cases hresponse : respond endpoint (env attempt).outcome with
    | ok data =>
      rw [attemptFrom_ok hresponse]
      exact counts_nil rfl rfl
    | error error =>
      cases hagain : triesAgain endpoint (env attempt).outcome with
      | false =>
        rw [attemptFrom_last hresponse (.inr hagain)]
        exact counts_circuitAfter endpoint (env attempt) h
      | true =>
        rw [attemptFrom_again hagain]
        exact ih (attempt + 1) (counts_circuitAfter endpoint (env attempt) h)

theorem isCircuitOpen_iff (h : Counts circuit failures) (now : DateTime) :
    (isCircuitOpen now circuit).1 = true ↔ OpenAt failures now := by
  rw [isCircuitOpen, OpenAt, ← h.isOpen]
  by_cases hopen : circuit.isOpen = true
  · have hne : failures ≠ [] := by
      rintro rfl
      exact absurd (h.isOpen.mp hopen) (by decide)
    have hlast := List.getLast?_eq_some_getLast hne
    rw [if_pos hopen, hlast, and_iff_right hopen]
    have hsame := h.last _ hlast
    split
    · rename_i hlate
      refine iff_of_false Bool.false_ne_true fun hrecent => ?_
      have hrecent := hrecent _ rfl
      rw [hsame] at hlate
      exact absurd hrecent (not_le.mpr hlate)
    · rename_i hrecent
      refine iff_of_true rfl fun last hlast => ?_
      rw [← Option.some.inj hlast, ← hsame]
      exact not_lt.mp hrecent
  · rw [if_neg hopen]
    exact iff_of_false Bool.false_ne_true fun hboth => hopen hboth.1

theorem counts_isCircuitOpen (h : Counts circuit failures) (now : DateTime) :
    Counts (isCircuitOpen now circuit).2 (if recloses now circuit then [] else failures) := by
  rw [isCircuitOpen, recloses]
  cases hopen : circuit.isOpen with
  | false => exact h
  | true =>
    rw [if_pos rfl, Bool.true_and]
    by_cases hlate : circuitTimeoutMs < now - circuit.lastFailure
    · rw [if_pos hlate, if_pos (decide_eq_true hlate)]
      exact counts_nil rfl rfl
    · rw [if_neg hlate, if_neg (by rw [decide_eq_true_eq]; exact hlate)]
      exact h

end circuit

section runs
variable {s : ClientState} {call : ClientCall}

theorem run_of_open (h : (isCircuitOpen call.startedAt s.circuit).1 = true) :
    call.run s = ⟨.error circuitOpenError, (isCircuitOpen call.startedAt s.circuit).2, []⟩ := by
  rw [ClientCall.run, request]
  exact if_pos h

theorem run_of_closed (h : (isCircuitOpen call.startedAt s.circuit).1 = false) :
    call.run s = attemptFrom call.endpoint call.env (maxRetries - 1) 1
      (isCircuitOpen call.startedAt s.circuit).2 := by
  have hnot : ¬ (isCircuitOpen call.startedAt s.circuit).1 = true := by
    rw [h]
    exact Bool.false_ne_true
  rw [ClientCall.run, request]
  exact if_neg hnot

theorem counts_clientStep (s : ClientState) (call : ClientCall) (h : Counts s.circuit s.failures) :
    Counts (clientStep s call).circuit (clientStep s call).failures := by
  have hstart := counts_isCircuitOpen h call.startedAt
  rw [clientStep]
  cases hopen : (isCircuitOpen call.startedAt s.circuit).1 with
  | true =>
    rw [run_of_open hopen]
    exact hstart
  | false =>
    rw [run_of_closed hopen]
    exact counts_attemptFrom _ _ _ _ hstart

end runs

/-- The client keeps to its design throughout a run, exactly when no attempt that is due is
aborted, and none but the last of a request answered by `null`. -/
theorem asDesigned_iff (calls : List ClientCall) :
    Along clientStep AsDesigned {} calls ↔
      Along clientStep (fun s call => ¬ OpenAt s.failures call.startedAt →
        Undisturbed call.env (maxRetries - 1) 1) {} calls := by
  refine along_iff_along (I := fun s => Counts s.circuit s.failures) (fun s call h => ?_)
    (fun s call h _ => counts_clientStep s call h) (counts_nil rfl rfl)
  have hopens := isCircuitOpen_iff (counts_clientStep s call h)
  have hstart := isCircuitOpen_iff h call.startedAt
  cases hopen : (isCircuitOpen call.startedAt s.circuit).1 with
  | true =>
    have hblocked := hstart.mp hopen
    refine iff_of_true ?_ fun hclosed => absurd hblocked hclosed
    have hrun : (call.run s).attempts = [] := by rw [run_of_open hopen]
    refine ⟨?_, fun i log hlog => ?_, fun log hlog => ?_, fun _ => hrun, hopens⟩
    · rw [hrun]
      exact Nat.zero_le _
    · rw [hrun] at hlog
      cases hlog
    · rw [hrun] at hlog
      cases hlog
  | false =>
    have hclosed : ¬ OpenAt s.failures call.startedAt := by
      rw [← hstart, hopen]
      exact Bool.false_ne_true
    have hrun := run_of_closed hopen
    have hright := @attempts_right_iff call.endpoint call.env (maxRetries - 1) 1
      (isCircuitOpen call.startedAt s.circuit).2
    rw [← hrun] at hright
    rw [← hright]
    constructor
    · intro hdesigned _
      refine ⟨fun i log hlog => ?_, hdesigned.recorded⟩
      rw [Nat.lt_sub_iff_add_lt]
      exact hdesigned.retries i log hlog
    · intro hattempts
      obtain ⟨hretries, hrecorded⟩ := hattempts hclosed
      refine ⟨?_, fun i log hlog => ?_, hrecorded, fun hblocked => absurd hblocked hclosed, hopens⟩
      · rw [hrun]
        exact length_attempts_le (maxRetries - 1) 1 _
      · have hnext := hretries i log hlog
        rwa [Nat.lt_sub_iff_add_lt] at hnext

/-- A request whose attempts are aborted -/
def abortedCall : ClientCall := ⟨"/transfer", 0, fun _ => ⟨.aborted, 10000, 0⟩⟩

/-- Five such requests make one attempt each, which nobody records: the circuit stays closed. -/
theorem not_asDesigned_aborted :
    (run clientStep {} (List.replicate 5 abortedCall)).circuit.failures = 0 ∧
    (abortedCall.run {}).attempts = [{ attempt := ⟨.aborted, 10000, 0⟩ }] ∧
    ¬ Along clientStep AsDesigned {} (List.replicate 5 abortedCall) := by
  have hrun : (abortedCall.run {}).attempts = [{ attempt := ⟨.aborted, 10000, 0⟩ }] :=
    congrArg RequestRun.attempts ((run_of_closed rfl).trans (attemptFrom_last rfl (.inr rfl)))
  refine ⟨by decide +kernel, hrun, fun h => ?_⟩
  have hrecorded := h.1.recorded { attempt := ⟨.aborted, 10000, 0⟩ }
    (hrun ▸ List.mem_cons_self) rfl
  cases hrecorded

end PaystackHttpClient
end InstalFlow
