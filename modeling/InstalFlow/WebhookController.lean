import InstalFlow.ChargeWebhook
import InstalFlow.PayoutRun
import InstalFlow.Messaging.Inbox

/-!
# The webhook controller

`handlePaystack` checks signature and structure of a request, answers it as
already processed when a row of its `data.id` is marked so, and otherwise
dispatches it on its event type and marks the row once the handler has returned.
It is a receiver whose key is `data.id` alone, while what was handled is an
event type with an id.
-/

namespace InstalFlow
open Relational Transition Messaging

/-- The parsed body. `event` and `id` are empty where the body has no such value
or a falsy one; `id` is the decimal text of a number. -/
structure PaystackWebhookEvent (δ : Type) where
  event : String
  id : String
  data : δ

inductive RequestBody (δ : Type)
  | text (raw : String)
  | object (value : PaystackWebhookEvent δ)
  | unparseable

structure Request (δ : Type) where
  signature : Option String
  body : RequestBody δ

structure Response where
  status : ℕ
  text : String
deriving DecidableEq

structure Gateway (δ : Type) where
  verifyWebhookSignature : String → String → Bool
  stringify : PaystackWebhookEvent δ → Option String
  parse : String → Option (PaystackWebhookEvent δ)

structure WebhookEvent (δ : Type) where
  id : String
  source : String
  type : String
  payload : PaystackWebhookEvent δ
  processed : Bool := false

structure WebhookHandlers (σ δ : Type) where
  handleChargeSuccess : δ → σ → σ × Except AppError Unit
  handleTransferSuccess : δ → σ → σ × Except AppError Unit
  handleTransferFailed : δ → σ → σ × Except AppError Unit
  handleTransferReversed : δ → σ → σ × Except AppError Unit

structure Webhooks (σ δ : Type) where
  backend : σ
  webhookEvents : Table (WebhookEvent.id (δ := δ))

def Response.alreadyProcessed : Response := ⟨200, "Event already processed"⟩
def Response.webhookProcessed : Response := ⟨200, "Webhook Processed"⟩

namespace WebhookController
variable {σ δ : Type} (gateway : Gateway δ) (handlers : WebhookHandlers σ δ)

def badRequest {α : Type} (text : String) : Except Response α := .error ⟨400, text⟩

def rawBody : RequestBody δ → Except Response String
  | .text raw => .ok raw
  | .object value =>
    match gateway.stringify value with
    | none => badRequest "Invalid payload"
    | some raw => .ok raw
  | .unparseable => badRequest "Invalid body"

def parseBody : RequestBody δ → Except Response (PaystackWebhookEvent δ)
  | .text raw =>
    match gateway.parse raw with
    | none => badRequest "Malformed JSON"
    | some event => .ok event
  | .object value => .ok value
  | .unparseable => badRequest "Malformed JSON"

/-- The event of a request that passes all checks before the deduplication. -/
def authenticate (request : Request δ) : Except Response (PaystackWebhookEvent δ) :=
  match request.signature with
  | none | some "" => badRequest "Missing signature"
  | some signature =>
    match rawBody gateway request.body with
    | .error response => .error response
    | .ok raw =>
      if gateway.verifyWebhookSignature raw signature = false then badRequest "Invalid signature"
      else
        match parseBody gateway request.body with
        | .error response => .error response
        | .ok event =>
          if event.event = "" ∨ event.id = "" then badRequest "Invalid webhook structure"
          else .ok event

/-- The dispatch table; other event types are logged and ignored. -/
def dispatch (event : PaystackWebhookEvent δ) (backend : σ) : σ × Except AppError Unit :=
  match event.event with
  | "charge.success" => handlers.handleChargeSuccess event.data backend
  | "transfer.success" => handlers.handleTransferSuccess event.data backend
  | "transfer.failed" => handlers.handleTransferFailed event.data backend
  | "transfer.reversed" => handlers.handleTransferReversed event.data backend
  | _ => (backend, .ok ())

def markProcessed (id : String) (t : Table (WebhookEvent.id (δ := δ))) :
    Table (WebhookEvent.id (δ := δ)) :=
  t.update id (fun e => { e with processed := true })

/-- The part in the `try`: a handler that throws leaves the row unprocessed. -/
def process (event : PaystackWebhookEvent δ) (s : Webhooks σ δ) : Webhooks σ δ × Response :=
  match dispatch handlers event s.backend with
  | (backend, .error _) =>
      ({ s with backend }, ⟨500, "Internal Server Error during processing"⟩)
  | (backend, .ok ()) =>
      (⟨backend, markProcessed event.id s.webhookEvents⟩, .webhookProcessed)

def handlePaystack (request : Request δ) (s : Webhooks σ δ) :
    Webhooks σ δ × Except AppError Response :=
  match authenticate gateway request with
  | .error response => (s, .ok response)
  | .ok event =>
    match s.webhookEvents.find? event.id with
    | some existingEvent =>
      if existingEvent.processed then (s, .ok .alreadyProcessed)
      else
        let (s, response) := process handlers event s
        (s, .ok response)
    | none =>
      match createRow s.webhookEvents
          { id := event.id, source := "PAYSTACK", type := event.event, payload := event } ["id"] with
      | .error err => (s, .error err)
      | .ok webhookEvents =>
        let (s, response) := process handlers event { s with webhookEvents }
        (s, .ok response)

structure Exchanges (σ δ : Type) where
  webhooks : Webhooks σ δ
  log : List (Request δ × Except AppError Response) := []

def deliver (s : Exchanges σ δ) (request : Request δ) : Exchanges σ δ where
  webhooks := (handlePaystack gateway handlers request s.webhooks).1
  log := s.log ++ [(request, (handlePaystack gateway handlers request s.webhooks).2)]

def eventType (request : Request δ) : String :=
  ((authenticate gateway request).toOption.map PaystackWebhookEvent.event).getD ""

def eventId (request : Request δ) : String :=
  ((authenticate gateway request).toOption.map PaystackWebhookEvent.id).getD ""

/-- An answer "already processed" is backed by an earlier delivery of the same
event type and id that was dispatched and completed. -/
def LosesNone (s : Exchanges σ δ) (request : Request δ) : Prop :=
  (handlePaystack gateway handlers request s.webhooks).2 = .ok .alreadyProcessed →
    ∃ e ∈ s.log, e.2 = .ok .webhookProcessed ∧
      eventType gateway e.1 = eventType gateway request ∧
      eventId gateway e.1 = eventId gateway request

def SameType (s : Exchanges σ δ) (request : Request δ) : Prop :=
  (authenticate gateway request).isOk = true → ∀ e ∈ s.log, e.2 = .ok .webhookProcessed →
    eventId gateway e.1 = eventId gateway request →
    eventType gateway e.1 = eventType gateway request

/-! The controller refines a receiver that compares ids. -/

def receiver : Receiver σ (Request δ) String where
  accepts request := (authenticate gateway request).isOk
  key := eventId gateway
  handle request backend :=
    match authenticate gateway request with
    | .error _ => (backend, false)
    | .ok event =>
      ((dispatch handlers event backend).1, (dispatch handlers event backend).2.isOk)

def answerOf : Except AppError Response → Answer
  | .error _ => .failed
  | .ok response =>
    if response = .alreadyProcessed then .duplicate
    else if response = .webhookProcessed then .completed
    else if response.status = 400 then .rejected else .failed

def inbox (s : Exchanges σ δ) : Inbox σ (Request δ) where
  state := s.webhooks.backend
  log := s.log.map (fun e => (e.1, answerOf e.2))

def Processed (t : Table (WebhookEvent.id (δ := δ))) (id : String) : Prop :=
  ∃ e ∈ t.find? id, e.processed = true

def Recorded (s : Exchanges σ δ) : Prop :=
  ∀ id, Processed s.webhooks.webhookEvents id ↔ (receiver gateway handlers).Done (inbox s) id

section refinement
variable {gateway handlers} {s : Exchanges σ δ} {request : Request δ}

theorem answerOf_eq_duplicate_iff {r : Except AppError Response} :
    answerOf r = .duplicate ↔ r = .ok .alreadyProcessed := by
  cases r with
  | error err => simp [answerOf]
  | ok response =>
    by_cases h : response = .alreadyProcessed
    · simp [answerOf, h]
    · simp only [answerOf, h, if_false, Except.ok.injEq, iff_false]
      split
      · simp
      · split <;> simp

theorem answerOf_eq_completed_iff {r : Except AppError Response} :
    answerOf r = .completed ↔ r = .ok .webhookProcessed := by
  cases r with
  | error err => simp [answerOf]
  | ok response =>
    by_cases h : response = .webhookProcessed
    · subst h
      simp only [answerOf, if_true, iff_true]
      decide
    · simp only [answerOf, h, if_false, Except.ok.injEq, iff_false]
      split
      · simp
      · split <;> simp

theorem badRequest_status {α : Type} {text : String} {response : Response}
    (h : (badRequest text : Except Response α) = .error response) : response.status = 400 := by
  cases h
  rfl

theorem authenticate_status {response : Response}
    (h : authenticate gateway request = .error response) : response.status = 400 := by
  have hraw : ∀ {body}, rawBody gateway body = .error response → response.status = 400 := by
    intro body hbody
    cases body with
    | text raw => cases hbody
    | object value =>
      rw [rawBody] at hbody
      split at hbody
      · exact badRequest_status hbody
      · cases hbody
    | unparseable => exact badRequest_status hbody
  have hparse : ∀ {body}, parseBody gateway body = .error response → response.status = 400 := by
    intro body hbody
    cases body with
    | text raw =>
      rw [parseBody] at hbody
      split at hbody
      · exact badRequest_status hbody
      · cases hbody
    | object value => cases hbody
    | unparseable => exact badRequest_status hbody
  rw [authenticate] at h
  split at h
  · exact badRequest_status h
  · exact badRequest_status h
  · split at h
    · rename_i hbody
      cases h
      exact hraw hbody
    · split at h
      · exact badRequest_status h
      · split at h
        · rename_i hbody
          cases h
          exact hparse hbody
        · split at h
          · exact badRequest_status h
          · cases h

theorem processed_markProcessed {t : Table (WebhookEvent.id (δ := δ))} {id k : String} :
    Processed (markProcessed id t) k ↔ Processed t k ∨ (k = id ∧ (t.find? k).isSome = true) := by
  have hfind := Table.find?_update t id k (fun e => { e with processed := true }) fun _ => rfl
  rw [Processed, Processed, markProcessed, hfind]
  by_cases hk : k = id
  · cases t.find? k <;> simp [hk]
  · simp [hk]

variable (handlers) in
theorem process_spec (event : PaystackWebhookEvent δ) (w : Webhooks σ δ)
    (hrow : (w.webhookEvents.find? event.id).isSome = true) :
    (process handlers event w).1.backend = (dispatch handlers event w.backend).1 ∧
      answerOf (.ok (process handlers event w).2) =
        (if (dispatch handlers event w.backend).2.isOk then .completed else .failed) ∧
      ∀ k, Processed (process handlers event w).1.webhookEvents k ↔
        Processed w.webhookEvents k ∨
          ((dispatch handlers event w.backend).2.isOk = true ∧ event.id = k) := by
  rw [process]
  rcases hdispatch : dispatch handlers event w.backend with ⟨backend, err | ⟨⟩⟩
  · refine ⟨rfl, rfl, fun k => ?_⟩
    simp [Except.isOk, Except.toBool]
  · refine ⟨rfl, rfl, fun k => ?_⟩
    rw [processed_markProcessed]
    refine or_congr_right ⟨fun h => ⟨rfl, h.1.symm⟩, fun h => ⟨h.2.symm, ?_⟩⟩
    rw [← h.2]
    exact hrow

variable (handlers) in
theorem receiver_rejects {response : Response}
    (h : authenticate gateway request = .error response) :
    (receiver gateway handlers).accepts request = false := by
  simp [receiver, h, Except.isOk, Except.toBool]

variable (handlers) in
theorem receiver_accepts {event : PaystackWebhookEvent δ}
    (h : authenticate gateway request = .ok event) :
    (receiver gateway handlers).accepts request = true ∧
      (receiver gateway handlers).key request = event.id ∧
      ∀ backend, (receiver gateway handlers).handle request backend =
        ((dispatch handlers event backend).1, (dispatch handlers event backend).2.isOk) := by
  simp [receiver, eventId, h, Except.isOk, Except.toBool, Except.toOption]

theorem processed_create {t u : Table (WebhookEvent.id (δ := δ))} {e : WebhookEvent δ}
    (h : t.create e = some u) (he : e.processed = false) (k : String) :
    Processed u k ↔ Processed t k := by
  rw [Processed, Processed, Table.find?_create h]
  by_cases hk : k = e.id
  · simp [hk, he, (Table.create_eq_some h).1]
  · simp [hk]

variable (handlers) in
theorem handlePaystack_dispatches {event : PaystackWebhookEvent δ} {w : Webhooks σ δ}
    (h : authenticate gateway request = .ok event) (hw : ¬ Processed w.webhookEvents event.id) :
    (handlePaystack gateway handlers request w).1.backend = (dispatch handlers event w.backend).1 ∧
      answerOf (handlePaystack gateway handlers request w).2 =
        (if (dispatch handlers event w.backend).2.isOk then .completed else .failed) ∧
      ∀ k, Processed (handlePaystack gateway handlers request w).1.webhookEvents k ↔
        Processed w.webhookEvents k ∨
          ((dispatch handlers event w.backend).2.isOk = true ∧ event.id = k) := by
  rw [handlePaystack, h]
  cases hfind : w.webhookEvents.find? event.id with
  | some existingEvent =>
    have hunprocessed : existingEvent.processed = false := by
      by_contra hp
      exact hw ⟨existingEvent, hfind, by simpa using hp⟩
    simp only [hfind, hunprocessed, Bool.false_eq_true, if_false]
    exact process_spec handlers event w (by rw [hfind]; rfl)
  | none =>
    obtain ⟨webhookEvents, hcreate⟩ := Table.create_isSome
      (r := (⟨event.id, "PAYSTACK", event.event, event, false⟩ : WebhookEvent δ)) hfind
    simp only [hfind, createRow, hcreate]
    have hrow : (webhookEvents.find? event.id).isSome = true := by
      rw [Table.find?_create hcreate]
      simp
    obtain ⟨hbackend, hanswer, hprocessed⟩ :=
      process_spec handlers event { w with webhookEvents } hrow
    exact ⟨hbackend, hanswer, fun k =>
      (hprocessed k).trans (or_congr_left (processed_create hcreate rfl k))⟩

variable (request) in
theorem handlePaystack_spec (h : Recorded gateway handlers s) :
    (handlePaystack gateway handlers request s.webhooks).1.backend =
        ((receiver gateway handlers).receive (inbox s) request).state ∧
      answerOf (handlePaystack gateway handlers request s.webhooks).2 =
        (receiver gateway handlers).answer (inbox s) request ∧
      ∀ k, Processed (handlePaystack gateway handlers request s.webhooks).1.webhookEvents k ↔
        (receiver gateway handlers).Done
          ((receiver gateway handlers).receive (inbox s) request) k := by
  simp only [Receiver.done_receive, ← h _]
  cases hauth : authenticate gateway request with
  | error response =>
    have hstatus := authenticate_status hauth
    have hanswer : answerOf (.ok response) = .rejected := by
      rw [answerOf, if_neg, if_neg, if_pos hstatus]
      · intro he
        exact absurd hstatus (by rw [he]; decide)
      · intro he
        exact absurd hstatus (by rw [he]; decide)
    obtain ⟨hrejected, hstate⟩ :=
      Receiver.receive_of_rejected _ (s := inbox s) (receiver_rejects handlers hauth)
    rw [hrejected, hstate]
    simp [handlePaystack, hauth, hanswer, inbox]
  | ok event =>
    obtain ⟨haccepts, hkey, hhandle⟩ := receiver_accepts handlers hauth
    by_cases hdone : Processed s.webhooks.webhookEvents event.id
    · obtain ⟨existingEvent, hfind, hprocessed⟩ := id hdone
      rw [Option.mem_def] at hfind
      obtain ⟨hduplicate, hstate⟩ :=
        Receiver.receive_of_done _ haccepts (by rw [hkey, ← h]; exact hdone)
      rw [hduplicate, hstate]
      simp [handlePaystack, hauth, hfind, hprocessed, answerOf, inbox]
    · obtain ⟨hbackend, hanswer, hprocessed⟩ :=
        handlePaystack_dispatches handlers hauth hdone
      obtain ⟨hnew, hstate⟩ :=
        Receiver.receive_of_new _ haccepts (by rw [hkey, ← h]; exact hdone)
      have hbackend' : (inbox s).state = s.webhooks.backend := rfl
      rw [hnew, hstate, hhandle, hkey, hbackend, hanswer, hbackend']
      refine ⟨rfl, rfl, fun k => (hprocessed k).trans (or_congr_right (and_congr_left' ?_))⟩
      split <;> simp_all

theorem inbox_deliver (h : Recorded gateway handlers s) (request : Request δ) :
    inbox (deliver gateway handlers s request) =
      (receiver gateway handlers).receive (inbox s) request := by
  obtain ⟨hbackend, hanswer, -⟩ := handlePaystack_spec request h
  rw [inbox, deliver, hbackend, List.map_append, List.map_singleton, hanswer]
  rfl

theorem recorded_deliver (h : Recorded gateway handlers s) (request : Request δ) :
    Recorded gateway handlers (deliver gateway handlers s request) := by
  intro k
  rw [inbox_deliver h]
  exact (handlePaystack_spec request h).2.2 k

theorem losesNone_iff (h : Recorded gateway handlers s) (request : Request δ) :
    LosesNone gateway handlers s request ↔
      (receiver gateway handlers).LosesNone (eventType gateway) (inbox s) request := by
  rw [LosesNone, Receiver.LosesNone, ← (handlePaystack_spec _ h).2.1, answerOf_eq_duplicate_iff]
  simp only [inbox, List.mem_map, exists_exists_and_eq_and, answerOf_eq_completed_iff, receiver]

theorem sameType_iff (request : Request δ) :
    SameType gateway s request ↔
      (receiver gateway handlers).SameKind (eventType gateway) (inbox s) request := by
  simp only [SameType, Receiver.SameKind, inbox, List.forall_mem_map, answerOf_eq_completed_iff,
    receiver]

end refinement

def start (backend : σ) : Exchanges σ δ := ⟨⟨backend, .empty⟩, []⟩

theorem recorded_start (backend : σ) : Recorded gateway handlers (start backend) := by
  intro k
  simp [Processed, Receiver.Done, inbox, start]

/-- Every answer "already processed" of a sequence of deliveries is backed exactly
when no id whose event was completed comes back with another event type. -/
theorem alreadyProcessed_backed_iff (backend : σ) (requests : List (Request δ)) :
    Along (deliver gateway handlers) (LosesNone gateway handlers) (start backend) requests ↔
      Along (deliver gateway handlers) (SameType gateway) (start backend) requests := by
  have hiff : ∀ s request, Recorded gateway handlers s ∧ (receiver gateway handlers).Once (inbox s) →
      (LosesNone gateway handlers s request ↔ SameType gateway s request) := by
    intro s request h
    rw [losesNone_iff h.1, Receiver.losesNone_iff_sameKind _ h.2, ← sameType_iff]
  have hkeep : ∀ s request,
      Recorded gateway handlers s ∧ (receiver gateway handlers).Once (inbox s) →
      Recorded gateway handlers (deliver gateway handlers s request) ∧
        (receiver gateway handlers).Once (inbox (deliver gateway handlers s request)) := by
    intro s request h
    refine ⟨recorded_deliver h.1 request, ?_⟩
    rw [inbox_deliver h.1]
    exact Receiver.once_receive _ h.2 request
  exact along_iff_along hiff (fun s request h _ => hkeep s request h)
    ⟨recorded_start gateway handlers backend, List.Pairwise.nil⟩

structure PaystackData where
  reference : String
  amount : ℚ := 0
  metadata : Option ChargeMetadata := none
  transferCode : Option String := none
  failures : List (Option String) := []

def PaystackData.charge (data : PaystackData) : ChargeSuccessPayload :=
  ⟨data.reference, data.amount, data.metadata⟩

def PaystackData.transfer (data : PaystackData) : TransferPayload :=
  ⟨data.reference, data.transferCode, data.failures⟩

def signedRequest (event id : String) (data : PaystackData) : Request PaystackData :=
  ⟨some "signature", .object ⟨event, id, data⟩⟩

def signedGateway : Gateway PaystackData where
  verifyWebhookSignature _ signature := signature = "signature"
  stringify _ := some "body"
  parse _ := none

def settlementReferencePrefix : String := "MST-"

section backend
variable {Q : Type} (queue : Jobs.Queue PaymentJobData Q) (charges : ChargeBranches Q)
  (settlements : TransferEvent → PaystackData → DateTime → Backend Q →
    Backend Q × Except AppError Unit)

/-- A transfer webhook after its dispatch on the prefix of the reference. -/
def handleTransfer (event : TransferEvent) (now : DateTime) (data : PaystackData)
    (s : Backend Q) : Backend Q × Except AppError Unit :=
  if settlementReferencePrefix.toList.isPrefixOf data.reference.toList then
    settlements event data now s
  else
    match event.handler.handle data.transfer now s.db with
    | .error err => (s, .error err)
    | .ok db => ({ s with db }, .ok ())

def webhookProcessor (now : DateTime) : WebhookHandlers (Backend Q) PaystackData where
  handleChargeSuccess data := WebhookProcessor.handleChargeSuccess queue charges data.charge now
  handleTransferSuccess := handleTransfer settlements .success now
  handleTransferFailed := handleTransfer settlements .failed now
  handleTransferReversed := handleTransfer settlements .reversed now

end backend

def transferBackend : Backend (Table (Jobs.Job.jobId (δ := PaymentJobData))) := ⟨inTransit, .empty⟩

def transferHandlers :
    WebhookHandlers (Backend (Table (Jobs.Job.jobId (δ := PaymentJobData)))) PaystackData :=
  webhookProcessor Jobs.keyed (unknownReference _) (fun _ _ _ s => (s, .ok ())) 0

instance (s : Exchanges σ δ) (request : Request δ) :
    Decidable (LosesNone gateway handlers s request) :=
  inferInstanceAs (Decidable (_ = _ → ∃ e ∈ s.log, _ ∧ _ ∧ _))

/-- The reversal of a transfer whose success was completed is answered as already
processed, and the payout stays PAID. -/
theorem reversal_answered_as_processed :
    let requests := [signedRequest "transfer.success" "7" { reference := "p" },
      signedRequest "transfer.reversed" "7" { reference := "p" }]
    ¬ Along (deliver signedGateway transferHandlers) (LosesNone signedGateway transferHandlers)
        (start transferBackend) requests ∧
      ((run (deliver signedGateway transferHandlers) (start transferBackend)
        requests).webhooks.backend.db.commissionPayoutRequests.find? "p").map
          CommissionPayoutRequest.status = some .paid := by
  decide +kernel

end WebhookController
end InstalFlow
