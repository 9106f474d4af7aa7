import InstalFlow.KycApplications
import InstalFlow.Notifications
import InstalFlow.Text.Tagged

/-!
# The notification orchestrator

Services report what has happened as events, and a handler creates a notification for
each recipient under a key made of the kind, the identifier of what it is about, and
sometimes the recipient. An event may be reported again, and the handlers of many events
are executed side by side, so all that protects a recipient is the key: no two kinds share
one, and what is about another subject has another one.
-/

namespace InstalFlow
open Relational Transition

/-- The fields of the payloads that the handlers address and identify notifications by -/
inductive NotificationEvent
  | kycApplicationSubmitted (applicationId : String) (referredByMarketerId : Option String)
  | installmentOverdue (installmentId userId : String)
  | paymentConfirmed (paymentId userId : String)
  | commissionAccrued (commissionId marketerId : String)
  | commissionTransferRequest (requestId : String)
  | commissionRequestApproval (requestId marketerId : String) (role : Role)
  | installmentReminder3Day (installmentId customerId : String)
  | installmentReminder1Day (installmentId customerId : String)
  | installmentDueToday (installmentId customerId : String)
  | installmentOverdueRecurring (installmentId customerId : String) (daysOverdue : ℤ)
  | installmentOverdue3Day (installmentId customerId marketerId : String)
  | installmentOverdue7Day (installmentId customerId marketerId adminId : String)
  | commissionTransferInitiated (payoutId marketerId : String)
  | commissionTransferSuccess (payoutId marketerId companyId : String)
  | commissionTransferFailed (payoutId marketerId companyId : String)
  | commissionTransferReversed (payoutId marketerId companyId : String)
  | marketerToggleRequest (requestId companyId : String)
  | marketerDeleteRequest (requestId companyId : String)
  | marketerToggleApproved (requestId : String)
  | marketerToggleRejected (requestId : String)
  | marketerDeleteApproved (requestId : String)
  | marketerDeleteRejected (requestId : String)
  | contractRestructured (contractId marketerId : String)
  | contractWrittenOff (contractId : String) (recipientRole : Role) (recipientId : String)
  | onboardingSessionExpired (sessionId marketerId : String) (hadKycApplication : Bool)
      (companyEmails : List String)
  | kycApplicationAutoExpired (kycApplicationId marketerId : String) (hadOnboardingSession : Bool)
      (companyEmails : List String)

namespace NotificationOrchestrator

def usersWhere (db : Database) (p : User → Bool) : List String :=
  (db.users.rows.filter p).map User.userId

def companyUsers (db : Database) (companyId : String) : List String :=
  usersWhere db fun u => u.companyId = some companyId ∧ u.role = .company

/-- Each recipient with the suffix of its key -/
def resolveRecipientsForKycSubmission (db : Database) (referredByMarketerId : Option String) :
    List (String × String) :=
  match referredByMarketerId.filter (fun id => id ≠ "") with
  | none =>
    ((db.users.rows.find? (fun u => u.role = .superAdmin)).map User.userId).toList.map
      fun superAdmin => (superAdmin, "superadmin-" ++ superAdmin)
  | some marketerId =>
    let marketer := (db.users.find? marketerId).filter (fun u => u.role = .marketer)
    (marketerId, "marketer-" ++ marketerId) ::
      ((marketer.bind User.createdById).filter (fun id => id ≠ "")).toList.map
        fun admin => (admin, "admin-" ++ admin)

/-- The users asked to approve next. Without a marketer the filter by company is not there. -/
def approvers (db : Database) (role : Role) (marketer : Option User) : List String :=
  match role with
  | .admin =>
    match (marketer.bind User.createdById).filter (fun id => id ≠ "") with
    | none => []
    | some createdById => usersWhere db fun u => u.userId = createdById ∧ u.role = .admin
  | .company =>
    usersWhere db fun u => marketer.all (fun m => u.companyId = m.companyId) ∧ u.role = .company
  | _ => []

def notify (type : NotificationEventType) (userId key : String) : CreateNotificationDTO where
  userId := userId
  type := type
  idempotencyKey := some key

/-- The handlers of a decision on a request: its requester is told. -/
def decided (type : NotificationEventType) (tag requestId : String) (db : Database) :
    List (List CreateNotificationDTO) :=
  match db.approvalRequests.find? requestId with
  | none => []
  | some request => [[notify type request.requestedById (tag ++ requestId)]]

/-- The handlers of a transfer's outcome: the marketer is told first, and then the company. -/
def transferred (type : NotificationEventType) (tag payoutId marketerId companyId : String)
    (db : Database) : List (List CreateNotificationDTO) :=
  [[notify type marketerId (tag ++ "marketer-" ++ payoutId)],
    (companyUsers db companyId).map fun userId =>
      notify type userId (tag ++ "company-" ++ payoutId ++ "-" ++ userId)]

/-- The creates of a handler whose reads see `db`. Those of one list are sent at once, and
those of the next list when none of them has failed. -/
def handle (db : Database) : NotificationEvent → List (List CreateNotificationDTO)
  | .kycApplicationSubmitted applicationId referredByMarketerId =>
    [(resolveRecipientsForKycSubmission db referredByMarketerId).map fun r =>
      notify .kycApplicationSubmitted r.1 ("kyc-submitted-" ++ applicationId ++ "-" ++ r.2)]
  | .installmentOverdue installmentId userId =>
    [[notify .installmentOverdue userId ("installment-overdue-" ++ installmentId)]]
  | .paymentConfirmed paymentId userId =>
    [[notify .paymentConfirmed userId ("payment-confirmed-" ++ paymentId)]]
  | .commissionAccrued commissionId marketerId =>
    [[notify .commissionAccrued marketerId ("commission-accrued-" ++ commissionId)]]
  | .commissionTransferRequest requestId =>
    [(usersWhere db fun u => u.role = .admin).map fun userId =>
      notify .commissionTransferRequest userId
        ("commission-transfer-" ++ requestId ++ "-" ++ userId)]
  | .commissionRequestApproval requestId marketerId role =>
    let marketer := db.users.find? marketerId
    [marketer.toList.map fun m => notify .commissionRequestApproval m.userId
        ("commission-status-" ++ requestId ++ "-" ++ role.name),
      (approvers db role marketer).map fun userId => notify .commissionRequestApproval userId
        ("commission-await-company-" ++ requestId ++ "-" ++ userId)]
  | .installmentReminder3Day installmentId customerId =>
    [[notify .installmentReminder3Day customerId ("reminder-3day-" ++ installmentId)]]
  | .installmentReminder1Day installmentId customerId =>
    [[notify .installmentReminder1Day customerId ("reminder-1day-" ++ installmentId)]]
  | .installmentDueToday installmentId customerId =>
    [[notify .installmentDueToday customerId ("due-today-" ++ installmentId)]]
  | .installmentOverdueRecurring installmentId customerId daysOverdue =>
    [[notify .installmentOverdueRecurring customerId
      ("overdue-recurring-" ++ installmentId ++ "-" ++ toString daysOverdue)]]
  | .installmentOverdue3Day installmentId customerId marketerId =>
    [notify .installmentOverdue3Day customerId ("overdue-3day-customer-" ++ installmentId) ::
      if marketerId = "" then []
      else [notify .installmentOverdue3Day marketerId ("overdue-3day-marketer-" ++ installmentId)]]
  | .installmentOverdue7Day installmentId customerId marketerId adminId =>
    [notify .installmentOverdue7Day customerId ("overdue-7day-customer-" ++ installmentId) ::
      notify .installmentOverdue7Day adminId ("overdue-7day-admin-" ++ installmentId) ::
      if marketerId = "" then []
      else [notify .installmentOverdue7Day marketerId ("overdue-7day-marketer-" ++ installmentId)]]
  | .commissionTransferInitiated payoutId marketerId =>
    [[notify .commissionTransferInitiated marketerId
      ("commission-transfer-initiated-" ++ payoutId ++ "-" ++ marketerId)]]
  | .commissionTransferSuccess payoutId marketerId companyId =>
    transferred .commissionTransferSuccess "transfer-success-" payoutId marketerId companyId db
  | .commissionTransferFailed payoutId marketerId companyId =>
    transferred .commissionTransferFailed "transfer-failed-" payoutId marketerId companyId db
  | .commissionTransferReversed payoutId marketerId companyId =>
    transferred .commissionTransferReversed "transfer-reversed-" payoutId marketerId companyId db
  | .marketerToggleRequest requestId companyId =>
    [(companyUsers db companyId).map fun userId => notify .marketerToggleRequest userId
      ("marketer-toggle-request-" ++ requestId ++ "-" ++ userId)]
  | .marketerDeleteRequest requestId companyId =>
    [(companyUsers db companyId).map fun userId => notify .marketerDeleteRequest userId
      ("marketer-delete-request-" ++ requestId ++ "-" ++ userId)]
  | .marketerToggleApproved requestId =>
    decided .marketerToggleApproved "marketer-toggle-approved-" requestId db
  | .marketerToggleRejected requestId =>
    decided .marketerToggleRejected "marketer-toggle-rejected-" requestId db
  | .marketerDeleteApproved requestId =>
    decided .marketerDeleteApproved "marketer-delete-approved-" requestId db
  | .marketerDeleteRejected requestId =>
    decided .marketerDeleteRejected "marketer-delete-rejected-" requestId db
  | .contractRestructured contractId marketerId =>
    [[notify .contractRestructured marketerId
      ("contract-restructured-" ++ contractId ++ "-" ++ marketerId)]]
  | .contractWrittenOff contractId recipientRole recipientId =>
    [[notify .contractWrittenOff recipientId ("contract-written-off-" ++ contractId ++ "-" ++
      recipientRole.name ++ "-" ++ recipientId)]]
  | .onboardingSessionExpired sessionId marketerId hadKycApplication companyEmails =>
    [(if hadKycApplication then [notify .onboardingSessionExpired marketerId
        ("onboarding-expired-" ++ sessionId ++ "-marketer")] else []) ++
      companyEmails.map fun email => notify .onboardingSessionExpired email
        ("onboarding-expired-" ++ sessionId ++ "-company-" ++ email)]
  | .kycApplicationAutoExpired kycApplicationId marketerId hadOnboardingSession companyEmails =>
    [(if hadOnboardingSession then [notify .kycApplicationAutoExpired marketerId
        ("kyc-auto-expired-" ++ kycApplicationId ++ "-marketer")] else []) ++
      companyEmails.map fun email => notify .kycApplicationAutoExpired email
        ("kyc-auto-expired-" ++ kycApplicationId ++ "-company-" ++ email)]

end NotificationOrchestrator

/-- What the event is about -/
def NotificationEvent.subject : NotificationEvent → String
  | kycApplicationSubmitted id _ | installmentOverdue id _ | paymentConfirmed id _
  | commissionAccrued id _ | commissionTransferRequest id | commissionRequestApproval id _ _
  | installmentReminder3Day id _ | installmentReminder1Day id _ | installmentDueToday id _
  | installmentOverdueRecurring id _ _ | installmentOverdue3Day id _ _
  | installmentOverdue7Day id _ _ _ | commissionTransferInitiated id _
  | commissionTransferSuccess id _ _ | commissionTransferFailed id _ _
  | commissionTransferReversed id _ _ | marketerToggleRequest id _ | marketerDeleteRequest id _
  | marketerToggleApproved id | marketerToggleRejected id | marketerDeleteApproved id
  | marketerDeleteRejected id | contractRestructured id _ | contractWrittenOff id _ _
  | onboardingSessionExpired id _ _ _ | kycApplicationAutoExpired id _ _ _ => id

namespace NotificationOrchestrator

def hexDigit (c : Char) : Bool := ('0' ≤ c ∧ c ≤ '9') ∨ ('a' ≤ c ∧ c ≤ 'f')

/-- The text of a `uuid()`: hexadecimal digits in groups of 8, 4, 4, 4 and 12 -/
def isUuid (id : String) : Bool :=
  id.toList.length = 36 ∧ id.toList.zipIdx.all fun p =>
    if p.2 ∈ [8, 13, 18, 23] then p.1 = '-' else hexDigit p.1

/-- What the keys begin with, for each type -/
def keyTags : List (String × NotificationEventType) :=
  [("kyc-submitted-", .kycApplicationSubmitted), ("installment-overdue-", .installmentOverdue),
    ("payment-confirmed-", .paymentConfirmed), ("commission-accrued-", .commissionAccrued),
    ("commission-transfer-", .commissionTransferRequest),
    ("commission-status-", .commissionRequestApproval),
    ("commission-await-company-", .commissionRequestApproval),
    ("reminder-3day-", .installmentReminder3Day), ("reminder-1day-", .installmentReminder1Day),
    ("due-today-", .installmentDueToday), ("overdue-recurring-", .installmentOverdueRecurring),
    ("overdue-3day-customer-", .installmentOverdue3Day),
    ("overdue-3day-marketer-", .installmentOverdue3Day),
    ("overdue-7day-customer-", .installmentOverdue7Day),
    ("overdue-7day-admin-", .installmentOverdue7Day),
    ("overdue-7day-marketer-", .installmentOverdue7Day),
    ("commission-transfer-initiated-", .commissionTransferInitiated),
    ("transfer-success-marketer-", .commissionTransferSuccess),
    ("transfer-success-company-", .commissionTransferSuccess),
    ("transfer-failed-marketer-", .commissionTransferFailed),
    ("transfer-failed-company-", .commissionTransferFailed),
    ("transfer-reversed-marketer-", .commissionTransferReversed),
    ("transfer-reversed-company-", .commissionTransferReversed),
    ("marketer-toggle-request-", .marketerToggleRequest),
    ("marketer-delete-request-", .marketerDeleteRequest),
    ("marketer-toggle-approved-", .marketerToggleApproved),
    ("marketer-toggle-rejected-", .marketerToggleRejected),
    ("marketer-delete-approved-", .marketerDeleteApproved),
    ("marketer-delete-rejected-", .marketerDeleteRejected),
    ("contract-restructured-", .contractRestructured),
    ("contract-written-off-", .contractWrittenOff),
    ("onboarding-expired-", .onboardingSessionExpired),
    ("kyc-auto-expired-", .kycApplicationAutoExpired)]

theorem apart_keyTags : ∀ k ∈ keyTags, ∀ l ∈ keyTags, k ≠ l →
    Text.apart hexDigit k.1.toList l.1.toList = true := by decide +kernel

theorem begins_of_isUuid {id : String} (h : isUuid id = true) :
    Text.Begins hexDigit id.toList := by
  simp only [isUuid, decide_eq_true_eq] at h
  obtain ⟨hlength, hall⟩ := h
  cases hid : id.toList with
  | nil => simp [hid] at hlength
  | cons c cs =>
    rw [hid, List.zipIdx_cons, List.all_cons, Bool.and_eq_true] at hall
    exact ⟨c, rfl, by simpa using hall.1⟩

/-- The kind, the subject and the rest of a key can be read off it. -/
theorem key_injective {k l : String × NotificationEventType} {x y r s : String}
    (hk : k ∈ keyTags) (hl : l ∈ keyTags) (hx : isUuid x = true) (hy : isUuid y = true)
    (h : k.1 ++ (x ++ r) = l.1 ++ (y ++ s)) : k = l ∧ x = y ∧ r = s := by
  have hlength {id : String} (hid : isUuid id = true) : id.toList.length = 36 := by
    simp only [isUuid, decide_eq_true_eq] at hid
    exact hid.1
  have hlist := congrArg String.toList h
  simp only [String.toList_append] at hlist
  obtain ⟨htag, hid, hrest⟩ := Text.tagged_injective apart_keyTags hk hl (begins_of_isUuid hx)
    (begins_of_isUuid hy) ((hlength hx).trans (hlength hy).symm) hlist
  exact ⟨htag, String.toList_inj.mp hid, String.toList_inj.mp hrest⟩

/-- The key that the event gives a notification of the type -/
def KeyOf (e : NotificationEvent) (data : CreateNotificationDTO) : Prop :=
  ∃ k ∈ keyTags, k.2 = data.type ∧ ∃ rest, data.idempotencyKey = some (k.1 ++ (e.subject ++ rest))

theorem keyOf_decided {type : NotificationEventType} {tag requestId : String} {db : Database}
    {e : NotificationEvent} {data : CreateNotificationDTO} (htag : (tag, type) ∈ keyTags)
    (he : e.subject = requestId) (h : data ∈ (decided type tag requestId db).flatten) :
    KeyOf e data := by
  rw [decided] at h
  split at h
  · cases h
  · simp only [List.flatten_singleton, List.mem_singleton] at h
    subst h
    exact ⟨_, htag, rfl, "", by simp [notify, he]⟩

theorem keyOf_transferred {type : NotificationEventType}
    {tag payoutId marketerId companyId : String} {db : Database} {e : NotificationEvent}
    {data : CreateNotificationDTO}
    (hmarketer : (tag ++ "marketer-", type) ∈ keyTags)
    (hcompany : (tag ++ "company-", type) ∈ keyTags) (he : e.subject = payoutId)
    (h : data ∈ (transferred type tag payoutId marketerId companyId db).flatten) :
    KeyOf e data := by
  simp only [transferred, List.flatten_cons, List.flatten_nil, List.append_nil,
    List.singleton_append, List.mem_cons, List.mem_map] at h
  rcases h with rfl | ⟨userId, -, rfl⟩
  · exact ⟨_, hmarketer, rfl, "", by simp [notify, he]⟩
  · exact ⟨_, hcompany, rfl, "-" ++ userId, by simp [notify, he, String.append_assoc]⟩

/-- The key begins with a tag of the type and what the event is about. -/
theorem keyOf_handle {db : Database} {e : NotificationEvent} {data : CreateNotificationDTO}
    (h : data ∈ (handle db e).flatten) : KeyOf e data := by
  have hone {type : NotificationEventType} {userId : String} (tag : String)
      (htag : (tag, type) ∈ keyTags) (hdata : data = notify type userId (tag ++ e.subject)) :
      KeyOf e data := by
    rw [hdata]
    exact ⟨_, htag, rfl, "", by simp [notify]⟩
  have hdash {type : NotificationEventType} {userId suffix : String} (tag : String)
      (htag : (tag, type) ∈ keyTags)
      (hdata : data = notify type userId (tag ++ e.subject ++ "-" ++ suffix)) : KeyOf e data := by
    rw [hdata]
    exact ⟨_, htag, rfl, "-" ++ suffix, by simp [notify, String.append_assoc]⟩
  have heach {type : NotificationEventType} {users : List String} (tag : String)
      (htag : (tag, type) ∈ keyTags) (hdata : data ∈ users.map fun userId =>
        notify type userId (tag ++ e.subject ++ "-" ++ userId)) : KeyOf e data := by
    obtain ⟨userId, -, hdata⟩ := List.mem_map.mp hdata
    exact hdash tag htag hdata.symm
  have hemails {type : NotificationEventType} {marketerId : String} {emails : List String}
      {told : Bool} (tag : String) (htag : (tag, type) ∈ keyTags)
      (hdata : data ∈ (if told then [notify type marketerId (tag ++ e.subject ++ "-marketer")]
        else []) ++ emails.map fun email =>
          notify type email (tag ++ e.subject ++ "-company-" ++ email)) : KeyOf e data := by
    rcases List.mem_append.mp hdata with hdata | hdata
    · split at hdata
      · rw [List.mem_singleton] at hdata
        rw [hdata]
        exact ⟨_, htag, rfl, "-marketer", by simp [notify, String.append_assoc]⟩
      · cases hdata
    · obtain ⟨email, -, rfl⟩ := List.mem_map.mp hdata
      exact ⟨_, htag, rfl, "-company-" ++ email, by simp [notify, String.append_assoc]⟩
  cases e with
  | kycApplicationSubmitted applicationId referredByMarketerId =>
    rw [handle, List.flatten_singleton] at h
    obtain ⟨r, -, hdata⟩ := List.mem_map.mp h
    exact hdash "kyc-submitted-" (by decide) hdata.symm
  | installmentOverdue installmentId userId =>
    exact hone "installment-overdue-" (by decide) (List.mem_singleton.mp h)
  | paymentConfirmed paymentId userId =>
    exact hone "payment-confirmed-" (by decide) (List.mem_singleton.mp h)
  | commissionAccrued commissionId marketerId =>
    exact hone "commission-accrued-" (by decide) (List.mem_singleton.mp h)
  | commissionTransferRequest requestId =>
    rw [handle, List.flatten_singleton] at h
    exact heach "commission-transfer-" (by decide) h
  | commissionRequestApproval requestId marketerId role =>
    simp only [handle, List.flatten_cons, List.flatten_nil, List.append_nil,
      List.mem_append] at h
    rcases h with h | h
    · obtain ⟨m, -, hdata⟩ := List.mem_map.mp h
      exact hdash "commission-status-" (by decide) hdata.symm
    · exact heach "commission-await-company-" (by decide) h
  | installmentReminder3Day installmentId customerId =>
    exact hone "reminder-3day-" (by decide) (List.mem_singleton.mp h)
  | installmentReminder1Day installmentId customerId =>
    exact hone "reminder-1day-" (by decide) (List.mem_singleton.mp h)
  | installmentDueToday installmentId customerId =>
    exact hone "due-today-" (by decide) (List.mem_singleton.mp h)
  | installmentOverdueRecurring installmentId customerId daysOverdue =>
    exact hdash "overdue-recurring-" (by decide) (List.mem_singleton.mp h)
  | installmentOverdue3Day installmentId customerId marketerId =>
    rw [handle, List.flatten_singleton, List.mem_cons] at h
    rcases h with h | h
    · exact hone "overdue-3day-customer-" (by decide) h
    · split at h
      · cases h
      · exact hone "overdue-3day-marketer-" (by decide) (List.mem_singleton.mp h)
  | installmentOverdue7Day installmentId customerId marketerId adminId =>
    rw [handle, List.flatten_singleton, List.mem_cons, List.mem_cons] at h
    rcases h with h | h | h
    · exact hone "overdue-7day-customer-" (by decide) h
    · exact hone "overdue-7day-admin-" (by decide) h
    · split at h
      · cases h
      · exact hone "overdue-7day-marketer-" (by decide) (List.mem_singleton.mp h)
  | commissionTransferInitiated payoutId marketerId =>
    exact hdash "commission-transfer-initiated-" (by decide) (List.mem_singleton.mp h)
  | commissionTransferSuccess payoutId marketerId companyId =>
    exact keyOf_transferred (by decide) (by decide) rfl h
  | commissionTransferFailed payoutId marketerId companyId =>
    exact keyOf_transferred (by decide) (by decide) rfl h
  | commissionTransferReversed payoutId marketerId companyId =>
    exact keyOf_transferred (by decide) (by decide) rfl h
  | marketerToggleRequest requestId companyId =>
    rw [handle, List.flatten_singleton] at h
    exact heach "marketer-toggle-request-" (by decide) h
  | marketerDeleteRequest requestId companyId =>
    rw [handle, List.flatten_singleton] at h
    exact heach "marketer-delete-request-" (by decide) h
  | marketerToggleApproved requestId => exact keyOf_decided (by decide) rfl h
  | marketerToggleRejected requestId => exact keyOf_decided (by decide) rfl h
  | marketerDeleteApproved requestId => exact keyOf_decided (by decide) rfl h
  | marketerDeleteRejected requestId => exact keyOf_decided (by decide) rfl h
  | contractRestructured contractId marketerId =>
    exact hdash "contract-restructured-" (by decide) (List.mem_singleton.mp h)
  | contractWrittenOff contractId recipientRole recipientId =>
    rw [List.mem_singleton.mp h]
    exact ⟨("contract-written-off-", .contractWrittenOff), by decide, rfl,
      "-" ++ recipientRole.name ++ "-" ++ recipientId, by
      simp [notify, NotificationEvent.subject, String.append_assoc]⟩
  | onboardingSessionExpired sessionId marketerId hadKycApplication companyEmails =>
    rw [handle, List.flatten_singleton] at h
    exact hemails "onboarding-expired-" (by decide) h
  | kycApplicationAutoExpired kycApplicationId marketerId hadOnboardingSession companyEmails =>
    rw [handle, List.flatten_singleton] at h
    exact hemails "kyc-auto-expired-" (by decide) h

/-- Some event, about a subject of the database, asks for the notification. -/
def Reported (data : CreateNotificationDTO) : Prop :=
  ∃ e db, isUuid e.subject = true ∧ data ∈ (handle db e).flatten

/-- Two events that ask for notifications of one key are of one type and about one subject. -/
theorem same_of_key_eq {e e' : NotificationEvent} {db db' : Database}
    {data data' : CreateNotificationDTO} (he : isUuid e.subject = true)
    (he' : isUuid e'.subject = true) (h : data ∈ (handle db e).flatten)
    (h' : data' ∈ (handle db' e').flatten) (hkey : data.idempotencyKey = data'.idempotencyKey) :
    data.type = data'.type ∧ e.subject = e'.subject := by
  obtain ⟨k, hk, htype, rest, hdata⟩ := keyOf_handle h
  obtain ⟨l, hl, htype', rest', hdata'⟩ := keyOf_handle h'
  rw [hdata, hdata', Option.some.injEq] at hkey
  obtain ⟨rfl, hsubject, -⟩ := key_injective hk hl he he' hkey
  exact ⟨htype.symm.trans htype', hsubject⟩

theorem Reported.key_eq {data : CreateNotificationDTO} (h : Reported data) :
    data.key = data.idempotencyKey ∧ data.key.isSome = true := by
  obtain ⟨e, db, he, hdata⟩ := h
  obtain ⟨k, -, -, rest, hkey⟩ := keyOf_handle hdata
  have hne : k.1 ++ (e.subject ++ rest) ≠ "" := by
    intro hempty
    have hlist := congrArg String.toList hempty
    simp only [String.toList_append, String.toList_empty, List.append_eq_nil_iff] at hlist
    obtain ⟨c, hc, -⟩ := begins_of_isUuid he
    rw [hlist.2.1] at hc
    cases hc
  simp [CreateNotificationDTO.key, hkey, hne]

/-- The row that a create for `data` writes, as far as it is fixed -/
structure Written (data : CreateNotificationDTO) (n : InternalNotification) : Prop where
  userId : n.userId = data.userId
  type : n.type = data.type
  idempotencyKey : n.idempotencyKey = data.idempotencyKey

theorem Written.follows {data : CreateNotificationDTO} {n n' : InternalNotification}
    (h : Written data n) (hn : Follows n n') : Written data n' :=
  ⟨hn.userId.trans h.userId, hn.type.trans h.type, hn.idempotencyKey.trans h.idempotencyKey⟩

structure Notified (s : NotificationState) : Prop where
  unique : NotificationStatement.KeysUnique s
  reported : ∀ n ∈ s.notifications.rows, ∃ data, Reported data ∧ Written data n

/-- Every create that the statement may be is asked for by an event. -/
def FromEvents (l : NotificationStatement) : Prop :=
  ∀ data notificationId now, l = .create data notificationId now → Reported data

/-- What the statement succeeds in notifying of, be it with a new row or with the one there is -/
def delivered (s : NotificationState) : NotificationStatement → Option CreateNotificationDTO
  | .create data notificationId now =>
    if (NotificationRepository.create data notificationId now s).isOk then some data else none
  | _ => none

section runs
open NotificationStatement
variable {s : NotificationState} {l : NotificationStatement} {ls : List NotificationStatement}
  {data : CreateNotificationDTO}

theorem written_of_created {n : InternalNotification} (hl : FromEvents l)
    (h : n ∈ created s l) : ∃ data, Reported data ∧ Written data n := by
  cases l with
  | create data notificationId now =>
    rw [created] at h
    split at h
    · cases h
      have hreported := hl data notificationId now rfl
      exact ⟨data, hreported, rfl, rfl, hreported.key_eq.1⟩
    · cases h
  | markAsRead | markManyAsRead | markAllAsRead | archive | other => cases h

theorem notified_execute (h : Notified s) (hl : FromEvents l) : Notified (execute s l) where
  unique := keysUnique_execute h.unique l
  reported n hn := by
    rw [rows_execute, List.mem_append, List.mem_map, Option.mem_toList] at hn
    rcases hn with ⟨m, hm, rfl⟩ | hn
    · obtain ⟨data, hdata, hwritten⟩ := h.reported m hm
      exact ⟨data, hdata, hwritten.follows (follows_change l m).1⟩
    · exact written_of_created hl hn

theorem exists_row_of_delivered (hl : FromEvents l) (h : delivered s l = some data) :
    Reported data ∧
      ∃ n ∈ (execute s l).notifications.rows, n.idempotencyKey = data.idempotencyKey := by
  cases l with
  | create data' notificationId now =>
    rw [delivered] at h
    split at h
    · rename_i hok
      cases h
      have hreported := hl data notificationId now rfl
      obtain ⟨hkey, hsome⟩ := hreported.key_eq
      refine ⟨hreported, ?_⟩
      rw [rows_execute_create, created]
      cases haccepted : accepted data notificationId now s with
      | true => exact ⟨data.row notificationId now, by simp, hkey⟩
      | false =>
        obtain ⟨key, hdata⟩ := Option.isSome_iff_exists.mp hsome
        rw [NotificationRepository.create, hdata] at hok
        dsimp only at hok
        cases hfind : NotificationRepository.findKey key s with
        | some n =>
          have hmatch := List.find?_some hfind
          simp only [decide_eq_true_eq] at hmatch
          exact ⟨n, List.mem_append_left _ (List.mem_of_find?_eq_some hfind),
            hmatch.trans (hdata.symm.trans hkey)⟩
        | none =>
          have hrefused : insertable (data.row notificationId now) s = false := by
            simpa [accepted, hdata, hfind] using haccepted
          obtain ⟨err, herr⟩ := insert_of_not_insertable hrefused
          rw [hfind, herr] at hok
          cases hok
    · cases h
  | markAsRead | markManyAsRead | markAllAsRead | archive | other => cases h

end runs

end NotificationOrchestrator
end InstalFlow
