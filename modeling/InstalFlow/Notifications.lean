import InstalFlow.Relational.Rows
import InstalFlow.Relational.UniqueOn
import InstalFlow.Schema
import InstalFlow.Transition.Run

/-!
# Internal notifications

The statements of the repository, each of which is executed at once, in any order and by
any number of requests and handlers. A notification is created under an idempotency key
when none has it, and from then on only the statements of its user change it: it is read,
and archived. Titles, messages and metadata are written once and only listed.
-/

namespace InstalFlow
open Relational Transition

inductive InternalNotificationStatus
  | unread | read | archived
deriving DecidableEq, Repr

inductive NotificationEventType
  | kycApplicationSubmitted | installmentOverdue | paymentConfirmed | commissionAccrued
  | commissionTransferRequest | commissionRequestApproval | installmentReminder3Day
  | installmentReminder1Day | installmentDueToday | installmentOverdueRecurring
  | installmentOverdue3Day | installmentOverdue7Day | commissionTransferInitiated
  | commissionTransferSuccess | commissionTransferFailed | commissionTransferReversed
  | marketerToggleRequest | marketerDeleteRequest | marketerToggleApproved
  | marketerToggleRejected | marketerDeleteApproved | marketerDeleteRejected
  | contractRestructured | contractWrittenOff | onboardingSessionExpired
  | kycApplicationAutoExpired
deriving DecidableEq, Repr

structure InternalNotification where
  notificationId : String
  userId : String
  type : NotificationEventType
  status : InternalNotificationStatus := .unread
  readAt : Option DateTime := none
  idempotencyKey : Option String := none
  createdAt : DateTime
deriving DecidableEq

structure NotificationState where
  db : Database := {}
  notifications : Table InternalNotification.notificationId := .empty

structure CreateNotificationDTO where
  userId : String
  type : NotificationEventType
  idempotencyKey : Option String := none
deriving DecidableEq

/-- An absent key and the empty one are no key. -/
def CreateNotificationDTO.key (data : CreateNotificationDTO) : Option String :=
  data.idempotencyKey.filter (fun key => key ≠ "")

def CreateNotificationDTO.row (data : CreateNotificationDTO) (notificationId : String)
    (now : DateTime) : InternalNotification where
  notificationId := notificationId
  userId := data.userId
  type := data.type
  idempotencyKey := data.key
  createdAt := now

namespace NotificationRepository

def findKey (key : String) (s : NotificationState) : Option InternalNotification :=
  s.notifications.rows.find? (fun n => n.idempotencyKey = some key)

def insert (n : InternalNotification) (s : NotificationState) :
    Except AppError NotificationState :=
  if (s.db.users.find? n.userId).isSome then
    (createRow s.notifications n ["notificationId"]).map
      fun notifications => { s with notifications }
  else .error (.error "Foreign key constraint violated")

/-- With a key an `upsert` that updates nothing -/
def create (data : CreateNotificationDTO) (notificationId : String) (now : DateTime)
    (s : NotificationState) : Except AppError NotificationState :=
  match data.key with
  | none => insert (data.row notificationId now) s
  | some key =>
    match findKey key s with
    | some _ => .ok s
    | none => insert (data.row notificationId now) s

def findById (userId notificationId : String) (s : NotificationState) :
    Option InternalNotification :=
  s.notifications.rows.find? (fun n => n.userId = userId ∧ n.notificationId = notificationId)

def unread (userId : String) (n : InternalNotification) : Bool :=
  n.userId = userId ∧ n.status = .unread

def countUnread (userId : String) (s : NotificationState) : ℕ :=
  s.notifications.rows.countP (unread userId)

def readRow (now : DateTime) (n : InternalNotification) : InternalNotification :=
  { n with status := .read, readAt := some now }

/-- The `updateMany` of the statements that mark notifications as read, with its `count` -/
def markWhere (p : InternalNotification → Bool) (now : DateTime) (s : NotificationState) :
    NotificationState × ℕ :=
  ({ s with notifications := s.notifications.updateMany p (readRow now) },
    s.notifications.rows.countP p)

def markAsRead (userId notificationId : String) : DateTime → NotificationState →
    NotificationState × ℕ :=
  markWhere fun n => unread userId n ∧ n.notificationId = notificationId

def markManyAsRead (userId : String) (notificationIds : List String) : DateTime →
    NotificationState → NotificationState × ℕ :=
  markWhere fun n => unread userId n ∧ n.notificationId ∈ notificationIds

def markAllAsRead (userId : String) : DateTime → NotificationState → NotificationState × ℕ :=
  markWhere (unread userId)

def archivedRow (n : InternalNotification) : InternalNotification := { n with status := .archived }

def archive (userId notificationId : String) (s : NotificationState) : NotificationState × ℕ :=
  ({ s with
      notifications := s.notifications.updateMany
        (fun n => n.userId = userId ∧ n.notificationId = notificationId) archivedRow },
    s.notifications.rows.countP fun n => n.userId = userId ∧ n.notificationId = notificationId)

end NotificationRepository

namespace InternalNotificationService

def getUnreadCount (userId : String) (s : NotificationState) : ℕ :=
  NotificationRepository.countUnread userId s

/-- The row is looked up and then marked, by two statements. -/
def markAsRead (userId notificationId : String) (now : DateTime) (s : NotificationState) :
    Except AppError NotificationState :=
  match NotificationRepository.findById userId notificationId s with
  | none => .error (.notFound "Notification not found.")
  | some _ => .ok (NotificationRepository.markAsRead userId notificationId now s).1

def markSelectedAsRead (userId : String) (notificationIds : List String) (now : DateTime)
    (s : NotificationState) : NotificationState × ℕ :=
  NotificationRepository.markManyAsRead userId notificationIds now s

def markAllAsRead (userId : String) (now : DateTime) (s : NotificationState) :
    NotificationState × ℕ :=
  NotificationRepository.markAllAsRead userId now s

end InternalNotificationService

inductive NotificationStatement
  | create (data : CreateNotificationDTO) (notificationId : String) (now : DateTime)
  | markAsRead (userId notificationId : String) (now : DateTime)
  | markManyAsRead (userId : String) (notificationIds : List String) (now : DateTime)
  | markAllAsRead (userId : String) (now : DateTime)
  | archive (userId notificationId : String)
  /-- Anything else; no user is ever deleted, so no notification goes with one. -/
  | other (db : Database)

namespace NotificationStatement
open NotificationRepository

/-- A refused insertion leaves everything as it is. -/
def execute (s : NotificationState) : NotificationStatement → NotificationState
  | create data notificationId now =>
    match NotificationRepository.create data notificationId now s with
    | .ok s' => s'
    | .error _ => s
  | markAsRead userId notificationId now =>
    (NotificationRepository.markAsRead userId notificationId now s).1
  | markManyAsRead userId notificationIds now =>
    (NotificationRepository.markManyAsRead userId notificationIds now s).1
  | markAllAsRead userId now => (NotificationRepository.markAllAsRead userId now s).1
  | archive userId notificationId => (NotificationRepository.archive userId notificationId s).1
  | other db => { s with db }

/-- A call that does not find the notification would have marked nothing. -/
theorem execute_markAsRead (userId notificationId : String) (now : DateTime)
    (s : NotificationState) :
    (InternalNotificationService.markAsRead userId notificationId now s).toOption.getD s =
      execute s (markAsRead userId notificationId now) := by
  rw [InternalNotificationService.markAsRead, execute]
  cases hfound : findById userId notificationId s with
  | some n => rfl
  | none =>
    have hnone : ∀ n ∈ s.notifications.rows,
        decide (unread userId n = true ∧ n.notificationId = notificationId) = false := by
      intro n hn
      have hmiss := List.find?_eq_none.mp hfound n hn
      simp only [decide_eq_true_eq] at hmiss
      simp only [unread, decide_eq_true_eq, decide_eq_false_iff_not]
      exact fun h => hmiss ⟨h.1.1, h.2⟩
    have hsame : s.notifications.updateMany
        (fun n => unread userId n = true ∧ n.notificationId = notificationId) (readRow now) =
          s.notifications :=
      Table.updateMany_eq_self hnone
    exact congrArg (fun notifications => { s with notifications }) hsame.symm

/-- The user whose statement it is -/
def user : NotificationStatement → Option String
  | markAsRead userId _ _ | markManyAsRead userId _ _ | markAllAsRead userId _
  | archive userId _ => some userId
  | create _ _ _ | other _ => none

/-- The rows that the statement marks as read -/
def marks : NotificationStatement → InternalNotification → Bool
  | markAsRead userId notificationId _, n => unread userId n ∧ n.notificationId = notificationId
  | markManyAsRead userId notificationIds _, n =>
    unread userId n ∧ n.notificationId ∈ notificationIds
  | markAllAsRead userId _, n => unread userId n
  | archive _ _, _ | create _ _ _, _ | other _, _ => false

/-- What the statement makes of a row that is there -/
def change : NotificationStatement → InternalNotification → InternalNotification
  | markAsRead userId notificationId now, n =>
    if (markAsRead userId notificationId now).marks n then readRow now n else n
  | markManyAsRead userId notificationIds now, n =>
    if (markManyAsRead userId notificationIds now).marks n then readRow now n else n
  | markAllAsRead userId now, n =>
    if (markAllAsRead userId now).marks n then readRow now n else n
  | archive userId notificationId, n =>
    if n.userId = userId ∧ n.notificationId = notificationId then archivedRow n else n
  | create _ _ _, n | other _, n => n

/-- The user exists, and the identifier is new. -/
def insertable (n : InternalNotification) (s : NotificationState) : Bool :=
  (s.db.users.find? n.userId).isSome ∧ (s.notifications.find? n.notificationId).isNone

def accepted (data : CreateNotificationDTO) (notificationId : String) (now : DateTime)
    (s : NotificationState) : Bool :=
  data.key.all (fun key => (findKey key s).isNone) ∧ insertable (data.row notificationId now) s

/-- The row that the statement adds -/
def created (s : NotificationState) : NotificationStatement → Option InternalNotification
  | create data notificationId now =>
    if accepted data notificationId now s then some (data.row notificationId now) else none
  | _ => none

variable {s : NotificationState} {l : NotificationStatement} {n : InternalNotification}
  {data : CreateNotificationDTO} {notificationId : String} {now : DateTime}

theorem insert_of_insertable (h : insertable n s = true) : ∃ s',
    NotificationRepository.insert n s = .ok s' ∧
      s'.notifications.rows = s.notifications.rows ++ [n] := by
  simp only [insertable, Option.isNone_iff_eq_none, decide_eq_true_eq] at h
  obtain ⟨huser, hid⟩ := h
  obtain ⟨notifications, hcreate⟩ := Table.create_isSome hid
  refine ⟨{ s with notifications }, ?_, (Table.create_eq_some hcreate).2⟩
  rw [NotificationRepository.insert, if_pos huser, createRow_eq_ok.mpr hcreate]
  rfl

theorem insert_of_not_insertable (h : insertable n s = false) :
    ∃ err, NotificationRepository.insert n s = .error err := by
  rw [NotificationRepository.insert]
  split
  · rename_i huser
    cases hcreate : createRow s.notifications n ["notificationId"] with
    | error err => exact ⟨err, rfl⟩
    | ok notifications =>
      have hid := (Table.create_eq_some (createRow_eq_ok.mp hcreate)).1
      simp [insertable, huser, hid] at h
  · exact ⟨_, rfl⟩

theorem create_of_accepted (h : accepted data notificationId now s = true) : ∃ s',
    NotificationRepository.create data notificationId now s = .ok s' ∧
      s'.notifications.rows = s.notifications.rows ++ [data.row notificationId now] := by
  simp only [accepted, decide_eq_true_eq] at h
  obtain ⟨hfree, hinsertable⟩ := h
  rw [NotificationRepository.create]
  cases hkey : data.key with
  | none => exact insert_of_insertable hinsertable
  | some key =>
    rw [hkey, Option.all_some, Option.isNone_iff_eq_none] at hfree
    simp only [hfree]
    exact insert_of_insertable hinsertable

theorem create_of_not_accepted (h : accepted data notificationId now s = false) :
    (∃ err, NotificationRepository.create data notificationId now s = .error err) ∨
      NotificationRepository.create data notificationId now s = .ok s := by
  rw [NotificationRepository.create]
  cases hkey : data.key with
  | none =>
    refine .inl (insert_of_not_insertable ?_)
    simpa [accepted, hkey] using h
  | some key =>
    cases hfind : findKey key s with
    | some m =>
      simp only [hfind]
      exact .inr trivial
    | none =>
      simp only [hfind]
      refine .inl (insert_of_not_insertable ?_)
      simpa [accepted, hkey, hfind] using h

theorem rows_execute_create (s : NotificationState) (data : CreateNotificationDTO)
    (notificationId : String) (now : DateTime) :
    (execute s (.create data notificationId now)).notifications.rows = s.notifications.rows ++
      (created s (.create data notificationId now)).toList := by
  rw [execute, created]
  cases haccepted : accepted data notificationId now s with
  | true =>
    obtain ⟨s', hcreate, hrows⟩ := create_of_accepted haccepted
    rw [hcreate]
    exact hrows
  | false =>
    rw [if_neg Bool.false_ne_true, Option.toList_none, List.append_nil]
    rcases create_of_not_accepted haccepted with ⟨err, hcreate⟩ | hcreate <;> rw [hcreate]

/-- All that a statement does: it changes the rows there are, and adds at most one. -/
theorem rows_execute (s : NotificationState) (l : NotificationStatement) :
    (execute s l).notifications.rows =
      s.notifications.rows.map l.change ++ (created s l).toList := by
  cases l with
  | create data notificationId now =>
    rw [rows_execute_create]
    exact congrArg (· ++ _) (List.map_id _).symm
  | markAsRead userId notificationId now => exact (List.append_nil _).symm
  | markManyAsRead userId notificationIds now => exact (List.append_nil _).symm
  | markAllAsRead userId now => exact (List.append_nil _).symm
  | archive userId notificationId =>
    refine Eq.trans ?_ (List.append_nil _).symm
    exact List.map_congr_left fun n _ => by simp [change]
  | other db =>
    refine Eq.trans ?_ (List.append_nil _).symm
    exact (List.map_id _).symm

end NotificationStatement

def InternalNotificationStatus.rank : InternalNotificationStatus → ℕ
  | unread => 0
  | read => 1
  | archived => 2

/-- What becomes of a notification: it stays the same message to the same user, its status
only moves on, and the time it was read at is written once. -/
structure Follows (n n' : InternalNotification) : Prop where
  notificationId : n'.notificationId = n.notificationId
  userId : n'.userId = n.userId
  type : n'.type = n.type
  idempotencyKey : n'.idempotencyKey = n.idempotencyKey
  createdAt : n'.createdAt = n.createdAt
  rank_le : n.status.rank ≤ n'.status.rank
  readAt : n.status ≠ .unread → n'.readAt = n.readAt
  isSome_readAt : n'.status = .read → n.status = .read ∨ n'.readAt.isSome = true

namespace Follows
variable {n n' n'' : InternalNotification}

theorem refl (n : InternalNotification) : Follows n n :=
  ⟨rfl, rfl, rfl, rfl, rfl, le_rfl, fun _ => rfl, .inl⟩

theorem trans (h : Follows n n') (h' : Follows n' n'') : Follows n n'' where
  notificationId := h'.notificationId.trans h.notificationId
  userId := h'.userId.trans h.userId
  type := h'.type.trans h.type
  idempotencyKey := h'.idempotencyKey.trans h.idempotencyKey
  createdAt := h'.createdAt.trans h.createdAt
  rank_le := h.rank_le.trans h'.rank_le
  readAt hn := by
    refine (h'.readAt fun hn' => hn ?_).trans (h.readAt hn)
    have hle := h.rank_le
    rw [hn'] at hle
    cases hstatus : n.status with
    | unread => rfl
    | read => simp [hstatus, InternalNotificationStatus.rank] at hle
    | archived => simp [hstatus, InternalNotificationStatus.rank] at hle
  isSome_readAt hn'' := by
    rcases h'.isSome_readAt hn'' with hn' | hsome
    · refine (h.isSome_readAt hn').imp id fun hsome => ?_
      rw [h'.readAt (by simp [hn'])]
      exact hsome
    · exact .inr hsome

end Follows

namespace NotificationStatement
open NotificationRepository
variable {s : NotificationState} {l : NotificationStatement} {n : InternalNotification}

theorem marks_unread (h : l.marks n = true) : n.status = .unread ∧ l.user = some n.userId := by
  cases l <;> simp_all [marks, unread, user]

theorem follows_readRow (now : DateTime) (h : n.status = .unread) : Follows n (readRow now n) where
  notificationId := rfl
  userId := rfl
  type := rfl
  idempotencyKey := rfl
  createdAt := rfl
  rank_le := by simp [h, InternalNotificationStatus.rank]
  readAt hn := absurd h hn
  isSome_readAt _ := .inr rfl

theorem follows_archivedRow (n : InternalNotification) : Follows n (archivedRow n) where
  notificationId := rfl
  userId := rfl
  type := rfl
  idempotencyKey := rfl
  createdAt := rfl
  rank_le := by cases hstatus : n.status <;> simp [archivedRow, InternalNotificationStatus.rank]
  readAt _ := rfl
  isSome_readAt h := by cases h

/-- Only a statement of its user changes a notification. -/
theorem follows_change (l : NotificationStatement) (n : InternalNotification) :
    Follows n (l.change n) ∧ (l.user ≠ some n.userId → l.change n = n) := by
  have hmarked (l : NotificationStatement) (now : DateTime) :
      Follows n (if l.marks n then readRow now n else n) ∧
        (l.user ≠ some n.userId → (if l.marks n then readRow now n else n) = n) := by
    split
    · rename_i hmarks
      obtain ⟨hunread, huser⟩ := marks_unread hmarks
      exact ⟨follows_readRow now hunread, fun hother => absurd huser hother⟩
    · exact ⟨Follows.refl n, fun _ => rfl⟩
  cases l with
  | create data notificationId now => exact ⟨Follows.refl n, fun _ => rfl⟩
  | markAsRead userId notificationId now => exact hmarked _ now
  | markManyAsRead userId notificationIds now => exact hmarked _ now
  | markAllAsRead userId now => exact hmarked _ now
  | archive userId notificationId =>
    rw [change]
    split
    · rename_i howned
      exact ⟨follows_archivedRow n, fun hother => absurd (congrArg some howned.1.symm) hother⟩
    · exact ⟨Follows.refl n, fun _ => rfl⟩
  | other db => exact ⟨Follows.refl n, fun _ => rfl⟩

theorem change_mem_execute (hn : n ∈ s.notifications.rows) (l : NotificationStatement) :
    l.change n ∈ (execute s l).notifications.rows := by
  rw [rows_execute]
  exact List.mem_append_left _ (List.mem_map_of_mem hn)

theorem exists_follows_run (hn : n ∈ s.notifications.rows) (ls : List NotificationStatement) :
    ∃ n' ∈ (run execute s ls).notifications.rows, Follows n n' ∧
      ((∀ l ∈ ls, l.user ≠ some n.userId) → n' = n) := by
  induction ls generalizing s n with
  | nil => exact ⟨n, hn, Follows.refl n, fun _ => rfl⟩
  | cons l ls ih =>
    obtain ⟨hfollows, hsame⟩ := follows_change l n
    obtain ⟨n', hn', hfollows', hsame'⟩ := ih (change_mem_execute hn l)
    refine ⟨n', hn', hfollows.trans hfollows', fun hother => ?_⟩
    have hstep := hsame (hother l List.mem_cons_self)
    rw [hstep] at hsame'
    exact hsame' fun l' hl' => hother l' (List.mem_cons_of_mem l hl')

/-- The notifications that the statement takes from the unread ones of the user: the
`count` of an update that marks them, or those unread among the archived ones -/
def taken (userId : String) (s : NotificationState) : NotificationStatement → ℕ
  | markAsRead u notificationId now =>
    if u = userId then (NotificationRepository.markAsRead u notificationId now s).2 else 0
  | markManyAsRead u notificationIds now =>
    if u = userId then (NotificationRepository.markManyAsRead u notificationIds now s).2 else 0
  | markAllAsRead u now =>
    if u = userId then (NotificationRepository.markAllAsRead u now s).2 else 0
  | archive u notificationId =>
    if u = userId then s.notifications.rows.countP fun n =>
      unread u n ∧ n.notificationId = notificationId
    else 0
  | create _ _ _ | other _ => 0

/-- The rows that the statement takes from the unread ones of the user -/
def takes (userId : String) : NotificationStatement → InternalNotification → Bool
  | markAsRead u notificationId now, n => u = userId ∧ (markAsRead u notificationId now).marks n
  | markManyAsRead u notificationIds now, n =>
    u = userId ∧ (markManyAsRead u notificationIds now).marks n
  | markAllAsRead u now, n => u = userId ∧ (markAllAsRead u now).marks n
  | archive u notificationId, n =>
    u = userId ∧ decide (unread u n ∧ n.notificationId = notificationId)
  | create _ _ _, _ | other _, _ => false

theorem taken_eq_countP (userId : String) (s : NotificationState) (l : NotificationStatement) :
    taken userId s l = s.notifications.rows.countP (takes userId l) := by
  have hall (q : InternalNotification → Bool) (u : String) :
      (if u = userId then s.notifications.rows.countP q else 0) =
        s.notifications.rows.countP fun n => decide (u = userId ∧ q n = true) := by
    by_cases hu : u = userId <;> simp [hu]
  cases l with
  | create data notificationId now => exact (congrFun List.countP_false _).symm
  | markAsRead u notificationId now => exact hall _ u
  | markManyAsRead u notificationIds now => exact hall _ u
  | markAllAsRead u now => exact hall _ u
  | archive u notificationId => exact hall _ u
  | other db => exact (congrFun List.countP_false _).symm

theorem takes_unread {userId : String} (h : takes userId l n = true) :
    unread userId n = true := by
  cases l <;> simp_all [takes, marks, unread]

theorem unread_change (userId : String) (l : NotificationStatement) (n : InternalNotification) :
    unread userId (l.change n) = true ↔ unread userId n = true ∧ takes userId l n = false := by
  have hmarked {l : NotificationStatement} {u : String} (hu : l.user = some u) (now : DateTime) :
      unread userId (if l.marks n then readRow now n else n) = true ↔
        unread userId n = true ∧ decide (u = userId ∧ l.marks n = true) = false := by
    by_cases hmarks : l.marks n = true
    · obtain ⟨hunread, huser⟩ := marks_unread hmarks
      rw [hu, Option.some.injEq] at huser
      simp [hmarks, unread, readRow, hunread, huser]
    · simp [hmarks]
  cases l with
  | create data notificationId now => simp [change, takes]
  | markAsRead u notificationId now => exact hmarked rfl now
  | markManyAsRead u notificationIds now => exact hmarked rfl now
  | markAllAsRead u now => exact hmarked rfl now
  | archive u notificationId =>
    by_cases howned : n.userId = u ∧ n.notificationId = notificationId
    · simp [change, takes, unread, archivedRow, howned]
    · simp only [change, if_neg howned, takes, unread, Bool.decide_and, Bool.decide_eq_true]
      grind
  | other db => simp [change, takes]

theorem status_created (h : n ∈ created s l) : n.status = .unread := by
  cases l with
  | create data notificationId now =>
    rw [created] at h
    split at h <;> cases h
    rfl
  | markAsRead | markManyAsRead | markAllAsRead | archive | other => cases h

/-- One statement: the unread ones after it and those it takes are those before it and a
new one. -/
theorem countUnread_execute (userId : String) (s : NotificationState) (l : NotificationStatement) :
    countUnread userId (execute s l) + taken userId s l =
      countUnread userId s + (created s l).toList.countP (fun n => n.userId = userId) := by
  have hmarked : ∀ n ∈ s.notifications.rows, takes userId l n = true → unread userId n = true :=
    fun n _ => takes_unread
  have hold := Table.countP_map_add hmarked fun n _ => unread_change userId l n
  have hnew : (created s l).toList.countP (unread userId) =
      (created s l).toList.countP (fun n => n.userId = userId) := by
    refine List.countP_congr fun n hn => ?_
    simp [unread, status_created (Option.mem_toList.mp hn)]
  rw [countUnread, rows_execute, List.countP_append, hnew, taken_eq_countP, countUnread]
  omega


/-- In every run the unread notifications of a user are those that were unread or have been
created for the user, less those that the user has been told of as updated or has archived. -/
theorem countUnread_run (userId : String) (s : NotificationState)
    (ls : List NotificationStatement) :
    countUnread userId (run execute s ls) +
        (history execute (fun s l => some (taken userId s l)) s ls).sum =
      countUnread userId s +
        (history execute created s ls).countP (fun n => n.userId = userId) := by
  induction ls generalizing s with
  | nil => rfl
  | cons l ls ih =>
    have hrest := ih (execute s l)
    have hstep := countUnread_execute userId s l
    rw [run_cons, history, history, List.sum_append, List.countP_append, Option.toList_some,
      List.sum_singleton]
    omega

/-- The second statement of a request that has found the notification -/
theorem not_unread_of_mem (hn : n ∈ s.notifications.rows) (now : DateTime) :
    ∃ n' ∈ (execute s (.markAsRead n.userId n.notificationId now)).notifications.rows,
      Follows n n' ∧ n'.status ≠ .unread := by
  refine ⟨_, change_mem_execute hn _, (follows_change _ n).1, ?_⟩
  simp only [change, marks, unread, Bool.decide_and, decide_true, Bool.true_and, Bool.and_true,
    decide_eq_true_eq]
  split
  · simp [readRow]
  · assumption

/-- Whatever is executed, and in whatever order: a notification stays what it is until its
user reads it or puts it away, it is never lost, and what has been read is not unread again.
A request of its user that has found it marks it, whatever is executed in between. -/
theorem notification_kept (hn : n ∈ s.notifications.rows) (ls : List NotificationStatement) :
    (∃ n' ∈ (run execute s ls).notifications.rows, Follows n n' ∧
      ((∀ l ∈ ls, l.user ≠ some n.userId) → n' = n)) ∧
    ∀ now, ∃ n' ∈ (execute (run execute s ls)
        (.markAsRead n.userId n.notificationId now)).notifications.rows,
      Follows n n' ∧ n'.status ≠ .unread := by
  have hrun := exists_follows_run hn ls
  refine ⟨hrun, fun now => ?_⟩
  obtain ⟨m, hm, hfollows, -⟩ := hrun
  rw [← hfollows.userId, ← hfollows.notificationId]
  obtain ⟨n', hn', hfollows', hread⟩ := not_unread_of_mem hm now
  exact ⟨n', hn', hfollows.trans hfollows', hread⟩

/-- Its own user reads it, another one does not. -/
theorem notification_kept_two_readers :
    let n : InternalNotification :=
      { notificationId := "n", userId := "u", type := .paymentConfirmed, createdAt := 1 }
    let ls : List NotificationStatement :=
      [.markAllAsRead "v" 2, .archive "v" "n", .markAsRead "u" "n" 3]
    ∃ n' ∈ (run execute { notifications := ⟨[n], List.nodup_singleton _⟩ } ls).notifications.rows,
      Follows n n' ∧ ((∀ l ∈ ls, l.user ≠ some n.userId) → n' = n) :=
  (notification_kept List.mem_cons_self _).1

/-- No two notifications have the same key. -/
def KeysUnique (s : NotificationState) : Prop :=
  s.notifications.UniqueOn (fun n => n.idempotencyKey.isSome = true)
    InternalNotification.idempotencyKey

theorem findKey_of_created (h : n ∈ created s l) {key : String}
    (hkey : n.idempotencyKey = some key) : findKey key s = none := by
  cases l with
  | create data notificationId now =>
    rw [created] at h
    split at h
    · rename_i haccepted
      cases h
      simp only [accepted, decide_eq_true_eq] at haccepted
      have hdata : data.key = some key := hkey
      simpa [hdata] using haccepted.1
    · cases h
  | markAsRead | markManyAsRead | markAllAsRead | archive | other => cases h

theorem keysUnique_execute (h : KeysUnique s) (l : NotificationStatement) :
    KeysUnique (execute s l) := by
  have hnew {m m' : InternalNotification} (hm : m ∈ s.notifications.rows)
      (hm' : m' ∈ created s l) (hsome : m'.idempotencyKey.isSome = true)
      (he : m.idempotencyKey = m'.idempotencyKey) : False := by
    obtain ⟨key, hkey⟩ := Option.isSome_iff_exists.mp hsome
    have hfree := List.find?_eq_none.mp (findKey_of_created hm' hkey) m hm
    simp [he, hkey] at hfree
  have hkeep (m : InternalNotification) := (follows_change l m).1
  intro m hm m' hm' hsome hsome' he
  rw [rows_execute, List.mem_append, List.mem_map, Option.mem_toList] at hm hm'
  rcases hm with ⟨r, hr, rfl⟩ | hm <;> rcases hm' with ⟨r', hr', rfl⟩ | hm'
  · rw [(hkeep r).idempotencyKey] at hsome he
    rw [(hkeep r').idempotencyKey] at hsome' he
    rw [(hkeep r).notificationId, (hkeep r').notificationId]
    exact h r hr r' hr' hsome hsome' he
  · rw [(hkeep r).idempotencyKey] at he
    exact (hnew hr hm' hsome' he).elim
  · rw [(hkeep r').idempotencyKey] at he
    exact (hnew hr' hm hsome he.symm).elim
  · rw [Option.mem_unique hm hm']

end NotificationStatement
end InstalFlow
