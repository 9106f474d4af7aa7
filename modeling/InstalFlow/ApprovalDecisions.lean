import InstalFlow.UserManagementService
import InstalFlow.Transition.Interleaving

/-!
# Decisions on an approval request

Reviewers decide requests while the company toggles the same marketers directly. A
review reads the pending request, then the target, and commits its decision by id with
what it has read; a direct toggle does the same with the marketer.
-/

namespace InstalFlow
open Relational Transition UserManagementService

/-- What a review does with a request. -/
def HandleApproval.decision (data : HandleApproval) : ApprovalStatus :=
  if data.status = .rejected then .rejected else .approved

/-- How far a review or a direct toggle has come, with what it has read. -/
inductive ReviewThread
  | handling (companyId requestId : String) (data : HandleApproval) (now : DateTime)
  | including (request : ApprovalRequest) (data : HandleApproval) (now : DateTime)
  | deciding (request : ApprovalRequest) (target : User) (data : HandleApproval) (now : DateTime)
  | toggling (companyId companyUserId marketerId : String)
  | flipping (marketer : User)
  | returned
  | refused (err : AppError)

namespace ReviewThread

/-- The next statement. Both transactions commit as one statement each. -/
def next (db : Database) : ReviewThread → Database × ReviewThread
  | handling companyId requestId data now =>
    match findPendingRequest companyId requestId db with
    | none => (db, refused (.notFound "Pending approval request not found"))
    | some request => (db, including request data now)
  | including request data now =>
    match db.users.find? request.targetUserId with
    | none => (db, refused (.notFound "Pending approval request not found"))
    | some target => (db, deciding request target data now)
  | deciding request target data now =>
    ((decideApproval request target data now db).2, returned)
  | toggling companyId companyUserId marketerId =>
    match findMarketer companyId companyUserId marketerId db with
    | none => (db, refused (.notFound
        "Marketer not found or you do not have permission to manage this marketer"))
    | some marketer => (db, flipping marketer)
  | flipping marketer => (setActive marketer.userId (!marketer.active) db, returned)
  | t => (db, t)

/-- What the next statement decides on the request. The requested action is executed
where this is an approval, in the same transaction. -/
def decision? (requestId : String) : ReviewThread → Option ApprovalStatus
  | deciding request _ data _ =>
    if request.requestId = requestId then some data.decision else none
  | _ => none

/-- The target, as it was read, that the next statement toggles for the request. -/
def toggled? (requestId : String) : ReviewThread → Option User
  | deciding request target data _ =>
    if request.requestId = requestId ∧ data.decision = .approved ∧ request.action = .toggleActive
    then some target else none
  | _ => none

end ReviewThread

/-- A review on its own is `handleApprovalRequest`. -/
theorem handleApprovalRequest_alone (companyId requestId : String) (data : HandleApproval)
    (now : DateTime) (db : Database) :
    ((fun s : Database × ReviewThread => s.2.next s.1)^[3]
      (db, .handling companyId requestId data now)).1 =
        committed db Prod.snd (handleApprovalRequest companyId requestId data now db) := by
  set f := fun s : Database × ReviewThread => s.2.next s.1
  have hstep (t : ReviewThread) : f (db, t) = t.next db := rfl
  rw [Function.iterate_succ_apply, hstep, ReviewThread.next, handleApprovalRequest, findApproval]
  cases findPendingRequest companyId requestId db with
  | none => rfl
  | some request =>
    dsimp only
    rw [Function.iterate_succ_apply, hstep, ReviewThread.next, Option.bind_some]
    cases db.users.find? request.targetUserId with
    | none => rfl
    | some target => rfl

theorem toggleCompanyMarketerStatus_alone (companyId companyUserId marketerId : String)
    (db : Database) :
    ((fun s : Database × ReviewThread => s.2.next s.1)^[2]
      (db, .toggling companyId companyUserId marketerId)).1 =
        committed db Prod.snd
          (toggleCompanyMarketerStatus companyId companyUserId marketerId db) := by
  set f := fun s : Database × ReviewThread => s.2.next s.1
  have hstep (t : ReviewThread) : f (db, t) = t.next db := rfl
  rw [Function.iterate_succ_apply, hstep, ReviewThread.next, toggleCompanyMarketerStatus]
  cases hfound : findMarketer companyId companyUserId marketerId db with
  | none => rfl
  | some marketer =>
    obtain rfl := Table.find?_key (findMarketer_eq_some hfound).1
    rfl

/-! The request and the flag in front of and behind one statement. -/

def requestStatus (requestId : String) (db : Database) : Option ApprovalStatus :=
  (db.approvalRequests.find? requestId).map (·.status)

def activeFlag (userId : String) (db : Database) : Option Bool :=
  (db.users.find? userId).map (·.active)

section statement
variable {db : Database} {requestId : String}

theorem requestStatus_updateRequest {id : String} {f : ApprovalRequest → ApprovalRequest}
    {hf : ∀ r, (f r).requestId = r.requestId} {status : ApprovalStatus}
    (hstatus : ∀ r, (f r).status = status) (hrow : requestStatus requestId db ≠ none) :
    requestStatus requestId (updateRequest db id f hf) =
      if id = requestId then some status else requestStatus requestId db := by
  have hfind : (updateRequest db id f hf).approvalRequests.find? requestId =
      if requestId = id then (db.approvalRequests.find? requestId).map f
      else db.approvalRequests.find? requestId :=
    Table.find?_update db.approvalRequests id requestId f hf
  rw [requestStatus, hfind]
  by_cases hid : id = requestId
  · rw [if_pos hid.symm, if_pos hid]
    cases hfound : db.approvalRequests.find? requestId with
    | none => simp [requestStatus, hfound] at hrow
    | some r => simp [hstatus]
  · rw [if_neg (Ne.symm hid), if_neg hid, requestStatus]

theorem requestStatus_decideApproval {request : ApprovalRequest} {target : User}
    {data : HandleApproval} {now : DateTime} (hrow : requestStatus requestId db ≠ none) :
    requestStatus requestId (decideApproval request target data now db).2 =
      if request.requestId = requestId then some data.decision
      else requestStatus requestId db := by
  rw [decideApproval, HandleApproval.decision]
  by_cases hrejected : data.status = .rejected
  · rw [if_pos hrejected, if_pos hrejected]
    exact requestStatus_updateRequest (fun _ => rfl) hrow
  · rw [if_neg hrejected, if_neg hrejected, approveRequest]
    have hupdate : requestStatus requestId (updateRequest db request.requestId
        (fun r => { r with status := .approved, reviewedAt := some now }) (fun _ => rfl)) =
        if request.requestId = requestId then some .approved else requestStatus requestId db :=
      requestStatus_updateRequest (fun _ => rfl) hrow
    cases request.action with
    | toggleActive => exact hupdate
    | softDelete => exact hupdate

/-- The status of a request is overwritten by each decision on it, and by nothing else. -/
theorem requestStatus_next (t : ReviewThread) (hrow : requestStatus requestId db ≠ none) :
    requestStatus requestId (t.next db).1 =
      ((t.decision? requestId).map some).getD (requestStatus requestId db) := by
  cases t with
  | handling companyId id data now =>
    simp only [ReviewThread.next]
    split <;> rfl
  | including request data now =>
    simp only [ReviewThread.next]
    split <;> rfl
  | deciding request target data now =>
    simp only [ReviewThread.next, ReviewThread.decision?, requestStatus_decideApproval hrow]
    split <;> rfl
  | toggling companyId companyUserId marketerId =>
    simp only [ReviewThread.next]
    split <;> rfl
  | flipping marketer =>
    simp only [ReviewThread.next, setActive]
    split <;> rfl
  | returned | refused => rfl

theorem activeFlag_toggle {request : ApprovalRequest} {target : User} {data : HandleApproval}
    {now : DateTime} (hdecision : data.decision = .approved)
    (haction : request.action = .toggleActive) :
    activeFlag target.userId (decideApproval request target data now db).2 =
      (activeFlag target.userId db).map fun _ => !target.active := by
  have hstatus : data.status ≠ .rejected := by
    intro hrejected
    rw [HandleApproval.decision, if_pos hrejected] at hdecision
    cases hdecision
  rw [decideApproval, if_neg hstatus]
  simp only [approveRequest, haction, activeFlag, find?_updateUser, if_pos]
  cases hfound : db.users.find? target.userId with
  | none => simp [updateRequest, hfound]
  | some u => simp [updateRequest, hfound, User.withActive]

end statement

abbrev ReviewThreads (ι : Type) : Type := Config Database ι ReviewThread

namespace ReviewThreads
variable {ι : Type} [DecidableEq ι]

/-- The thread named by the label executes its next statement. -/
def step (c : ReviewThreads ι) (i : ι) : ReviewThreads ι :=
  Config.step (fun _ => ReviewThread.next) c i

def status (requestId : String) (c : ReviewThreads ι) : Option ApprovalStatus :=
  requestStatus requestId c.shared

def decision? (requestId : String) (c : ReviewThreads ι) (i : ι) : Option ApprovalStatus :=
  (c.threads i).decision? requestId

/-- The decisions on a request in a run, in the order in which they commit. -/
def decisions (requestId : String) (c : ReviewThreads ι) (schedule : List ι) :
    List ApprovalStatus :=
  history step (decision? requestId) c schedule

/-- Where the step executes a toggle for the request, it inverts the flag of the target. -/
def Inverts (requestId : String) (c : ReviewThreads ι) (i : ι) : Prop :=
  ∀ target ∈ (c.threads i).toggled? requestId,
    activeFlag target.userId (c.step i).shared = (activeFlag target.userId c.shared).map (!·)

/-- A decision of the step finds the request not yet approved, and a toggle that it
executes finds the target's flag as it was read. -/
def FindsAsRead (requestId : String) (c : ReviewThreads ι) (i : ι) : Prop :=
  ((c.decision? requestId i).isSome → c.status requestId ≠ some .approved) ∧
    ∀ target ∈ (c.threads i).toggled? requestId,
      ∀ active ∈ activeFlag target.userId c.shared, active = target.active

instance (requestId : String) (c : ReviewThreads ι) (i : ι) : Decidable (c.Inverts requestId i) :=
  inferInstanceAs (Decidable (∀ target ∈ (c.threads i).toggled? requestId, _))

instance (requestId : String) (c : ReviewThreads ι) (i : ι) :
    Decidable (c.FindsAsRead requestId i) :=
  inferInstanceAs (Decidable ((_ → _ ≠ _) ∧ ∀ target ∈ (c.threads i).toggled? requestId, _))

end ReviewThreads

/-- What a request ends as after these decisions: pending without any, else with the
status of one of them; rejected without its action having been executed, approved with
its action executed once. -/
structure DecidedOnce (decisions : List ApprovalStatus) (status : Option ApprovalStatus) :
    Prop where
  of_call : decisions = [] ∧ status = some .pending ∨ ∃ s ∈ decisions, status = some s
  rejected : status = some .rejected → .approved ∉ decisions
  approved : status = some .approved → decisions.count .approved = 1

instance (decisions : List ApprovalStatus) (status : Option ApprovalStatus) :
    Decidable (DecidedOnce decisions status) :=
  decidable_of_iff ((decisions = [] ∧ status = some .pending ∨ ∃ s ∈ decisions, status = some s) ∧
      (status = some .rejected → .approved ∉ decisions) ∧
      (status = some .approved → decisions.count .approved = 1))
    ⟨fun h => ⟨h.1, h.2.1, h.2.2⟩, fun h => ⟨h.of_call, h.rejected, h.approved⟩⟩

/-- With the last decision as its status, a request is decided once in exactly the cases
in which no decision follows an approval. -/
theorem decidedOnce_iff {decisions : List ApprovalStatus} (h : .pending ∉ decisions) :
    DecidedOnce decisions
        ((some .pending :: decisions.map some).getLast (List.cons_ne_nil _ _)) ↔
      some .approved ∉ (some .pending :: decisions.map some).dropLast := by
  rcases List.eq_nil_or_concat decisions with rfl | ⟨earlier, last, rfl⟩
  · refine iff_of_true ⟨.inl ⟨rfl, rfl⟩, ?_, ?_⟩ (by simp)
    · intro hstatus
      cases hstatus
    · intro hstatus
      cases hstatus
  have hlast : (some .pending :: (earlier.concat last).map some).getLast
      (List.cons_ne_nil _ _) = some last := by simp
  have hearlier : (some .pending :: (earlier.concat last).map some).dropLast =
      some .pending :: earlier.map some := by
    rw [List.concat_eq_append, List.map_append, ← List.cons_append, List.map_singleton,
      List.dropLast_concat]
  have happroved : some .approved ∉ some .pending :: earlier.map some ↔ .approved ∉ earlier := by
    simp
  rw [hlast, hearlier, happroved]
  have hcall : ∃ s ∈ earlier.concat last, some last = some s := ⟨last, by simp, rfl⟩
  cases last with
  | pending => exact absurd (by simp) h
  | rejected =>
    constructor
    · intro honce hmem
      exact honce.rejected rfl (by simp [hmem])
    · intro hmem
      refine ⟨.inr hcall, fun _ => by simp [hmem], fun hstatus => ?_⟩
      cases hstatus
  | approved =>
    have hcount : (earlier.concat ApprovalStatus.approved).count .approved =
        earlier.count .approved + 1 := by simp
    constructor
    · intro honce
      have hone := honce.approved rfl
      exact List.count_eq_zero.mp (by omega)
    · intro hmem
      refine ⟨.inr hcall, fun hstatus => ?_, fun _ => ?_⟩
      · cases hstatus
      · rw [hcount, List.count_eq_zero.mpr hmem]

section steps
variable {ι : Type} [DecidableEq ι] {c : ReviewThreads ι} {requestId : String}

theorem pending_not_mem_decisions (schedule : List ι) :
    .pending ∉ c.decisions requestId schedule := by
  have hdecided : ∀ status ∈ c.decisions requestId schedule, status ≠ .pending := by
    refine forall_mem_history (I := fun _ => True) (fun _ _ _ => trivial)
      (fun c i status _ hstatus => ?_) trivial schedule
    rw [ReviewThreads.decision?] at hstatus
    cases hthread : c.threads i with
    | deciding request target data now =>
      simp only [hthread, ReviewThread.decision?] at hstatus
      split at hstatus
      · cases hstatus
        rw [HandleApproval.decision]
        split <;> decide
      · cases hstatus
    | handling | including | toggling | flipping | returned | refused =>
      rw [hthread] at hstatus
      cases hstatus
  exact fun hmem => hdecided .pending hmem rfl

/-- A toggle inverts the flag of a user it has read with that flag. -/
theorem inverts_iff (i : ι) :
    c.Inverts requestId i ↔ ∀ target ∈ (c.threads i).toggled? requestId,
      ∀ active ∈ activeFlag target.userId c.shared, active = target.active := by
  refine forall₂_congr fun target htarget => ?_
  have hafter : activeFlag target.userId (c.step i).shared =
      (activeFlag target.userId c.shared).map fun _ => !target.active := by
    rw [ReviewThreads.step, Config.step_shared]
    cases hthread : c.threads i with
    | deciding request t data now =>
      simp only [hthread, ReviewThread.toggled?] at htarget
      split at htarget
      · rename_i htoggle
        cases htarget
        exact activeFlag_toggle htoggle.2.1 htoggle.2.2
      · cases htarget
    | handling | including | toggling | flipping | returned | refused =>
      rw [hthread] at htarget
      cases htarget
  rw [hafter]
  cases activeFlag target.userId c.shared with
  | none => simp
  | some active => cases active <;> cases target.active <;> simp

end steps

/-- In any interleaving of reviews with direct toggles, a pending request is decided once,
and its toggles invert the flag they find, in exactly the runs in which each decision finds
the request not yet approved and each of its toggles finds the flag it has read. -/
theorem request_decided_once_iff {ι : Type} [DecidableEq ι] {c : ReviewThreads ι}
    {requestId : String} (hpending : c.status requestId = some .pending)
    (schedule : List ι) :
    (DecidedOnce (c.decisions requestId schedule)
        ((run ReviewThreads.step c schedule).status requestId) ∧
      Along ReviewThreads.step (ReviewThreads.Inverts requestId) c schedule) ↔
      Along ReviewThreads.step (ReviewThreads.FindsAsRead requestId) c schedule := by
  have hvalue : ∀ (c : ReviewThreads ι) i, c.status requestId ≠ none →
      (c.step i).status requestId =
        ((c.decision? requestId i).map some).getD (c.status requestId) :=
    fun c i => requestStatus_next (c.threads i)
  have hrow : ∀ (c : ReviewThreads ι) i, c.status requestId ≠ none →
      (c.step i).status requestId ≠ none := by
    intro c i hfound
    rw [hvalue c i hfound]
    cases c.decision? requestId i with
    | none => exact hfound
    | some status => exact Option.some_ne_none status
  have hfound : c.status requestId ≠ none := by simp [hpending]
  have hstatus : (run ReviewThreads.step c schedule).status requestId = _ :=
    value_run hrow hvalue hfound schedule
  have hfresh := along_value_ne_iff (x := some .approved) hrow hvalue hfound schedule
  rw [hpending] at hstatus hfresh
  have hinverts : Along ReviewThreads.step (ReviewThreads.Inverts requestId) c schedule ↔
      Along ReviewThreads.step (fun c i => ∀ target ∈ (c.threads i).toggled? requestId,
        ∀ active ∈ activeFlag target.userId c.shared, active = target.active) c schedule :=
    along_iff_along (I := fun _ => True) (fun _ i _ => inverts_iff i)
      (fun _ _ _ _ => trivial) trivial
  have honce : DecidedOnce (c.decisions requestId schedule)
      ((run ReviewThreads.step c schedule).status requestId) ↔
        Along ReviewThreads.step (fun c i => (c.decision? requestId i).isSome →
          c.status requestId ≠ some .approved) c schedule := by
    rw [hstatus]
    exact (decidedOnce_iff (pending_not_mem_decisions schedule)).trans hfresh.symm
  rw [honce, hinverts, ← along_and]
  rfl

/-- A company user's marketer for whom a toggle is requested. -/
def toggleRequested : Database where
  users :=
    ⟨[{ userId := "owner", role := .company, companyId := some "desk" },
      { userId := "max", role := .marketer, companyId := some "desk"
        createdById := some "owner" }], by decide⟩
  approvalRequests :=
    ⟨[{ requestId := "pause", companyId := "desk", requestedById := "clerk"
        targetUserId := "max", action := .toggleActive }], by decide⟩

/-- One reviewer approves it, while another reviewer or the company is at work too. -/
def approvedBeside (other : ReviewThread) : ReviewThreads Bool where
  shared := toggleRequested
  threads
    | false => .handling "desk" "pause" ⟨.approved, none⟩ 1
    | true => other

/-- After an approval, the second reviewer finds no pending request. -/
theorem request_decided_once_in_turn :
    let c := approvedBeside (.handling "desk" "pause" ⟨.rejected, some "needed"⟩ 2)
    let schedule := [false, false, false, true, true, true]
    DecidedOnce (c.decisions "pause" schedule)
        ((run ReviewThreads.step c schedule).status "pause") ∧
      Along ReviewThreads.step (ReviewThreads.Inverts "pause") c schedule :=
  (request_decided_once_iff (by decide) _).mpr (by decide +kernel)

/-- The request is rejected although its action was executed, when both reviewers have
found it pending; and its toggle leaves the flag as it is behind a direct toggle. -/
theorem request_rejected_and_executed :
    (let c := approvedBeside (.handling "desk" "pause" ⟨.rejected, some "needed"⟩ 2)
      let schedule := [true, false, false, false, true, true]
      ¬ DecidedOnce (c.decisions "pause" schedule)
        ((run ReviewThreads.step c schedule).status "pause")) ∧
    ¬ Along ReviewThreads.step (ReviewThreads.Inverts "pause")
      (approvedBeside (.toggling "desk" "owner" "max")) [false, false, true, true, false] := by
  decide +kernel

end InstalFlow
