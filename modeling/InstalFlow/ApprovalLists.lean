import InstalFlow.ApprovalDecisions
import InstalFlow.StaffReports

/-!
# Requests in lists

The company looks up requests by their status, and decides those that are pending. A request is
in the list of one status at a time, and a decision takes it to another once and for all.
-/

namespace InstalFlow
open Relational Transition

structure TargetItem extends UserSummary where
  active : Bool

structure ApprovalItem where
  request : ApprovalRequest
  requestedBy : Option UserSummary
  targetUser : Option TargetItem

structure ApprovalPagination where
  total : ℕ
  totalPages : ℕ
  currentPage : ℕ
  limit : ℕ

structure ApprovalPage where
  requests : List ApprovalItem
  pagination : ApprovalPagination

/-- The newest first; `times` has when each request was made. -/
abbrev RequestOrder (times : String → DateTime) :=
  OrderBy (fun r : ApprovalRequest => times r.requestId) (· ≥ ·)

namespace UserManagementService

def approvalItem (db : Database) (request : ApprovalRequest) : ApprovalItem where
  request := request
  requestedBy := (db.users.find? request.requestedById).map User.summary
  targetUser := (db.users.find? request.targetUserId).map fun u => ⟨u.summary, u.active⟩

def getApprovalsByStatus (companyId : String) (status : ApprovalStatus) (q : StaffQuery)
    {times : String → DateTime} (order : RequestOrder times) (db : Database) : ApprovalPage :=
  let requests := db.approvalRequests.rows.filter fun r =>
    r.companyId = companyId ∧ r.status = status
  { requests := (slice q.page q.limit (order.sort requests)).map (approvalItem db)
    pagination := {
      total := requests.length
      totalPages := (requests.length + q.limit - 1) / q.limit
      currentPage := q.page
      limit := q.limit } }

def getPendingApprovals (companyId : String) : StaffQuery → {times : String → DateTime} →
    RequestOrder times → Database → ApprovalPage :=
  getApprovalsByStatus companyId .pending

end UserManagementService

open UserManagementService

/-- The request is on one of the pages. -/
def ListsRequest (pages : StaffQuery → ApprovalPage) (q : StaffQuery) (requestId : String) : Prop :=
  ∃ page, ∃ hpage : 0 < page, ∃ item ∈ (pages (q.atPage hpage)).requests,
    item.request.requestId = requestId

/-- A request is about the same for ever, and decided once. -/
structure DecidedForGood (r r' : ApprovalRequest) : Prop where
  requestId : r'.requestId = r.requestId
  companyId : r'.companyId = r.companyId
  requestedById : r'.requestedById = r.requestedById
  targetUserId : r'.targetUserId = r.targetUserId
  action : r'.action = r.action
  once : r.status ≠ .pending → r' = r

namespace DecidedForGood
variable {r r' r'' : ApprovalRequest}

theorem refl (r : ApprovalRequest) : DecidedForGood r r := ⟨rfl, rfl, rfl, rfl, rfl, fun _ => rfl⟩

theorem trans (h : DecidedForGood r r') (h' : DecidedForGood r' r'') : DecidedForGood r r'' where
  requestId := h'.requestId.trans h.requestId
  companyId := h'.companyId.trans h.companyId
  requestedById := h'.requestedById.trans h.requestedById
  targetUserId := h'.targetUserId.trans h.targetUserId
  action := h'.action.trans h.action
  once hdecided := by
    have hsame := h.once hdecided
    have hdecided' : r'.status ≠ .pending := hsame.symm ▸ hdecided
    exact (h'.once hdecided').trans hsame

end DecidedForGood

section lists
variable {db : Database} {times : String → DateTime} {order : RequestOrder times}
  {companyId requestId : String}

theorem listsRequest_iff (q : StaffQuery) (status : ApprovalStatus) :
    ListsRequest (fun q => getApprovalsByStatus companyId status q order db) q requestId ↔
      ∃ r, db.approvalRequests.find? requestId = some r ∧ r.companyId = companyId ∧
        r.status = status := by
  constructor
  · rintro ⟨page, hpage, item, hitem, rfl⟩
    obtain ⟨r, hr, rfl⟩ := List.mem_map.mp hitem
    obtain ⟨hrow, hmatches⟩ := List.mem_filter.mp (order.mem_sort.mp (slice_sublist.subset hr))
    exact ⟨r, Table.find?_of_mem hrow, of_decide_eq_true hmatches⟩
  · rintro ⟨r, hr, hmatches⟩
    have hmem : r ∈ db.approvalRequests.rows.filter fun r =>
        r.companyId = companyId ∧ r.status = status :=
      List.mem_filter.mpr ⟨Table.mem_of_find? hr, decide_eq_true hmatches⟩
    have hrow := order.mem_sort.mpr hmem
    obtain ⟨page, hpage, hslice⟩ := (mem_iff_exists_slice q.limit_pos).mp hrow
    exact ⟨page, hpage, approvalItem db r, List.mem_map.mpr ⟨r, hslice, rfl⟩, Table.find?_key hr⟩

theorem findPendingRequest_eq_some_iff {r : ApprovalRequest} :
    findPendingRequest companyId requestId db = some r ↔
      db.approvalRequests.find? requestId = some r ∧ r.companyId = companyId ∧
        r.status = .pending := by
  rw [findPendingRequest, Table.find?_rows_eq_some_iff fun r hr => (of_decide_eq_true hr).1]
  refine and_congr_right fun hfind => ?_
  rw [decide_eq_true_eq, and_iff_right (Table.find?_key hfind)]

/-- The company can decide what is pending in its list. -/
theorem decides_iff (hdb : db.RequestsInOrder) (data : HandleApproval) (now : DateTime) :
    (∃ result, handleApprovalRequest companyId requestId data now db = .ok result) ↔
      ∃ r, db.approvalRequests.find? requestId = some r ∧ r.companyId = companyId ∧
        r.status = .pending := by
  simp only [← findPendingRequest_eq_some_iff, handleApprovalRequest]
  constructor
  · rintro ⟨result, hresult⟩
    split at hresult
    · cases hresult
    · rename_i request target hfound
      exact ⟨request, (findApproval_eq_some hfound).1⟩
  · rintro ⟨r, hr⟩
    obtain ⟨u, hu, -⟩ := hdb.targets r (List.mem_of_find?_eq_some hr)
    have hfound : findApproval companyId requestId db = some (r, u) := by
      rw [findApproval, hr, Option.bind_some, hu, Option.map_some]
    rw [hfound]
    exact ⟨_, rfl⟩

/-- The row that a decision leaves of the request -/
theorem find?_decided {request : ApprovalRequest} (target : User) (data : HandleApproval)
    (now : DateTime) (id : String) :
    ∃ f : ApprovalRequest → ApprovalRequest, (∀ r, r.status = .pending → DecidedForGood r (f r)) ∧
      (∀ r, (f r).status = data.decision) ∧
      (decideApproval request target data now db).2.approvalRequests.find? id =
        if id = request.requestId then (db.approvalRequests.find? id).map f
        else db.approvalRequests.find? id := by
  have honce {r s : ApprovalRequest} (hs : s.requestId = r.requestId ∧ s.companyId = r.companyId ∧
      s.requestedById = r.requestedById ∧ s.targetUserId = r.targetUserId ∧
      s.action = r.action) (hpending : r.status = .pending) : DecidedForGood r s :=
    ⟨hs.1, hs.2.1, hs.2.2.1, hs.2.2.2.1, hs.2.2.2.2, fun h => absurd hpending h⟩
  have hupdate (f : ApprovalRequest → ApprovalRequest) (hf : ∀ r, (f r).requestId = r.requestId) :
      (updateRequest db request.requestId f hf).approvalRequests.find? id =
        if id = request.requestId then (db.approvalRequests.find? id).map f
        else db.approvalRequests.find? id :=
    Table.find?_update db.approvalRequests request.requestId id f hf
  rw [decideApproval, HandleApproval.decision]
  split
  · refine ⟨fun r => { r with
      status := .rejected, reviewReason := data.reviewReason.or r.reviewReason
      reviewedAt := some now }, fun r => honce ⟨rfl, rfl, rfl, rfl, rfl⟩, fun _ => rfl, hupdate _ _⟩
  · refine ⟨fun r => { r with status := .approved, reviewedAt := some now },
      fun r => honce ⟨rfl, rfl, rfl, rfl, rfl⟩, fun _ => rfl, ?_⟩
    rw [approveRequest]
    have happroved :=
      hupdate (fun r => { r with status := .approved, reviewedAt := some now }) fun _ => rfl
    split <;> exact happroved

/-- A decided request is in the list of its decision. -/
theorem find?_of_handled {data : HandleApproval} {now : DateTime} {result : String × Database}
    (h : handleApprovalRequest companyId requestId data now db = .ok result) :
    ∃ r, result.2.approvalRequests.find? requestId = some r ∧ r.companyId = companyId ∧
      r.status = data.decision := by
  rw [handleApprovalRequest] at h
  split at h
  · cases h
  · rename_i request target hfound
    cases h
    obtain ⟨hrequest, hcompany, hpending⟩ :=
      findPendingRequest_eq_some_iff.mp (findApproval_eq_some hfound).1
    have hid : request.requestId = requestId := Table.find?_key hrequest
    obtain ⟨f, honce, hstatus, hfind⟩ := find?_decided target data now requestId
    rw [if_pos hid.symm, hrequest, Option.map_some] at hfind
    exact ⟨f request, hfind, (honce request hpending).companyId.trans hcompany, hstatus request⟩

end lists

/-- Every request is there still, about the same and decided at most once. -/
def KeepsDecisions (db db' : Database) : Prop :=
  ∀ r ∈ db.approvalRequests.rows, ∃ r' ∈ db'.approvalRequests.rows, DecidedForGood r r'

section steps
variable {db db' : Database}

namespace KeepsDecisions

theorem of_eq (h : db'.approvalRequests = db.approvalRequests) : KeepsDecisions db db' :=
  fun r hr => ⟨r, h ▸ hr, .refl r⟩

theorem trans {db'' : Database} (h : KeepsDecisions db db') (h' : KeepsDecisions db' db'') :
    KeepsDecisions db db'' := by
  intro r hr
  obtain ⟨r', hr', hkept⟩ := h r hr
  obtain ⟨r'', hr'', hkept'⟩ := h' r' hr'
  exact ⟨r'', hr'', hkept.trans hkept'⟩

end KeepsDecisions

theorem keepsDecisions_decideApproval {request : ApprovalRequest}
    (hrequest : db.approvalRequests.find? request.requestId = some request)
    (hpending : request.status = .pending) (target : User) (data : HandleApproval)
    (now : DateTime) : KeepsDecisions db (decideApproval request target data now db).2 := by
  intro r hr
  obtain ⟨f, honce, -, hfind⟩ := find?_decided target data now r.requestId
  rw [Table.find?_of_mem hr] at hfind
  split at hfind
  · rename_i hid
    rw [← hid, Table.find?_of_mem hr] at hrequest
    have hsame : request = r := (Option.some.inj hrequest).symm
    exact ⟨f r, Table.mem_of_find? hfind, honce r (hsame ▸ hpending)⟩
  · exact ⟨r, Table.mem_of_find? hfind, .refl r⟩

theorem keepsDecisions_requestAction {action : ApprovalAction}
    {alreadyPending companyId marketerId adminId requestId : String}
    (h : requestAction action alreadyPending companyId marketerId adminId requestId db = .ok db') :
    KeepsDecisions db db' := by
  obtain ⟨-, -, requests, hcreate, rfl⟩ := requestAction_eq_ok h
  have hrows := (Table.create_eq_some hcreate).2
  exact fun r hr => ⟨r, hrows ▸ List.mem_append_left _ hr, .refl r⟩

theorem keepsDecisions_insertUser {row : User} (h : insertUser row db = .ok db') :
    KeepsDecisions db db' := by
  obtain ⟨users, -, rfl⟩ := insertUser_eq_ok h
  exact .of_eq rfl

theorem StaffStep.keepsDecisions (e : StaffStep) : KeepsDecisions db (e.apply db) := by
  refine e.apply_rule (P := KeepsDecisions db) (.of_eq rfl)
    (fun row db' _ h => keepsDecisions_insertUser h) keepsDecisions_requestAction
    (fun data now hfound => ?_) (fun id active => .of_eq (approvalRequests_setActive active))
    fun id now => .of_eq rfl
  obtain ⟨hfind, -, hpending⟩ :=
    findPendingRequest_eq_some_iff.mp (findApproval_eq_some hfound).1
  rw [← Table.find?_key hfind] at hfind
  exact keepsDecisions_decideApproval hfind hpending _ data now

theorem keepsDecisions_run (steps : List StaffStep) :
    KeepsDecisions db (run StaffStep.apply db steps) :=
  run_invariant (I := KeepsDecisions db) (fun _ e h => h.trans e.keepsDecisions) (.of_eq rfl) steps

end steps

/-- In every run a request is decided once and for all. What is in the list of pending requests
the company can decide, and nothing else, and a decision takes it to the list of its status. -/
theorem approvals_listed {db : Database} (hdb : db.RequestsInOrder) (steps : List StaffStep)
    {times : String → DateTime} (order : RequestOrder times) :
    let db' := run StaffStep.apply db steps
    (∀ r ∈ db.approvalRequests.rows, ∃ r' ∈ db'.approvalRequests.rows, DecidedForGood r r') ∧
    ∀ (q : StaffQuery) (companyId requestId : String) (data : HandleApproval) (now : DateTime),
      ((∃ result, handleApprovalRequest companyId requestId data now db' = .ok result) ↔
        ListsRequest (fun q => getPendingApprovals companyId q order db') q requestId) ∧
      ∀ result, handleApprovalRequest companyId requestId data now db' = .ok result →
        ∀ status, ListsRequest (fun q => getApprovalsByStatus companyId status q order result.2) q
          requestId ↔ status = data.decision := by
  have hrun : (run StaffStep.apply db steps).RequestsInOrder :=
    run_invariant (I := Database.RequestsInOrder) (fun _ e h => (e.keeps_apply h).2) hdb steps
  refine ⟨keepsDecisions_run steps, fun q companyId requestId data now =>
    ⟨(decides_iff hrun data now).trans (listsRequest_iff q .pending).symm, ?_⟩⟩
  intro result hresult status
  obtain ⟨r, hr, hcompany, hstatus⟩ := find?_of_handled hresult
  rw [listsRequest_iff, hr]
  simp only [Option.some.injEq, exists_eq_left', hcompany, hstatus, true_and]
  exact eq_comm

/-- An admin asks the company to suspend a marketer, and the company agrees. -/
def askedSuspension : List StaffStep :=
  [.createMarketer (some "shop") "ann" ⟨"Mark", "mark@mail"⟩ { userId := "mark" },
    .requestMarketerToggle "shop" "mark" "bob" "request",
    .handleApprovalRequest "shop" "request" ⟨.approved, none⟩ 5]

theorem inOrder_staffedCompany : staffedCompany.RequestsInOrder where
  single r hr := by cases hr
  targets r hr := by cases hr

def newestRequests : RequestOrder fun _ => 0 := .descending _

theorem approvals_listed_suspension :
    ((run StaffStep.apply staffedCompany askedSuspension).approvalRequests.rows.map
      ApprovalRequest.status = [.approved]) ∧
    ((∃ result, handleApprovalRequest "shop" "request" ⟨.rejected, some "late"⟩ 6
        (run StaffStep.apply staffedCompany askedSuspension) = .ok result) ↔
      ListsRequest (fun q => getPendingApprovals "shop" q newestRequests
        (run StaffStep.apply staffedCompany askedSuspension)) {} "request") :=
  ⟨by decide +kernel, ((approvals_listed inOrder_staffedCompany askedSuspension newestRequests).2 {}
    "shop" "request" ⟨.rejected, some "late"⟩ 6).1⟩

end InstalFlow
