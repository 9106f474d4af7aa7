import InstalFlow.CommissionService
import InstalFlow.KycApplications
import InstalFlow.Relational.Pages

/-!
# The activity of a tenant

Six tables give the events of a company. Each is cut off at the end of the page that is asked
for before the events are merged: the page is the right one all the same, but how many events
were merged does not say whether there are more.
-/

namespace InstalFlow
open Relational

/-! The tables with the columns that the feed reads -/

structure KycAuditEntry where
  auditId : String
  kycApplicationId : String
  action : String
  performedById : Option String := none
  outcome : String
  details : Option String := none
  createdAt : DateTime

structure SettlementAuditEntry where
  auditId : String
  settlementId : String
  action : String
  actorType : SettlementAuditActor
  performedById : Option String := none
  outcome : String
  details : Option String := none
  createdAt : DateTime

structure ApprovalEntry extends ApprovalRequest where
  reason : Option String := none
  createdAt : DateTime

structure PayoutEntry extends CommissionPayoutRequest where
  updatedAt : DateTime

structure ContractEntry extends FinancingContract where
  updatedAt : DateTime

structure LoginEntry extends UserSession where
  createdAt : DateTime

structure ActivityRecords where
  database : Database
  kycAuditTrail : List KycAuditEntry := []
  merchantSettlementAuditTrail : List SettlementAuditEntry := []
  approvalRequests : List ApprovalEntry := []
  commissionPayoutRequests : List PayoutEntry := []
  financingContracts : List ContractEntry := []
  userSessions : List LoginEntry := []

structure ActivityActor where
  id : Option String := none
  name : Option String := none
  email : Option String := none
  role : Option String := none
deriving DecidableEq

structure ActivityEvent where
  type : String
  action : String
  outcome : Option String
  actor : Option ActivityActor
  details : Option String
  occurredAt : DateTime
  refId : String
deriving DecidableEq

inductive ActivityType
  | kyc | settlement | approval | payout | contract | login
deriving DecidableEq

structure ActivityQuery where
  page : ℕ := 1
  limit : ℕ := 20
  type : Option ActivityType := none
  «from» : Option DateTime := none
  «to» : Option DateTime := none

structure ActivityPage where
  page : ℕ
  limit : ℕ
  returned : ℕ
  hasMore : Bool
  activities : List ActivityEvent

def SettlementAuditActor.name : SettlementAuditActor → String
  | .system => "SYSTEM"
  | .scheduler => "SCHEDULER"
  | .worker => "WORKER"
  | .webhook => "WEBHOOK"
  | .user => "USER"

def ApprovalAction.name : ApprovalAction → String
  | .toggleActive => "TOGGLE_ACTIVE"
  | .softDelete => "SOFT_DELETE"

def ApprovalStatus.name : ApprovalStatus → String
  | .pending => "PENDING"
  | .approved => "APPROVED"
  | .rejected => "REJECTED"

/-- A decimal as JavaScript writes the number, without trailing zeros -/
def numberText (x : ℚ) : String :=
  let places := ((List.range 20).find? fun n => 10 ^ n % x.den = 0).getD 20
  let digits := x.num.natAbs * 10 ^ places / x.den
  let fraction := toString (digits % 10 ^ places)
  (if x < 0 then "-" else "") ++ toString (digits / 10 ^ places) ++
    (if places = 0 then ""
    else "." ++ String.ofList (List.replicate (places - fraction.length) '0') ++ fraction)

namespace TenantManagementService

/-- An absent bound does not bind. -/
def dateFilter (query : ActivityQuery) (time : DateTime) : Bool :=
  query.from.all (· ≤ time) && query.«to».all (time ≤ ·)

def actorOf (user : User) : ActivityActor where
  id := some user.userId
  name := user.name
  email := some user.email
  role := some user.role.name

def actorBy (userId : String) (db : Database) : Option ActivityActor :=
  (db.users.find? userId).map actorOf

/-- `findMany` with the newest rows first, and at most so many of them -/
def findEvents {ρ : Type} (time : ρ → DateTime) (event : ρ → ActivityEvent) (rows : List ρ)
    (fanInTake : Option ℕ) : List ActivityEvent :=
  let sorted := rows.insertionSort fun r s => time s ≤ time r
  (match fanInTake with
  | none => sorted
  | some n => sorted.take n).map event

variable (companyId : String) (query : ActivityQuery) (records : ActivityRecords)

def kycActivity : Option ℕ → List ActivityEvent :=
  let db := records.database
  findEvents KycAuditEntry.createdAt
    (fun r =>
      { type := "KYC", action := r.action, outcome := some r.outcome
        actor := r.performedById.bind (actorBy · db)
        details := r.details, occurredAt := r.createdAt, refId := r.auditId })
    (records.kycAuditTrail.filter fun r =>
      ((db.kycApplications.find? r.kycApplicationId).any fun application =>
        (application.onboardingSessionId.bind db.onboardingSessions.find?).any fun s =>
          s.companyId = some companyId) && dateFilter query r.createdAt)

def settlementActivity : Option ℕ → List ActivityEvent :=
  let db := records.database
  findEvents SettlementAuditEntry.createdAt
    (fun r =>
      { type := "SETTLEMENT", action := r.action, outcome := some r.outcome
        actor := some (((r.performedById.bind db.users.find?).map actorOf).getD
          { name := some r.actorType.name })
        details := r.details, occurredAt := r.createdAt, refId := r.auditId })
    (records.merchantSettlementAuditTrail.filter fun r =>
      ((db.merchantSettlementRequests.find? r.settlementId).any fun s => s.companyId = companyId) &&
        dateFilter query r.createdAt)

def approvalActivity : Option ℕ → List ActivityEvent :=
  let db := records.database
  findEvents ApprovalEntry.createdAt
    (fun r =>
      { type := "APPROVAL_REQUEST"
        action := r.action.name ++ " requested for " ++
          ((db.users.find? r.targetUserId).map fun u => u.name.getD u.email).getD ""
        outcome := some r.status.name
        actor := actorBy r.requestedById db
        details := r.reason, occurredAt := r.createdAt, refId := r.requestId })
    (records.approvalRequests.filter fun r =>
      r.companyId = companyId && dateFilter query r.createdAt)

def payoutActivity : Option ℕ → List ActivityEvent :=
  let db := records.database
  findEvents PayoutEntry.updatedAt
    (fun r =>
      { type := "COMMISSION_PAYOUT", action := "Payout " ++ r.status.name
        outcome := some r.status.name
        actor := actorBy r.userId db
        details := some ("Amount: " ++ numberText r.amount)
        occurredAt := r.updatedAt, refId := r.payoutId })
    (records.commissionPayoutRequests.filter fun r =>
      r.companyId = companyId && dateFilter query r.updatedAt)

def contractActivity : Option ℕ → List ActivityEvent :=
  let db := records.database
  findEvents ContractEntry.updatedAt
    (fun r =>
      { type := "FINANCING_CONTRACT"
        action := "Contract " ++ r.status.name ++ " — " ++
          ((db.products.find? r.productId).map Product.name).getD ""
        outcome := some r.status.name
        actor := r.userId.bind (actorBy · db)
        details := none, occurredAt := r.updatedAt, refId := r.contractId })
    (records.financingContracts.filter fun r =>
      ((db.products.find? r.productId).any fun p => p.companyId = some companyId) &&
        dateFilter query r.updatedAt)

def loginActivity : Option ℕ → List ActivityEvent :=
  let db := records.database
  findEvents LoginEntry.createdAt
    (fun r =>
      { type := "LOGIN", action := "User logged in"
        outcome := some (if r.revoked then "REVOKED" else "ACTIVE")
        actor := actorBy r.userId db
        details := none, occurredAt := r.createdAt, refId := r.sessionId })
    (records.userSessions.filter fun r =>
      ((db.users.find? r.userId).any fun u => u.companyId = some companyId) &&
        dateFilter query r.createdAt)

/-- The tables that a type filter leaves, each with its own query -/
def sources : List (Option ℕ → List ActivityEvent) :=
  ([(.kyc, kycActivity companyId query records),
    (.settlement, settlementActivity companyId query records),
    (.approval, approvalActivity companyId query records),
    (.payout, payoutActivity companyId query records),
    (.contract, contractActivity companyId query records),
    (.login, loginActivity companyId query records)].filter
      fun (source : ActivityType × (Option ℕ → List ActivityEvent)) =>
        query.type.all (· = source.1)).map Prod.snd

def Newer (a b : ActivityEvent) : Prop := b.occurredAt ≤ a.occurredAt

instance : DecidableRel Newer := fun a b => inferInstanceAs (Decidable (b.occurredAt ≤ a.occurredAt))

def getTenantActivity : Except AppError ActivityPage := do
  let some _ := records.database.companies.find? companyId
    | throw (.notFound "Tenant not found.")
  let fanInTake := query.page * query.limit
  let results := (sources companyId query records).map fun source => source (some fanInTake)
  let merged := results.flatten.insertionSort Newer
  let start := (query.page - 1) * query.limit
  let paged := (merged.drop start).take query.limit
  return {
    page := query.page
    limit := query.limit
    returned := paged.length
    hasMore := start + query.limit < merged.length
    activities := paged }

/-- All events of the sources, merged and newest first -/
def feed : List ActivityEvent :=
  ((sources companyId query records).map fun source => source none).flatten.insertionSort Newer

section merge
variable {companyId query records}

instance : Std.Total Newer := ⟨fun a b => le_total b.occurredAt a.occurredAt⟩

instance : IsTrans ActivityEvent Newer := ⟨fun _ _ _ hab hbc => le_trans hbc hab⟩

/-- A query that hands out its newest events first -/
structure NewestFirst (source : Option ℕ → List ActivityEvent) : Prop where
  sorted : (source none).Pairwise Newer
  first : ∀ n, source (some n) = (source none).take n

theorem findEvents_newestFirst {ρ : Type} {time : ρ → DateTime} {event : ρ → ActivityEvent}
    (rows : List ρ) (htime : ∀ r, (event r).occurredAt = time r) :
    NewestFirst (findEvents time event rows) := by
  have htotal : Std.Total fun r s : ρ => time s ≤ time r := ⟨fun r s => le_total (time s) (time r)⟩
  have htrans : IsTrans ρ fun r s => time s ≤ time r := ⟨fun _ _ _ hrs hst => le_trans hst hrs⟩
  constructor
  · refine List.pairwise_map.mpr ((List.pairwise_insertionSort _ rows).imp fun h => ?_)
    rw [Newer, htime, htime]
    exact h
  · intro n
    exact List.map_take

theorem sources_newestFirst {source : Option ℕ → List ActivityEvent}
    (h : source ∈ sources companyId query records) : NewestFirst source := by
  obtain ⟨⟨type, source⟩, hmem, rfl⟩ := List.mem_map.mp h
  have hmem := List.mem_of_mem_filter hmem
  simp only [List.mem_cons, Prod.mk.injEq, List.not_mem_nil, or_false] at hmem
  rcases hmem with ⟨-, rfl⟩ | ⟨-, rfl⟩ | ⟨-, rfl⟩ | ⟨-, rfl⟩ | ⟨-, rfl⟩ | ⟨-, rfl⟩
  all_goals exact findEvents_newestFirst _ fun _ => rfl

theorem results_eq (n : ℕ) :
    ((sources companyId query records).map fun source => source (some n)).flatten =
      cutOff Newer n ((sources companyId query records).map fun source => source none) := by
  rw [cutOff, List.map_map]
  refine congrArg List.flatten (List.map_congr_left fun source hsource => ?_)
  have hnewest := sources_newestFirst hsource
  rw [hnewest.first]
  exact congrArg (List.take n) hnewest.sorted.insertionSort_eq.symm

theorem length_feed : (feed companyId query records).length =
    (((sources companyId query records).map fun source => source none).map List.length).sum := by
  rw [feed, List.length_insertionSort, List.length_flatten]

/-- No table with more events than the pages up to this one hold has them all. -/
def NoneDominates (companyId : String) (query : ActivityQuery) (records : ActivityRecords) : Prop :=
  ∀ source ∈ sources companyId query records, query.page * query.limit < (source none).length →
    (source none).length < (feed companyId query records).length

instance : Decidable (NoneDominates companyId query records) :=
  inferInstanceAs (Decidable (∀ source ∈ sources companyId query records, _ → _))

/-- What the caller is told of the feed: the events of the page, and whether there are more -/
structure IsFeedPage (companyId : String) (query : ActivityQuery) (records : ActivityRecords)
    (page : ActivityPage) : Prop where
  activities : page.activities = slice query.page query.limit (feed companyId query records)
  hasMore : page.hasMore = true ↔
    query.page * query.limit < (feed companyId query records).length

theorem getTenantActivity_eq_ok {page : ActivityPage}
    (h : getTenantActivity companyId query records = .ok page) : ∃ merged : List ActivityEvent,
    merged = (cutOff Newer (query.page * query.limit)
      ((sources companyId query records).map fun source => source none)).insertionSort Newer ∧
    page.activities = slice query.page query.limit merged ∧
    page.hasMore = decide ((query.page - 1) * query.limit + query.limit < merged.length) := by
  rw [getTenantActivity] at h
  cases hcompany : records.database.companies.find? companyId with
  | none =>
    rw [hcompany] at h
    cases h
  | some company =>
    rw [hcompany] at h
    obtain rfl := Except.ok.inj h
    rw [← results_eq]
    exact ⟨_, rfl, rfl, rfl⟩

theorem isFeedPage_iff {page : ActivityPage} (hpage : 0 < query.page) (hlimit : 0 < query.limit)
    (htimes : ((feed companyId query records).map ActivityEvent.occurredAt).Nodup)
    (h : getTenantActivity companyId query records = .ok page) :
    IsFeedPage companyId query records page ↔ NoneDominates companyId query records := by
  obtain ⟨merged, hmerged, hactivities, hmore⟩ := getTenantActivity_eq_ok h
  have hend : (query.page - 1) * query.limit + query.limit = query.page * query.limit := by
    rw [← Nat.succ_mul, Nat.succ_eq_add_one, Nat.sub_add_cancel hpage]
  have hmem {e : ActivityEvent}
      (he : e ∈ ((sources companyId query records).map fun source => source none).flatten) :
      e ∈ feed companyId query records := (List.mem_insertionSort _).mpr he
  have hfirst : merged.take (query.page * query.limit) =
      (feed companyId query records).take (query.page * query.limit) := by
    rw [hmerged]
    refine take_insertionSort_cutOff (fun a ha b hb hab hba => ?_) ?_
    · exact List.inj_on_of_nodup_map htimes (hmem ha) (hmem hb) (le_antisymm hba hab)
    · exact (List.perm_insertionSort Newer _).nodup_iff.mp (List.Nodup.of_map _ htimes)
  have hslice : page.activities = slice query.page query.limit (feed companyId query records) := by
    rw [hactivities, ← slice_take hpage, hfirst, slice_take hpage]
  have hcount : query.page * query.limit < merged.length ↔
      query.page * query.limit < (feed companyId query records).length ∧
        NoneDominates companyId query records := by
    rw [hmerged, List.length_insertionSort, length_cutOff,
      lt_sum_map_min_iff (Nat.mul_pos hpage hlimit), ← length_feed, NoneDominates]
    simp only [List.map_map, List.forall_mem_map, Function.comp_apply]
  rw [hend] at hmore
  constructor
  · intro hfeed source hsource hlarge
    have hmany : query.page * query.limit < (feed companyId query records).length := by
      rw [length_feed]
      exact hlarge.trans_le (List.le_sum_of_mem
        (List.mem_map_of_mem (List.mem_map_of_mem hsource)))
    have htold := hfeed.hasMore.mpr hmany
    rw [hmore, decide_eq_true_eq, hcount] at htold
    exact htold.2 source hsource hlarge
  · intro hnone
    refine ⟨hslice, ?_⟩
    rw [hmore, decide_eq_true_eq, hcount]
    exact and_iff_left hnone

end merge

/-- A shop whose clerk logged in three times, and was asked for a suspension or not -/
def busyShop (asked : List ApprovalEntry) : ActivityRecords where
  database :=
    { companies := ⟨[{ companyId := "shop", name := "Shop" }], List.nodup_singleton _⟩
      users := ⟨[{ userId := "clerk", email := "clerk@mail", role := .company,
                   companyId := some "shop" }], by decide⟩ }
  approvalRequests := asked
  userSessions :=
    [{ sessionId := "one", userId := "clerk", tokenHash := "a", expiresAt := 99, createdAt := 1 },
     { sessionId := "two", userId := "clerk", tokenHash := "b", expiresAt := 99, createdAt := 2 },
     { sessionId := "three", userId := "clerk", tokenHash := "c", expiresAt := 99, createdAt := 3 }]

def askedSuspension : ApprovalEntry :=
  { requestId := "ask", companyId := "shop", requestedById := "clerk", targetUserId := "clerk"
    action := .toggleActive, createdAt := 4 }

def told (companyId : String) (query : ActivityQuery) (records : ActivityRecords) : ActivityPage :=
  ((getTenantActivity companyId query records).toOption).getD ⟨0, 0, 0, false, []⟩

/-- Four events of two tables, two of them on the first page -/
theorem isFeedPage_two_tables : IsFeedPage "shop" { limit := 2 } (busyShop [askedSuspension])
    (told "shop" { limit := 2 } (busyShop [askedSuspension])) :=
  (isFeedPage_iff (by decide) (by decide) (by decide +kernel) rfl).mpr
    (by decide +kernel)

/-- Three logins and nothing else: the first page shows two and says that there are no more. -/
theorem not_isFeedPage_one_table :
    (feed "shop" { limit := 2 } (busyShop [])).map ActivityEvent.refId = ["three", "two", "one"] ∧
    (told "shop" { limit := 2 } (busyShop [])).activities.map ActivityEvent.refId =
      ["three", "two"] ∧
    (told "shop" { limit := 2 } (busyShop [])).hasMore = false ∧
    ¬ IsFeedPage "shop" { limit := 2 } (busyShop [])
      (told "shop" { limit := 2 } (busyShop [])) := by
  refine ⟨by decide +kernel, by decide +kernel, by decide +kernel, fun h => ?_⟩
  exact absurd (h.hasMore.mpr (by decide +kernel)) (by decide +kernel)

end TenantManagementService
end InstalFlow
