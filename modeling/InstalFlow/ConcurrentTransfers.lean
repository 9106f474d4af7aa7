import InstalFlow.ConcurrentRequests
import InstalFlow.Reservations

/-!
# Concurrent transfer webhooks

A transfer handler reads the payout with its allocations and their commissions,
and then runs a transaction that writes `reservedAmount` as computed from that
read. Other handlers of the payout and payout requests may commit in between.
The write keeps the counters right exactly when what others have reserved of
the commission is still what was read.
-/

namespace InstalFlow
open Relational Accounting Transition CommissionService

namespace TransferEvent

def referencePrefix : TransferEvent → String
  | success => "TRANSFER_SUCCESS_"
  | failed => "TRANSFER_FAILED_"
  | reversed => "TRANSFER_REVERSED_"

def reference (payoutId : String) (e : TransferEvent) : String := e.referencePrefix ++ payoutId

theorem posting_reference (e : TransferEvent) (p : CommissionPayoutRequest) :
    (e.handler.posting p).reference = e.reference p.payoutId := by
  cases e <;> rfl

theorem posting_entries_ne_nil (e : TransferEvent) (p : CommissionPayoutRequest) :
    (e.handler.posting p).entries ≠ [] := by
  cases e <;> simp [handler, handleTransferSuccess, handleTransferFailed, handleTransferReversed,
    transferPosting]

theorem reference_inj {payoutId : String} {e e' : TransferEvent} :
    e.reference payoutId = e'.reference payoutId ↔ e = e' := by
  constructor
  · intro h
    have hprefix : e.referencePrefix = e'.referencePrefix := (String.append_left_inj payoutId).mp h
    cases e <;> cases e' <;> first | rfl | exact absurd hprefix (by decide)
  · intro h
    rw [h]

end TransferEvent

inductive TransferThread
  | start
  | loaded (p : LoadedPayout)
  | committed
  | skipped
  | failed (err : AppError)

namespace TransferHandler

def next (h : TransferHandler) (payload : TransferPayload) (now : DateTime) (db : Database) :
    TransferThread → Database × TransferThread
  | .start =>
    match loadPayout payload.reference db with
    | none => (db, .skipped)
    | some p => if p.payout.status = h.target then (db, .skipped) else (db, .loaded p)
  | .loaded p =>
    match h.commit payload now p db with
    | .error err => (db, .failed err)
    | .ok db => (db, .committed)
  | t => (db, t)

/-- An execution on its own is `handle`. -/
theorem next_alone (h : TransferHandler) (payload : TransferPayload) (now : DateTime)
    (db : Database) :
    ((fun s : Database × TransferThread => h.next payload now s.1 s.2)^[2] (db, .start)).1 =
      committed db id (h.handle payload now db) := by
  simp only [Function.iterate_succ, Function.iterate_zero, Function.comp, id, handle, next]
  cases loadPayout payload.reference db with
  | none => rfl
  | some p =>
    by_cases hs : p.payout.status = h.target
    · simp [hs]
    · simp only [hs, if_false]
      cases h.commit payload now p db <;> rfl

end TransferHandler

inductive Execution
  | webhook (event : TransferEvent) (payload : TransferPayload) (now : DateTime)
      (t : TransferThread)
  | requestPayout (userId : String) (call : PayoutCall) (t : PayoutThread)

namespace Execution

def next (db : Database) : Execution → Database × Execution
  | webhook event payload now t =>
    let (db, t) := event.handler.next payload now db t
    (db, webhook event payload now t)
  | requestPayout userId call t =>
    let (db, t) := call.next userId db t
    (db, requestPayout userId call t)

def loaded? : Execution → Option (TransferEvent × LoadedPayout)
  | webhook event _ _ (.loaded p) => some (event, p)
  | _ => none

def hasCommitted (e : TransferEvent) : Execution → Bool
  | webhook event _ _ .committed => event = e
  | _ => false

def Waits (payoutId : String) : Execution → Prop
  | webhook _ payload _ .start => payload.reference = payoutId
  | requestPayout _ _ .start => True
  | _ => False

end Execution

def Database.joined? (db : Database) (key : String × String) : Option JoinedAllocation :=
  (db.commissionAllocations.find? key).bind fun a =>
    (db.commissions.find? a.commissionId).map (JoinedAllocation.mk a)

namespace JoinedAllocation

/-- What other allocations than this one have reserved of the commission. -/
def othersReserved (j : JoinedAllocation) : ℚ :=
  j.commission.reservedAmount -
    if j.allocation.status = .reserved then j.allocation.allocatedAmount else 0

/-- The reservations of others are what they were when `j` was read. -/
def OthersKept (db : Database) (j : JoinedAllocation) : Prop :=
  ∀ i ∈ db.joined? j.allocation.key, i.othersReserved = j.othersReserved

instance (db : Database) (j : JoinedAllocation) : Decidable (j.OthersKept db) :=
  inferInstanceAs (Decidable (∀ i ∈ db.joined? j.allocation.key, _))

def Stored (db : Database) (j : JoinedAllocation) : Prop :=
  ∃ i ∈ db.joined? j.allocation.key, i.allocation.allocatedAmount = j.allocation.allocatedAmount

end JoinedAllocation

def BalancedAt (db : Database) (id : String) : Prop :=
  ∀ c ∈ db.commissions.find? id, c.reservedAmount = db.sumAllocated id .reserved

theorem balanced_iff {db : Database} : Balanced db ↔ ∀ id, BalancedAt db id := by
  constructor
  · intro h id c hc
    have hreserved := h c (Table.mem_of_find? hc)
    rwa [Table.find?_key hc] at hreserved
  · intro h c hc
    exact h c.commissionId c (Table.find?_of_mem hc)

section loops
variable {db db' : Database}

theorem joined?_eq_some {key : String × String} {j : JoinedAllocation} :
    db.joined? key = some j ↔ j.Current db ∧ j.allocation.key = key := by
  rw [Database.joined?, Option.bind_eq_some_iff]
  constructor
  · intro h
    obtain ⟨a, ha, hj⟩ := h
    obtain ⟨c, hc, rfl⟩ := Option.map_eq_some_iff.mp hj
    have hkey := Table.find?_key ha
    exact ⟨⟨by rw [hkey]; exact ha, hc⟩, hkey⟩
  · intro h
    obtain ⟨hcur, rfl⟩ := h
    exact ⟨j.allocation, hcur.allocation, by rw [hcur.commission]; rfl⟩

theorem sumAllocated_setAllocationStatus_ne {key : String × String} {id : String}
    (h : key.2 ≠ id) (status s : CommissionAllocationStatus) :
    (db.setAllocationStatus key status).sumAllocated id s = db.sumAllocated id s := by
  cases hkey : db.commissionAllocations.find? key with
  | none =>
    have hsame : db.setAllocationStatus key status = db := by
      have hrows : ∀ a ∈ db.commissionAllocations.rows, decide (a.key = key) = false :=
        fun a ha => decide_eq_false (Table.find?_eq_none_iff.mp hkey a ha)
      exact congrArg (fun t => { db with commissionAllocations := t })
        (Table.updateMany_eq_self hrows)
    rw [hsame]
  | some a =>
    have hid : a.commissionId ≠ id := by
      have he := congrArg Prod.snd (Table.find?_key hkey)
      exact fun hc => h (he.symm.trans hc)
    rw [sumAllocated_setAllocationStatus hkey]
    simp [hid]

namespace Turn
variable (t : Turn)

theorem sumAllocated_body (db : Database) (j : JoinedAllocation) (id : String)
    (s : CommissionAllocationStatus) : (t.body db j).sumAllocated id s =
      (db.setAllocationStatus j.allocation.key t.target).sumAllocated id s := by
  rw [Database.sumAllocated, t.body_commissionAllocations, ← Database.sumAllocated]

theorem balancedAt_body_ne {j : JoinedAllocation} {id : String}
    (h : id ≠ j.allocation.commissionId) : BalancedAt (t.body db j) id ↔ BalancedAt db id := by
  have hrow : (t.body db j).commissions.find? id = db.commissions.find? id := by
    rw [t.body_eq, find?_setReservation, if_neg h]
    rfl
  rw [BalancedAt, hrow, sumAllocated_body, sumAllocated_setAllocationStatus_ne h.symm, BalancedAt]

theorem balancedAt_foldl_ne {js : List JoinedAllocation} {id : String}
    (h : ∀ j ∈ js, j.allocation.commissionId ≠ id) :
    BalancedAt (js.foldl t.body db) id ↔ BalancedAt db id := by
  induction js generalizing db with
  | nil => rfl
  | cons i js ih =>
    have hi := h i (List.mem_cons_self ..)
    rw [List.foldl_cons, ih fun j hj => h j (List.mem_cons_of_mem _ hj),
      t.balancedAt_body_ne hi.symm]

theorem joined?_body_ne {i : JoinedAllocation} {key : String × String}
    (h : key.2 ≠ i.allocation.commissionId) : (t.body db i).joined? key = db.joined? key := by
  have hkey : key ≠ i.allocation.key := fun he => h (congrArg Prod.snd he)
  rw [Database.joined?, t.body_commissionAllocations, find?_setAllocationStatus, if_neg hkey,
    Database.joined?]
  refine Option.bind_congr fun a ha => ?_
  have hid : a.commissionId = key.2 := congrArg Prod.snd (Table.find?_key ha)
  rw [t.body_eq, find?_setReservation, if_neg (by rw [hid]; exact h)]
  rfl

/-- A turn computed from `j` writes the counter that the rows stored now call for
exactly when the others have reserved what they had when `j` was read. -/
theorem balancedAt_body {j : JoinedAllocation} (hs : j.allocation.status = t.source)
    (hj : j.Stored db) (h : BalancedAt db j.allocation.commissionId) :
    BalancedAt (t.body db j) j.allocation.commissionId ↔ j.OthersKept db := by
  obtain ⟨i, hi, hamount⟩ := hj
  obtain ⟨hcur, hkey⟩ := joined?_eq_some.mp hi
  have hid : i.allocation.commissionId = j.allocation.commissionId := congrArg Prod.snd hkey
  have hstored : db.commissionAllocations.find? j.allocation.key = some i.allocation :=
    hkey ▸ hcur.allocation
  have hcommission : db.commissions.find? j.allocation.commissionId = some i.commission :=
    hid ▸ hcur.commission
  have hbalance : i.commission.reservedAmount = _ := h i.commission hcommission
  have hkept : j.OthersKept db ↔ i.othersReserved = j.othersReserved := by
    rw [JoinedAllocation.OthersKept, hi]
    simp
  have hrow : (db.setAllocationStatus j.allocation.key t.target).commissions.find?
      j.allocation.commissionId = some i.commission := hcommission
  rw [hkept, BalancedAt, sumAllocated_body, sumAllocated_setAllocationStatus hstored, t.body_eq,
    find?_setReservation, if_pos rfl, hrow, ← hbalance]
  simp only [Option.map_some, Option.mem_some_iff, forall_eq', JoinedAllocation.othersReserved,
    hs, hid, hamount, true_and]
  cases t with
  | settle | release | reverse | reReserve =>
    simp only [source, target, move, Move.reservedChange, reduceCtorEq, if_true, if_false]
    constructor <;> intro he <;> linarith

theorem balancedAt_foldl {js : List JoinedAllocation}
    (hs : ∀ j ∈ js, j.allocation.status = t.source) (hjs : ∀ j ∈ js, j.Stored db)
    (hn : (js.map fun j => j.allocation.commissionId).Nodup) {id : String}
    (h : BalancedAt db id) : BalancedAt (js.foldl t.body db) id ↔
      ∀ j ∈ js, j.allocation.commissionId = id → j.OthersKept db := by
  induction js generalizing db with
  | nil => simpa using h
  | cons i js ih =>
    rw [List.map_cons, List.nodup_cons] at hn
    have hne : ∀ j ∈ js, j.allocation.commissionId ≠ i.allocation.commissionId :=
      fun j hj he => hn.1 (List.mem_map.mpr ⟨j, hj, he⟩)
    have hi := hs i (List.mem_cons_self ..)
    have hjoined : ∀ j ∈ js, (t.body db i).joined? j.allocation.key =
        db.joined? j.allocation.key := fun j hj => t.joined?_body_ne (hne j hj)
    rw [List.foldl_cons, List.forall_mem_cons]
    by_cases hid : i.allocation.commissionId = id
    · subst hid
      rw [t.balancedAt_foldl_ne hne, t.balancedAt_body hi (hjs i (List.mem_cons_self ..)) h]
      constructor
      · intro hkept
        exact ⟨fun _ => hkept, fun j hj he => absurd he (hne j hj)⟩
      · intro hkept
        exact hkept.1 rfl
    · have hstored : ∀ j ∈ js, j.Stored (t.body db i) := by
        intro j hj
        rw [JoinedAllocation.Stored, hjoined j hj]
        exact hjs j (List.mem_cons_of_mem _ hj)
      rw [ih (fun j hj => hs j (List.mem_cons_of_mem _ hj)) hstored hn.2
        ((t.balancedAt_body_ne (Ne.symm hid)).mpr h)]
      have hkept : ∀ j ∈ js, j.OthersKept (t.body db i) ↔ j.OthersKept db := by
        intro j hj
        rw [JoinedAllocation.OthersKept, hjoined j hj, JoinedAllocation.OthersKept]
      constructor
      · intro hrest
        exact ⟨fun he => absurd he hid, fun j hj he => (hkept j hj).mp (hrest j hj he)⟩
      · intro hrest j hj he
        exact (hkept j hj).mpr (hrest.2 j hj he)

end Turn
end loops

section kept
variable {db db' : Database}

def KeepsAllocations (db db' : Database) : Prop :=
  ∀ j : JoinedAllocation, j.Stored db → j.Stored db'

theorem Turn.foldl_keeps (t : Turn) (db : Database) (js : List JoinedAllocation) :
    KeepsAllocations db (js.foldl t.body db) := by
  intro j hj
  obtain ⟨i, hi, hamount⟩ := hj
  obtain ⟨hcur, hkey⟩ := joined?_eq_some.mp hi
  obtain ⟨c, hc⟩ := Option.isSome_iff_exists.mp ((t.foldl_evolves db js).commission
    i.allocation.commissionId (by rw [hcur.commission]; rfl))
  obtain ⟨a, ha, hid, hsame⟩ : ∃ a,
      (js.foldl t.body db).commissionAllocations.find? j.allocation.key = some a ∧
      a.commissionId = i.allocation.commissionId ∧
      a.allocatedAmount = i.allocation.allocatedAmount := by
    have hfind := t.foldl_find? db js i.allocation.key
    rw [hcur.allocation, Option.map_some, hkey] at hfind
    refine ⟨_, hfind, ?_⟩
    split <;> exact ⟨rfl, rfl⟩
  refine ⟨⟨a, c⟩, joined?_eq_some.mpr ⟨⟨?_, ?_⟩, Table.find?_key ha⟩, hsame.trans hamount⟩
  · rw [Table.find?_key ha]
    exact ha
  · rw [hid]
    exact hc

theorem createPayout_keeps {r : Requester} {role : Role} {amount : ℚ} {payoutId : String}
    {now : DateTime} {request : CommissionPayoutRequest}
    (h : createPayout r role amount payoutId now db = .ok (request, db')) :
    KeepsAllocations db db' := by
  have happlies := createPayout_applies h
  obtain ⟨-, -, payouts, -, hplan⟩ := createPayout_eq_ok h
  obtain ⟨-, hrows⟩ := reservePlan_frame hplan
  intro j hj
  obtain ⟨i, hi, hamount⟩ := hj
  obtain ⟨hcur, hkey⟩ := joined?_eq_some.mp hi
  have hmem : i.allocation ∈ db'.commissionAllocations.rows := by
    rw [hrows]
    exact List.mem_append_left _ (Table.mem_of_find? hcur.allocation)
  have hcommission : (db'.commissions.find? i.allocation.commissionId).isSome := by
    rw [(happlies _).isSome, hcur.commission]
    rfl
  obtain ⟨c, hc⟩ := Option.isSome_iff_exists.mp hcommission
  exact ⟨⟨i.allocation, c⟩, joined?_eq_some.mpr ⟨⟨Table.find?_of_mem hmem, hc⟩, hkey⟩, hamount⟩

theorem Applies.balanced {ms : List (String × Move ℚ)} (h : Applies db db' ms)
    (hb : Balanced db) : Balanced db' := by
  refine balanced_iff.mpr fun id c' hc' => ?_
  have hm := h id
  have hrow := hm.row
  rw [hc', eq_comm, Option.map_eq_some_iff] at hrow
  obtain ⟨c, hc, rfl⟩ := hrow
  have hbefore : c.reservedAmount = (db.fund id).reserved := balanced_iff.mp hb id c hc
  have hafter : db'.sumAllocated id .reserved = (db'.fund id).reserved := rfl
  rw [hafter, hm.fund, Fund.apply_reserved, Commission.afterMove_reservedAmount, hbefore]

end kept

structure LoadedPayout.ReadFrom (payoutId : String) (db : Database) (p : LoadedPayout) : Prop where
  payoutId : p.payout.payoutId = payoutId
  stored : ∀ j ∈ p.commissionAllocations, j.Stored db
  nodup : (p.commissionAllocations.map fun j => j.allocation.commissionId).Nodup

section commit
variable {payoutId : String} {db : Database} {p : LoadedPayout}

theorem LoadedPayout.ReadFrom.mono {db' : Database} (h : p.ReadFrom payoutId db)
    (hkeeps : KeepsAllocations db db') : p.ReadFrom payoutId db' :=
  ⟨h.payoutId, fun j hj => hkeeps j (h.stored j hj), h.nodup⟩

theorem loadPayout_readFrom (h : loadPayout payoutId db = some p) : p.ReadFrom payoutId db := by
  obtain ⟨payout, hpayout, rfl⟩ := Option.map_eq_some_iff.mp h
  refine ⟨Table.find?_key hpayout, fun j hj => ?_, nodup_allocationsOf⟩
  exact ⟨j, joined?_eq_some.mpr ⟨(current_of_mem_allocationsOf hj).1, rfl⟩, rfl⟩

variable (e : TransferEvent) (payload : TransferPayload) (now : DateTime)

theorem TransferEvent.written_keeps : KeepsAllocations db (e.written payload now p db) := by
  let marked := updatePayout db p.payout.payoutId (e.handler.mark payload now)
    (e.handler.mark_payoutId payload now)
  have hloop : KeepsAllocations marked _ :=
    e.turn.foldl_keeps marked (withStatus e.turn.source p.commissionAllocations)
  exact hloop

theorem TransferEvent.balanced_written_iff (hp : p.ReadFrom payoutId db) (hb : Balanced db) :
    Balanced (e.written payload now p db) ↔
      ∀ j ∈ withStatus e.turn.source p.commissionAllocations, j.OthersKept db := by
  let marked := updatePayout db p.payout.payoutId (e.handler.mark payload now)
    (e.handler.mark_payoutId payload now)
  have hloop : ∀ id, BalancedAt (e.written payload now p db) id ↔
      ∀ j ∈ withStatus e.turn.source p.commissionAllocations,
        j.allocation.commissionId = id → j.OthersKept marked := by
    intro id
    have hmarked : BalancedAt marked id := balanced_iff.mp hb id
    have hstored : ∀ j ∈ withStatus e.turn.source p.commissionAllocations, j.Stored marked :=
      fun j hj => hp.stored j (mem_withStatus.mp hj).1
    refine e.turn.balancedAt_foldl (fun j hj => (mem_withStatus.mp hj).2) hstored ?_ hmarked
    exact (List.filter_sublist.map _).nodup hp.nodup
  rw [balanced_iff]
  constructor
  · intro h j hj
    exact (hloop _).mp (h j.allocation.commissionId) j hj rfl
  · intro h id
    exact (hloop id).mpr fun j hj _ => h j hj

theorem TransferEvent.postings_commit {ledger : Ledger} (hp : p.payout.payoutId = payoutId)
    (h : LedgerService.recordTransaction (e.handler.posting p.payout) db.ledger = .ok ledger)
    (e' : TransferEvent) : ledger.postings (e'.reference payoutId) =
      db.ledger.postings (e'.reference payoutId) + if e = e' then 1 else 0 := by
  rw [LedgerService.postings_recordTransaction h (e.posting_entries_ne_nil _),
    e.posting_reference, hp]
  simp only [TransferEvent.reference_inj]

end commit

namespace Execution
variable {payoutId : String} {db : Database} {x : Execution}

def Reads (payoutId : String) (db : Database) : Execution → Prop
  | webhook _ payload _ t => payload.reference = payoutId ∧
      ∀ p, t = .loaded p → p.ReadFrom payoutId db
  | requestPayout .. => True

theorem loaded?_eq_some {e : TransferEvent} {p : LoadedPayout} :
    x.loaded? = some (e, p) ↔ ∃ payload now, x = webhook e payload now (.loaded p) := by
  constructor
  · intro h
    cases x with
    | requestPayout => cases h
    | webhook event payload now t =>
      cases t with
      | loaded q =>
        cases h
        exact ⟨payload, now, rfl⟩
      | start | committed | skipped | failed => cases h
  · intro h
    obtain ⟨payload, now, rfl⟩ := h
    rfl

structure Quiet (db : Database) (x : Execution) : Prop where
  loaded : x.loaded? = none
  ledger : (x.next db).1.ledger = db.ledger
  balanced : Balanced db → Balanced (x.next db).1
  keeps : KeepsAllocations db (x.next db).1
  hasCommitted : ∀ e, (x.next db).2.hasCommitted e = x.hasCommitted e

structure Commits (db : Database) (x : Execution) (e : TransferEvent) (p : LoadedPayout) : Prop where
  loaded : x.loaded? = some (e, p)
  writes : ∃ payload now ledger,
    LedgerService.recordTransaction (e.handler.posting p.payout) db.ledger = .ok ledger ∧
      x.next db = ({ e.written payload now p db with ledger }, webhook e payload now .committed)

theorem quiet_of_unchanged (hloaded : x.loaded? = none) (hdb : (x.next db).1 = db)
    (h : ∀ e, (x.next db).2.hasCommitted e = x.hasCommitted e) : Quiet db x where
  loaded := hloaded
  ledger := by rw [hdb]
  balanced hb := by rwa [hdb]
  keeps j hj := by rwa [hdb]
  hasCommitted := h

theorem quiet_requestPayout (db : Database) (userId : String) (call : PayoutCall)
    (t : PayoutThread) : Quiet db (requestPayout userId call t) := by
  rcases call.next_cases userId db t with ⟨hdb, -⟩ | ⟨r, role, request, db', rfl, hcreate, hnext⟩
  · exact quiet_of_unchanged rfl hdb fun _ => rfl
  · have hdb : ((requestPayout userId call (.checked r role)).next db).1 = db' :=
      congrArg Prod.fst hnext
    obtain ⟨-, -, payouts, -, hplan⟩ := createPayout_eq_ok hcreate
    obtain ⟨⟨cs, as, hframe⟩, -⟩ := reservePlan_frame hplan
    constructor
    · rfl
    · rw [hdb, hframe]
    · rw [hdb]
      exact (createPayout_applies hcreate).balanced
    · rw [hdb]
      exact createPayout_keeps hcreate
    · exact fun _ => rfl

theorem next_cases (db : Database) (x : Execution) : Quiet db x ∨ ∃ e p, Commits db x e p := by
  cases x with
  | requestPayout userId call t => exact .inl (quiet_requestPayout db userId call t)
  | webhook e payload now t =>
    cases t with
    | loaded p =>
      obtain ⟨ledger, hledger, hcommit⟩ := e.commit_eq_ok payload now p db
      refine .inr ⟨e, p, rfl, payload, now, ledger, hledger, ?_⟩
      simp [next, TransferHandler.next, hcommit]
    | start =>
      cases hload : loadPayout payload.reference db with
      | none =>
        refine .inl (quiet_of_unchanged rfl ?_ fun e' => ?_) <;>
          simp [next, TransferHandler.next, hload, hasCommitted]
      | some p =>
        by_cases hs : p.payout.status = e.handler.target
        · refine .inl (quiet_of_unchanged rfl ?_ fun e' => ?_) <;>
            simp [next, TransferHandler.next, hload, hs, hasCommitted]
        · refine .inl (quiet_of_unchanged rfl ?_ fun e' => ?_) <;>
            simp [next, TransferHandler.next, hload, hs, hasCommitted]
    | committed | skipped | failed => exact .inl (quiet_of_unchanged rfl rfl fun _ => rfl)

theorem Reads.mono {db' : Database} (h : x.Reads payoutId db) (hkeeps : KeepsAllocations db db') :
    x.Reads payoutId db' := by
  cases x with
  | requestPayout => trivial
  | webhook e payload now t => exact ⟨h.1, fun p hp => (h.2 p hp).mono hkeeps⟩

theorem next_keeps (db : Database) (x : Execution) : KeepsAllocations db (x.next db).1 := by
  rcases x.next_cases db with hquiet | ⟨e, p, -, payload, now, ledger, -, hnext⟩
  · exact hquiet.keeps
  · rw [hnext]
    exact e.written_keeps payload now

theorem next_reads (h : x.Reads payoutId db) : (x.next db).2.Reads payoutId db := by
  cases x with
  | requestPayout => trivial
  | webhook e payload now t =>
    obtain ⟨hreference, hread⟩ := h
    refine ⟨hreference, fun p hp => ?_⟩
    cases t with
    | start =>
      cases hload : loadPayout payload.reference db with
      | none => simp [hload] at hp
      | some q =>
        by_cases hs : q.payout.status = e.handler.target
        · simp [hload, hs] at hp
        · simp only [hload, hs, if_false, TransferThread.loaded.injEq] at hp
          subst hp
          rw [hreference] at hload
          exact loadPayout_readFrom hload
    | loaded q =>
      obtain ⟨ledger, -, hcommit⟩ := e.commit_eq_ok payload now q db
      simp [hcommit] at hp
    | committed | skipped | failed => cases hp

end Execution

section executions
variable {ι : Type} [DecidableEq ι] {payoutId : String} {db₀ : Database}
  {c : Config Database ι Execution} {i : ι}

def Executions.step : Config Database ι Execution → ι → Config Database ι Execution :=
  Config.step fun _ => Execution.next

/-- Since `db₀` each event was posted at most once for the payout, and every
counter is the sum of the reservations: each was added and subtracted once. -/
structure AppliedOnce (payoutId : String) (db₀ db : Database) : Prop where
  postings : ∀ e : TransferEvent, db.ledger.postings (e.reference payoutId) ≤
    db₀.ledger.postings (e.reference payoutId) + 1
  balanced : Balanced db

/-- A handler that commits is the first of its event to do so, and what others
have reserved of the commissions it writes is what it has read. -/
def CommitsUncontended (c : Config Database ι Execution) (i : ι) : Prop :=
  ∀ x ∈ (c.threads i).loaded?, (∀ k, (c.threads k).hasCommitted x.1 = false) ∧
    ∀ j ∈ withStatus x.1.turn.source x.2.commissionAllocations, j.OthersKept c.shared

instance {n : ℕ} (c : Config Database (Fin n) Execution) (i : Fin n) :
    Decidable (CommitsUncontended c i) :=
  inferInstanceAs (Decidable (∀ x ∈ (c.threads i).loaded?,
    (∀ k, (c.threads k).hasCommitted x.1 = false) ∧
      ∀ j ∈ withStatus x.1.turn.source x.2.commissionAllocations, j.OthersKept c.shared))

/-- The invariant of the executions: what they have read, and that an event has
been posted exactly when an execution has committed it. -/
structure Executions.Inv (payoutId : String) (db₀ : Database) (c : Config Database ι Execution) :
    Prop where
  reads : ∀ k, (c.threads k).Reads payoutId c.shared
  posted : ∀ e : TransferEvent, db₀.ledger.postings (e.reference payoutId) ≤
    c.shared.ledger.postings (e.reference payoutId)
  unposted_iff : ∀ e : TransferEvent, c.shared.ledger.postings (e.reference payoutId) =
    db₀.ledger.postings (e.reference payoutId) ↔ ∀ k, (c.threads k).hasCommitted e = false

namespace Executions

theorem step_reads (h : Inv payoutId db₀ c) (i : ι) :
    ∀ k, ((step c i).threads k).Reads payoutId (step c i).shared := by
  refine Config.step_local_invariant (J := fun s _ x => Execution.Reads payoutId s x) ?_ ?_ h.reads
  · intro s x hx
    exact (Execution.next_reads hx).mono (x.next_keeps s)
  · intro s x k y _ hy _
    exact hy.mono (x.next_keeps s)

theorem step_hasCommitted (e : TransferEvent) :
    (∀ k, ((step c i).threads k).hasCommitted e = false) ↔
      (∀ k, k ≠ i → (c.threads k).hasCommitted e = false) ∧
        ((c.threads i).next c.shared).2.hasCommitted e = false := by
  constructor
  · intro h
    refine ⟨fun k hk => ?_, ?_⟩
    · have hother := h k
      rwa [step, Config.step_threads_ne _ _ hk] at hother
    · have hself := h i
      rwa [step, Config.step_threads_self] at hself
  · intro h k
    by_cases hk : k = i
    · subst hk
      rw [step, Config.step_threads_self]
      exact h.2
    · rw [step, Config.step_threads_ne _ _ hk]
      exact h.1 k hk

theorem forall_hasCommitted_iff (e : TransferEvent) (h : (c.threads i).hasCommitted e = false) :
    (∀ k, (c.threads k).hasCommitted e = false) ↔
      ∀ k, k ≠ i → (c.threads k).hasCommitted e = false := by
  constructor
  · exact fun hall k _ => hall k
  · intro hall k
    by_cases hk : k = i
    · rw [hk]
      exact h
    · exact hall k hk

theorem inv_quiet (h : Inv payoutId db₀ c) (hquiet : (c.threads i).Quiet c.shared) :
    Inv payoutId db₀ (step c i) := by
  have hledger : (step c i).shared.ledger = c.shared.ledger := hquiet.ledger
  refine ⟨step_reads h i, fun e => ?_, fun e => ?_⟩
  · rw [hledger]
    exact h.posted e
  · rw [hledger, h.unposted_iff e, step_hasCommitted e, hquiet.hasCommitted e]
    constructor
    · exact fun hall => ⟨fun k _ => hall k, hall i⟩
    · intro hall k
      by_cases hk : k = i
      · rw [hk]
        exact hall.2
      · exact hall.1 k hk

section commits
variable {e : TransferEvent} {p : LoadedPayout} (h : Inv payoutId db₀ c)
  (hcommit : (c.threads i).Commits c.shared e p)
include h hcommit

omit [DecidableEq ι] in
theorem readFrom_commits : p.ReadFrom payoutId c.shared := by
  obtain ⟨payload, now, hx⟩ := Execution.loaded?_eq_some.mp hcommit.loaded
  have hreads := h.reads i
  rw [hx] at hreads
  exact hreads.2 p rfl

theorem postings_commits (e' : TransferEvent) :
    (step c i).shared.ledger.postings (e'.reference payoutId) =
      c.shared.ledger.postings (e'.reference payoutId) + if e = e' then 1 else 0 := by
  obtain ⟨payload, now, ledger, hledger, hnext⟩ := hcommit.writes
  rw [step, Config.step_shared, hnext]
  exact e.postings_commit (readFrom_commits h hcommit).payoutId hledger e'

theorem balanced_commits_iff (hb : Balanced c.shared) : Balanced (step c i).shared ↔
    ∀ j ∈ withStatus e.turn.source p.commissionAllocations, j.OthersKept c.shared := by
  obtain ⟨payload, now, ledger, -, hnext⟩ := hcommit.writes
  rw [step, Config.step_shared, hnext]
  exact e.balanced_written_iff payload now (readFrom_commits h hcommit) hb

theorem inv_commits : Inv payoutId db₀ (step c i) := by
  obtain ⟨payload, now, hx⟩ := Execution.loaded?_eq_some.mp hcommit.loaded
  obtain ⟨payload', now', ledger, -, hnext⟩ := hcommit.writes
  refine ⟨step_reads h i, fun e' => ?_, fun e' => ?_⟩
  · rw [postings_commits h hcommit]
    exact (h.posted e').trans (Nat.le_add_right ..)
  · have hnow : ((c.threads i).next c.shared).2.hasCommitted e' = decide (e = e') := by
      rw [hnext]
      rfl
    have hbefore : (c.threads i).hasCommitted e' = false := by
      rw [hx]
      rfl
    rw [postings_commits h hcommit, step_hasCommitted, hnow]
    by_cases he : e = e'
    · have hle := h.posted e'
      simp only [he, if_true, decide_true, Bool.true_eq_false, and_false, iff_false]
      omega
    · simp only [he, if_false, decide_false, and_true, add_zero, h.unposted_iff,
        forall_hasCommitted_iff e' hbefore]

end commits

theorem inv_step (h : Inv payoutId db₀ c) (i : ι) : Inv payoutId db₀ (step c i) := by
  rcases (c.threads i).next_cases c.shared with hquiet | ⟨e, p, hcommit⟩
  · exact inv_quiet h hquiet
  · exact inv_commits h hcommit

theorem appliedOnce_step_iff (h : Inv payoutId db₀ c) (ha : AppliedOnce payoutId db₀ c.shared)
    (i : ι) : AppliedOnce payoutId db₀ (step c i).shared ↔ CommitsUncontended c i := by
  rcases (c.threads i).next_cases c.shared with hquiet | ⟨e, p, hcommit⟩
  · refine iff_of_true ⟨fun e => ?_, hquiet.balanced ha.balanced⟩ fun x hx => ?_
    · have hledger : (step c i).shared.ledger = c.shared.ledger := hquiet.ledger
      rw [hledger]
      exact ha.postings e
    · rw [hquiet.loaded] at hx
      cases hx
  · have hposted : (∀ e' : TransferEvent, (step c i).shared.ledger.postings (e'.reference payoutId) ≤
        db₀.ledger.postings (e'.reference payoutId) + 1) ↔
          ∀ k, (c.threads k).hasCommitted e = false := by
      rw [← h.unposted_iff e]
      have hle := h.posted e
      constructor
      · intro hall
        have hself := hall e
        rw [postings_commits h hcommit, if_pos rfl] at hself
        omega
      · intro hnone e'
        rw [postings_commits h hcommit]
        by_cases he : e = e'
        · rw [if_pos he, ← he, hnone]
        · rw [if_neg he, add_zero]
          exact ha.postings e'
    have hbalanced := balanced_commits_iff h hcommit ha.balanced
    rw [CommitsUncontended, hcommit.loaded]
    simp only [Option.mem_some_iff, forall_eq']
    rw [← hposted, ← hbalanced]
    exact ⟨fun h => ⟨h.postings, h.balanced⟩, fun h => ⟨h.1, h.2⟩⟩

end Executions

/-- A schedule applies every event once, with no update of another operation
lost, exactly when every commit of a handler in it is uncontended. -/
theorem appliedOnce_throughout_iff (payoutId : String) (db : Database) (hb : Balanced db)
    (threads : ι → Execution) (hstart : ∀ k, (threads k).Waits payoutId) (schedule : List ι) :
    Throughout Executions.step (fun c => AppliedOnce payoutId db c.shared) ⟨db, threads⟩ schedule ↔
      Along Executions.step CommitsUncontended ⟨db, threads⟩ schedule := by
  have hnone : ∀ k e, (threads k).hasCommitted e = false := by
    intro k e
    have hk := hstart k
    cases hx : threads k with
    | requestPayout => rfl
    | webhook event payload now t =>
      rw [hx] at hk
      cases t with
      | start => rfl
      | loaded | committed | skipped | failed => cases hk
  have hreads : ∀ k, (threads k).Reads payoutId db := by
    intro k
    have hk := hstart k
    cases hx : threads k with
    | requestPayout => trivial
    | webhook event payload now t =>
      rw [hx] at hk
      cases t with
      | start => exact ⟨hk, fun p hp => by cases hp⟩
      | loaded | committed | skipped | failed => cases hk
  refine throughout_iff_along (I := Executions.Inv payoutId db)
    (fun c i h ha => Executions.appliedOnce_step_iff h ha i)
    (fun c i h _ => Executions.inv_step h i) ⟨hreads, fun _ => le_rfl, fun e => ?_⟩
    ⟨fun _ => Nat.le_add_right .., hb⟩
  exact iff_of_true rfl fun k => hnone k e

end executions

def successTwice : Fin 3 → Execution
  | 0 => .webhook .success { reference := "p" } 0 .start
  | 1 => .webhook .success { reference := "p" } 0 .start
  | 2 => .requestPayout "marketer" ⟨30, "q", 1⟩ .start

theorem waits_successTwice : ∀ k, (successTwice k).Waits "p"
  | 0 => rfl
  | 1 => rfl
  | 2 => trivial

theorem appliedOnce_successTwice : Throughout Executions.step
    (fun c => AppliedOnce "p" inTransit c.shared) ⟨inTransit, successTwice⟩
      [0, 0, 1, 1, 2, 2, 2] :=
  (appliedOnce_throughout_iff "p" inTransit (by decide +kernel) successTwice waits_successTwice
    _).mpr (by decide +kernel)

/-- Both deliveries read the payout in transit, and the request is served between
their commits: the success is posted twice and the new reservation is lost. -/
theorem posted_twice_reservation_lost :
    inTransit.ledger.postings (TransferEvent.success.reference "p") = 0 ∧
    ¬ Throughout Executions.step (fun c => AppliedOnce "p" inTransit c.shared)
      ⟨inTransit, successTwice⟩ [0, 1, 0, 2, 2, 2, 1] ∧
    (run Executions.step ⟨inTransit, successTwice⟩ [0, 1, 0, 2, 2, 2, 1]).shared.ledger.postings
      (TransferEvent.success.reference "p") = 2 ∧
    ¬ Balanced (run Executions.step ⟨inTransit, successTwice⟩ [0, 1, 0, 2, 2, 2, 1]).shared := by
  have hbalanced : ¬ Balanced
      (run Executions.step ⟨inTransit, successTwice⟩ [0, 1, 0, 2, 2, 2, 1]).shared := by
    decide +kernel
  exact ⟨by decide +kernel, fun h => hbalanced h.last.balanced, by decide +kernel, hbalanced⟩

end InstalFlow
