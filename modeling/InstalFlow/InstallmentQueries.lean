import InstalFlow.IntentPayments
import InstalFlow.Relational.Earliest
import Mathlib.Data.List.Dedup

/-!
# Queries of installments

The list of a customer finds the first unpaid installments of the contracts on a page by a
grouped minimum and a second query, the detail of an installment and the check in front of its
payment by an ordered query, and the helpers for a whole contract in a sorted array. A
contract has each sequence once, and so all of them find the same row.
-/

namespace InstalFlow
open Relational

structure PaymentEligibility where
  canPay : Bool
  state : InstallmentEligibilityState
  reason : Option String
  availableFrom : Option DateTime
  isNextInstallment : Bool
  paymentWindowStarted : Bool
  daysUntilDue : ℤ
  daysOverdue : ℕ

structure EligibilityResponseFields where
  canPay : Bool
  isNextInstallment : Bool
  paymentWindowStarted : Bool
  availableFrom : Option DateTime
  daysUntilDue : ℤ
  daysOverdue : ℕ
  isOverdue : Bool
  isDueToday : Bool
  isUpcoming : Bool
  paymentStatusLabel : PaymentStatusLabel
  paymentRestrictionReason : Option String
  paymentEligibility : PaymentEligibility

def toEligibilityResponseFields (eligibility : InstallmentEligibility) :
    EligibilityResponseFields where
  canPay := eligibility.canPay
  isNextInstallment := eligibility.isNextInstallment
  paymentWindowStarted := eligibility.paymentWindowStarted
  availableFrom := eligibility.availableFrom
  daysUntilDue := eligibility.daysUntilDue
  daysOverdue := eligibility.daysOverdue
  isOverdue := eligibility.isOverdue
  isDueToday := eligibility.isDueToday
  isUpcoming := eligibility.isUpcoming
  paymentStatusLabel := eligibility.paymentStatusLabel
  paymentRestrictionReason := eligibility.reason
  paymentEligibility :=
    { canPay := eligibility.canPay
      state := eligibility.state
      reason := eligibility.reason
      availableFrom := eligibility.availableFrom
      isNextInstallment := eligibility.isNextInstallment
      paymentWindowStarted := eligibility.paymentWindowStarted
      daysUntilDue := eligibility.daysUntilDue
      daysOverdue := eligibility.daysOverdue }

def Installment.marker (i : Installment) : NextUnpaidMarker := ⟨i.installmentId, i.sequence, i.dueDate⟩

def sortedBySequence (installments : List Installment) : List Installment :=
  installments.insertionSort fun a b => a.sequence ≤ b.sequence

def computeContractInstallmentEligibility (installments : List Installment)
    (referenceDate : DateTime) : String → Option InstallmentEligibility :=
  let sorted := sortedBySequence installments
  let marker := (sorted.find? fun i => i.status ≠ .paid).map Installment.marker
  mapOf (sorted.map fun i =>
    (i.installmentId, computeInstallmentEligibility i marker referenceDate))

def getNextPayableInstallment (installments : List Installment) (referenceDate : DateTime) :
    Option (Installment × InstallmentEligibility) :=
  ((sortedBySequence installments).find? fun i => i.status ≠ .paid).map fun next =>
    (next, computeInstallmentEligibility next (some next.marker) referenceDate)

inductive SortOrder
  | asc | desc

structure PaginationParams where
  page : Option ℤ := none
  limit : Option ℤ := none
  sortOrder : Option SortOrder := none

structure InstallmentsPage where
  installments : List (Installment × EligibilityResponseFields)
  total : ℕ
  totalPages : ℤ
  currentPage : ℤ
  limit : ℤ
  hasNextPage : Bool
  hasPreviousPage : Bool

namespace InstallmentService

def maxPageLimit : ℤ := 100

def defaultPageLimit : ℤ := 10

/-- `orderBy: { dueDate: sortOrder }`, where `rank` is the order of rows of one date. -/
def dueOrder (rank : String → ℕ) : SortOrder → Installment → Installment → Bool
  | .asc, a, b => a.dueDate < b.dueDate ∨
      a.dueDate = b.dueDate ∧ rank a.installmentId ≤ rank b.installmentId
  | .desc, a, b => b.dueDate < a.dueDate ∨
      a.dueDate = b.dueDate ∧ rank a.installmentId ≤ rank b.installmentId

def relatedTo (userId : String) (db : Database) (i : Installment) : Bool :=
  (db.financingContracts.find? i.financingContractId).any fun c => c.userId = some userId

def contractInstallments (contractId : String) (db : Database) : List Installment :=
  db.installments.rows.filter fun i => i.financingContractId = contractId

def unpaidOf (contractId : String) (db : Database) : List Installment :=
  db.installments.rows.filter fun i => i.financingContractId = contractId ∧ i.status ≠ .paid

/-- The `groupBy` over some contracts, and the query for the rows at its minima, which does not
ask for their status. -/
def nextUnpaidByContract (contractIds : List String) (db : Database) :
    String → Option NextUnpaidMarker :=
  let minUnpaidSequenceByContract := contractIds.filterMap fun contractId =>
    (((unpaidOf contractId db).map Installment.sequence).min?).map (contractId, ·)
  let nextUnpaidRows := db.installments.rows.filter fun row =>
    minUnpaidSequenceByContract.any fun pair =>
      row.financingContractId = pair.1 ∧ row.sequence = pair.2
  mapOf (nextUnpaidRows.map fun row => (row.financingContractId, row.marker))

def getRelatedCustomersInstallments (rank : String → ℕ) (userId : String) (params : PaginationParams)
    (now : DateTime) (db : Database) : InstallmentsPage :=
  let page := max 1 (params.page.getD 1)
  let limit := min maxPageLimit (max 1 (params.limit.getD defaultPageLimit))
  let related := db.installments.rows.filter (relatedTo userId db)
  let sorted := related.insertionSort fun a b =>
    dueOrder rank (params.sortOrder.getD .asc) a b = true
  let installments := (sorted.drop ((page - 1) * limit).toNat).take limit.toNat
  let markers := nextUnpaidByContract (installments.map Installment.financingContractId).dedup db
  let totalPages := (related.length + limit - 1) / limit
  { installments := installments.map fun i =>
      (i, toEligibilityResponseFields
        (computeInstallmentEligibility i (markers i.financingContractId) now))
    total := related.length
    totalPages
    currentPage := page
    limit
    hasNextPage := page < totalPages
    hasPreviousPage := 1 < page }

/-- The first unpaid row is not asked for when the row itself is paid. -/
def eligibility (installment : Installment) (now : DateTime) (db : Database) :
    InstallmentEligibility :=
  computeInstallmentEligibility installment
    (if installment.status = .paid then none else nextUnpaid installment.financingContractId db) now

def getInstallmentById (installmentId : String) (now : DateTime) (db : Database) :
    Option (Installment × EligibilityResponseFields) :=
  (db.installments.find? installmentId).map fun installment =>
    (installment, toEligibilityResponseFields (eligibility installment now db))

end InstallmentService

/-- The unique pair of contract and sequence -/
def DistinctSequences (db : Database) : Prop :=
  ∀ i ∈ db.installments.rows, ∀ j ∈ db.installments.rows,
    i.financingContractId = j.financingContractId → i.sequence = j.sequence → i = j

instance (db : Database) : Decidable (DistinctSequences db) :=
  inferInstanceAs (Decidable (∀ i ∈ db.installments.rows, ∀ j ∈ db.installments.rows, _ → _ → _))

theorem computeInstallmentEligibility_of_paid {i : Installment} (h : i.status = .paid)
    (marker marker' : Option NextUnpaidMarker) (now : DateTime) :
    computeInstallmentEligibility i marker now = computeInstallmentEligibility i marker' now := by
  simp [computeInstallmentEligibility, h]

namespace InstallmentService
variable {db : Database} {contractId : String} {i : Installment} {now : DateTime}

theorem eligibility_eq (i : Installment) (now : DateTime) (db : Database) : eligibility i now db =
    computeInstallmentEligibility i (nextUnpaid i.financingContractId db) now := by
  rw [eligibility]
  split
  · rename_i hpaid
    exact computeInstallmentEligibility_of_paid hpaid _ _ _
  · rfl

theorem nextUnpaid_eq (contractId : String) (db : Database) : nextUnpaid contractId db =
    (earliestBy Installment.sequence (unpaidOf contractId db)).map Installment.marker := rfl

theorem mem_unpaidOf : i ∈ unpaidOf contractId db ↔
    i ∈ db.installments.rows ∧ i.financingContractId = contractId ∧ i.status ≠ .paid := by
  rw [unpaidOf, List.mem_filter, decide_eq_true_iff]

theorem distinct_unpaidOf (h : DistinctSequences db) (contractId : String) :
    Distinct Installment.sequence (unpaidOf contractId db) := by
  intro i hi j hj hsequence
  obtain ⟨hi, hcontract, -⟩ := mem_unpaidOf.mp hi
  obtain ⟨hj, hcontract', -⟩ := mem_unpaidOf.mp hj
  exact h i hi j hj (hcontract.trans hcontract'.symm) hsequence

theorem nextUnpaidByContract_eq {contractIds : List String} (h : DistinctSequences db)
    (hmem : contractId ∈ contractIds) :
    nextUnpaidByContract contractIds db contractId = nextUnpaid contractId db := by
  -- the row at the minimum of a contract is its earliest unpaid one
  have hpair {id : String} {row : Installment} : row.financingContractId = id →
      ((contractIds.filterMap fun contractId =>
        (((unpaidOf contractId db).map Installment.sequence).min?).map (contractId, ·)).any
          fun pair => row.financingContractId = pair.1 ∧ row.sequence = pair.2) = true →
      ∃ first, earliestBy Installment.sequence (unpaidOf id db) = some first ∧
        row.sequence = first.sequence := by
    intro hid hany
    obtain ⟨⟨group, n⟩, hpair, hrow⟩ := List.any_eq_true.mp hany
    obtain ⟨hcontract, hsequence⟩ := of_decide_eq_true hrow
    obtain ⟨group', -, hmin⟩ := List.mem_filterMap.mp hpair
    obtain ⟨n', hmin, he⟩ := Option.map_eq_some_iff.mp hmin
    cases he
    rw [min?_map_eq] at hmin
    obtain ⟨first, hfirst, rfl⟩ := Option.map_eq_some_iff.mp hmin
    obtain rfl : group = id := hcontract.symm.trans hid
    exact ⟨first, hfirst, hsequence⟩
  rw [nextUnpaidByContract, nextUnpaid_eq]
  cases hfirst : earliestBy Installment.sequence (unpaidOf contractId db) with
  | none =>
    refine mapOf_eq_none fun e he hid => ?_
    obtain ⟨row, hrow, rfl⟩ := List.mem_map.mp he
    obtain ⟨first, hsome, -⟩ := hpair hid (List.mem_filter.mp hrow).2
    rw [hfirst] at hsome
    cases hsome
  | some first =>
    obtain ⟨hrow, hcontract, -⟩ := mem_unpaidOf.mp (mem_of_earliestBy hfirst)
    refine mapOf_eq_some (List.mem_map.mpr ⟨first, List.mem_filter.mpr ⟨hrow, ?_⟩, ?_⟩)
      fun e he hid => ?_
    · refine List.any_eq_true.mpr ⟨(contractId, first.sequence), ?_, decide_eq_true ⟨hcontract, rfl⟩⟩
      refine List.mem_filterMap.mpr ⟨contractId, hmem, ?_⟩
      rw [min?_map_eq, hfirst]
      rfl
    · rw [hcontract]
    · obtain ⟨row, hmem, rfl⟩ := List.mem_map.mp he
      obtain ⟨hmem, hany⟩ := List.mem_filter.mp hmem
      obtain ⟨first', hsome, hsequence⟩ := hpair hid hany
      rw [hfirst] at hsome
      cases hsome
      rw [h row hmem first hrow (Eq.trans hid hcontract.symm) hsequence]

/-- The first row of the sorted array that is not PAID -/
theorem find?_unpaid (h : DistinctSequences db) {rows : List Installment}
    (hrows : rows.Perm (contractInstallments contractId db)) :
    (sortedBySequence rows).find? (fun i => i.status ≠ .paid) =
      earliestBy Installment.sequence (unpaidOf contractId db) := by
  have hunpaid : unpaidOf contractId db =
      (contractInstallments contractId db).filter fun i => i.status ≠ .paid := by
    rw [contractInstallments, List.filter_filter, unpaidOf]
    refine List.filter_congr fun i _ => ?_
    rw [Bool.and_comm, Bool.decide_and]
  have hdistinct : Distinct Installment.sequence rows := by
    intro i hi j hj hsequence
    obtain ⟨hi, hcontract⟩ := List.mem_filter.mp (hrows.mem_iff.mp hi)
    obtain ⟨hj, hcontract'⟩ := List.mem_filter.mp (hrows.mem_iff.mp hj)
    exact h i hi j hj ((of_decide_eq_true hcontract).trans (of_decide_eq_true hcontract').symm)
      hsequence
  rw [sortedBySequence, find?_sorted hdistinct]
  refine earliestBy_perm (distinct_unpaidOf h contractId) ?_
  rw [hunpaid]
  exact hrows.filter _

theorem assertInstallmentIsPayable_eq (i : Installment) (now : DateTime) (db : Database) :
    assertInstallmentIsPayable i now db =
      if (eligibility i now db).state = .contractCompleted then
        .error (.badRequest EligibilityMessages.contractCompleted)
      else if !(eligibility i now db).canPay then
        .error (.badRequest ((eligibility i now db).reason.getD
          "This installment is not currently payable."))
      else .ok (eligibility i now db) := rfl

theorem assertInstallmentIsPayable_eq_ok {e : InstallmentEligibility} :
    assertInstallmentIsPayable i now db = .ok e ↔
      (eligibility i now db).canPay = true ∧ eligibility i now db = e := by
  rw [assertInstallmentIsPayable_eq]
  split
  · rename_i hstate
    refine iff_of_false (fun h => by cases h) fun h => ?_
    rw [eligibility, canPay_iff_available, ← eligibility, hstate] at h
    cases h.1
  · cases hpay : (eligibility i now db).canPay with
    | true => simp
    | false => simp

theorem listed_eq {rank : String → ℕ} {userId : String} {params : PaginationParams}
    {listed : Installment × EligibilityResponseFields} (h : DistinctSequences db)
    (hlisted : listed ∈
      (getRelatedCustomersInstallments rank userId params now db).installments) :
    listed.2 = toEligibilityResponseFields (eligibility listed.1 now db) := by
  obtain ⟨i, hi, rfl⟩ := List.mem_map.mp hlisted
  rw [eligibility_eq, nextUnpaidByContract_eq h]
  exact List.mem_dedup.mpr (List.mem_map_of_mem hi)

theorem computeContractInstallmentEligibility_eq {rows : List Installment}
    (h : DistinctSequences db) (hi : i ∈ db.installments.rows)
    (hrows : rows.Perm (contractInstallments i.financingContractId db)) :
    computeContractInstallmentEligibility rows now i.installmentId = some (eligibility i now db) := by
  have hmem {j : Installment} : j ∈ sortedBySequence rows ↔
      j ∈ db.installments.rows ∧ j.financingContractId = i.financingContractId := by
    rw [sortedBySequence, List.mem_insertionSort, hrows.mem_iff, contractInstallments,
      List.mem_filter, decide_eq_true_iff]
  have hcompute (j : Installment) (hj : j.financingContractId = i.financingContractId) :
      computeInstallmentEligibility j (((sortedBySequence rows).find? fun i => i.status ≠ .paid).map
        Installment.marker) now = eligibility j now db := by
    rw [find?_unpaid h hrows, eligibility_eq, nextUnpaid_eq, hj]
  refine mapOf_eq_some (List.mem_map.mpr ⟨i, hmem.mpr ⟨hi, rfl⟩, ?_⟩) fun e he hid => ?_
  · rw [hcompute i rfl]
  · obtain ⟨j, hj, rfl⟩ := List.mem_map.mp he
    obtain ⟨hj, hcontract⟩ := hmem.mp hj
    obtain rfl : j = i := db.installments.key_injective hj hi hid
    exact hcompute j rfl

theorem getNextPayableInstallment_eq {rows : List Installment} (h : DistinctSequences db)
    (hrows : rows.Perm (contractInstallments contractId db)) :
    getNextPayableInstallment rows now =
      (earliestBy Installment.sequence (unpaidOf contractId db)).map fun next =>
        (next, eligibility next now db) := by
  rw [getNextPayableInstallment, find?_unpaid h hrows]
  cases hfirst : earliestBy Installment.sequence (unpaidOf contractId db) with
  | none => rfl
  | some first =>
    obtain ⟨-, hcontract, -⟩ := mem_unpaidOf.mp (mem_of_earliestBy hfirst)
    rw [Option.map_some, Option.map_some, eligibility_eq, nextUnpaid_eq, hcontract, hfirst,
      Option.map_some]

theorem isNextInstallment_iff_earliest (hi : i ∈ db.installments.rows) :
    (eligibility i now db).isNextInstallment = true ↔
      earliestBy Installment.sequence (unpaidOf i.financingContractId db) = some i := by
  rw [eligibility_eq, isNextInstallment_iff, nextUnpaid_eq]
  constructor
  · rintro ⟨-, next, hnext, hid⟩
    obtain ⟨first, hfirst, rfl⟩ := Option.map_eq_some_iff.mp hnext
    obtain ⟨hmem, -, -⟩ := mem_unpaidOf.mp (mem_of_earliestBy hfirst)
    obtain rfl : i = first := db.installments.key_injective hi hmem hid
    exact hfirst
  · intro hfirst
    obtain ⟨-, -, hunpaid⟩ := mem_unpaidOf.mp (mem_of_earliestBy hfirst)
    exact ⟨hunpaid, i.marker, by rw [hfirst]; rfl, rfl⟩

/-- The detail of an installment, each list that it is on, the check in front of its payment and
the helpers for its contract show one eligibility. -/
theorem queries_agree_on_eligibility (hdistinct : DistinctSequences db)
    (hi : i ∈ db.installments.rows) (now : DateTime) :
    getInstallmentById i.installmentId now db =
        some (i, toEligibilityResponseFields (eligibility i now db)) ∧
      (∀ rank userId params,
        ∀ listed ∈ (getRelatedCustomersInstallments rank userId params now db).installments,
          listed.1 = i → listed.2 = toEligibilityResponseFields (eligibility i now db) ∧
            (listed.2.canPay = true ↔ (assertInstallmentIsPayable i now db).isOk = true)) ∧
      (∀ e, assertInstallmentIsPayable i now db = .ok e → e = eligibility i now db) ∧
      ∀ rows, rows.Perm (contractInstallments i.financingContractId db) →
        computeContractInstallmentEligibility rows now i.installmentId =
            some (eligibility i now db) ∧
          (∀ next ∈ getNextPayableInstallment rows now, next.2 = eligibility next.1 now db) ∧
          ((eligibility i now db).isNextInstallment = true ↔
            ∃ next ∈ getNextPayableInstallment rows now, next.1 = i) := by
  refine ⟨?_, fun rank userId params listed hlisted he => ?_,
    fun e he => (assertInstallmentIsPayable_eq_ok.mp he).2.symm, fun rows hrows =>
      ⟨computeContractInstallmentEligibility_eq hdistinct hi hrows, fun next hnext => ?_, ?_⟩⟩
  · rw [getInstallmentById, Table.find?_of_mem hi, Option.map_some]
  · have heq := listed_eq hdistinct hlisted
    rw [he] at heq
    refine ⟨heq, ?_⟩
    rw [heq, isOk_iff]
    constructor
    · intro hpay
      exact ⟨eligibility i now db, assertInstallmentIsPayable_eq_ok.mpr ⟨hpay, rfl⟩⟩
    · rintro ⟨e, h⟩
      exact (assertInstallmentIsPayable_eq_ok.mp h).1
  · rw [getNextPayableInstallment_eq hdistinct hrows] at hnext
    obtain ⟨first, -, rfl⟩ := Option.map_eq_some_iff.mp hnext
    rfl
  · rw [isNextInstallment_iff_earliest hi, getNextPayableInstallment_eq hdistinct hrows]
    constructor
    · intro hfirst
      exact ⟨(i, eligibility i now db), by rw [hfirst]; rfl, rfl⟩
    · rintro ⟨next, hnext, rfl⟩
      obtain ⟨first, hfirst, rfl⟩ := Option.map_eq_some_iff.mp hnext
      exact hfirst

end InstallmentService
/-- The next installment of a second contract -/
def televisionRow : Installment where
  installmentId := "tv2"
  financingContractId := "tv"
  dueDate := 5
  amount := 20
  sequence := 2

/-- Two contracts of a customer, each with a paid installment -/
def fridgeAndTelevision : Database where
  financingContracts :=
    ⟨[{ contractId := "fridge", userId := some "ada", productId := "fridge", totalFinanced := 100
        approvedDurationMonths := 2 },
      { contractId := "tv", userId := some "ada", productId := "tv", totalFinanced := 40
        approvedDurationMonths := 2 }], by decide⟩
  installments :=
    ⟨[{ installmentId := "fridge1", financingContractId := "fridge", dueDate := 0, amount := 50
        sequence := 1, status := .paid },
      { installmentId := "fridge2", financingContractId := "fridge", dueDate := 2, amount := 50
        sequence := 2 },
      televisionRow,
      { installmentId := "tv1", financingContractId := "tv", dueDate := 4, amount := 20
        sequence := 1, status := .paid }], by decide⟩

theorem fridgeAndTelevision_agree :
    InstallmentService.getInstallmentById televisionRow.installmentId 1 fridgeAndTelevision =
      some (televisionRow, toEligibilityResponseFields
        (InstallmentService.eligibility televisionRow 1 fridgeAndTelevision)) :=
  (InstallmentService.queries_agree_on_eligibility (by decide) (by decide) 1).1

example : ((InstallmentService.getRelatedCustomersInstallments (fun _ => 0) "ada"
    { limit := some 3 } 1 fridgeAndTelevision).installments.map fun listed =>
      (listed.1.installmentId, listed.2.canPay)) =
    [("fridge1", false), ("fridge2", true), ("tv1", false)] := by
  decide +kernel

end InstalFlow
