import InstalFlow.SettlementPrograms
import InstalFlow.Transition.Trace

/-!
# The sweep over the companies

`generatePendingSettlements` generates for one company after another, each in a transaction of
its own. The first that fails ends the sweep: what is committed by then stays, and is not
returned. Beside its result the sweep keeps which companies it came to.
-/

namespace InstalFlow
open Relational Transition MerchantSettlementService

/-- What may throw in the generation for a company: a query before its transaction, or that for
the e-mails of the company after it -/
inductive GenerationFault
  | query (err : AppError)
  | companyEmails (err : AppError)

namespace IntentProgram

def generateUnder (fault : Option GenerationFault) (companyId : String) :
    IntentProgram (Option MerchantSettlementRequest) :=
  match fault with
  | none => generateForCompany companyId
  | some (.query err) => throw err
  | some (.companyEmails err) => do
    let settlement ← generateForCompany companyId
    if settlement.isSome then throw err
    return none

def generateEachUnder (faults : String → Option GenerationFault) :
    List String → IntentProgram (List MerchantSettlementRequest)
  | [] => return []
  | companyId :: companyIds => do
    let settlement ← generateUnder (faults companyId) companyId
    let created ← generateEachUnder faults companyIds
    return settlement.toList ++ created

/-- `generatePendingSettlements`, with the faults of the companies -/
def sweep (faults : String → Option GenerationFault) :
    IntentProgram (List MerchantSettlementRequest) := do
  let rows ← select fun _ db => .ok (db.installments.rows.filter (unsettled db))
  let companyIds ← select fun _ db => .ok (rows.filterMap (customerCompany db)).eraseDups
  generateEachUnder faults companyIds

theorem generateEachUnder_none (companyIds : List String) :
    generateEachUnder (fun _ => none) companyIds = generateEach companyIds := by
  induction companyIds with
  | nil => rfl
  | cons companyId companyIds ih =>
    rw [generateEachUnder, generateEach, ih]
    rfl

theorem sweep_none : sweep (fun _ => none) = generatePendingSettlements := by
  have heach : generateEachUnder (fun _ => none) = generateEach := funext generateEachUnder_none
  rw [sweep, heach]
  rfl

end IntentProgram

/-- A generation that the sweep came to, with the database that its transaction met -/
structure Attempt where
  companyId : String
  fault : Option GenerationFault := none
  transaction : Option (Generation × Database) := none

/-- The transaction finds its id free and no line of its installments. -/
structure Generation.Unclaimed (g : Generation) (db : Database) : Prop where
  settlement : db.merchantSettlementRequests.find? g.settlementId = none
  lines : ∀ line ∈ g.lines, db.merchantSettlementLines.find? line.installmentId = none

namespace Attempt

/-- What the transaction gives, if there is one -/
def generated (a : Attempt) : Except AppError (Option MerchantSettlementRequest) :=
  match a.transaction with
  | none => .ok none
  | some (g, db) => (g.create db).map fun created => some created.1

def outcome (a : Attempt) : Except AppError (Option MerchantSettlementRequest) :=
  match a.fault with
  | none => a.generated
  | some (.query err) => .error err
  | some (.companyEmails err) => a.generated.bind fun settlement =>
      if settlement.isSome then .error err else .ok none

/-- The settlement that is committed, whatever comes after -/
def committed (a : Attempt) : List MerchantSettlementRequest :=
  ((a.generated.toOption).bind id).toList

def writes (a : Attempt) : List IntentWrite := (a.transaction.map fun t => t.1.write).toList

/-- Nothing throws: neither the queries, nor the transaction over what it finds. -/
structure Undisturbed (a : Attempt) : Prop where
  query : ∀ err, a.fault ≠ some (.query err)
  unclaimed : ∀ t ∈ a.transaction, t.1.Unclaimed t.2
  companyEmails : a.transaction.isSome → ∀ err, a.fault ≠ some (.companyEmails err)

end Attempt

/-- The companies of a sweep and the generations it came to -/
structure Sweep where
  companyIds : List String
  attempts : List Attempt

namespace Sweep

def resultOf : List Attempt → Except AppError (List MerchantSettlementRequest)
  | [] => .ok []
  | a :: attempts => a.outcome.bind fun settlement =>
      (resultOf attempts).map fun created => settlement.toList ++ created

def result (s : Sweep) : Except AppError (List MerchantSettlementRequest) := resultOf s.attempts

/-- Every company has its turn, and what was committed is returned. -/
structure Complete (s : Sweep) : Prop where
  companies : s.attempts.map Attempt.companyId = s.companyIds
  returned : s.result = .ok (s.attempts.flatMap Attempt.committed)

end Sweep

/-! ### When a generation fails -/

section failures
variable {g : Generation} {db : Database} {a : Attempt}

theorem createLines_isOk_iff {lines : List MerchantSettlementLine}
    (h : (lines.map MerchantSettlementLine.installmentId).Nodup) (db : Database) :
    (createLines lines db).isOk = true ↔
      ∀ line ∈ lines, db.merchantSettlementLines.find? line.installmentId = none := by
  induction lines generalizing db with
  | nil => exact iff_of_true rfl fun line hline => absurd hline List.not_mem_nil
  | cons line lines ih =>
    obtain ⟨hfresh, hnodup⟩ := List.nodup_cons.mp h
    have hline := createRow_isOk_iff db.merchantSettlementLines line ["installmentId"]
    rw [createLines, List.forall_mem_cons, ← hline]
    cases hcreate : createRow db.merchantSettlementLines line ["installmentId"] with
    | error err => exact iff_of_false Bool.false_ne_true fun hfree => Bool.false_ne_true hfree.1
    | ok merchantSettlementLines =>
      have hcreated := createRow_eq_ok.mp hcreate
      refine (ih hnodup _).trans ((forall₂_congr fun other hother => ?_).trans (and_iff_right rfl).symm)
      rw [Table.find?_create hcreated, if_neg]
      exact fun hsame => hfresh (hsame ▸ List.mem_map_of_mem hother)

theorem create_isOk_iff (h : (g.lines.map MerchantSettlementLine.installmentId).Nodup) :
    (g.create db).isOk = true ↔ g.Unclaimed db := by
  have hunclaimed : g.Unclaimed db ↔ db.merchantSettlementRequests.find? g.settlementId = none ∧
      ∀ line ∈ g.lines, db.merchantSettlementLines.find? line.installmentId = none :=
    ⟨fun hfree => ⟨hfree.settlement, hfree.lines⟩, fun hfree => ⟨hfree.1, hfree.2⟩⟩
  have hcreated := createRow_isOk_iff db.merchantSettlementRequests
    { settlementId := g.settlementId, companyId := g.companyId, amount := g.totalAmount }
    ["settlementId"]
  rw [Generation.create, createSettlement, hunclaimed]
  refine Iff.trans ?_ (and_congr_left' hcreated)
  cases createRow db.merchantSettlementRequests
      { settlementId := g.settlementId, companyId := g.companyId, amount := g.totalAmount }
      ["settlementId"] with
  | error err => exact iff_of_false Bool.false_ne_true fun hfree => Bool.false_ne_true hfree.1
  | ok merchantSettlementRequests =>
    refine Iff.trans ?_ ((createLines_isOk_iff h { db with merchantSettlementRequests }).trans
      (and_iff_right rfl).symm)
    change Except.isOk ((createLines g.lines { db with merchantSettlementRequests }).bind _) = true ↔ _
    cases createLines g.lines { db with merchantSettlementRequests } <;> rfl

theorem generated_isOk_iff
    (h : ∀ t ∈ a.transaction, (t.1.lines.map MerchantSettlementLine.installmentId).Nodup) :
    a.generated.isOk = true ↔ ∀ t ∈ a.transaction, t.1.Unclaimed t.2 := by
  cases htransaction : a.transaction with
  | none =>
    rw [Attempt.generated, htransaction]
    exact iff_of_true rfl fun t ht => absurd ht (Option.not_mem_none t)
  | some t =>
    have hcreate : (t.1.create t.2).isOk = true ↔ t.1.Unclaimed t.2 :=
      create_isOk_iff (h t htransaction)
    have hgenerated : a.generated.isOk = (t.1.create t.2).isOk := by
      rw [Attempt.generated, htransaction]
      change ((t.1.create t.2).map _).isOk = _
      cases t.1.create t.2 <;> rfl
    rw [hgenerated, hcreate]
    exact ⟨fun hfree t' ht' => Option.some.inj ht' ▸ hfree, fun hfree => hfree t rfl⟩

theorem generated_isSome {settlement : Option MerchantSettlementRequest}
    (h : a.generated = .ok settlement) : settlement.isSome = a.transaction.isSome := by
  rw [Attempt.generated] at h
  split at h
  · rename_i hnone
    cases h
    rw [hnone]
    rfl
  · rename_i g db hsome
    rw [hsome]
    cases hcreate : g.create db with
    | error err =>
      rw [hcreate] at h
      cases h
    | ok created =>
      rw [hcreate] at h
      cases h
      rfl

theorem outcome_isOk_iff
    (h : ∀ t ∈ a.transaction, (t.1.lines.map MerchantSettlementLine.installmentId).Nodup) :
    a.outcome.isOk = true ↔ a.Undisturbed := by
  have hgenerated := generated_isOk_iff h
  rw [Attempt.outcome]
  split
  · rename_i hfault
    refine hgenerated.trans ⟨fun hfree => ⟨fun err => ?_, hfree, fun _ err => ?_⟩,
      fun hfree => hfree.unclaimed⟩
    · exact hfault ▸ (Option.some_ne_none _).symm
    · exact hfault ▸ (Option.some_ne_none _).symm
  · rename_i err hfault
    exact iff_of_false Bool.false_ne_true fun hfree => hfree.query err hfault
  · rename_i err hfault
    cases hsettlement : a.generated with
    | error err' =>
      rw [hsettlement] at hgenerated
      exact iff_of_false Bool.false_ne_true fun hfree =>
        absurd (hgenerated.mpr hfree.unclaimed) Bool.false_ne_true
    | ok settlement =>
      have hsome := generated_isSome hsettlement
      rw [hsettlement] at hgenerated
      cases settlement with
      | none =>
        refine iff_of_true rfl ⟨fun err' h => ?_, hgenerated.mp rfl, fun htransaction => ?_⟩
        · rw [hfault] at h
          cases h
        · rw [← hsome] at htransaction
          cases htransaction
      | some settlement =>
        exact iff_of_false Bool.false_ne_true fun hfree => hfree.companyEmails hsome.symm err hfault

theorem committed_of_outcome {settlement : Option MerchantSettlementRequest}
    (h : a.outcome = .ok settlement) : a.committed = settlement.toList := by
  rw [Attempt.outcome] at h
  split at h
  · rw [Attempt.committed, h]
    rfl
  · cases h
  · cases hgenerated : a.generated with
    | error err =>
      rw [hgenerated] at h
      cases h
    | ok generated =>
      rw [hgenerated] at h
      cases generated with
      | none =>
        cases h
        rw [Attempt.committed, hgenerated]
        rfl
      | some generated => cases h

theorem resultOf_eq_ok_iff {attempts : List Attempt} :
    Sweep.resultOf attempts = .ok (attempts.flatMap Attempt.committed) ↔
      ∀ a ∈ attempts, a.outcome.isOk := by
  induction attempts with
  | nil => exact iff_of_true rfl fun a ha => absurd ha List.not_mem_nil
  | cons a attempts ih =>
    rw [List.forall_mem_cons, ← ih, Sweep.resultOf, List.flatMap_cons]
    cases houtcome : a.outcome with
    | error err => exact iff_of_false (fun h => by cases h) fun h => absurd h.1 Bool.false_ne_true
    | ok settlement =>
      rw [committed_of_outcome houtcome]
      cases Sweep.resultOf attempts with
      | error err => exact iff_of_false (fun h => by cases h) fun h => by cases h.2
      | ok created =>
        change Except.ok _ = Except.ok _ ↔ _
        rw [Except.ok.injEq, Except.ok.injEq, List.append_cancel_left_eq]
        exact (and_iff_right rfl).symm

end failures

section programs

/-- The transaction of a generation, unless nothing is owed -/
def transact (g : Generation) : Program Database IntentWrite Moment Attempt :=
  if g.lines.isEmpty ∨ g.totalAmount ≤ 0 then .done { companyId := g.companyId }
  else .write g.write fun _ db => .done { companyId := g.companyId, transaction := some (g, db) }

def attempt (companyId : String) : Program Database IntentWrite Moment Attempt :=
  .read fun _ db =>
    let eligible := eligibleInstallments companyId db
    .read fun _ db =>
      let paid := eligible.map fun i => (i, latestPayment db i)
      .read fun _ db =>
        let deducted := paid.map fun p => (p.1, commissionsOn db p.2)
        .read fun m _ => transact
          { companyId, settlementId := m.uuid
            lines := deducted.map fun d => lineOf m.uuid d.1 d.2
            now := m.now }

def attemptUnder (fault : Option GenerationFault) (companyId : String) :
    Program Database IntentWrite Moment Attempt :=
  match fault with
  | some (.query _) => .done { companyId, fault }
  | _ => (attempt companyId).bind fun a => .done { a with fault }

def attempts (faults : String → Option GenerationFault) :
    List String → Program Database IntentWrite Moment (List Attempt)
  | [] => .done []
  | companyId :: companyIds => (attemptUnder (faults companyId) companyId).bind fun a =>
      if a.outcome.isOk then (attempts faults companyIds).bind fun rest => .done (a :: rest)
      else .done [a]

/-- The sweep, with what it came to for its result -/
def sweep (faults : String → Option GenerationFault) :
    Program Database IntentWrite Moment Sweep :=
  .read fun _ db =>
    let rows := db.installments.rows.filter (unsettled db)
    .read fun _ db =>
      let companyIds := (rows.filterMap (customerCompany db)).eraseDups
      (attempts faults companyIds).bind fun attempts => .done { companyIds, attempts }

variable {faults : String → Option GenerationFault} {fault : Option GenerationFault}
  {companyId : String} {companyIds : List String}

theorem settle_run (g : Generation) : (IntentProgram.settle g).run =
    (transact g).bind fun a => .done a.generated := by
  rw [transact]
  by_cases hnone : g.lines.isEmpty ∨ g.totalAmount ≤ 0
  · rw [IntentProgram.settle, if_pos hnone, if_pos hnone]
    rfl
  · rw [IntentProgram.settle, if_neg hnone, if_neg hnone]
    refine congrArg (Program.write g.write) (funext fun _ => funext fun db => ?_)
    change ((Program.done ((g.create db).map Prod.fst)).bind _) =
      Program.done ((g.create db).map fun created => some created.1)
    cases g.create db <;> rfl

theorem generateForCompany_run : (IntentProgram.generateForCompany companyId).run =
    (attempt companyId).bind fun a => .done a.generated := by
  change Program.read _ = Program.read _
  refine congrArg Program.read (funext fun _ => funext fun db => ?_)
  refine congrArg Program.read (funext fun _ => funext fun db => ?_)
  refine congrArg Program.read (funext fun _ => funext fun db => ?_)
  refine congrArg Program.read (funext fun m => funext fun db => ?_)
  exact settle_run _

theorem attemptUnder_bind {β : Type} (h : ∀ err, fault ≠ some (.query err))
    (f : Attempt → Program Database IntentWrite Moment β) :
    (attemptUnder fault companyId).bind f = (attempt companyId).bind fun a => f { a with fault } := by
  have hunder : attemptUnder fault companyId =
      (attempt companyId).bind fun a => .done { a with fault } := by
    rw [attemptUnder]
    exact fun err => h err
  rw [hunder, Program.bind_assoc]
  rfl

theorem generateUnder_run : (IntentProgram.generateUnder fault companyId).run =
    (attemptUnder fault companyId).bind fun a => .done a.outcome := by
  cases fault with
  | none =>
    rw [attemptUnder_bind fun err h => Option.some_ne_none _ h.symm]
    exact generateForCompany_run
  | some fault =>
    cases fault with
    | query err => rfl
    | companyEmails err =>
      rw [attemptUnder_bind fun err' h => GenerationFault.noConfusion (Option.some.inj h)]
      change ((IntentProgram.generateForCompany companyId).run.bind _) = _
      rw [generateForCompany_run, Program.bind_assoc]
      refine congrArg (Program.bind _) (funext fun a => ?_)
      change _ = Program.done (a.generated.bind _)
      cases a.generated with
      | error err' => rfl
      | ok settlement => cases settlement <;> rfl

/-- The program of the loop, read off what it came to -/
theorem generateEachUnder_run (companyIds : List String) :
    (IntentProgram.generateEachUnder faults companyIds).run =
      (attempts faults companyIds).bind fun attempts => .done (Sweep.resultOf attempts) := by
  induction companyIds with
  | nil => rfl
  | cons companyId companyIds ih =>
    change ((IntentProgram.generateUnder _ companyId).run.bind _) = _
    rw [generateUnder_run, attempts, Program.bind_assoc, Program.bind_assoc]
    refine congrArg (Program.bind _) (funext fun a => ?_)
    cases houtcome : a.outcome with
    | error err =>
      change Program.done (.error err) = Program.done (Sweep.resultOf [a])
      rw [Sweep.resultOf, houtcome]
      rfl
    | ok settlement =>
      change ((IntentProgram.generateEachUnder faults companyIds).run.bind _) =
        ((attempts faults companyIds).bind _).bind _
      rw [ih, Program.bind_assoc, Program.bind_assoc]
      refine congrArg (Program.bind _) (funext fun rest => ?_)
      change (Program.done (Sweep.resultOf rest)).bind _ = Program.done (Sweep.resultOf (a :: rest))
      rw [Sweep.resultOf, houtcome]
      cases Sweep.resultOf rest <;> rfl

theorem sweep_run : (IntentProgram.sweep faults).run =
    (sweep faults).bind fun s => .done s.result := by
  change Program.read _ = Program.read _
  refine congrArg Program.read (funext fun _ => funext fun db => ?_)
  refine congrArg Program.read (funext fun _ => funext fun db' => ?_)
  refine (generateEachUnder_run _).trans ?_
  change _ = ((attempts faults _).bind _).bind _
  rw [Program.bind_assoc]
  rfl

/-- A generation for the company, with its writes after those before it -/
structure Logged (companyId : String) (before after : List IntentWrite) (a : Attempt) : Prop where
  writes : after = before ++ a.writes
  company : a.companyId = companyId
  distinct : ∀ t ∈ a.transaction, (t.1.lines.map MerchantSettlementLine.installmentId).Nodup

variable {ws : List IntentWrite}

theorem transact_yields {g : Generation}
    (h : (g.lines.map MerchantSettlementLine.installmentId).Nodup) :
    (transact g).Yields (Logged g.companyId ws) ws := by
  rw [transact]
  split
  · exact ⟨(List.append_nil ws).symm, rfl, fun t ht => absurd ht (Option.not_mem_none t)⟩
  · intro m db
    refine ⟨rfl, rfl, fun t ht => ?_⟩
    obtain rfl := Option.some.inj ht
    exact h

theorem attempt_yields : (attempt companyId).Yields (Logged companyId ws) ws := by
  intro _ db _ db₁ _ db₂ m _
  refine transact_yields (g := ⟨companyId, m.uuid, _, m.now⟩) ?_
  have hlines : (((((eligibleInstallments companyId db).map fun i => (i, latestPayment db₁ i)).map
      fun p => (p.1, commissionsOn db₂ p.2)).map fun d => lineOf m.uuid d.1 d.2).map
        MerchantSettlementLine.installmentId) =
          (eligibleInstallments companyId db).map Installment.installmentId := by
    rw [List.map_map, List.map_map, List.map_map]
    rfl
  exact hlines ▸ db.installments.unique.sublist (List.filter_sublist.map _)

theorem attemptUnder_yields : (attemptUnder fault companyId).Yields (Logged companyId ws) ws := by
  unfold attemptUnder
  split
  · exact ⟨(List.append_nil ws).symm, rfl, fun t ht => absurd ht (Option.not_mem_none t)⟩
  · exact Program.Yields.bind (attempt_yields.imp fun _ _ h => ⟨h.writes, h.company, h.distinct⟩)

/-- The generations that the loop came to -/
structure LoopLogged (companyIds : List String) (before after : List IntentWrite)
    (attempts : List Attempt) : Prop where
  writes : after = before ++ attempts.flatMap Attempt.writes
  companies : (∀ a ∈ attempts, a.outcome.isOk) → attempts.map Attempt.companyId = companyIds
  undisturbed : ∀ a ∈ attempts, a.outcome.isOk = true ↔ a.Undisturbed

theorem attempts_yields (companyIds : List String) :
    (attempts faults companyIds).Yields (LoopLogged companyIds ws) ws := by
  induction companyIds generalizing ws with
  | nil => exact ⟨(List.append_nil ws).symm, fun _ => rfl, fun a ha => absurd ha List.not_mem_nil⟩
  | cons companyId companyIds ih =>
    refine Program.Yields.bind (attemptUnder_yields.imp fun ws' a ha => ?_)
    have hundisturbed := outcome_isOk_iff ha.distinct
    split
    · refine Program.Yields.bind (ih.imp fun ws'' rest hrest => ?_)
      refine ⟨?_, fun hok => ?_, List.forall_mem_cons.mpr ⟨hundisturbed, hrest.undisturbed⟩⟩
      · rw [hrest.writes, ha.writes, List.append_assoc]
        rfl
      · rw [List.map_cons, ha.company, hrest.companies (List.forall_mem_cons.mp hok).2]
    · rename_i hfails
      refine ⟨?_, fun hok => ?_, fun a' ha' => ?_⟩
      · rw [ha.writes, List.flatMap_singleton]
      · exact absurd (hok a (List.mem_singleton_self a)) hfails
      · exact List.mem_singleton.mp ha' ▸ hundisturbed

/-- A sweep with the writes that it has sent -/
structure SweepLogged (ws : List IntentWrite) (s : Sweep) : Prop where
  writes : ws = s.attempts.flatMap Attempt.writes
  complete : s.Complete ↔ ∀ a ∈ s.attempts, a.Undisturbed

theorem sweep_yields : (sweep faults).Yields SweepLogged [] := by
  intro _ db _ db₁
  refine Program.Yields.bind ((attempts_yields _).imp fun ws as h => ⟨h.writes, ?_⟩)
  refine Iff.trans ?_ (forall₂_congr h.undisturbed)
  exact ⟨fun hcomplete => resultOf_eq_ok_iff.mp hcomplete.returned,
    fun hok => ⟨h.companies hok, resultOf_eq_ok_iff.mpr hok⟩⟩

end programs

/-- Whatever its statements meet, a sweep gives every company its turn and returns what it has
committed exactly when no generation that it comes to fails. -/
theorem sweep_complete_iff (faults : String → Option GenerationFault) :
    IntentProgram.sweep (fun _ => none) = IntentProgram.generatePendingSettlements ∧
      (IntentProgram.sweep faults).run = ((sweep faults).bind fun s => .done s.result) ∧
      (sweep faults).Yields (fun ws s => ws = s.attempts.flatMap Attempt.writes ∧
        (s.Complete ↔ ∀ a ∈ s.attempts, a.Undisturbed)) [] :=
  ⟨IntentProgram.sweep_none, sweep_run, sweep_yields.imp fun _ _ h => ⟨h.writes, h.complete⟩⟩

/-- Who starts a sweep -/
inductive SweepTrigger
  | scheduler
  | controller
deriving DecidableEq

/-- A paid installment of a customer of each of two companies -/
def owedToTwo : Database where
  users := ⟨[{ userId := "UMA", companyId := some "ACME" },
    { userId := "VIC", companyId := some "BOLT" }], by decide⟩
  financingContracts := ⟨[{ contractId := "C1", userId := some "UMA", productId := "P1"
                            kycApplicationId := "K1" },
    { contractId := "C2", userId := some "VIC", productId := "P2"
      kycApplicationId := "K2" }], by decide⟩
  installments := ⟨[{ installmentId := "I1", financingContractId := "C1", dueDate := 1
                      amount := 100, sequence := 1, status := .paid },
    { installmentId := "I2", financingContractId := "C2", dueDate := 1, amount := 50
      sequence := 1, status := .paid }], by decide⟩

abbrev SettlementSweeps : Type := Config Database SweepTrigger
  (Program Database IntentWrite Moment (Except AppError (List MerchantSettlementRequest)))

def sweepsOfTwo : SettlementSweeps where
  shared := owedToTwo
  threads _ := IntentProgram.generatePendingSettlements.run

def performSweeps : SettlementSweeps → SweepTrigger × Moment → SettlementSweeps :=
  perform IntentWrite.execute

/-- The controller's sweep settles the first company between the reads of the scheduler's and its
transaction. -/
def overtaken : List (SweepTrigger × Moment) :=
  List.replicate 6 (.scheduler, { now := 7, uuid := "S1" }) ++
    List.replicate 7 (.controller, { now := 7, uuid := "S2" }) ++
    [(.scheduler, { now := 7, uuid := "S1" })]

/-- The scheduler's sweep ends with the error of the first company, and the second is not
settled, although its generation would succeed. -/
theorem sweep_stopped : pendingCompanyIds owedToTwo = ["ACME", "BOLT"] ∧
    ((run performSweeps sweepsOfTwo overtaken).threads .scheduler).result.map Except.isOk =
      some false ∧
    (run performSweeps sweepsOfTwo overtaken).shared.merchantSettlementRequests.rows.map
      MerchantSettlementRequest.companyId = ["ACME"] ∧
    (MerchantSettlementService.generateForCompany "BOLT" "S3" 8
      (run performSweeps sweepsOfTwo overtaken).shared).isOk = true := by
  decide +kernel

end InstalFlow
