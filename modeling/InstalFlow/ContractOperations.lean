import InstalFlow.ContractCompletion
import InstalFlow.FinancingService

/-!
# Operations on contracts

What happens to a contract beside its payments: the reminder worker moves its
installments, staff restructure it or write it off, and it defaults. None of
these touches an installment that is PAID or VOIDED, or a contract that is
WRITTEN_OFF.
-/

namespace InstalFlow
open Relational

/-- A restructuring is the source's for the offset 0. -/
inductive ContractOperation
  | pendingToDue (now : DateTime)
  | dueToOverdue (now : DateTime)
  | markDefaulted (contractId : String) (late : Installment → Bool)
  | restructure (offset : ℕ) (contractId adminUserId : String) (newTerms : RestructureInput)
      (installmentId : ℕ → String) (now : DateTime)
  | writeOff (contractId companyUserId reason : String) (now : DateTime)

def FinancingStatus.mayDefault : FinancingStatus → Bool
  | .active | .restructured => true
  | _ => false

def defaultedContract (c : FinancingContract) : FinancingContract := { c with status := .defaulted }

def defaultedRow (i : Installment) : Installment := { i with status := .defaulted }

/-- No code of the repository sets DEFAULTED; a contract defaults with whichever
of its open installments are chosen. -/
def markDefaulted (contractId : String) (late : Installment → Bool) (db : Database) : Database :=
  if (db.financingContracts.find? contractId).any (fun c => c.status.mayDefault) then
    { db with
      financingContracts := db.financingContracts.update contractId defaultedContract (fun _ => rfl)
      installments := db.installments.updateMany
        (fun i => i.financingContractId = contractId ∧ i.status.voidable ∧ late i) defaultedRow
        (fun _ => rfl) }
  else db

theorem voidable_eq (s : InstallmentStatus) : s.voidable = !s.settled := by
  cases s <;> rfl

namespace ContractOperation

def apply (db : Database) : ContractOperation → Database
  | pendingToDue now => PaymentReminderWorker.pendingToDue now db
  | dueToOverdue now => PaymentReminderWorker.dueToOverdue now db
  | markDefaulted contractId late => InstalFlow.markDefaulted contractId late db
  | restructure offset contractId adminUserId newTerms installmentId now =>
      committed db Prod.snd (FinancingService.restructureContract offset contractId adminUserId
        newTerms installmentId now db)
  | writeOff contractId companyUserId reason now =>
      committed db Prod.snd (FinancingService.writeOffContract contractId companyUserId reason now db)

section rows
variable {db db' : Database} {contractId : String} {i : Installment}

theorem find?_updateMany_of_settled {p : Installment → Bool} {f : Installment → Installment}
    (hf : ∀ r, (f r).installmentId = r.installmentId)
    (hp : ∀ r, p r = true → r.status.settled = false) (hi : i ∈ db.installments.rows)
    (hsettled : i.status.settled = true) :
    (db.installments.updateMany p f hf).find? i.installmentId = some i := by
  have hpi : p i ≠ true := fun h => by simp [hp i h] at hsettled
  rw [Table.find?_updateMany, Table.find?_of_mem hi, Option.map_some, if_neg hpi]

theorem find?_voidInstallments (contractId : String) (hi : i ∈ db.installments.rows)
    (hsettled : i.status.settled = true) :
    (FinancingService.voidInstallments contractId db).installments.find? i.installmentId = some i := by
  refine find?_updateMany_of_settled (f := FinancingService.voidedRow) (fun _ => rfl)
      (fun r hr => ?_) hi hsettled
  have hvoidable := (of_decide_eq_true hr).2
  rwa [voidable_eq, Bool.not_eq_true'] at hvoidable

theorem find?_of_closes {f : FinancingContract → FinancingContract} {rows : List Installment}
    {posting : LedgerTransaction}
    (h : FinancingService.Closes contractId f rows posting db db') (hi : i ∈ db.installments.rows)
    (hsettled : i.status.settled = true) : db'.installments.find? i.installmentId = some i := by
  have hmem := Table.mem_of_find? (find?_voidInstallments contractId hi hsettled)
  refine Table.find?_eq_some_iff.mpr ⟨?_, rfl⟩
  rw [h.installments]
  exact List.mem_append_left _ hmem

/-- No operation finds a PAID or VOIDED installment among those it changes. -/
theorem find?_apply_of_settled (op : ContractOperation) (hi : i ∈ db.installments.rows)
    (hsettled : i.status.settled = true) :
    (op.apply db).installments.find? i.installmentId = some i := by
  have hsame : db.installments.find? i.installmentId = some i := Table.find?_of_mem hi
  have htransition (source target : InstallmentStatus) (dueBy : DateTime → Bool)
      (hsource : source.settled = false) :
      (PaymentReminderWorker.transition source target dueBy db).installments.find? i.installmentId =
        some i := by
    refine find?_updateMany_of_settled (f := fun r => { r with status := target }) (fun _ => rfl)
      (fun r hr => ?_) hi hsettled
    rw [(of_decide_eq_true hr).1, hsource]
  cases op with
  | pendingToDue now => exact htransition .pending .due _ rfl
  | dueToOverdue now => exact htransition .due .overdue _ rfl
  | markDefaulted contractId late =>
    rw [apply, InstalFlow.markDefaulted]
    split
    · refine find?_updateMany_of_settled (f := defaultedRow) (fun _ => rfl) (fun r hr => ?_) hi
        hsettled
      have hvoidable := (of_decide_eq_true hr).2.1
      rwa [voidable_eq, Bool.not_eq_true'] at hvoidable
    · exact hsame
  | restructure offset contractId adminUserId newTerms installmentId now =>
    refine committed_rule (P := fun db' => db'.installments.find? i.installmentId = some i) hsame ?_
    intro result h
    obtain ⟨terms, o, schedule, -, hrestructures⟩ := FinancingService.restructureContract_eq_ok h
    exact find?_of_closes hrestructures.closes hi hsettled
  | writeOff contractId companyUserId reason now =>
    refine committed_rule (P := fun db' => db'.installments.find? i.installmentId = some i) hsame ?_
    intro result h
    obtain ⟨o, -, hcloses⟩ := FinancingService.writeOffContract_eq_ok h
    exact find?_of_closes hcloses hi hsettled

end rows

section contracts
variable {db db' : Database} {contractId : String} {c : FinancingContract}

theorem find?_contract_of_closes {id : String} {f : FinancingContract → FinancingContract}
    {rows : List Installment} {posting : LedgerTransaction}
    (h : FinancingService.Closes id f rows posting db db')
    (hc : db.financingContracts.find? contractId = some c) (hne : contractId ≠ id) :
    db'.financingContracts.find? contractId = some c := by
  obtain ⟨hf, hcontracts⟩ := h.contracts
  rw [hcontracts, Table.find?_update, if_neg hne, hc]

theorem find?_apply_of_writtenOff (op : ContractOperation)
    (hc : db.financingContracts.find? contractId = some c) (hstatus : c.status = .writtenOff) :
    (op.apply db).financingContracts.find? contractId = some c := by
  cases op with
  | pendingToDue now => exact hc
  | dueToOverdue now => exact hc
  | markDefaulted id late =>
    rw [apply, InstalFlow.markDefaulted]
    split
    · rename_i hmay
      have hne : contractId ≠ id := by
        rintro rfl
        simp [hc, hstatus, FinancingStatus.mayDefault] at hmay
      exact (Table.find?_update _ _ _ defaultedContract fun _ => rfl).trans
        ((if_neg hne).trans hc)
    · exact hc
  | restructure offset id adminUserId newTerms installmentId now =>
    refine committed_rule (P := fun db' => db'.financingContracts.find? contractId = some c) hc ?_
    intro result h
    obtain ⟨terms, o, schedule, -, hrestructures⟩ := FinancingService.restructureContract_eq_ok h
    obtain ⟨hfound, hdefaulted⟩ := FinancingService.findForRestructure_eq_ok hrestructures.found
    refine find?_contract_of_closes hrestructures.closes hc ?_
    rintro rfl
    rw [hc, Option.some.injEq] at hfound
    rw [← hfound, hstatus] at hdefaulted
    cases hdefaulted
  | writeOff id companyUserId reason now =>
    refine committed_rule (P := fun db' => db'.financingContracts.find? contractId = some c) hc ?_
    intro result h
    obtain ⟨o, ho, hcloses⟩ := FinancingService.writeOffContract_eq_ok h
    obtain ⟨hfound, hopen⟩ := FinancingService.findForWriteOff_eq_ok ho
    refine find?_contract_of_closes hcloses hc ?_
    rintro rfl
    rw [hc, Option.some.injEq] at hfound
    rw [← hfound, hstatus] at hopen
    rcases hopen with hopen | hopen <;> cases hopen

end contracts

theorem apply_paymentIntents (op : ContractOperation) (db : Database) :
    (op.apply db).paymentIntents = db.paymentIntents := by
  cases op with
  | pendingToDue now => rfl
  | dueToOverdue now => rfl
  | markDefaulted contractId late =>
    rw [apply, InstalFlow.markDefaulted]
    split <;> rfl
  | restructure offset contractId adminUserId newTerms installmentId now =>
    refine committed_rule (P := fun db' => db'.paymentIntents = db.paymentIntents) rfl ?_
    intro result h
    obtain ⟨terms, o, schedule, -, hrestructures⟩ := FinancingService.restructureContract_eq_ok h
    rw [hrestructures.closes.elsewhere]
  | writeOff contractId companyUserId reason now =>
    refine committed_rule (P := fun db' => db'.paymentIntents = db.paymentIntents) rfl ?_
    intro result h
    obtain ⟨o, -, hcloses⟩ := FinancingService.writeOffContract_eq_ok h
    rw [hcloses.elsewhere]

end ContractOperation
end InstalFlow
