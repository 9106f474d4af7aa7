import InstalFlow.SubscriptionPrograms
import InstalFlow.Transition.Credit

/-!
# One payment, one activation

The transaction of a verification marks the payment intent in its middle, by a
statement of its own that another transaction cannot undo. An intent is marked
SUCCESS once at most, so of all verifications of a reference one commits at most,
whatever pending rows later renewals supply.
-/

namespace InstalFlow
open Relational Transition

namespace SubscriptionWrite

/-- The commit of a verification. -/
def activation (db : Database) : SubscriptionWrite → Option VerifiedPayment
  | activate v => if (v.commit db).isOk then some v else none
  | _ => none

end SubscriptionWrite

namespace Database

/-- Companies and ledger are left alone. -/
structure Unpaid (db db' : Database) : Prop where
  companies : db'.companies = db.companies
  ledger : db'.ledger = db.ledger

/-- The subscriptions that are ACTIVE were so before, but the one activated. -/
def ActivatesOnly (activation : Option VerifiedPayment) (db db' : Database) : Prop :=
  ∀ s ∈ db'.companySubscriptions.rows, s.status = .active → s ∈ db.companySubscriptions.rows ∨
    ∃ v ∈ activation, s.subscriptionId = v.pendingSubscription.subscriptionId

/-- Intents change, and a company without a PENDING subscription may get one. -/
def AddsPending (db db' : Database) : Prop :=
  ∃ companySubscriptions paymentIntents, db' = { db with companySubscriptions, paymentIntents } ∧
    (companySubscriptions = db.companySubscriptions ∨ ∃ s, s.status = .pending ∧
      (∀ t ∈ db.companySubscriptions.rows, t.companyId = s.companyId → t.status ≠ .pending) ∧
      db.companySubscriptions.create s = some companySubscriptions)

end Database

section steps
variable {m : Moment} {db db' : Database}

theorem VerifiedPayment.commit_eq_ok {v : VerifiedPayment} (h : v.commit db = .ok db') :
    ∃ ledger, LedgerService.recordTransaction v.posting db.ledger = .ok ledger ∧
      db' = { db with
        companySubscriptions := (db.companySubscriptions.updateMany
          (fun s => s.subscriptionId ∈ v.others) SubscriptionService.expiredSubscription
            (fun _ => rfl)).update v.pendingSubscription.subscriptionId
              (SubscriptionService.activatedSubscription v.plan v.now) (fun _ => rfl)
        companies := db.companies.update (v.intent.companyId.getD "")
          (fun c => { c with plan := v.plan.name }) (fun _ => rfl)
        ledger } := by
  obtain ⟨subscriptions, hsubscriptions, h⟩ := bind_eq_ok.mp h
  obtain ⟨companies, hcompanies, h⟩ := bind_eq_ok.mp h
  obtain ⟨ledger, hledger, rfl⟩ := post_eq_ok h
  obtain ⟨-, rfl⟩ := updateRow_eq_ok.mp hsubscriptions
  obtain ⟨-, rfl⟩ := updateRow_eq_ok.mp hcompanies
  exact ⟨ledger, hledger, rfl⟩

/-- What a verification makes of a subscription. -/
def VerifiedPayment.onRow (v : VerifiedPayment) (s : CompanySubscription) : CompanySubscription :=
  if s.subscriptionId = v.pendingSubscription.subscriptionId then
    SubscriptionService.activatedSubscription v.plan v.now s
  else if s.subscriptionId ∈ v.others then SubscriptionService.expiredSubscription s
  else s

theorem VerifiedPayment.rows_commit {v : VerifiedPayment} (h : v.commit db = .ok db') :
    db'.companySubscriptions.rows = db.companySubscriptions.rows.map v.onRow := by
  obtain ⟨ledger, -, rfl⟩ := commit_eq_ok h
  simp only [Table.update, Table.updateMany, List.map_map]
  refine List.map_congr_left fun s _ => ?_
  simp only [Function.comp_apply, onRow, decide_eq_true_eq]
  by_cases hothers : s.subscriptionId ∈ v.others
  · rw [if_pos hothers]
    by_cases hpending : s.subscriptionId = v.pendingSubscription.subscriptionId
    · rw [if_pos hpending]
      exact if_pos hpending
    · rw [if_neg hpending]
      exact if_neg hpending
  · rw [if_neg hothers]

/-- A statement about intents adds a PENDING subscription at most. -/
theorem IntentWrite.addsPending_execute {w : IntentWrite} (hw : w.Subscribes) (m : Moment)
    (db : Database) : db.AddsPending (w.execute m db) := by
  have hintents (hw : w.Collects fun _ => False) (hcollect : ∀ a, w ≠ .collect a) :
      db.AddsPending (w.execute m db) := by
    obtain ⟨intents, heq⟩ := execute_paymentIntents m db hw hcollect
    exact ⟨_, intents, heq, .inl rfl⟩
  cases w with
  | elsewhere f hf =>
    obtain ⟨subscriptionId, companyId, planId, now, rfl⟩ := hw
    simp only [execute, SubscriptionService.createPendingSubscription]
    split
    · exact ⟨_, _, rfl, .inl rfl⟩
    · rename_i hfree
      cases hcreate : db.companySubscriptions.create
          { subscriptionId, companyId, planId, createdAt := now } with
      | none => exact ⟨_, _, rfl, .inl rfl⟩
      | some subscriptions =>
        refine ⟨_, _, rfl, .inr ⟨_, rfl, ?_, hcreate⟩⟩
        simpa using hfree
  | collect attempt => exact hw.elim
  | create intent => exact hintents trivial fun _ => by simp
  | transition intentId t => exact hintents trivial fun _ => by simp
  | recordRecoveryFailure intentId errorMessage => exact hintents trivial fun _ => by simp
  | expireStale now => exact hintents trivial fun _ => by simp
  | claim intentIds => exact hintents trivial fun _ => by simp

theorem SubscriptionWrite.activation_eq_some {w : SubscriptionWrite} {v : VerifiedPayment}
    (h : w.activation db = some v) : w = .activate v ∧ ∃ db', v.commit db = .ok db' := by
  cases w with
  | activate u =>
    rw [activation] at h
    cases hcommit : u.commit db with
    | error err =>
      rw [hcommit] at h
      cases h
    | ok db' =>
      rw [hcommit] at h
      cases h
      exact ⟨rfl, db', hcommit⟩
  | intent w => cases h
  | transitionTo subscriptionId status => cases h

/-- A verification that does not commit leaves everything. -/
theorem SubscriptionWrite.execute_activate_of_none {v : VerifiedPayment}
    (h : (activate v).activation db = none) : (activate v).execute m db = db := by
  rw [activation] at h
  rw [execute]
  cases hcommit : v.commit db with
  | error err => rfl
  | ok db' =>
    rw [hcommit] at h
    cases h

variable {w : SubscriptionWrite}

theorem unpaid_execute (hw : w.Subscribes) (h : w.activation db = none) :
    db.Unpaid (w.execute m db) := by
  cases w with
  | intent w =>
    obtain ⟨subscriptions, intents, heq, -⟩ := IntentWrite.addsPending_execute hw m db
    rw [SubscriptionWrite.execute, heq]
    exact ⟨rfl, rfl⟩
  | transitionTo subscriptionId status => exact ⟨rfl, rfl⟩
  | activate v =>
    rw [SubscriptionWrite.execute_activate_of_none h]
    exact ⟨rfl, rfl⟩

theorem activatesOnly_execute (hw : w.Subscribes) :
    db.ActivatesOnly (w.activation db) (w.execute m db) := by
  intro s hs hactive
  cases w with
  | intent w =>
    obtain ⟨subscriptions, intents, heq, hadded⟩ := IntentWrite.addsPending_execute hw m db
    rw [SubscriptionWrite.execute, heq] at hs
    rcases hadded with rfl | ⟨t, ht, -, hcreate⟩
    · exact .inl hs
    · simp only [(Table.create_eq_some hcreate).2, List.mem_append, List.mem_singleton] at hs
      rcases hs with hs | rfl
      · exact .inl hs
      · rw [ht] at hactive
        cases hactive
  | transitionTo subscriptionId status =>
    have hs : s ∈ (db.companySubscriptions.update subscriptionId
      (CompanySubscription.withStatus status) fun _ => rfl).rows := hs
    rcases Table.mem_update hs with hs | ⟨t, -, rfl⟩
    · exact .inl hs
    · rcases hw with rfl | rfl <;> cases hactive
  | activate v =>
    cases hactivation : (SubscriptionWrite.activate v).activation db with
    | none =>
      rw [SubscriptionWrite.execute_activate_of_none hactivation] at hs
      exact .inl hs
    | some u =>
      obtain ⟨hw, db', hcommit⟩ := SubscriptionWrite.activation_eq_some hactivation
      cases hw
      rw [SubscriptionWrite.execute, hcommit] at hs
      have hs : s ∈ db'.companySubscriptions.rows := hs
      rw [VerifiedPayment.rows_commit hcommit] at hs
      obtain ⟨t, ht, rfl⟩ := List.mem_map.mp hs
      rw [VerifiedPayment.onRow] at hactive ⊢
      split at hactive
      · rename_i hid
        rw [if_pos hid]
        exact .inr ⟨v, rfl, hid⟩
      · rename_i hid
        rw [if_neg hid]
        split at hactive
        · cases hactive
        · rename_i hkept
          rw [if_neg hkept]
          exact .inl ht

/-- Only a verification that commits posts, and once. -/
theorem postings_execute (hw : w.Subscribes) (reference : String) :
    (w.execute m db).ledger.postings reference = db.ledger.postings reference +
      (w.activation db).toList.countP (fun v => v.reference = reference) := by
  cases hactivation : w.activation db with
  | none => rw [(unpaid_execute hw hactivation).ledger, Option.toList_none, List.countP_nil, add_zero]
  | some v =>
    obtain ⟨rfl, db', hcommit⟩ := SubscriptionWrite.activation_eq_some hactivation
    obtain ⟨ledger, hposted, rfl⟩ := VerifiedPayment.commit_eq_ok hcommit
    have hlines : v.posting.entries ≠ [] := List.cons_ne_nil _ _
    have hpostings := LedgerService.postings_recordTransaction hposted hlines reference
    rw [SubscriptionWrite.execute, hcommit, Option.toList_some, List.countP_singleton]
    refine hpostings.trans (congrArg _ ?_)
    exact if_congr (decide_eq_true_iff (p := v.reference = reference)).symm rfl rfl

end steps

/-- Every reference belongs to one intent for good. -/
def Database.ReferencesOwned (owner : String → String) (db : Database) : Prop :=
  ∀ i ∈ db.paymentIntents.rows, ∀ reference ∈ i.reference, owner reference = i.intentId

/-- What Paystack has answered to an initialization is a reference of that intent. -/
def SubscriptionWrite.Answered (owner : String → String) : SubscriptionWrite → Prop
  | intent (.transition intentId (.initialized response)) => owner response.reference = intentId
  | _ => True

section references
variable {owner : String → String} {m : Moment} {db : Database}

theorem referencesOwned_updateMany (h : db.ReferencesOwned owner) (p : PaymentIntent → Bool)
    (f : PaymentIntent → PaymentIntent) (hf : ∀ i, (f i).intentId = i.intentId)
    (hrow : ∀ i, p i = true → ∀ r ∈ (f i).reference, r ∈ i.reference ∨ owner r = i.intentId) :
    Database.ReferencesOwned owner
      { db with paymentIntents := db.paymentIntents.updateMany p f hf } := by
  intro i hi r hr
  have hi : i ∈ (db.paymentIntents.updateMany p f hf).rows := hi
  rcases Table.mem_updateMany.mp hi with ⟨hi, -⟩ | ⟨j, hj, hp, rfl⟩
  · exact h i hi r hr
  · rw [hf]
    rcases hrow j hp r hr with hold | hnew
    · exact h j hj r hold
    · exact hnew

theorem referencesOwned_create (h : db.ReferencesOwned owner) {intent : PaymentIntent}
    (hnone : intent.reference = none) :
    (committed db id (createIntent intent db)).ReferencesOwned owner := by
  refine committed_rule (P := fun db => db.ReferencesOwned owner) h fun db' h' => ?_
  rw [createIntent] at h'
  split at h'
  · cases h'
  · split at h'
    · cases h'
    · split at h'
      · cases h'
      · rename_i intents hcreate
        cases h'
        intro i hi r hr
        simp only [id, (Table.create_eq_some (createRow_eq_ok.mp hcreate)).2, List.mem_append,
          List.mem_singleton] at hi
        rcases hi with hi | rfl
        · exact h i hi r hr
        · rw [hnone] at hr
          cases hr

theorem referencesOwned_execute {w : SubscriptionWrite} (hw : w.Subscribes)
    (hanswered : w.Answered owner) (h : db.ReferencesOwned owner) :
    (w.execute m db).ReferencesOwned owner := by
  cases w with
  | transitionTo subscriptionId status => exact h
  | activate v =>
    refine committed_rule (P := fun db => db.ReferencesOwned owner) h fun db' h' => ?_
    obtain ⟨ledger, -, rfl⟩ := VerifiedPayment.commit_eq_ok h'
    exact h
  | intent w =>
    cases w with
    | create intent => exact referencesOwned_create h hw
    | transition intentId t =>
      simp only [SubscriptionWrite.execute, IntentWrite.execute, IntentTransition.committed_apply]
      split
      · exact h
      · refine referencesOwned_updateMany h _ (fun i => t.row m.now i)
          (fun i => t.row_intentId m.now i) fun i hi r hr => ?_
        cases t with
        | initialized response =>
          cases hr
          exact .inr (hanswered.trans (of_decide_eq_true hi).1.symm)
        | _ => exact .inl hr
    | recordRecoveryFailure intentId errorMessage =>
      exact referencesOwned_updateMany h _ _ _ fun i _ r hr => .inl hr
    | expireStale now => exact referencesOwned_updateMany h _ _ _ fun i _ r hr => .inl hr
    | claim intentIds => exact referencesOwned_updateMany h _ _ _ fun i _ r hr => .inl hr
    | collect attempt => exact hw.elim
    | elsewhere f hf =>
      rw [SubscriptionWrite.execute, IntentWrite.execute, Database.ReferencesOwned, hf]
      exact h

end references

namespace SubscriptionWrite

/-- The statement marks the intent SUCCESS, and is the first that makes it terminal. -/
def marks (intentId : String) (db : Database) : SubscriptionWrite → Bool
  | intent (.transition id .success) => id = intentId ∧
      (db.paymentIntents.find? id).any fun i => !i.status.terminal
  | _ => false

theorem marked_of_marks {intentId : String} {m : Moment} {db : Database} {w : SubscriptionWrite}
    (h : w.marks intentId db = true) : intentStatus intentId db ≠ some .success ∧
      intentStatus intentId (w.execute m db) = some .success := by
  cases w with
  | intent w =>
    cases w with
    | transition id t =>
      cases t with
      | success =>
        obtain ⟨rfl, hopen⟩ := of_decide_eq_true h
        cases hi : db.paymentIntents.find? id with
        | none =>
          rw [hi] at hopen
          cases hopen
        | some i =>
          have hopened : i.status.terminal = false := by simpa [hi] using hopen
          refine ⟨fun hsuccess => ?_, ?_⟩
          · rw [intentStatus, hi, Option.map_some, Option.some.injEq] at hsuccess
            rw [hsuccess] at hopened
            cases hopened
          · have hmarked := IntentWrite.find?_execute (m := m)
              (.transition id .success) hi
            rw [intentStatus, execute, hmarked, IntentWrite.onRow,
              if_pos (by simp [IntentTransition.refused, hopened, Table.find?_key hi])]
            rfl
      | _ => cases h
    | _ => cases h
  | _ => cases h

theorem marked_execute {intentId : String} {m : Moment} {db : Database} {w : SubscriptionWrite}
    (h : intentStatus intentId db = some .success) :
    intentStatus intentId (w.execute m db) = some .success := by
  cases w with
  | intent w => exact IntentWrite.intentStatus_execute w rfl h
  | transitionTo subscriptionId status => exact h
  | activate v =>
    refine committed_rule (P := fun db => intentStatus intentId db = some .success) h
      fun db' h' => ?_
    obtain ⟨ledger, -, rfl⟩ := VerifiedPayment.commit_eq_ok h'
    exact h

/-- The statement activates on the payment with the reference. -/
def activatesOn (reference : String) (db : Database) (w : SubscriptionWrite) : Bool :=
  (w.activation db).any fun v => v.reference = reference

theorem reference_of_activatesOn {reference : String} {db : Database} {v : VerifiedPayment}
    (h : (activate v).activatesOn reference db = true) : v.reference = reference := by
  rw [activatesOn] at h
  cases hactivation : (activate v).activation db with
  | none =>
    rw [hactivation] at h
    cases h
  | some u =>
    obtain ⟨hw, -⟩ := activation_eq_some hactivation
    cases hw
    rw [hactivation] at h
    exact of_decide_eq_true h

end SubscriptionWrite

section credits
variable {owner : String → String} {reference intentId : String} {n : ℕ}

theorem markSuccess_eq_ok {now : DateTime} {db db' : Database}
    (h : PaymentIntentService.markSuccess intentId now db = .ok db') :
    ∃ i, db.paymentIntents.find? intentId = some i ∧ i.status.terminal = false := by
  rw [PaymentIntentService.markSuccess, PaymentIntentService.transitionStatus] at h
  split at h
  · cases h
  · rename_i i hi
    split at h
    · cases h
    · rename_i hopen
      exact ⟨i, hi, by simpa using hopen⟩

/-- Whoever is answered that the intent is SUCCESS has made it so. -/
theorem IntentProgram.credited_markSuccess {earns : Moment → Database → IntentWrite → Bool}
    (hearns : ∀ m db i, db.paymentIntents.find? intentId = some i → i.status.terminal = false →
      earns m db (.transition intentId .success) = true) :
    Program.Credited (fun _ => True) earns (fun _ _ _ => false)
      (fun n r => ∀ a, r = .ok a → 0 < n) (transitionStatus intentId .success).run n := by
  refine .exceptBind fun m db _ => ⟨fun h => absurd h Bool.false_ne_true, fun updated hupdated => ?_⟩
  have hearned : updated = true → earns m db (.transition intentId .success) = true := by
    intro htrue
    subst htrue
    cases happly : IntentTransition.success.apply intentId m.now db with
    | error err =>
      simp only [happly] at hupdated
      cases err <;> cases hupdated
    | ok db' =>
      obtain ⟨i, hi, hopen⟩ := markSuccess_eq_ok happly
      exact hearns m db i hi hopen
  refine .exceptBind fun _ db' _ current _ => ?_
  cases updated with
  | false =>
    cases current with
    | none => exact fun a ha => absurd ha (by simp)
    | some i => exact fun a ha => absurd ha (by simp)
  | true =>
    cases current with
    | none => exact fun a ha => absurd ha (by simp)
    | some i =>
      rw [hearned rfl]
      exact fun a _ => Nat.succ_pos _

/-- A verification marks the intent of its reference before it activates. -/
theorem credited_verifySubscription (charged : String) :
    Program.Credited (Database.ReferencesOwned owner)
      (fun _ db w => w.marks (owner reference) db) (fun _ db w => w.activatesOn reference db)
      (fun _ _ => True) (SubscriptionProgram.verifySubscription charged).run 0 := by
  refine .imp (P := fun _ r => ∀ a, r = .ok a → True) (fun _ _ _ => trivial) ?_
  refine .exceptBind fun m db howned intent hintent => ?_
  have howner : owner charged = intent.intentId := by
    simp only at hintent
    split at hintent
    · cases hintent
    · rename_i i hi
      cases hintent
      obtain ⟨hmem, href⟩ := PaymentIntentService.of_findByReference hi
      exact howned intent hmem charged href
  refine .exceptBind (.exceptMap fun _ _ _ _ _ => ?_)
  refine .exceptBind fun _ _ _ plan _ => .exceptBind fun _ _ _ pendingSubscription _ => ?_
  refine .exceptBind fun _ _ _ now _ => .exceptBind fun _ _ _ others _ => ?_
  refine .exceptBind (.exceptMap fun _ _ _ _ _ => .exceptBind (.exceptMap fun _ _ _ _ _ => ?_))
  refine .exceptBind (.exceptMap (.imp (P := fun n r => ∀ a, r = .ok a →
    owner reference = intent.intentId → 0 < n) (fun n r hr a ha => ?_) ?_))
  · refine .exceptBind (.exceptMap fun _ _ _ _ _ => ?_)
    refine fun _ db _ => ⟨fun hspends => ?_, fun _ _ => trivial⟩
    -- the activation is on the reference that the call was given
    have hcharged : charged = reference := SubscriptionWrite.reference_of_activatesOn hspends
    exact hr a ha (hcharged ▸ howner)
  · by_cases hreference : owner reference = intent.intentId
    · have hmark : Program.Credited (fun _ => True)
          (fun _ db w => (SubscriptionWrite.intent w).marks (owner reference) db)
          (fun _ _ _ => false) (fun n r => ∀ a, r = .ok a → 0 < n)
          (IntentProgram.transitionStatus intent.intentId .success).run 0 :=
        IntentProgram.credited_markSuccess fun _ _ i hi hopen => by
          simp [SubscriptionWrite.marks, hreference, hi, hopen]
      exact .imp (fun _ _ hr a ha _ => hr a ha)
        (.embed (fun _ _ => trivial) (fun _ _ _ => rfl) (fun _ _ _ => rfl) hmark)
    · have hsends : Program.Sends (fun w => ∃ v, w = SubscriptionWrite.intent v)
          (SubscriptionProgram.ofIntent
            (IntentProgram.transitionStatus intent.intentId .success)).run := by
        refine SubscriptionProgram.sends_ofIntent
          (IntentProgram.sends_transitionStatus (A := fun w => ∃ v, _ = SubscriptionWrite.intent v) ?_)
        exact ⟨_, rfl⟩
      refine .imp (fun _ _ _ _ _ hsame => absurd hsame hreference)
        (.of_sends hsends fun _ _ w hw => ?_)
      obtain ⟨v, rfl⟩ := hw
      rfl

end credits
/-- What is sent by an operation: a verification sends marks and activations only. -/
def SubscriptionOperation.Sent (operation : SubscriptionOperation) (w : SubscriptionWrite) : Prop :=
  w.Subscribes ∧ ((∃ reference, operation = .verifySubscription reference) →
    (∃ intentId, w = .intent (.transition intentId .success)) ∨ ∃ v, w = .activate v)

theorem SubscriptionOperation.sends_sent (operation : SubscriptionOperation) :
    Program.Sends operation.Sent operation.program.run := by
  refine operation.sends (fun reference _ => ⟨fun intentId => ?_, fun v => ?_⟩)
    fun hne => ⟨fun w hw => ?_, fun id status hstatus => ?_⟩
  · exact ⟨trivial, fun _ => .inl ⟨intentId, rfl⟩⟩
  · exact ⟨trivial, fun _ => .inr ⟨v, rfl⟩⟩
  · exact ⟨hw, fun h => absurd h.choose_spec (hne _)⟩
  · exact ⟨hstatus, fun h => absurd h.choose_spec (hne _)⟩

section interleaving
variable {ι : Type}

namespace SubscriptionThreads

/-- The verification that the step commits. -/
def activation (c : SubscriptionThreads ι) (l : ι × Moment) : Option VerifiedPayment :=
  (c.threads l.1).pending.bind (SubscriptionWrite.activation c.shared)

/-- What the step has got from Paystack is a reference of the intent. -/
def Answered (owner : String → String) (c : SubscriptionThreads ι) (l : ι × Moment) : Prop :=
  ∀ w ∈ (c.threads l.1).pending, w.Answered owner

theorem countP_activation (c : SubscriptionThreads ι) (l : ι × Moment) (reference : String) :
    (c.activation l).toList.countP (fun v => v.reference = reference) =
      (counted (fun _ db w => SubscriptionWrite.activatesOn reference db w) c l).toList.length := by
  rw [counted, activation]
  cases (c.threads l.1).pending with
  | none => rfl
  | some w =>
    rw [Option.bind_some, Option.any_some, SubscriptionWrite.activatesOn]
    cases w.activation c.shared with
    | none => rfl
    | some v =>
      rw [Option.toList_some, List.countP_singleton, Option.any_some]
      split <;> rfl

variable [DecidableEq ι] {owner : String → String} {operations : ι → SubscriptionOperation}

theorem referencesOwned_perform {c : SubscriptionThreads ι} {l : ι × Moment}
    (hsends : (c.threads l.1).Sends (operations l.1).Sent) (hanswered : c.Answered owner l)
    (h : c.shared.ReferencesOwned owner) :
    (performSubscription c l).shared.ReferencesOwned owner := by
  rw [performSubscription, perform_shared, Program.advance_shared]
  cases hw : (c.threads l.1).pending with
  | none => exact h
  | some w => exact referencesOwned_execute (hsends.pending w hw).1 (hanswered w hw) h

/-- An intent is marked once at most. -/
theorem length_marks_le_one (intentId : String) (c : SubscriptionThreads ι)
    (hsends : ∀ i, (c.threads i).Sends (operations i).Sent) (schedule : List (ι × Moment)) :
    (history performSubscription (counted fun _ db w => w.marks intentId db) c schedule).length ≤
      1 := by
  have hcount : (history performSubscription (counted fun _ db w => w.marks intentId db) c
      schedule).countP (fun _ => true) ≤ 1 := by
    refine (countP_history_le_one (I := fun c => ∀ i, (c.threads i).Sends (operations i).Sent)
      (J := fun c => intentStatus intentId c.shared = some .success)
      (fun c l h => perform_sends h l) (fun c l h hmarked => ?_) (fun c l i h hi _ => ?_)
      hsends schedule).1
    · rw [performSubscription, perform_shared, Program.advance_shared]
      cases hw : (c.threads l.1).pending with
      | none => exact hmarked
      | some w => exact SubscriptionWrite.marked_execute hmarked
    · rw [counted] at hi
      split at hi
      · rename_i hany
        rw [performSubscription, perform_shared, Program.advance_shared]
        cases hw : (c.threads l.1).pending with
        | none =>
          rw [hw] at hany
          cases hany
        | some w =>
          rw [hw] at hany
          exact SubscriptionWrite.marked_of_marks hany
      · cases hi
  simpa using hcount

theorem postings_perform {c : SubscriptionThreads ι} {l : ι × Moment}
    (hsends : (c.threads l.1).Sends (operations l.1).Sent) (reference : String) :
    (performSubscription c l).shared.ledger.postings reference =
      c.shared.ledger.postings reference +
        (c.activation l).toList.countP (fun v => v.reference = reference) := by
  rw [performSubscription, perform_shared, Program.advance_shared, activation]
  cases hw : (c.threads l.1).pending with
  | none => rfl
  | some w => exact postings_execute (hsends.pending w hw).1 reference

theorem frame_perform {c : SubscriptionThreads ι} {l : ι × Moment}
    (hsends : (c.threads l.1).Sends (operations l.1).Sent) :
    c.shared.ActivatesOnly (c.activation l) (performSubscription c l).shared ∧
    (c.activation l = none → c.shared.Unpaid (performSubscription c l).shared ∧
      ((∃ reference, operations l.1 = .verifySubscription reference) →
        (performSubscription c l).shared.companySubscriptions =
          c.shared.companySubscriptions)) := by
  rw [performSubscription, perform_shared, Program.advance_shared, activation]
  cases hw : (c.threads l.1).pending with
  | none => exact ⟨fun s hs _ => .inl hs, fun _ => ⟨⟨rfl, rfl⟩, fun _ => rfl⟩⟩
  | some w =>
    obtain ⟨hsubscribes, hverifies⟩ := hsends.pending w hw
    refine ⟨activatesOnly_execute hsubscribes, fun hnone => ⟨unpaid_execute hsubscribes hnone,
      fun hverification => ?_⟩⟩
    rcases hverifies hverification with ⟨intentId, rfl⟩ | ⟨v, rfl⟩
    · simp only [Option.map_some, Option.getD_some, SubscriptionWrite.execute,
        IntentWrite.execute, IntentTransition.committed_apply]
      split <;> rfl
    · exact congrArg Database.companySubscriptions
        (SubscriptionWrite.execute_activate_of_none (m := l.2) hnone)

end SubscriptionThreads

theorem credited_operation {owner : String → String} {reference : String}
    (operation : SubscriptionOperation) : Program.Credited (Database.ReferencesOwned owner)
      (fun _ db w => SubscriptionWrite.marks (owner reference) db w)
      (fun _ db w => SubscriptionWrite.activatesOn reference db w) (fun _ _ => True)
      operation.program.run 0 := by
  by_cases hverification : ∃ charged, operation = .verifySubscription charged
  · obtain ⟨charged, rfl⟩ := hverification
    exact credited_verifySubscription charged
  · have hsends := operation.sends (A := fun w => ∀ db, w.activation db = none)
      (fun charged h => absurd ⟨charged, h⟩ hverification)
      fun _ => ⟨fun _ _ _ => rfl, fun _ _ _ _ => rfl⟩
    refine .of_sends hsends fun _ db w hw => ?_
    rw [SubscriptionWrite.activatesOn, hw db]
    rfl

variable [DecidableEq ι]

/-- However verifications, requests, renewals and transitions of intents are
interleaved, a payment activates once at most and is posted as often; a call that
does not activate leaves subscriptions, plans and ledger alone. -/
theorem activated_once (operations : ι → SubscriptionOperation) (db : Database)
    (owner : String → String) (howned : db.ReferencesOwned owner) (schedule : List (ι × Moment))
    (hanswered : Along performSubscription (SubscriptionThreads.Answered owner)
      (launchSubscriptions operations db) schedule) :
    let activations := history performSubscription SubscriptionThreads.activation
      (launchSubscriptions operations db) schedule
    let final := run performSubscription (launchSubscriptions operations db) schedule
    (∀ reference, activations.countP (fun v => v.reference = reference) ≤ 1 ∧
      final.shared.ledger.postings reference = db.ledger.postings reference +
        activations.countP (fun v => v.reference = reference)) ∧
    Along performSubscription (fun c l =>
      c.shared.ActivatesOnly (c.activation l) (performSubscription c l).shared ∧
      (c.activation l = none → c.shared.Unpaid (performSubscription c l).shared ∧
        ((∃ reference, operations l.1 = .verifySubscription reference) →
          (performSubscription c l).shared.companySubscriptions =
            c.shared.companySubscriptions)))
      (launchSubscriptions operations db) schedule := by
  intro activations final
  let I (c : SubscriptionThreads ι) : Prop := ∀ i, (c.threads i).Sends (operations i).Sent
  have hI : ∀ (c : SubscriptionThreads ι) l, I c → I (performSubscription c l) :=
    fun c l h => perform_sends h l
  have hstart : I (launchSubscriptions operations db) := fun i => (operations i).sends_sent
  refine ⟨fun reference => ⟨?_, ?_⟩, along_of_invariant hI (fun c l hc => ?_) hstart schedule⟩
  · have hreferences : Along performSubscription (fun c _ => c.shared.ReferencesOwned owner)
        (launchSubscriptions operations db) schedule := by
      have hboth := Along.throughout (I := fun c : SubscriptionThreads ι =>
        I c ∧ c.shared.ReferencesOwned owner) (fun c l hc hanswered => ⟨hI c l hc.1,
          SubscriptionThreads.referencesOwned_perform (hc.1 l.1) hanswered hc.2⟩)
        ⟨hstart, howned⟩ hanswered
      exact (hboth.imp fun _ h => h.2).along
    have hcredited (i : ι) : Program.Credited (Database.ReferencesOwned owner)
        (fun _ db w => w.marks (owner reference) db) (fun _ db w => w.activatesOn reference db)
        (fun _ _ => True) ((launchSubscriptions operations db).threads i) 0 :=
      credited_operation (operations i)
    have hspent := length_spends_le hcredited hreferences
    have hcount : activations.countP (fun v => v.reference = reference) =
        (history performSubscription (counted fun _ db w =>
          SubscriptionWrite.activatesOn reference db w)
            (launchSubscriptions operations db) schedule).length :=
      countP_history_eq (fun c l => SubscriptionThreads.countP_activation c l reference) schedule
    rw [hcount]
    exact hspent.trans (SubscriptionThreads.length_marks_le_one _ _ hstart schedule)
  · exact run_countP (v := fun c : SubscriptionThreads ι => c.shared.ledger.postings reference) hI
      (fun c l hc => SubscriptionThreads.postings_perform (hc l.1) reference) hstart schedule
  · exact SubscriptionThreads.frame_perform (hc l.1)

end interleaving
instance (owner : String → String) : ∀ w : SubscriptionWrite, Decidable (w.Answered owner)
  | .intent (.transition intentId (.initialized response)) =>
      inferInstanceAs (Decidable (owner response.reference = intentId))
  | .intent (.transition _ .pending) | .intent (.transition _ .processing)
  | .intent (.transition _ .success) | .intent (.transition _ (.failed _))
  | .intent (.transition _ .expired) | .intent (.transition _ (.cancelled _))
  | .intent (.create _) | .intent (.recordRecoveryFailure _ _) | .intent (.expireStale _)
  | .intent (.claim _) | .intent (.collect _) | .intent (.elsewhere _ _)
  | .transitionTo _ _ | .activate _ => inferInstanceAs (Decidable True)

instance {ι : Type} (owner : String → String) (c : SubscriptionThreads ι) (l : ι × Moment) :
    Decidable (c.Answered owner l) :=
  inferInstanceAs (Decidable (∀ w ∈ (c.threads l.1).pending, w.Answered owner))

/-- A company that has been charged for its first subscription. -/
def chargedCompany : Database where
  users := ⟨[{ userId := "owner", email := "o@x.y", role := .company, companyId := some "co" }],
    by decide⟩
  companies := ⟨[{ companyId := "co", name := "Charged company" }], by decide⟩
  subscriptionPlans := ⟨[{ planId := "growth", name := "Growth", price := 100 }], by decide⟩
  companySubscriptions := ⟨[{ subscriptionId := "first", companyId := "co", planId := "growth" }],
    by decide⟩
  paymentIntents := ⟨[{ intentId := "paid", type := .subscription, reference := some "ref"
                        status := .pending, amount := 100, companyId := some "co"
                        planId := some "growth", reservationKey := "SUBSCRIPTION:co"
                        idempotencyKey := "paid", expiresAt := 90 }], by decide⟩

/-- Two verifications of the charge, and a renewal. -/
def verifyTwiceAndRenew : Option Bool → SubscriptionOperation
  | some _ => .verifySubscription "ref"
  | none => .renewSubscription "co" none

def subscriptionMoment : Moment where
  now := 10
  uuid := "next"
  initializeTransaction := fun _ _ => .ok ⟨"ref2", "url", "code"⟩
  verifyTransaction := fun _ => .ok { status := "success" }

/-- The intent that each reference belongs to. -/
def referenceOwner (reference : String) : String := if reference = "ref" then "paid" else "next"

/-- The renewal supplies a pending subscription before the second verification. -/
def renewedBetween : List (Option Bool × Moment) :=
  List.replicate 12 (some true, subscriptionMoment) ++ List.replicate 14 (none, subscriptionMoment) ++
    List.replicate 12 (some false, subscriptionMoment)

theorem replay_activates_nothing :
    let final := run performSubscription (launchSubscriptions verifyTwiceAndRenew chargedCompany)
      renewedBetween
    final.shared.companySubscriptions.rows.map CompanySubscription.status = [.active, .pending] ∧
    (history performSubscription SubscriptionThreads.activation
      (launchSubscriptions verifyTwiceAndRenew chargedCompany) renewedBetween).countP
        (fun v => v.reference = "ref") ≤ 1 :=
  ⟨by decide +kernel, ((activated_once verifyTwiceAndRenew chargedCompany referenceOwner
    (by unfold Database.ReferencesOwned; decide +kernel) renewedBetween
    (by decide +kernel)).1 "ref").1⟩

end InstalFlow
