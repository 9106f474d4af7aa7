import InstalFlow.KycActivation

/-!
# What a review has read

An approval decides on rows that it has read one table at a time in front of its
transaction. Each was there in some state before, and what was known of that
state is known of the review when the transaction is sent.
-/

namespace InstalFlow
open Relational Transition

section reads
variable (R : Database → Database → Prop) (I : Database → Prop)

/-- The rows of the review were read in states of `I`, and since then `R` has happened. -/
structure Review.ReadBefore (r : Review) (signature : Signature) (db : Database) : Prop where
  reviewer : ∃ d, R d db ∧ I d ∧ d.users.find? r.reviewer.userId = some r.reviewer
  application : ∃ d, R d db ∧ I d ∧
    d.kycApplications.find? r.application.kycApplicationId = some r.application
  session : ∃ d, R d db ∧ I d ∧ KycService.sessionOf r.application d = some r.session
  authorized : KycService.authorize r = .ok signature
  approvable : KycService.assertApprovable r signature = .ok ()

def KycWrite.Reviewed (db : Database) : KycWrite → Prop
  | approve r signature => r.ReadBefore R I signature db
  | _ => True

/-- The row of the application and that of its session were read in states of `I`. -/
structure LoadedApplication.ReadBefore (l : LoadedApplication) (db : Database) : Prop where
  application : ∃ d, R d db ∧ I d ∧
    d.kycApplications.find? l.application.kycApplicationId = some l.application
  session : ∀ s, l.session = some s →
    ∃ d, R d db ∧ I d ∧ KycService.sessionOf l.application d = some s

end reads

namespace KycProgram
variable {R : Database → Database → Prop} {I : Database → Prop}

theorem loadApplication_reaches (htrans : ∀ a b c, R a b → R b c → R a c)
    (applicationId : String) {db₀ db : Database} (hdb : R db₀ db) :
    (loadApplication applicationId).Reaches R I (KycWrite.Reviewed R I)
      (fun db loaded => R db₀ db ∧ ∀ l, loaded = some l → l.ReadBefore R I db) db := by
  refine .bind (.select fun m db₁ h₁ hI₁ => ?_)
  cases ha : db₁.kycApplications.find? applicationId with
  | none =>
    refine .pure ⟨htrans _ _ _ hdb h₁, fun l hl => ?_⟩
    cases hl
  | some application =>
    refine .bind (.select fun _ db₂ h₂ _ => .bind (.select fun _ db₃ h₃ hI₃ =>
      .bind (.select fun _ db₄ h₄ _ => .pure ?_)))
    have hsince : R db₁ db₄ := htrans _ _ _ h₂ (htrans _ _ _ h₃ h₄)
    refine ⟨htrans _ _ _ hdb (htrans _ _ _ h₁ hsince), fun l hl => ?_⟩
    cases hl
    refine ⟨⟨db₁, hsince, hI₁, ?_⟩, fun s hs => ⟨db₃, h₄, hI₃, hs⟩⟩
    rw [Table.find?_key ha]
    exact ha

theorem approveApplication_reaches (htrans : ∀ a b c, R a b → R b c → R a c)
    (hrefl : ∀ db, R db db) (applicationId reviewerId : String) (db : Database) :
    (approveApplication applicationId reviewerId).Reaches R I (KycWrite.Reviewed R I)
      (fun _ _ => True) db := by
  refine .bind (.select fun _ db₁ _ hI₁ => .bind ?_)
  refine .imp (fun db₂ loaded hloaded => ?_)
    (loadApplication_reaches htrans applicationId (hrefl db₁))
  refine .bind (.lift fun r hr => .bind (.lift fun signature hsignature =>
    .bind (.lift fun _ hassert => ?_)))
  refine .send fun m db₃ h₃ _ => ⟨?_, fun _ => trivial⟩
  obtain ⟨huser, hsome⟩ := KycService.openReview_eq_ok hr
  obtain ⟨hreviewer, hread⟩ := hloaded
  have hread := hread _ hsome
  obtain ⟨d, hd, hId, happlication⟩ := hread.application
  obtain ⟨d', hd', hId', hsession⟩ := hread.session r.session rfl
  refine ⟨⟨db₁, htrans _ _ _ hreviewer h₃, hI₁, ?_⟩,
    ⟨d, htrans _ _ _ hd h₃, hId, happlication⟩, ⟨d', htrans _ _ _ hd' h₃, hId', hsession⟩,
    hsignature, hassert⟩
  rw [Table.find?_key huser]
  exact huser

theorem rejectApplication_reaches (applicationId adminId reason : String) (db : Database) :
    (rejectApplication applicationId adminId reason).Reaches R I (KycWrite.Reviewed R I)
      (fun _ _ => True) db := by
  have hload (db : Database) : (loadApplication applicationId).Reaches R I
      (KycWrite.Reviewed R I) (fun _ _ => True) db := by
    refine .bind (.select fun _ db₁ _ _ => ?_)
    cases db₁.kycApplications.find? applicationId with
    | none => exact .pure trivial
    | some application => exact .bind (.select fun _ _ _ _ => .bind (.select fun _ _ _ _ =>
        .bind (.select fun _ _ _ _ => .pure trivial)))
  refine .bind (.select fun _ db₁ _ _ => .bind (.lift fun admin _ => .bind ?_))
  refine .imp (fun _ _ _ => .bind (.lift fun l _ => .bind (.select fun _ _ _ _ =>
    .bind (.lift fun _ _ => ?_)))) (hload db₁)
  exact .send fun _ _ _ _ => ⟨trivial, fun _ => trivial⟩

theorem expireStaleOnboardingSessions_reaches (batchSize : ℕ) (db : Database) :
    (expireStaleOnboardingSessions batchSize).Reaches R I (KycWrite.Reviewed R I)
      (fun _ _ => True) db := by
  refine .bind (.select fun m db₁ _ _ => .bind (.send fun _ db₂ _ _ => ⟨trivial, fun claimed => ?_⟩))
  by_cases hclaimed : claimed = 0
  · simp only [hclaimed, if_true]
    exact .pure trivial
  · simp only [hclaimed, if_false]
    refine .bind (.select fun _ _ _ _ => .bind (.select fun _ db₃ _ _ => .bind (.imp
      (fun _ _ _ => .pure trivial) (.forM (fun stale _ db₄ => ?_) db₃))))
    exact .send fun _ _ _ _ => ⟨trivial, fun _ => trivial⟩

theorem autoRejectStale_reaches (db : Database) :
    autoRejectStale.Reaches R I (KycWrite.Reviewed R I) (fun _ _ => True) db := by
  refine .bind (.select fun _ _ _ _ => .bind (.select fun _ db₁ _ _ => .forM (fun _ _ _ => ?_) db₁))
  exact .send fun _ _ _ _ => ⟨trivial, fun _ => trivial⟩

end KycProgram

theorem KycOperation.reaches {R : Database → Database → Prop} {I : Database → Prop}
    (htrans : ∀ a b c, R a b → R b c → R a c) (hrefl : ∀ db, R db db)
    (operation : KycOperation) (db : Database) :
    operation.program.Reaches R I (KycWrite.Reviewed R I) (fun _ _ => True) db := by
  cases operation with
  | approve applicationId reviewerId =>
    exact .discard (KycProgram.approveApplication_reaches htrans hrefl applicationId reviewerId db)
  | reject applicationId adminId reason =>
    exact KycProgram.rejectApplication_reaches applicationId adminId reason db
  | expireStaleOnboardingSessions batchSize =>
    exact .discard (KycProgram.expireStaleOnboardingSessions_reaches batchSize db)
  | autoRejectStale => exact KycProgram.autoRejectStale_reaches db

section interleaving
variable {ι : Type} {R : Database → Database → Prop} {I : Database → Prop}

/-- Every thread that is going to send a review has read it in states of `I`. -/
def KycThreads.Reviewed (R : Database → Database → Prop) (I : Database → Prop)
    (c : KycThreads ι) : Prop :=
  ∀ i, (c.threads i).Outline KycWrite.execute R (fun db _ => I db) (KycWrite.Reviewed R I)
    (fun _ _ => True) c.shared

theorem reviewed_launchKyc (htrans : ∀ a b c, R a b → R b c → R a c) (hrefl : ∀ db, R db db)
    (operations : ι → KycOperation) (db : Database) : (launchKyc operations db).Reviewed R I :=
  fun i => Program.Outline.imp (fun _ _ _ => trivial) ((operations i).reaches htrans hrefl db)

theorem KycThreads.Reviewed.pending {c : KycThreads ι} (h : c.Reviewed R I)
    (hrefl : ∀ db, R db db) (hI : I c.shared) (l : ι × KycMoment) :
    ∀ w ∈ (c.threads l.1).pending, w.Reviewed R I c.shared :=
  (h l.1).pending hrefl hI l.2

variable [DecidableEq ι]

theorem KycThreads.Reviewed.step {c : KycThreads ι} (h : c.Reviewed R I)
    (htrans : ∀ a b c, R a b → R b c → R a c) (hrefl : ∀ db, R db db) (hI : I c.shared)
    {l : ι × KycMoment} (hR : R c.shared (performKyc c l).shared) :
    (performKyc c l).Reviewed R I :=
  perform_outline (C := fun _ db _ => I db) (A := fun _ => KycWrite.Reviewed R I)
    (Q := fun _ _ _ => True) hrefl (htrans _ _ _) (fun _ {_ _ _} _ h => h) hI hR h

end interleaving
end InstalFlow
