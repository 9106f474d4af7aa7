import InstalFlow.CustomerCompany
import InstalFlow.KycOffers
import InstalFlow.ScheduleTotals

/-!
# What a plan costs

A product is shown with the total and the monthly payment of each of its plans. The quote
rounds the quotient of the total; the schedule of a contract rounds the total first, divides it
down and leaves the rest to the last installment.
-/

namespace InstalFlow
open Relational InstallmentService

/-- `Number(x.toFixed(2))` of an amount that is not negative -/
def numberToFixed2 (x : ℚ) : ℚ := (totalInCents x : ℚ) / 100

structure InstallmentBreakdown where
  planId : String
  durationMonths : ℤ
  interestPercentage : ℚ
  basePrice : ℚ
  totalPrice : ℚ
  monthlyPayment : ℚ
  variantId : Option String := none
  sku : Option String := none
deriving DecidableEq

/-- A product as `standardIncludes` loads it, with what its plans cost -/
structure ProductDetails where
  product : Product
  category : Option Category
  variants : List ProductVariant
  installmentPlans : List ProductInstallmentPlan
  installmentBreakdown : List InstallmentBreakdown

namespace ProductService

def includedVariants (productId : String) (db : Database) : List ProductVariant :=
  (db.productVariants.rows.filter fun v => v.productId = productId ∧ v.isActive).insertionSort
    fun v w => v.createdAt ≤ w.createdAt

def includedPlans (productId : String) (db : Database) : List ProductInstallmentPlan :=
  (db.productInstallmentPlans.rows.filter fun p => p.productId = productId ∧ p.active).insertionSort
    fun p q => p.durationMonths ≤ q.durationMonths

def computeBreakdown (basePrice : ℚ) (plan : ProductInstallmentPlan) : InstallmentBreakdown where
  planId := plan.planId
  durationMonths := plan.durationMonths
  interestPercentage := plan.interestPercentage
  basePrice := basePrice
  totalPrice := numberToFixed2 (basePrice * (1 + plan.interestPercentage / 100))
  monthlyPayment :=
    numberToFixed2 (basePrice * (1 + plan.interestPercentage / 100) / plan.durationMonths)

def attachBreakdowns (product : Product) (variants : List ProductVariant)
    (plans : List ProductInstallmentPlan) : List InstallmentBreakdown :=
  if variants.isEmpty then plans.map (computeBreakdown product.price)
  else
    variants.flatMap fun v => plans.map fun p =>
      { computeBreakdown v.price p with variantId := some v.variantId, sku := some v.sku }

def details (db : Database) (product : Product) : ProductDetails :=
  let variants := includedVariants product.productId db
  let installmentPlans := includedPlans product.productId db
  { product, category := db.categories.find? product.categoryId, variants, installmentPlans
    installmentBreakdown := attachBreakdowns product variants installmentPlans }

end ProductService

/-- The rows of a schedule are those of the quote: their sum, and each but the last. -/
structure AsQuoted (b : InstallmentBreakdown) (rows : List Installment) : Prop where
  total : (rows.map Installment.amount).sum = b.totalPrice
  monthly : ∀ r ∈ rows.dropLast, r.amount = b.monthlyPayment

/-- What the equal installments leave of the exact total is less than half a kobo a month, unless
there is one installment only. -/
def DividesDown (total : ℚ) (months : ℤ) : Prop :=
  months = 1 ∨ 2 * (total * 100 - (months * (totalInCents total / months) : ℤ)) < months

instance (b : InstallmentBreakdown) (rows : List Installment) : Decidable (AsQuoted b rows) :=
  decidable_of_iff ((rows.map Installment.amount).sum = b.totalPrice ∧
    ∀ r ∈ rows.dropLast, r.amount = b.monthlyPayment) ⟨fun h => ⟨h.1, h.2⟩, fun h => ⟨h.1, h.2⟩⟩

instance (total : ℚ) (months : ℤ) : Decidable (DividesDown total months) :=
  inferInstanceAs (Decidable (_ ∨ _))

section rounding
variable {total : ℚ} {months : ℤ}

theorem floor_eq_iff_bounds {x : ℚ} {n : ℤ} : x.floor = n ↔ (n : ℚ) ≤ x ∧ x < n + 1 := by
  have hbelow : x < (n : ℚ) + 1 ↔ x.floor ≤ n := by
    rw [← Int.lt_add_one_iff, Rat.floor_lt_iff, Int.cast_add, Int.cast_one]
  rw [← Rat.le_floor_iff, hbelow, le_antisymm_iff, and_comm]

/-- The rounded quotient is the quotient of the rounded total. -/
theorem totalInCents_div_eq_iff (hmonths : 0 < months) :
    totalInCents (total / months) = totalInCents total / months ↔
      2 * (total * 100 - (months * (totalInCents total / months) : ℤ)) < months := by
  have hpos : (0 : ℚ) < months := by exact_mod_cast hmonths
  have hone : (1 : ℚ) ≤ months := by exact_mod_cast hmonths
  have hdown : ((months * (totalInCents total / months) : ℤ) : ℚ) ≤ totalInCents total := by
    exact_mod_cast Int.mul_ediv_self_le hmonths.ne'
  have hround : (totalInCents total : ℚ) ≤ total * 100 + 1 / 2 := Rat.floor_le _
  generalize hq : totalInCents total / months = q at hdown ⊢
  rw [Int.cast_mul] at hdown ⊢
  have hquotient : total / months * 100 = total * 100 / months := by ring
  rw [totalInCents, floor_eq_iff_bounds, hquotient]
  -- the quotient never rounds below, so only the upper bound decides
  have hlower : (q : ℚ) ≤ total * 100 / months + 1 / 2 := by
    rw [← sub_le_iff_le_add, le_div_iff₀ hpos]
    linarith
  rw [and_iff_right hlower, ← lt_sub_iff_add_lt, div_lt_iff₀ hpos]
  constructor
  · intro h
    linarith
  · intro h
    linarith

end rounding

section quotes
variable {b : InstallmentBreakdown} {p : ScheduleParams} {schedule : List InstallmentCreateInput}

theorem numberToFixed2_eq_iff {x : ℚ} {n : ℤ} : (n : ℚ) / 100 = numberToFixed2 x ↔
    totalInCents x = n := by
  rw [numberToFixed2, div_left_inj' (by norm_num), Int.cast_inj, eq_comm]

/-- The rows of a schedule are quoted exactly when the plan divides its total down. -/
theorem asQuoted_schedule_iff (h : generateInstallmentSchedule p = .ok schedule)
    (htotal : b.totalPrice = numberToFixed2 p.totalAmount)
    (hmonthly : b.monthlyPayment = numberToFixed2 (p.totalAmount / p.months))
    (installmentId : ℕ → String) :
    AsQuoted b (schedule.map fun row => row.row (installmentId row.sequence)) ↔
      DividesDown p.totalAmount p.months := by
  have hsum := sum_schedule h
  obtain ⟨hmonths, -, rfl⟩ := generateInstallmentSchedule_eq_ok.mp h
  obtain ⟨n, hn⟩ : ∃ n : ℕ, p.months = n + 1 := ⟨(p.months - 1).toNat, by omega⟩
  have hnat : p.months.toNat = n + 1 := by omega
  have hrows : (((List.range p.months.toNat).map (scheduleRow p)).map fun row =>
      row.row (installmentId row.sequence)).dropLast =
      (List.range n).map fun i => (scheduleRow p i).row (installmentId (i + 1)) := by
    rw [List.map_map, hnat, List.range_succ, List.map_append, List.map_singleton,
      List.dropLast_concat]
    rfl
  have hamount (i : ℕ) (hi : i < n) : (scheduleRow p i).amount =
      ((totalInCents p.totalAmount / p.months : ℤ) : ℚ) / 100 := by
    rw [scheduleRow, hnat, installmentAmountInCents_of_lt (by omega), hn]
    rfl
  rw [DividesDown, ← totalInCents_div_eq_iff hmonths, ← numberToFixed2_eq_iff, ← hmonthly]
  constructor
  · intro hquoted
    rcases Nat.eq_zero_or_pos n with rfl | hpos
    · exact .inl hn
    · right
      rw [← hamount 0 hpos]
      refine hquoted.monthly ((scheduleRow p 0).row (installmentId 1)) ?_
      rw [hrows]
      exact List.mem_map.mpr ⟨0, List.mem_range.mpr hpos, rfl⟩
  · intro hdivides
    refine ⟨?_, fun r hr => ?_⟩
    · rw [List.map_map, htotal, numberToFixed2, ← hsum]
      rfl
    · rw [hrows] at hr
      obtain ⟨i, hi, rfl⟩ := List.mem_map.mp hr
      have hi := List.mem_range.mp hi
      rcases hdivides with hone | hsame
      · omega
      · exact (hamount i hi).trans hsame

end quotes

section charges
variable {db db₁ db₂ db₃ : Database} {product : Product} {b : InstallmentBreakdown}

/-- A quote of a variant is of a stored variant and a stored plan. -/
theorem quote_of_variant {variantId : String}
    (h : b ∈ (ProductService.details db product).installmentBreakdown)
    (hvariant : b.variantId = some variantId) :
    ∃ v plan, db.productVariants.find? variantId = some v ∧
      db.productInstallmentPlans.find? b.planId = some plan ∧ b =
        { ProductService.computeBreakdown v.price plan with
          variantId := some v.variantId, sku := some v.sku } := by
  rw [ProductService.details, ProductService.attachBreakdowns] at h
  have hplans {plan : ProductInstallmentPlan}
      (hplan : plan ∈ ProductService.includedPlans product.productId db) :
      plan ∈ db.productInstallmentPlans.rows :=
    List.mem_of_mem_filter ((List.mem_insertionSort _).mp hplan)
  dsimp only at h
  split at h
  · obtain ⟨plan, -, rfl⟩ := List.mem_map.mp h
    cases hvariant
  · obtain ⟨v, hv, h⟩ := List.mem_flatMap.mp h
    obtain ⟨plan, hplan, rfl⟩ := List.mem_map.mp h
    have hv := List.mem_of_mem_filter ((List.mem_insertionSort _).mp hv)
    have hid : v.variantId = variantId := Option.some.inj hvariant
    exact ⟨v, plan, hid ▸ Table.find?_of_mem hv, Table.find?_of_mem (hplans hplan), rfl⟩

/-- What an approval schedules for an application is what was quoted for its variant and plan,
exactly when the plan divides its total down. -/
theorem charged_as_quoted_iff {storage : Storage} {sessionId reviewerId : String}
    {params : SubmitApplication} {file : UploadedPdfFile} {m m' : KycMoment}
    {application : KycApplication}
    (hquote : b ∈ (ProductService.details db product).installmentBreakdown)
    (hvariant : b.variantId = some params.variantId) (hplan : b.planId = params.installmentPlanId)
    (hsubmit : KycService.submitApplication storage sessionId params file m db =
      .ok (application, db₁))
    (hcontract : KycService.contractOf application.kycApplicationId db₂ =
      db₁.financingContracts.find? m.contractId)
    (happrove : KycService.approveApplication application.kycApplicationId reviewerId m' db₂ =
      .ok (.approved, db₃)) :
    ∃ rows, db₃.installments.rows = db₂.installments.rows ++ rows ∧
      (AsQuoted b rows ↔
        DividesDown (b.basePrice * (1 + b.interestPercentage / 100)) b.durationMonths) := by
  obtain ⟨v, plan, hv, hstored, rfl⟩ := quote_of_variant hquote hvariant
  obtain ⟨_, plan', v', _, _, _, _, -, hoffer, -, -, hcreate, -, rfl⟩ :=
    KycService.submitApplication_eq_ok hsubmit
  obtain ⟨hplan', hv', -⟩ := findOffer_eq_ok hoffer
  have hplan : plan.planId = params.installmentPlanId := hplan
  obtain rfl : v = v' := Option.some.inj (hv.symm.trans hv')
  obtain rfl : plan = plan' :=
    Option.some.inj (hstored.symm.trans ((congrArg _ hplan).trans hplan'))
  obtain ⟨r, contract, -, -, hfound, hactivates⟩ := KycService.approveApplication_approved happrove
  obtain ⟨schedule, hschedule, hrows, -⟩ := hactivates.installments
  obtain rfl : contract = KycService.newContract params plan v m := by
    have hnew := (Table.find?_create hcreate m.contractId).trans (if_pos rfl)
    exact Option.some.inj (hfound.symm.trans (hcontract.trans hnew))
  have htotal : v.price * (1 + plan.interestPercentage / 100) =
      v.price + v.price * (plan.interestPercentage / 100) := by ring
  refine ⟨_, hrows, ?_⟩
  have hquoted := asQuoted_schedule_iff hschedule
    (b := { ProductService.computeBreakdown v.price plan with
      variantId := some v.variantId, sku := some v.sku })
    (congrArg numberToFixed2 htotal)
    (congrArg (fun total : ℚ => numberToFixed2 (total / plan.durationMonths)) htotal)
    m'.installmentId
  rw [hquoted]
  exact iff_of_eq (congrArg (fun total => DividesDown total plan.durationMonths) htotal.symm)

end charges

/-- A stove at 660 with its interest, in six months or in seven -/
def stoveShop : Database where
  users :=
    ⟨[{ userId := "clerk", role := .company, companyId := some "shop" }], List.nodup_singleton _⟩
  onboardingSessions :=
    ⟨[{ sessionId := "visit", name := "Ada", email := "ada@mail", passwordHash := "hash"
        companyId := some "shop", expiresAt := 100 }], by decide⟩
  products := ⟨[{ productId := "stove", companyId := some "shop", status := .published }], by decide⟩
  productVariants :=
    ⟨[{ variantId := "gas", productId := "stove", price := 600, stockQuantity := 2 }], by decide⟩
  productInstallmentPlans :=
    ⟨[{ planId := "six", productId := "stove", durationMonths := 6, interestPercentage := 10 },
      { planId := "seven", productId := "stove", durationMonths := 7, interestPercentage := 10 }],
      by decide⟩

def stoveMoment : KycMoment where
  now := 10
  applicationId := "form"
  contractId := "deed"
  assetId := "scan"
  userId := "ada"
  installmentId := fun n => toString n

def stoveParams (planId : String) : SubmitApplication :=
  ⟨"stove", "gas", planId, "NIN", "12345678901"⟩

def appliedForStove (planId : String) : Except AppError (KycApplication × Database) :=
  KycService.submitApplication ⟨true, fun _ => .error "", fun _ => "sha"⟩ "visit" (stoveParams planId)
    ⟨"bank.pdf", "/tmp/bank.pdf", 1000, "application/pdf"⟩ stoveMoment stoveShop

def stoveApplied (planId : String) : Database :=
  committed stoveShop Prod.snd (appliedForStove planId)

def soldStove (planId : String) : Database :=
  committed (stoveApplied planId) Prod.snd
    (KycService.approveApplication "form" "clerk" stoveMoment (stoveApplied planId))

def stoveQuotes : List InstallmentBreakdown :=
  (ProductService.details stoveShop { productId := "stove" }).installmentBreakdown

/-- Six months at 110 are charged as they are quoted. -/
theorem six_months_as_quoted : ∃ b ∈ stoveQuotes, b.planId = "six" ∧
    AsQuoted b (soldStove "six").installments.rows := by
  let b : InstallmentBreakdown :=
    { planId := "six", durationMonths := 6, interestPercentage := 10, basePrice := 600
      totalPrice := 660, monthlyPayment := 110, variantId := some "gas", sku := some "" }
  have hquote : b ∈ stoveQuotes := by decide +kernel
  obtain ⟨db, happrove⟩ := approves_iff.mp
    (show approves "form" "clerk" stoveMoment (stoveApplied "six") = true by decide +kernel)
  obtain ⟨rows, hrows, hquoted⟩ := charged_as_quoted_iff hquote rfl rfl
    (show appliedForStove "six" = .ok (KycService.newApplication "visit" (stoveParams "six")
      stoveMoment, stoveApplied "six") by rfl) (by rfl) happrove
  have hsold : (soldStove "six").installments.rows = rows := by
    rw [soldStove, happrove, committed_ok]
    exact hrows
  exact ⟨b, hquote, rfl, hsold ▸ hquoted.mpr (by decide +kernel)⟩

/-- Seven months are quoted at 94.29, and charged at 94.28 and 94.32. -/
theorem seven_months_not_as_quoted : ∃ b ∈ stoveQuotes, b.planId = "seven" ∧
    b.variantId = some "gas" ∧ b.monthlyPayment = 94.29 ∧
    (soldStove "seven").installments.rows.map Installment.amount =
      [94.28, 94.28, 94.28, 94.28, 94.28, 94.28, 94.32] ∧
    ¬ AsQuoted b (soldStove "seven").installments.rows := by
  decide +kernel

end InstalFlow
