import Mathlib.Data.List.Sort

/-!
# The latest row

`findFirst` with a descending order: of the rows whose value is greatest, the first.
-/

namespace Relational
variable {ρ β : Type*} [LinearOrder β] {f : ρ → β} {rows : List ρ} {r s t : ρ}

def latestBy (f : ρ → β) (rows : List ρ) : Option ρ :=
  (rows.insertionSort (fun r s => f s ≤ f r)).head?

/-- Of two rows the first, unless the second is greater. -/
def later (f : ρ → β) (r s : ρ) : ρ := if f s ≤ f r then r else s

theorem later_assoc : later f r (later f s t) = later f (later f r s) t := by
  by_cases hts : f t ≤ f s <;> by_cases hsr : f s ≤ f r
  · simp [later, hts, hsr, hts.trans hsr]
  · simp [later, hts, hsr]
  · simp [later, hts, hsr]
  · have hlt : f r < f t := (not_le.mp hsr).trans (not_le.mp hts)
    simp [later, hts, hsr, hlt]

theorem latestBy_eq_none : latestBy f rows = none ↔ rows = [] := by
  rw [latestBy, List.head?_eq_none_iff, ← List.length_eq_zero_iff, List.length_insertionSort,
    List.length_eq_zero_iff]

theorem mem_of_latestBy (h : latestBy f rows = some r) : r ∈ rows :=
  (List.mem_insertionSort _).mp (List.mem_of_head? h)

theorem latestBy_cons (r : ρ) (rows : List ρ) :
    latestBy f (r :: rows) = some ((latestBy f rows).elim r (later f r)) := by
  rw [latestBy, latestBy, List.insertionSort_cons]
  cases rows.insertionSort (fun r s => f s ≤ f r) with
  | nil => rfl
  | cons s sorted =>
    rw [List.orderedInsert_cons, List.head?_cons, Option.elim_some, later]
    split <;> rfl

/-- A row that is appended is the latest when it is greater than the latest before. -/
theorem latestBy_append (rows : List ρ) (t : ρ) :
    latestBy f (rows ++ [t]) = some ((latestBy f rows).elim t fun s => later f s t) := by
  induction rows with
  | nil => rfl
  | cons r rows ih =>
    rw [List.cons_append, latestBy_cons, ih, latestBy_cons]
    cases latestBy f rows with
    | none => rfl
    | some s => exact congrArg some later_assoc

/-- What changes rows, but none of their values, changes the latest row in its place. -/
theorem latestBy_map {g : ρ → ρ} (hg : ∀ r, f (g r) = f r) (rows : List ρ) :
    latestBy f (rows.map g) = (latestBy f rows).map g := by
  induction rows with
  | nil => rfl
  | cons r rows ih =>
    rw [List.map_cons, latestBy_cons, latestBy_cons, ih]
    cases latestBy f rows with
    | none => rfl
    | some s =>
      simp only [Option.map_some, Option.elim_some, later, hg]
      split <;> rfl

end Relational
