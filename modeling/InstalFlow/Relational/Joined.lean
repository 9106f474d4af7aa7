import InstalFlow.Relational.Table

/-!
# Aggregates over joined rows

The rows that refer to a table by its key are aggregated for the rows that they refer to, and
aggregates over one table are compared row by row.
-/

namespace Relational.Table
variable {κ ρ σ M : Type*} {key : ρ → κ} [DecidableEq κ] [AddCommMonoid M]

theorem sum_map_key {rows : List ρ} (hunique : (rows.map key).Nodup) (k : κ) (f : ρ → M) :
    (rows.map fun r => if key r = k then f r else 0).sum =
      ((rows.find? fun r => key r = k).map f).getD 0 := by
  induction rows with
  | nil => rfl
  | cons r rows ih =>
    obtain ⟨hfirst, hrest⟩ := List.nodup_cons.mp hunique
    rw [List.map_cons, List.sum_cons, List.find?_cons]
    by_cases hk : key r = k
    · have hzero : (rows.map fun s => if key s = k then f s else 0).sum = 0 := by
        refine List.sum_eq_zero fun m hm => ?_
        obtain ⟨s, hs, rfl⟩ := List.mem_map.mp hm
        exact if_neg fun he => hfirst (List.mem_map.mpr ⟨s, hs, he.trans hk.symm⟩)
      rw [hzero, if_pos hk, decide_eq_true hk, add_zero]
      rfl
    · rw [if_neg hk, decide_eq_false hk, zero_add]
      exact ih hrest

/-- What one row with the key contributes -/
theorem sumWhere_key (t : Table key) (k : κ) (p : ρ → Bool) (m : M) :
    t.sumWhere p (fun r => if key r = k then m else 0) = if (t.find? k).any p then m else 0 := by
  have hswap : t.rows.map (term p fun r => if key r = k then m else 0) =
      t.rows.map fun r => if key r = k then (if p r then m else 0) else 0 := by
    refine List.map_congr_left fun r _ => ?_
    rw [term]
    split <;> split <;> rfl
  rw [sumWhere_eq_sum_term, hswap, sum_map_key t.unique, find?]
  cases t.rows.find? fun r => key r = k with
  | none => rfl
  | some r => rfl

omit [DecidableEq κ] in
theorem sumWhere_add (t : Table key) (p : ρ → Bool) (v w : ρ → M) :
    t.sumWhere p (fun r => v r + w r) = t.sumWhere p v + t.sumWhere p w :=
  List.sum_map_add

omit [DecidableEq κ] in
/-- An aggregate that is two others in each row -/
theorem sumWhere_split {t : Table key} {p q s : ρ → Bool} {u v w : ρ → M}
    (h : ∀ r ∈ t.rows, term p u r = term q v r + term s w r) :
    t.sumWhere p u = t.sumWhere q v + t.sumWhere s w := by
  rw [sumWhere_eq_sum_term, sumWhere_eq_sum_term, sumWhere_eq_sum_term, ← List.sum_map_add]
  exact congrArg List.sum (List.map_congr_left h)

omit [DecidableEq κ] in
/-- An aggregate to which no row contributes less than zero -/
theorem sumWhere_eq_zero_iff [PartialOrder M] [IsOrderedAddMonoid M] {t : Table key}
    {p : ρ → Bool} {w : ρ → M} (h : ∀ r ∈ t.rows, p r = true → 0 ≤ w r) :
    t.sumWhere p w = 0 ↔ ∀ r ∈ t.rows, p r = true → w r = 0 := by
  constructor
  · intro hzero r hr hp
    refine List.all_zero_of_le_zero_le_of_sum_eq_zero (fun m hm => ?_) hzero
      (List.mem_map_of_mem (List.mem_filter.mpr ⟨hr, hp⟩))
    obtain ⟨s, hs, rfl⟩ := List.mem_map.mp hm
    obtain ⟨hmem, hs⟩ := List.mem_filter.mp hs
    exact h s hmem hs
  · intro hall
    refine List.sum_eq_zero fun m hm => ?_
    obtain ⟨s, hs, rfl⟩ := List.mem_map.mp hm
    obtain ⟨hmem, hs⟩ := List.mem_filter.mp hs
    exact hall s hmem hs

/-- An aggregate of rows by what they refer to is one of the rows referred to. -/
theorem sumWhere_join (t : Table key) (rows : List σ) (fk : σ → κ) (p : ρ → Bool) (w : σ → M) :
    ((rows.filter fun s => (t.find? (fk s)).any p).map w).sum =
      t.sumWhere p fun r => ((rows.filter fun s => fk s = key r).map w).sum := by
  induction rows with
  | nil => exact (List.sum_eq_zero (by simp)).symm
  | cons s rows ih =>
    have hhead : (fun r => (((s :: rows).filter fun s => fk s = key r).map w).sum) = fun r =>
        (if key r = fk s then w s else 0) + ((rows.filter fun s => fk s = key r).map w).sum := by
      funext r
      rw [List.filter_cons]
      by_cases hk : fk s = key r
      · rw [if_pos (decide_eq_true hk), if_pos hk.symm, List.map_cons, List.sum_cons]
      · rw [if_neg fun he => hk (of_decide_eq_true he), if_neg fun he => hk he.symm, zero_add]
    rw [hhead, sumWhere_add, sumWhere_key, ← ih, List.filter_cons]
    split
    · rw [List.map_cons, List.sum_cons]
    · rw [zero_add]

end Relational.Table
