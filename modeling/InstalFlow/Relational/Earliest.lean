import Mathlib.Data.List.Induction
import Mathlib.Data.List.Sort

/-!
# The earliest row

`findFirst` with an ascending order, the `find` of a sorted list and the minimum of a group
name one row where no two rows have one value. A `Map` that is made of entries answers with
the last one under a key.
-/

namespace Relational
variable {ρ β : Type*} [LinearOrder β] {f : ρ → β} {p : ρ → Bool} {rows : List ρ} {r s : ρ}

def earliestBy (f : ρ → β) (rows : List ρ) : Option ρ :=
  (rows.insertionSort (fun r s => f r ≤ f s)).head?

/-- No two rows have one value. -/
def Distinct (f : ρ → β) (rows : List ρ) : Prop := ∀ r ∈ rows, ∀ s ∈ rows, f r = f s → r = s

theorem earliestBy_eq_none : earliestBy f rows = none ↔ rows = [] := by
  rw [earliestBy, List.head?_eq_none_iff, ← List.length_eq_zero_iff, List.length_insertionSort,
    List.length_eq_zero_iff]

theorem mem_of_earliestBy (h : earliestBy f rows = some r) : r ∈ rows :=
  (List.mem_insertionSort _).mp (List.mem_of_head? h)

theorem pairwise_sorted (f : ρ → β) (rows : List ρ) :
    (rows.insertionSort fun r s => f r ≤ f s).Pairwise fun r s => f r ≤ f s := by
  have : Std.Total fun r s : ρ => f r ≤ f s := ⟨fun r s => le_total (f r) (f s)⟩
  have : IsTrans ρ fun r s => f r ≤ f s := ⟨fun _ _ _ => le_trans⟩
  exact List.pairwise_insertionSort _ _

theorem earliestBy_le (h : earliestBy f rows = some r) (hs : s ∈ rows) : f r ≤ f s := by
  have hsorted := pairwise_sorted f rows
  have hmem := (List.mem_insertionSort fun r s => f r ≤ f s).mpr hs
  rw [earliestBy] at h
  cases hrows : rows.insertionSort fun r s => f r ≤ f s with
  | nil =>
    rw [hrows] at h
    cases h
  | cons first rest =>
    rw [hrows] at h hsorted hmem
    cases h
    rcases List.mem_cons.mp hmem with rfl | hmem
    · exact le_rfl
    · exact (List.pairwise_cons.mp hsorted).1 s hmem

theorem earliestBy_eq_some_iff (hdistinct : Distinct f rows) :
    earliestBy f rows = some r ↔ r ∈ rows ∧ ∀ s ∈ rows, f r ≤ f s := by
  refine ⟨fun h => ⟨mem_of_earliestBy h, fun s => earliestBy_le h⟩, fun h => ?_⟩
  cases hfirst : earliestBy f rows with
  | none =>
    rw [earliestBy_eq_none.mp hfirst] at h
    cases h.1
  | some first =>
    have hmem := mem_of_earliestBy hfirst
    exact congrArg some (hdistinct first hmem r h.1 (le_antisymm (earliestBy_le hfirst h.1)
      (h.2 first hmem)))

/-- The order in which the rows come does not matter. -/
theorem earliestBy_perm {rows' : List ρ} (hdistinct : Distinct f rows) (h : rows'.Perm rows) :
    earliestBy f rows' = earliestBy f rows := by
  have hdistinct' : Distinct f rows' := fun r hr s hs =>
    hdistinct r (h.mem_iff.mp hr) s (h.mem_iff.mp hs)
  refine Option.ext fun r => ?_
  rw [earliestBy_eq_some_iff hdistinct', earliestBy_eq_some_iff hdistinct]
  simp only [h.mem_iff]

/-- `find` in the sorted rows -/
theorem find?_sorted (hdistinct : Distinct f rows) :
    (rows.insertionSort fun r s => f r ≤ f s).find? p = earliestBy f (rows.filter p) := by
  have hfiltered : Distinct f (rows.filter p) := fun r hr s hs =>
    hdistinct r (List.mem_of_mem_filter hr) s (List.mem_of_mem_filter hs)
  cases hfind : (rows.insertionSort fun r s => f r ≤ f s).find? p with
  | none =>
    refine (earliestBy_eq_none.mpr (List.filter_eq_nil_iff.mpr fun r hr => ?_)).symm
    exact List.find?_eq_none.mp hfind r ((List.mem_insertionSort _).mpr hr)
  | some first =>
    refine ((earliestBy_eq_some_iff hfiltered).mpr ⟨?_, fun s hs => ?_⟩).symm
    · exact List.mem_filter.mpr ⟨(List.mem_insertionSort _).mp (List.mem_of_find?_eq_some hfind),
        List.find?_some hfind⟩
    · obtain ⟨-, before, after, hrows, hbefore⟩ := List.find?_eq_some_iff_append.mp hfind
      have hmem := (List.mem_insertionSort fun r s => f r ≤ f s).mpr (List.mem_of_mem_filter hs)
      have hsorted := pairwise_sorted f rows
      rw [hrows] at hmem hsorted
      rcases List.mem_append.mp hmem with hmem | hmem
      · have hnot := hbefore s hmem
        rw [(List.mem_filter.mp hs).2] at hnot
        cases hnot
      · rcases List.mem_cons.mp hmem with rfl | hmem
        · exact le_rfl
        · exact (List.pairwise_cons.mp (List.pairwise_append.mp hsorted).2.1).1 s hmem

/-- The least value is that of the earliest row. -/
theorem min?_map_eq (f : ρ → ℕ) (rows : List ρ) :
    (rows.map f).min? = (earliestBy f rows).map f := by
  cases hfirst : earliestBy f rows with
  | none =>
    rw [earliestBy_eq_none.mp hfirst]
    rfl
  | some first =>
    refine List.min?_eq_some_iff.mpr ⟨List.mem_map_of_mem (mem_of_earliestBy hfirst), ?_⟩
    intro b hb
    obtain ⟨s, hs, rfl⟩ := List.mem_map.mp hb
    exact earliestBy_le hfirst hs

section map
variable {κ γ : Type*} [DecidableEq κ] {entries : List (κ × γ)} {k : κ} {c : γ}

/-- `new Map(entries)` -/
def mapOf (entries : List (κ × γ)) : κ → Option γ :=
  entries.foldl (fun m e => Function.update m e.1 (some e.2)) fun _ => none

theorem mapOf_append_singleton (entries : List (κ × γ)) (e : κ × γ) :
    mapOf (entries ++ [e]) = Function.update (mapOf entries) e.1 (some e.2) :=
  List.foldl_append

theorem mapOf_eq_none (h : ∀ e ∈ entries, e.1 ≠ k) : mapOf entries k = none := by
  induction entries using List.reverseRecOn with
  | nil => rfl
  | append_singleton entries e ih =>
    rw [mapOf_append_singleton, Function.update_of_ne]
    · exact ih fun e he => h e (List.mem_append_left _ he)
    · exact (h e (List.mem_append_right _ (List.mem_singleton_self e))).symm

theorem mapOf_eq_some (hmem : (k, c) ∈ entries) (h : ∀ e ∈ entries, e.1 = k → e.2 = c) :
    mapOf entries k = some c := by
  induction entries using List.reverseRecOn with
  | nil => cases hmem
  | append_singleton entries e ih =>
    rw [mapOf_append_singleton]
    by_cases hk : e.1 = k
    · rw [← hk, Function.update_self, h e (List.mem_append_right _ (List.mem_singleton_self e)) hk]
    · rw [Function.update_of_ne fun he => hk he.symm]
      refine ih ?_ fun e he => h e (List.mem_append_left _ he)
      rcases List.mem_append.mp hmem with hmem | hmem
      · exact hmem
      · rw [List.mem_singleton] at hmem
        exact absurd (congrArg Prod.fst hmem).symm hk

/-- A `Map` from the rows of a list to their places -/
theorem mapOf_zipIdx {keys : List κ} (hkeys : keys.Nodup) {i : ℕ} (hi : i < keys.length) :
    mapOf keys.zipIdx keys[i] = some i := by
  refine mapOf_eq_some (List.mk_mem_zipIdx_iff_getElem?.mpr (List.getElem?_eq_getElem hi)) ?_
  rintro ⟨key, j⟩ he rfl
  obtain ⟨hj, heq⟩ := List.getElem?_eq_some_iff.mp (List.mk_mem_zipIdx_iff_getElem?.mp he)
  exact (List.Nodup.getElem_inj_iff hkeys).mp heq

end map
end Relational
