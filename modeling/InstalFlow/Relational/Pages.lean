import Mathlib.Algebra.GroupWithZero.Nat
import Mathlib.Algebra.Order.BigOperators.Group.List
import Mathlib.Data.List.Flatten
import Mathlib.Data.List.Nodup
import Mathlib.Data.List.Perm.Subperm
import Mathlib.Data.List.Range
import Mathlib.Data.List.Sort

/-!
# Pages of sorted rows

A page is a slice of the sorted rows, and the pages one after the other are the rows. Sorting
what a page was made of gives the page again. Where several sources are cut off before they are
merged, the first rows are still those of the whole.
-/

namespace Relational
variable {ρ : Type*} {rows few all : List ρ} {r : ρ} {n page limit : ℕ}

/-- A page of the rows, the first page being 1 -/
def slice (page limit : ℕ) (rows : List ρ) : List ρ := (rows.drop ((page - 1) * limit)).take limit

theorem slice_succ (n limit : ℕ) (rows : List ρ) :
    slice (n + 1) limit rows = (rows.drop (n * limit)).take limit := rfl

theorem slice_sublist : List.Sublist (slice page limit rows) rows :=
  (List.take_sublist _ _).trans (List.drop_sublist _ _)

theorem take_append_slice (n limit : ℕ) (rows : List ρ) :
    rows.take (n * limit) ++ slice (n + 1) limit rows = rows.take ((n + 1) * limit) := by
  rw [slice_succ, Nat.succ_mul, List.take_add]

/-- A list parted at one of its rows -/
theorem take_append_cons_drop (h : n < rows.length) :
    rows.take n ++ rows[n] :: rows.drop (n + 1) = rows := by
  rw [← List.drop_eq_getElem_cons h, List.take_append_drop]

/-- A page is found in the rows up to its end. -/
theorem slice_take (hpage : 0 < page) :
    slice page limit (rows.take (page * limit)) = slice page limit rows := by
  obtain ⟨n, rfl⟩ : ∃ n, page = n + 1 := ⟨page - 1, (Nat.succ_pred_eq_of_pos hpage).symm⟩
  rw [slice_succ, slice_succ, Nat.succ_mul, List.drop_take, Nat.add_sub_cancel_left, List.take_take,
    min_self]

/-- The first pages, one after the other -/
theorem flatMap_slice (n limit : ℕ) (rows : List ρ) :
    ((List.range n).flatMap fun i => slice (i + 1) limit rows) = rows.take (n * limit) := by
  induction n with
  | zero => rw [Nat.zero_mul, List.range_zero, List.flatMap_nil, List.take_zero]
  | succ n ih =>
    rw [List.range_succ, List.flatMap_append, ih, List.flatMap_singleton, take_append_slice]

theorem length_slice (page limit : ℕ) (rows : List ρ) :
    (slice page limit rows).length = min limit (rows.length - (page - 1) * limit) := by
  rw [slice, List.length_take, List.length_drop]

/-- A page that is followed by a row is full. -/
theorem length_slice_of_lt (h : (n + 1) * limit < rows.length) :
    (slice (n + 1) limit rows).length = limit := by
  rw [Nat.succ_mul] at h
  rw [length_slice, Nat.add_sub_cancel]
  omega

/-- How many pages the rows fill, counted up -/
theorem le_pages_mul (total : ℕ) (hlimit : 0 < limit) :
    total ≤ (total + limit - 1) / limit * limit := by
  have hrest := Nat.mod_lt (total + limit - 1) hlimit
  have hdiv := Nat.div_add_mod' (total + limit - 1) limit
  omega

theorem mem_iff_exists_slice (hlimit : 0 < limit) :
    r ∈ rows ↔ ∃ page > 0, r ∈ slice page limit rows := by
  constructor
  · intro hr
    rw [← List.take_of_length_le (le_pages_mul rows.length hlimit), ← flatMap_slice] at hr
    obtain ⟨n, -, hr⟩ := List.mem_flatMap.mp hr
    exact ⟨n + 1, n.succ_pos, hr⟩
  · rintro ⟨page, -, hr⟩
    exact slice_sublist.subset hr

theorem mul_lt_of_lt_pages {total : ℕ} (hlimit : 0 < limit)
    (h : page + 1 ≤ (total + limit - 1) / limit) : page * limit < total := by
  have hle := (Nat.mul_le_mul_right limit h).trans (Nat.div_mul_le_self (total + limit - 1) limit)
  rw [Nat.succ_mul] at hle
  omega

section sorting
variable {R : ρ → ρ → Prop} [DecidableRel R] [Std.Total R] [IsTrans ρ R]

/-- Rows that are put in order are the ordered rows they come from. -/
theorem insertionSort_eq_of_perm (hanti : ∀ r ∈ all, ∀ s ∈ all, R r s → R s r → r = s)
    (hperm : rows.Perm all) (hall : all.Pairwise R) : rows.insertionSort R = all := by
  have hsorted : (rows.insertionSort R).Perm all := (List.perm_insertionSort R rows).trans hperm
  exact List.Perm.eq_of_pairwise (fun r s hr hs => hanti r (hsorted.mem_iff.mp hr) s hs)
    (List.pairwise_insertionSort R rows) hall hsorted

/-- Fewer rows stand in the order in which they stand among all. -/
theorem insertionSort_sublist (hanti : ∀ r ∈ all, ∀ s ∈ all, R r s → R s r → r = s)
    (hfew : few.Subperm all) :
    List.Sublist (few.insertionSort R) (all.insertionSort R) := by
  obtain ⟨found, hperm, hsub⟩ := hfew.trans (List.perm_insertionSort R all).symm.subperm
  have hmem {r : ρ} (hr : r ∈ found) : r ∈ all := (List.mem_insertionSort R).mp (hsub.subset hr)
  have hfound := (List.pairwise_insertionSort R all).sublist hsub
  rw [insertionSort_eq_of_perm (fun r hr s hs => hanti r (hmem hr) s (hmem hs)) hperm.symm hfound]
  exact hsub

omit [IsTrans ρ R] in
/-- The rows from one of them on, in a sorted list -/
theorem filter_of_sorted {before after : List ρ} (hnodup : (before ++ r :: after).Nodup)
    (hanti : ∀ s ∈ before, R s r → R r s → s = r) (hsorted : (before ++ r :: after).Pairwise R) :
    (before ++ r :: after).filter (R r ·) = r :: after := by
  obtain ⟨-, hafter, hbefore⟩ := List.pairwise_append.mp hsorted
  have hnone : before.filter (R r ·) = [] := by
    refine List.filter_eq_nil_iff.mpr fun s hs hr => ?_
    obtain rfl := hanti s hs (hbefore s hs r List.mem_cons_self) (of_decide_eq_true hr)
    exact (List.nodup_append.mp hnodup).2.2 s hs s List.mem_cons_self rfl
  have hall : (r :: after).filter (R r ·) = r :: after := by
    refine List.filter_eq_self.mpr fun s hs => decide_eq_true ?_
    rcases List.mem_cons.mp hs with rfl | hs
    · exact (Std.Total.total (r := R) s s).elim id id
    · exact (List.pairwise_cons.mp hafter).1 s hs
  rw [List.filter_append, hnone, hall, List.nil_append]

end sorting

section cut

/-- Among fewer rows a row stands no later than among all. -/
theorem mem_take_of_sublist (hsub : List.Sublist few all) (hnodup : all.Nodup) (hr : r ∈ few)
    (hfirst : r ∈ all.take n) : r ∈ few.take n := by
  induction hsub generalizing n with
  | slnil => cases hr
  | cons a hsub ih =>
    obtain ⟨ha, hnodup⟩ := List.nodup_cons.mp hnodup
    cases n with
    | zero => cases hfirst
    | succ n =>
      rcases List.mem_cons.mp hfirst with rfl | hfirst
      · exact absurd (hsub.subset hr) ha
      · exact List.take_subset_take_left _ n.le_succ (ih hnodup hr hfirst)
  | cons_cons a hsub ih =>
    obtain ⟨ha, hnodup⟩ := List.nodup_cons.mp hnodup
    cases n with
    | zero => cases hfirst
    | succ n =>
      rcases List.mem_cons.mp hfirst with rfl | hfirst
      · exact List.mem_cons_self
      · rcases List.mem_cons.mp hr with rfl | hr
        · exact List.mem_cons_self
        · exact List.mem_cons_of_mem _ (ih hnodup hr hfirst)

/-- The first rows are found without the rest. -/
theorem take_eq_take_of_sublist (hsub : List.Sublist few all) (hnodup : all.Nodup)
    (hfirst : ∀ r ∈ all.take n, r ∈ few) : few.take n = all.take n := by
  induction hsub generalizing n with
  | slnil => rfl
  | cons a hsub ih =>
    obtain ⟨ha, hnodup⟩ := List.nodup_cons.mp hnodup
    cases n with
    | zero => rfl
    | succ n => exact absurd (hsub.subset (hfirst a List.mem_cons_self)) ha
  | cons_cons a hsub ih =>
    obtain ⟨ha, hnodup⟩ := List.nodup_cons.mp hnodup
    cases n with
    | zero => rfl
    | succ n =>
      refine congrArg (a :: ·) (ih hnodup fun r hr => ?_)
      rcases List.mem_cons.mp (hfirst r (List.mem_cons_of_mem a hr)) with rfl | hmem
      · exact absurd (List.mem_of_mem_take hr) ha
      · exact hmem

end cut

section merge
variable {R : ρ → ρ → Prop} [DecidableRel R] [Std.Total R] [IsTrans ρ R]
  {sources : List (List ρ)}

/-- The first rows of each source, in order -/
def cutOff (R : ρ → ρ → Prop) [DecidableRel R] (n : ℕ) (sources : List (List ρ)) : List ρ :=
  (sources.map fun rows => (rows.insertionSort R).take n).flatten

omit [Std.Total R] [IsTrans ρ R] in
theorem cutOff_subperm (n : ℕ) (sources : List (List ρ)) :
    (cutOff R n sources).Subperm sources.flatten := by
  induction sources with
  | nil => exact List.Subperm.refl _
  | cons rows sources ih =>
    have hrows : ((rows.insertionSort R).take n).Subperm rows :=
      (List.take_sublist _ _).subperm.trans (List.perm_insertionSort R rows).subperm
    exact List.Subperm.append hrows ih

/-- The first of the merged rows are the first of all, however the sources are cut off. -/
theorem take_insertionSort_cutOff
    (hanti : ∀ r ∈ sources.flatten, ∀ s ∈ sources.flatten, R r s → R s r → r = s)
    (hnodup : sources.flatten.Nodup) :
    ((cutOff R n sources).insertionSort R).take n = (sources.flatten.insertionSort R).take n := by
  have hall : (sources.flatten.insertionSort R).Nodup :=
    (List.perm_insertionSort R _).nodup_iff.mpr hnodup
  refine take_eq_take_of_sublist (insertionSort_sublist hanti (cutOff_subperm n sources)) hall ?_
  intro r hr
  obtain ⟨rows, hrows, hmem⟩ :=
    List.mem_flatten.mp ((List.mem_insertionSort R).mp (List.mem_of_mem_take hr))
  have hsub := insertionSort_sublist hanti (List.sublist_flatten_of_mem hrows).subperm
  refine (List.mem_insertionSort R).mpr (List.mem_flatten.mpr ⟨_, List.mem_map_of_mem hrows, ?_⟩)
  exact mem_take_of_sublist hsub hall ((List.mem_insertionSort R).mpr hmem) hr

omit [Std.Total R] [IsTrans ρ R] in
theorem length_cutOff (n : ℕ) (sources : List (List ρ)) :
    (cutOff R n sources).length = ((sources.map List.length).map (min n)).sum := by
  induction sources with
  | nil => rfl
  | cons rows sources ih =>
    rw [cutOff, List.map_cons, List.flatten_cons, List.length_append, List.length_take,
      List.length_insertionSort]
    exact congrArg (min n rows.length + ·) ih

end merge

section counts
variable {counts : List ℕ}

theorem sum_map_min_le (n : ℕ) (counts : List ℕ) : (counts.map (min n)).sum ≤ counts.sum := by
  induction counts with
  | nil => exact Nat.le_refl _
  | cons c counts ih => exact Nat.add_le_add (min_le_right n c) ih

theorem sum_map_min_of_le (h : ∀ c ∈ counts, c ≤ n) : (counts.map (min n)).sum = counts.sum := by
  rw [List.map_congr_left fun c hc => min_eq_right (h c hc), List.map_id']

theorem sum_map_min_pos (hn : 0 < n) (h : 0 < counts.sum) : 0 < (counts.map (min n)).sum := by
  obtain ⟨c, hc, hpos⟩ := List.sum_pos_iff_exists_pos_nat.mp h
  exact List.sum_pos_iff_exists_pos_nat.mpr
    ⟨min n c, List.mem_map_of_mem hc, lt_min hn hpos⟩

/-- Cutting each count off at a bound leaves more than the bound, unless one count is the sum. -/
theorem lt_sum_map_min_iff (hn : 0 < n) : n < (counts.map (min n)).sum ↔
    n < counts.sum ∧ ∀ c ∈ counts, n < c → c < counts.sum := by
  have hsplit {c : ℕ} (hc : c ∈ counts) : counts.sum = c + (counts.erase c).sum ∧
      (counts.map (min n)).sum = min n c + ((counts.erase c).map (min n)).sum := by
    have hperm := List.perm_cons_erase hc
    rw [hperm.sum_eq, (hperm.map (min n)).sum_eq, List.map_cons, List.sum_cons, List.sum_cons]
    exact ⟨rfl, rfl⟩
  constructor
  · intro h
    refine ⟨h.trans_le (sum_map_min_le n counts), fun c hc hlarge => ?_⟩
    obtain ⟨hsum, hcut⟩ := hsplit hc
    have hrest := sum_map_min_le n (counts.erase c)
    omega
  · rintro ⟨h, hlarge⟩
    by_cases hall : ∀ c ∈ counts, c ≤ n
    · rw [sum_map_min_of_le hall]
      exact h
    · obtain ⟨c, hc, hlt⟩ : ∃ c ∈ counts, n < c := by
        by_contra hnone
        exact hall fun c hc => not_lt.mp fun hlt => hnone ⟨c, hc, hlt⟩
      obtain ⟨hsum, hcut⟩ := hsplit hc
      have hless := hlarge c hc hlt
      have hrest := sum_map_min_pos hn (show 0 < (counts.erase c).sum by omega)
      omega

end counts
end Relational
