import InstalFlow.Relational.Pages
import Mathlib.Order.Defs.Unbundled

/-!
# Ordering by a column

A database that orders rows by a column puts rows of one value in any order, and in another one
for the next query. What stands at a place of that column is determined. Pages that are queried
one by one show every row, whatever the orders are, exactly when no value comes twice.
-/

namespace Relational
variable {ρ κ : Type*} {column : ρ → κ} {R : κ → κ → Prop}

/-- An ordering of any rows by a column -/
structure OrderBy (column : ρ → κ) (R : κ → κ → Prop) where
  sort : List ρ → List ρ
  perm : ∀ rows, (sort rows).Perm rows
  sorted : ∀ rows, ((sort rows).map column).Pairwise R

namespace OrderBy
variable {o o' : OrderBy column R} {rows : List ρ} {r s : ρ}

/-- The values of the column, in order -/
def ranking [DecidableRel R] (column : ρ → κ) (rows : List ρ) : List κ :=
  (rows.map column).insertionSort R

/-- The ordering that leaves rows of one value as they come -/
def insertion [DecidableRel R] [Std.Total R] [IsTrans κ R] (column : ρ → κ) : OrderBy column R where
  sort rows := rows.insertionSort fun r s => R (column r) (column s)
  perm rows := List.perm_insertionSort _ rows
  sorted rows := by
    have htotal : Std.Total fun r s => R (column r) (column s) :=
      ⟨fun r s => Std.Total.total (column r) (column s)⟩
    have htrans : IsTrans ρ fun r s => R (column r) (column s) :=
      ⟨fun r s t => IsTrans.trans (column r) (column s) (column t)⟩
    exact List.pairwise_map.mpr (List.pairwise_insertionSort _ rows)

/-- The greatest first -/
def descending [LinearOrder κ] (column : ρ → κ) : OrderBy column (· ≥ ·) := insertion column

theorem mem_sort : r ∈ o.sort rows ↔ r ∈ rows := (o.perm rows).mem_iff

section values
variable [Std.Antisymm R]

theorem map_sort [DecidableRel R] [Std.Total R] [IsTrans κ R] (o : OrderBy column R)
    (rows : List ρ) : (o.sort rows).map column = ranking (R := R) column rows :=
  List.Perm.eq_of_pairwise (fun a b _ _ hab hba => Std.Antisymm.antisymm a b hab hba)
    (o.sorted rows) (List.pairwise_insertionSort R _)
    (((o.perm rows).map column).trans (List.perm_insertionSort R _).symm)

/-- Rows of different values have their places. -/
theorem sort_eq (o o' : OrderBy column R) (hvalues : (rows.map column).Nodup) :
    o.sort rows = o'.sort rows := by
  refine List.Perm.eq_of_pairwise (fun r s hr hs hrs hsr => ?_)
    (List.pairwise_map.mp (o.sorted rows)) (List.pairwise_map.mp (o'.sorted rows))
    ((o.perm rows).trans (o'.perm rows).symm)
  exact List.inj_on_of_nodup_map hvalues (o.mem_sort.mp hr) (o'.mem_sort.mp hs)
    (Std.Antisymm.antisymm _ _ hrs hsr)

end values

/-- The first pages, each queried on its own -/
def pages (o : ℕ → OrderBy column R) (limit n : ℕ) (rows : List ρ) : List ρ :=
  (List.range n).flatMap fun i => slice (i + 1) limit ((o i).sort rows)

theorem map_slice (f : ρ → κ) (page limit : ℕ) (rows : List ρ) :
    (slice page limit rows).map f = slice page limit (rows.map f) := by
  rw [slice, List.map_take, List.map_drop, slice]

theorem map_pages [DecidableRel R] [Std.Antisymm R] [Std.Total R] [IsTrans κ R]
    (o : ℕ → OrderBy column R) (limit n : ℕ) (rows : List ρ) :
    (pages o limit n rows).map column = (ranking (R := R) column rows).take (n * limit) := by
  rw [pages, List.map_flatMap, ← flatMap_slice]
  refine congrArg (fun f => (List.range n).flatMap f) (funext fun i => ?_)
  rw [map_slice, map_sort]

/-- Wherever two rows stand together with one value, they may as well be the other way round. -/
theorem exists_swap (o : OrderBy column R) {before after : List ρ}
    (h : o.sort rows = before ++ r :: s :: after) (hvalue : column r = column s) :
    ∃ o' : OrderBy column R, o'.sort rows = before ++ s :: r :: after := by
  classical
  have hperm : (before ++ s :: r :: after).Perm rows := by
    refine List.Perm.trans ?_ (h ▸ o.perm rows)
    exact List.Perm.append_left before (List.Perm.swap r s after)
  have hsorted : ((before ++ s :: r :: after).map column).Pairwise R := by
    have hvalues : (before ++ s :: r :: after).map column =
        (before ++ r :: s :: after).map column := by
      rw [List.map_append, List.map_cons, List.map_cons, ← hvalue, List.map_append, List.map_cons,
        List.map_cons, ← hvalue]
    rw [hvalues, ← h]
    exact o.sorted rows
  refine ⟨{
    sort := fun rs => if rs = rows then before ++ s :: r :: after else o.sort rs
    perm := fun rs => ?_
    sorted := fun rs => ?_ }, if_pos rfl⟩
  · split
    · rename_i hrs
      rw [hrs]
      exact hperm
    · exact o.perm rs
  · split
    · exact hsorted
    · exact o.sorted rs

/-- In an ordered list, a value that comes twice comes at two neighbours. -/
theorem exists_neighbours [Std.Antisymm R] (hsorted : (rows.map column).Pairwise R)
    (htwice : ¬ (rows.map column).Nodup) : ∃ before r s after,
      rows = before ++ r :: s :: after ∧ column r = column s := by
  induction rows with
  | nil => exact absurd List.nodup_nil htwice
  | cons r rows ih =>
    obtain ⟨hfirst, hrest⟩ := List.pairwise_cons.mp hsorted
    by_cases hmem : column r ∈ rows.map column
    · cases rows with
      | nil => cases hmem
      | cons s rows =>
        refine ⟨[], r, s, rows, rfl, ?_⟩
        rcases List.mem_cons.mp hmem with hsame | hlater
        · exact hsame
        · exact Std.Antisymm.antisymm _ _ (hfirst _ List.mem_cons_self)
            ((List.pairwise_cons.mp hrest).1 _ hlater)
    · have hlater : ¬ (rows.map column).Nodup := fun hnodup =>
        htwice (List.nodup_cons.mpr ⟨hmem, hnodup⟩)
      obtain ⟨before, t, s, after, hrows, hvalue⟩ := ih hrest hlater
      exact ⟨r :: before, t, s, after, by rw [hrows, List.cons_append], hvalue⟩

theorem mem_slice_one {i : ℕ} {rows : List ρ} : r ∈ slice (i + 1) 1 rows ↔ rows[i]? = some r := by
  rw [slice_succ, Nat.mul_one, List.take_one, List.head?_drop]
  cases rows[i]? <;> simp [eq_comm]

/-- Where every row has a value of its own, it is on some page, in whatever order each is
queried. -/
theorem exists_page [Std.Antisymm R] {limit : ℕ} (hlimit : 0 < limit)
    (hvalues : (rows.map column).Nodup) (orders : ℕ → OrderBy column R) (hr : r ∈ rows) :
    ∃ page > 0, r ∈ slice page limit ((orders page).sort rows) := by
  obtain ⟨page, hpage, hmem⟩ :=
    (mem_iff_exists_slice hlimit).mp ((orders 0).mem_sort.mpr hr)
  exact ⟨page, hpage, sort_eq (orders 0) (orders page) hvalues ▸ hmem⟩

/-- A row that stands beside another one of its value is missed when the two are the other way
round on its page. -/
theorem exists_missed [Std.Antisymm R] (o : OrderBy column R) (hnodup : rows.Nodup)
    (htwice : ¬ (rows.map column).Nodup) : ∃ orders : ℕ → OrderBy column R, ∃ r ∈ rows,
      ∀ page > 0, r ∉ slice page 1 ((orders page).sort rows) := by
  have htwice' : ¬ ((o.sort rows).map column).Nodup := fun h =>
    htwice ((((o.perm rows).map column).nodup_iff).mp h)
  obtain ⟨before, r, s, after, hsort, hvalue⟩ := exists_neighbours (o.sorted rows) htwice'
  obtain ⟨o', hswap⟩ := exists_swap o hsort hvalue
  have hdistinct : (before ++ r :: s :: after).Nodup :=
    hsort ▸ ((o.perm rows).nodup_iff).mpr hnodup
  have hdistinct' : (before ++ s :: r :: after).Nodup :=
    hswap ▸ ((o'.perm rows).nodup_iff).mpr hnodup
  refine ⟨fun page => if page = before.length + 2 then o' else o, s, ?_, fun page hpage hmem => ?_⟩
  · rw [← o.mem_sort, hsort]
    simp
  · obtain ⟨i, rfl⟩ : ∃ i, page = i + 1 := ⟨page - 1, by omega⟩
    rw [mem_slice_one] at hmem
    dsimp only at hmem
    by_cases hi : i = before.length + 1
    · rw [if_pos (by omega), hswap, hi] at hmem
      have hother : (before ++ s :: r :: after)[before.length]? = some s := by simp
      have hplaces := (List.getElem?_inj (by simp) hdistinct').mp (hother.trans hmem.symm)
      omega
    · rw [if_neg (by omega), hsort] at hmem
      have hplace : (before ++ r :: s :: after)[before.length + 1]? = some s := by simp
      have hplaces := (List.getElem?_inj (by simp) hdistinct).mp (hplace.trans hmem.symm)
      exact hi hplaces.symm

end OrderBy
end Relational
