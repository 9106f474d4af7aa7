import Mathlib.Algebra.BigOperators.Group.List.Basic
import Mathlib.Algebra.Order.BigOperators.Group.List
import Mathlib.Data.List.Nodup
import Mathlib.Tactic.Abel

/-!
# Keyed tables

A table is a list of rows in insertion order whose keys are distinct, the
content of one relation under a unique constraint. Updates carry a proof that
they leave the key of a row alone, so a table that breaks its constraint cannot
be built; only `create` can meet a duplicate, and then it fails.
-/

namespace Relational

structure Table {κ ρ : Type*} (key : ρ → κ) where
  rows : List ρ
  unique : (rows.map key).Nodup

namespace Table
variable {κ ρ : Type*} {key : ρ → κ}

@[ext] theorem ext {t u : Table key} (h : t.rows = u.rows) : t = u := by
  cases t
  cases u
  cases h
  rfl

def empty : Table key := ⟨[], List.nodup_nil⟩

@[simp] theorem rows_empty : (empty : Table key).rows = [] := rfl

instance : Inhabited (Table key) := ⟨empty⟩

theorem key_injective {t : Table key} {r s : ρ} (hr : r ∈ t.rows) (hs : s ∈ t.rows)
    (h : key r = key s) : r = s :=
  List.inj_on_of_nodup_map t.unique hr hs h

def updateMany (t : Table key) (p : ρ → Bool) (f : ρ → ρ)
    (hf : ∀ r, key (f r) = key r := by intro r; rfl) : Table key where
  rows := t.rows.map (fun r => if p r then f r else r)
  unique := by
    have hkey : (key ∘ fun r => if p r then f r else r) = key := by
      funext r
      by_cases hp : p r <;> simp [hp, hf]
    rw [List.map_map, hkey]
    exact t.unique

def deleteMany (t : Table key) (p : ρ → Bool) : Table key where
  rows := t.rows.filter (fun r => !p r)
  unique := t.unique.sublist (List.filter_sublist.map key)

theorem mem_deleteMany {t : Table key} {p : ρ → Bool} {r : ρ} :
    r ∈ (t.deleteMany p).rows ↔ r ∈ t.rows ∧ p r = false := by
  simp [deleteMany]

theorem mem_updateMany {t : Table key} {p : ρ → Bool} {f : ρ → ρ}
    {hf : ∀ r, key (f r) = key r} {r : ρ} :
    r ∈ (t.updateMany p f hf).rows ↔
      (r ∈ t.rows ∧ p r = false) ∨ ∃ s ∈ t.rows, p s = true ∧ r = f s := by
  simp only [updateMany, List.mem_map]
  constructor
  · intro h
    obtain ⟨s, hs, he⟩ := h
    by_cases hp : p s
    · rw [if_pos hp] at he
      exact .inr ⟨s, hs, hp, he.symm⟩
    · rw [if_neg hp] at he
      subst he
      exact .inl ⟨hs, by simpa using hp⟩
  · intro h
    rcases h with ⟨hr, hp⟩ | ⟨s, hs, hp, he⟩
    · exact ⟨r, hr, by simp [hp]⟩
    · exact ⟨s, hs, by simp [hp, he]⟩

theorem updateMany_eq_self {t : Table key} {p : ρ → Bool} {f : ρ → ρ}
    {hf : ∀ r, key (f r) = key r} (h : ∀ r ∈ t.rows, p r = false) : t.updateMany p f hf = t := by
  apply ext
  have hid : ∀ r ∈ t.rows, (if p r then f r else r) = id r := fun r hr => by simp [h r hr]
  exact (List.map_congr_left hid).trans (List.map_id _)

/-- A search by columns that the update leaves alone. -/
theorem find?_rows_updateMany (t : Table key) (q : ρ → Bool) (f : ρ → ρ)
    (hf : ∀ r, key (f r) = key r) {p : ρ → Bool} (hp : ∀ r, p (f r) = p r) :
    (t.updateMany q f hf).rows.find? p = (t.rows.find? p).map (fun r => if q r then f r else r) := by
  have hcomp : p ∘ (fun r => if q r then f r else r) = p := by
    funext r
    by_cases hq : q r <;> simp [hq, hp]
  rw [updateMany, List.find?_map, hcomp]

theorem map_rows_updateMany {β : Type*} {g : ρ → β} (t : Table key) (p : ρ → Bool) {f : ρ → ρ}
    (hf : ∀ r, key (f r) = key r) (hg : ∀ r, g (f r) = g r) :
    (t.updateMany p f hf).rows.map g = t.rows.map g := by
  rw [updateMany, List.map_map]
  refine List.map_congr_left fun r _ => ?_
  simp only [Function.comp_apply]
  split
  · exact hg r
  · rfl

section keyed
variable [DecidableEq κ]

def find? (t : Table key) (k : κ) : Option ρ := t.rows.find? (fun r => key r = k)

def update (t : Table key) (k : κ) (f : ρ → ρ)
    (hf : ∀ r, key (f r) = key r := by intro r; rfl) : Table key :=
  t.updateMany (fun r => key r = k) f hf

/-- Insertion under the unique constraint; `none` is the constraint violation. -/
def create (t : Table key) (r : ρ) : Option (Table key) :=
  if h : key r ∈ t.rows.map key then none
  else some
    { rows := t.rows ++ [r]
      unique := by
        rw [List.map_append, List.map_singleton]
        exact List.nodup_append.mpr ⟨t.unique, List.nodup_singleton _, by
          intro a ha b hb
          rw [List.mem_singleton] at hb
          intro he
          subst he
          exact h (hb ▸ ha)⟩ }

theorem find?_eq_some_iff {t : Table key} {k : κ} {r : ρ} :
    t.find? k = some r ↔ r ∈ t.rows ∧ key r = k := by
  constructor
  · intro h
    exact ⟨List.mem_of_find?_eq_some h, by simpa using List.find?_some h⟩
  · intro hx
    obtain ⟨hr, rfl⟩ := hx
    cases hs : t.find? (key r) with
    | none => simpa using List.find?_eq_none.mp hs r hr
    | some s =>
      have hmem := List.mem_of_find?_eq_some hs
      have hkey : key s = key r := by simpa using List.find?_some hs
      rw [key_injective hmem hr hkey]

theorem find?_eq_none_iff {t : Table key} {k : κ} :
    t.find? k = none ↔ ∀ r ∈ t.rows, key r ≠ k := by
  simp [find?]

theorem find?_key {t : Table key} {k : κ} {r : ρ} (h : t.find? k = some r) : key r = k :=
  (find?_eq_some_iff.mp h).2

theorem mem_of_find? {t : Table key} {k : κ} {r : ρ} (h : t.find? k = some r) : r ∈ t.rows :=
  (find?_eq_some_iff.mp h).1

theorem find?_of_mem {t : Table key} {r : ρ} (h : r ∈ t.rows) : t.find? (key r) = some r :=
  find?_eq_some_iff.mpr ⟨h, rfl⟩

theorem find?_deleteMany (t : Table key) (p : ρ → Bool) (k : κ) :
    (t.deleteMany p).find? k = (t.find? k).filter (fun r => !p r) := by
  refine Option.ext fun r => ?_
  rw [Option.filter_eq_some_iff, find?_eq_some_iff, find?_eq_some_iff, mem_deleteMany,
    Bool.not_eq_true']
  exact and_right_comm

@[simp] theorem find?_empty (k : κ) : (empty : Table key).find? k = none := rfl

theorem find?_updateMany (t : Table key) (p : ρ → Bool) (f : ρ → ρ)
    (hf : ∀ r, key (f r) = key r) (k : κ) :
    (t.updateMany p f hf).find? k = (t.find? k).map (fun r => if p r then f r else r) := by
  have hkey : (fun r => decide (key r = k)) ∘ (fun r => if p r then f r else r) =
      fun r => decide (key r = k) := by
    funext r
    by_cases hp : p r <;> simp [hp, hf]
  simp only [find?, updateMany, List.find?_map, hkey]

theorem find?_update (t : Table key) (k l : κ) (f : ρ → ρ) (hf : ∀ r, key (f r) = key r) :
    (t.update k f hf).find? l = if l = k then (t.find? l).map f else t.find? l := by
  rw [update, find?_updateMany]
  cases h : t.find? l with
  | none => simp
  | some r =>
    have hr := find?_key h
    by_cases hl : l = k <;> simp [hr, hl]

theorem mem_update_iff {t : Table key} {k : κ} {f : ρ → ρ} {hf : ∀ r, key (f r) = key r} {r : ρ} :
    r ∈ (t.update k f hf).rows ↔
      (r ∈ t.rows ∧ key r ≠ k) ∨ ∃ s ∈ t.rows, key s = k ∧ r = f s := by
  simp only [update, mem_updateMany, decide_eq_true_eq, decide_eq_false_iff_not, ne_eq]

theorem mem_update {t : Table key} {k : κ} {f : ρ → ρ} {hf : ∀ r, key (f r) = key r} {r : ρ}
    (h : r ∈ (t.update k f hf).rows) : r ∈ t.rows ∨ ∃ s ∈ t.rows, r = f s := by
  rcases mem_update_iff.mp h with ⟨hr, -⟩ | ⟨s, hs, -, he⟩
  · exact .inl hr
  · exact .inr ⟨s, hs, he⟩

theorem update_eq_of_id {t : Table key} {k : κ} {f : ρ → ρ} {hf : ∀ r, key (f r) = key r}
    (h : ∀ r, f r = r) : t.update k f hf = t := by
  apply ext
  have hid (r : ρ) : (if decide (key r = k) then f r else r) = r := by
    rw [h, ite_self]
  exact (List.map_congr_left fun r _ => hid r).trans (List.map_id _)

/-- The row of the key meets the condition. -/
def HasAt (t : Table key) (k : κ) (p : ρ → Prop) : Prop := ∃ r ∈ t.find? k, p r

theorem hasAt_update {t : Table key} {k l : κ} {f : ρ → ρ} {hf : ∀ r, key (f r) = key r}
    {p : ρ → Prop} : (t.update k f hf).HasAt l p ↔
      (l ≠ k ∧ t.HasAt l p) ∨ (l = k ∧ t.HasAt l fun r => p (f r)) := by
  rw [HasAt, find?_update]
  by_cases hl : l = k
  · simp [hl, HasAt]
  · simp [hl, HasAt]

/-- What an update leaves alone of a row can be looked up as before. -/
theorem find?_update_map {β : Type*} {g : ρ → β} (t : Table key) (k l : κ) {f : ρ → ρ}
    (hf : ∀ r, key (f r) = key r) (hg : ∀ r, g (f r) = g r) :
    ((t.update k f hf).find? l).map g = (t.find? l).map g := by
  have hsame : g ∘ f = g := funext hg
  rw [find?_update]
  split
  · rw [Option.map_map, hsame]
  · rfl

theorem find?_updateMany_map {β : Type*} {g : ρ → β} (t : Table key) (p : ρ → Bool) (k : κ)
    {f : ρ → ρ} (hf : ∀ r, key (f r) = key r) (hg : ∀ r, g (f r) = g r) :
    ((t.updateMany p f hf).find? k).map g = (t.find? k).map g := by
  rw [find?_updateMany, Option.map_map]
  congr 1
  funext r
  by_cases hp : p r <;> simp [hp, hg]

theorem map_rows_update {β : Type*} {g : ρ → β} (t : Table key) (k : κ) {f : ρ → ρ}
    (hf : ∀ r, key (f r) = key r) (hg : ∀ r, g (f r) = g r) :
    (t.update k f hf).rows.map g = t.rows.map g :=
  map_rows_updateMany t _ hf hg

theorem update_eq_updateMany {t : Table key} {k : κ} {r : ρ} {p : ρ → Bool} {f : ρ → ρ}
    {hf : ∀ r, key (f r) = key r} (h : t.find? k = some r) (hp : p r = true) :
    t.update k f hf = t.updateMany (fun s => key s = k ∧ p s) f hf := by
  apply ext
  apply List.map_congr_left
  intro s hs
  by_cases hk : key s = k
  · have hsr : s = r := key_injective hs (mem_of_find? h) (hk.trans (find?_key h).symm)
    simp [hsr, hp, find?_key h]
  · simp [hk]

theorem create_eq_some {t u : Table key} {r : ρ} (h : t.create r = some u) :
    t.find? (key r) = none ∧ u.rows = t.rows ++ [r] := by
  rw [create] at h
  split at h
  · cases h
  · rename_i hk
    cases h
    refine ⟨find?_eq_none_iff.mpr fun s hs he => hk ?_, rfl⟩
    exact List.mem_map.mpr ⟨s, hs, he⟩

theorem create_isSome {t : Table key} {r : ρ} (h : t.find? (key r) = none) :
    ∃ u, t.create r = some u := by
  have hk : key r ∉ t.rows.map key := by
    intro hmem
    obtain ⟨s, hs, he⟩ := List.mem_map.mp hmem
    exact find?_eq_none_iff.mp h s hs he
  exact ⟨_, dif_neg hk⟩

theorem find?_create {t u : Table key} {r : ρ} (h : t.create r = some u) (k : κ) :
    u.find? k = if k = key r then some r else t.find? k := by
  obtain ⟨hnone, hrows⟩ := create_eq_some h
  simp only [find?, hrows, List.find?_append]
  by_cases hk : k = key r
  · subst hk
    rw [find?] at hnone
    simp [hnone]
  · have hk' : key r ≠ k := fun e => hk e.symm
    simp [hk, hk']

/-- A created row leaves the others where they are. -/
theorem find?_of_create {t u : Table key} {r s : ρ} (h : t.create r = some u) {k : κ}
    (hk : t.find? k = some s) : u.find? k = some s := by
  obtain ⟨hnone, -⟩ := create_eq_some h
  rw [find?_create h, if_neg, hk]
  rintro rfl
  rw [hnone] at hk
  cases hk

theorem find?_getD_create {t : Table key} {r : ρ} (h : t.find? (key r) = none) (k : κ) :
    ((t.create r).getD t).find? k = if k = key r then some r else t.find? k := by
  obtain ⟨u, hu⟩ := create_isSome h
  rw [hu, Option.getD_some, find?_create hu]

end keyed

section aggregate
variable {M : Type*}

/-- The aggregate `_sum` of `w` over the rows that meet the filter `p`. -/
def sumWhere [AddCommMonoid M] (t : Table key) (p : ρ → Bool) (w : ρ → M) : M :=
  ((t.rows.filter p).map w).sum

def term [Zero M] (p : ρ → Bool) (w : ρ → M) (r : ρ) : M := if p r then w r else 0

theorem sumWhere_eq_sum_term [AddCommMonoid M] (t : Table key) (p : ρ → Bool) (w : ρ → M) :
    t.sumWhere p w = (t.rows.map (term p w)).sum := by
  rw [sumWhere]
  induction t.rows with
  | nil => rfl
  | cons r rows ih => by_cases hp : p r <;> simp [term, hp, ih]

theorem sumWhere_nonneg [AddCommMonoid M] [PartialOrder M] [IsOrderedAddMonoid M]
    {t : Table key} {p : ρ → Bool} {w : ρ → M} (h : ∀ r ∈ t.rows, p r → 0 ≤ w r) :
    0 ≤ t.sumWhere p w := by
  apply List.sum_nonneg
  intro x hx
  obtain ⟨r, hr, rfl⟩ := List.mem_map.mp hx
  obtain ⟨hmem, hp⟩ := List.mem_filter.mp hr
  exact h r hmem hp

theorem sumWhere_eq_zero [AddCommMonoid M] {t : Table key} {p : ρ → Bool} {w : ρ → M}
    (h : ∀ r ∈ t.rows, p r = false) : t.sumWhere p w = 0 := by
  have hnil : t.rows.filter p = [] := List.filter_eq_nil_iff.mpr (by simpa using h)
  simp [sumWhere, hnil]

theorem sumWhere_updateMany_of [AddCommMonoid M] (t : Table key) (q : ρ → Bool) (f : ρ → ρ)
    (hf : ∀ r, key (f r) = key r) {p : ρ → Bool} {w : ρ → M}
    (h : ∀ r ∈ t.rows, q r = true → term p w (f r) = term p w r) :
    (t.updateMany q f hf).sumWhere p w = t.sumWhere p w := by
  rw [sumWhere_eq_sum_term, sumWhere_eq_sum_term, updateMany, List.map_map]
  congr 1
  refine List.map_congr_left fun r hr => ?_
  simp only [Function.comp_apply]
  split
  · rename_i hq
    exact h r hr hq
  · rfl

theorem sumWhere_updateMany [AddCommMonoid M] (t : Table key) (q : ρ → Bool) (f : ρ → ρ)
    (hf : ∀ r, key (f r) = key r) {p : ρ → Bool} {w : ρ → M} (hp : ∀ r, p (f r) = p r)
    (hw : ∀ r, w (f r) = w r) : (t.updateMany q f hf).sumWhere p w = t.sumWhere p w :=
  sumWhere_updateMany_of t q f hf fun r _ _ => by rw [term, term, hp, hw]

theorem sumWhere_append [AddCommMonoid M] {t u : Table key} {rs : List ρ}
    (h : u.rows = t.rows ++ rs) (p : ρ → Bool) (w : ρ → M) :
    u.sumWhere p w = t.sumWhere p w + ((rs.filter p).map w).sum := by
  rw [sumWhere, h, List.filter_append, List.map_append, List.sum_append, sumWhere]

theorem sumWhere_create [DecidableEq κ] [AddCommMonoid M] {t u : Table key} {r : ρ}
    (h : t.create r = some u) (p : ρ → Bool) (w : ρ → M) :
    u.sumWhere p w = t.sumWhere p w + term p w r := by
  rw [sumWhere_eq_sum_term, sumWhere_eq_sum_term, (create_eq_some h).2]
  simp

theorem sum_map_update [DecidableEq κ] [AddCommGroup M] {rows : List ρ} {r : ρ} (f : ρ → ρ)
    (v : ρ → M) (hn : (rows.map key).Nodup) (hr : r ∈ rows) :
    (rows.map (fun s => v (if key s = key r then f s else s))).sum =
      (rows.map v).sum + (v (f r) - v r) := by
  induction rows with
  | nil => simp at hr
  | cons s rows ih =>
    rw [List.map_cons, List.nodup_cons] at hn
    rw [List.map_cons, List.map_cons, List.sum_cons, List.sum_cons]
    by_cases hs : s = r
    · subst hs
      -- no later row carries the key, so the tail is left as it is
      have htail : rows.map (fun x => v (if key x = key s then f x else x)) = rows.map v := by
        apply List.map_congr_left
        intro x hx
        rw [if_neg fun he => hn.1 (List.mem_map.mpr ⟨x, hx, he⟩)]
      rw [htail, if_pos rfl]
      abel
    · have hmem : r ∈ rows := (List.mem_cons.mp hr).resolve_left fun h => hs h.symm
      have hne : key s ≠ key r := fun he => hn.1 (List.mem_map.mpr ⟨r, hmem, he.symm⟩)
      rw [ih hn.2 hmem, if_neg hne]
      abel

theorem sumWhere_update [DecidableEq κ] [AddCommGroup M] {t : Table key} {k : κ} {r : ρ}
    (h : t.find? k = some r) (f : ρ → ρ) (hf : ∀ s, key (f s) = key s)
    (p : ρ → Bool) (w : ρ → M) :
    (t.update k f hf).sumWhere p w = t.sumWhere p w + (term p w (f r) - term p w r) := by
  obtain ⟨hmem, rfl⟩ := find?_eq_some_iff.mp h
  have hs := sum_map_update f (term p w) t.unique hmem
  have hu : (t.update (key r) f hf).rows =
      t.rows.map (fun s => if key s = key r then f s else s) := by
    simp [update, updateMany]
  rw [sumWhere_eq_sum_term, sumWhere_eq_sum_term, hu, List.map_map]
  exact hs

theorem sumWhere_one (t : Table key) (p : ρ → Bool) :
    t.sumWhere p (fun _ => (1 : ℤ)) = t.rows.countP p := by
  simp [sumWhere, List.countP_eq_length_filter]

theorem countP_update [DecidableEq κ] {t : Table key} {k : κ} {r : ρ} (h : t.find? k = some r)
    (f : ρ → ρ) (hf : ∀ s, key (f s) = key s) (p : ρ → Bool) :
    (t.update k f hf).rows.countP p + (if p r then 1 else 0) =
      t.rows.countP p + if p (f r) then 1 else 0 := by
  have hsum := sumWhere_update h f hf p (fun _ => (1 : ℤ))
  rw [sumWhere_one, sumWhere_one] at hsum
  by_cases hr : p r = true <;> by_cases hfr : p (f r) = true <;> simp [term, hr, hfr] at hsum ⊢ <;>
    omega

theorem countP_key [DecidableEq κ] (t : Table key) (k : κ) :
    t.rows.countP (fun r => key r = k) = if (t.find? k).isSome then 1 else 0 := by
  have hcount : t.rows.countP (fun r => key r = k) = (t.rows.map key).count k := by
    rw [List.count_eq_countP, List.countP_map]
    rfl
  have hmem : k ∈ t.rows.map key ↔ (t.find? k).isSome := by
    rw [← not_iff_not, Bool.not_eq_true, Option.isSome_eq_false_iff, Option.isNone_iff_eq_none,
      find?_eq_none_iff]
    simp
  rw [hcount, t.unique.count]
  simp only [hmem]

end aggregate
end Table
end Relational
