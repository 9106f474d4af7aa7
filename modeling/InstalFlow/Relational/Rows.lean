import InstalFlow.Relational.Table

/-!
# Rows that a write leaves alone

The rows of a table that meet a condition stay the same when all rows that a write adds,
changes or deletes are others.
-/

namespace Relational.Table
variable {κ ρ : Type*} {key : ρ → κ} {t u : Table key} {q : ρ → Bool}

theorem filter_map_rows {rows : List ρ} {p : ρ → Bool} {f : ρ → ρ}
    (h : ∀ r ∈ rows, p r = true → q r = false ∧ q (f r) = false) :
    (rows.map fun r => if p r then f r else r).filter q = rows.filter q := by
  induction rows with
  | nil => rfl
  | cons r rows ih =>
    rw [List.map_cons, List.filter_cons, List.filter_cons,
      ih fun s hs => h s (List.mem_cons_of_mem r hs)]
    by_cases hp : p r = true
    · obtain ⟨hr, hfr⟩ := h r List.mem_cons_self hp
      rw [if_pos hp, hfr, hr, if_neg Bool.false_ne_true, if_neg Bool.false_ne_true]
    · rw [if_neg hp]

theorem filter_rows_deleteMany {p : ρ → Bool} (h : ∀ r ∈ t.rows, p r = true → q r = false) :
    (t.deleteMany p).rows.filter q = t.rows.filter q := by
  rw [deleteMany, List.filter_filter]
  refine List.filter_congr fun r hr => ?_
  cases hp : p r with
  | true => rw [h r hr hp]; rfl
  | false => rw [Bool.not_false, Bool.and_true]

/-- Rows that a change takes out of a condition, and those that remain in it -/
theorem countP_map_add {rows : List ρ} {p m : ρ → Bool} {f : ρ → ρ}
    (hm : ∀ r ∈ rows, m r = true → p r = true)
    (hf : ∀ r ∈ rows, p (f r) = true ↔ p r = true ∧ m r = false) :
    (rows.map f).countP p + rows.countP m = rows.countP p := by
  induction rows with
  | nil => rfl
  | cons r rows ih =>
    have hrest := ih (fun s hs => hm s (List.mem_cons_of_mem r hs))
      (fun s hs => hf s (List.mem_cons_of_mem r hs))
    have hr := hm r List.mem_cons_self
    have hfr := hf r List.mem_cons_self
    rw [List.map_cons, List.countP_cons, List.countP_cons, List.countP_cons]
    cases hmr : m r with
    | true =>
      simp only [hmr, Bool.true_eq_false, and_false, iff_false] at hfr
      simp only [hr hmr, hfr, Bool.false_eq_true, if_true, if_false]
      omega
    | false =>
      simp only [hmr, and_true] at hfr
      simp only [hfr, Bool.false_eq_true, if_false]
      omega

variable [DecidableEq κ]

theorem filter_rows_create {r : ρ} (h : t.create r = some u) (hr : q r = false) :
    u.rows.filter q = t.rows.filter q := by
  rw [(create_eq_some h).2, List.filter_append, List.filter_singleton, hr]
  exact List.append_nil _

/-- `createMany` that skips duplicates -/
def createAll (rs : List ρ) (t : Table key) : Table key :=
  rs.foldl (fun t r => (t.create r).getD t) t

theorem mem_createAll {rs : List ρ} {r : ρ} (h : r ∈ (createAll rs t).rows) :
    r ∈ t.rows ∨ r ∈ rs := by
  induction rs generalizing t with
  | nil => exact .inl h
  | cons s rs ih =>
    rcases ih h with h | h
    · dsimp only at h
      cases hcreate : t.create s with
      | none =>
        rw [hcreate] at h
        exact .inl h
      | some u =>
        rw [hcreate, Option.getD_some, (create_eq_some hcreate).2, List.mem_append,
          List.mem_singleton] at h
        rcases h with h | rfl
        · exact .inl h
        · exact .inr List.mem_cons_self
    · exact .inr (List.mem_cons_of_mem s h)

/-- Nothing is skipped where all keys are new. -/
theorem rows_createAll {rs : List ρ} (hfresh : ∀ r ∈ rs, t.find? (key r) = none)
    (hnodup : (rs.map key).Nodup) : (createAll rs t).rows = t.rows ++ rs := by
  induction rs generalizing t with
  | nil => exact (List.append_nil _).symm
  | cons r rs ih =>
    obtain ⟨hr, hrest⟩ := List.nodup_cons.mp hnodup
    obtain ⟨u, hcreate⟩ := create_isSome (hfresh r List.mem_cons_self)
    have hnext : ∀ s ∈ rs, u.find? (key s) = none := by
      intro s hs
      rw [find?_create hcreate, if_neg fun he => hr (List.mem_map.mpr ⟨s, hs, he⟩)]
      exact hfresh s (List.mem_cons_of_mem r hs)
    have hall := ih hnext hrest
    rw [(create_eq_some hcreate).2, List.append_assoc, List.singleton_append] at hall
    rw [createAll, List.foldl_cons, hcreate]
    exact hall

/-- A lookup by the key with more conditions -/
theorem find?_rows_eq_some_iff {k : κ} (hq : ∀ r, q r = true → key r = k) {r : ρ} :
    t.rows.find? q = some r ↔ t.find? k = some r ∧ q r = true := by
  constructor
  · intro h
    have hr := List.find?_some h
    exact ⟨find?_eq_some_iff.mpr ⟨List.mem_of_find?_eq_some h, hq r hr⟩, hr⟩
  · rintro ⟨hfind, hr⟩
    obtain ⟨s, hs⟩ : ∃ s, t.rows.find? q = some s :=
      Option.isSome_iff_exists.mp (List.find?_isSome.mpr ⟨r, mem_of_find? hfind, hr⟩)
    have hsame : s = r := key_injective (List.mem_of_find?_eq_some hs) (mem_of_find? hfind)
      ((hq s (List.find?_some hs)).trans (find?_key hfind).symm)
    rw [hs, hsame]

end Relational.Table
