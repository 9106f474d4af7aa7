import InstalFlow.Relational.Table

/-!
# Views that only grow

A view of a table reads off each row what is fixed of it. A write that deletes no row and
changes nothing fixed keeps every entry of the view, and adds entries under new keys.
-/

namespace Relational
variable {κ ρ τ : Type*}

/-- The entries of `v` are kept, and the new ones meet `P`. -/
def Grows (P : τ → Prop) (v w : κ → Option τ) : Prop :=
  ∀ k, w k = v k ∨ (v k = none ∧ ∀ t ∈ w k, P t)

namespace Grows
variable {P Q : τ → Prop} {u v w : κ → Option τ}

theorem of_eq (h : w = v) : Grows P v w := fun k => .inl (congrFun h k)

theorem kept (h : Grows P v w) {k : κ} {t : τ} (hk : v k = some t) : w k = some t := by
  rcases h k with hsame | ⟨hnone, -⟩
  · exact hsame.trans hk
  · rw [hk] at hnone
    cases hnone

theorem trans (h : Grows P u v) (h' : Grows P v w) : Grows P u w := by
  intro k
  rcases h' k with hsame | ⟨hnone, hnew⟩
  · rw [hsame]
    exact h k
  · rcases h k with hsame | ⟨hnone', -⟩
    · exact .inr ⟨hsame.symm.trans hnone, hnew⟩
    · exact .inr ⟨hnone', hnew⟩

/-- What holds of the entries there were and of new ones holds of all. -/
theorem forall_mem (h : Grows P v w) (hv : ∀ k, ∀ t ∈ v k, Q t) (hP : ∀ t, P t → Q t) :
    ∀ k, ∀ t ∈ w k, Q t := by
  intro k t ht
  rcases h k with hsame | ⟨-, hnew⟩
  · exact hv k t (hsame ▸ ht)
  · exact hP t (hnew t ht)

end Grows

namespace Table
variable [DecidableEq κ] {key : ρ → κ} {t u : Table key} {g : ρ → τ} {P : τ → Prop}

def view (g : ρ → τ) (t : Table key) (k : κ) : Option τ := (t.find? k).map g

theorem view_update (t : Table key) (k : κ) {f : ρ → ρ} (hf : ∀ r, key (f r) = key r)
    (hg : ∀ r, g (f r) = g r) : (t.update k f hf).view g = t.view g :=
  funext fun l => find?_update_map t k l hf hg

theorem view_updateMany (t : Table key) (p : ρ → Bool) {f : ρ → ρ} (hf : ∀ r, key (f r) = key r)
    (hg : ∀ r, g (f r) = g r) : (t.updateMany p f hf).view g = t.view g :=
  funext fun l => find?_updateMany_map t p l hf hg

theorem mem_view {k : κ} {x : τ} : t.view g k = some x ↔ ∃ r ∈ t.rows, key r = k ∧ g r = x := by
  rw [view, Option.map_eq_some_iff]
  constructor
  · intro h
    obtain ⟨r, hr, hx⟩ := h
    exact ⟨r, mem_of_find? hr, find?_key hr, hx⟩
  · intro h
    obtain ⟨r, hr, rfl, hx⟩ := h
    exact ⟨r, find?_of_mem hr, hx⟩

theorem grows_append {rs : List ρ} (h : u.rows = t.rows ++ rs) (hnew : ∀ r ∈ rs, P (g r)) :
    Grows P (t.view g) (u.view g) := by
  intro k
  have hfind : u.find? k = (t.find? k).or (rs.find? (fun r => key r = k)) := by
    rw [find?, h, List.find?_append, find?]
  cases hk : t.find? k with
  | some r =>
    left
    rw [view, hfind, hk, Option.some_or, view, hk]
  | none =>
    refine .inr ⟨by rw [view, hk]; rfl, fun x hx => ?_⟩
    rw [view, hfind, hk, Option.none_or, Option.mem_def, Option.map_eq_some_iff] at hx
    obtain ⟨r, hr, rfl⟩ := hx
    exact hnew r (List.mem_of_find?_eq_some hr)

theorem grows_create {r : ρ} (h : t.create r = some u) (hnew : P (g r)) :
    Grows P (t.view g) (u.view g) := by
  refine grows_append (create_eq_some h).2 fun s hs => ?_
  rw [List.mem_singleton.mp hs]
  exact hnew

end Table
end Relational
