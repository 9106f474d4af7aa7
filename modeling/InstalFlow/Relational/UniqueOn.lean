import InstalFlow.Relational.Table

/-!
# Rows unique among some

Among the rows of a table that satisfy a condition no two have the same value of a column.
-/

namespace Relational.Table
variable {κ ρ β : Type*} {key : ρ → κ} {t u : Table key} {p q : ρ → Prop} {g : ρ → β}

def UniqueOn (t : Table key) (p : ρ → Prop) (g : ρ → β) : Prop :=
  ∀ r ∈ t.rows, ∀ s ∈ t.rows, p r → p s → g r = g s → key r = key s

theorem UniqueOn.imp (h : t.UniqueOn p g) (hpq : ∀ r ∈ t.rows, q r → p r) : t.UniqueOn q g :=
  fun r hr s hs hqr hqs => h r hr s hs (hpq r hr hqr) (hpq s hs hqs)

/-- Changes of the rows that leave the column alone and bring no row under the condition -/
theorem UniqueOn.map {f : ρ → ρ} (hrows : u.rows = t.rows.map f) (hf : ∀ r, key (f r) = key r)
    (hg : ∀ r, g (f r) = g r) (hp : ∀ r, p (f r) → p r) (h : t.UniqueOn p g) : u.UniqueOn p g := by
  intro r hr s hs hpr hps hvalue
  rw [hrows] at hr hs
  obtain ⟨r', hr', rfl⟩ := List.mem_map.mp hr
  obtain ⟨s', hs', rfl⟩ := List.mem_map.mp hs
  rw [hg, hg] at hvalue
  rw [hf, hf]
  exact h r' hr' s' hs' (hp r' hpr) (hp s' hps) hvalue

variable [DecidableEq κ]

instance [DecidableEq β] [DecidablePred p] : Decidable (t.UniqueOn p g) :=
  inferInstanceAs (Decidable (∀ r ∈ t.rows, ∀ s ∈ t.rows, p r → p s → g r = g s → key r = key s))

/-- A new row may not share its value with another row of the condition. -/
theorem uniqueOn_create_iff {r : ρ} (h : t.UniqueOn p g) (hcreate : t.create r = some u) :
    u.UniqueOn p g ↔ (p r → ∀ s ∈ t.rows, p s → g s ≠ g r) := by
  obtain ⟨hfree, hrows⟩ := create_eq_some hcreate
  have hnew : r ∈ u.rows := hrows ▸ List.mem_append_right _ (List.mem_singleton_self r)
  have hold {s : ρ} (hs : s ∈ t.rows) : s ∈ u.rows := hrows ▸ List.mem_append_left _ hs
  constructor
  · intro hu hr s hs hps hvalue
    exact find?_eq_none_iff.mp hfree s hs (hu s (hold hs) r hnew hps hr hvalue)
  · intro hother s hs s' hs' hps hps' hvalue
    rw [hrows, List.mem_append, List.mem_singleton] at hs hs'
    rcases hs with hs | rfl <;> rcases hs' with hs' | rfl
    · exact h s hs s' hs' hps hps' hvalue
    · exact absurd hvalue (hother hps' s hs hps)
    · exact absurd hvalue.symm (hother hps s' hs' hps')
    · rfl

/-- An update that leaves the column alone may bring a row under the condition only when no
other row of the value is under it. -/
theorem uniqueOn_update_iff {k : κ} {f : ρ → ρ} {r : ρ} (hf : ∀ r, key (f r) = key r)
    (hg : ∀ r, g (f r) = g r) (h : t.UniqueOn p g) (hfind : t.find? k = some r) :
    (t.update k f hf).UniqueOn p g ↔
      (p (f r) → ∀ s ∈ t.rows, p s → g s = g r → key s = k) := by
  obtain ⟨hr, hk⟩ := find?_eq_some_iff.mp hfind
  have hrow {s : ρ} (hs : s ∈ (t.update k f hf).rows) : s ∈ t.rows ∧ key s ≠ k ∨ s = f r := by
    rcases mem_update_iff.mp hs with hs | ⟨s', hs', hk', rfl⟩
    · exact .inl hs
    · exact .inr (congrArg f (key_injective hs' hr (hk'.trans hk.symm)))
  have hnew : f r ∈ (t.update k f hf).rows := mem_update_iff.mpr (.inr ⟨r, hr, hk, rfl⟩)
  have hkey : key (f r) = k := (hf r).trans hk
  constructor
  · intro hu hpr s hs hps hvalue
    by_contra hother
    refine hother ((hu s (mem_update_iff.mpr (.inl ⟨hs, hother⟩)) (f r) hnew hps hpr ?_).trans hkey)
    rw [hvalue, hg]
  · intro hother s hs s' hs' hps hps' hvalue
    rcases hrow hs with ⟨hs, hne⟩ | rfl <;> rcases hrow hs' with ⟨hs', hne'⟩ | rfl
    · exact h s hs s' hs' hps hps' hvalue
    · exact absurd (hother hps' s hs hps (hvalue.trans (hg r))) hne
    · exact absurd (hother hps s' hs' hps' (hvalue.symm.trans (hg r))) hne'
    · rfl

end Relational.Table
