import InstalFlow.Relational.Table
import Mathlib.Data.Fintype.EquivFin
import Mathlib.Data.Set.Finite.Basic

/-!
# Fresh keys

A table has finitely many rows, and keys that are made at random are taken from an infinite
type: as many as are needed are free at once.
-/

namespace Relational
variable {α β ρ κ : Type*}

theorem exists_injective_fresh [Infinite α] (l : List α) :
    ∃ f : ℕ → α, Function.Injective f ∧ ∀ n, f n ∉ l := by
  have hinfinite : {a | a ∈ l}ᶜ.Infinite := l.finite_toSet.infinite_compl
  let f := hinfinite.natEmbedding
  exact ⟨fun n => (f n : α), fun i j h => f.injective (Subtype.ext h), fun n => (f n).2⟩

/-- What is made of a random part injectively can be made new. -/
theorem exists_fresh_image [Infinite α] {f : α → β} (hf : Function.Injective f) (l : List β) :
    ∃ a, f a ∉ l := by
  have hfinite : (Set.preimage f {b | b ∈ l}).Finite := l.finite_toSet.preimage hf.injOn
  exact hfinite.exists_notMem

namespace Table
variable [DecidableEq κ] {key : ρ → κ}

theorem exists_fresh [Infinite κ] (t : Table key) :
    ∃ f : ℕ → κ, Function.Injective f ∧ ∀ n, t.find? (f n) = none := by
  obtain ⟨f, hf, hfresh⟩ := exists_injective_fresh (t.rows.map key)
  refine ⟨f, hf, fun n => find?_eq_none_iff.mpr fun r hr he => hfresh n ?_⟩
  exact List.mem_map.mpr ⟨r, hr, he⟩

end Table
end Relational
