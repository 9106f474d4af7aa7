import InstalFlow.Transition.Run
import Mathlib.Logic.Function.Basic

/-!
# Interleavings of threads over a shared store

A thread is a local state and a `next` function that performs one of its
atomic statements on the shared store. A schedule is a list of thread names;
the configurations it visits are the runs of `Config.step`, so the rules for
runs apply to all interleavings of any number of threads.
-/

namespace Transition

structure Config (σ ι τ : Type*) where
  shared : σ
  threads : ι → τ

namespace Config
variable {σ ι τ : Type*} [DecidableEq ι] (next : ι → σ → τ → σ × τ)

def step (c : Config σ ι τ) (i : ι) : Config σ ι τ where
  shared := (next i c.shared (c.threads i)).1
  threads := Function.update c.threads i (next i c.shared (c.threads i)).2

theorem step_shared (c : Config σ ι τ) (i : ι) :
    (c.step next i).shared = (next i c.shared (c.threads i)).1 := rfl

@[simp] theorem step_threads_self (c : Config σ ι τ) (i : ι) :
    (c.step next i).threads i = (next i c.shared (c.threads i)).2 := by
  simp [step]

theorem step_threads_ne (c : Config σ ι τ) {i j : ι} (h : j ≠ i) :
    (c.step next i).threads j = c.threads j := by
  simp [step, h]

variable {next}

/-- Owicki-Gries for a local assertion: each statement establishes it for its
own thread and leaves it alone in every other. -/
theorem step_local_invariant {J : σ → ι → τ → Prop} {c : Config σ ι τ} {i : ι}
    (hown : ∀ s t, J s i t → J (next i s t).1 i (next i s t).2)
    (hother : ∀ s t j u, j ≠ i → J s j u → J s i t → J (next i s t).1 j u)
    (h : ∀ j, J c.shared j (c.threads j)) :
    ∀ j, J (c.step next i).shared j ((c.step next i).threads j) := by
  intro j
  by_cases hj : j = i
  · subst hj
    rw [step_threads_self]
    exact hown _ _ (h j)
  · rw [step_threads_ne next c hj]
    exact hother _ _ _ _ hj (h j) (h i)

end Config
end Transition
