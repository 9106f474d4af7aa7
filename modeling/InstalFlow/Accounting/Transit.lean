import Mathlib.Algebra.BigOperators.Group.Finset.Basic
import Mathlib.Tactic.Abel

/-!
# Sums over outstanding items

Items enter a set of outstanding items, leave it, or are dropped from it. A
balance to which an entrance adds the weight of its item, from which an exit
takes it, and which a drop leaves alone, stays the sum over the set as long as
what enters and what is dropped is not outstanding and what leaves is.
-/

namespace Accounting

inductive Passage
  | enter | leave | drop
deriving DecidableEq

namespace Passage
variable {κ M : Type*}

/-- What a passage adds to the balance, for an item of the given weight. -/
def change [AddGroup M] (weight : M) : Passage → M
  | enter => weight
  | leave => -weight
  | drop => 0

variable [DecidableEq κ]

def next (k : κ) (s : Finset κ) : Passage → Finset κ
  | enter => insert k s
  | leave | drop => s.erase k

def InOrder (k : κ) (s : Finset κ) : Passage → Prop
  | enter | drop => k ∉ s
  | leave => k ∈ s

instance (k : κ) (s : Finset κ) : (p : Passage) → Decidable (p.InOrder k s)
  | enter | drop => inferInstanceAs (Decidable (k ∉ s))
  | leave => inferInstanceAs (Decidable (k ∈ s))

theorem mem_next {k i : κ} {s : Finset κ} (p : Passage) (h : i ∈ p.next k s) : i ∈ s ∨ i = k := by
  cases p with
  | enter => exact (Finset.mem_insert.mp h).symm
  | leave => exact .inl (Finset.mem_of_mem_erase h)
  | drop => exact .inl (Finset.mem_of_mem_erase h)

variable [AddCommGroup M] {p : Passage} {w : κ → M} {s : Finset κ} {k : κ}

theorem sum_next (h : p.InOrder k s) :
    ∑ i ∈ p.next k s, w i = ∑ i ∈ s, w i + p.change (w k) := by
  cases p with
  | enter =>
    rw [next, Finset.sum_insert h, change]
    abel
  | leave =>
    rw [next, change, ← Finset.add_sum_erase s w h]
    abel
  | drop => rw [next, change, Finset.erase_eq_of_notMem h, add_zero]

/-- A passage out of order puts the balance off by the weight of its item. -/
theorem sum_next_of_not (h : ¬ p.InOrder k s) :
    ∑ i ∈ s, w i + p.change (w k) - ∑ i ∈ p.next k s, w i = w k ∨
      ∑ i ∈ p.next k s, w i - (∑ i ∈ s, w i + p.change (w k)) = w k := by
  cases p with
  | enter =>
    rw [next, change, Finset.insert_eq_of_mem (not_not.mp h)]
    exact .inl (by abel)
  | leave =>
    rw [next, change, Finset.erase_eq_of_notMem h]
    exact .inr (by abel)
  | drop =>
    rw [next, change, ← Finset.add_sum_erase s w (not_not.mp h)]
    exact .inl (by abel)

theorem sum_next_iff :
    ∑ i ∈ s, w i + p.change (w k) = ∑ i ∈ p.next k s, w i ↔ w k = 0 ∨ p.InOrder k s := by
  by_cases h : p.InOrder k s
  · simp [sum_next h, h]
  · rw [or_iff_left h]
    rcases sum_next_of_not (w := w) h with hoff | hoff
    · rw [← sub_eq_zero, hoff]
    · rw [eq_comm, ← sub_eq_zero, hoff]

end Passage
end Accounting
