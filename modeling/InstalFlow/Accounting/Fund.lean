import Mathlib.Algebra.Order.Group.Defs
import Mathlib.Data.List.Nodup
import Mathlib.Algebra.Order.Group.Unbundled.Basic
import Mathlib.Tactic.Abel

/-!
# Funds with reservations

What a reservation system is for: an amount is available, parts of it are
reserved, and a reservation is settled, released or, once settled, reversed.
What a fund holds must never exceed its amount. Only a reservation raises it,
so a fund stays within its amount exactly when every reservation finds room.
-/

namespace Accounting

@[ext] structure Fund (M : Type*) where
  reserved : M
  paid : M

inductive Move (M : Type*)
  | stay
  | reserve (x : M)
  | settle (x : M)
  | release (x : M)
  | reverse (x : M)

section moves
variable {M : Type*} [AddCommGroup M]

def Move.reservedChange : Move M → M
  | .stay => 0
  | .reserve x => x
  | .settle x => -x
  | .release x => -x
  | .reverse x => x

def Move.paidChange : Move M → M
  | .stay => 0
  | .reserve _ => 0
  | .settle x => x
  | .release _ => 0
  | .reverse x => -x

namespace Fund

def held (f : Fund M) : M := f.reserved + f.paid

def apply (f : Fund M) (m : Move M) : Fund M :=
  ⟨f.reserved + m.reservedChange, f.paid + m.paidChange⟩

@[simp] theorem apply_reserved (f : Fund M) (m : Move M) :
    (f.apply m).reserved = f.reserved + m.reservedChange := rfl

@[simp] theorem apply_paid (f : Fund M) (m : Move M) :
    (f.apply m).paid = f.paid + m.paidChange := rfl

@[simp] theorem apply_stay (f : Fund M) : f.apply .stay = f := by
  ext <;> simp [Move.reservedChange, Move.paidChange]

theorem held_apply (f : Fund M) (m : Move M) :
    (f.apply m).held = f.held + (m.reservedChange + m.paidChange) := by
  simp only [held, apply_reserved, apply_paid]
  abel

end Fund
end moves

section keyed
variable {M κ : Type*} [DecidableEq κ]

def moveOf (ms : List (κ × Move M)) (k : κ) : Move M := (ms.lookup k).getD .stay

@[simp] theorem moveOf_nil (k : κ) : moveOf ([] : List (κ × Move M)) k = .stay := rfl

@[simp] theorem moveOf_cons_self (k : κ) (m : Move M) (ms : List (κ × Move M)) :
    moveOf ((k, m) :: ms) k = m := by
  simp [moveOf]

theorem moveOf_cons_ne {k l : κ} (h : l ≠ k) (m : Move M) (ms : List (κ × Move M)) :
    moveOf ((k, m) :: ms) l = moveOf ms l := by
  have hl : (l == k) = false := by simpa using h
  simp [moveOf, List.lookup_cons, hl]

theorem moveOf_of_notMem {ms : List (κ × Move M)} {k : κ} (h : k ∉ ms.map Prod.fst) :
    moveOf ms k = .stay := by
  induction ms with
  | nil => rfl
  | cons p ms ih =>
    rw [List.map_cons, List.mem_cons, not_or] at h
    rw [moveOf_cons_ne h.1, ih h.2]

theorem moveOf_of_mem {ms : List (κ × Move M)} (hn : (ms.map Prod.fst).Nodup) {k : κ}
    {m : Move M} (h : (k, m) ∈ ms) : moveOf ms k = m := by
  induction ms with
  | nil => simp at h
  | cons p ms ih =>
    rw [List.map_cons, List.nodup_cons] at hn
    rcases List.mem_cons.mp h with rfl | hmem
    · exact moveOf_cons_self k m ms
    · have hk : k ≠ p.1 := fun he => hn.1 (List.mem_map.mpr ⟨(k, m), hmem, he⟩)
      rw [moveOf_cons_ne hk, ih hn.2 hmem]

theorem moveOf_eq_stay_or_mem (ms : List (κ × Move M)) (k : κ) :
    moveOf ms k = .stay ∨ (k, moveOf ms k) ∈ ms := by
  induction ms with
  | nil => exact .inl rfl
  | cons p ms ih =>
    obtain ⟨l, m⟩ := p
    by_cases hk : k = l
    · subst hk
      exact .inr (by simp)
    · rw [moveOf_cons_ne hk]
      exact ih.imp id (List.mem_cons_of_mem _)

theorem forall_moveOf_iff {R : κ → Move M → Prop} {ms : List (κ × Move M)}
    (hn : (ms.map Prod.fst).Nodup) (hstay : ∀ k, R k .stay) :
    (∀ k, R k (moveOf ms k)) ↔ ∀ p ∈ ms, R p.1 p.2 := by
  constructor
  · intro h p hp
    have hk := h p.1
    rwa [moveOf_of_mem hn hp] at hk
  · intro h k
    rcases moveOf_eq_stay_or_mem ms k with hs | hmem
    · rw [hs]
      exact hstay k
    · exact h _ hmem

end keyed

section order
variable {M : Type*} [AddCommGroup M] [LinearOrder M] [IsOrderedAddMonoid M]

def Move.Nonneg : Move M → Prop
  | .stay => True
  | .reserve x => 0 ≤ x
  | .settle x => 0 ≤ x
  | .release x => 0 ≤ x
  | .reverse x => 0 ≤ x

/-- The reservation, if the move is one, fits in what the fund does not hold. -/
def Fund.Room (amount : M) (f : Fund M) : Move M → Prop
  | .reserve x => f.held + x ≤ amount
  | _ => True

theorem Fund.apply_within_iff {amount : M} {f : Fund M} (h : f.held ≤ amount) {m : Move M}
    (hm : m.Nonneg) : (f.apply m).held ≤ amount ↔ f.Room amount m := by
  rw [Fund.held_apply]
  cases m with
  | stay => simpa [Move.reservedChange, Move.paidChange, Fund.Room] using h
  | reserve x => simp [Move.reservedChange, Move.paidChange, Fund.Room]
  | settle x => simpa [Move.reservedChange, Move.paidChange, Fund.Room] using h
  | release x =>
    have hx : f.held + (-x + 0) ≤ f.held := by
      simpa [Move.Nonneg] using hm
    simpa [Move.reservedChange, Move.paidChange, Fund.Room] using hx.trans h
  | reverse x => simpa [Move.reservedChange, Move.paidChange, Fund.Room] using h

end order
end Accounting
