import Mathlib.Algebra.BigOperators.Group.List.Basic
import Mathlib.Data.List.Nodup
import Mathlib.Tactic.Abel

/-!
# Double-entry journals

A line of a journal debits and credits one account. The balance of an account
is a sum over its lines, signed by the side on which the account grows. However
the lines are spread over the accounts, the debit-normal balances exceed the
credit-normal ones by what the lines debit more than they credit.
-/

namespace Accounting

inductive Side
  | debit | credit
deriving DecidableEq

structure Line (ι M : Type*) where
  account : ι
  debit : M
  credit : M

namespace Journal
variable {ι M : Type*} [AddCommGroup M]

/-- What a line adds to an account that grows on the side. -/
def growth (side : Side) (l : Line ι M) : M :=
  match side with
  | .debit => l.debit - l.credit
  | .credit => l.credit - l.debit

theorem growth_credit (l : Line ι M) : growth .credit l = -growth .debit l := by
  rw [growth, growth]
  abel

/-- By how much the lines debit more than they credit. -/
def excess (ls : List (Line ι M)) : M := (ls.map (growth .debit)).sum

@[simp] theorem excess_nil : excess ([] : List (Line ι M)) = 0 := rfl

@[simp] theorem excess_cons (l : Line ι M) (ls : List (Line ι M)) :
    excess (l :: ls) = growth .debit l + excess ls := by
  simp [excess]

theorem excess_append (ls ms : List (Line ι M)) : excess (ls ++ ms) = excess ls + excess ms := by
  simp [excess]

theorem excess_filter_or {p q : Line ι M → Bool} {ls : List (Line ι M)}
    (h : ∀ l, p l = true → q l = false) :
    excess (ls.filter (fun l => p l || q l)) = excess (ls.filter p) + excess (ls.filter q) := by
  induction ls with
  | nil => simp
  | cons l ls ih =>
    by_cases hp : p l
    · simp only [List.filter_cons, hp, h l hp, Bool.or_false, if_true, Bool.false_eq_true, if_false,
        excess_cons, ih]
      abel
    · by_cases hq : q l
      · simp only [List.filter_cons, hp, hq, Bool.or_true, if_true, Bool.false_eq_true, if_false,
          excess_cons, ih]
        abel
      · simp [hp, hq, ih]

variable [DecidableEq ι]

def balance (side : Side) (ls : List (Line ι M)) (i : ι) : M :=
  ((ls.filter (fun l => l.account = i)).map (growth side)).sum

theorem balance_append (side : Side) (ls ms : List (Line ι M)) (i : ι) :
    balance side (ls ++ ms) i = balance side ls i + balance side ms i := by
  simp [balance]

theorem balance_singleton (side : Side) (l : Line ι M) (i : ι) :
    balance side [l] i = if l.account = i then growth side l else 0 := by
  by_cases h : l.account = i <;> simp [balance, h]

theorem balance_eq_zero {side : Side} {ls : List (Line ι M)} {i : ι}
    (h : ∀ l ∈ ls, l.account ≠ i) : balance side ls i = 0 := by
  have hnil : ls.filter (fun l => l.account = i) = [] :=
    List.filter_eq_nil_iff.mpr (by simpa using h)
  simp [balance, hnil]

theorem balance_debit (ls : List (Line ι M)) (i : ι) :
    balance .debit ls i = excess (ls.filter (fun l => l.account = i)) := rfl

theorem balance_credit (ls : List (Line ι M)) (i : ι) :
    balance .credit ls i = -excess (ls.filter (fun l => l.account = i)) := by
  rw [balance]
  induction ls.filter (fun l => l.account = i) with
  | nil => simp
  | cons l ls ih =>
    rw [List.map_cons, List.sum_cons, ih, growth_credit, excess_cons]
    abel

/-- The trial balance of a list of accounts with distinct names. -/
theorem trial_balance {κ : Type*} {name : κ → ι} (normal : κ → Side) (ls : List (Line ι M))
    {ks : List κ} (h : (ks.map name).Nodup) :
    ((ks.filter (fun k => normal k = .debit)).map (fun k => balance .debit ls (name k))).sum -
        ((ks.filter (fun k => normal k = .credit)).map
          (fun k => balance .credit ls (name k))).sum =
      excess (ls.filter (fun l => l.account ∈ ks.map name)) := by
  induction ks with
  | nil => simp
  | cons k ks ih =>
    rw [List.map_cons, List.nodup_cons] at h
    have hsplit : excess (ls.filter (fun l => l.account ∈ (k :: ks).map name)) =
        excess (ls.filter (fun l => l.account = name k)) +
          excess (ls.filter (fun l => l.account ∈ ks.map name)) := by
      rw [← excess_filter_or (p := fun l => l.account = name k)
        (q := fun l => l.account ∈ ks.map name)]
      · simp
      · intro l hl
        have hlk : l.account = name k := by simpa using hl
        rw [hlk]
        exact decide_eq_false h.1
    rw [hsplit, ← ih h.2]
    cases hn : normal k with
    | debit =>
      simp [hn, balance_debit]
      abel
    | credit =>
      simp [hn, balance_credit]
      abel

end Journal
end Accounting
