import Mathlib.Data.List.Basic
import Mathlib.Tactic.Cases

/-!
# Transactions with writes outside of them

The body of an interactive transaction is a list of statements. Those sent
through the client of the transaction change only what the transaction itself
sees until it commits; a statement that the body sends through another client is
committed at once and survives a rollback. The body may fail at every statement
and at the commit.
-/

namespace Relational

/-- A statement: `inside` is sent through the transaction's client, and may also
read and set the local variables `γ` of the body. -/
inductive TransactionStep (σ γ ε : Type)
  | inside (f : γ → σ → Except ε (γ × σ))
  | outside (f : σ → Except ε σ)

structure TransactionState (σ γ : Type) where
  committed : σ
  view : σ
  locals : γ

namespace Transaction
variable {σ γ ε : Type}

def step (s : TransactionState σ γ) : TransactionStep σ γ ε → Except ε (TransactionState σ γ)
  | .inside f =>
    match f s.locals s.view with
    | .error err => .error err
    | .ok (locals, view) => .ok { s with locals, view }
  | .outside f =>
    match f s.committed with
    | .error err => .error err
    | .ok committed => .ok { s with committed, view := (f s.view).toOption.getD s.view }

def steps : TransactionState σ γ → List (TransactionStep σ γ ε) →
    Except ε (TransactionState σ γ)
  | s, [] => .ok s
  | s, x :: body =>
    match step s x with
    | .error err => .error err
    | .ok s => steps s body

/-- The store after the body has failed at the statement number `k`, those
before it having succeeded; after the last statement comes the commit. -/
def failedAt (body : List (TransactionStep σ γ ε)) (locals : γ) (k : ℕ) (s : σ) : Option σ :=
  if k ≤ body.length then
    (steps ⟨s, s, locals⟩ (body.take k)).toOption.map TransactionState.committed
  else none

/-- The transaction with nothing but the refusals of its own statements. -/
def execute : TransactionState σ γ → List (TransactionStep σ γ ε) → σ × Except ε γ
  | s, [] => (s.view, .ok s.locals)
  | s, x :: body =>
    match step s x with
    | .error err => (s.committed, .error err)
    | .ok s => execute s body

theorem execute_of_ok {s t : TransactionState σ γ} {x : TransactionStep σ γ ε}
    {body : List (TransactionStep σ γ ε)} (h : step s x = .ok t) :
    execute s (x :: body) = execute t body := by
  rw [execute, h]

/-- A statement that fails ends the transaction. -/
theorem execute_of_error {s : TransactionState σ γ} {x : TransactionStep σ γ ε} {err : ε}
    {body : List (TransactionStep σ γ ε)} (h : step s x = .error err) :
    execute s (x :: body) = (s.committed, .error err) := by
  rw [execute, h]

def IsInside : TransactionStep σ γ ε → Prop
  | .inside _ => True
  | .outside _ => False

theorem step_committed {s t : TransactionState σ γ} {x : TransactionStep σ γ ε} (hx : IsInside x)
    (h : step s x = .ok t) : t.committed = s.committed := by
  cases x with
  | outside f => exact hx.elim
  | inside f =>
    rw [step] at h
    split at h
    · cases h
    · cases h
      rfl

/-- A statement of the transaction's client, peeled off. -/
theorem steps_inside_eq_ok {s t : TransactionState σ γ} {f : γ → σ → Except ε (γ × σ)}
    {body : List (TransactionStep σ γ ε)} (h : steps s (.inside f :: body) = .ok t) :
    ∃ locals view, f s.locals s.view = .ok (locals, view) ∧
      steps { s with locals, view } body = .ok t := by
  rw [steps, step] at h
  cases hf : f s.locals s.view with
  | error err =>
    rw [hf] at h
    cases h
  | ok r =>
    rw [hf] at h
    exact ⟨r.1, r.2, rfl, h⟩

theorem steps_append (s : TransactionState σ γ) (xs ys : List (TransactionStep σ γ ε)) :
    steps s (xs ++ ys) =
      match steps s xs with
      | .error err => .error err
      | .ok t => steps t ys := by
  induction xs generalizing s with
  | nil => rfl
  | cons x xs ih =>
    rw [List.cons_append, steps, steps]
    cases step s x with
    | error err => rfl
    | ok t => exact ih t

/-- A transaction that fails before it has written outside leaves no trace. -/
theorem execute_append_of_error {xs ys : List (TransactionStep σ γ ε)} {err : ε}
    (hxs : ∀ x ∈ xs, IsInside x) {s : TransactionState σ γ} (h : steps s xs = .error err) :
    execute s (xs ++ ys) = (s.committed, .error err) := by
  induction xs generalizing s with
  | nil => cases h
  | cons x xs ih =>
    rw [steps] at h
    rw [List.cons_append]
    cases hx : step s x with
    | error err' =>
      rw [hx] at h
      cases h
      exact execute_of_error hx
    | ok t =>
      rw [hx] at h
      rw [execute_of_ok hx, ih (fun y hy => hxs y (List.mem_cons_of_mem x hy)) h,
        step_committed (hxs x List.mem_cons_self) hx]

theorem steps_committed {body : List (TransactionStep σ γ ε)} (hbody : ∀ x ∈ body, IsInside x)
    {s t : TransactionState σ γ} (h : steps s body = .ok t) : t.committed = s.committed := by
  induction body generalizing s with
  | nil =>
    cases h
    rfl
  | cons x body ih =>
    rw [steps] at h
    cases hx : step s x with
    | error err =>
      rw [hx] at h
      cases h
    | ok u =>
      rw [hx] at h
      rw [ih (fun y hy => hbody y (List.mem_cons_of_mem x hy)) h]
      exact step_committed (hbody x List.mem_cons_self) hx

theorem failedAt_eq_some {body : List (TransactionStep σ γ ε)} {locals : γ} {k : ℕ} {s c : σ} :
    failedAt body locals k s = some c ↔
      k ≤ body.length ∧ ∃ t, steps ⟨s, s, locals⟩ (body.take k) = .ok t ∧ t.committed = c := by
  rw [failedAt]
  by_cases hk : k ≤ body.length
  · rw [if_pos hk]
    cases hsteps : steps ⟨s, s, locals⟩ (body.take k) with
    | error err => simp [Except.toOption]
    | ok t => simp [Except.toOption, hk]
  · simp [hk]

section onceOutside
variable {before after : List (TransactionStep σ γ ε)} {f : σ → Except ε σ} {locals : γ} {s c : σ}
  {k : ℕ}

/-- A body that writes once outside: up to that statement a failure leaves no
trace, and after it the write stays. -/
theorem failedAt_onceOutside (hbefore : ∀ x ∈ before, IsInside x) (hafter : ∀ x ∈ after, IsInside x)
    (h : failedAt (before ++ .outside f :: after) locals k s = some c) :
    if k ≤ before.length then c = s else f s = .ok c := by
  obtain ⟨hk, t, ht, rfl⟩ := failedAt_eq_some.mp h
  by_cases hle : k ≤ before.length
  · rw [if_pos hle]
    rw [List.take_append_of_le_length hle] at ht
    exact steps_committed (fun x hx => hbefore x (List.mem_of_mem_take hx)) ht
  · rw [if_neg hle]
    obtain ⟨n, hn⟩ : ∃ n, k = before.length + (n + 1) := ⟨k - before.length - 1, by omega⟩
    rw [hn, List.take_length_add_append, List.take_succ_cons, steps_append] at ht
    cases hfirst : steps ⟨s, s, locals⟩ before with
    | error err =>
      rw [hfirst] at ht
      cases ht
    | ok u =>
      rw [hfirst] at ht
      have hu : u.committed = s := steps_committed hbefore hfirst
      simp only [steps, step, hu] at ht
      cases hf : f s with
      | error err =>
        rw [hf] at ht
        cases ht
      | ok c =>
        rw [hf] at ht
        have hc := steps_committed (fun x hx => hafter x (List.mem_of_mem_take hx)) ht
        simp only at hc
        rw [hc]

end onceOutside
end Transaction
end Relational
