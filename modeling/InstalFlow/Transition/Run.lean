import Mathlib.Data.List.Basic
import Mathlib.Data.List.Pairwise
import Mathlib.Tactic.Tauto

/-!
# Runs of labelled transition systems

A system is a step function on states and labels, every nondeterministic
choice of a step being part of its label. `Along` states a condition on every
step of a run, `Throughout` a property of every state of a run. The rules below
are the inductions over runs: an invariant of the steps holds after every run,
and when a condition decides whether one step keeps a property, the runs that
stay in the property are exactly the runs whose steps all meet the condition.
-/

namespace Transition
variable {σ α : Type*} (step : σ → α → σ)

def run (s : σ) (as : List α) : σ := as.foldl step s

@[simp] theorem run_nil (s : σ) : run step s [] = s := rfl

@[simp] theorem run_cons (s : σ) (a : α) (as : List α) :
    run step s (a :: as) = run step (step s a) as := rfl

theorem run_append (s : σ) (as bs : List α) :
    run step s (as ++ bs) = run step (run step s as) bs := List.foldl_append

def Reaches (s t : σ) : Prop := ∃ as, run step s as = t

theorem reaches_self (s : σ) : Reaches step s s := ⟨[], rfl⟩

theorem reaches_step (s : σ) (a : α) : Reaches step s (step s a) := ⟨[a], rfl⟩

variable {step} in
theorem Reaches.trans {s t u : σ} (hst : Reaches step s t) (htu : Reaches step t u) :
    Reaches step s u := by
  obtain ⟨as, has⟩ := hst
  obtain ⟨bs, hbs⟩ := htu
  exact ⟨as ++ bs, by rw [run_append, has, hbs]⟩

theorem reaches_foldl {β : Type*} {f : σ → β → σ} (h : ∀ s b, Reaches step s (f s b)) (s : σ)
    (bs : List β) : Reaches step s (bs.foldl f s) := by
  induction bs generalizing s with
  | nil => exact reaches_self step s
  | cons b bs ih => exact (h s b).trans (ih (f s b))

/-- Every step of the run meets `C` in the state in which it is taken. -/
def Along (C : σ → α → Prop) : σ → List α → Prop
  | _, [] => True
  | s, a :: as => C s a ∧ Along C (step s a) as

/-- Every state of the run, the first and the last included, meets `P`. -/
def Throughout (P : σ → Prop) : σ → List α → Prop
  | s, [] => P s
  | s, a :: as => P s ∧ Throughout P (step s a) as

instance decidableAlong {C : σ → α → Prop} [∀ s a, Decidable (C s a)] :
    ∀ (s : σ) (as : List α), Decidable (Along step C s as)
  | _, [] => inferInstanceAs (Decidable True)
  | s, a :: as =>
    have := decidableAlong (C := C) (step s a) as
    inferInstanceAs (Decidable (C s a ∧ Along step C (step s a) as))

instance decidableThroughout {P : σ → Prop} [∀ s, Decidable (P s)] :
    ∀ (s : σ) (as : List α), Decidable (Throughout step P s as)
  | s, [] => inferInstanceAs (Decidable (P s))
  | s, a :: as =>
    have := decidableThroughout (P := P) (step s a) as
    inferInstanceAs (Decidable (P s ∧ Throughout step P (step s a) as))

/-- The events of a run, in order; a step has at most one. -/
def history {β : Type*} (event : σ → α → Option β) : σ → List α → List β
  | _, [] => []
  | s, a :: as => (event s a).toList ++ history event (step s a) as

variable {step}

theorem along_and {C D : σ → α → Prop} {s : σ} {as : List α} :
    Along step (fun s a => C s a ∧ D s a) s as ↔ Along step C s as ∧ Along step D s as := by
  induction as generalizing s with
  | nil => simp [Along]
  | cons a as ih =>
    rw [Along, Along, Along, ih]
    tauto

theorem Along.imp {C D : σ → α → Prop} (hCD : ∀ s a, C s a → D s a) {s : σ} {as : List α}
    (h : Along step C s as) : Along step D s as := by
  induction as generalizing s with
  | nil => trivial
  | cons a as ih => exact ⟨hCD s a h.1, ih h.2⟩

theorem along_of_forall {C : σ → α → Prop} (h : ∀ s a, C s a) (s : σ) (as : List α) :
    Along step C s as := by
  induction as generalizing s with
  | nil => trivial
  | cons a as ih => exact ⟨h s a, ih (step s a)⟩

theorem Throughout.along {P : σ → Prop} {s : σ} {as : List α} (h : Throughout step P s as) :
    Along step (fun s _ => P s) s as := by
  induction as generalizing s with
  | nil => trivial
  | cons a as ih => exact ⟨h.1, ih h.2⟩

/-- What an invariant of the run gives for each step. -/
theorem along_of_invariant {I : σ → Prop} {C : σ → α → Prop} (hI : ∀ s a, I s → I (step s a))
    (hC : ∀ s a, I s → C s a) {s : σ} (h0 : I s) (as : List α) : Along step C s as := by
  induction as generalizing s with
  | nil => trivial
  | cons a as ih => exact ⟨hC s a h0, ih (hI s a h0)⟩

theorem Throughout.last {P : σ → Prop} {s : σ} {as : List α} (h : Throughout step P s as) :
    P (run step s as) := by
  induction as generalizing s with
  | nil => exact h
  | cons a as ih => exact ih h.2

theorem Throughout.imp {P Q : σ → Prop} (hPQ : ∀ s, P s → Q s) {s : σ} {as : List α}
    (h : Throughout step P s as) : Throughout step Q s as := by
  induction as generalizing s with
  | nil => exact hPQ s h
  | cons a as ih => exact ⟨hPQ s h.1, ih h.2⟩

/-- What the steps that meet `C` keep holds throughout the runs along which they meet it. -/
theorem Along.throughout {I : σ → Prop} {C : σ → α → Prop}
    (hI : ∀ s a, I s → C s a → I (step s a)) {s : σ} {as : List α} (h0 : I s)
    (h : Along step C s as) : Throughout step I s as := by
  induction as generalizing s with
  | nil => exact h0
  | cons a as ih => exact ⟨h0, ih (hI s a h0 h.1) h.2⟩

theorem run_invariant {I : σ → Prop} (hstep : ∀ s a, I s → I (step s a)) {s : σ} (h0 : I s)
    (as : List α) : I (run step s as) := by
  induction as generalizing s with
  | nil => exact h0
  | cons a as ih => exact ih (hstep s a h0)

section history
variable {β γ : Type*} {event : σ → α → Option β} {I J : σ → Prop} {p : β → Bool} {s : σ}

theorem forall_mem_history {Q : β → Prop} (hI : ∀ s a, I s → I (step s a))
    (hQ : ∀ s a b, I s → event s a = some b → Q b) (h0 : I s) (as : List α) :
    ∀ b ∈ history step event s as, Q b := by
  induction as generalizing s with
  | nil => exact fun b hb => nomatch hb
  | cons a as ih =>
    intro b hb
    rcases List.mem_append.mp hb with hb | hb
    · exact hQ s a b h0 (Option.mem_toList.mp hb)
    · exact ih (hI s a h0) b hb

/-- An event that leads to `J`, which does not let it happen again, happens once
in a run at most. -/
theorem countP_history_le_one (hI : ∀ s a, I s → I (step s a))
    (hJ : ∀ s a, I s → J s → J (step s a))
    (hevent : ∀ s a b, I s → event s a = some b → p b = true → ¬ J s ∧ J (step s a))
    (h0 : I s) (as : List α) :
    (history step event s as).countP p ≤ 1 ∧ (J s → (history step event s as).countP p = 0) := by
  induction as generalizing s with
  | nil => exact ⟨Nat.zero_le 1, fun _ => rfl⟩
  | cons a as ih =>
    obtain ⟨hle, hzero⟩ := ih (hI s a h0)
    rw [history, List.countP_append]
    cases he : event s a with
    | none =>
      rw [Option.toList_none, List.countP_nil, Nat.zero_add]
      exact ⟨hle, fun hj => hzero (hJ s a h0 hj)⟩
    | some b =>
      by_cases hp : p b = true
      · obtain ⟨hnj, hj'⟩ := hevent s a b h0 he hp
        simp [hp, hzero hj', hnj]
      · rw [Option.toList_some, List.countP_singleton, if_neg hp, Nat.zero_add]
        exact ⟨hle, fun hj => hzero (hJ s a h0 hj)⟩

/-- What each event appends to `v`, its history has appended after a run. -/
theorem run_history {v : σ → List γ} {g : β → List γ}
    (hv : ∀ s a, v (step s a) = v s ++ (event s a).toList.flatMap g) (as : List α) :
    v (run step s as) = v s ++ (history step event s as).flatMap g := by
  induction as generalizing s with
  | nil => simp [history]
  | cons a as ih => rw [run_cons, ih, hv, history, List.flatMap_append, List.append_assoc]

/-- What grows by the events that count, grows by their number. -/
theorem run_countP {I : σ → Prop} {p : β → Bool} {v : σ → ℕ} (hI : ∀ s a, I s → I (step s a))
    (hv : ∀ s a, I s → v (step s a) = v s + (event s a).toList.countP p) (h0 : I s) (as : List α) :
    v (run step s as) = v s + (history step event s as).countP p := by
  induction as generalizing s with
  | nil => rfl
  | cons a as ih =>
    rw [run_cons, ih (hI s a h0), hv s a h0, history, List.countP_append]
    omega

theorem countP_history_eq {p : β → Bool} {f : σ → α → Option γ}
    (h : ∀ s a, (event s a).toList.countP p = (f s a).toList.length) (as : List α) :
    (history step event s as).countP p = (history step f s as).length := by
  induction as generalizing s with
  | nil => rfl
  | cons a as ih => rw [history, history, List.countP_append, List.length_append, h, ih]

theorem history_bind {event : σ → α → Option β} (g : β → Option γ) (as : List α) :
    history step (fun s a => (event s a).bind g) s as = (history step event s as).filterMap g := by
  induction as generalizing s with
  | nil => rfl
  | cons a as ih =>
    rw [history, history, List.filterMap_append, ih]
    cases event s a with
    | none => rfl
    | some b => cases h : g b <;> simp [h]

/-- An event that is at most another one happens as often as that in exactly the runs
in which it always is that one. -/
theorem length_history_eq_iff {f g : σ → α → Option β} (hfg : ∀ s a, f s a = none ∨ f s a = g s a)
    (as : List α) : (history step f s as).length ≤ (history step g s as).length ∧
      ((history step f s as).length = (history step g s as).length ↔
        Along step (fun s a => f s a = g s a) s as) := by
  induction as generalizing s with
  | nil => simp [history, Along]
  | cons a as ih =>
    obtain ⟨hle, hiff⟩ := ih (s := step s a)
    rw [history, history, List.length_append, List.length_append, Along, ← hiff]
    rcases hfg s a with hnone | hsame
    · cases hg : g s a with
      | none => simp [hnone, hle]
      | some b =>
        rw [hnone, Option.toList_none, Option.toList_some, List.length_nil, List.length_singleton]
        refine ⟨by omega, iff_of_false (by omega) fun h => ?_⟩
        cases h.1
    · simp [hsame, hle]

theorem history_congr {f g : σ → α → Option β} {as : List α}
    (h : Along step (fun s a => f s a = g s a) s as) : history step f s as = history step g s as := by
  induction as generalizing s with
  | nil => rfl
  | cons a as ih => rw [history, history, h.1, ih h.2]

end history

section register
variable {β γ : Type*} {event : σ → α → Option β} {value : σ → γ} {f : β → γ} {I : σ → Prop} {s : σ}

/-- A register that every event overwrites holds what the last event of the run wrote. -/
theorem value_run (hI : ∀ s a, I s → I (step s a))
    (hvalue : ∀ s a, I s → value (step s a) = ((event s a).map f).getD (value s)) (h0 : I s)
    (as : List α) :
    value (run step s as) =
      (value s :: (history step event s as).map f).getLast (List.cons_ne_nil _ _) := by
  induction as generalizing s with
  | nil => rfl
  | cons a as ih =>
    rw [run_cons, ih (hI s a h0)]
    have hnext := hvalue s a h0
    cases he : event s a with
    | none =>
      rw [he, Option.map_none, Option.getD_none] at hnext
      simp only [history, he, hnext, Option.toList_none, List.nil_append]
    | some b =>
      rw [he, Option.map_some, Option.getD_some] at hnext
      simp only [history, he, hnext, Option.toList_some, List.singleton_append, List.map_cons,
        List.getLast_cons (List.cons_ne_nil _ _)]

/-- No event finds `x` in the register if and only if `x` is never overwritten. -/
theorem along_value_ne_iff {x : γ} (hI : ∀ s a, I s → I (step s a))
    (hvalue : ∀ s a, I s → value (step s a) = ((event s a).map f).getD (value s)) (h0 : I s)
    (as : List α) :
    Along step (fun s a => (event s a).isSome → value s ≠ x) s as ↔
      x ∉ (value s :: (history step event s as).map f).dropLast := by
  induction as generalizing s with
  | nil => simp [Along, history]
  | cons a as ih =>
    rw [Along, ih (hI s a h0), history]
    have hnext := hvalue s a h0
    cases he : event s a with
    | none =>
      rw [he, Option.map_none, Option.getD_none] at hnext
      simp [hnext]
    | some b =>
      rw [he, Option.map_some, Option.getD_some] at hnext
      simp only [hnext, Option.isSome_some, forall_const, Option.toList_some, List.map_cons,
        List.singleton_append, List.dropLast_cons_cons, List.mem_cons, not_or, ne_comm, ne_eq]

end register

/-- A property of steps that one step has exactly when it meets `C` holds along
exactly the runs that meet `C`, as long as `I` is kept by the steps that do. -/
theorem along_iff_along {I : σ → Prop} {C Q : σ → α → Prop}
    (hQ : ∀ s a, I s → (Q s a ↔ C s a)) (hI : ∀ s a, I s → C s a → I (step s a))
    {s : σ} {as : List α} (h0 : I s) : Along step Q s as ↔ Along step C s as := by
  induction as generalizing s with
  | nil => exact Iff.rfl
  | cons a as ih =>
    rw [Along, Along, hQ s a h0]
    constructor
    · intro h
      obtain ⟨hc, hq⟩ := h
      exact ⟨hc, (ih (hI s a h0 hc)).mp hq⟩
    · intro h
      obtain ⟨hc, hq⟩ := h
      exact ⟨hc, (ih (hI s a h0 hc)).mpr hq⟩

theorem throughout_iff_along_next {P : σ → Prop} {s : σ} {as : List α} :
    Throughout step P s as ↔ P s ∧ Along step (fun s a => P (step s a)) s as := by
  induction as generalizing s with
  | nil => simp [Throughout, Along]
  | cons a as ih => rw [Throughout, Along, ih]

/-- When `C` decides whether one step keeps `P`, the runs that stay in `P` are
exactly the runs whose steps all meet `C`. -/
theorem throughout_iff_along {I P : σ → Prop} {C : σ → α → Prop}
    (hP : ∀ s a, I s → P s → (P (step s a) ↔ C s a)) (hI : ∀ s a, I s → P s → I (step s a))
    {s : σ} {as : List α} (hI0 : I s) (hP0 : P s) :
    Throughout step P s as ↔ Along step C s as := by
  have hkeep : ∀ s a, (I s ∧ P s) → C s a → I (step s a) ∧ P (step s a) :=
    fun s a h hc => ⟨hI s a h.1 h.2, (hP s a h.1 h.2).mpr hc⟩
  have hiff : Along step (fun s a => P (step s a)) s as ↔ Along step C s as :=
    along_iff_along (fun s a (h : I s ∧ P s) => hP s a h.1 h.2) hkeep ⟨hI0, hP0⟩
  rw [throughout_iff_along_next, hiff]
  exact ⟨fun h => h.2, fun h => ⟨hP0, h⟩⟩

end Transition
