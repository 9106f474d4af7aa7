import InstalFlow.Transition.Program
import Mathlib.Algebra.BigOperators.Group.Finset.Piecewise
import Mathlib.Data.Fintype.Basic

/-!
# What the threads of an interleaving write

The writes of a run are recorded with the threads that sent them. What a program
writes on its way to a result is read off the program alone, and what all threads
write together is the sum of what each one does.
-/

namespace Transition
variable {σ ω ε α β : Type}

namespace Program

/-- Whatever the program reads, it ends with writes and a result that meet `Q`, when it
has sent the writes `ws` so far. -/
def Yields (Q : List ω → α → Prop) : Program σ ω ε α → List ω → Prop
  | done a, ws => Q ws a
  | read next, ws => ∀ e s, (next e s).Yields Q ws
  | write w next, ws => ∀ e s, (next e s).Yields Q (ws ++ [w])

variable {Q : List ω → α → Prop} {Q' : List ω → β → Prop} {p : Program σ ω ε α} {ws : List ω}

theorem Yields.bind {f : α → Program σ ω ε β}
    (h : p.Yields (fun ws a => (f a).Yields Q' ws) ws) : (p.bind f).Yields Q' ws := by
  induction p generalizing ws with
  | done a => exact h
  | read next ih => exact fun e s => ih e s (h e s)
  | write w next ih => exact fun e s => ih e s (h e s)

theorem Yields.imp {P : List ω → α → Prop} (hPQ : ∀ ws a, P ws a → Q ws a) (h : p.Yields P ws) :
    p.Yields Q ws := by
  induction p generalizing ws with
  | done a => exact hPQ ws a h
  | read next ih => exact fun e s => ih e s (h e s)
  | write w next ih => exact fun e s => ih e s (h e s)

theorem Yields.advance {execute : ε → σ → ω → σ} (h : p.Yields Q ws) (e : ε) (s : σ) :
    (p.advance execute e s).2.Yields Q (ws ++ p.pending.toList) := by
  cases p with
  | done a => simpa [Program.advance, Program.pending] using h
  | read next => simpa [Program.advance, Program.pending] using h e s
  | write w next => exact h e s

theorem Yields.of_result (h : p.Yields Q ws) {a : α} (ha : p.result = some a) : Q ws a := by
  cases p with
  | done b =>
    cases ha
    exact h
  | read next => cases ha
  | write w next => cases ha

/-- A program whose writes do not matter to `Q`. -/
theorem Sends.yields {A : ω → Prop} (hp : p.Sends A) {P : List ω → Prop}
    (hP : ∀ ws w, A w → P ws → P (ws ++ [w])) (h : P ws) : p.Yields (fun ws _ => P ws) ws := by
  induction p generalizing ws with
  | done a => exact h
  | read next ih => exact fun e s => ih e s (hp e s) h
  | write w next ih => exact fun e s => ih e s (hp.2 e s) (hP ws w hp.1 h)

section exceptions
variable {η : Type} {Q' : List ω → Except η β → Prop} {m : ExceptT η (Program σ ω ε) α}

theorem Yields.exceptBind {f : α → ExceptT η (Program σ ω ε) β}
    (h : Yields (fun ws r => (∀ a, r = .ok a → Yields Q' (f a).run ws) ∧
      ∀ err, r = .error err → Q' ws (.error err)) m.run ws) : Yields Q' (m >>= f).run ws := by
  refine bind (imp (fun ws r hr => ?_) h)
  cases r with
  | error err => exact hr.2 err rfl
  | ok a => exact hr.1 a rfl

end exceptions

/-- The program on a store of which it sees a part, with its writes among others. -/
def embed {σ' ω' : Type} (view : σ' → σ) (f : ω → ω') : Program σ ω ε α → Program σ' ω' ε α
  | done a => done a
  | read next => read fun e s => (next e (view s)).embed view f
  | write w next => write (f w) fun e s => (next e (view s)).embed view f

theorem Sends.embed {σ' ω' : Type} {view : σ' → σ} {f : ω → ω'} {A : ω' → Prop}
    (hp : p.Sends fun w => A (f w)) : (p.embed view f).Sends A := by
  induction p with
  | done a => trivial
  | read next ih => exact fun e s => ih e (view s) (hp e (view s))
  | write w next ih => exact ⟨hp.1, fun e s => ih e (view s) (hp.2 e (view s))⟩

end Program

section interleaving
variable {ι : Type} [DecidableEq ι] {execute : ε → σ → ω → σ}

/-- The write that the step executes, with the thread that sends it. -/
def sent (c : Config σ ι (Program σ ω ε α)) (l : ι × ε) : Option (ι × ω) :=
  (c.threads l.1).pending.map fun w => (l.1, w)

def writesOf (i : ι) (ws : List (ι × ω)) : List ω := (ws.filter (fun x => x.1 = i)).map Prod.snd

theorem writesOf_append (i : ι) (ws vs : List (ι × ω)) :
    writesOf i (ws ++ vs) = writesOf i ws ++ writesOf i vs := by
  simp [writesOf]

theorem writesOf_sent (c : Config σ ι (Program σ ω ε α)) (l : ι × ε) (i : ι) :
    writesOf i (sent c l).toList = if i = l.1 then (c.threads i).pending.toList else [] := by
  rw [sent]
  by_cases hi : i = l.1
  · subst hi
    cases (c.threads l.1).pending <;> simp [writesOf]
  · have hne : l.1 ≠ i := fun h => hi h.symm
    cases (c.threads l.1).pending <;> simp [writesOf, hi, hne]

/-- In every interleaving a thread yields what its program does. -/
theorem yields_perform {Q : ι → List ω → α → Prop} {c : Config σ ι (Program σ ω ε α)}
    {ws : List (ι × ω)} (h : ∀ i, (c.threads i).Yields (Q i) (writesOf i ws)) (l : ι × ε) (i : ι) :
    ((perform execute c l).threads i).Yields (Q i) (writesOf i (ws ++ (sent c l).toList)) := by
  rw [writesOf_append, writesOf_sent]
  by_cases hi : i = l.1
  · subst hi
    rw [perform, Config.step_threads_self, if_pos rfl]
    exact (h l.1).advance l.2 c.shared
  · rw [perform, Config.step_threads_ne _ c hi, if_neg hi, List.append_nil]
    exact h i

theorem yields_run {Q : ι → List ω → α → Prop} {c : Config σ ι (Program σ ω ε α)}
    {ws : List (ι × ω)} (h : ∀ i, (c.threads i).Yields (Q i) (writesOf i ws)) (ls : List (ι × ε))
    (i : ι) : ((run (perform execute) c ls).threads i).Yields (Q i)
      (writesOf i (ws ++ history (perform execute) sent c ls)) := by
  induction ls generalizing c ws with
  | nil => simpa [history] using h i
  | cons l ls ih =>
    rw [run_cons, history, ← List.append_assoc]
    exact ih (yields_perform h l)

/-- What is counted in the writes of each thread is counted in all writes together. -/
theorem sum_countP_writesOf [Fintype ι] (p : ω → Bool) (ws : List (ι × ω)) :
    ∑ i, (writesOf i ws).countP p = ws.countP (fun x => p x.2) := by
  induction ws with
  | nil => simp [writesOf]
  | cons x ws ih =>
    have hcons (i : ι) : (writesOf i (x :: ws)).countP p =
        (writesOf i ws).countP p + if x.1 = i then (if p x.2 then 1 else 0) else 0 := by
      by_cases hi : x.1 = i <;> simp [writesOf, hi, List.countP_cons]
    rw [Finset.sum_congr rfl fun i _ => hcons i, Finset.sum_add_distrib, ih, Finset.sum_ite_eq,
      if_pos (Finset.mem_univ x.1), List.countP_cons]

end interleaving
end Transition
