import InstalFlow.Transition.Interleaving

/-!
# Programs of atomic statements

A client of a shared store is a program: a sequence of statements, each of which
either reads the store or writes it, and whose continuation may depend on what
the store was and on an input of the environment (a time, an answer from
outside). Each statement is atomic, and those of several programs are executed
in any order. A property of single statements decides the property of all runs.
-/

namespace Transition

/-- `ω` are the writing statements, `ε` the inputs of the environment. -/
inductive Program (σ ω ε α : Type)
  | done (result : α)
  | read (next : ε → σ → Program σ ω ε α)
  | write (w : ω) (next : ε → σ → Program σ ω ε α)

namespace Program
variable {σ ω ε α β : Type}

def bind : Program σ ω ε α → (α → Program σ ω ε β) → Program σ ω ε β
  | done a, f => f a
  | read next, f => read fun e s => (next e s).bind f
  | write w next, f => write w fun e s => (next e s).bind f

instance : Monad (Program σ ω ε) where
  pure := done
  bind := bind

theorem bind_assoc {γ : Type} (p : Program σ ω ε α) (f : α → Program σ ω ε β)
    (g : β → Program σ ω ε γ) : (p.bind f).bind g = p.bind fun a => (f a).bind g := by
  induction p with
  | done a => rfl
  | read next ih => exact congrArg read (funext fun e => funext fun s => ih e s)
  | write w next ih => exact congrArg (write w) (funext fun e => funext fun s => ih e s)

/-- The write that the program is about to execute. -/
def pending : Program σ ω ε α → Option ω
  | write w _ => some w
  | _ => none

/-- What the program has returned. -/
def result : Program σ ω ε α → Option α
  | done a => some a
  | _ => none

def advance (execute : ε → σ → ω → σ) (e : ε) (s : σ) : Program σ ω ε α → σ × Program σ ω ε α
  | done a => (s, done a)
  | read next => (s, next e s)
  | write w next => (execute e s w, next e s)

/-- The program executed alone to its end, with the same input at every statement. -/
def complete (execute : ε → σ → ω → σ) (e : ε) : Program σ ω ε α → σ → σ × α
  | done a, s => (s, a)
  | read next, s => (next e s).complete execute e s
  | write w next, s => (next e s).complete execute e (execute e s w)

/-- The program executed alone until it is stopped after `n` statements. -/
def interrupt (execute : ε → σ → ω → σ) (e : ε) : ℕ → Program σ ω ε α → σ → σ
  | 0, _, s => s
  | n + 1, p, s => (p.advance execute e s).2.interrupt execute e n (p.advance execute e s).1

/-- Every write that the program can come to send meets `A`. -/
def Sends (A : ω → Prop) : Program σ ω ε α → Prop
  | done _ => True
  | read next => ∀ e s, (next e s).Sends A
  | write w next => A w ∧ ∀ e s, (next e s).Sends A

variable {A : ω → Prop} {execute : ε → σ → ω → σ}

theorem advance_shared (e : ε) (s : σ) (p : Program σ ω ε α) :
    (p.advance execute e s).1 = (p.pending.map (execute e s)).getD s := by
  cases p <;> rfl

/-- The rule for one statement: reading keeps what every relevant write keeps. -/
theorem advance_iff {Q : σ → σ → Prop} {C : ε → σ → ω → Prop} (hread : ∀ s, Q s s)
    (hwrite : ∀ e s w, Q s (execute e s w) ↔ C e s w) (e : ε) (s : σ) (p : Program σ ω ε α) :
    Q s (p.advance execute e s).1 ↔ ∀ w ∈ p.pending, C e s w := by
  rw [advance_shared]
  cases p.pending with
  | none => simp [hread]
  | some w => simp [hwrite]

/-- What every write keeps, an interrupted program keeps. -/
theorem interrupt_invariant {P : σ → Prop} {e : ε} (h : ∀ s w, P s → P (execute e s w)) (n : ℕ)
    (p : Program σ ω ε α) {s : σ} (hs : P s) : P (p.interrupt execute e n s) := by
  induction n generalizing p s with
  | zero => exact hs
  | succ n ih =>
    refine ih _ ?_
    rw [advance_shared]
    cases p.pending with
    | none => exact hs
    | some w => exact h s w hs

/-- What every write keeps, a program executed alone keeps. -/
theorem complete_invariant {P : σ → Prop} {e : ε} (h : ∀ s w, P s → P (execute e s w))
    (p : Program σ ω ε α) {s : σ} (hs : P s) : P (p.complete execute e s).1 := by
  induction p generalizing s with
  | done a => exact hs
  | read next ih => exact ih e s hs
  | write w next ih => exact ih e s (h s w hs)

theorem Sends.advance {p : Program σ ω ε α} (hp : p.Sends A) (e : ε) (s : σ) :
    (p.advance execute e s).2.Sends A := by
  cases p with
  | done a => trivial
  | read next => exact hp e s
  | write w next => exact hp.2 e s

theorem Sends.imp {B : ω → Prop} {p : Program σ ω ε α} (hAB : ∀ w, A w → B w) (hp : p.Sends A) :
    p.Sends B := by
  induction p with
  | done a => trivial
  | read next ih => exact fun e s => ih e s (hp e s)
  | write w next ih => exact ⟨hAB w hp.1, fun e s => ih e s (hp.2 e s)⟩

theorem Sends.pending {p : Program σ ω ε α} (hp : p.Sends A) : ∀ w ∈ p.pending, A w := by
  cases p with
  | done a => simp [Program.pending]
  | read next => simp [Program.pending]
  | write w next =>
    intro w' hw
    cases hw
    exact hp.1

theorem complete_bind (p : Program σ ω ε α) (f : α → Program σ ω ε β) (e : ε) (s : σ) :
    (p.bind f).complete execute e s =
      (f (p.complete execute e s).2).complete execute e (p.complete execute e s).1 := by
  induction p generalizing s with
  | done a => rfl
  | read next ih => exact ih e s s
  | write w next ih => exact ih e s (execute e s w)

/-- What the writes of a program keep, its execution keeps. -/
theorem Sends.complete {P : σ → Prop} {e : ε} (hP : ∀ s w, A w → P s → P (execute e s w))
    {p : Program σ ω ε α} (hp : p.Sends A) {s : σ} (hs : P s) : P (p.complete execute e s).1 := by
  induction p generalizing s with
  | done a => exact hs
  | read next ih => exact ih e s (hp e s) hs
  | write w next ih => exact ih e s (hp.2 e s) (hP s w hp.1 hs)

theorem Sends.bind {p : Program σ ω ε α} {f : α → Program σ ω ε β} (hp : p.Sends A)
    (hf : ∀ a, (f a).Sends A) : (p.bind f).Sends A := by
  induction p with
  | done a => exact hf a
  | read next ih => exact fun e s => ih e s (hp e s)
  | write w next ih => exact ⟨hp.1, fun e s => ih e s (hp.2 e s)⟩

section exceptions
variable {η : Type} {p : ExceptT η (Program σ ω ε) α}

theorem Sends.exceptBind {f : α → ExceptT η (Program σ ω ε) β} (hp : Sends A p.run)
    (hf : ∀ a, Sends A (f a).run) : Sends A (p >>= f).run := by
  refine Sends.bind hp fun r => ?_
  cases r with
  | error err => trivial
  | ok a => exact hf a

theorem complete_exceptBind (p : ExceptT η (Program σ ω ε) α)
    (f : α → ExceptT η (Program σ ω ε) β) (e : ε) (s : σ) :
    (p >>= f).run.complete execute e s =
      match p.run.complete execute e s with
      | (t, .ok a) => (f a).run.complete execute e t
      | (t, .error err) => (t, .error err) := by
  refine (complete_bind p.run _ e s).trans ?_
  cases h : p.run.complete execute e s with
  | mk t r => cases r <;> rfl

theorem complete_exceptTryCatch (p : ExceptT η (Program σ ω ε) α)
    (f : η → ExceptT η (Program σ ω ε) α) (e : ε) (s : σ) :
    (tryCatch p f).run.complete execute e s =
      match p.run.complete execute e s with
      | (t, .ok a) => (t, .ok a)
      | (t, .error err) => (f err).run.complete execute e t := by
  refine (complete_bind p.run _ e s).trans ?_
  cases h : p.run.complete execute e s with
  | mk t r => cases r <;> rfl

theorem Sends.exceptMap (f : α → β) (hp : Sends A p.run) : Sends A (f <$> p).run := by
  refine Sends.bind hp fun r => ?_
  cases r <;> trivial

theorem Sends.exceptTryCatch {f : η → ExceptT η (Program σ ω ε) α} (hp : Sends A p.run)
    (hf : ∀ err, Sends A (f err).run) : Sends A (tryCatch p f).run := by
  refine Sends.bind hp fun r => ?_
  cases r with
  | error err => exact hf err
  | ok a => trivial

end exceptions
end Program

section interleaving
variable {σ ω ε α ι : Type} [DecidableEq ι]

/-- One thread executes its next statement, with what the environment gives it. -/
def perform (execute : ε → σ → ω → σ) (c : Config σ ι (Program σ ω ε α)) (l : ι × ε) :
    Config σ ι (Program σ ω ε α) :=
  c.step (fun _ s p => p.advance execute l.2 s) l.1

variable {execute : ε → σ → ω → σ}

theorem perform_shared (c : Config σ ι (Program σ ω ε α)) (l : ι × ε) :
    (perform execute c l).shared = ((c.threads l.1).advance execute l.2 c.shared).1 := rfl

theorem perform_iff {Q : σ → σ → Prop} {C : ε → σ → ω → Prop} (hread : ∀ s, Q s s)
    (hwrite : ∀ e s w, Q s (execute e s w) ↔ C e s w) (c : Config σ ι (Program σ ω ε α))
    (l : ι × ε) : Q c.shared (perform execute c l).shared ↔
      ∀ w ∈ (c.threads l.1).pending, C l.2 c.shared w :=
  Program.advance_iff hread hwrite l.2 c.shared (c.threads l.1)

/-- What every write keeps, all interleavings of any programs keep. -/
theorem perform_invariant {P : σ → Prop} (h : ∀ e s w, P s → P (execute e s w))
    {c : Config σ ι (Program σ ω ε α)} (hc : P c.shared) (ls : List (ι × ε)) :
    P (run (perform execute) c ls).shared := by
  refine run_invariant (I := fun c : Config σ ι (Program σ ω ε α) => P c.shared) ?_ hc ls
  intro c l hc
  rw [perform_shared, Program.advance_shared]
  cases (c.threads l.1).pending with
  | none => exact hc
  | some w => exact h l.2 c.shared w hc

theorem perform_sends {A : ι → ω → Prop} {c : Config σ ι (Program σ ω ε α)}
    (h : ∀ i, (c.threads i).Sends (A i)) (l : ι × ε) (i : ι) :
    ((perform execute c l).threads i).Sends (A i) := by
  by_cases hi : i = l.1
  · subst hi
    rw [perform, Config.step_threads_self]
    exact (h l.1).advance l.2 c.shared
  · rw [perform, Config.step_threads_ne _ c hi]
    exact h i

/-- When `C` decides whether a write that some program may send keeps `P`, the
interleavings that stay in `P` are those whose writes all meet `C`. -/
theorem perform_throughout_iff {A : ω → Prop} {I P : σ → Prop} {C : ε → σ → ω → Prop}
    (hP : ∀ e s w, A w → I s → P s → (P (execute e s w) ↔ C e s w))
    (hI : ∀ e s w, A w → I s → I (execute e s w)) {c : Config σ ι (Program σ ω ε α)}
    (hA : ∀ i, (c.threads i).Sends A) (hI0 : I c.shared) (hP0 : P c.shared) (ls : List (ι × ε)) :
    Throughout (perform execute) (fun c => P c.shared) c ls ↔
      Along (perform execute) (fun c l => ∀ w ∈ (c.threads l.1).pending, C l.2 c.shared w) c ls := by
  refine throughout_iff_along (I := fun c => I c.shared ∧ ∀ i, (c.threads i).Sends A)
    (fun c l hc hs => ?_) (fun c l hc _ => ?_) ⟨hI0, hA⟩ hP0
  · rw [perform_shared, Program.advance_shared]
    cases hw : (c.threads l.1).pending with
    | none => simp [hs]
    | some w => simp [hP l.2 c.shared w ((hc.2 l.1).pending w hw) hc.1 hs]
  · refine ⟨?_, perform_sends hc.2 l⟩
    rw [perform_shared, Program.advance_shared]
    cases hw : (c.threads l.1).pending with
    | none => exact hc.1
    | some w => exact hI l.2 c.shared w ((hc.2 l.1).pending w hw) hc.1

end interleaving
end Transition
