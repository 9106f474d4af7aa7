import InstalFlow.Transition.Program

/-!
# Proof outlines of programs

What one program knows about the shared store while others run, in the style of
rely and guarantee. `R` is what the other programs may do between two of its
statements, `C` a condition under which it is followed, `A` what is known of the
store when it writes, and `Q` of its result. An outline is read off the program
alone, and holds in all interleavings whose steps keep to `R`.
-/

namespace Transition
variable {σ ω ε α β : Type}

namespace Program

def Outline (execute : ε → σ → ω → σ) (R : σ → σ → Prop) (C : σ → Option ω → Prop)
    (A : σ → ω → Prop) (Q : σ → α → Prop) : Program σ ω ε α → σ → Prop
  | done a, s => Q s a
  | read next, s => ∀ e t, R s t → C t none → Outline execute R C A Q (next e t) t
  | write w next, s => ∀ e t, R s t → C t (some w) →
      A t w ∧ Outline execute R C A Q (next e t) (execute e t w)

namespace Outline
variable {execute : ε → σ → ω → σ} {R : σ → σ → Prop} {C : σ → Option ω → Prop}
  {A : σ → ω → Prop} {Q : σ → α → Prop} {p : Program σ ω ε α} {s t : σ}

/-- What the others do does not invalidate an outline. -/
theorem stable (htrans : ∀ {s t u}, R s t → R t u → R s u)
    (hQ : ∀ {s t a}, R s t → Q s a → Q t a) (h : Outline execute R C A Q p s) (hst : R s t) :
    Outline execute R C A Q p t := by
  cases p with
  | done a => exact hQ hst h
  | read next => exact fun e u htu hC => h e u (htrans hst htu) hC
  | write w next => exact fun e u htu hC => h e u (htrans hst htu) hC

theorem advance (hrefl : ∀ s, R s s) (h : Outline execute R C A Q p s) (hC : C s p.pending)
    (e : ε) : Outline execute R C A Q (p.advance execute e s).2 (p.advance execute e s).1 := by
  cases p with
  | done a => exact h
  | read next => exact h e s (hrefl s) hC
  | write w next => exact (h e s (hrefl s) hC).2

theorem pending (hrefl : ∀ s, R s s) (h : Outline execute R C A Q p s) (hC : C s p.pending)
    (e : ε) : ∀ w ∈ p.pending, A s w := by
  intro w hw
  cases p with
  | done a => cases hw
  | read next => cases hw
  | write v next =>
    cases hw
    exact (h e s (hrefl s) hC).1

theorem result {a : α} (h : Outline execute R C A Q p s) (ha : p.result = some a) : Q s a := by
  cases p with
  | done b =>
    cases ha
    exact h
  | read next => cases ha
  | write w next => cases ha

/-- Nothing is to be known of a program. -/
theorem of_forall (hA : ∀ s w, A s w) (hQ : ∀ s a, Q s a) (p : Program σ ω ε α) (s : σ) :
    Outline execute R C A Q p s := by
  induction p generalizing s with
  | done a => exact hQ s a
  | read next ih => exact fun e t _ _ => ih e t t
  | write w next ih => exact fun e t _ _ => ⟨hA t w, ih e t (execute e t w)⟩

theorem bind {Q' : σ → β → Prop} {f : α → Program σ ω ε β}
    (h : Outline execute R C A (fun s a => Outline execute R C A Q' (f a) s) p s) :
    Outline execute R C A Q' (p.bind f) s := by
  induction p generalizing s with
  | done a => exact h
  | read next ih => exact fun e t hst hC => ih e t (h e t hst hC)
  | write w next ih => exact fun e t hst hC => ⟨(h e t hst hC).1, ih e t (h e t hst hC).2⟩

theorem imp {Q' : σ → α → Prop} (hQ : ∀ s a, Q s a → Q' s a) (h : Outline execute R C A Q p s) :
    Outline execute R C A Q' p s := by
  induction p generalizing s with
  | done a => exact hQ s a h
  | read next ih => exact fun e t hst hC => ih e t (h e t hst hC)
  | write w next ih => exact fun e t hst hC => ⟨(h e t hst hC).1, ih e t (h e t hst hC).2⟩

section exceptions
variable {η : Type} {Q' : σ → Except η β → Prop} {m : ExceptT η (Program σ ω ε) α}

/-- A program after one that may fail: a failure is the result of both. -/
theorem exceptBind {f : α → ExceptT η (Program σ ω ε) β}
    (h : Outline execute R C A (fun s r => (∀ a, r = .ok a →
      Outline execute R C A Q' (f a).run s) ∧ ∀ err, r = .error err → Q' s (.error err)) m.run s) :
    Outline execute R C A Q' (m >>= f).run s := by
  refine bind (imp (fun s r hr => ?_) h)
  cases r with
  | error err => exact hr.2 err rfl
  | ok a => exact hr.1 a rfl

end exceptions

/-- A program whose writes are known, and keep to `R`. -/
theorem of_sends {B : ω → Prop} (hrefl : ∀ s, R s s) (htrans : ∀ {s t u}, R s t → R t u → R s u)
    (hA : ∀ s w, B w → A s w) (hR : ∀ e s w, B w → C s (some w) → R s (execute e s w))
    (hp : p.Sends B) (s : σ) : p.Outline execute R C A (fun t _ => R s t) s := by
  suffices hfrom : ∀ t, R s t → p.Outline execute R C A (fun t _ => R s t) t from hfrom s (hrefl s)
  induction p with
  | done a => exact fun t hst => hst
  | read next ih => exact fun t hst e u htu _ => ih e u (hp e u) u (htrans hst htu)
  | write w next ih =>
    intro t hst e u htu hC
    have hkept : R s (execute e u w) := htrans (htrans hst htu) (hR e u w hp.1 hC)
    exact ⟨hA u w hp.1, ih e u (hp.2 e u) _ hkept⟩

end Outline

/-- The outline of a program that may fail, with what is known when it succeeds. -/
def Reaches {η : Type} (execute : ε → σ → ω → σ) (R : σ → σ → Prop) (C : σ → Option ω → Prop)
    (A : σ → ω → Prop) (Q : σ → α → Prop) (p : ExceptT η (Program σ ω ε) α) (s : σ) : Prop :=
  Outline execute R C A (fun s r => ∀ a, r = .ok a → Q s a) p.run s

namespace Reaches
variable {η : Type} {execute : ε → σ → ω → σ} {R : σ → σ → Prop} {C : σ → Option ω → Prop}
  {A : σ → ω → Prop} {Q : σ → α → Prop} {Q' : σ → β → Prop} {p : ExceptT η (Program σ ω ε) α}
  {s : σ}

theorem bind {f : α → ExceptT η (Program σ ω ε) β}
    (h : Reaches execute R C A (fun s a => Reaches execute R C A Q' (f a) s) p s) :
    Reaches execute R C A Q' (p >>= f) s := by
  refine Outline.exceptBind (Outline.imp (fun s r hr => ⟨hr, ?_⟩) h)
  intro err _ b hb
  cases hb

theorem imp {P : σ → α → Prop} (hPQ : ∀ s a, P s a → Q s a)
    (h : Reaches execute R C A P p s) : Reaches execute R C A Q p s :=
  Outline.imp (fun s _ hr a ha => hPQ s a (hr a ha)) h

theorem pure {a : α} (h : Q s a) :
    Reaches execute R C A Q (Pure.pure a : ExceptT η (Program σ ω ε) α) s := by
  intro b hb
  cases hb
  exact h

theorem map {f : α → β} (h : Reaches execute R C A (fun s a => Q' s (f a)) p s) :
    Reaches execute R C A Q' (f <$> p) s := by
  refine Outline.bind (Outline.imp (fun s r hr => ?_) h)
  cases r with
  | error err =>
    intro b hb
    cases hb
  | ok a =>
    intro b hb
    cases hb
    exact hr a rfl

theorem read {f : ε → σ → Except η α} (h : ∀ e t, R s t → ∀ a, f e t = .ok a → Q t a) :
    Reaches execute R C A Q (ExceptT.mk (.read fun e t => .done (f e t))) s :=
  fun e t hst _ => h e t hst

theorem write {w : ω} {f : ε → σ → Except η α}
    (h : ∀ e t, R s t → C t (some w) → A t w ∧ ∀ a, f e t = .ok a → Q (execute e t w) a) :
    Reaches execute R C A Q (ExceptT.mk (.write w fun e t => .done (f e t))) s :=
  fun e t hst hC => h e t hst hC

/-- Each pass of a loop starts from a store that the passes before it have kept to `R`. -/
theorem forM {γ : Type} {xs : List γ} {f : γ → ExceptT η (Program σ ω ε) Unit}
    (hrefl : ∀ s, R s s) (htrans : ∀ {s t u}, R s t → R t u → R s u)
    (h : ∀ x ∈ xs, ∀ t, R s t → Reaches execute R C A (fun u _ => R t u) (f x) t) :
    Reaches execute R C A (fun t _ => R s t) (xs.forM f) s := by
  suffices hfrom : ∀ t, R s t → Reaches execute R C A (fun t _ => R s t) (xs.forM f) t from
    hfrom s (hrefl s)
  induction xs with
  | nil => exact fun t hst => pure hst
  | cons x xs ih =>
    intro t hst
    refine bind (imp (fun u _ htu => ?_) (h x List.mem_cons_self t hst))
    exact ih (fun y hy => h y (List.mem_cons_of_mem x hy)) u (htrans hst htu)

end Reaches
end Program

section interleaving
variable {ι : Type} [DecidableEq ι] {execute : ε → σ → ω → σ} {R : σ → σ → Prop}
  {C : ι → σ → Option ω → Prop} {A : ι → σ → ω → Prop} {Q : ι → σ → α → Prop}

/-- A step that keeps to `R` keeps the outlines of all programs. -/
theorem perform_outline (hrefl : ∀ s, R s s) (htrans : ∀ {s t u}, R s t → R t u → R s u)
    (hQ : ∀ i, ∀ {s t a}, R s t → Q i s a → Q i t a) {c : Config σ ι (Program σ ω ε α)}
    {l : ι × ε} (hC : C l.1 c.shared (c.threads l.1).pending)
    (hR : R c.shared (perform execute c l).shared)
    (h : ∀ i, (c.threads i).Outline execute R (C i) (A i) (Q i) c.shared) (i : ι) :
    ((perform execute c l).threads i).Outline execute R (C i) (A i) (Q i)
      (perform execute c l).shared := by
  by_cases hi : i = l.1
  · subst hi
    rw [perform_shared, perform, Config.step_threads_self]
    exact (h l.1).advance hrefl hC l.2
  · have hthread : (perform execute c l).threads i = c.threads i :=
      Config.step_threads_ne _ c hi
    rw [hthread]
    exact (h i).stable htrans (hQ i) hR

end interleaving
end Transition
