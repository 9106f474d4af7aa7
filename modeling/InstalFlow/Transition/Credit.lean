import InstalFlow.Transition.Trace

/-!
# Writes that have to be earned

Some writes of a program earn a credit, others spend one, as the store decides
when they are executed. That a program spends only what it has earned is read off
the program alone, and then all threads together spend no more than they earn.
-/

namespace Transition
variable {σ ω ε α β : Type}

namespace Program

/-- With `n` credits and a store that stays in `I`, the program spends only what it
has earned, and ends with credits and a result that meet `Q`. -/
def Credited (I : σ → Prop) (earns spends : ε → σ → ω → Bool) (Q : ℕ → α → Prop) :
    Program σ ω ε α → ℕ → Prop
  | done a, n => Q n a
  | read next, n => ∀ e s, I s → (next e s).Credited I earns spends Q n
  | write w next, n => ∀ e s, I s → (spends e s w = true → 0 < n) ∧
      (next e s).Credited I earns spends Q (n - (spends e s w).toNat + (earns e s w).toNat)

namespace Credited
variable {I : σ → Prop} {earns spends : ε → σ → ω → Bool} {Q : ℕ → α → Prop} {Q' : ℕ → β → Prop}
  {p : Program σ ω ε α} {n : ℕ}

theorem bind {f : α → Program σ ω ε β}
    (h : p.Credited I earns spends (fun n a => (f a).Credited I earns spends Q' n) n) :
    (p.bind f).Credited I earns spends Q' n := by
  induction p generalizing n with
  | done a => exact h
  | read next ih => exact fun e s hs => ih e s (h e s hs)
  | write w next ih => exact fun e s hs => ⟨(h e s hs).1, ih e s (h e s hs).2⟩

theorem imp {P : ℕ → α → Prop} (hPQ : ∀ n a, P n a → Q n a) (h : p.Credited I earns spends P n) :
    p.Credited I earns spends Q n := by
  induction p generalizing n with
  | done a => exact hPQ n a h
  | read next ih => exact fun e s hs => ih e s (h e s hs)
  | write w next ih => exact fun e s hs => ⟨(h e s hs).1, ih e s (h e s hs).2⟩

/-- A program without a write that spends. -/
theorem of_sends {A : ω → Prop} (hp : p.Sends A) (hA : ∀ e s w, A w → spends e s w = false) :
    p.Credited I earns spends (fun _ _ => True) n := by
  induction p generalizing n with
  | done a => trivial
  | read next ih => exact fun e s _ => ih e s (hp e s)
  | write w next ih =>
    refine fun e s _ => ⟨fun hspends => ?_, ih e s (hp.2 e s)⟩
    rw [hA e s w hp.1] at hspends
    exact absurd hspends Bool.false_ne_true

/-- Of programs that may fail only the successes matter. -/
theorem exceptBind {η : Type} {Q' : ℕ → β → Prop} {m : ExceptT η (Program σ ω ε) α}
    {f : α → ExceptT η (Program σ ω ε) β}
    (h : Credited I earns spends (fun n r => ∀ a, r = .ok a →
      Credited I earns spends (fun n r => ∀ b, r = .ok b → Q' n b) (f a).run n) m.run n) :
    Credited I earns spends (fun n r => ∀ b, r = .ok b → Q' n b) (m >>= f).run n := by
  refine bind (imp (fun n r hr => ?_) h)
  cases r with
  | error err =>
    intro b hb
    cases hb
  | ok a => exact hr a rfl

theorem exceptMap {η : Type} {Q' : ℕ → β → Prop} {m : ExceptT η (Program σ ω ε) α} {f : α → β}
    (h : Credited I earns spends (fun n r => ∀ a, r = .ok a → Q' n (f a)) m.run n) :
    Credited I earns spends (fun n r => ∀ b, r = .ok b → Q' n b) (f <$> m).run n := by
  refine bind (imp (fun n r hr => ?_) h)
  cases r with
  | error err =>
    intro b hb
    cases hb
  | ok a =>
    intro b hb
    cases hb
    exact hr a rfl

theorem embed {σ' ω' : Type} {view : σ' → σ} {f : ω → ω'} {I : σ' → Prop}
    {earns spends : ε → σ' → ω' → Bool} {J : σ → Prop} {earns' spends' : ε → σ → ω → Bool}
    (hI : ∀ s, I s → J (view s)) (hearns : ∀ e s w, earns e s (f w) = earns' e (view s) w)
    (hspends : ∀ e s w, spends e s (f w) = spends' e (view s) w)
    (h : p.Credited J earns' spends' Q n) : (p.embed view f).Credited I earns spends Q n := by
  induction p generalizing n with
  | done a => exact h
  | read next ih => exact fun e s hs => ih e (view s) (h e (view s) (hI s hs))
  | write w next ih =>
    intro e s hs
    obtain ⟨hspent, hnext⟩ := h e (view s) (hI s hs)
    rw [hearns, hspends]
    exact ⟨hspent, ih e (view s) hnext⟩

theorem covered (h : p.Credited I earns spends Q n) {e : ε} {s : σ} (hs : I s) :
    ∀ w ∈ p.pending, spends e s w = true → 0 < n := by
  intro v hv
  cases p with
  | done a => cases hv
  | read next => cases hv
  | write w next =>
    cases hv
    exact (h e s hs).1

theorem advance {execute : ε → σ → ω → σ} (h : p.Credited I earns spends Q n) {e : ε} {s : σ}
    (hs : I s) : (p.advance execute e s).2.Credited I earns spends Q
      (n - (p.pending.any (spends e s)).toNat + (p.pending.any (earns e s)).toNat) := by
  cases p with
  | done a => exact h
  | read next => exact h e s hs
  | write w next => exact (h e s hs).2

end Credited
end Program

section interleaving
variable {ι : Type} [DecidableEq ι] {execute : ε → σ → ω → σ} {I : σ → Prop}
  {earns spends : ε → σ → ω → Bool} {Q : ι → ℕ → α → Prop}

/-- The thread whose write the step executes, if it counts. -/
def counted (counts : ε → σ → ω → Bool) (c : Config σ ι (Program σ ω ε α)) (l : ι × ε) :
    Option ι :=
  if (c.threads l.1).pending.any (counts l.2 c.shared) then some l.1 else none

theorem count_counted (counts : ε → σ → ω → Bool) (c : Config σ ι (Program σ ω ε α)) (l : ι × ε)
    (i : ι) : (counted counts c l).toList.count i =
      if i = l.1 then ((c.threads i).pending.any (counts l.2 c.shared)).toNat else 0 := by
  rw [counted]
  by_cases hi : i = l.1
  · subst hi
    cases (c.threads l.1).pending.any (counts l.2 c.shared) <;> simp
  · have hne : l.1 ≠ i := fun h => hi h.symm
    rw [if_neg hi]
    split
    · simp [hne]
    · rfl

/-- In every interleaving a thread spends at most what it had and earns. -/
theorem count_spends_le {c : Config σ ι (Program σ ω ε α)} {n : ι → ℕ}
    (h : ∀ i, (c.threads i).Credited I earns spends (Q i) (n i)) {ls : List (ι × ε)}
    (hI : Along (perform execute) (fun c _ => I c.shared) c ls) (i : ι) :
    (history (perform execute) (counted spends) c ls).count i ≤
      n i + (history (perform execute) (counted earns) c ls).count i := by
  induction ls generalizing c n with
  | nil => exact Nat.zero_le _
  | cons l ls ih =>
    obtain ⟨hs, hI⟩ := hI
    let credit (j : ι) : ℕ :=
      n j - (counted spends c l).toList.count j + (counted earns c l).toList.count j
    have hcredit : ∀ j, ((perform execute c l).threads j).Credited I earns spends (Q j)
        (credit j) := by
      intro j
      simp only [credit, count_counted]
      by_cases hj : j = l.1
      · subst hj
        rw [perform, Config.step_threads_self, if_pos rfl, if_pos rfl]
        exact (h l.1).advance hs
      · rw [perform, Config.step_threads_ne _ c hj, if_neg hj, if_neg hj]
        exact h j
    have hrest := ih hcredit hI
    have hcovered : (counted spends c l).toList.count i ≤ n i := by
      rw [count_counted]
      by_cases hi : i = l.1
      · subst hi
        rw [if_pos rfl]
        cases hany : (c.threads l.1).pending.any (spends l.2 c.shared) with
        | false => exact Nat.zero_le _
        | true =>
          cases hw : (c.threads l.1).pending with
          | none =>
            rw [hw] at hany
            cases hany
          | some w =>
            rw [hw] at hany
            exact (h l.1).covered hs w hw hany
      · rw [if_neg hi]
        exact Nat.zero_le _
    simp only [history, List.count_append, credit] at hrest ⊢
    omega

/-- What starts without credit spends no more than it earns. -/
theorem length_spends_le {c : Config σ ι (Program σ ω ε α)}
    (h : ∀ i, (c.threads i).Credited I earns spends (Q i) 0) {ls : List (ι × ε)}
    (hI : Along (perform execute) (fun c _ => I c.shared) c ls) :
    (history (perform execute) (counted spends) c ls).length ≤
      (history (perform execute) (counted earns) c ls).length := by
  refine List.Subperm.length_le (List.subperm_ext_iff.mpr fun i _ => ?_)
  simpa using count_spends_le h hI i

end interleaving
end Transition
