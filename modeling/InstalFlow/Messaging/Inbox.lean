import Mathlib.Data.List.Pairwise

/-!
# Receivers that drop repeated messages

A receiver answers a message as a duplicate once a message with the same key has
been handled to completion. Messages have a kind besides their key: a receiver
loses nothing when a duplicate is always of the kind that has been handled,
which is so exactly when no two kinds share a key.
-/

namespace Messaging

inductive Answer
  | rejected | duplicate | completed | failed
deriving DecidableEq, Repr

/-- What the receiver does with a message: whether it accepts it, the key it
compares, and the handler, which says whether it has completed. -/
structure Receiver (σ μ κ : Type*) where
  accepts : μ → Bool
  key : μ → κ
  handle : μ → σ → σ × Bool

structure Inbox (σ μ : Type*) where
  state : σ
  log : List (μ × Answer) := []

variable {σ μ κ τ : Type*} (r : Receiver σ μ κ)

namespace Receiver

def Done (s : Inbox σ μ) (k : κ) : Prop := ∃ e ∈ s.log, e.2 = .completed ∧ r.key e.1 = k

instance [DecidableEq κ] (s : Inbox σ μ) (k : κ) : Decidable (r.Done s k) :=
  inferInstanceAs (Decidable (∃ e ∈ s.log, _ ∧ _))

section receive
variable [DecidableEq κ]

def answer (s : Inbox σ μ) (m : μ) : Answer :=
  if r.accepts m = false then .rejected
  else if r.Done s (r.key m) then .duplicate
  else if (r.handle m s.state).2 then .completed else .failed

def receive (s : Inbox σ μ) (m : μ) : Inbox σ μ where
  state := if r.accepts m = false ∨ r.Done s (r.key m) then s.state else (r.handle m s.state).1
  log := s.log ++ [(m, r.answer s m)]

theorem receive_of_rejected {s : Inbox σ μ} {m : μ} (h : r.accepts m = false) :
    r.answer s m = .rejected ∧ (r.receive s m).state = s.state := by
  simp [answer, receive, h]

theorem receive_of_done {s : Inbox σ μ} {m : μ} (ha : r.accepts m = true)
    (hd : r.Done s (r.key m)) :
    r.answer s m = .duplicate ∧ (r.receive s m).state = s.state := by
  simp [answer, receive, ha, hd]

theorem receive_of_new {s : Inbox σ μ} {m : μ} (ha : r.accepts m = true)
    (hd : ¬ r.Done s (r.key m)) :
    r.answer s m = (if (r.handle m s.state).2 then .completed else .failed) ∧
      (r.receive s m).state = (r.handle m s.state).1 := by
  simp [answer, receive, ha, hd]

theorem answer_eq_duplicate_iff {s : Inbox σ μ} {m : μ} :
    r.answer s m = .duplicate ↔ r.accepts m = true ∧ r.Done s (r.key m) := by
  by_cases ha : r.accepts m
  · by_cases hd : r.Done s (r.key m)
    · simp [(r.receive_of_done ha hd).1, ha, hd]
    · rw [(r.receive_of_new ha hd).1]
      split <;> simp [hd]
  · simp [(r.receive_of_rejected (by simpa using ha)).1, ha]

theorem not_done_of_completed {s : Inbox σ μ} {m : μ} (h : r.answer s m = .completed) :
    ¬ r.Done s (r.key m) := by
  intro hd
  by_cases ha : r.accepts m
  · rw [(r.receive_of_done ha hd).1] at h
    cases h
  · rw [(r.receive_of_rejected (by simpa using ha)).1] at h
    cases h

theorem done_receive {s : Inbox σ μ} {m : μ} {k : κ} :
    r.Done (r.receive s m) k ↔
      r.Done s k ∨ (r.answer s m = .completed ∧ r.key m = k) := by
  simp only [Done, receive, List.mem_append, List.mem_singleton]
  constructor
  · intro h
    obtain ⟨e, he | rfl, hcompleted, hkey⟩ := h
    · exact .inl ⟨e, he, hcompleted, hkey⟩
    · exact .inr ⟨hcompleted, hkey⟩
  · intro h
    rcases h with ⟨e, he, hcompleted, hkey⟩ | ⟨hcompleted, hkey⟩
    · exact ⟨e, .inl he, hcompleted, hkey⟩
    · exact ⟨_, .inr rfl, hcompleted, hkey⟩

def Once (s : Inbox σ μ) : Prop :=
  s.log.Pairwise (fun e f => e.2 = .completed → f.2 = .completed → r.key e.1 ≠ r.key f.1)

theorem once_receive {s : Inbox σ μ} (h : r.Once s) (m : μ) : r.Once (r.receive s m) := by
  refine List.pairwise_append.mpr ⟨h, List.pairwise_singleton _ _, fun e he f hf => ?_⟩
  rw [List.mem_singleton] at hf
  subst hf
  intro hcompleted hanswer hkey
  exact r.not_done_of_completed hanswer ⟨e, he, hcompleted, hkey⟩

/-- A duplicate is of a kind that has been handled. -/
def LosesNone (kind : μ → τ) (s : Inbox σ μ) (m : μ) : Prop :=
  r.answer s m = .duplicate →
    ∃ e ∈ s.log, e.2 = .completed ∧ kind e.1 = kind m ∧ r.key e.1 = r.key m

/-- The message has the kind of the handled messages that share its key. -/
def SameKind (kind : μ → τ) (s : Inbox σ μ) (m : μ) : Prop :=
  r.accepts m = true →
    ∀ e ∈ s.log, e.2 = .completed → r.key e.1 = r.key m → kind e.1 = kind m

theorem losesNone_iff_sameKind {kind : μ → τ} {s : Inbox σ μ} (h : r.Once s) (m : μ) :
    r.LosesNone kind s m ↔ r.SameKind kind s m := by
  have hsymm : Std.Symm fun e f : μ × Answer =>
      e.2 = .completed → f.2 = .completed → r.key e.1 ≠ r.key f.1 :=
    ⟨fun e f hef hf he hkey => hef he hf hkey.symm⟩
  constructor
  · intro hnone haccepts e he hcompleted hkey
    obtain ⟨f, hf, hfcompleted, hkind, hfkey⟩ :=
      hnone (r.answer_eq_duplicate_iff.mpr ⟨haccepts, e, he, hcompleted, hkey⟩)
    by_cases hef : e = f
    · rw [hef]
      exact hkind
    · exact absurd (hkey.trans hfkey.symm)
        (List.Pairwise.forall h he hf hef hcompleted hfcompleted)
  · intro hsame hanswer
    obtain ⟨haccepts, e, he, hcompleted, hkey⟩ := r.answer_eq_duplicate_iff.mp hanswer
    exact ⟨e, he, hcompleted, hsame haccepts e he hcompleted hkey, hkey⟩

end receive
end Receiver
end Messaging
