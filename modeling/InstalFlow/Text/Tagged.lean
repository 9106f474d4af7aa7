import Mathlib.Data.List.Basic

/-!
# Tagged texts

A text is made of a tag, an identifier of a fixed length and a rest. Identifiers begin
with a letter of some alphabet, and no tag begins with another one followed by such a
letter, so the three parts can be read off the text.
-/

namespace Text
variable {α : Type*} {letter : α → Bool} {t u x y r s : List α}

def Begins (letter : α → Bool) (x : List α) : Prop := ∃ a ∈ x.head?, letter a = true

theorem Begins.exists_cons (h : Begins letter x) : ∃ a z, x = a :: z ∧ letter a = true := by
  obtain ⟨a, ha, hletter⟩ := h
  cases x with
  | nil => cases ha
  | cons b z =>
    cases ha
    exact ⟨a, z, rfl, hletter⟩

theorem Begins.append (h : Begins letter x) (y : List α) : Begins letter (x ++ y) := by
  obtain ⟨a, z, rfl, ha⟩ := h.exists_cons
  exact ⟨a, rfl, ha⟩

variable [DecidableEq α]

/-- Neither word is the beginning of the other one, or what follows there is no letter. -/
def apart (letter : α → Bool) : List α → List α → Bool
  | [], [] => false
  | [], b :: _ => !letter b
  | a :: _, [] => !letter a
  | a :: t, b :: u => decide (a ≠ b) || apart letter t u

theorem append_ne_append (h : apart letter t u = true) (hx : Begins letter x)
    (hy : Begins letter y) : t ++ x ≠ u ++ y := by
  obtain ⟨a, x, rfl, ha⟩ := hx.exists_cons
  obtain ⟨b, y, rfl, hb⟩ := hy.exists_cons
  intro he
  induction t generalizing u with
  | nil =>
    cases u with
    | nil => cases h
    | cons c u =>
      obtain ⟨rfl, -⟩ := List.cons.inj he
      simp [apart, ha] at h
  | cons c t ih =>
    cases u with
    | nil =>
      obtain ⟨rfl, -⟩ := List.cons.inj he
      simp [apart, hb] at h
    | cons d u =>
      obtain ⟨rfl, htail⟩ := List.cons.inj he
      exact ih (by simpa [apart] using h) htail

/-- The parts of a tagged text -/
theorem tagged_injective {κ : Type*} {tag : κ → List α} {ks : List κ} {k l : κ}
    (hapart : ∀ k ∈ ks, ∀ l ∈ ks, k ≠ l → apart letter (tag k) (tag l) = true) (hk : k ∈ ks)
    (hl : l ∈ ks) (hx : Begins letter x) (hy : Begins letter y) (hlength : x.length = y.length)
    (h : tag k ++ (x ++ r) = tag l ++ (y ++ s)) : k = l ∧ x = y ∧ r = s := by
  have htag : k = l := by
    by_contra hne
    exact append_ne_append (hapart k hk l hl hne) (hx.append r) (hy.append s) h
  subst htag
  exact ⟨rfl, List.append_inj (List.append_cancel_left h) hlength⟩

end Text
