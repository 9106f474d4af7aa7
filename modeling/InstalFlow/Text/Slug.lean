import Mathlib.Data.List.Basic

/-!
# Slugs

A text is cut into its words, the longest pieces of letters, and these are joined by single
separators. The slug is computed in one pass, in which the letters are kept and each gap gives
one separator, and by trimming the two ends.
-/

namespace Text
variable {α : Type*} {letter : α → Bool} {sep a : α} {w xs ys : List α} {ws : List (List α)}

/-- The letters, and a separator for each gap; `gap` says that one has just been given. -/
def collapse (letter : α → Bool) (sep : α) : Bool → List α → List α
  | _, [] => []
  | gap, a :: xs =>
    if letter a then a :: collapse letter sep false xs
    else if gap then collapse letter sep true xs
    else sep :: collapse letter sep true xs

/-- The longest pieces of letters -/
def words (letter : α → Bool) (xs : List α) : List (List α) :=
  (xs.splitOnP fun a => !letter a).filter fun w => !w.isEmpty

/-- The letters in front of the first gap -/
def firstPiece (letter : α → Bool) (xs : List α) : List α :=
  (xs.splitOnP fun a => !letter a).headD []

/-- The words behind the first gap -/
def laterWords (letter : α → Bool) (xs : List α) : List (List α) :=
  (xs.splitOnP fun a => !letter a).tail.filter fun w => !w.isEmpty

section pieces

theorem words_letter (ha : letter a = true) (xs : List α) :
    words letter (a :: xs) = (a :: firstPiece letter xs) :: laterWords letter xs := by
  obtain ⟨w, ws, hsplit⟩ := List.exists_cons_of_ne_nil
    (List.splitOnP_ne_nil (fun a => !letter a) xs)
  simp [words, firstPiece, laterWords, List.splitOnP_cons_eq_if_modifyHead, ha, hsplit]

theorem words_gap (ha : letter a = false) (xs : List α) :
    words letter (a :: xs) = words letter xs := by
  simp [words, List.splitOnP_cons_eq_if_modifyHead, ha]

theorem firstPiece_letter (ha : letter a = true) (xs : List α) :
    firstPiece letter (a :: xs) = a :: firstPiece letter xs := by
  obtain ⟨w, ws, hsplit⟩ := List.exists_cons_of_ne_nil
    (List.splitOnP_ne_nil (fun a => !letter a) xs)
  simp [firstPiece, List.splitOnP_cons_eq_if_modifyHead, ha, hsplit]

theorem firstPiece_gap (ha : letter a = false) (xs : List α) :
    firstPiece letter (a :: xs) = [] := by
  simp [firstPiece, List.splitOnP_cons_eq_if_modifyHead, ha]

theorem laterWords_letter (ha : letter a = true) (xs : List α) :
    laterWords letter (a :: xs) = laterWords letter xs := by
  obtain ⟨w, ws, hsplit⟩ := List.exists_cons_of_ne_nil
    (List.splitOnP_ne_nil (fun a => !letter a) xs)
  simp [laterWords, List.splitOnP_cons_eq_if_modifyHead, ha, hsplit]

theorem laterWords_gap (ha : letter a = false) (xs : List α) :
    laterWords letter (a :: xs) = words letter xs := by
  simp [laterWords, words, List.splitOnP_cons_eq_if_modifyHead, ha]

theorem letters_of_mem_splitOnP (h : w ∈ xs.splitOnP fun a => !letter a) :
    ∀ a ∈ w, letter a = true := by
  induction xs generalizing w with
  | nil =>
    rw [List.splitOnP_nil, List.mem_singleton] at h
    simp [h]
  | cons b xs ih =>
    rw [List.splitOnP_cons_eq_if_modifyHead] at h
    obtain ⟨v, vs, hsplit⟩ := List.exists_cons_of_ne_nil
      (List.splitOnP_ne_nil (fun a => !letter a) xs)
    cases hb : letter b with
    | false =>
      rw [hb, Bool.not_false, if_pos rfl] at h
      rcases List.mem_cons.mp h with rfl | h
      · simp
      · exact ih h
    | true =>
      rw [hb, Bool.not_true, if_neg Bool.false_ne_true, hsplit, List.modifyHead_cons] at h
      rcases List.mem_cons.mp h with rfl | h
      · have hv := ih (hsplit ▸ List.mem_cons_self : v ∈ _)
        simpa [hb] using hv
      · exact ih (hsplit ▸ List.mem_cons_of_mem v h)

/-- Words are made of letters, and not empty. -/
theorem of_mem_words (h : w ∈ words letter xs) : w ≠ [] ∧ ∀ a ∈ w, letter a = true := by
  obtain ⟨hmem, hempty⟩ := List.mem_filter.mp h
  exact ⟨by simpa using hempty, letters_of_mem_splitOnP hmem⟩

theorem intercalate_cons (w : List α) (ws : List (List α)) : [sep].intercalate (w :: ws) =
    if ws = [] then w else w ++ sep :: [sep].intercalate ws := by
  cases ws with
  | nil => simp [List.intercalate]
  | cons v ws => simp [List.intercalate]

/-- Joined words are found again. -/
theorem words_intercalate (hsep : letter sep = false)
    (h : ∀ w ∈ ws, w ≠ [] ∧ ∀ a ∈ w, letter a = true) :
    words letter ([sep].intercalate ws) = ws := by
  induction ws with
  | nil => rfl
  | cons w ws ih =>
    obtain ⟨hw, hletters⟩ := h w List.mem_cons_self
    have hpiece : ∀ a ∈ w, (!letter a) = false := fun a ha => by rw [hletters a ha, Bool.not_true]
    have hnonempty : (!w.isEmpty) = true := by simpa using hw
    rw [intercalate_cons]
    split
    · rename_i hws
      rw [words, List.splitOnP_eq_singleton hpiece, hws]
      simpa using hw
    · have hgap : (!letter sep) = true := by rw [hsep, Bool.not_false]
      have hrest : (([sep].intercalate ws).splitOnP fun a => !letter a).filter
          (fun w => !w.isEmpty) = ws := ih fun v hv => h v (List.mem_cons_of_mem w hv)
      rw [words, List.splitOnP_append_cons_of_forall_mem hpiece sep hgap, List.filter_cons,
        if_pos hnonempty, hrest]

end pieces

/-- A letter is no separator. -/
theorem ne_sep (hsep : letter sep = false) (ha : letter a = true) : a ≠ sep := by
  rintro rfl
  rw [ha] at hsep
  cases hsep

section slugs
variable [DecidableEq α]

def trimStart (sep : α) (xs : List α) : List α := if xs.head? = some sep then xs.tail else xs

def trimEnd (sep : α) (xs : List α) : List α :=
  if xs.getLast? = some sep then xs.dropLast else xs

def slug (letter : α → Bool) (sep : α) (xs : List α) : List α :=
  trimEnd sep (trimStart sep (collapse letter sep false xs))

theorem trimEnd_cons (h : a ≠ sep ∨ xs ≠ []) : trimEnd sep (a :: xs) = a :: trimEnd sep xs := by
  cases xs with
  | nil => simp [trimEnd, h.resolve_right (not_not.mpr rfl)]
  | cons b xs =>
    rw [trimEnd, trimEnd, List.getLast?_cons_cons]
    split
    · rfl
    · rfl

theorem trimStart_collapse (hsep : letter sep = false) (xs : List α) :
    trimStart sep (collapse letter sep false xs) = collapse letter sep true xs := by
  cases xs with
  | nil => rfl
  | cons a xs =>
    cases ha : letter a with
    | true => simp [collapse, ha, trimStart, ne_sep hsep ha]
    | false => simp [collapse, ha, trimStart]

/-- Behind a gap the words are joined; within a word it is continued first. -/
theorem trimEnd_collapse (hsep : letter sep = false) (xs : List α) :
    trimEnd sep (collapse letter sep false xs) =
        (if laterWords letter xs = [] then firstPiece letter xs else
          firstPiece letter xs ++ sep :: [sep].intercalate (laterWords letter xs)) ∧
      trimEnd sep (collapse letter sep true xs) = [sep].intercalate (words letter xs) ∧
      (collapse letter sep true xs = [] ↔ words letter xs = []) := by
  induction xs with
  | nil => exact ⟨rfl, rfl, by simp [collapse, words]⟩
  | cons a xs ih =>
    obtain ⟨hwithin, hbehind, hnone⟩ := ih
    cases ha : letter a with
    | true =>
      have hkept (gap : Bool) : trimEnd sep (collapse letter sep gap (a :: xs)) =
          a :: trimEnd sep (collapse letter sep false xs) := by
        rw [collapse, if_pos ha, trimEnd_cons (.inl (ne_sep hsep ha))]
      rw [hkept, hkept, hwithin, laterWords_letter ha, firstPiece_letter ha, words_letter ha,
        intercalate_cons]
      refine ⟨?_, ?_, by simp [collapse, ha]⟩
      · split <;> rfl
      · split <;> rfl
    | false =>
      have hgap : collapse letter sep true (a :: xs) = collapse letter sep true xs := by
        simp [collapse, ha]
      rw [laterWords_gap ha, firstPiece_gap ha, words_gap ha, hgap]
      refine ⟨?_, hbehind, hnone⟩
      have hfirst : collapse letter sep false (a :: xs) = sep :: collapse letter sep true xs := by
        simp [collapse, ha]
      rw [hfirst]
      by_cases hwords : words letter xs = []
      · rw [if_pos hwords, hnone.mpr hwords]
        simp [trimEnd]
      · rw [if_neg hwords, trimEnd_cons (.inr (mt hnone.mp hwords)), hbehind, List.nil_append]

theorem slug_eq (hsep : letter sep = false) (xs : List α) :
    slug letter sep xs = [sep].intercalate (words letter xs) := by
  rw [slug, trimStart_collapse hsep]
  exact (trimEnd_collapse hsep xs).2.1

/-- A slug has the words of its text. -/
theorem words_slug (hsep : letter sep = false) (xs : List α) :
    words letter (slug letter sep xs) = words letter xs := by
  rw [slug_eq hsep, words_intercalate hsep fun w hw => of_mem_words hw]

/-- Two texts have the same slug when they have the same words. -/
theorem slug_inj (hsep : letter sep = false) :
    slug letter sep xs = slug letter sep ys ↔ words letter xs = words letter ys := by
  constructor
  · intro h
    rw [← words_slug hsep xs, h, words_slug hsep]
  · intro h
    rw [slug_eq hsep, h, slug_eq hsep]

end slugs
end Text
