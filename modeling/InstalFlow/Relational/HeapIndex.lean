import InstalFlow.Relational.Heap

/-!
# A unique index over rows that concurrent transactions change

No two committed versions have one key, no two that are not committed, and where a transaction
gives a row the key that another row has, it has replaced that one too. Whatever commits and
whatever is rolled back, the committed keys stay distinct.
-/

namespace Relational
variable {ι κ ρ ν : Type*}

namespace Slot

/-- What the open transaction has made of the row -/
def new (s : Slot ι κ ρ) : Option ρ := s.pending.bind Prod.snd

structure Apart (unique : ρ → Option ν) (s t : Slot ι κ ρ) : Prop where
  stored : ∀ k, s.stored.bind unique = some k → t.stored.bind unique ≠ some k
  new : ∀ k, s.new.bind unique = some k → t.new.bind unique ≠ some k
  replaced : ∀ k, s.stored.bind unique = some k → t.new.bind unique = some k →
    s.writer = t.writer

variable [DecidableEq ι] {unique : ρ → Option ν} {i j : ι} {s t : Slot ι κ ρ} {k : ν}

omit [DecidableEq ι] in
theorem writer_of_new (h : s.new.bind unique = some k) : ∃ j, s.writer = some j := by
  obtain ⟨r, hr, -⟩ := Option.bind_eq_some_iff.mp h
  obtain ⟨change, hchange, -⟩ := Option.bind_eq_some_iff.mp hr
  exact ⟨change.1, by rw [writer, hchange, Option.map_some]⟩

theorem seen_of_writer (h : s.writer = some i) : s.seen i = s.new := by
  obtain ⟨change, hchange, hi⟩ := Option.map_eq_some_iff.mp h
  rw [seen, hchange, new, hchange]
  exact if_pos hi

theorem lockedFor_iff : s.lockedFor i = true ↔ ∃ j, j ≠ i ∧ s.writer = some j := by
  rw [lockedFor, Option.any_eq_true]
  constructor
  · intro h
    obtain ⟨change, hchange, hne⟩ := h
    exact ⟨change.1, of_decide_eq_true hne, by rw [writer, Option.mem_def.mp hchange]; rfl⟩
  · intro h
    obtain ⟨j, hne, hj⟩ := h
    obtain ⟨change, hchange, rfl⟩ := Option.map_eq_some_iff.mp hj
    exact ⟨change, hchange, decide_eq_true hne⟩

omit [DecidableEq ι] in
theorem new_write {new : Option ρ} : (s.write i new).new = new := rfl

theorem new_rollback_self (h : s.writer = some i) : (s.rollback i).new = none := by
  obtain ⟨change, hchange, rfl⟩ := Option.map_eq_some_iff.mp h
  rw [new, rollback, hchange, Option.filter_some, if_neg (by simp)]
  rfl

end Slot

namespace Heap

def Indexed (unique : ρ → Option ν) (h : Heap ι κ ρ) : Prop :=
  ∀ s ∈ h.slots, ∀ t ∈ h.slots, s.key ≠ t.key → s.Apart unique t

variable {unique : ρ → Option ν} {h h' : Heap ι κ ρ}

theorem Indexed.countP_le_one [DecidableEq κ] [DecidableEq ν] (hindex : h.Indexed unique) (k : ν) :
    h.committed.countP (fun r => unique r = some k) ≤ 1 := by
  rw [countP_committed]
  have hholds (s : Slot ι κ ρ) : (s.stored.any fun r => decide (unique r = some k)) = true ↔
      s.stored.bind unique = some k := by
    cases s.stored <;> simp
  by_cases hany : ∃ s ∈ h.slots, s.stored.bind unique = some k
  · obtain ⟨s, hs, hk⟩ := hany
    refine Nat.le_of_eq (countP_eq_one hs fun t ht => ?_)
    rw [hholds]
    constructor
    · intro hk'
      by_contra hne
      exact (hindex t ht s hs hne).stored k hk' hk
    · intro hsame
      rwa [key_injective ht hs hsame]
  · rw [List.countP_eq_zero.mpr]
    · exact Nat.zero_le 1
    · intro s hs hk
      exact hany ⟨s, hs, (hholds s).mp hk⟩

/-- A table that no transaction has written to -/
theorem indexed_of_countP [DecidableEq ν] (hpending : ∀ s ∈ h.slots, s.pending = none)
    (hcount : ∀ k, h.committed.countP (fun r => unique r = some k) ≤ 1) : h.Indexed unique := by
  have hnew {s : Slot ι κ ρ} (hs : s ∈ h.slots) {k : ν} : s.new.bind unique ≠ some k := by
    intro hk
    rw [Slot.new, hpending s hs] at hk
    cases hk
  intro s hs t ht hne
  refine ⟨fun k hk hk' => ?_, fun k hk => absurd hk (hnew hs), fun k _ hk => absurd hk (hnew ht)⟩
  have hle := hcount k
  rw [countP_committed] at hle
  have hmem {u : Slot ι κ ρ} (hu : u ∈ h.slots) (hk : u.stored.bind unique = some k) :
      u ∈ h.slots.filter fun s => s.stored.any fun r => unique r = some k := by
    obtain ⟨r, hr, hk⟩ := Option.bind_eq_some_iff.mp hk
    exact List.mem_filter.mpr ⟨hu, (Option.any_eq_true _ _).mpr ⟨r, hr, decide_eq_true hk⟩⟩
  have htwo : [s, t].length ≤ (h.slots.filter fun s =>
      s.stored.any fun r => unique r = some k).length := by
    refine List.Subperm.length_le (List.subperm_of_subset ?_ ?_)
    · rw [List.nodup_cons, List.mem_singleton]
      exact ⟨fun he => hne (congrArg Slot.key he), List.nodup_singleton t⟩
    · rw [List.cons_subset, List.cons_subset]
      exact ⟨hmem hs hk, hmem ht hk', List.nil_subset _⟩
  rw [← List.countP_eq_length_filter] at htwo
  exact absurd (Nat.le_trans htwo hle) (Nat.not_succ_le_self 1)

variable [DecidableEq ι] {i : ι}

theorem Indexed.rollback (hindex : h.Indexed unique) : (h.rollback i).Indexed unique := by
  intro s' hs' t' ht' hne
  obtain ⟨s, hs, rfl⟩ := mem_mapSlots.mp hs'
  obtain ⟨t, ht, rfl⟩ := mem_mapSlots.mp ht'
  have hapart := hindex s hs t ht hne
  have hnew (u : Slot ι κ ρ) {k : ν} (hk : (u.rollback i).new.bind unique = some k) :
      u.writer ≠ some i := by
    intro hw
    rw [Slot.new_rollback_self hw] at hk
    cases hk
  refine ⟨hapart.stored, fun k hk hk' => ?_, fun k hk hk' => ?_⟩
  · rw [Slot.rollback_of_writer_ne (hnew s hk)] at hk
    rw [Slot.rollback_of_writer_ne (hnew t hk')] at hk'
    exact hapart.new k hk hk'
  · have hw := hnew t hk'
    rw [Slot.rollback_of_writer_ne hw] at hk' ⊢
    have hsame := hapart.replaced k hk hk'
    rwa [Slot.rollback_of_writer_ne fun hi => hw (hsame.symm.trans hi)]

theorem Indexed.commit (hindex : h.Indexed unique) : (h.commit i).Indexed unique := by
  intro s' hs' t' ht' hne
  obtain ⟨s, hs, rfl⟩ := mem_mapSlots.mp hs'
  obtain ⟨t, ht, rfl⟩ := mem_mapSlots.mp ht'
  have hne : s.key ≠ t.key := hne
  have hapart := hindex s hs t ht hne
  have hapart' := hindex t ht s hs hne.symm
  have hnew (u : Slot ι κ ρ) {k : ν} (hk : (u.commit i).new.bind unique = some k) :
      u.writer ≠ some i := by
    intro hw
    have hnone : (u.commit i).new = none := Slot.new_rollback_self hw
    rw [hnone] at hk
    cases hk
  refine ⟨fun k hk hk' => ?_, fun k hk hk' => ?_, fun k hk hk' => ?_⟩
  · have hk : (s.seen i).bind unique = some k := hk
    have hk' : (t.seen i).bind unique = some k := hk'
    by_cases hsi : s.writer = some i
    · rw [Slot.seen_of_writer hsi] at hk
      by_cases hti : t.writer = some i
      · rw [Slot.seen_of_writer hti] at hk'
        exact hapart.new k hk hk'
      · rw [Slot.seen_of_writer_ne hti] at hk'
        exact hti ((hapart'.replaced k hk' hk).trans hsi)
    · rw [Slot.seen_of_writer_ne hsi] at hk
      by_cases hti : t.writer = some i
      · rw [Slot.seen_of_writer hti] at hk'
        exact hsi ((hapart.replaced k hk hk').trans hti)
      · rw [Slot.seen_of_writer_ne hti] at hk'
        exact hapart.stored k hk hk'
  · rw [Slot.commit_of_writer_ne (hnew s hk)] at hk
    rw [Slot.commit_of_writer_ne (hnew t hk')] at hk'
    exact hapart.new k hk hk'
  · have hti := hnew t hk'
    rw [Slot.commit_of_writer_ne hti] at hk' ⊢
    have hk : (s.seen i).bind unique = some k := hk
    by_cases hsi : s.writer = some i
    · rw [Slot.seen_of_writer hsi] at hk
      exact absurd hk' (hapart.new k hk)
    · rw [Slot.seen_of_writer_ne hsi] at hk
      rw [Slot.commit_of_writer_ne hsi]
      exact hapart.replaced k hk hk'

section statements
variable [DecidableEq κ] {keys : List κ} {p : κ → ρ → Bool} {f : ρ → Option ρ}

/-- A transaction that waits for its rows writes only those that no other one holds. -/
theorem change_cases (hfree : h.free i keys = true) {s : Slot ι κ ρ} (hs : s ∈ h.slots) :
    s.change i keys p f = s ∨ s.key ∈ keys ∧ (s.writer = none ∨ s.writer = some i) ∧
      ∃ r ∈ s.seen i, p s.key r = true ∧ s.change i keys p f = s.write i (f r) := by
  by_cases htarget : s.key ∈ keys ∧ (s.seen i).any (p s.key)
  · obtain ⟨r, hr, hp⟩ := (Option.any_eq_true _ _).mp htarget.2
    refine .inr ⟨htarget.1, ?_, r, hr, hp, ?_⟩
    · have hlock := (of_decide_eq_true (List.all_eq_true.mp hfree s hs)).resolve_left
        fun hk => hk htarget.1
      cases hw : s.writer with
      | none => exact .inl rfl
      | some j =>
        by_cases hj : j = i
        · exact .inr (congrArg some hj)
        · rw [Slot.lockedFor_iff.mpr ⟨j, hj, hw⟩] at hlock
          cases hlock
    · have hr : s.seen i = some r := hr
      rw [Slot.change, if_pos htarget, hr, Option.bind_some]
  · exact .inl (if_neg htarget)

theorem writer_change (hfree : h.free i keys = true) {s : Slot ι κ ρ} (hs : s ∈ h.slots) {j : ι}
    (hw : s.writer = some j) : (s.change i keys p f).writer = some j := by
  rcases change_cases hfree hs with he | ⟨-, hwriter, r, -, -, he⟩
  · rw [he, hw]
  · rw [hw] at hwriter
    rw [he]
    exact (hwriter.resolve_left (Option.some_ne_none j)).symm

/-- A statement that gives no row a key that it has not had -/
theorem Indexed.change (hindex : h.Indexed unique) (hfree : h.free i keys = true)
    (hf : ∀ r, ∀ r' ∈ f r, ∀ k, unique r' = some k → unique r = some k) :
    (h.change i keys p f).Indexed unique := by
  -- a new key is one that the row has been seen to have
  have hnew {s : Slot ι κ ρ} (hs : s ∈ h.slots) {k : ν}
      (hk : (s.change i keys p f).new.bind unique = some k) :
      s.new.bind unique = some k ∨ s.stored.bind unique = some k ∧ s.writer = none := by
    rcases change_cases hfree hs with he | ⟨-, hwriter, r, hr, -, he⟩
    · rw [he] at hk
      exact .inl hk
    · rw [he, Slot.new_write] at hk
      obtain ⟨r', hr', hk⟩ := Option.bind_eq_some_iff.mp hk
      have hkept : (s.seen i).bind unique = some k := by
        have hr : s.seen i = some r := hr
        rw [hr, Option.bind_some]
        exact hf r r' hr' k hk
      rcases hwriter with hw | hw
      · rw [Slot.seen_of_writer_ne (by rw [hw]; exact (Option.some_ne_none i).symm)] at hkept
        exact .inr ⟨hkept, hw⟩
      · rw [Slot.seen_of_writer hw] at hkept
        exact .inl hkept
  intro s' hs' t' ht' hne
  obtain ⟨s, hs, rfl⟩ := mem_change.mp hs'
  obtain ⟨t, ht, rfl⟩ := mem_change.mp ht'
  rw [key_change, key_change] at hne
  have hapart := hindex s hs t ht hne
  have hapart' := hindex t ht s hs hne.symm
  refine ⟨fun k hk => ?_, fun k hk hk' => ?_, fun k hk hk' => ?_⟩
  · rw [stored_change] at hk ⊢
    exact hapart.stored k hk
  · rcases hnew hs hk with hk | ⟨hk, hw⟩ <;> rcases hnew ht hk' with hk' | ⟨hk', hw'⟩
    · exact hapart.new k hk hk'
    · obtain ⟨j, hj⟩ := Slot.writer_of_new hk
      rw [← hapart'.replaced k hk' hk, hw'] at hj
      cases hj
    · obtain ⟨j, hj⟩ := Slot.writer_of_new hk'
      rw [← hapart.replaced k hk hk', hw] at hj
      cases hj
    · exact hapart.stored k hk hk'
  · rw [stored_change] at hk
    rcases hnew ht hk' with hk' | ⟨hk', -⟩
    · obtain ⟨j, hj⟩ := Slot.writer_of_new hk'
      have hsame := (hapart.replaced k hk hk').trans hj
      rw [writer_change hfree hs hsame, writer_change hfree ht hj]
    · exact absurd hk' (hapart.stored k hk)

variable [DecidableEq ν]

/-- Of the other rows none has the key of a version that the index lets in, but for one that the
transaction has replaced. -/
theorem verdict_inserted {k₀ : κ} {r : ρ} (hv : h.verdict unique i k₀ r = .inserted)
    {t : Slot ι κ ρ} (ht : t ∈ h.slots) (hne : t.key ≠ k₀) {k : ν} (hk : unique r = some k) :
    t.new.bind unique ≠ some k ∧ (t.stored.bind unique = some k → t.writer = some i) := by
  have hfree : t.claims unique i (some k) = false := by
    rw [verdict] at hv
    split at hv
    · rename_i hnone
      have hother := List.find?_eq_none.mp hnone t ht
      rw [hk] at hother
      by_contra hclaims
      exact hother (decide_eq_true ⟨hne, rfl, by simpa using hclaims⟩)
    · split at hv <;> cases hv
  rw [Slot.claims, decide_eq_false_iff_not, not_or] at hfree
  have hseen : (t.seen i).bind unique ≠ some k := by
    intro hk'
    obtain ⟨r', hr', hk'⟩ := Option.bind_eq_some_iff.mp hk'
    exact hfree.1 ((Option.any_eq_true _ _).mpr ⟨r', hr', decide_eq_true hk'⟩)
  constructor
  · intro hk'
    obtain ⟨j, hj⟩ := Slot.writer_of_new hk'
    by_cases hji : j = i
    · rw [Slot.seen_of_writer (hji ▸ hj)] at hseen
      exact hseen hk'
    · refine hfree.2 ⟨Slot.lockedFor_iff.mpr ⟨j, hji, hj⟩, ?_⟩
      obtain ⟨r', hr', hk'⟩ := Option.bind_eq_some_iff.mp hk'
      obtain ⟨change, hchange, hr'⟩ := Option.bind_eq_some_iff.mp hr'
      exact (Option.any_eq_true _ _).mpr ⟨change, hchange,
        (Option.any_eq_true _ _).mpr ⟨r', hr', decide_eq_true hk'⟩⟩
  · intro hk'
    by_contra hw
    rw [Slot.seen_of_writer_ne hw] at hseen
    exact hseen hk'

theorem Indexed.insert (hindex : h.Indexed unique) {k₀ : κ} {r : ρ}
    (hv : h.verdict unique i k₀ r = .inserted) (hi : h.insert i k₀ r = some h') :
    h'.Indexed unique := by
  obtain ⟨hfresh, hslots⟩ := insert_eq_some hi
  have hother {t : Slot ι κ ρ} (ht : t ∈ h.slots) : t.key ≠ k₀ := fun he =>
    hfresh (he ▸ List.mem_map_of_mem ht)
  intro s hs t ht hne
  rw [hslots, List.mem_append, List.mem_singleton] at hs ht
  rcases hs with hs | rfl <;> rcases ht with ht | rfl
  · exact hindex s hs t ht hne
  · refine ⟨fun k _ hk' => (by cases hk'), fun k hk hk' => ?_, fun k hk hk' => ?_⟩
    · exact (verdict_inserted hv hs (hother hs) hk').1 hk
    · exact (verdict_inserted hv hs (hother hs) hk').2 hk
  · refine ⟨fun k hk => (by cases hk), fun k hk hk' => ?_, fun k hk => by cases hk⟩
    exact (verdict_inserted hv ht (hother ht) hk).1 hk'
  · exact absurd rfl hne

/-- A statement that gives one row a key, which the index lets in -/
theorem Indexed.change_of_verdict (hindex : h.Indexed unique) (hfree : h.free i keys = true) {k₀ : κ}
    (hv : ∀ s ∈ h.slots, s.key = k₀ → ∀ r ∈ s.seen i, ∀ r' ∈ f r,
      h.verdict unique i k₀ r' = .inserted) :
    (h.change i keys (fun k _ => k = k₀) f).Indexed unique := by
  have hkept {s : Slot ι κ ρ} (hs : s ∈ h.slots) (hne : s.key ≠ k₀) :
      s.change i keys (fun k _ => k = k₀) f = s := by
    rcases change_cases hfree hs with he | ⟨-, -, r, -, hp, -⟩
    · exact he
    · exact absurd (of_decide_eq_true hp) hne
  -- what the index has said of a new version of the row
  have hnew {s : Slot ι κ ρ} (hs : s ∈ h.slots) {k : ν}
      (hk : (s.change i keys (fun k _ => k = k₀) f).new.bind unique = some k) :
      s.change i keys (fun k _ => k = k₀) f = s ∨
        (s.change i keys (fun k _ => k = k₀) f).writer = some i ∧ s.key = k₀ ∧
          ∃ r', h.verdict unique i k₀ r' = .inserted ∧ unique r' = some k := by
    rcases change_cases hfree hs with he | ⟨-, -, r, hr, hp, he⟩
    · exact .inl he
    · have hkey : s.key = k₀ := of_decide_eq_true hp
      rw [he, Slot.new_write] at hk
      obtain ⟨r', hr', hk⟩ := Option.bind_eq_some_iff.mp hk
      rw [he]
      exact .inr ⟨rfl, hkey, r', hv s hs hkey r hr r' hr', hk⟩
  intro s' hs' t' ht' hne
  obtain ⟨s, hs, rfl⟩ := mem_change.mp hs'
  obtain ⟨t, ht, rfl⟩ := mem_change.mp ht'
  rw [key_change, key_change] at hne
  have hapart := hindex s hs t ht hne
  refine ⟨fun k hk => ?_, fun k hk hk' => ?_, fun k hk hk' => ?_⟩
  · rw [stored_change] at hk ⊢
    exact hapart.stored k hk
  · rcases hnew hs hk with he | ⟨-, hkey, r', hr', hkr⟩
    · rcases hnew ht hk' with he' | ⟨-, hkey, r', hr', hkr⟩
      · rw [he] at hk
        rw [he'] at hk'
        exact hapart.new k hk hk'
      · rw [he] at hk
        exact (verdict_inserted hr' hs (fun h => hne (h.trans hkey.symm)) hkr).1 hk
    · rw [hkept ht fun h => hne (hkey.trans h.symm)] at hk'
      exact (verdict_inserted hr' ht (fun h => hne (hkey.trans h.symm)) hkr).1 hk'
  · rw [stored_change] at hk
    rcases hnew ht hk' with he' | ⟨hw, hkey, r', hr', hkr⟩
    · rw [he'] at hk' ⊢
      have hsame := hapart.replaced k hk hk'
      obtain ⟨j, hj⟩ := Slot.writer_of_new hk'
      rw [writer_change hfree hs (hsame.trans hj), hj]
    · rw [hw, hkept hs fun h => hne (h.trans hkey.symm)]
      exact (verdict_inserted hr' hs (fun h => hne (h.trans hkey.symm)) hkr).2 hk

end statements
end Heap
end Relational
