import InstalFlow.Relational.Joined
import Mathlib.Data.List.Induction

/-!
# Grouped rows

Rows are gathered in one entry for each subject, made where a row is the first about it. An entry
that adds up a weight holds the sum over the rows about its subject, and the entries together hold
the sum over all rows that are about one.
-/

namespace Relational
variable {ρ σ γ κ β M : Type*} [DecidableEq κ]

/-- The entry of a key is changed, and made first where there is none. -/
def upsert (key : γ → κ) (k : κ) (new : γ) (f : γ → γ) (entries : List γ) : List γ :=
  if entries.any fun e => key e = k then entries.map fun e => if key e = k then f e else e
  else entries ++ [f new]

def gather (key : γ → κ) (subject : ρ → Option σ) (new : σ → γ) (add : ρ → γ → γ)
    (entries : List γ) (r : ρ) : List γ :=
  (subject r).elim entries fun s => upsert key (key (new s)) (new s) (add r) entries

def groupWith (key : γ → κ) (subject : ρ → Option σ) (new : σ → γ) (add : ρ → γ → γ)
    (rows : List ρ) : List γ :=
  rows.foldl (gather key subject new add) []

section upsert
variable {key : γ → κ} {k : κ} {new : γ} {f : γ → γ} {entries : List γ}

theorem map_key_upsert (hf : ∀ e, key (f e) = key e) (hnew : key new = k) :
    (upsert key k new f entries).map key =
      if k ∈ entries.map key then entries.map key else entries.map key ++ [k] := by
  have hany : (entries.any fun e => key e = k) = true ↔ k ∈ entries.map key := by
    simp [List.any_eq_true]
  rw [upsert]
  by_cases hk : k ∈ entries.map key
  · rw [if_pos (hany.mpr hk), if_pos hk, List.map_map]
    refine List.map_congr_left fun e _ => ?_
    rw [Function.comp_apply]
    split
    · exact hf e
    · rfl
  · rw [if_neg fun h => hk (hany.mp h), if_neg hk, List.map_append, List.map_singleton, hf, hnew]

theorem nodup_upsert (hf : ∀ e, key (f e) = key e) (hnew : key new = k)
    (h : (entries.map key).Nodup) : ((upsert key k new f entries).map key).Nodup := by
  rw [map_key_upsert hf hnew]
  split
  · exact h
  · rename_i hk
    exact List.nodup_append.mpr ⟨h, List.nodup_singleton k, fun a ha b hb => by
      rw [List.mem_singleton.mp hb]
      rintro rfl
      exact hk ha⟩

theorem mem_upsert {e : γ} (he : e ∈ upsert key k new f entries) :
    (e ∈ entries ∧ key e ≠ k) ∨ (∃ d ∈ entries, key d = k ∧ e = f d) ∨
      k ∉ entries.map key ∧ e = f new := by
  rw [upsert] at he
  split at he
  · obtain ⟨d, hd, rfl⟩ := List.mem_map.mp he
    by_cases hk : key d = k
    · rw [if_pos hk]
      exact .inr (.inl ⟨d, hd, hk, rfl⟩)
    · rw [if_neg hk]
      exact .inl ⟨hd, hk⟩
  · rename_i hany
    have hk : k ∉ entries.map key := fun hk => hany (by
      obtain ⟨d, hd, hid⟩ := List.mem_map.mp hk
      exact List.any_eq_true.mpr ⟨d, hd, decide_eq_true hid⟩)
    rcases List.mem_append.mp he with he | he
    · exact .inl ⟨he, fun hid => hk (List.mem_map.mpr ⟨e, he, hid⟩)⟩
    · exact .inr (.inr ⟨hk, List.mem_singleton.mp he⟩)

end upsert

/-- What an entry is to its rows: it keeps its key, and adds up a weight. -/
structure Accumulates [AddCommMonoid M] (key : γ → κ) (new : σ → γ) (add : ρ → γ → γ)
    (total : γ → M) (w : ρ → M) : Prop where
  key_add : ∀ r e, key (add r e) = key e
  total_new : ∀ s, total (new s) = 0
  total_add : ∀ r e, total (add r e) = total e + w r

/-- The entries that the rows with a key are gathered in -/
structure Grouped [AddCommMonoid M] (key : γ → κ) (of : ρ → Option κ) (total : γ → M) (w : ρ → M)
    (rows : List ρ) (entries : List γ) : Prop where
  nodup : (entries.map key).Nodup
  keys : ∀ k, k ∈ entries.map key ↔ ∃ r ∈ rows, of r = some k
  totals : ∀ e ∈ entries, total e = ((rows.filter fun r => of r = some (key e)).map w).sum

section labels
variable {key : γ → κ} {subject : ρ → Option σ} {new : σ → γ} {add : ρ → γ → γ}

/-- What adding leaves of an entry is what it was made with. -/
theorem label_of_mem_groupWith (label : γ → β) (hadd : ∀ r e, label (add r e) = label e)
    (rows : List ρ) : ∀ e ∈ groupWith key subject new add rows, ∃ r ∈ rows, ∃ s ∈ subject r,
      label e = label (new s) := by
  induction rows using List.reverseRecOn with
  | nil => exact fun e he => absurd he List.not_mem_nil
  | append_singleton rows r ih =>
    have hkept : ∀ d ∈ groupWith key subject new add rows, ∃ t ∈ rows ++ [r], ∃ s ∈ subject t,
        label d = label (new s) := fun d hd => by
      obtain ⟨t, ht, s, hs, hlabel⟩ := ih d hd
      exact ⟨t, List.mem_append_left _ ht, s, hs, hlabel⟩
    intro e he
    rw [groupWith, List.foldl_append] at he
    change e ∈ gather key subject new add (groupWith key subject new add rows) r at he
    rw [gather] at he
    cases hs : subject r with
    | none =>
      rw [hs] at he
      exact hkept e he
    | some s =>
      rw [hs] at he
      rcases mem_upsert he with ⟨he, -⟩ | ⟨d, hd, -, rfl⟩ | ⟨-, rfl⟩
      · exact hkept e he
      · rw [hadd]
        exact hkept d hd
      · exact ⟨r, by simp, s, hs, hadd r (new s)⟩

end labels

section groups
variable [AddCommMonoid M] {key : γ → κ} {of : ρ → Option κ} {subject : ρ → Option σ} {new : σ → γ}
  {add : ρ → γ → γ} {total : γ → M} {w : ρ → M} {rows : List ρ}

theorem sum_filter_append (rows : List ρ) (r : ρ) (p : ρ → Bool) :
    (((rows ++ [r]).filter p).map w).sum =
      ((rows.filter p).map w).sum + if p r then w r else 0 := by
  rw [List.filter_append, List.map_append, List.sum_append]
  by_cases hp : p r = true <;> simp [hp]

/-- A row without a key changes nothing. -/
theorem Grouped.skip {entries : List γ} (h : Grouped key of total w rows entries) {r : ρ}
    (hof : of r = none) : Grouped key of total w (rows ++ [r]) entries := by
  refine ⟨h.nodup, fun k => ?_, fun e he => ?_⟩
  · rw [h.keys]
    simp [hof]
  · rw [sum_filter_append, h.totals e he, hof, if_neg (by simp), add_zero]

theorem Grouped.enter (h : Accumulates key new add total w) {entries : List γ}
    (hrows : Grouped key of total w rows entries) {r : ρ} {s : σ}
    (hof : of r = some (key (new s))) : Grouped key of total w (rows ++ [r])
      (upsert key (key (new s)) (new s) (add r) entries) := by
  have hsum (l : κ) : (((rows ++ [r]).filter fun t => of t = some l).map w).sum =
      ((rows.filter fun t => of t = some l).map w).sum + if l = key (new s) then w r else 0 := by
    rw [sum_filter_append, hof]
    refine congrArg _ (if_congr ?_ rfl rfl)
    rw [decide_eq_true_iff, Option.some.injEq, eq_comm]
  refine ⟨nodup_upsert (h.key_add r) rfl hrows.nodup, fun l => ?_, fun e he => ?_⟩
  · rw [map_key_upsert (h.key_add r) rfl]
    have hkeys := hrows.keys l
    by_cases hl : l = key (new s)
    · subst hl
      refine iff_of_true ?_ ⟨r, by simp, hof⟩
      split
      · assumption
      · simp
    · have hmem : (l ∈ if key (new s) ∈ entries.map key then entries.map key
          else entries.map key ++ [key (new s)]) ↔ l ∈ entries.map key := by
        split <;> simp [hl]
      rw [hmem, hkeys]
      constructor
      · rintro ⟨t, ht, hoft⟩
        exact ⟨t, List.mem_append_left _ ht, hoft⟩
      · rintro ⟨t, ht, hoft⟩
        rcases List.mem_append.mp ht with ht | ht
        · exact ⟨t, ht, hoft⟩
        · rw [List.mem_singleton.mp ht, hof] at hoft
          exact absurd (Option.some.inj hoft).symm hl
  · rw [hsum]
    rcases mem_upsert he with ⟨he, hne⟩ | ⟨d, hd, hid, rfl⟩ | ⟨hfresh, rfl⟩
    · rw [if_neg hne, add_zero, hrows.totals e he]
    · rw [h.key_add, if_pos hid, h.total_add, hrows.totals d hd]
    · have hnone : (rows.filter fun t => of t = some (key (new s))) = [] := by
        refine List.filter_eq_nil_iff.mpr fun t ht hoft => hfresh ?_
        exact (hrows.keys _).mpr ⟨t, ht, of_decide_eq_true hoft⟩
      rw [h.key_add, if_pos rfl, h.total_add, h.total_new, hnone, List.map_nil, List.sum_nil]

theorem grouped_groupWith (h : Accumulates key new add total w) (subject : ρ → Option σ)
    (rows : List ρ) : Grouped key (fun r => (subject r).map fun s => key (new s)) total w rows
      (groupWith key subject new add rows) := by
  induction rows using List.reverseRecOn with
  | nil =>
    refine ⟨List.nodup_nil, fun k => ?_, fun e he => absurd he List.not_mem_nil⟩
    simp [groupWith]
  | append_singleton rows r ih =>
    rw [groupWith, List.foldl_append]
    change Grouped _ _ _ _ _ (gather key subject new add (groupWith key subject new add rows) r)
    rw [gather]
    cases hs : subject r with
    | none => exact ih.skip (by rw [hs]; rfl)
    | some s => exact ih.enter h (by rw [hs]; rfl)

/-- The sums of the keys make up the sum of the rows that have one. -/
theorem sum_of_keys {keys : List κ} (hnodup : keys.Nodup)
    (hkeys : ∀ r ∈ rows, ∀ k, of r = some k → k ∈ keys) :
    (keys.map fun k => ((rows.filter fun r => of r = some k).map w).sum).sum =
      ((rows.filter fun r => (of r).isSome).map w).sum := by
  induction rows using List.reverseRecOn with
  | nil => simp
  | append_singleton rows r ih =>
    have hrest : ∀ s ∈ rows, ∀ k, of s = some k → k ∈ keys := fun s hs =>
      hkeys s (List.mem_append_left _ hs)
    simp only [sum_filter_append, List.sum_map_add, ih hrest]
    refine congrArg _ ?_
    cases hof : of r with
    | none => simp
    | some k =>
      have hk : k ∈ keys := hkeys r (by simp) k hof
      have hunique : (keys.map id).Nodup := by rwa [List.map_id]
      have hone := Table.sum_map_key hunique k fun _ => w r
      have hfind : (keys.find? fun l => id l = k) = some k := by
        obtain ⟨l, hl⟩ := Option.isSome_iff_exists.mp
          (List.find?_isSome (p := fun l => decide (id l = k)) |>.mpr ⟨k, hk, by simp⟩)
        rw [hl]
        have hkey := List.find?_some (p := fun l => decide (id l = k)) hl
        exact congrArg some (of_decide_eq_true hkey)
      rw [hfind] at hone
      simpa [eq_comm] using hone

/-- The rows of each of some keys weigh together what the rows of all of them do. -/
theorem sum_of_some_keys {keys : List κ} (hnodup : keys.Nodup) (of : ρ → Option κ) (w : ρ → M)
    (rows : List ρ) :
    (keys.map fun k => ((rows.filter fun r => (of r).any fun l => l = k).map w).sum).sum =
      ((rows.filter fun r => (of r).any fun l => l ∈ keys).map w).sum := by
  have hsome : (keys.map fun k =>
      ((rows.filter fun r => (of r).filter (fun l => l ∈ keys) = some k).map w).sum).sum =
        ((rows.filter fun r => ((of r).filter fun l => l ∈ keys).isSome).map w).sum :=
    sum_of_keys hnodup fun r _ k hk => of_decide_eq_true (Option.filter_eq_some_iff.mp hk).2
  have hany (r : ρ) : ((of r).filter fun l => l ∈ keys).isSome = (of r).any fun l => l ∈ keys := by
    cases of r with
    | none => rfl
    | some l => by_cases hl : l ∈ keys <;> simp [hl]
  simp only [hany] at hsome
  rw [← hsome]
  refine congrArg List.sum (List.map_congr_left fun k hk => ?_)
  refine congrArg (fun l => (l.map w).sum) (List.filter_congr fun r _ => ?_)
  cases of r with
  | none => simp
  | some l =>
    by_cases hl : l = k
    · subst hl
      simp [hk]
    · simp [hl, Option.filter_eq_some_iff]

theorem countP_of_some_keys {keys : List κ} (hnodup : keys.Nodup) (of : ρ → Option κ)
    (rows : List ρ) :
    (keys.map fun k => rows.countP fun r => (of r).any fun l => l = k).sum =
      rows.countP fun r => (of r).any fun l => l ∈ keys := by
  have hsum := sum_of_some_keys hnodup of (fun _ => 1) rows
  simpa [List.countP_eq_length_filter] using hsum

/-- The entries together hold what the rows with a key weigh. -/
theorem Grouped.sum_eq {entries : List γ} (h : Grouped key of total w rows entries) :
    (entries.map total).sum = ((rows.filter fun r => (of r).isSome).map w).sum := by
  have hkeys : ∀ r ∈ rows, ∀ k, of r = some k → k ∈ entries.map key := fun r hr k hk =>
    (h.keys k).mpr ⟨r, hr, hk⟩
  rw [← sum_of_keys h.nodup hkeys, List.map_map]
  exact congrArg List.sum (List.map_congr_left h.totals)

end groups
end Relational
