import Mathlib.Algebra.BigOperators.Group.List.Basic
import Mathlib.Data.List.Nodup
import Mathlib.Data.List.Pairwise

/-!
# Rows of concurrent transactions

Under READ COMMITTED a statement sees the committed rows and those of its own
transaction. A row carries the transaction that has written it until it is committed.
A unique index compares the rows of all transactions: an insert beside a row of another
one waits for its end, and rows whose key is null are never compared.
-/

namespace Relational
variable {ι ρ κ M : Type*}

structure Version (ι ρ : Type*) where
  writer : Option ι
  row : ρ

inductive Insertion
  | inserted
  | violates
  | waits
deriving DecidableEq

namespace Versions
section defs
variable [DecidableEq ι]

/-- A statement of the transaction sees the row. -/
def sees (i : ι) (v : Version ι ρ) : Bool := v.writer = none ∨ v.writer = some i

def committed (vs : List (Version ι ρ)) : List ρ :=
  (vs.filter (fun v => v.writer.isNone)).map Version.row

/-- What the transaction has written and not committed. -/
def written (i : ι) (vs : List (Version ι ρ)) : List ρ :=
  (vs.filter (fun v => v.writer = some i)).map Version.row

def seen (i : ι) (vs : List (Version ι ρ)) : List ρ := (vs.filter (sees i)).map Version.row

def insert (i : ι) (r : ρ) (vs : List (Version ι ρ)) : List (Version ι ρ) := vs ++ [⟨some i, r⟩]

def commit (i : ι) (vs : List (Version ι ρ)) : List (Version ι ρ) :=
  vs.map fun v => if v.writer = some i then { v with writer := none } else v

def rollback (i : ι) (vs : List (Version ι ρ)) : List (Version ι ρ) :=
  vs.filter fun v => v.writer ≠ some i

/-- What a unique index makes of an insert. -/
def insertion [DecidableEq κ] (unique : ρ → Option κ) (i : ι) (r : ρ) (vs : List (Version ι ρ)) :
    Insertion :=
  match vs.find? (fun v => (unique r).isSome ∧ unique v.row = unique r) with
  | none => .inserted
  | some v => if sees i v then .violates else .waits

end defs

/-- No two rows, of whichever transactions, have the same key. -/
def Indexed (unique : ρ → Option κ) (vs : List (Version ι ρ)) : Prop :=
  vs.Pairwise fun v w => ∀ k, unique v.row = some k → unique w.row ≠ some k

section members
variable {vs : List (Version ι ρ)} {i j : ι} {r s : ρ}

theorem mem_committed : r ∈ committed vs ↔ ⟨none, r⟩ ∈ vs := by
  rw [committed, List.mem_map]
  constructor
  · intro h
    obtain ⟨⟨writer, row⟩, hv, rfl⟩ := h
    obtain ⟨hmem, hnone⟩ := List.mem_filter.mp hv
    obtain rfl := Option.isNone_iff_eq_none.mp hnone
    exact hmem
  · intro h
    exact ⟨_, List.mem_filter.mpr ⟨h, rfl⟩, rfl⟩

variable [DecidableEq ι]

theorem mem_written : r ∈ written i vs ↔ ⟨some i, r⟩ ∈ vs := by
  rw [written, List.mem_map]
  constructor
  · intro h
    obtain ⟨⟨writer, row⟩, hv, rfl⟩ := h
    obtain ⟨hmem, hwriter⟩ := List.mem_filter.mp hv
    obtain rfl := of_decide_eq_true hwriter
    exact hmem
  · intro h
    exact ⟨_, List.mem_filter.mpr ⟨h, decide_eq_true rfl⟩, rfl⟩

theorem mem_seen : r ∈ seen i vs ↔ r ∈ committed vs ∨ r ∈ written i vs := by
  rw [mem_committed, mem_written, seen, List.mem_map]
  constructor
  · intro h
    obtain ⟨⟨writer, row⟩, hv, rfl⟩ := h
    obtain ⟨hmem, hsees⟩ := List.mem_filter.mp hv
    rcases of_decide_eq_true hsees with hnone | hsome
    · obtain rfl : writer = none := hnone
      exact .inl hmem
    · obtain rfl : writer = some i := hsome
      exact .inr hmem
  · intro h
    rcases h with h | h
    · exact ⟨_, List.mem_filter.mpr ⟨h, decide_eq_true (.inl rfl)⟩, rfl⟩
    · exact ⟨_, List.mem_filter.mpr ⟨h, decide_eq_true (.inr rfl)⟩, rfl⟩

omit [DecidableEq ι] in
theorem committed_insert : committed (insert i s vs) = committed vs := by
  simp [committed, insert]

theorem written_insert_self : written i (insert i s vs) = written i vs ++ [s] := by
  simp [written, insert]

theorem written_insert_of_ne (h : j ≠ i) : written j (insert i s vs) = written j vs := by
  simp [written, insert, h.symm]

/-- What a transaction has seen is what is committed after it. -/
theorem committed_commit : committed (commit i vs) = seen i vs := by
  rw [committed, commit, seen, List.filter_map, List.map_map]
  have hrow (v : Version ι ρ) :
      (if v.writer = some i then { v with writer := none } else v).row = v.row := by
    split <;> rfl
  have hsees : ((fun v : Version ι ρ => v.writer.isNone) ∘ fun v =>
      if v.writer = some i then { v with writer := none } else v) = sees i := by
    funext v
    by_cases hwriter : v.writer = some i
    · simp [sees, hwriter]
    · cases hv : v.writer <;> simp_all [sees]
  rw [hsees]
  exact List.map_congr_left fun v _ => hrow v

theorem map_row_commit {α : Type*} (f : ρ → α) :
    (commit i vs).map (fun v => f v.row) = vs.map fun v => f v.row := by
  rw [commit, List.map_map]
  refine List.map_congr_left fun v _ => ?_
  simp only [Function.comp_apply]
  split <;> rfl

theorem written_commit_self : written i (commit i vs) = [] := by
  rw [written, List.map_eq_nil_iff, List.filter_eq_nil_iff]
  intro v hv
  obtain ⟨w, -, rfl⟩ := List.mem_map.mp hv
  split
  · simp
  · rename_i hne
    simpa using hne

theorem written_commit_of_ne (h : j ≠ i) : written j (commit i vs) = written j vs := by
  rw [written, commit, List.filter_map, List.map_map, written]
  have hwriter : ((fun v : Version ι ρ => decide (v.writer = some j)) ∘ fun v =>
      if v.writer = some i then { v with writer := none } else v) =
      fun v => decide (v.writer = some j) := by
    funext v
    by_cases hi : v.writer = some i
    · simp [hi, h.symm]
    · simp [hi]
  rw [hwriter]
  refine List.map_congr_left fun v _ => ?_
  simp only [Function.comp_apply]
  split <;> rfl

theorem committed_rollback : committed (rollback i vs) = committed vs := by
  rw [committed, rollback, List.filter_filter, committed]
  congr 1
  refine List.filter_congr fun v _ => ?_
  cases hwriter : v.writer <;> simp

theorem written_rollback_self : written i (rollback i vs) = [] := by
  rw [written, rollback, List.filter_filter, List.map_eq_nil_iff, List.filter_eq_nil_iff]
  intro v _
  simp

theorem written_rollback_of_ne (h : j ≠ i) : written j (rollback i vs) = written j vs := by
  rw [written, rollback, List.filter_filter, written]
  congr 1
  refine List.filter_congr fun v _ => ?_
  by_cases hwriter : v.writer = some j
  · simp [hwriter, h]
  · simp [hwriter]

end members

section index
variable {vs : List (Version ι ρ)} {i : ι} {r : ρ} {unique : ρ → Option κ}

theorem Indexed.ne (h : Indexed unique vs) {v w : Version ι ρ} (hv : v ∈ vs) (hw : w ∈ vs)
    (hne : v ≠ w) {k : κ} (hk : unique v.row = some k) : unique w.row ≠ some k := by
  have hsymm : Std.Symm fun v w : Version ι ρ =>
      ∀ k, unique v.row = some k → unique w.row ≠ some k :=
    ⟨fun v w hvw k hwk hvk => hvw k hvk hwk⟩
  exact h.forall hv hw hne k hk

variable [DecidableEq ι]

theorem Indexed.insert [DecidableEq κ] (h : Indexed unique vs)
    (hinsert : insertion unique i r vs = .inserted) : Indexed unique (insert i r vs) := by
  have hfree : ∀ v ∈ vs, (unique r).isSome → unique v.row ≠ unique r := by
    rw [insertion] at hinsert
    split at hinsert
    · rename_i hnone
      intro v hv hsome hsame
      exact List.find?_eq_none.mp hnone v hv (decide_eq_true ⟨hsome, hsame⟩)
    · split at hinsert
      · cases hinsert
      · cases hinsert
  refine List.pairwise_append.mpr ⟨h, List.pairwise_singleton .., fun v hv w hw k hk hwk => ?_⟩
  rw [List.mem_singleton.mp hw] at hwk
  refine hfree v hv ?_ (hk.trans hwk.symm)
  rw [hwk]
  rfl

theorem Indexed.commit (h : Indexed unique vs) : Indexed unique (commit i vs) := by
  refine List.pairwise_map.mpr (h.imp fun {v w} hvw k hk hwk => hvw k ?_ ?_)
  · rw [← hk]
    split <;> rfl
  · rw [← hwk]
    split <;> rfl

theorem Indexed.rollback (h : Indexed unique vs) : Indexed unique (rollback i vs) :=
  h.filter _

end index

section keys
variable [DecidableEq ι] {vs : List (Version ι ρ)} {i : ι} {key : ρ → κ}

omit [DecidableEq ι] in
theorem nodup_filter_iff (p : Version ι ρ → Bool) :
    (((vs.filter p).map Version.row).map key).Nodup ↔
      vs.Pairwise fun v w => p v = true → p w = true → key v.row ≠ key w.row := by
  rw [List.Nodup, List.pairwise_map, List.pairwise_map, List.pairwise_filter]

/-- What a transaction sees has each key once, if what is committed has and what it has
written has, and it has written none of the committed keys. -/
theorem nodup_seen_iff (hcommitted : ((committed vs).map key).Nodup)
    (hwritten : ((written i vs).map key).Nodup) : ((seen i vs).map key).Nodup ↔
      ∀ r ∈ written i vs, ∀ s ∈ committed vs, key r ≠ key s := by
  have hc := (nodup_filter_iff _).mp hcommitted
  have hw := (nodup_filter_iff _).mp hwritten
  rw [seen, nodup_filter_iff]
  constructor
  · intro h r hr s hs
    have hsymm : Std.Symm fun v w : Version ι ρ =>
        sees i v = true → sees i w = true → key v.row ≠ key w.row :=
      ⟨fun v w hvw hsw hsv hsame => hvw hsv hsw hsame.symm⟩
    refine h.forall (mem_written.mp hr) (mem_committed.mp hs) (fun hsame => ?_)
      (decide_eq_true (.inr rfl)) (decide_eq_true (.inl rfl))
    cases congrArg Version.writer hsame
  · intro h
    refine (hc.and hw).imp_of_mem fun {v w} hv hw hvw hsv hsw => ?_
    obtain ⟨writer, r⟩ := v
    obtain ⟨writer', s⟩ := w
    rcases of_decide_eq_true hsv with hv' | hv' <;> rcases of_decide_eq_true hsw with hw' | hw' <;>
      obtain rfl := hv' <;> obtain rfl := hw'
    · exact hvw.1 rfl rfl
    · exact (h s (mem_written.mpr hw) r (mem_committed.mpr hv)).symm
    · exact h r (mem_written.mpr hv) s (mem_committed.mpr hw)
    · exact hvw.2 (decide_eq_true rfl) (decide_eq_true rfl)

theorem sum_seen [AddCommMonoid M] (p : ρ → Bool) (f : ρ → M) (vs : List (Version ι ρ)) (i : ι) :
    (((seen i vs).filter p).map f).sum =
      (((committed vs).filter p).map f).sum + (((written i vs).filter p).map f).sum := by
  simp only [seen, committed, written, List.filter_map, List.filter_filter, List.map_map,
    Function.comp_apply]
  induction vs with
  | nil => simp
  | cons v vs ih =>
    cases hp : p v.row with
    | false => simpa [hp] using ih
    | true =>
      cases hwriter : v.writer with
      | none =>
        have hsees : sees i v = true := by simp [sees, hwriter]
        simp [hsees, hp, hwriter, ih, add_assoc]
      | some j =>
        by_cases hj : j = i
        · have hsees : sees i v = true := by simp [sees, hwriter, hj]
          simp [hsees, hp, hwriter, hj, ih, add_left_comm]
        · have hsees : sees i v = false := by simp [sees, hwriter, hj]
          simp [hsees, hp, hwriter, hj, ih]

end keys
end Versions
end Relational
