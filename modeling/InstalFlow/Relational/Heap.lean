import InstalFlow.Relational.Versions
import Mathlib.Data.List.Forall2

/-!
# Rows that concurrent transactions change

A row keeps its committed version beside the one that a transaction has made of it, and is
locked by that transaction until its end. A statement of an UPDATE or a DELETE finds its rows
among the committed ones and its own, waits for the locks on them, and looks again at what
they have become. The generator of keys gives no key out twice.
-/

namespace Relational
variable {ι κ ρ : Type*}

/-- The committed version, and what a transaction has made of it: another version, or none
where it is deleted. -/
structure Slot (ι κ ρ : Type*) where
  key : κ
  stored : Option ρ
  pending : Option (ι × Option ρ) := none

namespace Slot

def writer (s : Slot ι κ ρ) : Option ι := s.pending.map Prod.fst

/-- Every version of the row meets `P`. -/
def Always (P : ρ → Prop) (s : Slot ι κ ρ) : Prop :=
  (∀ r ∈ s.stored, P r) ∧ ∀ change ∈ s.pending, ∀ r ∈ change.2, P r

variable [DecidableEq ι]

/-- The row as a statement of the transaction sees it. -/
def seen (i : ι) (s : Slot ι κ ρ) : Option ρ :=
  match s.pending with
  | none => s.stored
  | some (j, new) => if j = i then new else s.stored

def lockedFor (i : ι) (s : Slot ι κ ρ) : Bool := s.pending.any fun change => change.1 ≠ i

/-- A version has the key of a unique index, and may come to be committed as far as the
transaction can tell. -/
def claims {ν : Type*} [DecidableEq ν] (unique : ρ → Option ν) (i : ι) (k : Option ν)
    (s : Slot ι κ ρ) : Bool :=
  (s.seen i).any (fun r => unique r = k) ∨
    s.lockedFor i ∧ s.pending.any fun change => change.2.any fun r => unique r = k

def write (i : ι) (new : Option ρ) (s : Slot ι κ ρ) : Slot ι κ ρ :=
  { s with pending := some (i, new) }

def rollback (i : ι) (s : Slot ι κ ρ) : Slot ι κ ρ :=
  { s with pending := s.pending.filter fun change => change.1 ≠ i }

def commit (i : ι) (s : Slot ι κ ρ) : Slot ι κ ρ := { s.rollback i with stored := s.seen i }

/-- A row that is a target still, after the wait, gets the version that `f` makes of it. -/
def change [DecidableEq κ] (i : ι) (keys : List κ) (p : κ → ρ → Bool) (f : ρ → Option ρ)
    (s : Slot ι κ ρ) : Slot ι κ ρ :=
  if s.key ∈ keys ∧ (s.seen i).any (p s.key) then s.write i ((s.seen i).bind f) else s

section lemmas
variable {i j : ι} {s : Slot ι κ ρ} {new : Option ρ}

theorem seen_of_writer_ne (h : s.writer ≠ some i) : s.seen i = s.stored := by
  obtain ⟨key, stored, pending⟩ := s
  cases pending with
  | none => rfl
  | some change => exact if_neg fun he => h (congrArg some he)

theorem seen_write_self : (s.write i new).seen i = new := if_pos rfl

theorem writer_ne_of_free (h : j ≠ i) (hfree : s.lockedFor i = false) : s.writer ≠ some j := by
  intro hj
  obtain ⟨change, hchange, rfl⟩ := Option.map_eq_some_iff.mp hj
  rw [lockedFor, hchange, Option.any_some, decide_eq_false_iff_not] at hfree
  exact hfree h

theorem seen_write_of_ne (h : j ≠ i) (hfree : s.lockedFor i = false) :
    (s.write i new).seen j = s.seen j := by
  rw [seen_of_writer_ne (writer_ne_of_free h hfree)]
  exact if_neg fun he => h he.symm

theorem writer_rollback_self : (s.rollback i).writer ≠ some i := by
  intro h
  obtain ⟨change, hchange, rfl⟩ := Option.map_eq_some_iff.mp h
  exact of_decide_eq_true (Option.filter_eq_some_iff.mp hchange).2 rfl

theorem rollback_of_writer_ne (h : s.writer ≠ some i) : s.rollback i = s := by
  obtain ⟨key, stored, pending⟩ := s
  cases pending with
  | none => rfl
  | some change =>
    have hne : change.1 ≠ i := fun he => h (congrArg some he)
    rw [rollback, Option.filter_some, if_pos (decide_eq_true hne)]

theorem commit_of_writer_ne (h : s.writer ≠ some i) : s.commit i = s := by
  rw [commit, rollback_of_writer_ne h, seen_of_writer_ne h]

theorem writer_rollback_of_ne (h : j ≠ i) : (s.rollback i).writer = some j ↔ s.writer = some j := by
  by_cases hi : s.writer = some i
  · refine iff_of_false (fun hj => ?_) fun hj => h (Option.some.inj (hj.symm.trans hi))
    obtain ⟨change, hchange, hj⟩ := Option.map_eq_some_iff.mp hj
    obtain ⟨change', hchange', hi⟩ := Option.map_eq_some_iff.mp hi
    obtain ⟨hmem, hne⟩ := Option.filter_eq_some_iff.mp hchange
    obtain rfl := Option.some.inj (hmem.symm.trans hchange')
    exact of_decide_eq_true hne hi
  · rw [rollback_of_writer_ne hi]

theorem seen_rollback_of_ne (h : j ≠ i) : (s.rollback i).seen j = s.seen j := by
  by_cases hi : s.writer = some i
  · have hj : s.writer ≠ some j := fun hj => h (Option.some.inj (hj.symm.trans hi))
    rw [seen_of_writer_ne hj, seen_of_writer_ne fun hj' => hj ((writer_rollback_of_ne h).mp hj')]
    rfl
  · rw [rollback_of_writer_ne hi]

theorem Always.seen {P : ρ → Prop} (h : s.Always P) (i : ι) : ∀ r ∈ s.seen i, P r := by
  obtain ⟨key, stored, pending⟩ := s
  cases pending with
  | none => exact h.1
  | some change =>
    intro r hr
    by_cases hi : change.1 = i
    · exact h.2 change rfl r (by simpa [Slot.seen, hi] using hr)
    · exact h.1 r (by simpa [Slot.seen, hi] using hr)

theorem Always.rollback {P : ρ → Prop} (h : s.Always P) (i : ι) : (s.rollback i).Always P :=
  ⟨h.1, fun change hchange => h.2 change (Option.filter_eq_some_iff.mp hchange).1⟩

theorem Always.commit {P : ρ → Prop} (h : s.Always P) (i : ι) : (s.commit i).Always P :=
  ⟨h.seen i, (h.rollback i).2⟩

theorem Always.change [DecidableEq κ] {P : ρ → Prop} (h : s.Always P) {f : ρ → Option ρ}
    (hf : ∀ r, P r → ∀ r' ∈ f r, P r') (i : ι) (keys : List κ) (p : κ → ρ → Bool) :
    (s.change i keys p f).Always P := by
  rw [Slot.change]
  split
  · refine ⟨h.1, fun change hchange r' hr' => ?_⟩
    cases hchange
    obtain ⟨r, hr, hr'⟩ := Option.bind_eq_some_iff.mp hr'
    exact hf r (h.seen i r hr) r' hr'
  · exact h

end lemmas
end Slot

/-- The rows of a table, each with a key of its own, the deleted ones included. -/
structure Heap (ι κ ρ : Type*) where
  slots : List (Slot ι κ ρ)
  unique : (slots.map Slot.key).Nodup

namespace Heap

def committed (h : Heap ι κ ρ) : List ρ := h.slots.filterMap Slot.stored

def mapSlots (g : Slot ι κ ρ → Slot ι κ ρ) (hg : ∀ s, (g s).key = s.key) (h : Heap ι κ ρ) :
    Heap ι κ ρ where
  slots := h.slots.map g
  unique := by
    have hkeys : (h.slots.map g).map Slot.key = h.slots.map Slot.key := by
      rw [List.map_map]
      exact List.map_congr_left fun s _ => hg s
    rw [hkeys]
    exact h.unique

variable [DecidableEq ι]

def seen (i : ι) (h : Heap ι κ ρ) : List ρ := h.slots.filterMap (Slot.seen i)

/-- The rows that a statement sees, with their keys -/
def entries (i : ι) (h : Heap ι κ ρ) : List (κ × ρ) :=
  h.slots.filterMap fun s => (s.seen i).map (s.key, ·)

def rollback (i : ι) (h : Heap ι κ ρ) : Heap ι κ ρ := h.mapSlots (Slot.rollback i) fun _ => rfl

def commit (i : ι) (h : Heap ι κ ρ) : Heap ι κ ρ := h.mapSlots (Slot.commit i) fun _ => rfl

/-- The rows that a statement finds as it starts -/
def targets (i : ι) (p : κ → ρ → Bool) (h : Heap ι κ ρ) : List κ :=
  (h.slots.filter fun s => (s.seen i).any (p s.key)).map Slot.key

variable [DecidableEq κ]

/-- What a unique index, under which the row at `k` is to have the version `r`, answers. A version
that another transaction has written or replaced is waited for. -/
def verdict {ν : Type*} [DecidableEq ν] (unique : ρ → Option ν) (i : ι) (k : κ) (r : ρ)
    (h : Heap ι κ ρ) : Insertion :=
  match h.slots.find? fun s => s.key ≠ k ∧ (unique r).isSome ∧ s.claims unique i (unique r) with
  | none => .inserted
  | some s => if s.lockedFor i then .waits else .violates

/-- No other transaction holds one of the rows. -/
def free (i : ι) (keys : List κ) (h : Heap ι κ ρ) : Bool :=
  h.slots.all fun s => s.key ∉ keys ∨ s.lockedFor i = false

theorem key_change {i : ι} {keys : List κ} {p : κ → ρ → Bool} {f : ρ → Option ρ}
    (s : Slot ι κ ρ) : (s.change i keys p f).key = s.key := by
  rw [Slot.change]
  split <;> rfl

def change (i : ι) (keys : List κ) (p : κ → ρ → Bool) (f : ρ → Option ρ) (h : Heap ι κ ρ) :
    Heap ι κ ρ :=
  h.mapSlots (Slot.change i keys p f) key_change

/-- Whether a statement changes a row after its wait -/
def changes (i : ι) (keys : List κ) (p : κ → ρ → Bool) (h : Heap ι κ ρ) : Bool :=
  h.slots.any fun s => s.key ∈ keys ∧ (s.seen i).any (p s.key)

def insert (i : ι) (k : κ) (r : ρ) (h : Heap ι κ ρ) : Option (Heap ι κ ρ) :=
  if hk : k ∈ h.slots.map Slot.key then none
  else some
    { slots := h.slots ++ [⟨k, none, some (i, some r)⟩]
      unique := by
        rw [List.map_append, List.map_singleton]
        refine h.unique.append (List.nodup_singleton k) ?_
        rw [List.disjoint_singleton]
        exact hk }

section counts

omit [DecidableEq ι] [DecidableEq κ] in
theorem countP_committed (q : ρ → Bool) (h : Heap ι κ ρ) :
    h.committed.countP q = h.slots.countP fun s => s.stored.any q := by
  rw [committed, List.countP_filterMap]
  refine List.countP_congr fun s _ => ?_
  cases s.stored <;> rfl

omit [DecidableEq κ] in
theorem countP_seen (q : ρ → Bool) (i : ι) (h : Heap ι κ ρ) :
    (h.seen i).countP q = h.slots.countP fun s => (s.seen i).any q := by
  rw [seen, List.countP_filterMap]
  refine List.countP_congr fun s _ => ?_
  cases s.seen i <;> rfl

omit [DecidableEq κ] in
/-- What a transaction has seen is what is committed after it. -/
theorem committed_commit (i : ι) (h : Heap ι κ ρ) : (h.commit i).committed = h.seen i := by
  have hstored : (h.commit i).slots = h.slots.map (Slot.commit i) := rfl
  rw [committed, hstored, List.filterMap_map, seen]
  rfl

omit [DecidableEq ι] in
/-- The one row at a key -/
theorem countP_eq_one {h : Heap ι κ ρ} {p : Slot ι κ ρ → Bool} {s : Slot ι κ ρ}
    (hs : s ∈ h.slots) (hp : ∀ t ∈ h.slots, p t = true ↔ t.key = s.key) :
    h.slots.countP p = 1 := by
  have hcount : (h.slots.map Slot.key).count s.key = 1 :=
    List.count_eq_one_of_mem h.unique (List.mem_map_of_mem hs)
  rw [← hcount, List.count, List.countP_map]
  refine List.countP_congr fun t ht => ?_
  rw [hp t ht, Function.comp_apply, beq_iff_eq]

end counts

omit [DecidableEq ι] [DecidableEq κ] in
theorem mem_mapSlots {g : Slot ι κ ρ → Slot ι κ ρ} {hg : ∀ s, (g s).key = s.key}
    {h : Heap ι κ ρ} {s : Slot ι κ ρ} : s ∈ (h.mapSlots g hg).slots ↔ ∃ t ∈ h.slots, g t = s :=
  List.mem_map

omit [DecidableEq ι] [DecidableEq κ] in
theorem committed_mapSlots {g : Slot ι κ ρ → Slot ι κ ρ} {hg : ∀ s, (g s).key = s.key}
    {h : Heap ι κ ρ} (hs : ∀ s ∈ h.slots, (g s).stored = s.stored) :
    (h.mapSlots g hg).committed = h.committed := by
  have hslots : (h.mapSlots g hg).slots = h.slots.map g := rfl
  rw [committed, hslots, List.filterMap_map, committed]
  exact List.filterMap_congr hs

omit [DecidableEq ι] in
theorem insert_eq_some {i : ι} {k : κ} {r : ρ} {h h' : Heap ι κ ρ} (hi : h.insert i k r = some h') :
    k ∉ h.slots.map Slot.key ∧ h'.slots = h.slots ++ [⟨k, none, some (i, some r)⟩] := by
  rw [insert] at hi
  split at hi
  · cases hi
  · rename_i hk
    cases hi
    exact ⟨hk, rfl⟩

end Heap

/-- Another transaction's statement leaves alone what a transaction `j` can tell of a row: whether
the version that is committed meets `q`, and the one that `j` sees, and whether `j` holds the row. -/
structure Slot.Alike [DecidableEq ι] (q : ρ → Bool) (j : ι) (s s' : Slot ι κ ρ) : Prop where
  key : s'.key = s.key
  stored : s'.stored.any q = s.stored.any q
  seen : (s'.seen j).any q = (s.seen j).any q
  writer : s'.writer = some j ↔ s.writer = some j

namespace Heap
variable [DecidableEq ι] {q : ρ → Bool} {i j : ι} {h h' : Heap ι κ ρ}

/-- The rows are alike but for those that others insert. -/
def Alike (q : ρ → Bool) (j : ι) (h h' : Heap ι κ ρ) : Prop :=
  ∃ base extra, h'.slots = base ++ extra ∧ List.Forall₂ (Slot.Alike q j) h.slots base ∧
    ∀ s ∈ extra, s.stored = none ∧ s.writer ≠ some j

def Unwritten (i : ι) (h : Heap ι κ ρ) : Prop := ∀ s ∈ h.slots, s.writer ≠ some i

/-- The versions that a transaction has made meet `q` where the committed ones do. -/
def Keeps (q : ρ → Bool) (i : ι) (h : Heap ι κ ρ) : Prop :=
  ∀ s ∈ h.slots, s.writer = some i → (s.seen i).any q = s.stored.any q

theorem Unwritten.keeps (hu : h.Unwritten i) : h.Keeps q i := fun s hs hw => absurd hw (hu s hs)

theorem Unwritten.seen_eq (hu : h.Unwritten i) : h.seen i = h.committed :=
  List.filterMap_congr fun s hs => Slot.seen_of_writer_ne (hu s hs)

theorem mem_entries {e : κ × ρ} :
    e ∈ h.entries i ↔ ∃ s ∈ h.slots, s.key = e.1 ∧ e.2 ∈ s.seen i := by
  obtain ⟨k, r⟩ := e
  rw [entries, List.mem_filterMap]
  refine exists_congr fun s => and_congr_right fun _ => ?_
  rw [Option.map_eq_some_iff, Option.mem_def]
  constructor
  · intro h
    obtain ⟨r', hr', he⟩ := h
    cases he
    exact ⟨rfl, hr'⟩
  · intro h
    exact ⟨r, h.2, by rw [h.1]⟩

theorem Keeps.seen (hk : h.Keeps q i) {s : Slot ι κ ρ} (hs : s ∈ h.slots) :
    (s.seen i).any q = s.stored.any q := by
  by_cases hw : s.writer = some i
  · exact hk s hs hw
  · rw [Slot.seen_of_writer_ne hw]

theorem unwritten_commit : (h.commit i).Unwritten i := by
  intro s hs
  obtain ⟨t, -, rfl⟩ := mem_mapSlots.mp hs
  exact Slot.writer_rollback_self

theorem unwritten_rollback : (h.rollback i).Unwritten i := by
  intro s hs
  obtain ⟨t, -, rfl⟩ := mem_mapSlots.mp hs
  exact Slot.writer_rollback_self

theorem keeps_commit_of_ne (hne : j ≠ i) (hk : h.Keeps q j) : (h.commit i).Keeps q j := by
  intro s' hs' hw'
  obtain ⟨s, hs, rfl⟩ := mem_mapSlots.mp hs'
  have hw : s.writer = some j := (Slot.writer_rollback_of_ne hne).mp hw'
  rw [Slot.commit_of_writer_ne fun hi => hne (Option.some.inj (hw.symm.trans hi))]
  exact hk s hs hw

theorem unwritten_commit_of_ne (hne : j ≠ i) (hu : h.Unwritten j) : (h.commit i).Unwritten j := by
  intro s' hs' hw'
  obtain ⟨s, hs, rfl⟩ := mem_mapSlots.mp hs'
  exact hu s hs ((Slot.writer_rollback_of_ne hne).mp hw')

namespace Alike

theorem mem (ha : h.Alike q j h') {s' : Slot ι κ ρ} (hs : s' ∈ h'.slots) :
    (∃ s ∈ h.slots, s.Alike q j s') ∨ s'.stored = none ∧ s'.writer ≠ some j := by
  obtain ⟨base, extra, hslots, hbase, hextra⟩ := ha
  rw [hslots, List.mem_append] at hs
  rcases hs with hs | hs
  · obtain ⟨n, hn, rfl⟩ := List.mem_iff_getElem.mp hs
    obtain ⟨hlength, hget⟩ := List.forall₂_iff_get.mp hbase
    have hn' : n < h.slots.length := hlength ▸ hn
    exact .inl ⟨h.slots[n], List.getElem_mem hn', hget n hn' hn⟩
  · exact .inr (hextra s' hs)

theorem countP {p : Slot ι κ ρ → Bool} (ha : h.Alike q j h')
    (hp : ∀ s s', s.Alike q j s' → p s' = p s)
    (hextra : ∀ s, s.stored = none → s.writer ≠ some j → p s = false) :
    h'.slots.countP p = h.slots.countP p := by
  obtain ⟨base, extra, hslots, hbase, hforeign⟩ := ha
  have hzero : extra.countP p = 0 := by
    rw [List.countP_eq_zero]
    intro s hs
    rw [hextra s (hforeign s hs).1 (hforeign s hs).2]
    exact Bool.false_ne_true
  rw [hslots, List.countP_append, hzero, Nat.add_zero]
  clear hslots
  generalize h.slots = slots at hbase ⊢
  induction hbase with
  | nil => rfl
  | cons hs _ ih => rw [List.countP_cons, List.countP_cons, ih, hp _ _ hs]

theorem countP_committed (ha : h.Alike q j h') : h'.committed.countP q = h.committed.countP q := by
  rw [Heap.countP_committed, Heap.countP_committed]
  refine ha.countP (fun s s' hs => hs.stored) fun s hs _ => ?_
  rw [hs]
  rfl

theorem countP_seen (ha : h.Alike q j h') : (h'.seen j).countP q = (h.seen j).countP q := by
  rw [Heap.countP_seen, Heap.countP_seen]
  refine ha.countP (fun s s' hs => hs.seen) fun s hs hw => ?_
  rw [Slot.seen_of_writer_ne hw, hs]
  rfl

theorem unwritten (ha : h.Alike q j h') (hu : h.Unwritten j) : h'.Unwritten j := by
  intro s' hs'
  rcases ha.mem hs' with ⟨s, hs, hsame⟩ | ⟨-, hw⟩
  · exact fun hw => hu s hs (hsame.writer.mp hw)
  · exact hw

theorem keeps (ha : h.Alike q j h') (hk : h.Keeps q j) : h'.Keeps q j := by
  intro s' hs' hw'
  rcases ha.mem hs' with ⟨s, hs, hsame⟩ | ⟨-, hw⟩
  · rw [hsame.seen, hsame.stored, hk s hs (hsame.writer.mp hw')]
  · exact absurd hw' hw

theorem of_map {g : Slot ι κ ρ → Slot ι κ ρ} {hg : ∀ s, (g s).key = s.key}
    (hs : ∀ s ∈ h.slots, s.Alike q j (g s)) : h.Alike q j (h.mapSlots g hg) := by
  refine ⟨h.slots.map g, [], (List.append_nil _).symm, ?_, fun s hs => by cases hs⟩
  rw [List.forall₂_map_right_iff, List.forall₂_same]
  exact hs

section statements
variable [DecidableEq κ] {keys : List κ} {p : κ → ρ → Bool} {f : ρ → Option ρ}

omit [DecidableEq κ] in
theorem rollback (hne : j ≠ i) : h.Alike q j (h.rollback i) :=
  of_map fun _ _ => ⟨rfl, rfl, by rw [Slot.seen_rollback_of_ne hne], Slot.writer_rollback_of_ne hne⟩

theorem change (hne : j ≠ i) (hfree : h.free i keys = true) :
    h.Alike q j (h.change i keys p f) := by
  refine of_map fun s hs => ?_
  rw [Slot.change]
  split
  · rename_i htarget
    have hlock : s.lockedFor i = false :=
      (of_decide_eq_true (List.all_eq_true.mp hfree s hs)).resolve_left fun hk => hk htarget.1
    refine ⟨rfl, rfl, by rw [Slot.seen_write_of_ne hne hlock], iff_of_false ?_ ?_⟩
    · exact fun hw => hne (Option.some.inj hw).symm
    · exact Slot.writer_ne_of_free hne hlock
  · exact ⟨rfl, rfl, rfl, Iff.rfl⟩

theorem insert (hne : j ≠ i) {k : κ} {r : ρ} (hi : h.insert i k r = some h') : h.Alike q j h' := by
  refine ⟨h.slots, _, (insert_eq_some hi).2, List.forall₂_same.mpr fun s _ =>
    ⟨rfl, rfl, rfl, Iff.rfl⟩, fun s hs => ?_⟩
  obtain rfl := List.mem_singleton.mp hs
  exact ⟨rfl, fun hw => hne (Option.some.inj hw).symm⟩

omit [DecidableEq κ] in
/-- The commit of a transaction that keeps `q` -/
theorem commit (hne : j ≠ i) (hk : h.Keeps q i) : h.Alike q j (h.commit i) := by
  refine of_map fun s hs => ?_
  by_cases hw : s.writer = some i
  · have hj : s.writer ≠ some j := fun hj => hne (Option.some.inj (hj.symm.trans hw))
    have hj' : (s.commit i).writer ≠ some j := fun h => hj ((Slot.writer_rollback_of_ne hne).mp h)
    refine ⟨rfl, hk s hs hw, ?_, iff_of_false hj' hj⟩
    rw [Slot.seen_of_writer_ne hj, Slot.seen_of_writer_ne hj']
    exact hk s hs hw
  · rw [Slot.commit_of_writer_ne hw]
    exact ⟨rfl, rfl, rfl, Iff.rfl⟩

end statements
end Alike

theorem committed_rollback : (h.rollback i).committed = h.committed :=
  committed_mapSlots fun _ _ => rfl

omit [DecidableEq ι] in
theorem committed_insert [DecidableEq κ] {k : κ} {r : ρ} (hi : h.insert i k r = some h') :
    h'.committed = h.committed := by
  rw [committed, (insert_eq_some hi).2, List.filterMap_append]
  exact List.append_nil _

theorem Keeps.countP_commit (hk : h.Keeps q i) :
    (h.commit i).committed.countP q = h.committed.countP q := by
  rw [committed_commit, countP_seen, countP_committed]
  refine List.countP_congr fun s hs => ?_
  rw [hk.seen hs]

section own
variable [DecidableEq κ] {keys : List κ} {p : κ → ρ → Bool} {f : ρ → Option ρ}

theorem mem_change {s : Slot ι κ ρ} : s ∈ (h.change i keys p f).slots ↔
    ∃ t ∈ h.slots, t.change i keys p f = s := mem_mapSlots

theorem seen_change (s : Slot ι κ ρ) : (s.change i keys p f).seen i =
    if s.key ∈ keys ∧ (s.seen i).any (p s.key) then (s.seen i).bind f else s.seen i := by
  rw [Slot.change]
  split
  · exact Slot.seen_write_self
  · rfl

theorem stored_change (s : Slot ι κ ρ) : (s.change i keys p f).stored = s.stored := by
  rw [Slot.change]
  split <;> rfl

theorem committed_change : (h.change i keys p f).committed = h.committed :=
  committed_mapSlots fun s _ => stored_change s

theorem Keeps.change (hk : h.Keeps q i)
    (hf : ∀ s ∈ h.slots, s.key ∈ keys → ∀ r ∈ s.seen i, p s.key r = true → (f r).any q = q r) :
    (h.change i keys p f).Keeps q i := by
  intro s' hs' _
  obtain ⟨s, hs, rfl⟩ := mem_change.mp hs'
  rw [stored_change, seen_change, ← hk.seen hs]
  split
  · rename_i htarget
    obtain ⟨r, hr, hp⟩ := (Option.any_eq_true _ _).mp htarget.2
    have hr' : s.seen i = some r := hr
    rw [hr', Option.bind_some, hf s hs htarget.1 r hr hp]
    rfl
  · rfl

omit [DecidableEq κ] in
theorem seen_inserted {k : κ} {r : ρ} :
    (⟨k, none, some (i, some r)⟩ : Slot ι κ ρ).seen i = some r := if_pos rfl

theorem Keeps.insert (hk : h.Keeps q i) {k : κ} {r : ρ} (hr : q r = false)
    (hi : h.insert i k r = some h') : h'.Keeps q i := by
  intro s hs hw
  rw [(insert_eq_some hi).2, List.mem_append, List.mem_singleton] at hs
  rcases hs with hs | rfl
  · exact hk s hs hw
  · rw [seen_inserted]
    exact hr

end own

section fixed
variable {α : Type*} {c : ρ → α} {k : κ} {x : α}

/-- All versions of a row have one value of a column. -/
def Fixed (c : ρ → α) (h : Heap ι κ ρ) : Prop :=
  ∀ s ∈ h.slots, ∃ x, s.Always fun r => c r = x

/-- The row at a key, whose versions all have one value of a column -/
def Has (c : ρ → α) (k : κ) (x : α) (h : Heap ι κ ρ) : Prop :=
  ∃ s ∈ h.slots, s.key = k ∧ s.Always fun r => c r = x

/-- What each row keeps of a column. -/
structure Preserves (c : ρ → α) (h h' : Heap ι κ ρ) : Prop where
  fixed : h.Fixed c → h'.Fixed c
  has : ∀ k x, h.Has c k x → h'.Has c k x

omit [DecidableEq ι] in
theorem Preserves.refl (h : Heap ι κ ρ) : h.Preserves c h := ⟨id, fun _ _ hhas => hhas⟩

omit [DecidableEq ι] in
theorem preserves_mapSlots {g : Slot ι κ ρ → Slot ι κ ρ} {hg : ∀ s, (g s).key = s.key}
    (hs : ∀ s x, s.Always (fun r => c r = x) → (g s).Always fun r => c r = x) :
    h.Preserves c (h.mapSlots g hg) := by
  refine ⟨fun hfixed s' hs' => ?_, fun k x hhas => ?_⟩
  · obtain ⟨s, hmem, rfl⟩ := mem_mapSlots.mp hs'
    obtain ⟨x, hx⟩ := hfixed s hmem
    exact ⟨x, hs s x hx⟩
  · obtain ⟨s, hmem, hk, hx⟩ := hhas
    exact ⟨g s, mem_mapSlots.mpr ⟨s, hmem, rfl⟩, (hg s).trans hk, hs s x hx⟩

theorem preserves_commit : h.Preserves c (h.commit i) :=
  preserves_mapSlots fun _ _ hx => hx.commit i

theorem preserves_rollback : h.Preserves c (h.rollback i) :=
  preserves_mapSlots fun _ _ hx => hx.rollback i

theorem preserves_change [DecidableEq κ] {keys : List κ} {p : κ → ρ → Bool} {f : ρ → Option ρ}
    (hf : ∀ r, ∀ r' ∈ f r, c r' = c r) : h.Preserves c (h.change i keys p f) :=
  preserves_mapSlots fun _ _ hx => hx.change (fun r hr r' hr' => (hf r r' hr').trans hr) i keys p

omit [DecidableEq ι] in
theorem preserves_insert [DecidableEq κ] {r : ρ} (hi : h.insert i k r = some h') :
    h.Preserves c h' := by
  refine ⟨fun hfixed s hs => ?_, fun l x hhas => ?_⟩
  · rw [(insert_eq_some hi).2, List.mem_append, List.mem_singleton] at hs
    rcases hs with hs | rfl
    · exact hfixed s hs
    · refine ⟨c r, ⟨fun r' hr' => (by cases hr'), fun change hchange r' hr' => ?_⟩⟩
      cases hchange
      cases hr'
      rfl
  · obtain ⟨s, hs, hk, hx⟩ := hhas
    refine ⟨s, ?_, hk, hx⟩
    rw [(insert_eq_some hi).2]
    exact List.mem_append_left _ hs

omit [DecidableEq ι] in
theorem key_injective {s t : Slot ι κ ρ} (hs : s ∈ h.slots) (ht : t ∈ h.slots)
    (hkey : s.key = t.key) : s = t :=
  List.inj_on_of_nodup_map h.unique hs ht hkey

theorem Has.seen (hhas : h.Has c k x) {s : Slot ι κ ρ} (hs : s ∈ h.slots) (hk : s.key = k) {r : ρ}
    (hr : r ∈ s.seen i) : c r = x := by
  obtain ⟨t, ht, htk, hx⟩ := hhas
  obtain rfl := key_injective hs ht (hk.trans htk.symm)
  exact hx.seen i r hr

end fixed
section own
variable {s : Slot ι κ ρ}

/-- The rows that a transaction has written stay as they are. -/
def Same (i : ι) (h h' : Heap ι κ ρ) : Prop :=
  ∀ s : Slot ι κ ρ, s.writer = some i → (s ∈ h'.slots ↔ s ∈ h.slots)

/-- The rows that a transaction has written are committed ones. -/
def Replaces (i : ι) (h : Heap ι κ ρ) : Prop :=
  ∀ s ∈ h.slots, s.writer = some i → s.stored.isSome = true

theorem Same.keeps (hs : h.Same i h') (hk : h.Keeps q i) : h'.Keeps q i :=
  fun s hmem hw => hk s ((hs s hw).mp hmem) hw

omit [DecidableEq ι] in
theorem Same.unwritten (hs : h.Same i h') (hu : h.Unwritten i) : h'.Unwritten i :=
  fun s hmem hw => hu s ((hs s hw).mp hmem) hw

omit [DecidableEq ι] in
theorem Same.replaces (hs : h.Same i h') (hr : h.Replaces i) : h'.Replaces i :=
  fun s hmem hw => hr s ((hs s hw).mp hmem) hw

omit [DecidableEq ι] in
theorem same_mapSlots {g : Slot ι κ ρ → Slot ι κ ρ} {hg : ∀ s, (g s).key = s.key}
    (hs : ∀ s ∈ h.slots, g s = s ∨ s.writer ≠ some i ∧ (g s).writer ≠ some i) :
    h.Same i (h.mapSlots g hg) := by
  intro s hw
  rw [mem_mapSlots]
  constructor
  · intro hmem
    obtain ⟨t, ht, rfl⟩ := hmem
    rcases hs t ht with hsame | ⟨-, hne⟩
    · rwa [hsame]
    · exact absurd hw hne
  · intro hmem
    exact ⟨s, hmem, (hs s hmem).resolve_right fun hand => hand.1 hw⟩

theorem same_commit (hne : j ≠ i) : h.Same j (h.commit i) := by
  refine same_mapSlots fun s _ => ?_
  by_cases hw : s.writer = some i
  · have hj : s.writer ≠ some j := fun hj => hne (Option.some.inj (hj.symm.trans hw))
    exact .inr ⟨hj, fun h => hj ((Slot.writer_rollback_of_ne hne).mp h)⟩
  · exact .inl (Slot.commit_of_writer_ne hw)

theorem same_rollback (hne : j ≠ i) : h.Same j (h.rollback i) := by
  refine same_mapSlots fun s _ => ?_
  by_cases hw : s.writer = some i
  · have hj : s.writer ≠ some j := fun hj => hne (Option.some.inj (hj.symm.trans hw))
    exact .inr ⟨hj, fun h => hj ((Slot.writer_rollback_of_ne hne).mp h)⟩
  · exact .inl (Slot.rollback_of_writer_ne hw)

variable [DecidableEq κ] {keys : List κ} {p : κ → ρ → Bool} {f : ρ → Option ρ}

theorem same_change (hne : j ≠ i) (hfree : h.free i keys = true) :
    h.Same j (h.change i keys p f) := by
  refine same_mapSlots fun s hs => ?_
  by_cases htarget : s.key ∈ keys ∧ (s.seen i).any (p s.key)
  · have hlock := (of_decide_eq_true (List.all_eq_true.mp hfree s hs)).resolve_left
      fun hk => hk htarget.1
    refine .inr ⟨Slot.writer_ne_of_free hne hlock, ?_⟩
    rw [Slot.change, if_pos htarget]
    exact fun hw => hne (Option.some.inj hw).symm
  · exact .inl (if_neg htarget)

omit [DecidableEq ι] in
theorem same_insert (hne : j ≠ i) {k : κ} {r : ρ} (hi : h.insert i k r = some h') :
    h.Same j h' := by
  intro s hw
  rw [(insert_eq_some hi).2, List.mem_append, List.mem_singleton]
  refine or_iff_left fun he => ?_
  rw [he] at hw
  exact hne (Option.some.inj hw).symm

theorem Replaces.change (hr : h.Replaces i) : (h.change i keys p f).Replaces i := by
  intro s' hs' hw
  obtain ⟨s, hs, rfl⟩ := mem_change.mp hs'
  rw [stored_change]
  by_cases hwriter : s.writer = some i
  · exact hr s hs hwriter
  · rw [Slot.change] at hw
    split at hw
    · rename_i htarget
      rw [← Slot.seen_of_writer_ne hwriter]
      obtain ⟨r, hseen, -⟩ := (Option.any_eq_true _ _).mp htarget.2
      exact Option.isSome_iff_exists.mpr ⟨r, hseen⟩
    · exact absurd hw hwriter

end own
end Heap
end Relational
