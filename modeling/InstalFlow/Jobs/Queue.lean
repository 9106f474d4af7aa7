import InstalFlow.Relational.Table

/-!
# Job queues

A queue keeps its jobs until they complete, also the ones that have failed for
good: an `add` under the id of a job that is still kept is ignored. `Queue`
states this as the laws of an interface, `keyed` satisfies them.
-/

namespace Jobs

structure Job (δ : Type*) where
  jobId : String
  data : δ
  attempts : ℕ
  attemptsMade : ℕ := 0
  failed : Bool := false

variable {δ Q : Type*}

/-- The job after a failing attempt: it waits for the next one unless that was
the last. -/
def Job.afterFailure (j : Job δ) : Job δ :=
  { j with attemptsMade := j.attemptsMade + 1, failed := j.attempts ≤ j.attemptsMade + 1 }

def Job.Exhausted (j : Job δ) : Prop := j.attempts ≤ j.attemptsMade + 1

instance (j : Job δ) : Decidable j.Exhausted := inferInstanceAs (Decidable (_ ≤ _))

theorem Job.afterFailure_failed (j : Job δ) : j.afterFailure.failed = true ↔ j.Exhausted := by
  simp [afterFailure, Exhausted]

structure Queue (δ Q : Type*) where
  jobs : Q → List (Job δ)
  add : Q → Job δ → Q
  complete : Q → String → Q
  fail : Q → String → Q
  jobId_injective : ∀ q, ∀ j ∈ jobs q, ∀ k ∈ jobs q, j.jobId = k.jobId → j = k
  mem_add : ∀ q new j, j ∈ jobs (add q new) ↔
    j ∈ jobs q ∨ (j = new ∧ ∀ k ∈ jobs q, k.jobId ≠ new.jobId)
  mem_complete : ∀ q id j, j ∈ jobs (complete q id) ↔ j ∈ jobs q ∧ j.jobId ≠ id
  mem_fail : ∀ q id j, j ∈ jobs (fail q id) ↔
    (j ∈ jobs q ∧ j.jobId ≠ id) ∨ ∃ k ∈ jobs q, k.jobId = id ∧ j = k.afterFailure

namespace Queue
variable (queue : Queue δ Q) {q : Q} {p : δ → Prop}

def job? (q : Q) (id : String) : Option (Job δ) :=
  (queue.jobs q).find? (fun j => j.jobId = id)

/-- A job that waits, runs or is to be retried, with data that meet `p`. -/
def HasLive (p : δ → Prop) (q : Q) : Prop := ∃ j ∈ queue.jobs q, j.failed = false ∧ p j.data

instance [DecidablePred p] (q : Q) : Decidable (queue.HasLive p q) :=
  inferInstanceAs (Decidable (∃ j ∈ queue.jobs q, _ ∧ _))

def Free (id : String) (q : Q) : Prop := ∀ j ∈ queue.jobs q, j.jobId ≠ id

instance (id : String) (q : Q) : Decidable (queue.Free id q) :=
  inferInstanceAs (Decidable (∀ j ∈ queue.jobs q, _))

variable {queue}

theorem mem_of_job? {id : String} {j : Job δ} (h : queue.job? q id = some j) :
    j ∈ queue.jobs q ∧ j.jobId = id :=
  ⟨List.mem_of_find?_eq_some h, by simpa using List.find?_some h⟩

theorem hasLive_add {new : Job δ} (hnew : new.failed = false) :
    queue.HasLive p (queue.add q new) ↔
      queue.HasLive p q ∨ (p new.data ∧ queue.Free new.jobId q) := by
  constructor
  · intro h
    obtain ⟨j, hj, hlive, hp⟩ := h
    rcases (queue.mem_add q new j).mp hj with hj | ⟨rfl, hfree⟩
    · exact .inl ⟨j, hj, hlive, hp⟩
    · exact .inr ⟨hp, hfree⟩
  · intro h
    rcases h with ⟨j, hj, hlive, hp⟩ | ⟨hp, hfree⟩
    · exact ⟨j, (queue.mem_add q new j).mpr (.inl hj), hlive, hp⟩
    · exact ⟨new, (queue.mem_add q new new).mpr (.inr ⟨rfl, hfree⟩), hnew, hp⟩

theorem free_add {new : Job δ} {id : String} :
    queue.Free id (queue.add q new) ↔
      queue.Free id q ∧ (new.jobId = id → ¬ queue.Free id q) := by
  constructor
  · intro h
    refine ⟨fun j hj => h j ((queue.mem_add q new j).mpr (.inl hj)), fun hid hfree => ?_⟩
    subst hid
    exact h new ((queue.mem_add q new new).mpr (.inr ⟨rfl, hfree⟩)) rfl
  · intro h j hj
    rcases (queue.mem_add q new j).mp hj with hj | ⟨rfl, -⟩
    · exact h.1 j hj
    · exact fun hid => h.2 hid h.1

theorem free_complete {id k : String} (h : queue.Free id q) :
    queue.Free id (queue.complete q k) :=
  fun j hj => h j ((queue.mem_complete q k j).mp hj).1

theorem free_fail {id k : String} : queue.Free id (queue.fail q k) ↔ queue.Free id q := by
  constructor
  · intro h j hj
    by_cases hk : j.jobId = k
    · exact h j.afterFailure ((queue.mem_fail q k _).mpr (.inr ⟨j, hj, hk, rfl⟩))
    · exact h j ((queue.mem_fail q k j).mpr (.inl ⟨hj, hk⟩))
  · intro h j hj
    rcases (queue.mem_fail q k j).mp hj with ⟨hj, -⟩ | ⟨i, hi, -, rfl⟩
    · exact h j hj
    · exact h i hi

/-- A failing attempt ends the job `j` for good only if it was its last. -/
theorem hasLive_fail {j : Job δ} (hj : j ∈ queue.jobs q) :
    queue.HasLive p (queue.fail q j.jobId) ↔
      (∃ k ∈ queue.jobs q, k.jobId ≠ j.jobId ∧ k.failed = false ∧ p k.data) ∨
        (p j.data ∧ ¬ j.Exhausted) := by
  constructor
  · intro h
    obtain ⟨k, hk, hklive, hp⟩ := h
    rcases (queue.mem_fail q j.jobId k).mp hk with ⟨hk, hne⟩ | ⟨i, hi, hid, rfl⟩
    · exact .inl ⟨k, hk, hne, hklive, hp⟩
    · have hij := queue.jobId_injective q i hi j hj hid
      subst hij
      refine .inr ⟨hp, fun hlast => ?_⟩
      rw [(Job.afterFailure_failed i).mpr hlast] at hklive
      cases hklive
  · intro h
    rcases h with ⟨k, hk, hne, hklive, hp⟩ | ⟨hp, hlast⟩
    · exact ⟨k, (queue.mem_fail q _ k).mpr (.inl ⟨hk, hne⟩), hklive, hp⟩
    · refine ⟨j.afterFailure, (queue.mem_fail q _ _).mpr (.inr ⟨j, hj, rfl, rfl⟩), ?_, hp⟩
      simpa using mt (Job.afterFailure_failed j).mp hlast

end Queue

def keyed : Queue δ (Relational.Table (Job.jobId (δ := δ))) where
  jobs := Relational.Table.rows
  add q new := (q.create new).getD q
  complete q id := q.deleteMany (fun j => j.jobId = id)
  fail q id := q.update id Job.afterFailure
  jobId_injective q j hj k hk h := q.key_injective hj hk h
  mem_add q new j := by
    cases hc : q.create new with
    | none =>
      have hkey : ¬ ∀ k ∈ q.rows, k.jobId ≠ new.jobId := by
        intro hfree
        obtain ⟨u, hu⟩ := Relational.Table.create_isSome
          (Relational.Table.find?_eq_none_iff.mpr hfree)
        rw [hc] at hu
        cases hu
      simp [hkey]
    | some u =>
      obtain ⟨hfree, hrows⟩ := Relational.Table.create_eq_some hc
      have hfree' := Relational.Table.find?_eq_none_iff.mp hfree
      simp only [Option.getD_some, hrows, List.mem_append, List.mem_singleton]
      exact ⟨fun h => h.imp_right fun he => ⟨he, hfree'⟩, fun h => h.imp_right And.left⟩
  mem_complete q id j := by
    rw [Relational.Table.mem_deleteMany]
    simp
  mem_fail q id j := by
    refine Relational.Table.mem_updateMany.trans ?_
    simp

end Jobs
