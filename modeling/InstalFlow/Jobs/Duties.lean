import InstalFlow.Jobs.Queue
import Mathlib.Data.Fintype.Defs

/-!
# Jobs that are owed

Records come to be open, and an open record must not be forgotten: a job for it is kept, or a
thread has yet to add that job, or to report that the job has failed for good. `DutyStep` lists
what a thread may do to the records, the queue and its own duty; each step keeps every open record
attended to, whatever the other threads are at.
-/

namespace Jobs
variable {δ κ ι Q : Type*}

deriving instance DecidableEq for Job

/-- What a thread has yet to do: add the job of a record, go through a job, end a job that has
nothing left to do, or report that the job of a record has failed for good. -/
inductive Duty (δ κ : Type*)
  | rests
  | adds (k : κ)
  | runs (job : Job δ)
  | leaves (job : Job δ)
  | reports (k : κ)
  deriving DecidableEq

namespace Duty

def job? : Duty δ κ → Option (Job δ)
  | runs job | leaves job => some job
  | _ => none

def Owes (d : Duty δ κ) (k : κ) : Prop := d = adds k ∨ d = reports k

end Duty

/-- No thread is about to end the job. -/
def Unleft (duties : ι → Duty δ κ) (id : String) : Prop :=
  ∀ i job, duties i = .leaves job → job.jobId ≠ id

variable (queue : Queue δ Q) (key : δ → κ)

/-- A job of the record waits or runs, or a thread has it to do. -/
def Attended (q : Q) (duties : ι → Duty δ κ) (k : κ) : Prop :=
  (∃ j ∈ queue.jobs q, j.failed = false ∧ key j.data = k ∧ Unleft duties j.jobId) ∨
    ∃ i, (duties i).Owes k

/-- All open records are attended to, and a job that a thread has is the one that is kept. -/
structure AllAttended (isOpen : κ → Prop) (q : Q) (duties : ι → Duty δ κ) : Prop where
  attended : ∀ k, isOpen k → Attended queue key q duties k
  agree : ∀ i, ∀ job ∈ (duties i).job?, ∀ j ∈ queue.jobs q, j.jobId = job.jobId →
    j.data = job.data

/-- The jobs that are kept or run have other ids. -/
def FreshId (q : Q) (duties : ι → Duty δ κ) (id : String) : Prop :=
  queue.Free id q ∧ ∀ i, ∀ job ∈ (duties i).job?, job.jobId ≠ id

instance [Fintype ι] (q : Q) (duties : ι → Duty δ κ) (id : String) :
    Decidable (FreshId queue q duties id) :=
  inferInstanceAs (Decidable (_ ∧ ∀ i, ∀ job ∈ (duties i).job?, _))

/-- What a thread may do. A record is opened by the thread that adds its job; a job is left where
its record is not open; one that fails for good is reported, which closes the record. -/
inductive DutyStep (duties : ι → Duty δ κ) (isOpen isOpen' : κ → Prop) (q : Q) :
    Q → Duty δ κ → Duty δ κ → Prop
  | stay {d : Duty δ κ} (hclose : ∀ k, isOpen' k → isOpen k) :
      DutyStep duties isOpen isOpen' q q d d
  | drop {d : Duty δ κ} (hclose : ∀ k, isOpen' k → isOpen k) (hd : ∀ k, ¬ d.Owes k) :
      DutyStep duties isOpen isOpen' q q d .rests
  | take {job : Job δ} (hclose : ∀ k, isOpen' k → isOpen k) (hjob : job ∈ queue.jobs q) :
      DutyStep duties isOpen isOpen' q q .rests (.runs job)
  | commit {k : κ} (hopen : ∀ k', isOpen' k' → isOpen k' ∨ k' = k) :
      DutyStep duties isOpen isOpen' q q .rests (.adds k)
  | add {job : Job δ} (hclose : ∀ k, isOpen' k → isOpen k) (hlive : job.failed = false)
      (hfresh : FreshId queue q duties job.jobId) :
      DutyStep duties isOpen isOpen' q (queue.add q job) (.adds (key job.data)) .rests
  | leave {job : Job δ} (hclose : ∀ k, isOpen' k → isOpen k) (hdone : ¬ isOpen' (key job.data)) :
      DutyStep duties isOpen isOpen' q q (.runs job) (.leaves job)
  | complete {job : Job δ} (hclose : ∀ k, isOpen' k → isOpen k) :
      DutyStep duties isOpen isOpen' q (queue.complete q job.jobId) (.leaves job) .rests
  | fail {d : Duty δ κ} {job : Job δ} (hclose : ∀ k, isOpen' k → isOpen k) (hd : d.job? = some job)
      (hkept : ∀ j ∈ queue.jobs q, j.jobId = job.jobId → j = job) :
      DutyStep duties isOpen isOpen' q (queue.fail q job.jobId) d
        (if job.Exhausted then .reports (key job.data) else .rests)
  | report {k : κ} (hclose : ∀ k, isOpen' k → isOpen k) (hdone : ¬ isOpen' k) :
      DutyStep duties isOpen isOpen' q q (.reports k) .rests

variable {queue key} {duties duties' : ι → Duty δ κ} {isOpen isOpen' : κ → Prop} {q q' : Q}
  {d' : Duty δ κ} {i : ι} {k : κ}

theorem Duty.not_owes_of_job {d : Duty δ κ} {job : Job δ} (h : d.job? = some job) (k : κ) :
    ¬ d.Owes k := by
  intro howes
  rcases howes with rfl | rfl <;> cases h

theorem Attended.job {j : Job δ} (hj : j ∈ queue.jobs q) (hlive : j.failed = false)
    (hkey : key j.data = k) (hunleft : Unleft duties j.jobId) :
    Attended queue key q duties k := .inl ⟨j, hj, hlive, hkey, hunleft⟩

section step
variable (hself : duties' i = d') (hothers : ∀ j, j ≠ i → duties' j = duties j)
include hself hothers

/-- A thread that does not come to leave a job keeps the jobs unleft. -/
theorem Unleft.step (hd' : ∀ job, d' ≠ .leaves job) {id : String} (h : Unleft duties id) :
    Unleft duties' id := by
  intro j job hj
  by_cases hji : j = i
  · rw [hji, hself] at hj
    exact absurd hj (hd' job)
  · rw [hothers j hji] at hj
    exact h j job hj

theorem owes_step (hd : ¬ (duties i).Owes k) (h : ∃ j, (duties j).Owes k) :
    ∃ j, (duties' j).Owes k := by
  obtain ⟨j, hj⟩ := h
  have hji : j ≠ i := by
    rintro rfl
    exact hd hj
  exact ⟨j, by rwa [hothers j hji]⟩

/-- A thread that owes nothing, and comes to leave no job, keeps what is attended to. -/
theorem Attended.step (hd : ¬ (duties i).Owes k) (hd' : ∀ job, d' ≠ .leaves job)
    (h : Attended queue key q duties k) : Attended queue key q duties' k := by
  rcases h with ⟨j, hj, hlive, hkey, hunleft⟩ | howed
  · exact .job hj hlive hkey (hunleft.step hself hothers hd')
  · exact .inr (owes_step hself hothers hd howed)

/-- A job that fails waits for its next attempt, or its record has yet to be reported. -/
theorem Attended.fail {job : Job δ} (hd : ¬ (duties i).Owes k)
    (hd' : d' = if job.Exhausted then .reports (key job.data) else .rests)
    (hkept : ∀ j ∈ queue.jobs q, j.jobId = job.jobId → j = job)
    (h : Attended queue key q duties k) :
    Attended queue key (queue.fail q job.jobId) duties' k := by
  have hstill {id : String} (hunleft : Unleft duties id) : Unleft duties' id := by
    refine hunleft.step hself hothers fun left hleaves => ?_
    rw [hd'] at hleaves
    split at hleaves <;> cases hleaves
  rcases h with ⟨j, hj, hlive, hkey, hunleft⟩ | howed
  · by_cases hid : j.jobId = job.jobId
    · have hsame := hkept j hj hid
      subst hsame
      by_cases hlast : j.Exhausted
      · refine .inr ⟨i, .inr ?_⟩
        rw [hself, hd', if_pos hlast, hkey]
      · refine .job ((queue.mem_fail q j.jobId _).mpr (.inr ⟨j, hj, rfl, rfl⟩)) ?_ hkey
          (hstill hunleft)
        simpa using mt (Job.afterFailure_failed j).mp hlast
    · exact .job ((queue.mem_fail q job.jobId j).mpr (.inl ⟨hj, hid⟩)) hlive hkey
        (hstill hunleft)
  · exact .inr (owes_step hself hothers hd howed)

variable (q') in
/-- Jobs that come from those that were kept agree with what the other threads have. -/
theorem agree_step
    (hagree : ∀ i, ∀ job ∈ (duties i).job?, ∀ j ∈ queue.jobs q, j.jobId = job.jobId →
      j.data = job.data)
    (hjobs : ∀ j ∈ queue.jobs q', ∃ j₀ ∈ queue.jobs q, j₀.jobId = j.jobId ∧ j₀.data = j.data)
    (hd' : ∀ job ∈ d'.job?, ∀ j ∈ queue.jobs q, j.jobId = job.jobId → j.data = job.data) :
    ∀ i, ∀ job ∈ (duties' i).job?, ∀ j ∈ queue.jobs q', j.jobId = job.jobId →
      j.data = job.data := by
  intro t job hjob j hj hid
  obtain ⟨j₀, hj₀, hid₀, hdata⟩ := hjobs j hj
  rw [← hdata]
  by_cases ht : t = i
  · rw [ht, hself] at hjob
    exact hd' job hjob j₀ hj₀ (hid₀.trans hid)
  · rw [hothers t ht] at hjob
    exact hagree t job hjob j₀ hj₀ (hid₀.trans hid)

end step

theorem Queue.data_of_complete {id : String} {j : Job δ}
    (hj : j ∈ queue.jobs (queue.complete q id)) :
    ∃ j₀ ∈ queue.jobs q, j₀.jobId = j.jobId ∧ j₀.data = j.data :=
  ⟨j, ((queue.mem_complete q id j).mp hj).1, rfl, rfl⟩

theorem Queue.data_of_fail {id : String} {j : Job δ} (hj : j ∈ queue.jobs (queue.fail q id)) :
    ∃ j₀ ∈ queue.jobs q, j₀.jobId = j.jobId ∧ j₀.data = j.data := by
  rcases (queue.mem_fail q id j).mp hj with ⟨hj, -⟩ | ⟨j₀, hj₀, -, rfl⟩
  · exact ⟨j, hj, rfl, rfl⟩
  · exact ⟨j₀, hj₀, rfl, rfl⟩

section steps
variable (h : AllAttended queue key isOpen q duties)
  (hstep : DutyStep queue key duties isOpen isOpen' q q' (duties i) d')
  (hself : duties' i = d') (hothers : ∀ j, j ≠ i → duties' j = duties j)
include h hstep hself hothers

theorem DutyStep.agree : ∀ t, ∀ job ∈ (duties' t).job?, ∀ j ∈ queue.jobs q', j.jobId = job.jobId →
    j.data = job.data := by
  have hagree := agree_step q' hself hothers h.agree
  have hkept : ∀ j ∈ queue.jobs q, ∃ j₀ ∈ queue.jobs q, j₀.jobId = j.jobId ∧ j₀.data = j.data :=
    fun j hj => ⟨j, hj, rfl, rfl⟩
  have hnone {d : Duty δ κ} (hd : d.job? = none) : ∀ job ∈ d.job?, ∀ j ∈ queue.jobs q,
      j.jobId = job.jobId → j.data = job.data := by
    rw [hd]
    exact fun job hjob => by cases hjob
  generalize hd : duties i = d at hstep
  cases hstep with
  | stay => exact hagree hkept (hd ▸ h.agree i)
  | drop => exact hagree hkept (hnone rfl)
  | take _ hjob =>
    refine hagree hkept fun job hmem j hj hid => ?_
    cases hmem
    rw [queue.jobId_injective q j hj _ hjob hid]
  | commit => exact hagree hkept (hnone rfl)
  | @add new _ _ hfresh =>
    intro t job hjob j hj hid
    by_cases ht : t = i
    · rw [ht, hself] at hjob
      cases hjob
    · rw [hothers t ht] at hjob
      rcases (queue.mem_add q new j).mp hj with hj | ⟨rfl, -⟩
      · exact h.agree t job hjob j hj hid
      · exact absurd hid.symm (hfresh.2 t job hjob)
  | leave =>
    refine hagree hkept fun job hmem => h.agree i job ?_
    rw [hd]
    exact hmem
  | complete => exact hagree (fun j => Queue.data_of_complete) (hnone rfl)
  | fail =>
    refine hagree (fun j => Queue.data_of_fail) (hnone ?_)
    split <;> rfl
  | report => exact hagree hkept (hnone rfl)

theorem DutyStep.attended (hk : isOpen' k) : Attended queue key q' duties' k := by
  have hagree := h.agree i
  generalize hd : duties i = d at hstep hagree
  have hrest (howes : ¬ d.Owes k) (hd' : ∀ job, d' ≠ .leaves job)
      (hk : Attended queue key q duties k) : Attended queue key q duties' k :=
    hk.step hself hothers (hd ▸ howes) hd'
  cases hstep with
  | stay hclose =>
    have hall : duties' = duties := by
      funext j
      by_cases hj : j = i
      · rw [hj, hself, hd]
      · exact hothers j hj
    exact hall ▸ h.attended k (hclose k hk)
  | drop hclose hdrop => exact hrest (hdrop k) (fun _ h => by cases h) (h.attended k (hclose k hk))
  | take hclose =>
    exact hrest (by rintro (h | h) <;> cases h) (fun _ h => by cases h) (h.attended k (hclose k hk))
  | @commit k' hopen =>
    rcases hopen k hk with hk | rfl
    · exact hrest (by rintro (h | h) <;> cases h) (fun _ h => by cases h) (h.attended k hk)
    · exact .inr ⟨i, .inl hself⟩
  | @add new hclose hlive hfresh =>
    by_cases hnew : key new.data = k
    · refine .job ((queue.mem_add q new new).mpr (.inr ⟨rfl, hfresh.1⟩)) hlive hnew ?_
      intro t job ht
      by_cases hti : t = i
      · rw [hti, hself] at ht
        cases ht
      · rw [hothers t hti] at ht
        exact hfresh.2 t job (by rw [ht]; rfl)
    · have howes : ¬ (duties i).Owes k := by
        rw [hd]
        rintro (h | h) <;> cases h
        exact hnew rfl
      rcases h.attended k (hclose k hk) with ⟨j, hj, hjlive, hkey, hunleft⟩ | howed
      · exact .job ((queue.mem_add q new j).mpr (.inl hj)) hjlive hkey
          (hunleft.step hself hothers fun _ h => by cases h)
      · exact .inr (owes_step hself hothers howes howed)
  | @leave left hclose hdone =>
    have howes : ¬ (duties i).Owes k := by
      rw [hd]
      rintro (h | h) <;> cases h
    rcases h.attended k (hclose k hk) with ⟨j, hj, hlive, hkey, hunleft⟩ | howed
    · refine .job hj hlive hkey fun t job ht hid => ?_
      by_cases hti : t = i
      · rw [hti, hself] at ht
        cases ht
        have hdata := hagree left rfl j hj hid.symm
        rw [← hdata, hkey] at hdone
        exact hdone hk
      · rw [hothers t hti] at ht
        exact hunleft t job ht hid
    · exact .inr (owes_step hself hothers howes howed)
  | @complete left hclose =>
    have howes : ¬ (duties i).Owes k := by
      rw [hd]
      rintro (h | h) <;> cases h
    rcases h.attended k (hclose k hk) with ⟨j, hj, hlive, hkey, hunleft⟩ | howed
    · exact .job ((queue.mem_complete q left.jobId j).mpr ⟨hj, (hunleft i left hd).symm⟩) hlive hkey
        (hunleft.step hself hothers fun _ h => by cases h)
    · exact .inr (owes_step hself hothers howes howed)
  | fail hclose hjob hkept =>
    exact .fail hself hothers (Duty.not_owes_of_job (hd ▸ hjob) k) rfl hkept
      (h.attended k (hclose k hk))
  | @report k' hclose hdone =>
    have hne : k ≠ k' := by
      rintro rfl
      exact hdone hk
    refine hrest ?_ (fun _ h => by cases h) (h.attended k (hclose k hk))
    rintro (h | h) <;> cases h
    exact hne rfl

/-- The rule for one step -/
theorem AllAttended.step : AllAttended queue key isOpen' q' duties' where
  attended _ := hstep.attended h hself hothers
  agree := hstep.agree h hself hothers

end steps
end Jobs
