import InstalFlow.UserManagementService
import InstalFlow.Transition.Interleaving

/-!
# The last active admin

A company suspends and deletes its admins. A suspension counts the active admins
before its transaction, a deletion counts nothing. Calls run one statement at a time,
in any order, and each transaction commits as one statement.
-/

namespace InstalFlow
open Relational Transition UserManagementService

inductive AdminCall
  | toggleAdminStatus
  | softDeleteAdmin (now : DateTime)

/-- How far a call has come. Its reads are what it goes on with. -/
inductive AdminThread
  | called (companyId adminId : String) (call : AdminCall)
  | counting (companyId : String) (admin : User)
  | toggling (admin : User)
  | deleting (admin : User) (now : DateTime)
  | returned
  | refused (err : AppError)

namespace AdminThread

/-- The next statement of a call. Only the suspension of an active admin counts. -/
def next (db : Database) : AdminThread → Database × AdminThread
  | called companyId adminId call =>
    match findAdmin companyId adminId db with
    | none => (db, refused (.notFound (match call with
        | .toggleAdminStatus =>
          "Admin not found or you do not have permission to manage this admin"
        | .softDeleteAdmin _ => "Admin not found or already deleted")))
    | some admin =>
      match call with
      | .toggleAdminStatus =>
        if admin.active then (db, counting companyId admin) else (db, toggling admin)
      | .softDeleteAdmin now => (db, deleting admin now)
  | counting companyId admin =>
    match checkSuspension companyId admin db with
    | .error err => (db, refused err)
    | .ok () => (db, toggling admin)
  | toggling admin => (setActive admin.userId (!admin.active) db, returned)
  | deleting admin now => (softDelete admin.userId now db, returned)
  | t => (db, t)

/-- The admin whom the next statement suspends or deletes. -/
def takesAway? : AdminThread → Option String
  | toggling admin => if admin.active then some admin.userId else none
  | deleting admin _ => some admin.userId
  | _ => none

end AdminThread

/-- A toggle on its own is `toggleAdminStatus`. -/
theorem toggleAdminStatus_alone (companyId adminId : String) (db : Database) :
    ((fun s : Database × AdminThread => s.2.next s.1)^[3]
      (db, .called companyId adminId .toggleAdminStatus)).1 =
        committed db Prod.snd (toggleAdminStatus companyId adminId db) := by
  set f := fun s : Database × AdminThread => s.2.next s.1
  have hstep (t : AdminThread) : f (db, t) = t.next db := rfl
  rw [Function.iterate_succ_apply, hstep, AdminThread.next, toggleAdminStatus]
  cases hfound : findAdmin companyId adminId db with
  | none => rfl
  | some admin =>
    obtain rfl := Table.find?_key (findAdmin_eq_some hfound).1
    dsimp only
    cases hactive : admin.active with
    | false =>
      have hcheck : checkSuspension companyId admin db = .ok () := by
        simp [checkSuspension, hactive]
      rw [if_neg Bool.false_ne_true, hcheck, Function.iterate_succ_apply, hstep, AdminThread.next,
        hactive]
      rfl
    | true =>
      rw [if_pos rfl, Function.iterate_succ_apply, hstep, AdminThread.next]
      cases checkSuspension companyId admin db with
      | error err => rfl
      | ok _ =>
        dsimp only
        rw [Function.iterate_succ_apply, hstep, AdminThread.next, hactive]
        rfl

theorem softDeleteAdmin_alone (companyId adminId : String) (now : DateTime) (db : Database) :
    ((fun s : Database × AdminThread => s.2.next s.1)^[2]
      (db, .called companyId adminId (.softDeleteAdmin now))).1 =
        committed db id (softDeleteAdmin companyId adminId now db) := by
  set f := fun s : Database × AdminThread => s.2.next s.1
  have hstep (t : AdminThread) : f (db, t) = t.next db := rfl
  rw [Function.iterate_succ_apply, hstep, AdminThread.next, softDeleteAdmin]
  cases hfound : findAdmin companyId adminId db with
  | none => rfl
  | some admin =>
    obtain rfl := Table.find?_key (findAdmin_eq_some hfound).1
    rfl

def HasActiveAdmin (companyId : String) (db : Database) : Prop :=
  ∃ u ∈ db.users.rows, activeAdmin companyId u = true

instance (companyId : String) (db : Database) : Decidable (HasActiveAdmin companyId db) :=
  inferInstanceAs (Decidable (∃ u ∈ db.users.rows, _))

/-- The company has an active admin besides this one. -/
def HasOtherAdmin (companyId adminId : String) (db : Database) : Prop :=
  ∃ u ∈ db.users.rows, activeAdmin companyId u = true ∧ u.userId ≠ adminId

instance (companyId adminId : String) (db : Database) :
    Decidable (HasOtherAdmin companyId adminId db) :=
  inferInstanceAs (Decidable (∃ u ∈ db.users.rows, _))

section writers
variable {companyId : String} {db : Database}

/-- An update that leaves nobody active takes one admin away. -/
theorem hasActiveAdmin_takeAway_iff {id : String} {f : User → User}
    (hf : ∀ u, (f u).userId = u.userId) (hinactive : ∀ u, (f u).active = false) :
    HasActiveAdmin companyId (updateUser db id f hf) ↔ HasOtherAdmin companyId id db := by
  constructor
  · intro h
    obtain ⟨u, hu, hadmin⟩ := h
    rcases (mem_updateUser_iff hf).mp hu with ⟨hu, hne⟩ | ⟨v, -, -, rfl⟩
    · exact ⟨u, hu, hadmin, hne⟩
    · have hactive := (of_decide_eq_true hadmin).2.2.1
      rw [hinactive] at hactive
      cases hactive
  · intro h
    obtain ⟨u, hu, hadmin, hne⟩ := h
    exact ⟨u, (mem_updateUser_iff hf).mpr (.inl ⟨hu, hne⟩), hadmin⟩

theorem hasActiveAdmin_activate (h : HasActiveAdmin companyId db) (id : String) :
    HasActiveAdmin companyId (setActive id true db) := by
  obtain ⟨u, hu, hadmin⟩ := h
  by_cases hid : u.userId = id
  · have ha := of_decide_eq_true hadmin
    exact ⟨u.withActive true,
      (mem_updateUser_iff (User.withActive_userId true)).mpr (.inr ⟨u, hu, hid, rfl⟩),
      decide_eq_true ⟨ha.1, ha.2.1, rfl, ha.2.2.2⟩⟩
  · exact ⟨u, (mem_updateUser_iff (User.withActive_userId true)).mpr (.inl ⟨hu, hid⟩), hadmin⟩

/-- A statement keeps an active admin unless it takes away the only one. -/
theorem hasActiveAdmin_next_iff (h : HasActiveAdmin companyId db) (t : AdminThread) :
    HasActiveAdmin companyId (t.next db).1 ↔
      ∀ id ∈ t.takesAway?, HasOtherAdmin companyId id db := by
  have hread {t : AdminThread} (hdb : (t.next db).1 = db) (hnone : t.takesAway? = none) :
      HasActiveAdmin companyId (t.next db).1 ↔
        ∀ id ∈ t.takesAway?, HasOtherAdmin companyId id db := by
    rw [hdb, hnone]
    exact iff_of_true h (by simp)
  cases t with
  | called id adminId call =>
    refine hread ?_ rfl
    simp only [AdminThread.next]
    split
    · rfl
    · cases call with
      | toggleAdminStatus =>
        dsimp only
        split <;> rfl
      | softDeleteAdmin now => rfl
  | counting id admin =>
    refine hread ?_ rfl
    simp only [AdminThread.next]
    split <;> rfl
  | toggling admin =>
    simp only [AdminThread.next, AdminThread.takesAway?]
    cases admin.active with
    | true =>
      simp only [if_true, Option.mem_some_iff, forall_eq']
      exact hasActiveAdmin_takeAway_iff (User.withActive_userId false) fun _ => rfl
    | false => exact iff_of_true (hasActiveAdmin_activate h admin.userId) (by simp)
  | deleting admin now =>
    simp only [AdminThread.next, AdminThread.takesAway?]
    simp only [Option.mem_some_iff, forall_eq']
    exact hasActiveAdmin_takeAway_iff (User.softDeleted_userId now) fun _ => rfl
  | returned | refused => exact hread rfl rfl

end writers

abbrev AdminThreads (ι : Type) : Type := Config Database ι AdminThread

namespace AdminThreads
variable {ι : Type} [DecidableEq ι]

/-- The thread named by the label executes its next statement. -/
def step (c : AdminThreads ι) (i : ι) : AdminThreads ι :=
  Config.step (fun _ => AdminThread.next) c i

/-- Whom the step suspends or deletes is not the only active admin at that time. -/
def LeavesAdmin (companyId : String) (c : AdminThreads ι) (i : ι) : Prop :=
  ∀ id ∈ (c.threads i).takesAway?, HasOtherAdmin companyId id c.shared

instance (companyId : String) (c : AdminThreads ι) (i : ι) :
    Decidable (c.LeavesAdmin companyId i) :=
  inferInstanceAs (Decidable (∀ id ∈ (c.threads i).takesAway?, _))

end AdminThreads

/-- A company with two admins. -/
def twoAdmins : Database where
  users :=
    ⟨[{ userId := "eve", role := .admin, companyId := some "pair" },
      { userId := "ada", role := .admin, companyId := some "pair" }], by decide⟩

/-- Either admin is to be suspended, or one is suspended and the other deleted. -/
def suspendBoth (second : AdminCall) : AdminThreads Bool where
  shared := twoAdmins
  threads
    | false => .called "pair" "eve" .toggleAdminStatus
    | true => .called "pair" "ada" second

end InstalFlow
