import InstalFlow.AuthSessions
import InstalFlow.Transition.Run
import Mathlib.Data.List.Sort
import Mathlib.Tactic.Linarith

/-!
# Password resets

A request looks at the codes of the last fifteen minutes, spends the codes that are left and
creates another. A reset takes the newest code that is neither used nor expired. Over any run of
both the codes of a user stay a minute apart, three to a window and one unused at a time.
-/

namespace InstalFlow
open Relational Transition UserManagementService

/-- The hash of a text under a salt, and its check -/
structure Bcrypt where
  bcryptHash : String → String → String
  bcryptCompare : String → String → Bool

inductive ResetEvent
  | passwordResetRequested (email : String) (name : Option String) (otp : String)
  | passwordResetCompleted (email : String) (name : Option String)

/-- What a call answers, and what it tells the notification hub -/
structure ResetReply where
  result : Except AppError String
  event : Option ResetEvent := none

structure ResetPasswordData where
  email : String
  token : String
  newPassword : String

/-- What the environment gives a request: the key of its row, the random number and the salt -/
structure OtpDraw where
  id : ℕ
  otp : ℕ
  salt : String

namespace AuthService

def resetWindow : ℤ := 15 * 60 * 1000

def resetCooldown : ℤ := 60 * 1000

def otpLifetime : ℤ := 10 * 60 * 1000

def otpSent : String := "If this email is registered, a password reset OTP has been sent."

def invalidOtp : AppError := .badRequest "Invalid or expired reset OTP"

/-- The codes of the last fifteen minutes, newest first -/
def recentRequests (userId : String) (now : DateTime) (db : Database) : List PasswordReset :=
  (db.passwordResets.rows.filter fun r =>
    r.userId = userId ∧ now - resetWindow < r.createdAt).insertionSort
      fun r s => s.createdAt ≤ r.createdAt

/-- The two checks in front of a new code -/
def refusal (now : DateTime) (recent : List PasswordReset) : Option AppError :=
  let cooling := recent.head?.bind fun lastRequest =>
    let secondsSinceLast : ℚ := (now - lastRequest.createdAt : ℤ) / 1000
    if secondsSinceLast < 60 then
      some (AppError.conflict ("Please wait " ++ toString (60 - secondsSinceLast).ceil ++
        " seconds before requesting another OTP"))
    else none
  cooling.or (if 3 ≤ recent.length then
      some (.conflict "Too many password reset requests. Please try again later.")
    else none)

def spent (r : PasswordReset) : PasswordReset := { r with used := true }

/-- The previous codes of a user are used up. -/
def spendCodes (userId : String) (db : Database) : Table PasswordReset.id :=
  db.passwordResets.updateMany (fun r => r.userId = userId ∧ r.used = false) spent

variable (bcrypt : Bcrypt)

def newCode (userId : String) (draw : OtpDraw) (now : DateTime) : PasswordReset where
  id := draw.id
  userId := userId
  otpHash := bcrypt.bcryptHash draw.salt (toString draw.otp)
  expiresAt := now + otpLifetime
  attempts := 0
  createdAt := now

def forgotPassword (email : String) (draw : OtpDraw) (now : DateTime) (db : Database) :
    ResetReply × Database :=
  match db.users.rows.find? fun u => u.email = email with
  | none => (⟨.ok otpSent, none⟩, db)
  | some user =>
    match refusal now (recentRequests user.userId now db) with
    | some err => (⟨.error err, none⟩, db)
    | none =>
      let passwordResets := spendCodes user.userId db
      match passwordResets.create (newCode bcrypt user.userId draw now) with
      | none => (⟨.error (.uniqueViolation ["id"]), none⟩, { db with passwordResets })
      | some passwordResets =>
        (⟨.ok otpSent, some (.passwordResetRequested user.email user.name (toString draw.otp))⟩,
          { db with passwordResets })

/-- The newest code of a user that is neither used nor expired -/
def resetEntry (userId : String) (now : DateTime) (db : Database) : Option PasswordReset :=
  ((db.passwordResets.rows.filter fun r =>
    r.userId = userId ∧ r.used = false ∧ now < r.expiresAt).insertionSort
      fun r s => s.createdAt ≤ r.createdAt).head?

def tried (r : PasswordReset) : PasswordReset := { r with attempts := r.attempts + 1 }

/-- The transaction of a reset -/
def setPassword (userId : String) (entry : PasswordReset) (password : String) (db : Database) :
    Database :=
  let db := updateUser db userId
    (fun u => { u with password, forcePasswordChange := false }) fun _ => rfl
  revokeSessions userId
    { db with passwordResets := db.passwordResets.update entry.id spent }

def resetPassword (data : ResetPasswordData) (salt : String) (now : DateTime) (db : Database) :
    ResetReply × Database :=
  match db.users.rows.find? fun u => u.email = data.email with
  | none => (⟨.error invalidOtp, none⟩, db)
  | some user =>
    match resetEntry user.userId now db with
    | none => (⟨.error invalidOtp, none⟩, db)
    | some entry =>
      if bcrypt.bcryptCompare data.token entry.otpHash then
        (⟨.ok "Password has been reset successfully",
            some (.passwordResetCompleted user.email user.name)⟩,
          setPassword user.userId entry (bcrypt.bcryptHash salt data.newPassword) db)
      else
        (⟨.error invalidOtp, none⟩,
          { db with passwordResets := db.passwordResets.update entry.id tried })

end AuthService

/-- A call, so many milliseconds after the one before -/
inductive ResetCall
  | forgotPassword (elapsed : ℕ) (email : String) (draw : OtpDraw)
  | resetPassword (elapsed : ℕ) (data : ResetPasswordData) (salt : String)

def ResetCall.elapsed : ResetCall → ℕ
  | .forgotPassword elapsed _ _ | .resetPassword elapsed _ _ => elapsed

/-- The database at the time of the last call -/
structure ResetState where
  db : Database
  now : DateTime

namespace ResetState
variable (bcrypt : Bcrypt)

def step (s : ResetState) (call : ResetCall) : ResetState where
  now := s.now + call.elapsed
  db :=
    match call with
    | .forgotPassword elapsed email draw =>
      (AuthService.forgotPassword bcrypt email draw (s.now + elapsed) s.db).2
    | .resetPassword elapsed data salt =>
      (AuthService.resetPassword bcrypt data salt (s.now + elapsed) s.db).2

/-- A change of a password by a code -/
structure PasswordChange where
  userId : String
  entry : PasswordReset
  changedAt : DateTime

/-- The change that a call makes, if it makes one -/
def passwordChange (s : ResetState) : ResetCall → Option PasswordChange
  | .forgotPassword _ _ _ => none
  | .resetPassword elapsed data _ => do
    let user ← s.db.users.rows.find? fun u => u.email = data.email
    let entry ← AuthService.resetEntry user.userId (s.now + elapsed) s.db
    if bcrypt.bcryptCompare data.token entry.otpHash then
      some ⟨user.userId, entry, s.now + elapsed⟩
    else none

end ResetState

/-- Three codes of a user in any fifteen minutes, a minute apart in the order of their creation,
and one of them unused -/
structure ResetLimits (db : Database) : Prop where
  window : ∀ (userId : String) (start : DateTime),
    (db.passwordResets.rows.countP fun r => r.userId = userId ∧ start ≤ r.createdAt ∧
      r.createdAt < start + AuthService.resetWindow) ≤ 3
  spaced : db.passwordResets.rows.Pairwise fun r s =>
    r.userId = s.userId → r.createdAt + AuthService.resetCooldown ≤ s.createdAt
  unused : ∀ userId : String,
    (db.passwordResets.rows.countP fun r => r.userId = userId ∧ r.used = false) ≤ 1

namespace AuthService
variable {db : Database} {userId : String} {now : DateTime} {r : PasswordReset}

theorem mem_recentRequests : r ∈ recentRequests userId now db ↔
    r ∈ db.passwordResets.rows ∧ r.userId = userId ∧ now - resetWindow < r.createdAt := by
  rw [recentRequests, List.mem_insertionSort, List.mem_filter, decide_eq_true_eq]

theorem length_recentRequests : (recentRequests userId now db).length =
    db.passwordResets.rows.countP fun r => r.userId = userId ∧ now - resetWindow < r.createdAt := by
  rw [recentRequests, List.length_insertionSort, List.countP_eq_length_filter]

theorem createdAt_le_head {last : PasswordReset}
    (hlast : (recentRequests userId now db).head? = some last)
    (hr : r ∈ recentRequests userId now db) : r.createdAt ≤ last.createdAt := by
  have htotal : Std.Total fun r s : PasswordReset => s.createdAt ≤ r.createdAt :=
    ⟨fun r s => le_total s.createdAt r.createdAt⟩
  have htrans : IsTrans PasswordReset fun r s => s.createdAt ≤ r.createdAt :=
    ⟨fun _ _ _ hrs hst => le_trans hst hrs⟩
  have hsorted : (recentRequests userId now db).Pairwise fun r s => s.createdAt ≤ r.createdAt :=
    List.pairwise_insertionSort _ _
  cases hrecent : recentRequests userId now db with
  | nil =>
    rw [hrecent] at hlast
    cases hlast
  | cons first rest =>
    rw [hrecent] at hlast hr hsorted
    cases hlast
    rcases List.mem_cons.mp hr with rfl | hr
    · exact le_rfl
    · exact (List.pairwise_cons.mp hsorted).1 r hr

theorem cooled_iff {now createdAt : ℤ} :
    ¬ ((now - createdAt : ℤ) : ℚ) / 1000 < 60 ↔ createdAt + resetCooldown ≤ now := by
  rw [not_lt, le_div_iff₀ (by norm_num), resetCooldown]
  constructor
  · intro h
    have h : (60 * 1000 : ℤ) ≤ now - createdAt := by exact_mod_cast h
    omega
  · intro h
    have h : (60 * 1000 : ℤ) ≤ now - createdAt := by omega
    exact_mod_cast h

theorem cooled_of_past {now createdAt : ℤ} (h : ¬ now - resetWindow < createdAt) :
    createdAt + resetCooldown ≤ now := by
  rw [resetWindow] at h
  rw [resetCooldown]
  omega

/-- A request that is not refused comes a minute after the last one, and two at most are recent. -/
theorem refusal_eq_none (h : refusal now (recentRequests userId now db) = none) :
    (∀ r ∈ recentRequests userId now db, r.createdAt + resetCooldown ≤ now) ∧
      (recentRequests userId now db).length < 3 := by
  obtain ⟨hcooling, hmany⟩ := Option.or_eq_none_iff.mp h
  constructor
  · intro r hr
    cases hlast : (recentRequests userId now db).head? with
    | none =>
      rw [List.head?_eq_none_iff.mp hlast] at hr
      cases hr
    | some last =>
      have hle := createdAt_le_head hlast hr
      rw [hlast, Option.bind_some] at hcooling
      dsimp only at hcooling
      split at hcooling
      · cases hcooling
      · rename_i hlate
        exact (add_le_add_left hle _).trans (cooled_iff.mp hlate)
  · by_contra hthree
    rw [if_pos (not_lt.mp hthree)] at hmany
    cases hmany

/-- What a write leaves of a code: its user and its times, and that it is used -/
structure KeepsCode (f : PasswordReset → PasswordReset) : Prop where
  id : ∀ r, (f r).id = r.id
  userId : ∀ r, (f r).userId = r.userId
  createdAt : ∀ r, (f r).createdAt = r.createdAt
  expiresAt : ∀ r, (f r).expiresAt = r.expiresAt
  used : ∀ r, r.used = true → (f r).used = true

theorem keepsCode_id : KeepsCode fun r => r :=
  ⟨fun _ => rfl, fun _ => rfl, fun _ => rfl, fun _ => rfl, fun _ h => h⟩

theorem keepsCode_ite {f : PasswordReset → PasswordReset} (hf : KeepsCode f)
    (p : PasswordReset → Bool) : KeepsCode fun r => if p r then f r else r := by
  constructor
  all_goals
    intro r
    split
  · exact hf.id r
  · rfl
  · exact hf.userId r
  · rfl
  · exact hf.createdAt r
  · rfl
  · exact hf.expiresAt r
  · rfl
  · exact hf.used r
  · exact id

theorem keepsCode_spent : KeepsCode spent :=
  ⟨fun _ => rfl, fun _ => rfl, fun _ => rfl, fun _ => rfl, fun _ _ => rfl⟩

theorem keepsCode_tried : KeepsCode tried :=
  ⟨fun _ => rfl, fun _ => rfl, fun _ => rfl, fun _ => rfl, fun _ h => h⟩

theorem spendCodes_rows (userId : String) (db : Database) :
    ∃ f, KeepsCode f ∧ (spendCodes userId db).rows = db.passwordResets.rows.map f :=
  ⟨_, keepsCode_ite keepsCode_spent _, rfl⟩

/-- A code is created only late enough, and when fewer than three are recent; the codes before
it are spent. -/
structure Creates (db db' : Database) (now : DateTime) (r : PasswordReset) : Prop where
  rows : db'.passwordResets.rows = (spendCodes r.userId db).rows ++ [r]
  createdAt : r.createdAt = now
  expiresAt : r.expiresAt = now + otpLifetime
  cooled : ∀ q ∈ recentRequests r.userId now db, q.createdAt + resetCooldown ≤ now
  few : (recentRequests r.userId now db).length < 3

theorem forgotPassword_resets (bcrypt : Bcrypt) (email : String) (draw : OtpDraw) (now : DateTime)
    (db : Database) :
    (∃ f, KeepsCode f ∧ (forgotPassword bcrypt email draw now db).2.passwordResets.rows =
      db.passwordResets.rows.map f) ∨
    ∃ r, Creates db (forgotPassword bcrypt email draw now db).2 now r := by
  rw [forgotPassword]
  split
  · exact .inl ⟨_, keepsCode_id, (List.map_id' _).symm⟩
  · rename_i user huser
    split
    · exact .inl ⟨_, keepsCode_id, (List.map_id' _).symm⟩
    · rename_i hrefusal
      dsimp only
      split
      · exact .inl ⟨_, keepsCode_ite keepsCode_spent _, rfl⟩
      · rename_i passwordResets hcreate
        obtain ⟨hcooled, hfew⟩ := refusal_eq_none hrefusal
        exact .inr ⟨newCode bcrypt user.userId draw now, (Table.create_eq_some hcreate).2, rfl, rfl,
          hcooled, hfew⟩

theorem resetPassword_resets (bcrypt : Bcrypt) (data : ResetPasswordData) (salt : String)
    (now : DateTime) (db : Database) :
    ∃ f, KeepsCode f ∧ (resetPassword bcrypt data salt now db).2.passwordResets.rows =
      db.passwordResets.rows.map f := by
  rw [resetPassword]
  split
  · exact ⟨_, keepsCode_id, (List.map_id' _).symm⟩
  · split
    · exact ⟨_, keepsCode_id, (List.map_id' _).symm⟩
    · split
      · exact ⟨_, keepsCode_ite keepsCode_spent _, rfl⟩
      · exact ⟨_, keepsCode_ite keepsCode_tried _, rfl⟩

end AuthService

namespace ResetState
variable {bcrypt : Bcrypt} {s : ResetState}

/-- What a call does to the codes -/
theorem resets_step (bcrypt : Bcrypt) (s : ResetState) (call : ResetCall) :
    (∃ f, AuthService.KeepsCode f ∧ (s.step bcrypt call).db.passwordResets.rows =
      s.db.passwordResets.rows.map f) ∨
    ∃ r, AuthService.Creates s.db (s.step bcrypt call).db (s.step bcrypt call).now r := by
  cases call with
  | forgotPassword elapsed email draw =>
    exact AuthService.forgotPassword_resets bcrypt email draw (s.now + elapsed) s.db
  | resetPassword elapsed data salt =>
    exact .inl (AuthService.resetPassword_resets bcrypt data salt (s.now + elapsed) s.db)

/-- The codes so far: within the limits, and created at times that have passed -/
structure Lawful (s : ResetState) : Prop where
  limits : ResetLimits s.db
  past : ∀ r ∈ s.db.passwordResets.rows, r.createdAt ≤ s.now
  expires : ∀ r ∈ s.db.passwordResets.rows, r.expiresAt = r.createdAt + AuthService.otpLifetime

theorem lawful_map {s s' : ResetState} {f : PasswordReset → PasswordReset}
    (hf : AuthService.KeepsCode f) (h : s.Lawful) (hnow : s.now ≤ s'.now)
    (hrows : s'.db.passwordResets.rows = s.db.passwordResets.rows.map f) : s'.Lawful := by
  refine ⟨⟨fun userId start => ?_, ?_, fun userId => ?_⟩, fun r hr => ?_, fun r hr => ?_⟩
  · rw [hrows, List.countP_map]
    refine le_trans (List.countP_mono_left fun r _ hr => ?_) (h.limits.window userId start)
    simpa only [Function.comp_apply, hf.userId, hf.createdAt] using hr
  · rw [hrows, List.pairwise_map]
    refine h.limits.spaced.imp fun hspaced hsame => ?_
    rw [hf.createdAt, hf.createdAt]
    exact hspaced (by rwa [hf.userId, hf.userId] at hsame)
  · rw [hrows, List.countP_map]
    refine le_trans (List.countP_mono_left fun r _ hr => ?_) (h.limits.unused userId)
    simp only [Function.comp_apply, hf.userId, decide_eq_true_eq] at hr ⊢
    refine ⟨hr.1, Bool.eq_false_iff.mpr fun hused => ?_⟩
    rw [hf.used r hused] at hr
    cases hr.2
  · rw [hrows] at hr
    obtain ⟨q, hq, rfl⟩ := List.mem_map.mp hr
    exact (hf.createdAt q).le.trans ((h.past q hq).trans hnow)
  · rw [hrows] at hr
    obtain ⟨q, hq, rfl⟩ := List.mem_map.mp hr
    rw [hf.expiresAt, hf.createdAt, h.expires q hq]

/-- The codes of a user are all spent before the next. -/
theorem countP_spendCodes (userId : String) (db : Database) :
    ((AuthService.spendCodes userId db).rows.countP fun r => r.userId = userId ∧ r.used = false) =
      0 := by
  refine List.countP_eq_zero.mpr fun r hr hcount => ?_
  rw [decide_eq_true_eq] at hcount
  rcases Table.mem_updateMany.mp hr with ⟨-, hkept⟩ | ⟨q, -, -, rfl⟩
  · rw [decide_eq_false_iff_not] at hkept
    exact hkept hcount
  · cases hcount.2

/-- The codes before a new one are a minute older. -/
theorem createdAt_of_creates {db db' : Database} {now : DateTime} {q r : PasswordReset}
    (hcreates : AuthService.Creates db db' now r) (hq : q ∈ db.passwordResets.rows)
    (huser : q.userId = r.userId) : q.createdAt + AuthService.resetCooldown ≤ now := by
  by_cases hlate : now - AuthService.resetWindow < q.createdAt
  · exact hcreates.cooled q (AuthService.mem_recentRequests.mpr ⟨hq, huser, hlate⟩)
  · exact AuthService.cooled_of_past hlate

/-- A window that holds the new code holds two more at most. -/
theorem countP_window_of_creates {db db' : Database} {now start : DateTime} {r : PasswordReset}
    (hcreates : AuthService.Creates db db' now r) (hend : now < start + AuthService.resetWindow) :
    ((AuthService.spendCodes r.userId db).rows.countP fun q => q.userId = r.userId ∧
      start ≤ q.createdAt ∧ q.createdAt < start + AuthService.resetWindow) < 3 := by
  obtain ⟨f, hkeeps, hrows⟩ := AuthService.spendCodes_rows r.userId db
  rw [hrows, List.countP_map]
  refine lt_of_le_of_lt (List.countP_mono_left fun q _ hq => ?_)
    (AuthService.length_recentRequests.symm.trans_lt hcreates.few)
  simp only [Function.comp_apply, hkeeps.userId, hkeeps.createdAt, decide_eq_true_eq] at hq ⊢
  refine ⟨hq.1, ?_⟩
  have hstart : now - AuthService.resetWindow < start := sub_lt_iff_lt_add.mpr hend
  exact hstart.trans_le hq.2.1

theorem lawful_creates {s s' : ResetState} {r : PasswordReset} (h : s.Lawful) (hnow : s.now ≤ s'.now)
    (hcreates : AuthService.Creates s.db s'.db s'.now r) : s'.Lawful := by
  obtain ⟨f, hkeeps, hrows⟩ := AuthService.spendCodes_rows r.userId s.db
  -- spending the codes alone keeps the limits
  have hspent : ({ s' with db := { s.db with
      passwordResets := AuthService.spendCodes r.userId s.db } } : ResetState).Lawful :=
    lawful_map hkeeps h hnow hrows
  refine ⟨⟨fun userId start => ?_, ?_, fun userId => ?_⟩, fun q hq => ?_, fun q hq => ?_⟩
  · rw [hcreates.rows, List.countP_append, List.countP_singleton]
    split
    · rename_i hnew
      obtain ⟨rfl, -, hend⟩ := of_decide_eq_true hnew
      exact countP_window_of_creates hcreates (hcreates.createdAt ▸ hend)
    · exact hspent.limits.window userId start
  · rw [hcreates.rows]
    refine List.pairwise_append.mpr ⟨hspent.limits.spaced, List.pairwise_singleton _ _, ?_⟩
    intro p hp q hq huser
    rw [hrows] at hp
    obtain ⟨o, ho, rfl⟩ := List.mem_map.mp hp
    obtain rfl := List.mem_singleton.mp hq
    rw [hkeeps.userId] at huser
    rw [hkeeps.createdAt, hcreates.createdAt]
    exact createdAt_of_creates hcreates ho huser
  · rw [hcreates.rows, List.countP_append, List.countP_singleton]
    by_cases huser : r.userId = userId
    · subst huser
      rw [countP_spendCodes, Nat.zero_add]
      split <;> omega
    · rw [if_neg (by simp [huser]), Nat.add_zero]
      exact hspent.limits.unused userId
  · rw [hcreates.rows] at hq
    rcases List.mem_append.mp hq with hq | hq
    · exact hspent.past q hq
    · rw [List.mem_singleton.mp hq, hcreates.createdAt]
  · rw [hcreates.rows] at hq
    rcases List.mem_append.mp hq with hq | hq
    · exact hspent.expires q hq
    · rw [List.mem_singleton.mp hq, hcreates.createdAt, hcreates.expiresAt]

theorem lawful_step (bcrypt : Bcrypt) (s : ResetState) (call : ResetCall) (h : s.Lawful) :
    (s.step bcrypt call).Lawful := by
  have hnow : s.now ≤ (s.step bcrypt call).now := Int.le_add_of_nonneg_right (Int.natCast_nonneg _)
  rcases resets_step bcrypt s call with ⟨f, hf, hrows⟩ | ⟨r, hcreates⟩
  · exact lawful_map hf h hnow hrows
  · exact lawful_creates h hnow hcreates

/-- A code has been used. -/
def Used (id : ℕ) (s : ResetState) : Prop := ∃ r ∈ s.db.passwordResets.rows, r.id = id ∧ r.used = true

theorem used_step (id : ℕ) (s : ResetState) (call : ResetCall) (h : s.Used id) :
    (s.step bcrypt call).Used id := by
  obtain ⟨r, hr, rfl, hused⟩ := h
  have hmap {f : PasswordReset → PasswordReset} (hf : AuthService.KeepsCode f) :
      f r ∈ s.db.passwordResets.rows.map f ∧ (f r).id = r.id ∧ (f r).used = true :=
    ⟨List.mem_map_of_mem hr, hf.id r, hf.used r hused⟩
  rcases resets_step bcrypt s call with ⟨f, hf, hrows⟩ | ⟨new, hcreates⟩
  · exact ⟨f r, hrows ▸ (hmap hf).1, (hmap hf).2⟩
  · obtain ⟨f, hf, hrows⟩ := AuthService.spendCodes_rows new.userId s.db
    refine ⟨f r, ?_, (hmap hf).2⟩
    rw [hcreates.rows, hrows]
    exact List.mem_append_left _ (hmap hf).1

theorem resetEntry_eq_some {userId : String} {now : DateTime} {db : Database} {entry : PasswordReset}
    (h : AuthService.resetEntry userId now db = some entry) : entry ∈ db.passwordResets.rows ∧
      entry.userId = userId ∧ entry.used = false ∧ now < entry.expiresAt := by
  have hmem := (List.mem_insertionSort _).mp (List.mem_of_head? h)
  rwa [List.mem_filter, decide_eq_true_eq] at hmem

theorem step_of_change {elapsed : ℕ} {data : ResetPasswordData} {salt : String}
    {change : PasswordChange}
    (h : s.passwordChange bcrypt (.resetPassword elapsed data salt) = some change) :
    AuthService.resetEntry change.userId (s.now + elapsed) s.db = some change.entry ∧
      change.changedAt = s.now + elapsed ∧
      (s.step bcrypt (.resetPassword elapsed data salt)).db =
        AuthService.setPassword change.userId change.entry
          (bcrypt.bcryptHash salt data.newPassword) s.db := by
  obtain ⟨user, huser, h⟩ := Option.bind_eq_some_iff.mp h
  obtain ⟨entry, hentry, h⟩ := Option.bind_eq_some_iff.mp h
  split at h
  · rename_i hcompare
    obtain rfl := Option.some.inj h
    refine ⟨hentry, rfl, ?_⟩
    rw [step]
    dsimp only
    rw [AuthService.resetPassword, huser]
    dsimp only
    rw [hentry]
    dsimp only
    rw [if_pos hcompare]
  · cases h

theorem users_of_no_change {call : ResetCall} (h : s.passwordChange bcrypt call = none) :
    (s.step bcrypt call).db.users = s.db.users := by
  cases call with
  | forgotPassword elapsed email draw =>
    rw [step]
    dsimp only
    rw [AuthService.forgotPassword]
    split
    · rfl
    · split
      · rfl
      · dsimp only
        split <;> rfl
  | resetPassword elapsed data salt =>
    rw [step]
    dsimp only
    rw [AuthService.resetPassword]
    split
    · rfl
    · rename_i user huser
      split
      · rfl
      · rename_i entry hentry
        split
        · rename_i hcompare
          rw [passwordChange, huser, Option.bind_eq_bind, Option.bind_some, hentry] at h
          dsimp only [Option.bind_eq_bind, Option.bind_some] at h
          rw [if_pos hcompare] at h
          cases h
        · rfl

/-- A change of a password is by an unused code of the user that has not expired, and uses it. -/
theorem passwordChange_eq_some {call : ResetCall} {change : PasswordChange}
    (h : s.passwordChange bcrypt call = some change) :
    change.entry ∈ s.db.passwordResets.rows ∧ change.entry.userId = change.userId ∧
      change.entry.used = false ∧ change.changedAt < change.entry.expiresAt ∧
      s.now ≤ change.changedAt ∧ (s.step bcrypt call).Used change.entry.id := by
  cases call with
  | forgotPassword _ _ _ => cases h
  | resetPassword elapsed data salt =>
    obtain ⟨hentry, hnow, hdb⟩ := step_of_change h
    obtain ⟨hmem, hown, hunused, hlate⟩ := resetEntry_eq_some hentry
    rw [← hnow] at hlate
    refine ⟨hmem, hown, hunused, hlate, hnow ▸ Int.le_add_of_nonneg_right (Int.natCast_nonneg _),
      AuthService.spent change.entry, ?_, rfl, rfl⟩
    have hresets : (s.step bcrypt (.resetPassword elapsed data salt)).db.passwordResets =
        s.db.passwordResets.update change.entry.id AuthService.spent := by
      rw [hdb]
      rfl
    rw [hresets]
    exact Table.mem_update_iff.mpr (.inr ⟨change.entry, hmem, rfl, rfl⟩)

/-- A call changes no password but by a code of its user. -/
def ChangesByCode (bcrypt : Bcrypt) (s : ResetState) (call : ResetCall) : Prop :=
  ∀ userId, ((s.step bcrypt call).db.users.find? userId).map User.password ≠
      (s.db.users.find? userId).map User.password →
    ∃ change ∈ s.passwordChange bcrypt call,
      change.userId = userId ∧ change.entry.userId = userId

theorem changesByCode (bcrypt : Bcrypt) (s : ResetState) (call : ResetCall) :
    ChangesByCode bcrypt s call := by
  intro userId hchanged
  cases hchange : s.passwordChange bcrypt call with
  | none => exact absurd (by rw [users_of_no_change hchange]) hchanged
  | some change =>
    have hown := (passwordChange_eq_some hchange).2.1
    cases call with
    | forgotPassword _ _ _ => cases hchange
    | resetPassword elapsed data salt =>
      have husers : (s.step bcrypt (.resetPassword elapsed data salt)).db.users =
          s.db.users.update change.userId (fun u =>
            { u with password := bcrypt.bcryptHash salt data.newPassword,
                     forcePasswordChange := false }) fun _ => rfl := by
        rw [(step_of_change hchange).2.2]
        rfl
      have huser : change.userId = userId := by
        by_contra hother
        rw [husers, Table.find?_update, if_neg (Ne.symm hother)] at hchanged
        exact hchanged rfl
      exact ⟨change, rfl, huser, hown.trans huser⟩

end ResetState

/-- Before any code has been asked for -/
def beforeCodes (db : Database) (now : DateTime) : ResetState :=
  ⟨{ db with passwordResets := .empty }, now⟩

/-- In every run from a database without codes, the codes stay within their limits, and each code
changes the password of its user once at most, within ten minutes of its creation. -/
theorem password_resets_limited (bcrypt : Bcrypt) (db : Database) (now : DateTime)
    (calls : List ResetCall) :
    Throughout (ResetState.step bcrypt) (fun s => ResetLimits s.db)
        (beforeCodes db now) calls ∧
      Along (ResetState.step bcrypt) (ResetState.ChangesByCode bcrypt)
        (beforeCodes db now) calls ∧
      (∀ id, (history (ResetState.step bcrypt) (ResetState.passwordChange bcrypt)
        (beforeCodes db now) calls).countP (fun c => c.entry.id = id) ≤ 1) ∧
      ∀ c ∈ history (ResetState.step bcrypt) (ResetState.passwordChange bcrypt)
        (beforeCodes db now) calls,
        c.entry.createdAt ≤ c.changedAt ∧
          c.changedAt < c.entry.createdAt + AuthService.otpLifetime := by
  have hstart : (beforeCodes db now).Lawful :=
    ⟨⟨fun _ _ => Nat.zero_le 3, List.Pairwise.nil, fun _ => Nat.zero_le 1⟩,
      fun r hr => absurd hr List.not_mem_nil, fun r hr => absurd hr List.not_mem_nil⟩
  refine ⟨?_, along_of_forall (ResetState.changesByCode bcrypt) _ calls, fun id => ?_, ?_⟩
  · have hlawful : Throughout (ResetState.step bcrypt) ResetState.Lawful
        (beforeCodes db now) calls :=
      Along.throughout (C := fun _ _ => True)
        (fun s call h _ => ResetState.lawful_step bcrypt s call h) hstart
        (along_of_forall (fun _ _ => trivial) _ calls)
    exact hlawful.imp fun s h => h.limits
  · refine (countP_history_le_one (I := fun _ => True) (J := ResetState.Used id)
      (fun _ _ _ => trivial) (fun s call _ hused => ResetState.used_step id s call hused) ?_
      trivial calls).1
    intro s call change _ hchange hid
    obtain ⟨hmem, -, hunused, -, -, hused⟩ := ResetState.passwordChange_eq_some hchange
    have hid : change.entry.id = id := of_decide_eq_true hid
    refine ⟨fun hbefore => ?_, hid ▸ hused⟩
    obtain ⟨r, hr, hsame, hrused⟩ := hbefore
    rw [Table.key_injective hr hmem (hsame.trans hid.symm), hunused] at hrused
    cases hrused
  · refine forall_mem_history (I := ResetState.Lawful)
      (fun s call h => ResetState.lawful_step bcrypt s call h) ?_ hstart calls
    intro s call change h hchange
    obtain ⟨hmem, -, -, hlate, hnow, -⟩ := ResetState.passwordChange_eq_some hchange
    rw [h.expires _ hmem] at hlate
    exact ⟨(h.past _ hmem).trans hnow, hlate⟩

end InstalFlow
