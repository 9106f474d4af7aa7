import InstalFlow.JsonValue
import InstalFlow.Schema
import InstalFlow.Transition.Run

/-!
# The session store

`set` stores a session under a key of its own inside the record, and `get` hands out the record
without taking the session out of it again.
-/

namespace InstalFlow
open Relational Transition

/-- A row of the table `Session` -/
structure SessionRecord where
  id : String
  data : JsonValue
  expiresAt : DateTime

namespace PrismaSessionStore

/-- The time to live is in seconds, one day by default. -/
def defaultTtl : ℤ := 86400

/-- What the callback is given where the query does not fail -/
def get (sid : String) (now : DateTime) (store : Table SessionRecord.id) : JsonValue :=
  match store.find? sid with
  | none => .null
  | some record => if record.expiresAt < now then .null else record.data

def set (ttl : ℤ) (sid : String) (session : JsonValue) (now : DateTime)
    (store : Table SessionRecord.id) : Table SessionRecord.id :=
  let expiresAt := now + ttl * 1000
  let data := .object [("session", session)]
  match store.find? sid with
  | some _ => store.update sid fun r => { r with data, expiresAt }
  | none => (store.create { id := sid, data, expiresAt }).getD store

def destroy (sid : String) (store : Table SessionRecord.id) :
    Except AppError (Table SessionRecord.id) :=
  match store.find? sid with
  | none => .error (.error "Record to delete does not exist.")
  | some _ => .ok (store.deleteMany fun r => r.id = sid)

inductive Call
  | set (sid : String) (session : JsonValue) (now : DateTime)
  | get (sid : String) (now : DateTime)
  | destroy (sid : String)

def Call.sid : Call → String
  | .set sid _ _ | .get sid _ | .destroy sid => sid

/-- What was last set for each id, and when, unless it was destroyed since -/
abbrev Memory := String → Option (JsonValue × DateTime)

def remember (memory : Memory) : Call → Memory
  | .set sid session now => Function.update memory sid (some (session, now))
  | .get _ _ => memory
  | .destroy sid => Function.update memory sid none

/-- The session that was last set, if that is at most `ttl` seconds ago -/
def expected (ttl : ℤ) (sid : String) (now : DateTime) (memory : Memory) : JsonValue :=
  match memory sid with
  | none => .null
  | some (session, setAt) => if now ≤ setAt + ttl * 1000 then session else .null

def stored (ttl : ℤ) (store : Table SessionRecord.id) : Call → Table SessionRecord.id
  | .set sid session now => set ttl sid session now store
  | .get _ _ => store
  | .destroy sid =>
    match destroy sid store with
    | .ok store' => store'
    | .error _ => store

structure StoreState where
  store : Table SessionRecord.id := .empty
  memory : Memory := fun _ => none

def storeStep (ttl : ℤ) (s : StoreState) (call : Call) : StoreState where
  store := stored ttl s.store call
  memory := remember s.memory call

/-- A call leaves what is stored for other ids alone, and a `get` answers what is remembered. -/
structure AnswersStored (ttl : ℤ) (s : StoreState) (call : Call) : Prop where
  answer : ∀ sid now, call = .get sid now → get sid now s.store = expected ttl sid now s.memory
  others : ∀ sid ≠ call.sid, (stored ttl s.store call).find? sid = s.store.find? sid

/-- A `get` finds no record, or one that has expired. -/
def FindsNoLive (s : StoreState) : Call → Prop
  | .get sid now => ∀ record ∈ s.store.find? sid, record.expiresAt < now
  | _ => True

instance (s : StoreState) : DecidablePred (FindsNoLive s)
  | .get sid now => inferInstanceAs (Decidable (∀ record ∈ s.store.find? sid, record.expiresAt < now))
  | .set _ _ _ | .destroy _ => inferInstanceAs (Decidable True)

section refinement
variable {ttl : ℤ} {sid : String} {now : DateTime} {store : Table SessionRecord.id} {s : StoreState}

/-- The record that `set` writes -/
def recordOf (ttl : ℤ) (sid : String) (set : JsonValue × DateTime) : SessionRecord where
  id := sid
  data := .object [("session", set.1)]
  expiresAt := set.2 + ttl * 1000

theorem find?_set (session : JsonValue) (sid' : String) :
    (set ttl sid session now store).find? sid' =
      if sid' = sid then some (recordOf ttl sid (session, now)) else store.find? sid' := by
  rw [set]
  cases hfind : store.find? sid with
  | none => exact Table.find?_getD_create hfind sid'
  | some record =>
    have hid := Table.find?_key hfind
    dsimp only
    rw [Table.find?_update]
    split
    · rename_i hsame
      rw [hsame, hfind, Option.map_some, recordOf, hid]
    · rfl

theorem find?_destroy (sid' : String) :
    (stored ttl store (.destroy sid)).find? sid' =
      if sid' = sid then none else store.find? sid' := by
  rw [stored, destroy]
  cases hfind : store.find? sid with
  | none =>
    dsimp only
    split
    · rename_i hsame
      rw [hsame, hfind]
    · rfl
  | some record =>
    dsimp only
    rw [Table.find?_deleteMany]
    cases hfind' : store.find? sid' with
    | none =>
      rw [ite_self]
      rfl
    | some record' =>
      have hid' : record'.id = sid' := Table.find?_key hfind'
      by_cases hsame : sid' = sid
      · simp [hid', hsame]
      · simp [hid', hsame]

/-- What is stored is what is remembered, under the key of its own. -/
def Remembers (ttl : ℤ) (s : StoreState) : Prop :=
  ∀ sid, s.store.find? sid = (s.memory sid).map (recordOf ttl sid)

theorem remembers_step (s : StoreState) (call : Call) (h : Remembers ttl s) :
    Remembers ttl (storeStep ttl s call) := by
  intro sid
  cases call with
  | get _ _ => exact h sid
  | set sid' session now =>
    rw [storeStep, stored, remember, find?_set]
    dsimp only
    rw [Function.update_apply]
    by_cases hsame : sid = sid'
    · rw [if_pos hsame, if_pos hsame, hsame]
      rfl
    · rw [if_neg hsame, if_neg hsame]
      exact h sid
  | destroy sid' =>
    rw [storeStep, find?_destroy, remember]
    dsimp only
    rw [Function.update_apply]
    by_cases hsame : sid = sid'
    · rw [if_pos hsame, if_pos hsame]
      rfl
    · rw [if_neg hsame, if_neg hsame]
      exact h sid

/-- A `get` answers right exactly when it finds no live record. -/
theorem get_eq_expected_iff (h : Remembers ttl s) (sid : String) (now : DateTime) :
    get sid now s.store = expected ttl sid now s.memory ↔ FindsNoLive s (.get sid now) := by
  rw [get, expected, FindsNoLive, h sid]
  cases s.memory sid with
  | none => simp
  | some set =>
    obtain ⟨session, setAt⟩ := set
    by_cases hlive : now ≤ setAt + ttl * 1000
    · have hwrapped := JsonValue.object_ne "session" session
      simp [recordOf, hlive, hlive.not_gt, hwrapped]
    · have hexpired := not_le.mp hlive
      simp [recordOf, hlive, hexpired]

theorem find?_stored (call : Call) (hsid : sid ≠ call.sid) :
    (stored ttl store call).find? sid = store.find? sid := by
  cases call with
  | get _ _ => rfl
  | set sid' session now => exact (find?_set session sid).trans (if_neg hsid)
  | destroy sid' => exact (find?_destroy sid).trans (if_neg hsid)

/-- The store answers every `get` of a run right, exactly when no `get` of the run finds a live
record. -/
theorem answersStored_iff (ttl : ℤ) (calls : List Call) :
    Along (storeStep ttl) (AnswersStored ttl) {} calls ↔
      Along (storeStep ttl) FindsNoLive {} calls := by
  refine along_iff_along (I := Remembers ttl) (fun s call h => ?_)
    (fun s call h _ => remembers_step s call h) fun sid => rfl
  constructor
  · intro hanswers
    cases call with
    | get sid now => exact (get_eq_expected_iff h sid now).mp (hanswers.answer sid now rfl)
    | set _ _ _ | destroy _ => trivial
  · intro hfinds
    refine ⟨fun sid now hcall => ?_, fun sid hsid => find?_stored call hsid⟩
    subst hcall
    exact (get_eq_expected_iff h sid now).mpr hfinds

/-- A session that is asked for at once comes back inside another object. -/
theorem not_answersStored_at_once :
    get "visit" 5 (set defaultTtl "visit" (.object [("csrfToken", .string "token")]) 0 .empty) =
      .object [("session", .object [("csrfToken", .string "token")])] ∧
    ¬ Along (storeStep defaultTtl) (AnswersStored defaultTtl) {}
      [.set "visit" (.object [("csrfToken", .string "token")]) 0, .get "visit" 5] := by
  refine ⟨rfl, fun h => ?_⟩
  have hanswer : JsonValue.object [("session", .object [("csrfToken", .string "token")])] =
      .object [("csrfToken", .string "token")] := h.2.1.answer "visit" 5 rfl
  exact JsonValue.object_ne "session" _ hanswer

end refinement
end PrismaSessionStore
end InstalFlow
