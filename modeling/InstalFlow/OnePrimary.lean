import InstalFlow.PrimaryAccounts

/-!
# One primary account for each owner

A transaction that has cleared the flags of an owner sees none, and then the one that it sets,
as long as no other transaction sets one that it cannot see. What the other calls do to the
accounts of the owner leaves the flags as they are.
-/

namespace InstalFlow
open Relational Transition

def AccountTable.flagged {ρ : Type} (T : AccountTable ρ) (owner : String) (r : ρ) : Bool :=
  T.owner r = owner ∧ T.isPrimary r

section invariant
variable {ι ρ : Type} [DecidableEq ι] (T : AccountTable ρ) (owner : String)

/-- The last statement is one of the call. -/
def AccountWrite.Of (call : BankCall) (h : Heap ι String ρ) : AccountWrite ρ → Prop
  | create _ account => T.owner account = call.owner ∧ T.isPrimary account = call.moves
  | setPrimary accountId => call.moves = true ∧ h.Has T.owner accountId call.owner
  | delete _ => call.moves = false

def BankPhase.Of (call : BankCall) (h : Heap ι String ρ) : BankPhase ρ → Prop
  | clearing w | clearingRows _ w => call.moves = true ∧ w.Of T call h
  | writing w | writingRows _ w => w.Of T call h
  | _ => True

/-- What a call that moves the flag of the owner has done to the flags. -/
def BankPhase.Moved (i : ι) (h : Heap ι String ρ) : BankPhase ρ → Prop
  | clearingRows targets _ => h.Unwritten i ∧
      ∀ slot ∈ h.slots, slot.stored.any (T.flagged owner) = true → slot.key ∈ targets
  | writing _ | writingRows _ _ => (h.seen i).countP (T.flagged owner) = 0
  | committing => (h.seen i).countP (T.flagged owner) = 1
  | _ => h.Unwritten i

def BankCall.Mover (call : BankCall) : Prop := call.moves = true ∧ call.owner = owner

/-- The other calls keep the flags of the owner. -/
def BankPhase.Holds (call : BankCall) (i : ι) (h : Heap ι String ρ) (phase : BankPhase ρ) : Prop :=
  (call.Mover owner → phase.Moved T owner i h) ∧
    (¬ call.Mover owner → h.Keeps (T.flagged owner) i)

namespace BankState

structure Inv (calls : ι → BankCall) (s : BankState ι ρ) : Prop where
  owners : s.accounts.Fixed T.owner
  fits : ∀ i, (s.phases i).Of T (calls i) s.accounts
  holds : ∀ i, (s.phases i).Holds T owner (calls i) i s.accounts
  alone : ∀ i j, i ≠ j → (calls i).Mover owner → (calls j).Mover owner →
    (s.phases i).clears = true → (s.phases j).clears = false

/-- A statement of a call leaves alone what the other calls rely on, and the flags that are
committed. -/
structure Frame (i : ι) (h h' : Heap ι String ρ) : Prop where
  others : ∀ j, j ≠ i → ∀ call phase, BankPhase.Holds T owner call j h phase →
    BankPhase.Holds T owner call j h' phase
  owners : h.Preserves T.owner h'
  count : h'.committed.countP (T.flagged owner) = h.committed.countP (T.flagged owner)

end BankState
end invariant

section frames
variable {ι ρ : Type} [DecidableEq ι] {T : AccountTable ρ} {owner : String} {i j : ι}
  {h h' : Heap ι String ρ} {call : BankCall}

omit [DecidableEq ι] in
theorem AccountWrite.Of.preserves {w : AccountWrite ρ} (hw : w.Of T call h)
    (hp : h.Preserves T.owner h') : w.Of T call h' := by
  cases w with
  | create accountId account => exact hw
  | setPrimary accountId => exact ⟨hw.1, hp.has _ _ hw.2⟩
  | delete accountId => exact hw

omit [DecidableEq ι] in
theorem BankPhase.Of.preserves {phase : BankPhase ρ} (hphase : phase.Of T call h)
    (hp : h.Preserves T.owner h') : phase.Of T call h' := by
  cases phase with
  | clearing w => exact ⟨hphase.1, hphase.2.preserves hp⟩
  | clearingRows targets w => exact ⟨hphase.1, hphase.2.preserves hp⟩
  | writing w => exact AccountWrite.Of.preserves hphase hp
  | writingRows targets w => exact AccountWrite.Of.preserves hphase hp
  | _ => trivial

theorem BankPhase.Holds.alike {phase : BankPhase ρ} (hh : phase.Holds T owner call j h)
    (ha : h.Alike (T.flagged owner) j h') : phase.Holds T owner call j h' := by
  refine ⟨fun hmover => ?_, fun hother => ha.keeps (hh.2 hother)⟩
  have hmoved := hh.1 hmover
  cases phase with
  | clearingRows targets w =>
    refine ⟨ha.unwritten hmoved.1, fun slot hslot hflag => ?_⟩
    rcases ha.mem hslot with ⟨slot', hslot', hsame⟩ | ⟨hnone, -⟩
    · rw [hsame.key]
      exact hmoved.2 slot' hslot' (hsame.stored.symm.trans hflag)
    · rw [hnone] at hflag
      cases hflag
  | writing w => exact ha.countP_seen.trans hmoved
  | writingRows targets w => exact ha.countP_seen.trans hmoved
  | committing => exact ha.countP_seen.trans hmoved
  | _ => exact ha.unwritten hmoved

namespace BankState.Frame

theorem refl (h : Heap ι String ρ) : Frame T owner i h h :=
  ⟨fun _ _ _ _ hh => hh, .refl h, rfl⟩

theorem trans {h'' : Heap ι String ρ} (hf : Frame T owner i h h') (hf' : Frame T owner i h' h'') :
    Frame T owner i h h'' where
  others j hne call phase hh := hf'.others j hne call phase (hf.others j hne call phase hh)
  owners := ⟨fun hfixed => hf'.owners.fixed (hf.owners.fixed hfixed),
    fun k x hhas => hf'.owners.has k x (hf.owners.has k x hhas)⟩
  count := hf'.count.trans hf.count

theorem change {keys : List String} {p : String → ρ → Bool} {f : ρ → Option ρ}
    (hfree : h.free i keys = true) (hf : ∀ r, ∀ r' ∈ f r, T.owner r' = T.owner r) :
    Frame T owner i h (h.change i keys p f) where
  others _ hne _ _ hh := hh.alike (.change hne hfree)
  owners := Heap.preserves_change hf
  count := by rw [Heap.committed_change]

theorem insert {k : String} {r : ρ} (hi : h.insert i k r = some h') : Frame T owner i h h' where
  others _ hne _ _ hh := hh.alike (.insert hne hi)
  owners := Heap.preserves_insert hi
  count := by rw [Heap.committed_insert hi]

theorem rollback : Frame T owner i h (h.rollback i) where
  others _ hne _ _ hh := hh.alike (.rollback hne)
  owners := Heap.preserves_rollback
  count := by rw [Heap.committed_rollback]

/-- A commit that keeps the flags of the owner -/
theorem commit (hk : h.Keeps (T.flagged owner) i) : Frame T owner i h (h.commit i) where
  others _ hne _ _ hh := hh.alike (.commit hne hk)
  owners := Heap.preserves_commit
  count := hk.countP_commit

end BankState.Frame

theorem BankPhase.moved_iff {phase : BankPhase ρ} (hphase : phase.clears = false) :
    phase.Moved T owner i h ↔ h.Unwritten i := by
  cases phase with
  | clearingRows targets w => cases hphase
  | writing w => cases hphase
  | writingRows targets w => cases hphase
  | committing => cases hphase
  | _ => exact Iff.rfl

theorem BankPhase.holds_of_unwritten {phase : BankPhase ρ} (hu : h.Unwritten i)
    (hphase : phase.clears = false) : phase.Holds T owner call i h :=
  ⟨fun _ => (moved_iff hphase).mpr hu, fun _ => hu.keeps⟩

/-- The commit of a call that moves the flag, while no other such call has begun to -/
theorem BankPhase.Holds.commit {phase : BankPhase ρ} (hne : j ≠ i)
    (hh : phase.Holds T owner call j h) (halone : call.Mover owner → phase.clears = false) :
    phase.Holds T owner call j (h.commit i) := by
  refine ⟨fun hmover => ?_, fun hother => Heap.keeps_commit_of_ne hne (hh.2 hother)⟩
  have hidle := halone hmover
  exact (moved_iff hidle).mpr
    (Heap.unwritten_commit_of_ne hne ((moved_iff hidle).mp (hh.1 hmover)))

end frames

namespace BankState
section steps
variable {ι ρ : Type} [DecidableEq ι] {T : AccountTable ρ} {owner : String} {i : ι}
  {calls : ι → BankCall} {s : BankState ι ρ} {h' : Heap ι String ρ} {phase : BankPhase ρ}

/-- The call `i` goes on to another phase. -/
theorem Inv.next (hs : s.Inv T owner calls)
    (howners : s.accounts.Preserves T.owner h')
    (hothers : ∀ j, j ≠ i → (s.phases j).Holds T owner (calls j) j h')
    (hown : phase.Holds T owner (calls i) i h') (hfits : phase.Of T (calls i) h')
    (halone : (calls i).Mover owner → phase.clears = true →
      ∀ j, j ≠ i → (calls j).Mover owner → (s.phases j).clears = false) :
    Inv T owner calls { accounts := h', phases := Function.update s.phases i phase } where
  owners := howners.fixed hs.owners
  fits j := by
    by_cases hj : j = i
    · subst hj
      simpa using hfits
    · simpa [hj] using (hs.fits j).preserves howners
  holds j := by
    by_cases hj : j = i
    · subst hj
      simpa using hown
    · simpa [hj] using hothers j hj
  alone j k hne hj hk hclears := by
    by_cases hji : j = i
    · subst hji
      simpa [hne.symm] using halone hj (by simpa using hclears) k hne.symm hk
    · by_cases hki : k = i
      · subst hki
        simp only [Function.update_of_ne hji] at hclears
        simp only [Function.update_self]
        cases hphase : phase.clears with
        | false => rfl
        | true =>
          rw [halone hk hphase j hji hj] at hclears
          cases hclears
      · simpa [hji, hki] using hs.alone j k hne hj hk (by simpa [hji] using hclears)

/-- What one step makes of the invariant, and of the number of primary accounts -/
def StepsTo (T : AccountTable ρ) (owner : String) (calls : ι → BankCall) (s s' : BankState ι ρ) :
    Prop :=
  s'.Inv T owner calls ∧ (s'.primaries T owner = s.primaries T owner ∨ s'.primaries T owner = 1)

theorem Inv.frame (hs : s.Inv T owner calls) (hf : Frame T owner i s.accounts h')
    (hown : phase.Holds T owner (calls i) i h') (hfits : phase.Of T (calls i) h')
    (halone : (calls i).Mover owner → phase.clears = true → (s.phases i).clears = true) :
    StepsTo T owner calls s { accounts := h', phases := Function.update s.phases i phase } :=
  ⟨hs.next hf.owners (fun j hne => hf.others j hne _ _ (hs.holds j)) hown hfits
    fun hmover hclears j hne hj => hs.alone i j hne.symm hmover hj (halone hmover hclears),
    .inl hf.count⟩

theorem Inv.fail (hs : s.Inv T owner calls) (i : ι) (err : AppError) :
    StepsTo T owner calls s (s.fail i err) :=
  hs.frame .rollback (BankPhase.holds_of_unwritten Heap.unwritten_rollback rfl) trivial
    fun _ hclears => by cases hclears

theorem Inv.stay (hs : s.Inv T owner calls) : StepsTo T owner calls s s := ⟨hs, .inl rfl⟩

theorem flagged_iff {r : ρ} : T.flagged owner r = true ↔ T.owner r = owner ∧ T.isPrimary r = true :=
  decide_eq_true_iff

theorem flagged_of_other {r : ρ} (h : T.owner r ≠ owner) : T.flagged owner r = false :=
  decide_eq_false fun hand => h hand.1

/-- The statement that clears the flags has found them. -/
theorem Inv.clearing (hs : s.Inv T owner calls) {w : AccountWrite ρ}
    (hphase : s.phases i = .clearing w)
    (hapart : ∀ j, j ≠ i → (calls j).owner = (calls i).owner → (calls j).moves = true →
      (s.phases j).clears = false) :
    StepsTo T owner calls s (s.setPhase i (.clearingRows (s.accounts.targets i fun _ r =>
      T.owner r = (calls i).owner ∧ T.isPrimary r) w)) := by
  have hholds := hs.holds i
  rw [hphase] at hholds
  refine ⟨hs.next (.refl _) (fun j _ => hs.holds j) ⟨fun hmover => ?_, hholds.2⟩ ?_ ?_, .inl rfl⟩
  · have hunwritten : s.accounts.Unwritten i := hholds.1 hmover
    refine ⟨hunwritten, fun slot hslot hflag => ?_⟩
    refine List.mem_map.mpr ⟨slot, List.mem_filter.mpr ⟨hslot, ?_⟩, rfl⟩
    rw [Slot.seen_of_writer_ne (hunwritten slot hslot), hmover.2]
    exact hflag
  · have hfits := hs.fits i
    rw [hphase] at hfits
    exact hfits
  · exact fun hmover _ j hne hj => hapart j hne (hj.2.trans hmover.2.symm) hj.1

/-- Of the rows of the owner none is seen to be primary after the statement. -/
theorem Inv.clearingRows (hs : s.Inv T owner calls) {targets : List String} {w : AccountWrite ρ}
    (hphase : s.phases i = .clearingRows targets w) (hfree : s.accounts.free i targets = true) :
    StepsTo T owner calls s
      { accounts := s.accounts.change i targets (fun _ r => T.owner r = (calls i).owner ∧
          T.isPrimary r) fun r => some (T.withPrimary false r)
        phases := Function.update s.phases i (.writing w) } := by
  have hholds := hs.holds i
  rw [hphase] at hholds
  have hcleared (r : ρ) : T.flagged owner (T.withPrimary false r) = false := by
    rw [AccountTable.flagged, T.isPrimary_withPrimary]
    exact decide_eq_false fun hand => absurd hand.2 Bool.false_ne_true
  have hframe : Frame T owner i s.accounts (s.accounts.change i targets (fun _ r =>
      T.owner r = (calls i).owner ∧ T.isPrimary r) fun r => some (T.withPrimary false r)) :=
    .change hfree fun r r' hr' => by
      cases hr'
      exact T.owner_withPrimary false r
  refine hs.frame hframe ⟨fun hmover => ?_, fun hother => ?_⟩ ?_ fun _ _ => by rw [hphase]; rfl
  · obtain ⟨hunwritten, htargets⟩ := hholds.1 hmover
    change List.countP _ _ = 0
    rw [Heap.countP_seen, List.countP_eq_zero]
    intro slot' hslot'
    obtain ⟨slot, hslot, rfl⟩ := Heap.mem_change.mp hslot'
    rw [Heap.seen_change, Slot.seen_of_writer_ne (hunwritten slot hslot), hmover.2]
    split
    · cases slot.stored with
      | none => exact Bool.false_ne_true
      | some r =>
        rw [Option.bind_some, Option.any_some, hcleared]
        exact Bool.false_ne_true
    · rename_i hmissed
      exact fun hflag => hmissed ⟨htargets slot hslot hflag, hflag⟩
  · refine (hholds.2 hother).change fun slot hslot _ r _ hp => ?_
    rw [Option.any_some, hcleared]
    refine (flagged_of_other fun he => hother ⟨?_, ?_⟩).symm
    · have hfits := hs.fits i
      rw [hphase] at hfits
      exact hfits.1
    · exact (of_decide_eq_true hp).1.symm.trans he
  · have hfits := hs.fits i
    rw [hphase] at hfits
    exact hfits.2.preserves hframe.owners

/-- The new account is the only primary one that the transaction sees, or not primary. -/
theorem Inv.inserting (hs : s.Inv T owner calls) {accountId : String} {account : ρ}
    (hphase : s.phases i = .writing (.create accountId account))
    (hinsert : s.accounts.insert i accountId account = some h') :
    StepsTo T owner calls s
      { accounts := h', phases := Function.update s.phases i .committing } := by
  have hholds := hs.holds i
  have hfits := hs.fits i
  rw [hphase] at hholds hfits
  obtain ⟨howner, hprimary⟩ : T.owner account = (calls i).owner ∧
    T.isPrimary account = (calls i).moves := hfits
  have hflag : T.flagged owner account = true ↔ (calls i).Mover owner := by
    rw [flagged_iff, howner, hprimary, BankCall.Mover, and_comm]
  refine hs.frame (.insert hinsert) ⟨fun hmover => ?_, fun hother => ?_⟩ trivial
    fun _ _ => by rw [hphase]; rfl
  · have hnone : (s.accounts.seen i).countP (T.flagged owner) = 0 := hholds.1 hmover
    change List.countP _ _ = 1
    rw [Heap.countP_seen] at hnone ⊢
    rw [(Heap.insert_eq_some hinsert).2, List.countP_append, hnone, List.countP_singleton,
      Heap.seen_inserted, Option.any_some, if_pos (hflag.mpr hmover)]
  · refine (hholds.2 hother).insert ?_ hinsert
    rw [← Bool.not_eq_true, hflag]
    exact hother

/-- The account is the only one that the transaction sees to be primary. -/
theorem Inv.settingPrimary (hs : s.Inv T owner calls) {targets : List String} {accountId : String}
    (hphase : s.phases i = .writingRows targets (.setPrimary accountId))
    (hfree : s.accounts.free i targets = true)
    (hchanges : s.accounts.changes i targets (fun k _ => k = accountId) = true) :
    StepsTo T owner calls s
      { accounts := s.accounts.change i targets (fun k _ => k = accountId) fun r =>
          some (T.withPrimary true r)
        phases := Function.update s.phases i .committing } := by
  have hholds := hs.holds i
  have hfits := hs.fits i
  rw [hphase] at hholds hfits
  obtain ⟨hmoves, hhas⟩ : (calls i).moves = true ∧
    s.accounts.Has T.owner accountId (calls i).owner := hfits
  have howner {slot : Slot ι String ρ} (hslot : slot ∈ s.accounts.slots) {r : ρ}
      (hr : r ∈ slot.seen i) (hkey : slot.key = accountId) : T.owner r = (calls i).owner :=
    hhas.seen hslot hkey hr
  refine hs.frame (.change hfree fun r r' hr' => ?_) ⟨fun hmover => ?_, fun hother => ?_⟩ trivial
    fun _ _ => by rw [hphase]; rfl
  · cases hr'
    exact T.owner_withPrimary true r
  · have hnone : (s.accounts.seen i).countP (T.flagged owner) = 0 := hholds.1 hmover
    rw [Heap.countP_seen, List.countP_eq_zero] at hnone
    obtain ⟨slot, hslot, hfound⟩ := List.any_eq_true.mp hchanges
    obtain ⟨htarget, hseen⟩ := of_decide_eq_true hfound
    have hchanged {slot' : Slot ι String ρ} (hslot' : slot' ∈ s.accounts.slots) :
        (((slot'.change i targets (fun k _ => decide (k = accountId)) fun r =>
          some (T.withPrimary true r)).seen i).any (T.flagged owner) = true) ↔
        slot'.key = slot.key := by
      obtain ⟨r, hr, hkey⟩ := (Option.any_eq_true _ _).mp hseen
      have hkey : slot.key = accountId := of_decide_eq_true hkey
      rw [Heap.seen_change]
      constructor
      · intro hflag
        split at hflag
        · rename_i htarget'
          obtain ⟨r', hr', hkey'⟩ := (Option.any_eq_true _ _).mp htarget'.2
          exact (of_decide_eq_true hkey').trans hkey.symm
        · exact absurd hflag (hnone slot' hslot')
      · intro hsame
        obtain rfl := Heap.key_injective hslot' hslot hsame
        have hr : slot'.seen i = some r := hr
        rw [if_pos ⟨htarget, hseen⟩, hr, Option.bind_some, Option.any_some, flagged_iff,
          T.owner_withPrimary, T.isPrimary_withPrimary]
        exact ⟨(howner hslot hr hkey).trans hmover.2, rfl⟩
    change List.countP _ _ = 1
    rw [Heap.countP_seen, Heap.change, Heap.mapSlots, List.countP_map]
    exact Heap.countP_eq_one hslot fun slot' hslot' => hchanged hslot'
  · refine (hholds.2 hother).change fun slot hslot _ r hr hkey => ?_
    have hne : T.owner r ≠ owner := by
      rw [howner hslot hr (of_decide_eq_true hkey)]
      exact fun he => hother ⟨hmoves, he⟩
    rw [Option.any_some, flagged_of_other hne]
    refine flagged_of_other ?_
    rw [T.owner_withPrimary]
    exact hne

/-- An account that is not primary is deleted at once. -/
theorem Inv.deleting (hs : s.Inv T owner calls) {targets : List String} {accountId : String}
    (hphase : s.phases i = .writingRows targets (.delete accountId))
    (hfree : s.accounts.free i targets = true)
    (hapart : ∀ slot ∈ s.accounts.slots, slot.key ∈ targets →
      slot.stored.any T.isPrimary = false) :
    StepsTo T owner calls s
      { accounts := (s.accounts.change i targets (fun k _ => k = accountId) fun _ => none).commit i
        phases := Function.update s.phases i .returned } := by
  have hholds := hs.holds i
  have hfits := hs.fits i
  rw [hphase] at hholds hfits
  have hmoves : (calls i).moves = false := hfits
  have hkeeps := hholds.2 fun hmover => absurd (hmoves.symm.trans hmover.1) Bool.false_ne_true
  have hkeeps' : (s.accounts.change i targets (fun k _ => k = accountId) fun _ => none).Keeps
      (T.flagged owner) i := by
    refine hkeeps.change fun slot hslot htarget r hr _ => ?_
    have hr : slot.seen i = some r := hr
    have hflag := hkeeps.seen hslot
    rw [hr, Option.any_some] at hflag
    rw [hflag, Option.any_none]
    cases hstored : slot.stored with
    | none => rfl
    | some r' =>
      have hprimary := hapart slot hslot htarget
      rw [hstored, Option.any_some] at hprimary
      rw [Option.any_some, AccountTable.flagged, hprimary]
      exact (decide_eq_false fun hand => absurd hand.2 Bool.false_ne_true).symm
  exact hs.frame ((Frame.change hfree fun _ _ hr' => by cases hr').trans (.commit hkeeps'))
    (BankPhase.holds_of_unwritten Heap.unwritten_commit rfl) trivial fun _ hclears => by cases hclears

theorem Inv.committing (hs : s.Inv T owner calls) (hphase : s.phases i = .committing) :
    StepsTo T owner calls s
      { accounts := s.accounts.commit i, phases := Function.update s.phases i .returned } := by
  have hholds := hs.holds i
  rw [hphase] at hholds
  have hdone : BankPhase.Holds T owner (calls i) i (s.accounts.commit i) .returned :=
    BankPhase.holds_of_unwritten Heap.unwritten_commit rfl
  by_cases hmover : (calls i).Mover owner
  · have halone (j : ι) (hne : j ≠ i) (hj : (calls j).Mover owner) : (s.phases j).clears = false :=
      hs.alone i j hne.symm hmover hj (by rw [hphase]; rfl)
    refine ⟨hs.next Heap.preserves_commit (fun j hne => (hs.holds j).commit hne (halone j hne)) hdone
      trivial fun _ hclears => (by cases hclears), .inr ?_⟩
    rw [primaries, Heap.committed_commit]
    exact hholds.1 hmover
  · exact hs.frame (.commit (hholds.2 hmover)) hdone trivial fun _ hclears => by cases hclears

theorem Inv.transaction (hs : s.Inv T owner calls) (i : ι)
    (hapart : Apart T calls s (.statement i)) :
    StepsTo T owner calls s (s.transaction T (calls i).owner i) := by
  have hholds := hs.holds i
  have hfits := hs.fits i
  have hapart : s.Finds T calls i (s.phases i) := hapart
  rw [BankState.transaction]
  cases hphase : s.phases i with
  | clearing w =>
    rw [hphase] at hapart
    exact hs.clearing hphase hapart
  | clearingRows targets w =>
    dsimp only
    split
    · exact hs.clearingRows hphase ‹_›
    · exact hs.stay
  | writing w =>
    rw [hphase] at hholds hfits
    cases w with
    | create accountId account =>
      dsimp only
      split
      · exact hs.stay
      · exact hs.fail i _
      · split
        · exact hs.stay
        · exact hs.inserting hphase ‹_›
    | setPrimary accountId =>
      exact hs.frame (.refl _) hholds hfits fun _ _ => by rw [hphase]; rfl
    | delete accountId =>
      exact hs.frame (.refl _) hholds hfits fun _ _ => by rw [hphase]; rfl
  | writingRows targets w =>
    rw [hphase] at hapart
    cases w with
    | create accountId account => exact hs.stay
    | setPrimary accountId =>
      dsimp only
      split
      · exact hs.stay
      · rename_i hfree
        split
        · exact hs.fail i _
        · rename_i hchanges
          exact hs.settingPrimary hphase (by simpa using hfree) (by simpa using hchanges)
    | delete accountId =>
      dsimp only
      split
      · exact hs.stay
      · rename_i hfree
        have hfree : s.accounts.free i targets = true := by simpa using hfree
        split
        · exact hs.fail i _
        · exact hs.deleting hphase hfree (hapart hfree)
  | committing => exact hs.committing hphase
  | _ => exact hs.stay

/-- A statement in front of the transaction changes no row. -/
theorem Inv.ahead (hs : s.Inv T owner calls) (hphase : (s.phases i).clears = false)
    (hnew : phase.clears = true → (calls i).moves = false)
    (hfits : phase.Of T (calls i) s.accounts) : StepsTo T owner calls s (s.setPhase i phase) := by
  have hidle (hmover : (calls i).Mover owner) : phase.clears = false := by
    cases hclears : phase.clears with
    | false => rfl
    | true => exact absurd (hmover.1.symm.trans (hnew hclears)) (by decide)
  have hholds := hs.holds i
  refine hs.frame (.refl _) ⟨fun hmover => ?_, hholds.2⟩ hfits fun hmover hclears => ?_
  · exact (BankPhase.moved_iff (hidle hmover)).mpr
      ((BankPhase.moved_iff hphase).mp (hholds.1 hmover))
  · rw [hidle hmover] at hclears
    cases hclears

theorem findOwn_eq_some {o accountId : String} {account : ρ}
    (howners : s.accounts.Fixed T.owner) (h : s.findOwn T o accountId i = some account) :
    s.accounts.Has T.owner accountId o := by
  obtain ⟨hfound, howner⟩ := Option.filter_eq_some_iff.mp h
  obtain ⟨slot, hslot, hseen⟩ := Option.bind_eq_some_iff.mp hfound
  have hmem := List.mem_of_find?_eq_some hslot
  obtain ⟨x, hx⟩ := howners slot hmem
  obtain rfl : T.owner account = o := of_decide_eq_true howner
  refine ⟨slot, hmem, by simpa using List.find?_some hslot, ?_⟩
  rwa [hx.seen i account hseen]

theorem Inv.statement (hs : s.Inv T owner calls) (i : ι) (hapart : Apart T calls s (.statement i)) :
    StepsTo T owner calls s (s.statement T (calls i) i) := by
  have htransaction := hs.transaction i hapart
  have hahead {phase : BankPhase ρ} (hphase : (s.phases i).clears = false)
      (hnew : phase.clears = true → (calls i).moves = false)
      (hfits : phase.Of T (calls i) s.accounts) : StepsTo T owner calls s (s.setPhase i phase) :=
    hs.ahead hphase hnew hfits
  cases hcall : calls i with
  | addBankAccount o data accountId resolved =>
    rw [hcall] at htransaction hahead
    rw [BankState.statement, addBankAccount.eq_def]
    cases hphase : s.phases i with
    | start =>
      dsimp only
      split
      · exact hs.fail i _
      · exact hahead (by rw [hphase]; rfl) (fun hclears => by cases hclears) trivial
    | resolving =>
      cases resolved with
      | error message => exact hs.fail i _
      | ok accountName =>
        have hof : AccountWrite.Of T (.addBankAccount o data accountId (.ok accountName))
            s.accounts (.create accountId (T.newAccount o accountId accountName data)) :=
          ⟨T.owner_newAccount _ _ _ _, T.isPrimary_newAccount _ _ _ _⟩
        dsimp only
        split
        · rename_i hprimary
          exact hahead (by rw [hphase]; rfl) (fun hclears => by cases hclears) ⟨hprimary, hof⟩
        · rename_i hprimary
          exact hahead (by rw [hphase]; rfl) (fun _ => by simpa [BankCall.moves] using hprimary) hof
    | _ => exact htransaction
  | switchPrimaryBankAccount o accountId =>
    rw [hcall] at htransaction hahead
    rw [BankState.statement, switchPrimaryBankAccount]
    cases hphase : s.phases i with
    | start =>
      dsimp only
      split
      · exact hs.fail i _
      · rename_i account hfound
        split
        · exact hahead (by rw [hphase]; rfl) (fun hclears => by cases hclears) trivial
        · exact hahead (by rw [hphase]; rfl) (fun hclears => by cases hclears)
            ⟨rfl, rfl, findOwn_eq_some hs.owners hfound⟩
    | _ => exact htransaction
  | removeBankAccount o accountId activeTransfer =>
    rw [hcall] at htransaction hahead
    rw [BankState.statement, removeBankAccount]
    cases hphase : s.phases i with
    | start =>
      dsimp only
      split
      · exact hs.fail i _
      · split
        · exact hs.fail i _
        · exact hahead (by rw [hphase]; rfl) (fun hclears => by cases hclears) trivial
    | transfers =>
      dsimp only
      split
      · exact hs.fail i _
      · exact hahead (by rw [hphase]; rfl) (fun _ => rfl) rfl
    | _ => exact htransaction

theorem Inv.step (hs : s.Inv T owner calls) (e : BankEvent ι) (hapart : Apart T calls s e) :
    StepsTo T owner calls s (BankState.step T calls s e) := by
  cases e with
  | statement i => exact hs.statement i hapart
  | abort i =>
    rw [BankState.step]
    split
    · exact hs.stay
    · exact hs.fail i _

theorem Fresh.inv (hfresh : s.Fresh) : s.Inv T owner calls where
  owners slot hslot := by
    cases hstored : slot.stored with
    | none =>
      refine ⟨"", fun r hr => ?_, fun change hchange => ?_⟩
      · rw [hstored] at hr
        cases hr
      · rw [hfresh.rows slot hslot] at hchange
        cases hchange
    | some account =>
      refine ⟨T.owner account, fun r hr => ?_, fun change hchange => ?_⟩
      · rw [hstored] at hr
        cases hr
        rfl
      · rw [hfresh.rows slot hslot] at hchange
        cases hchange
  fits i := by
    rw [hfresh.phases i]
    trivial
  holds i := by
    refine BankPhase.holds_of_unwritten (fun slot hslot hwriter => ?_) (by rw [hfresh.phases i]; rfl)
    rw [Slot.writer, hfresh.rows slot hslot] at hwriter
    cases hwriter
  alone i _ _ _ _ hclears := by
    rw [hfresh.phases i] at hclears
    cases hclears

end steps

/-- In runs in which the transactions that move the flag of an owner are apart, and no account
is deleted after it has become primary, no owner has two primary accounts, and one that has a
primary account always has one. -/
theorem one_primary_account {ι ρ : Type} [DecidableEq ι] (T : AccountTable ρ)
    (calls : ι → BankCall) (s : BankState ι ρ) (hfresh : s.Fresh)
    (hone : ∀ owner, s.primaries T owner ≤ 1) (events : List (BankEvent ι))
    (h : Along (step T calls) (Apart T calls) s events) :
    Throughout (step T calls) (fun s => ∀ owner, s.primaries T owner ≤ 1) s events ∧
      Along (step T calls) (fun s e => ∀ owner, s.primaries T owner = 1 →
        (step T calls s e).primaries T owner = 1) s events := by
  have hinv : Throughout (step T calls) (fun s => ∀ owner, s.Inv T owner calls ∧
      s.primaries T owner ≤ 1) s events :=
    h.throughout (fun s e hs hapart owner => by
      obtain ⟨hnext, hcount⟩ := (hs owner).1.step e hapart
      refine ⟨hnext, ?_⟩
      have hle := (hs owner).2
      omega) fun owner => ⟨hfresh.inv, hone owner⟩
  refine ⟨hinv.imp fun s hs owner => (hs owner).2, ?_⟩
  refine (along_and.mpr ⟨hinv.along, h⟩).imp fun s e hand owner hsome => ?_
  obtain ⟨-, hcount⟩ := (hand.1 owner).1.step e hand.2
  omega

end BankState

def primaryAccount (owner accountId accountNumber : String) : BankCall :=
  .addBankAccount owner ⟨"Bank", "058", accountNumber, true⟩ accountId (.ok "Name")

def bankStatements {ι : Type} (i : ι) (n : ℕ) : List (BankEvent ι) := List.replicate n (.statement i)

def noAccounts (ι : Type) : BankState ι MarketerBankAccount :=
  ⟨⟨[], List.nodup_nil⟩, fun _ => .start⟩

/-- Two new accounts, of which the second becomes primary and the first is removed. -/
def successiveCalls : Option Bool → BankCall
  | none => primaryAccount "mia" "a" "0123456789"
  | some true => primaryAccount "mia" "b" "9876543210"
  | some false => .removeBankAccount "mia" "a" false

theorem successiveCalls_one_primary :
    Throughout (BankState.step BankAccountService.accounts successiveCalls)
        (fun s => ∀ owner, s.primaries BankAccountService.accounts owner ≤ 1)
        (noAccounts (Option Bool))
        (bankStatements none 6 ++ bankStatements (some true) 6 ++ bankStatements (some false) 4) ∧
      Along (BankState.step BankAccountService.accounts successiveCalls)
        (fun s e => ∀ owner, s.primaries BankAccountService.accounts owner = 1 →
          (BankState.step BankAccountService.accounts successiveCalls s e).primaries
            BankAccountService.accounts owner = 1)
        (noAccounts (Option Bool))
        (bankStatements none 6 ++ bankStatements (some true) 6 ++ bankStatements (some false) 4) :=
  BankState.one_primary_account BankAccountService.accounts successiveCalls (noAccounts (Option Bool))
    ⟨fun _ => rfl, fun _ hslot => by cases hslot⟩ (fun _ => Nat.zero_le 1) _ (by decide +kernel)

def bothPrimary : Bool → BankCall
  | true => primaryAccount "mia" "a" "0123456789"
  | false => primaryAccount "mia" "b" "9876543210"

/-- A company with a primary account and another one -/
def twoAccounts : Heap Bool String CompanyBankAccount where
  slots :=
    [{ key := "a"
       stored := some { accountId := "a", companyId := "shop", bankCode := "058"
                        accountName := "Shop", accountNumber := "0123456789", isPrimary := true } },
      { key := "b"
        stored := some { accountId := "b", companyId := "shop", bankCode := "058"
                         accountName := "Shop", accountNumber := "9876543210" } }]
  unique := by decide

def switchedWhileRemoved : Bool → BankCall
  | true => .removeBankAccount "shop" "b" false
  | false => .switchPrimaryBankAccount "shop" "b"

/-- Two accounts are primary when both calls clear the flags in front of the other's insertion,
and none is when the account to be removed becomes primary in front of the DELETE. -/
theorem primary_doubled_and_lost :
    (run (BankState.step BankAccountService.accounts bothPrimary) (noAccounts Bool)
        (bankStatements true 4 ++ bankStatements false 4 ++ bankStatements true 2 ++
          bankStatements false 2)).primaries BankAccountService.accounts "mia" = 2 ∧
      (⟨twoAccounts, fun _ => .start⟩ : BankState Bool CompanyBankAccount).primaries
        CompanyBankAccountService.accounts "shop" = 1 ∧
      (run (BankState.step CompanyBankAccountService.accounts switchedWhileRemoved)
        ⟨twoAccounts, fun _ => .start⟩
        (bankStatements true 2 ++ bankStatements false 6 ++ bankStatements true 2)).primaries
          CompanyBankAccountService.accounts "shop" = 0 := by
  decide +kernel

end InstalFlow
