import InstalFlow.SubscriptionActivations
import InstalFlow.Transition.Outline

/-!
# One live subscription of a company

A verification expires the other subscriptions of the company and activates the
pending one; the renewal worker updates, by id, rows that it selected earlier. What
each of them has read stays true of its rows as long as no EXPIRED row is written,
and then two subscriptions of a company are never live together.
-/

namespace InstalFlow
open Relational Transition

def SubscriptionStatus.live (status : SubscriptionStatus) : Bool :=
  status ≠ .pending ∧ status ≠ .expired

/-- What may become of a subscription of the company while an operation runs. -/
structure CompanySubscription.Follows (companyId : String) (s s' : CompanySubscription) : Prop where
  sameId : s'.subscriptionId = s.subscriptionId
  sameCompany : s'.companyId = s.companyId
  pending : s.companyId = companyId → s'.status = .pending → s.status = .pending
  expired : s.companyId = companyId → s.status = .expired → s'.status = .expired

namespace CompanySubscription.Follows
variable {companyId : String} {r s t : CompanySubscription}

theorem rfl : s.Follows companyId s :=
  ⟨Eq.refl _, Eq.refl _, fun _ h => h, fun _ h => h⟩

theorem trans (hrs : r.Follows companyId s) (hst : s.Follows companyId t) :
    r.Follows companyId t where
  sameId := hst.sameId.trans hrs.sameId
  sameCompany := hst.sameCompany.trans hrs.sameCompany
  pending hr ht := hrs.pending hr (hst.pending (hrs.sameCompany.trans hr) ht)
  expired hr hexpired := hst.expired (hrs.sameCompany.trans hr) (hrs.expired hr hexpired)

end CompanySubscription.Follows

namespace Database

/-- Two subscriptions of the company that are live are one. -/
def OneLive (companyId : String) (db : Database) : Prop :=
  ∀ s ∈ db.companySubscriptions.rows, ∀ t ∈ db.companySubscriptions.rows,
    s.companyId = companyId → t.companyId = companyId →
    s.status.live = true → t.status.live = true → s.subscriptionId = t.subscriptionId

/-- The EXPIRED subscriptions of the company stay so. -/
def StaysExpired (companyId : String) (db db' : Database) : Prop :=
  ∀ s ∈ db.companySubscriptions.rows, s.companyId = companyId → s.status = .expired →
    ∀ s' ∈ db'.companySubscriptions.rows, s'.subscriptionId = s.subscriptionId →
      s'.status = .expired

/-- Each subscription of the company goes on, and a new one is there only when none
of the earlier ones is PENDING any more. -/
structure Follows (companyId : String) (db db' : Database) : Prop where
  keeps : ∀ s ∈ db.companySubscriptions.rows, ∃ s' ∈ db'.companySubscriptions.rows,
    s.Follows companyId s'
  new : ∀ t ∈ db'.companySubscriptions.rows, t.companyId = companyId →
    (∃ s ∈ db.companySubscriptions.rows, s.Follows companyId t) ∨
    ∀ s ∈ db.companySubscriptions.rows, s.companyId = companyId →
      ∀ s' ∈ db'.companySubscriptions.rows, s'.subscriptionId = s.subscriptionId →
        s'.status ≠ .pending

variable {companyId : String} {db db' db'' : Database}

/-- The row that a subscription has become. -/
theorem Follows.row (h : db.Follows companyId db') {s s' : CompanySubscription}
    (hs : s ∈ db.companySubscriptions.rows) (hs' : s' ∈ db'.companySubscriptions.rows)
    (hid : s'.subscriptionId = s.subscriptionId) : s.Follows companyId s' := by
  obtain ⟨t, ht, hfollows⟩ := h.keeps s hs
  have hsame : s' = t := Table.key_injective hs' ht (hid.trans hfollows.sameId.symm)
  exact hsame ▸ hfollows

theorem Follows.rfl : db.Follows companyId db :=
  ⟨fun s hs => ⟨s, hs, .rfl⟩, fun t ht _ => .inl ⟨t, ht, .rfl⟩⟩

theorem Follows.trans (h : db.Follows companyId db') (h' : db'.Follows companyId db'') :
    db.Follows companyId db'' := by
  refine ⟨fun s hs => ?_, fun t ht hcompany => ?_⟩
  · obtain ⟨s', hs', hfollows⟩ := h.keeps s hs
    obtain ⟨s'', hs'', hfollows'⟩ := h'.keeps s' hs'
    exact ⟨s'', hs'', hfollows.trans hfollows'⟩
  · rcases h'.new t ht hcompany with ⟨t', ht', hfollows'⟩ | hclosed
    · rcases h.new t' ht' (hfollows'.sameCompany.symm.trans hcompany) with ⟨s, hs, hfollows⟩ | hclosed
      · exact .inl ⟨s, hs, hfollows.trans hfollows'⟩
      · refine .inr fun s hs hs_company s'' hs'' hid hpending => ?_
        obtain ⟨s', hs', hfollows⟩ := h.keeps s hs
        have hlater := h'.row hs' hs'' (hid.trans hfollows.sameId.symm)
        refine hclosed s hs hs_company s' hs' hfollows.sameId ?_
        exact hlater.pending (hfollows.sameCompany.trans hs_company) hpending
    · refine .inr fun s hs hs_company s'' hs'' hid => ?_
      obtain ⟨s', hs', hfollows⟩ := h.keeps s hs
      exact hclosed s' hs' (hfollows.sameCompany.trans hs_company) s'' hs''
        (hid.trans hfollows.sameId.symm)

theorem follows_of_map {g : CompanySubscription → CompanySubscription}
    (hrows : db'.companySubscriptions.rows = db.companySubscriptions.rows.map g)
    (hg : ∀ s ∈ db.companySubscriptions.rows, s.Follows companyId (g s)) :
    db.Follows companyId db' := by
  refine ⟨fun s hs => ⟨g s, ?_, hg s hs⟩, fun t ht _ => ?_⟩
  · rw [hrows]
    exact List.mem_map_of_mem hs
  · rw [hrows] at ht
    obtain ⟨s, hs, rfl⟩ := List.mem_map.mp ht
    exact .inl ⟨s, hs, hg s hs⟩

theorem AddsPending.follows (h : db.AddsPending db') : db.Follows companyId db' := by
  obtain ⟨subscriptions, intents, rfl, rfl | ⟨t, ht, hnone, hcreate⟩⟩ := h
  · exact ⟨fun s hs => ⟨s, hs, .rfl⟩, fun u hu _ => .inl ⟨u, hu, .rfl⟩⟩
  · have hrows := (Table.create_eq_some hcreate).2
    refine ⟨fun s hs => ⟨s, ?_, .rfl⟩, fun u hu hcompany => ?_⟩
    · simp only [hrows]
      exact List.mem_append_left _ hs
    · simp only [hrows, List.mem_append, List.mem_singleton] at hu
      rcases hu with hu | rfl
      · exact .inl ⟨u, hu, .rfl⟩
      · refine .inr fun s hs hs_company s' hs' hid hpending => ?_
        have hfound := Table.find?_of_create hcreate (Table.find?_of_mem hs)
        have hsame : s' = s := by
          rw [← hid, Table.find?_of_mem hs', Option.some.injEq] at hfound
          exact hfound
        exact hnone s hs (hs_company.trans hcompany.symm) (hsame ▸ hpending)

theorem AddsPending.oneLive (h : db.AddsPending db') (hone : db.OneLive companyId) :
    db'.OneLive companyId := by
  obtain ⟨subscriptions, intents, rfl, rfl | ⟨u, hu, -, hcreate⟩⟩ := h
  · exact hone
  · have hrows := (Table.create_eq_some hcreate).2
    have hold {s : CompanySubscription} (hs : s ∈ subscriptions.rows)
        (hlive : s.status.live = true) : s ∈ db.companySubscriptions.rows := by
      rw [hrows, List.mem_append, List.mem_singleton] at hs
      rcases hs with hs | rfl
      · exact hs
      · rw [hu] at hlive
        cases hlive
    intro s hs t ht hs_company ht_company hs_live ht_live
    exact hone s (hold hs hs_live) t (hold ht ht_live) hs_company ht_company hs_live ht_live

end Database

/-- When the pending subscription is still PENDING, the verification expires all
others of the company that are not EXPIRED. -/
def VerifiedPayment.Covers (companyId : String) (db : Database) (v : VerifiedPayment) : Prop :=
  ∀ s ∈ db.companySubscriptions.rows,
    s.subscriptionId = v.pendingSubscription.subscriptionId → s.companyId = companyId →
    s.status = .pending → ∀ t ∈ db.companySubscriptions.rows, t.companyId = companyId →
      t.subscriptionId ≠ s.subscriptionId → t.status ≠ .expired → t.subscriptionId ∈ v.others

namespace SubscriptionWrite

/-- What is known of the subscriptions of the company when a statement is sent. -/
def Informed (companyId : String) (db : Database) : SubscriptionWrite → Prop
  | intent w => w.Subscribes
  | transitionTo subscriptionId status => (status = .gracePeriod ∨ status = .restricted) ∧
      ∀ s ∈ db.companySubscriptions.rows, s.subscriptionId = subscriptionId →
        s.companyId = companyId → s.status ≠ .pending
  | activate v => v.Covers companyId db

/-- The subscription that the statement makes live. -/
def enlivens (db : Database) : SubscriptionWrite → Option String
  | intent _ => none
  | transitionTo subscriptionId _ => some subscriptionId
  | activate v => ((activate v).activation db).map fun v => v.pendingSubscription.subscriptionId

/-- If the subscription that the statement makes live is one of the company, it is not EXPIRED. -/
def FindsUnexpired (companyId : String) (db : Database) (w : SubscriptionWrite) : Prop :=
  ∀ id ∈ w.enlivens db, ∀ s ∈ db.companySubscriptions.find? id, s.companyId = companyId →
    s.status ≠ .expired

end SubscriptionWrite

section steps
variable {companyId : String} {m : Moment} {db db' : Database} {w : SubscriptionWrite}

theorem Database.Follows.staysExpired (h : db.Follows companyId db') :
    db.StaysExpired companyId db' := by
  intro s hs hcompany hexpired s' hs' hid
  exact (h.row hs hs' hid).expired hcompany hexpired

/-- What a transition of the worker makes of a subscription. -/
def transitionedRow (subscriptionId : String) (status : SubscriptionStatus)
    (s : CompanySubscription) : CompanySubscription :=
  if s.subscriptionId = subscriptionId then s.withStatus status else s

theorem rows_transitionTo (subscriptionId : String) (status : SubscriptionStatus) :
    ((SubscriptionWrite.transitionTo subscriptionId status).execute m db).companySubscriptions.rows =
      db.companySubscriptions.rows.map (transitionedRow subscriptionId status) := by
  refine List.map_congr_left fun s _ => ?_
  simp only [decide_eq_true_eq]
  rfl

@[simp] theorem VerifiedPayment.onRow_subscriptionId (v : VerifiedPayment)
    (s : CompanySubscription) : (v.onRow s).subscriptionId = s.subscriptionId := by
  rw [onRow]
  split
  · rfl
  · split <;> rfl

@[simp] theorem VerifiedPayment.onRow_companyId (v : VerifiedPayment)
    (s : CompanySubscription) : (v.onRow s).companyId = s.companyId := by
  rw [onRow]
  split
  · rfl
  · split <;> rfl

/-- A verification commits, or leaves everything. -/
theorem rows_activate (m : Moment) (db : Database) (v : VerifiedPayment) :
    (SubscriptionWrite.activate v).execute m db = db ∨
      v.pendingSubscription.subscriptionId ∈ (SubscriptionWrite.activate v).enlivens db ∧
      ((SubscriptionWrite.activate v).execute m db).companySubscriptions.rows =
        db.companySubscriptions.rows.map v.onRow := by
  cases hactivation : (SubscriptionWrite.activate v).activation db with
  | none => exact .inl (SubscriptionWrite.execute_activate_of_none hactivation)
  | some u =>
    obtain ⟨hw, db', hcommit⟩ := SubscriptionWrite.activation_eq_some hactivation
    cases hw
    refine .inr ⟨?_, ?_⟩
    · rw [SubscriptionWrite.enlivens, hactivation]
      rfl
    · rw [SubscriptionWrite.execute, hcommit]
      exact VerifiedPayment.rows_commit hcommit

theorem follows_execute (hinformed : w.Informed companyId db)
    (hfinds : w.FindsUnexpired companyId db) : db.Follows companyId (w.execute m db) := by
  cases w with
  | intent w => exact (IntentWrite.addsPending_execute hinformed m db).follows
  | transitionTo subscriptionId status =>
    refine Database.follows_of_map (rows_transitionTo subscriptionId status) fun s hs => ?_
    rw [transitionedRow]
    split
    · rename_i hid
      refine ⟨rfl, rfl, fun _ hpending => ?_, fun hcompany hexpired => ?_⟩
      · have hpending : status = .pending := hpending
        rcases hinformed.1 with rfl | rfl <;> cases hpending
      · exact absurd hexpired (hfinds _ rfl s (hid ▸ Table.find?_of_mem hs) hcompany)
    · exact .rfl
  | activate v =>
    rcases rows_activate m db v with hsame | ⟨hid, hrows⟩
    · rw [hsame]
      exact .rfl
    · refine Database.follows_of_map hrows fun s hs => ?_
      rw [VerifiedPayment.onRow]
      split
      · rename_i hsid
        refine ⟨rfl, rfl, fun _ hpending => ?_, fun hcompany hexpired => ?_⟩
        · cases hpending
        · exact absurd hexpired (hfinds _ hid s (hsid ▸ Table.find?_of_mem hs) hcompany)
      · split
        · refine ⟨rfl, rfl, fun _ hpending => ?_, fun _ _ => rfl⟩
          cases hpending
        · exact .rfl

/-- The commit leaves one subscription live: what stays live is not among those that
it expires, and the activated one has been live alone or has had all others expired. -/
theorem VerifiedPayment.oneLive_onRow {v : VerifiedPayment} (hcovers : v.Covers companyId db)
    (hunexpired : ∀ s ∈ db.companySubscriptions.find? v.pendingSubscription.subscriptionId,
      s.companyId = companyId → s.status ≠ .expired) (hone : db.OneLive companyId)
    (hrows : db'.companySubscriptions.rows = db.companySubscriptions.rows.map v.onRow) :
    db'.OneLive companyId := by
  have hkept {s : CompanySubscription}
      (hne : s.subscriptionId ≠ v.pendingSubscription.subscriptionId)
      (hlive : (v.onRow s).status.live = true) :
      s.subscriptionId ∉ v.others ∧ s.status.live = true := by
    rw [onRow, if_neg hne] at hlive
    split at hlive
    · cases hlive
    · rename_i hkept
      exact ⟨hkept, hlive⟩
  have hactivated {s t : CompanySubscription} (hs : s ∈ db.companySubscriptions.rows)
      (ht : t ∈ db.companySubscriptions.rows) (hs_company : s.companyId = companyId)
      (ht_company : t.companyId = companyId)
      (hid : s.subscriptionId = v.pendingSubscription.subscriptionId)
      (hlive : (v.onRow t).status.live = true) : t.subscriptionId = s.subscriptionId := by
    by_contra hne
    obtain ⟨hothers, hlive⟩ := hkept (fun h => hne (h.trans hid.symm)) hlive
    by_cases hpending : s.status = .pending
    · refine hothers (hcovers s hs hid hs_company hpending t ht ht_company hne ?_)
      intro hexpired
      rw [hexpired] at hlive
      cases hlive
    · have hfound := hunexpired s (hid ▸ Table.find?_of_mem hs) hs_company
      refine hne (hone t ht s hs ht_company hs_company hlive ?_)
      simp [SubscriptionStatus.live, hpending, hfound]
  intro s hs t ht hs_company ht_company hs_live ht_live
  rw [hrows] at hs ht
  obtain ⟨r, hr, rfl⟩ := List.mem_map.mp hs
  obtain ⟨u, hu, rfl⟩ := List.mem_map.mp ht
  rw [onRow_companyId] at hs_company ht_company
  rw [onRow_subscriptionId, onRow_subscriptionId]
  by_cases hr_id : r.subscriptionId = v.pendingSubscription.subscriptionId
  · exact (hactivated hr hu hs_company ht_company hr_id ht_live).symm
  · by_cases hu_id : u.subscriptionId = v.pendingSubscription.subscriptionId
    · exact hactivated hu hr ht_company hs_company hu_id hs_live
    · exact hone r hr u hu hs_company ht_company (hkept hr_id hs_live).2 (hkept hu_id ht_live).2

theorem oneLive_execute (hinformed : w.Informed companyId db)
    (hfinds : w.FindsUnexpired companyId db) (hone : db.OneLive companyId) :
    (w.execute m db).OneLive companyId := by
  cases w with
  | intent w => exact (IntentWrite.addsPending_execute hinformed m db).oneLive hone
  | transitionTo subscriptionId status =>
    -- a row that is live afterwards has been live before
    have hbefore {s : CompanySubscription} (hs : s ∈ db.companySubscriptions.rows)
        (hcompany : (transitionedRow subscriptionId status s).companyId = companyId)
        (hlive : (transitionedRow subscriptionId status s).status.live = true) :
        s.companyId = companyId ∧ s.status.live = true ∧
          (transitionedRow subscriptionId status s).subscriptionId = s.subscriptionId := by
      rw [transitionedRow] at hcompany hlive ⊢
      split at hcompany
      · rename_i hid
        rw [if_pos hid]
        have hexpired := hfinds _ rfl s (hid ▸ Table.find?_of_mem hs) hcompany
        have hpending := hinformed.2 s hs hid hcompany
        exact ⟨hcompany, by simp [SubscriptionStatus.live, hexpired, hpending], rfl⟩
      · rename_i hid
        rw [if_neg hid] at hlive ⊢
        exact ⟨hcompany, hlive, rfl⟩
    intro s hs t ht hs_company ht_company hs_live ht_live
    rw [rows_transitionTo] at hs ht
    obtain ⟨r, hr, rfl⟩ := List.mem_map.mp hs
    obtain ⟨u, hu, rfl⟩ := List.mem_map.mp ht
    obtain ⟨hr_company, hr_live, hr_id⟩ := hbefore hr hs_company hs_live
    obtain ⟨hu_company, hu_live, hu_id⟩ := hbefore hu ht_company ht_live
    rw [hr_id, hu_id]
    exact hone r hr u hu hr_company hu_company hr_live hu_live
  | activate v =>
    rcases rows_activate m db v with hsame | ⟨hid, hrows⟩
    · rw [hsame]
      exact hone
    · exact VerifiedPayment.oneLive_onRow hinformed (hfinds _ hid) hone hrows

/-- Conversely, what it makes live has not stayed EXPIRED. -/
theorem findsUnexpired_of_staysExpired (hw : w.Subscribes)
    (hstays : db.StaysExpired companyId (w.execute m db)) : w.FindsUnexpired companyId db := by
  intro id hid s hs hcompany hexpired
  obtain rfl := Table.find?_key hs
  have hmem := Table.mem_of_find? hs
  cases w with
  | intent w => cases hid
  | transitionTo subscriptionId status =>
    cases hid
    have hafter : s.withStatus status ∈ ((SubscriptionWrite.transitionTo s.subscriptionId
        status).execute m db).companySubscriptions.rows := by
      rw [rows_transitionTo]
      exact List.mem_map.mpr ⟨s, hmem, if_pos rfl⟩
    have hstatus : status = .expired := hstays s hmem hcompany hexpired _ hafter rfl
    rcases hw with rfl | rfl <;> cases hstatus
  | activate v =>
    obtain ⟨u, hactivation, hid⟩ := Option.map_eq_some_iff.mp hid
    obtain ⟨hw, db', hcommit⟩ := SubscriptionWrite.activation_eq_some hactivation
    cases hw
    have hafter : SubscriptionService.activatedSubscription v.plan v.now s ∈
        ((SubscriptionWrite.activate v).execute m db).companySubscriptions.rows := by
      rw [SubscriptionWrite.execute, hcommit]
      refine (VerifiedPayment.rows_commit hcommit).symm ▸ List.mem_map.mpr ⟨s, hmem, ?_⟩
      exact if_pos hid.symm
    have hstatus : SubscriptionStatus.active = .expired :=
      hstays s hmem hcompany hexpired _ hafter rfl
    cases hstatus

end steps

/-- What was read when the others were matched still covers them at the commit. -/
theorem VerifiedPayment.covers_of_read {companyId : String} {db db' db'' : Database}
    {v : VerifiedPayment} (hmem : v.pendingSubscription ∈ db.companySubscriptions.rows)
    (hcompany : some v.pendingSubscription.companyId = v.intent.companyId)
    (h : db.Follows companyId db')
    (hothers : v.others = SubscriptionService.othersOf v.intent.companyId
      v.pendingSubscription.subscriptionId db')
    (h' : db'.Follows companyId db'') : v.Covers companyId db'' := by
  intro s hs hid hs_company hpending t ht ht_company hne hunexpired
  obtain ⟨p, hp, hread⟩ := h.keeps _ hmem
  have hlater := h'.row hp hs (hid.trans hread.sameId.symm)
  have hp_company : p.companyId = companyId := hlater.sameCompany.symm.trans hs_company
  rcases h'.new t ht ht_company with ⟨r, hr, hfollows⟩ | hclosed
  · rw [hothers, SubscriptionService.othersOf, hfollows.sameId]
    refine List.mem_map_of_mem (List.mem_filter.mpr ⟨hr, ?_⟩)
    have hr_company : r.companyId = companyId := hfollows.sameCompany.symm.trans ht_company
    refine decide_eq_true ⟨?_, fun hsame => hne ?_, fun hexpired => hunexpired ?_⟩
    · rw [← hcompany, hr_company, ← hp_company, hread.sameCompany]
    · rw [hfollows.sameId, hid, hsame]
    · exact hfollows.expired hr_company hexpired
  · exact absurd hpending (hclosed p hp hp_company s hs hlater.sameId)

namespace SubscriptionProgram

/-- Statements about intents that keep to `R`. -/
theorem reaches_ofIntent {α : Type} {R : Database → Database → Prop}
    {C : Database → Option SubscriptionWrite → Prop} {A : Database → SubscriptionWrite → Prop}
    {p : IntentProgram α} (hrefl : ∀ db, R db db) (htrans : ∀ {r s t}, R r s → R s t → R r t)
    (hA : ∀ db (w : IntentWrite), w.Subscribes → A db (.intent w))
    (hR : ∀ m db (w : IntentWrite), w.Subscribes → C db (some (.intent w)) →
      R db ((SubscriptionWrite.intent w).execute m db))
    (hp : Program.Sends IntentWrite.Subscribes p.run) (db : Database) :
    Program.Reaches SubscriptionWrite.execute R C A (fun db' _ => R db db') (ofIntent p) db := by
  have hsends : Program.Sends (fun w => ∃ v : IntentWrite, w = .intent v ∧ v.Subscribes)
      (ofIntent p).run :=
    sends_ofIntent (hp.imp fun v hv => ⟨v, rfl, hv⟩)
  refine Program.Outline.imp (fun _ _ h _ _ => h) (Program.Outline.of_sends hrefl htrans
    (fun db w hw => ?_) (fun m db w hw hC => ?_) hsends db)
  · obtain ⟨v, rfl, hv⟩ := hw
    exact hA db v hv
  · obtain ⟨v, rfl, hv⟩ := hw
    exact hR m db v hv hC

/-- What the program knows when it succeeds, while the others leave EXPIRED
subscriptions of the company EXPIRED; it sends informed statements only. -/
def Informs {α : Type} (companyId : String) (Q : Database → α → Prop) (p : SubscriptionProgram α)
    (db : Database) : Prop :=
  Program.Reaches SubscriptionWrite.execute (Database.Follows companyId)
    (fun db pending => ∀ w ∈ pending, w.FindsUnexpired companyId db)
    (SubscriptionWrite.Informed companyId) Q p db

namespace Informs
variable {α β : Type} {companyId : String} {Q : Database → α → Prop} {Q' : Database → β → Prop}
  {db : Database}

theorem bind {p : SubscriptionProgram α} {f : α → SubscriptionProgram β}
    (h : p.Informs companyId (fun db a => (f a).Informs companyId Q' db) db) :
    (p >>= f).Informs companyId Q' db :=
  Program.Reaches.bind h

theorem imp {p : SubscriptionProgram α} {P : Database → α → Prop} (hP : ∀ db a, P db a → Q db a)
    (h : p.Informs companyId P db) : p.Informs companyId Q db :=
  Program.Reaches.imp hP h

theorem discard {p : SubscriptionProgram α} {P : Database → Prop}
    (h : p.Informs companyId (fun db _ => P db) db) :
    (discard p).Informs companyId (fun db _ => P db) db :=
  Program.Reaches.map h

theorem select {f : Moment → Database → Except AppError α}
    (h : ∀ m db', db.Follows companyId db' → ∀ a, f m db' = .ok a → Q db' a) :
    (SubscriptionProgram.select f).Informs companyId Q db :=
  Program.Reaches.read h

theorem send {w : SubscriptionWrite} {f : Moment → Database → Except AppError α}
    (h : ∀ m db', db.Follows companyId db' → w.FindsUnexpired companyId db' →
      w.Informed companyId db' ∧ ∀ a, Q (w.execute m db') a) :
    (SubscriptionProgram.send w f).Informs companyId Q db := by
  refine Program.Reaches.write fun m db' hfollows hfinds => ?_
  obtain ⟨hinformed, hQ⟩ := h m db' hfollows (hfinds w rfl)
  exact ⟨hinformed, fun a _ => hQ a⟩

/-- Statements about intents. -/
theorem ofIntent {p : IntentProgram α} (hp : Program.Sends IntentWrite.Subscribes p.run) :
    (SubscriptionProgram.ofIntent p).Informs companyId (fun db' _ => db.Follows companyId db') db := by
  refine .imp (fun _ _ h => h) (reaches_ofIntent (fun _ => .rfl) .trans (fun db w hw => hw)
    (fun m db w hw hfinds => ?_) hp db)
  exact follows_execute (w := .intent w) hw (hfinds _ rfl)

end Informs

variable {companyId : String} (db : Database)

/-- A loop of the worker over rows that it has read not PENDING. -/
theorem informs_transitions {subs : List CompanySubscription} {status : SubscriptionStatus}
    (hstatus : status = .gracePeriod ∨ status = .restricted)
    (hread : ∀ sub ∈ subs, ∃ db₀ : Database, db₀.Follows companyId db ∧
      sub ∈ db₀.companySubscriptions.rows ∧ sub.status ≠ .pending) :
    (subs.forM fun sub => transitionTo sub.subscriptionId status).Informs companyId
      (fun _ _ => True) db := by
  refine .imp (fun _ _ _ => trivial) (Program.Reaches.forM (fun _ => .rfl) .trans
    fun sub hsub db₁ h₁ => Informs.send fun m db₂ h₂ hfinds => ?_)
  have hinformed : (SubscriptionWrite.transitionTo sub.subscriptionId status).Informed companyId
      db₂ := by
    obtain ⟨db₀, h₀, hmem, hunpending⟩ := hread sub hsub
    refine ⟨hstatus, fun s hs hid hcompany hpending => hunpending ?_⟩
    have hrow := ((h₀.trans h₁).trans h₂).row hmem hs hid
    exact hrow.pending (hrow.sameCompany.symm.trans hcompany) hpending
  exact ⟨hinformed, fun _ => h₂.trans (follows_execute hinformed hfinds)⟩

theorem processGracePeriodTransition_informs :
    SubscriptionRenewalWorker.processGracePeriodTransition.Informs companyId
      (fun _ _ => True) db := by
  refine .bind (.select fun _ db₁ _ now _ => .bind (.select fun _ db₂ _ subs hsubs => ?_))
  cases hsubs
  refine informs_transitions db₂ (.inl rfl) fun sub hsub => ⟨db₂, .rfl, ?_⟩
  obtain ⟨hmem, hlapsed⟩ := List.mem_filter.mp hsub
  have hactive : sub.status = .active := (of_decide_eq_true hlapsed).1
  exact ⟨hmem, by rw [hactive]; decide⟩

theorem processRestrictedTransition_informs :
    SubscriptionRenewalWorker.processRestrictedTransition.Informs companyId
      (fun _ _ => True) db := by
  refine .bind (.select fun _ db₁ _ now _ => .bind (.select fun _ db₂ _ subs hsubs =>
    .bind (.select fun _ db₃ h₃ due hdue => ?_)))
  cases hsubs
  cases hdue
  refine informs_transitions db₃ (.inr rfl) fun sub hsub => ⟨db₂, h₃, ?_⟩
  obtain ⟨hmem, hstatus⟩ := List.mem_filter.mp (List.mem_filter.mp hsub).1
  have hgrace : sub.status = .gracePeriod := of_decide_eq_true hstatus
  exact ⟨hmem, by rw [hgrace]; decide⟩

theorem verifySubscription_informs (reference : String) :
    (verifySubscription reference).Informs companyId (fun _ _ => True) db := by
  refine .bind (.select fun _ db₁ _ intent _ => .bind ?_)
  refine .imp (fun db₂ _ _ => ?_) (.discard (P := fun _ => True) (.select fun _ _ _ _ _ => trivial))
  refine .bind (.select fun _ db₃ _ plan _ => .bind (.select fun _ db₄ _ pending hpending => ?_))
  obtain ⟨hmem, hcompany, -⟩ := SubscriptionService.findPending_eq_ok hpending
  refine .bind (.select fun _ db₅ h₅ now _ => .bind (.select fun _ db₆ h₆ others hothers => ?_))
  cases hothers
  refine .bind (.imp (fun db₇ _ h₇ => ?_) (.discard (P := db₆.Follows companyId)
    (.select fun _ _ h _ _ => h)))
  refine .bind (.imp (fun db₈ _ h₈ => ?_) (.discard (P := db₇.Follows companyId)
    (.select fun _ _ h _ _ => h)))
  refine .bind (.imp (fun db₉ _ h₉ => ?_) (.discard (P := db₈.Follows companyId) (.ofIntent
    (IntentProgram.sends_transitionStatus (A := IntentWrite.Subscribes) trivial))))
  refine .bind (.imp (fun db₁₀ _ h₁₀ => ?_) (.discard (P := db₉.Follows companyId)
    (.select fun _ _ h _ _ => h)))
  refine .send fun m db₁₁ h₁₁ _ => ⟨?_, fun _ => trivial⟩
  have hlater := (((h₇.trans h₈).trans h₉).trans h₁₀).trans h₁₁
  exact VerifiedPayment.covers_of_read hmem hcompany (h₅.trans h₆) rfl hlater

end SubscriptionProgram

theorem SubscriptionOperation.informs (operation : SubscriptionOperation) (companyId : String)
    (db : Database) : operation.program.Informs companyId (fun _ _ => True) db := by
  rcases operation.program_cases with ⟨reference, rfl⟩ | rfl | rfl | ⟨p, hp, heq⟩
  · exact SubscriptionProgram.verifySubscription_informs db reference
  · exact SubscriptionProgram.processGracePeriodTransition_informs db
  · exact SubscriptionProgram.processRestrictedTransition_informs db
  · rw [heq]
    exact .imp (fun _ _ _ => trivial) (.ofIntent hp)

section interleaving
variable {ι : Type}

namespace SubscriptionThreads

/-- The statement of the step makes live no EXPIRED subscription of the company. -/
def FindsUnexpired (companyId : String) (c : SubscriptionThreads ι) (l : ι × Moment) : Prop :=
  ∀ w ∈ (c.threads l.1).pending, w.FindsUnexpired companyId c.shared

/-- All threads are informed about the subscriptions of the company. -/
structure Informed (companyId : String) (operations : ι → SubscriptionOperation)
    (c : SubscriptionThreads ι) : Prop where
  oneLive : c.shared.OneLive companyId
  sends : ∀ i, (c.threads i).Sends (operations i).Sent
  outlines : ∀ i, (c.threads i).Outline SubscriptionWrite.execute (Database.Follows companyId)
    (fun db pending => ∀ w ∈ pending, w.FindsUnexpired companyId db)
    (SubscriptionWrite.Informed companyId) (fun _ _ => True) c.shared

variable [DecidableEq ι] {companyId : String} {operations : ι → SubscriptionOperation}
  {c : SubscriptionThreads ι} {l : ι × Moment}

theorem Informed.next (h : c.Informed companyId operations) (hfinds : c.FindsUnexpired companyId l) :
    c.shared.Follows companyId (performSubscription c l).shared ∧
      (performSubscription c l).shared.OneLive companyId := by
  rw [performSubscription, perform_shared, Program.advance_shared]
  cases hw : (c.threads l.1).pending with
  | none => exact ⟨.rfl, h.oneLive⟩
  | some w =>
    have hinformed := (h.outlines l.1).pending (fun _ => .rfl) hfinds l.2 w hw
    have hunexpired := hfinds w hw
    exact ⟨follows_execute hinformed hunexpired, oneLive_execute hinformed hunexpired h.oneLive⟩

theorem Informed.step (h : c.Informed companyId operations) (hfinds : c.FindsUnexpired companyId l) :
    (performSubscription c l).Informed companyId operations where
  oneLive := (h.next hfinds).2
  sends := perform_sends h.sends l
  outlines := perform_outline (Q := fun _ _ _ => True) (fun _ => .rfl) .trans
    (fun _ {_ _ _} _ h => h) hfinds (h.next hfinds).1 h.outlines

theorem Informed.stays_iff (h : c.Informed companyId operations) :
    (performSubscription c l).shared.OneLive companyId ∧
      c.shared.StaysExpired companyId (performSubscription c l).shared ↔
    c.FindsUnexpired companyId l := by
  constructor
  · intro hstays w hw
    have hshared : (performSubscription c l).shared = w.execute l.2 c.shared := by
      rw [performSubscription, perform_shared, Program.advance_shared, Option.mem_def.mp hw]
      rfl
    exact findsUnexpired_of_staysExpired ((h.sends l.1).pending w hw).1 (hshared ▸ hstays.2)
  · intro hfinds
    exact ⟨(h.next hfinds).2, (h.next hfinds).1.staysExpired⟩

end SubscriptionThreads

variable [DecidableEq ι]

/-- However verifications, requests, renewals and transitions of intents are
interleaved, a company keeps to one live subscription and its EXPIRED ones stay so, in
exactly the interleavings in which no statement makes an EXPIRED one live. -/
theorem one_live_iff (companyId : String) (operations : ι → SubscriptionOperation)
    (db : Database) (hone : db.OneLive companyId) (schedule : List (ι × Moment)) :
    Along performSubscription (fun c l =>
      (performSubscription c l).shared.OneLive companyId ∧
        c.shared.StaysExpired companyId (performSubscription c l).shared)
      (launchSubscriptions operations db) schedule ↔
    Along performSubscription (SubscriptionThreads.FindsUnexpired companyId)
      (launchSubscriptions operations db) schedule := by
  refine along_iff_along (I := SubscriptionThreads.Informed companyId operations)
    (fun c l h => h.stays_iff) (fun c l h hfinds => h.step hfinds) ⟨hone, ?_, ?_⟩
  · exact fun i => (operations i).sends_sent
  · exact fun i => Program.Outline.imp (fun _ _ _ => trivial) ((operations i).informs companyId db)

end interleaving

instance (companyId : String) (db : Database) : Decidable (db.OneLive companyId) :=
  inferInstanceAs (Decidable (∀ s ∈ db.companySubscriptions.rows,
    ∀ t ∈ db.companySubscriptions.rows, s.companyId = companyId → t.companyId = companyId →
      s.status.live = true → t.status.live = true → s.subscriptionId = t.subscriptionId))

instance (companyId : String) (db db' : Database) : Decidable (db.StaysExpired companyId db') :=
  inferInstanceAs (Decidable (∀ s ∈ db.companySubscriptions.rows, s.companyId = companyId →
    s.status = .expired → ∀ s' ∈ db'.companySubscriptions.rows,
      s'.subscriptionId = s.subscriptionId → s'.status = .expired))

/-- A company that has paid for its renewal after its subscription has ended. -/
def overdueCompany : Database where
  companies := ⟨[{ companyId := "co", name := "Overdue company" }], by decide⟩
  subscriptionPlans := ⟨[{ planId := "yearly", name := "Yearly", price := 900 }], by decide⟩
  companySubscriptions := ⟨[{ subscriptionId := "ended", companyId := "co", planId := "yearly"
                              status := .active, endDate := some 5 },
                            { subscriptionId := "renewal", companyId := "co", planId := "yearly"
                              createdAt := 6 }], by decide⟩
  paymentIntents := ⟨[{ intentId := "renews", type := .subscription, reference := some "ref"
                        status := .pending, amount := 900, companyId := some "co"
                        planId := some "yearly", reservationKey := "SUBSCRIPTION:co"
                        idempotencyKey := "renews", expiresAt := 90 }], by decide⟩

def verifyWhileSweeping : Bool → SubscriptionOperation
  | true => .processGracePeriodTransition
  | false => .verifySubscription "ref"

/-- The worker selects the subscription, the verification expires it, the worker updates it. -/
def verifiedBetween : List (Bool × Moment) :=
  List.replicate 2 (true, subscriptionMoment) ++ List.replicate 12 (false, subscriptionMoment) ++
    [(true, subscriptionMoment)]

theorem expired_subscription_revived :
    overdueCompany.OneLive "co" ∧
    (run performSubscription (launchSubscriptions verifyWhileSweeping overdueCompany)
      verifiedBetween).shared.companySubscriptions.rows.map CompanySubscription.status =
        [.gracePeriod, .active] ∧
    ¬ Along performSubscription (fun c l =>
      (performSubscription c l).shared.OneLive "co" ∧
        c.shared.StaysExpired "co" (performSubscription c l).shared)
      (launchSubscriptions verifyWhileSweeping overdueCompany) verifiedBetween := by
  refine ⟨?_, ?_, ?_⟩ <;> decide +kernel

instance (companyId : String) (db : Database) (w : SubscriptionWrite) :
    Decidable (w.FindsUnexpired companyId db) :=
  inferInstanceAs (Decidable (∀ id ∈ w.enlivens db, ∀ s ∈ db.companySubscriptions.find? id,
    s.companyId = companyId → s.status ≠ .expired))

instance {ι : Type} (companyId : String) (c : SubscriptionThreads ι) (l : ι × Moment) :
    Decidable (c.FindsUnexpired companyId l) :=
  inferInstanceAs (Decidable (∀ w ∈ (c.threads l.1).pending, w.FindsUnexpired companyId c.shared))

/-- With the update of the worker in front of the verification nothing is revived. -/
theorem one_live_sweptFirst :
    Along performSubscription (fun c l =>
      (performSubscription c l).shared.OneLive "co" ∧
        c.shared.StaysExpired "co" (performSubscription c l).shared)
      (launchSubscriptions verifyWhileSweeping overdueCompany)
      (List.replicate 3 (true, subscriptionMoment) ++
        List.replicate 12 (false, subscriptionMoment)) :=
  (one_live_iff "co" verifyWhileSweeping overdueCompany (by decide +kernel) _).mpr
    (by decide +kernel)

end InstalFlow
