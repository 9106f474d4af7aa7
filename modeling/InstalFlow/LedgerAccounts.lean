import InstalFlow.LedgerTransactions

/-!
# One account for each name of a company

The unique index keeps the accounts of a company apart in every interleaving, since an
insert beside an uncommitted one waits. It never compares system-wide accounts: two
transactions that both miss one each create it, and which of them commits last splits
the balance.
-/

namespace InstalFlow
open Relational Transition LedgerService

namespace LedgerState
variable {ι : Type} [DecidableEq ι] {data : ι → LedgerTransaction} {s s' : LedgerState ι} {i j : ι}

/-- What a call that is about to write has read. -/
def Reads (data : LedgerTransaction) (i : ι) (accounts : List (Version ι AccountRow)) :
    LedgerPhase → Prop
  | .missing _ entry _ => ∀ a ∈ Versions.written i accounts, a.key ≠ data.keyOf entry
  | .found accountId _ _ entry _ =>
    ∃ a ∈ Versions.seen i accounts, a.id = accountId ∧ a.key = data.keyOf entry
  | _ => True

/-- The account of an entry is committed, or written by the same transaction. -/
def Accounted (accounts : List (Version ι AccountRow)) (v : Version ι PostedEntry) : Prop :=
  ∃ w ∈ accounts, (w.writer = none ∨ w.writer = v.writer) ∧ w.row.id = v.row.ledgerAccountId ∧
    w.row.key = v.row.key

structure Sound (data : ι → LedgerTransaction) (s : LedgerState ι) : Prop where
  indexed : Versions.Indexed AccountRow.unique s.accounts
  ids : (s.accounts.map fun v => v.row.id).Nodup
  fresh : ∀ v ∈ s.accounts, v.row.id < s.nextId
  written : ∀ i, ((Versions.written i s.accounts).map AccountRow.key).Nodup
  reads : ∀ i, Reads (data i) i s.accounts (s.phases i)
  accounted : ∀ v ∈ s.entries, Accounted s.accounts v
  balances : ∀ accountId, s.balance accountId = posted accountId (Versions.committed s.entries)

/-- Whoever reads keeps what it has read, while another transaction adds, commits or
takes back rows of its own. -/
theorem reads_mono {accounts accounts' : List (Version ι AccountRow)} {phase : LedgerPhase}
    {data : LedgerTransaction} (h : Reads data j accounts phase)
    (hwritten : Versions.written j accounts' = Versions.written j accounts)
    (hcommitted : ∀ a ∈ Versions.committed accounts, a ∈ Versions.committed accounts') :
    Reads data j accounts' phase := by
  cases phase with
  | missing line entry entries =>
    rw [Reads, hwritten]
    exact h
  | found accountId type line entry entries =>
    obtain ⟨a, ha, hid, hkey⟩ := h
    refine ⟨a, Versions.mem_seen.mpr ?_, hid, hkey⟩
    rw [hwritten]
    exact (Versions.mem_seen.mp ha).imp (hcommitted a) id
  | start | posting | committed | failed => trivial

theorem reads_update {accounts' : List (Version ι AccountRow)} {phase : LedgerPhase}
    (h : s.Sound data) (hphase : Reads (data i) i accounts' phase)
    (hwritten : ∀ j, j ≠ i → Versions.written j accounts' = Versions.written j s.accounts)
    (hcommitted : ∀ a ∈ Versions.committed s.accounts, a ∈ Versions.committed accounts') (j : ι) :
    Reads (data j) j accounts' (Function.update s.phases i phase j) := by
  by_cases hj : j = i
  · subst hj
    rw [Function.update_self]
    exact hphase
  · rw [Function.update_of_ne hj]
    exact reads_mono (h.reads j) (hwritten j hj) hcommitted

section phases

theorem setPhase_sound (h : s.Sound data) {phase : LedgerPhase}
    (hphase : Reads (data i) i s.accounts phase) : (s.setPhase i phase).Sound data := by
  exact ⟨h.indexed, h.ids, h.fresh, h.written, reads_update h hphase (fun _ _ => rfl) fun _ => id,
    h.accounted, h.balances⟩

theorem begin_sound (h : s.Sound data) : (s.begin (data i) i).Sound data := by
  rw [begin]
  split
  · exact setPhase_sound h trivial
  · split
    · exact h
    · exact ⟨h.indexed, h.ids, h.fresh, h.written,
        reads_update h trivial (fun _ _ => rfl) fun _ => id, h.accounted, h.balances⟩

theorem lookUp_sound (h : s.Sound data) (line : ℕ) (entry : LedgerEntry)
    (entries : List LedgerEntry) : (s.lookUp (data i) i line entry entries).Sound data := by
  rw [lookUp]
  split
  · rename_i a hfind
    rw [findAccount] at hfind
    refine setPhase_sound h ⟨a, List.mem_of_find?_eq_some hfind, rfl, ?_⟩
    exact of_decide_eq_true (List.find?_some hfind :)
  · rename_i hfind
    refine setPhase_sound h fun a ha hkey => ?_
    exact List.find?_eq_none.mp hfind a (Versions.mem_seen.mpr (.inr ha)) (decide_eq_true hkey)

end phases

theorem rollback_sound (h : s.Sound data) (i : ι) (err : AppError) :
    (s.rollback i err).Sound data := by
  constructor
  · exact h.indexed.rollback
  · exact h.ids.sublist (List.filter_sublist.map _)
  · exact fun v hv => h.fresh v (List.mem_of_mem_filter hv)
  · intro j
    by_cases hj : j = i
    · subst hj
      rw [rollback, Versions.written_rollback_self]
      exact List.nodup_nil
    · rw [rollback, Versions.written_rollback_of_ne hj]
      exact h.written j
  · refine reads_update h trivial (fun j hj => Versions.written_rollback_of_ne hj) fun a ha => ?_
    rwa [rollback, Versions.committed_rollback]
  · intro v hv
    obtain ⟨hv, hwriter⟩ := List.mem_filter.mp hv
    obtain ⟨w, hw, hof, hsame⟩ := h.accounted v hv
    refine ⟨w, List.mem_filter.mpr ⟨hw, ?_⟩, hof, hsame⟩
    -- A row that an entry of another transaction belongs to is not taken back.
    rcases hof with hnone | hvw
    · rw [hnone]
      rfl
    · rw [hvw]
      exact hwriter
  · intro accountId
    rw [rollback, Versions.committed_rollback]
    exact h.balances accountId

theorem createAccount_sound (h : s.Sound data) {line : ℕ} {entry : LedgerEntry}
    {entries : List LedgerEntry} (hphase : s.phases i = .missing line entry entries) :
    (s.createAccount (data i) i line entry entries).Sound data := by
  have hmissing := h.reads i
  rw [hphase] at hmissing
  rw [createAccount]
  split
  · exact h
  · exact rollback_sound h i _
  · rename_i hinserted
    constructor
    · exact h.indexed.insert hinserted
    · rw [Versions.insert, List.map_append]
      refine List.nodup_append.mpr ⟨h.ids, List.nodup_singleton _, fun k hk l hl => ?_⟩
      obtain ⟨v, hv, rfl⟩ := List.mem_map.mp hk
      rw [List.mem_singleton.mp hl]
      exact (h.fresh v hv).ne
    · intro v hv
      rcases List.mem_append.mp hv with hv | hv
      · exact (h.fresh v hv).trans (Nat.lt_succ_self _)
      · rw [List.mem_singleton.mp hv]
        exact Nat.lt_succ_self _
    · intro j
      by_cases hj : j = i
      · subst hj
        rw [Versions.written_insert_self, List.map_append]
        refine List.nodup_append.mpr ⟨h.written j, List.nodup_singleton _, fun k hk l hl => ?_⟩
        obtain ⟨a, ha, rfl⟩ := List.mem_map.mp hk
        rw [List.mem_singleton.mp hl]
        exact hmissing a ha
      · rw [Versions.written_insert_of_ne hj]
        exact h.written j
    · refine reads_update h ?_ (fun j hj => Versions.written_insert_of_ne hj) fun a ha => ?_
      · refine ⟨_, Versions.mem_seen.mpr (.inr ?_), rfl, rfl⟩
        rw [Versions.written_insert_self]
        exact List.mem_append_right _ (List.mem_singleton_self _)
      · rwa [Versions.committed_insert]
    · intro v hv
      obtain ⟨w, hw, hof, hsame⟩ := h.accounted v hv
      exact ⟨w, List.mem_append_left _ hw, hof, hsame⟩
    · exact h.balances

theorem post_sound (h : s.Sound data) {accountId : ℕ} {type : AccountType} {line : ℕ}
    {entry : LedgerEntry} {entries : List LedgerEntry}
    (hphase : s.phases i = .found accountId type line entry entries) :
    (s.post (data i) i accountId type line entry entries).Sound data := by
  have hfound := h.reads i
  rw [hphase] at hfound
  obtain ⟨a, ha, hid, hkey⟩ := hfound
  rw [post]
  split
  · exact h
  · refine ⟨h.indexed, h.ids, h.fresh, h.written,
      reads_update h trivial (fun _ _ => rfl) fun _ => id, fun v hv => ?_, fun id => ?_⟩
    · rcases List.mem_append.mp hv with hv | hv
      · exact h.accounted v hv
      · rw [List.mem_singleton.mp hv]
        rcases Versions.mem_seen.mp ha with hc | hw
        · exact ⟨_, Versions.mem_committed.mp hc, .inl rfl, hid, hkey⟩
        · exact ⟨_, Versions.mem_written.mp hw, .inr rfl, hid, hkey⟩
    · rw [Versions.committed_insert]
      exact h.balances id

theorem commit_sound (h : s.Sound data) (d : LedgerTransaction) (i : ι) :
    (s.commit d i).Sound data := by
  have hcommit {ρ : Type} {v : Version ι ρ} {vs : List (Version ι ρ)} (hv : v ∈ vs) :
      (if v.writer = some i then { v with writer := none } else v) ∈ Versions.commit i vs :=
    List.mem_map_of_mem hv
  constructor
  · exact h.indexed.commit
  · rw [commit, Versions.map_row_commit]
    exact h.ids
  · intro v hv
    obtain ⟨w, hw, rfl⟩ := List.mem_map.mp hv
    have hfresh := h.fresh w hw
    split
    · exact hfresh
    · exact hfresh
  · intro j
    by_cases hj : j = i
    · subst hj
      rw [commit, Versions.written_commit_self]
      exact List.nodup_nil
    · rw [commit, Versions.written_commit_of_ne hj]
      exact h.written j
  · refine reads_update h trivial (fun j hj => Versions.written_commit_of_ne hj) fun a ha => ?_
    rw [commit, Versions.committed_commit]
    exact Versions.mem_seen.mpr (.inl ha)
  · intro v hv
    obtain ⟨u, hu, rfl⟩ := List.mem_map.mp hv
    obtain ⟨w, hw, hof, hid, hkey⟩ := h.accounted u hu
    refine ⟨_, hcommit hw, ?_, ?_, ?_⟩
    · -- The two rows are of one transaction, which commits them together or not at all.
      by_cases hui : u.writer = some i
      · rcases hof with hnone | hsame
        · simp [hnone]
        · simp [hsame, hui]
      · rcases hof with hnone | hsame
        · simp [hnone]
        · simp [hsame, hui]
    · split <;> split <;> exact hid
    · split <;> split <;> exact hkey
  · intro accountId
    have hseen : posted accountId (Versions.seen i s.entries) =
        posted accountId (Versions.committed s.entries) +
          posted accountId (Versions.written i s.entries) :=
      Versions.sum_seen _ _ s.entries i
    rw [commit, Versions.committed_commit, hseen, ← h.balances accountId]

theorem step_sound (h : s.Sound data) (e : LedgerEvent ι) : (s.step data e).Sound data := by
  cases e with
  | statement i =>
    rw [step, statement]
    split
    · exact begin_sound h
    · exact commit_sound h (data i) i
    · exact lookUp_sound h _ _ _
    · rename_i hphase
      exact createAccount_sound h hphase
    · rename_i hphase
      exact post_sound h hphase
    · exact h
    · exact h
  | abort i =>
    rw [step]
    split
    · exact h
    · exact rollback_sound h i _

/-- With one account for each name of a company, each entry is in the balance of its account. -/
theorem oneBalance_iff (h : s.Sound data) :
    s.OneBalance ↔ ((Versions.committed s.accounts).map AccountRow.key).Nodup := by
  refine ⟨OneBalance.accounts, fun hone => ⟨hone, fun a ha => ?_⟩⟩
  have hrow := Versions.mem_committed.mp ha
  have hsame : ∀ e ∈ Versions.committed s.entries,
      decide (e.ledgerAccountId = a.id) = decide (e.key = a.key) := by
    intro e he
    obtain ⟨w, hw, hof, hid, hkey⟩ := h.accounted _ (Versions.mem_committed.mp he)
    have hnone : w.writer = none := hof.elim id id
    rw [decide_eq_decide, ← hid, ← hkey]
    constructor
    · intro hids
      rw [List.inj_on_of_nodup_map h.ids hw hrow hids]
    · intro hkeys
      obtain ⟨writer, row⟩ := w
      obtain rfl : writer = none := hnone
      rw [List.inj_on_of_nodup_map hone (Versions.mem_committed.mpr hw) ha hkeys]
  rw [h.balances a.id, posted, List.filter_congr hsame]

theorem commit_oneBalance_iff (h : s.Sound data) (hone : s.OneBalance) (d : LedgerTransaction)
    (i : ι) : (s.commit d i).OneBalance ↔ ∀ a ∈ Versions.written i s.accounts,
      a.companyId = none → ∀ b ∈ Versions.committed s.accounts, b.companyId = none →
        a.name ≠ b.name := by
  rw [oneBalance_iff (commit_sound h d i), commit, Versions.committed_commit,
    Versions.nodup_seen_iff hone.accounts (h.written i)]
  constructor
  · intro hne a ha hnull b hb hnull' hname
    exact hne a ha b hb (Prod.ext hname (hnull.trans hnull'.symm))
  · intro hne a ha b hb hkey
    obtain ⟨hname, hcompany⟩ := Prod.ext_iff.mp hkey
    cases hnull : a.companyId with
    | none => exact hne a ha hnull b hb (hcompany.symm.trans hnull) hname
    | some companyId =>
      -- The index has compared the two rows.
      have hunique : a.unique = some (a.name, companyId) := by rw [AccountRow.unique, hnull]; rfl
      refine h.indexed.ne (Versions.mem_written.mp ha) (Versions.mem_committed.mp hb) ?_ hunique ?_
      · intro hsame
        cases congrArg Version.writer hsame
      · rw [← hunique, AccountRow.unique, AccountRow.unique, ← show a.name = b.name from hname,
          ← show a.companyId = b.companyId from hcompany]

/-- Of all statements, the last one of a transaction changes what is committed. -/
theorem statement_cases (d : LedgerTransaction) (i : ι) (s : LedgerState ι) :
    ((s.phases i).committing = true ∧ s.statement d i = s.commit d i) ∨
      ((s.phases i).committing = false ∧
        Versions.committed (s.statement d i).accounts = Versions.committed s.accounts) := by
  rw [statement]
  cases s.phases i with
  | posting line entries =>
    cases entries with
    | nil => exact .inl ⟨rfl, rfl⟩
    | cons entry entries =>
      refine .inr ⟨rfl, ?_⟩
      simp only [lookUp]
      split <;> rfl
  | start =>
    refine .inr ⟨rfl, ?_⟩
    simp only [begin]
    split
    · rfl
    · split <;> rfl
  | missing line entry entries =>
    refine .inr ⟨rfl, ?_⟩
    simp only [createAccount]
    split
    · rfl
    · exact Versions.committed_rollback
    · exact Versions.committed_insert
  | found accountId type line entry entries =>
    refine .inr ⟨rfl, ?_⟩
    simp only [post]
    split <;> rfl
  | committed | failed => exact .inr ⟨rfl, rfl⟩

theorem step_oneBalance_iff (h : s.Sound data) (hone : s.OneBalance) (e : LedgerEvent ι) :
    (s.step data e).OneBalance ↔ s.CommitsNewNames e := by
  have hsame {t : LedgerState ι} (ht : t.Sound data)
      (hcommitted : Versions.committed t.accounts = Versions.committed s.accounts) :
      t.OneBalance := by
    rw [oneBalance_iff ht, hcommitted]
    exact hone.accounts
  cases e with
  | statement i =>
    rcases statement_cases (data i) i s with ⟨hlast, hcommit⟩ | ⟨hlast, hcommitted⟩
    · rw [step, hcommit, commit_oneBalance_iff h hone, CommitsNewNames, imp_iff_right hlast]
    · exact iff_of_true (hsame (step_sound h (.statement i)) hcommitted) fun hphase =>
        absurd (hlast.symm.trans hphase) Bool.false_ne_true
  | abort i =>
    refine iff_of_true (hsame (step_sound h (.abort i)) ?_) trivial
    rw [step]
    split
    · rfl
    · exact Versions.committed_rollback

end LedgerState

/-- Two payments of a day, the second by another worker. -/
def paidBeside (companyId : Option String) (second : Bool) : LedgerTransaction where
  reference := if second then "PSK-2" else "PSK-1"
  description := "Installment payment"
  companyId := companyId
  entries := [{ accountName := "PAYSTACK_CLEARING", accountType := .asset, debit := 100 },
    { accountName := "CUSTOMER_RECEIVABLE", accountType := .asset, credit := 100 }]

/-- Both look the first account up before either has created it. -/
def lookedUpTogether : List (LedgerEvent Bool) :=
  [.statement false, .statement true, .statement false, .statement true] ++
    (List.replicate 6 (.statement false) ++ List.replicate 6 (.statement true))

theorem unrecorded_sound (companyId : Option String) :
    LedgerState.Sound (paidBeside companyId) {} ∧ LedgerState.OneBalance ({} : LedgerState Bool) :=
  ⟨⟨.nil, .nil, fun _ hv => absurd hv List.not_mem_nil, fun _ => .nil, fun _ => trivial,
    fun _ hv => absurd hv List.not_mem_nil, fun _ => rfl⟩,
    ⟨.nil, fun _ ha => absurd ha List.not_mem_nil⟩⟩

end InstalFlow
