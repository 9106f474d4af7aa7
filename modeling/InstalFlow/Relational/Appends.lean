import InstalFlow.Relational.Table
import Mathlib.Data.List.Nodup

/-!
# Rows created one after the other

A list of rows is created as a whole when its keys are distinct and none is taken; otherwise
the first duplicate stops it. The result is the table with the list behind it.
-/

namespace Relational.Table
variable {κ ρ : Type*} {key : ρ → κ} {t u : Table key} {r : ρ} {rs : List ρ} [DecidableEq κ]

def createList (t : Table key) : List ρ → Option (Table key)
  | [] => some t
  | r :: rs => (t.create r).bind fun t => createList t rs

theorem create_eq_some_iff :
    t.create r = some u ↔ key r ∉ t.rows.map key ∧ u.rows = t.rows ++ [r] := by
  constructor
  · intro h
    obtain ⟨hnone, hrows⟩ := create_eq_some h
    refine ⟨fun hmem => ?_, hrows⟩
    obtain ⟨s, hs, hkey⟩ := List.mem_map.mp hmem
    exact find?_eq_none_iff.mp hnone s hs hkey
  · rintro ⟨hnew, hrows⟩
    rw [create, dif_neg hnew]
    exact congrArg some (ext hrows.symm)

/-- One more key behind distinct ones -/
theorem nodup_append_cons {κ : Type*} {ks ls : List κ} {k : κ} :
    (ks ++ k :: ls).Nodup ↔ ((ks ++ [k]) ++ ls).Nodup := by
  rw [List.append_assoc, List.singleton_append]

theorem nodup_append_singleton {κ : Type*} {ks : List κ} {k : κ} :
    (ks ++ [k]).Nodup ↔ k ∉ ks ∧ ks.Nodup := by
  rw [← List.concat_eq_append, List.nodup_concat]

theorem createList_eq_some_iff : t.createList rs = some u ↔
    (t.rows.map key ++ rs.map key).Nodup ∧ u.rows = t.rows ++ rs := by
  induction rs generalizing t with
  | nil =>
    rw [createList, Option.some.injEq, List.map_nil, List.append_nil, List.append_nil]
    exact ⟨fun h => ⟨t.unique, congrArg rows h.symm⟩, fun h => ext h.2.symm⟩
  | cons r rs ih =>
    rw [createList, Option.bind_eq_some_iff, List.map_cons, nodup_append_cons]
    constructor
    · rintro ⟨v, hcreate, hrest⟩
      obtain ⟨-, hrows⟩ := create_eq_some_iff.mp hcreate
      rw [ih, hrows, List.map_append, List.map_singleton, List.append_assoc t.rows,
        List.singleton_append] at hrest
      exact hrest
    · rintro ⟨hnodup, hrows⟩
      have hnew : key r ∉ t.rows.map key :=
        (nodup_append_singleton.mp (List.nodup_append.mp hnodup).1).1
      obtain ⟨v, hcreate⟩ := create_isSome (t := t) (r := r)
        (find?_eq_none_iff.mpr fun s hs hkey => hnew (List.mem_map.mpr ⟨s, hs, hkey⟩))
      obtain ⟨-, hv⟩ := create_eq_some_iff.mp hcreate
      refine ⟨v, hcreate, ih.mpr ⟨?_, ?_⟩⟩
      · rwa [hv, List.map_append, List.map_singleton]
      · rw [hv, hrows, List.append_assoc, List.singleton_append]

theorem createList_append (t : Table key) (rs rs' : List ρ) :
    t.createList (rs ++ rs') = (t.createList rs).bind fun u => u.createList rs' := by
  induction rs generalizing t with
  | nil => rfl
  | cons r rs ih =>
    rw [List.cons_append, createList, createList, Option.bind_assoc]
    exact congrArg (t.create r).bind (funext ih)

theorem createList_singleton (t : Table key) (r : ρ) : t.createList [r] = t.create r := by
  rw [createList]
  cases t.create r <;> rfl

end Relational.Table
