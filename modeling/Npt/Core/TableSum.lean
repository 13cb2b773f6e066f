import Mathlib.Algebra.BigOperators.Group.List.Basic
import Npt.Core.Table

/-!
Contract: sums over a table.

Owns: how a sum of weights moves with a modification and an insertion, and that
what a lookup sees decides a table up to the order of its records.

Does not own: lookups, or any particular weight.
-/

namespace Npt.Core.Table

universe u v w

variable {Record : Type u} {Key : Type v} {key : Record → Key} [DecidableEq Key]
  (table : Table key)

/-- Modifying under an absent key changes nothing. -/
theorem modify_of_absent {wanted : Key} (absent : table.get? wanted = none)
    (change : Record → Record) (keeps : ∀ record, key (change record) = key record) :
    table.modify wanted change keeps = table := by
  have other := table.get?_eq_none_iff.mp absent
  obtain ⟨records, distinct⟩ := table
  simp only [modify, mk.injEq]
  refine (List.map_congr_left fun record member => ?_).trans (List.map_id _)
  rw [if_neg (other record member), id]

section Sum

variable {Weight : Type w} [AddCommMonoid Weight] (weight : Record → Weight)

private theorem sum_map_change {records : List Record} (distinct : (records.map key).Nodup)
    {old : Record} (present : old ∈ records) (change : Record → Record) :
    ((records.map fun record =>
        if key record = key old then change record else record).map weight).sum + weight old =
      (records.map weight).sum + weight (change old) := by
  induction records with
  | nil => simp at present
  | cons record records inductionHypothesis =>
      obtain ⟨fresh, rest⟩ := List.nodup_cons.mp distinct
      rcases List.mem_cons.mp present with rfl | later
      · have untouched : (records.map fun record =>
            if key record = key old then change record else record) = records := by
          refine (List.map_congr_left fun record member => ?_).trans (List.map_id _)
          have different : key record ≠ key old :=
            fun same => fresh (same ▸ List.mem_map_of_mem member)
          rw [if_neg different, id]
        simp only [List.map_cons, if_true, untouched, List.sum_cons]
        rw [add_comm, add_assoc, add_comm (weight (change old))]
      · have different : key record ≠ key old :=
          fun same => fresh (same ▸ List.mem_map_of_mem later)
        have tail := inductionHypothesis rest later
        simp only [List.map_cons, if_neg different, List.sum_cons]
        rw [add_assoc, tail, add_assoc]

theorem sum_modify {wanted : Key} {old : Record} (found : table.get? wanted = some old)
    (change : Record → Record) (keeps : ∀ record, key (change record) = key record) :
    ((table.modify wanted change keeps).records.map weight).sum + weight old =
      (table.records.map weight).sum + weight (change old) := by
  obtain rfl := table.key_of_get? found
  exact sum_map_change weight table.distinct (table.mem_of_get? found) change

theorem sum_insert {new : Record} (absent : table.get? (key new) = none) :
    ((table.insert new).records.map weight).sum = (table.records.map weight).sum + weight new := by
  have kept : (table.remove (key new)).records = table.records := by
    refine List.filter_eq_self.mpr fun record member => ?_
    simpa using table.get?_eq_none_iff.mp absent record member
  simp only [insert, kept, List.map_append, List.sum_append, List.map_cons, List.map_nil,
    List.sum_cons, List.sum_nil, add_zero]

end Sum

/-- Tables that look the same through a view have the same records under it, up
to their order. -/
theorem perm_of_get? {other : Table key} (view : Record → Record)
    (keeps : ∀ record, key (view record) = key record)
    (same : ∀ wanted, (table.get? wanted).map view = (other.get? wanted).map view) :
    (table.records.map view).Perm (other.records.map view) := by
  have nodup : ∀ table : Table key, (table.records.map view).Nodup := by
    intro table
    refine List.Nodup.of_map key ?_
    rw [List.map_map, show key ∘ view = key from funext keeps]
    exact table.distinct
  have mem_iff : ∀ (table : Table key) (record : Record),
      record ∈ table.records.map view ↔ (table.get? (key record)).map view = some record := by
    intro table record
    rw [List.mem_map, Option.map_eq_some_iff]
    constructor
    · rintro ⟨old, member, rfl⟩
      exact ⟨old, by rw [keeps]; exact table.get?_of_mem member, rfl⟩
    · rintro ⟨old, found, rfl⟩
      exact ⟨old, table.mem_of_get? found, rfl⟩
  refine (List.perm_ext_iff_of_nodup (nodup table) (nodup other)).mpr fun record => ?_
  rw [mem_iff, mem_iff, same]

end Npt.Core.Table
