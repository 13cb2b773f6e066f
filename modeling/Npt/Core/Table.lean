import Mathlib.Data.List.Nodup

/-!
Contract: finite maps whose records carry their own key.

A `Table` is the content of a hash map in its iteration order. Which order that
is a map does not say, so a table built from given records takes it from its
caller; `modify` keeps the order, as writing through a map entry does.

Owns: lookup, in-place modification, insertion and removal, and how a lookup
sees each of them.

Does not own: any particular record, or sums over a table.
-/

namespace Npt.Core

universe u v

variable {Record : Type u} {Key : Type v}

/-- Records with pairwise different keys. -/
structure Table (key : Record → Key) where
  records : List Record
  distinct : (records.map key).Nodup

namespace Table

variable {key : Record → Key}

def empty : Table key := ⟨[], List.nodup_nil⟩

variable [DecidableEq Key] (table : Table key)

def get? (wanted : Key) : Option Record :=
  table.records.find? (fun record => key record = wanted)

omit table in
private theorem map_key_modify (records : List Record) (wanted : Key) (change : Record → Record)
    (keeps : ∀ record, key (change record) = key record) :
    (records.map (fun record => if key record = wanted then change record else record)).map key =
      records.map key := by
  rw [List.map_map]
  refine List.map_congr_left (fun record _ => ?_)
  simp only [Function.comp_apply]
  split
  · exact keeps record
  · rfl

/-- Change the record under a key, if there is one. -/
def modify (wanted : Key) (change : Record → Record)
    (keeps : ∀ record, key (change record) = key record) : Table key where
  records := table.records.map (fun record => if key record = wanted then change record else record)
  distinct := by
    rw [map_key_modify table.records wanted change keeps]
    exact table.distinct

def remove (wanted : Key) : Table key where
  records := table.records.filter (fun record => key record ≠ wanted)
  distinct := table.distinct.sublist (List.filter_sublist.map key)

/-- Insert a record in place of one with the same key. -/
def insert (new : Record) : Table key where
  records := (table.remove (key new)).records ++ [new]
  distinct := by
    rw [List.map_append]
    refine (table.remove (key new)).distinct.append (by simp) ?_
    intro used earlier here
    obtain rfl : used = key new := by simpa using here
    obtain ⟨record, kept, same⟩ := List.mem_map.mp earlier
    simp [remove] at kept
    exact kept.2 same

theorem key_of_get? {wanted : Key} {record : Record} (found : table.get? wanted = some record) :
    key record = wanted := by
  simpa using List.find?_some found

theorem mem_of_get? {wanted : Key} {record : Record} (found : table.get? wanted = some record) :
    record ∈ table.records :=
  List.mem_of_find?_eq_some found

omit [DecidableEq Key] in
/-- A table has at most one record under a key. -/
theorem eq_of_mem {left right : Record} (leftIn : left ∈ table.records)
    (rightIn : right ∈ table.records) (same : key left = key right) : left = right :=
  List.inj_on_of_nodup_map table.distinct leftIn rightIn same

theorem get?_of_mem {record : Record} (member : record ∈ table.records) :
    table.get? (key record) = some record := by
  cases found : table.get? (key record) with
  | none =>
      have absent := List.find?_eq_none.mp found record member
      simp at absent
  | some other =>
      rw [table.eq_of_mem (table.mem_of_get? found) member (table.key_of_get? found)]

theorem get?_eq_none_iff {wanted : Key} :
    table.get? wanted = none ↔ ∀ record ∈ table.records, key record ≠ wanted := by
  simp [get?]

@[simp] theorem get?_empty (wanted : Key) : (empty : Table key).get? wanted = none := rfl

theorem get?_modify (wanted other : Key) (change : Record → Record)
    (keeps : ∀ record, key (change record) = key record) :
    (table.modify wanted change keeps).get? other =
      (table.get? other).map (fun record => if key record = wanted then change record else record) := by
  simp only [get?, modify, List.find?_map]
  congr 2
  funext record
  simp only [Function.comp_apply]
  split
  · rw [keeps record]
  · rfl

theorem get?_modify_self (wanted : Key) (change : Record → Record)
    (keeps : ∀ record, key (change record) = key record) :
    (table.modify wanted change keeps).get? wanted = (table.get? wanted).map change := by
  rw [get?_modify]
  cases found : table.get? wanted with
  | none => rfl
  | some record => simp [table.key_of_get? found]

theorem get?_modify_ne {wanted other : Key} (different : other ≠ wanted)
    (change : Record → Record) (keeps : ∀ record, key (change record) = key record) :
    (table.modify wanted change keeps).get? other = table.get? other := by
  rw [get?_modify]
  cases found : table.get? other with
  | none => rfl
  | some record => simp [table.key_of_get? found, different]

theorem get?_remove_self (wanted : Key) : (table.remove wanted).get? wanted = none := by
  rw [get?_eq_none_iff]
  intro record member
  simp [remove] at member
  exact member.2

theorem get?_remove_ne {wanted other : Key} (different : other ≠ wanted) :
    (table.remove wanted).get? other = table.get? other := by
  simp only [get?, remove, List.find?_filter]
  congr 1
  funext record
  by_cases here : key record = other
  · simp [here, different]
  · simp [here]

theorem get?_insert_self (new : Record) : (table.insert new).get? (key new) = some new :=
  get?_of_mem _ (by simp [insert])

theorem get?_insert_ne {new : Record} {other : Key} (different : other ≠ key new) :
    (table.insert new).get? other = table.get? other := by
  rw [← table.get?_remove_ne different]
  simp only [get?, insert, List.find?_append, List.find?_singleton]
  simp [Ne.symm different]

/-- What a table holds after an insertion. -/
theorem mem_insert {new record : Record} (member : record ∈ (table.insert new).records) :
    record = new ∨ (record ∈ table.records ∧ key record ≠ key new) := by
  simp only [insert, remove, List.mem_append, List.mem_filter, List.mem_singleton] at member
  rcases member with ⟨earlier, different⟩ | rfl
  · exact Or.inr ⟨earlier, by simpa using different⟩
  · exact Or.inl rfl

theorem keys_modify (wanted : Key) (change : Record → Record)
    (keeps : ∀ record, key (change record) = key record) :
    (table.modify wanted change keeps).records.map key = table.records.map key :=
  map_key_modify table.records wanted change keeps

/-- What a table holds after a modification. -/
theorem mem_modify {wanted : Key} {change : Record → Record}
    (keeps : ∀ record, key (change record) = key record) {record : Record}
    (member : record ∈ (table.modify wanted change keeps).records) :
    (∃ old ∈ table.records, key old = wanted ∧ record = change old) ∨
      (record ∈ table.records ∧ key record ≠ wanted) := by
  obtain ⟨old, present, rfl⟩ := List.mem_map.mp member
  by_cases here : key old = wanted
  · exact Or.inl ⟨old, present, here, by simp [here]⟩
  · exact Or.inr ⟨by simpa [here] using present, by simp [here]⟩

/-- A property of all records that the change keeps. -/
theorem forall_modify {property : Record → Prop} {wanted : Key} {change : Record → Record}
    (keeps : ∀ record, key (change record) = key record)
    (holds : ∀ record ∈ table.records, property record)
    (kept : ∀ record ∈ table.records, property record → property (change record)) :
    ∀ record ∈ (table.modify wanted change keeps).records, property record := by
  intro record member
  rcases table.mem_modify keeps member with ⟨old, present, _, rfl⟩ | ⟨present, _⟩
  · exact kept old present (holds old present)
  · exact holds record present

end Table

end Npt.Core
