import Mathlib.Data.List.DropRight

/-!
Contract: a queue of bounded capacity that lets go of its oldest item.

What such a queue holds is decided by what was put into it: the last `capacity`
items, or the last one where the capacity is 0, as the new item is kept in any case.

Owns: the operation and the last items of a list.

Does not own: who shares a queue.
-/

namespace Npt.Core

variable {Item : Type}

/-- Put an item behind a queue, after letting go of its oldest if it is full. -/
def enqueue (capacity : Nat) (queue : List Item) (item : Item) : List Item :=
  (if capacity ≤ queue.length then queue.tail else queue) ++ [item]

theorem length_rtake (items : List Item) (count : Nat) :
    (items.rtake count).length = min count items.length := by
  rw [List.rtake, List.length_drop]
  omega

theorem rtake_min_length (items : List Item) (count : Nat) :
    items.rtake (min count items.length) = items.rtake count := by
  rw [List.rtake, List.rtake]
  congr 1
  omega

theorem rtake_of_length_le {items : List Item} {count : Nat} (short : items.length ≤ count) :
    items.rtake count = items := by
  rw [List.rtake, Nat.sub_eq_zero_of_le short, List.drop_zero]

/-- A full list of last items without its first is one item shorter. -/
theorem tail_rtake_succ {items : List Item} {count : Nat} (many : count < items.length) :
    (items.rtake (count + 1)).tail = items.rtake count := by
  rw [List.rtake, List.rtake, List.tail_drop]
  congr 1
  omega

/-- The step of a bounded queue: from the last items of a list to those of the list
with one more. -/
theorem enqueue_rtake (capacity : Nat) (items : List Item) (item : Item) :
    enqueue capacity (items.rtake (max 1 capacity)) item =
      (items ++ [item]).rtake (max 1 capacity) := by
  obtain ⟨kept, size⟩ : ∃ kept, max 1 capacity = kept + 1 := ⟨max 1 capacity - 1, by omega⟩
  rw [size, List.rtake_concat_succ, enqueue, length_rtake]
  by_cases many : kept < items.length
  · -- Full, also where the capacity is 0.
    rw [if_pos (by omega), tail_rtake_succ many]
  · have short : items.length ≤ kept := Nat.le_of_not_lt many
    rw [rtake_of_length_le (Nat.le_succ_of_le short), rtake_of_length_le short]
    split
    · -- Only an empty list is full without being longer than what is kept.
      have noItems : items = [] := List.eq_nil_of_length_eq_zero (by omega)
      rw [noItems, List.tail_nil]
    · rfl

/-- A queue that takes one item after the other holds the last of them. -/
theorem foldl_enqueue (capacity : Nat) (items : List Item) :
    items.foldl (enqueue capacity) [] = items.rtake (max 1 capacity) := by
  induction items using List.reverseRecOn with
  | nil => rw [List.foldl_nil, List.rtake_nil]
  | append_singleton items item inductionHypothesis =>
      rw [List.foldl_append, inductionHypothesis, List.foldl_cons, List.foldl_nil, enqueue_rtake]

/-- Let go of the oldest item of a queue that has grown too long. -/
def trim (capacity : Nat) (queue : List Item) : List Item :=
  if capacity < queue.length then queue.tail else queue

theorem trim_rtake (capacity : Nat) (items : List Item) :
    trim capacity (items.rtake capacity) = items.rtake capacity := by
  rw [trim, if_neg]
  rw [length_rtake]
  omega

/-- Trimming after at most one more item keeps the last items. -/
theorem trim_rtake_append (capacity : Nat) (items : List Item) (item? : Option Item) :
    trim capacity (items.rtake capacity ++ item?.toList) =
      (items ++ item?.toList).rtake capacity := by
  cases item? with
  | none => simpa using trim_rtake capacity items
  | some item =>
      rw [Option.toList_some, ← List.rtake_concat_succ, trim, length_rtake]
      by_cases many : capacity < (items ++ [item]).length
      · rw [if_pos (by omega), tail_rtake_succ many]
      · rw [if_neg (by omega), rtake_of_length_le (by omega), rtake_of_length_le (by omega)]

end Npt.Core
