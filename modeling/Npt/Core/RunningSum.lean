import Mathlib.Algebra.Order.BigOperators.Group.List
import Mathlib.Data.List.Forall2

/-!
Contract: sums that are read while the counters grow.

A reader adds up a list of counters one at a time. Between two reads any counter
may grow, so the sum need not be the total of any instant; it lies between the total
when the reader began and the total when it ends.

Owns: how far a sum has been read, what a read and a growth keep of it, and its two
bounds.

Does not own: the counters, or how often they are read.
-/

namespace Npt.Core

variable {Count : Type} [PartialOrder Count]

/-- No counter falls. -/
abbrev Grows (counters later : List Count) : Prop := List.Forall₂ (· ≤ ·) counters later

theorem Grows.refl (counters : List Count) : Grows counters counters :=
  List.forall₂_same.mpr (fun _ _ => le_refl _)

/-- One counter grows. -/
theorem grows_set {counters : List Count} {index : Nat} {before after : Count}
    (present : counters[index]? = some before) (more : before ≤ after) :
    Grows counters (counters.set index after) := by
  induction counters generalizing index with
  | nil => simp at present
  | cons head tail inductionHypothesis =>
      cases index with
      | zero =>
          obtain rfl : head = before := by simpa using present
          exact .cons more (Grows.refl tail)
      | succ index => exact .cons (le_refl _) (inductionHypothesis (by simpa using present))

variable [AddCommMonoid Count]

/-- `sum` has read the first `index` counters, whose total was `least` or more at the start. -/
structure Reading (least : Count) (counters : List Count) (sum : Count) (index : Nat) : Prop where
  least : least ≤ sum + (counters.drop index).sum
  most : sum ≤ (counters.take index).sum

namespace Reading

variable {counters later : List Count} {least sum : Count} {index : Nat}

theorem start (counters : List Count) : Reading counters.sum counters 0 0 where
  least := by simp
  most := by simp

/-- A sum that has read every counter. -/
theorem done (reading : Reading least counters sum index) (ended : counters[index]? = none) :
    least ≤ sum ∧ sum ≤ counters.sum := by
  have past : counters.length ≤ index := List.getElem?_eq_none_iff.mp ended
  have bounds := And.intro reading.least reading.most
  rwa [List.drop_eq_nil_of_le past, List.take_of_length_le past, List.sum_nil, add_zero] at bounds

variable [IsOrderedAddMonoid Count]

/-- The next counter is added. -/
theorem load (reading : Reading least counters sum index) {value : Count}
    (next : counters[index]? = some value) :
    Reading least counters (sum + value) (index + 1) := by
  obtain ⟨inside, rfl⟩ := List.getElem?_eq_some_iff.mp next
  constructor
  · have bound := reading.least
    rwa [List.drop_eq_getElem_cons inside, List.sum_cons, ← add_assoc] at bound
  · rw [List.sum_take_succ _ _ inside]
    exact add_le_add_left reading.most _

theorem grow (reading : Reading least counters sum index) (grows : Grows counters later) :
    Reading least later sum index where
  least := reading.least.trans
    (add_le_add_right (List.forall₂_drop index grows).sum_le_sum sum)
  most := reading.most.trans (List.forall₂_take index grows).sum_le_sum

end Reading

end Npt.Core
