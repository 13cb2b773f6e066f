import Mathlib.Data.List.Basic

/-!
Contract: the items that pass where they must be some time apart.

Owns: the items that pass, when the last of them did, and that they keep their
distance.

Does not own: what the items are.
-/

namespace Npt.Core

variable {Item : Type} (gap : Nat) (time : Item → Nat)

/-- The items that come at least `gap` after the one that passed before. -/
def throttled : Nat → List Item → List Item
  | _, [] => []
  | last, item :: rest =>
      if gap ≤ time item - last then item :: throttled (time item) rest else throttled last rest

/-- When an item passed last. -/
def lastPassed (start : Nat) (items : List Item) : Nat :=
  ((throttled gap time start items).getLast?.map time).getD start

theorem throttled_sublist (start : Nat) (items : List Item) :
    (throttled gap time start items).Sublist items := by
  induction items generalizing start with
  | nil => exact .refl _
  | cons item items inductionHypothesis =>
      unfold throttled
      split
      · exact (inductionHypothesis _).cons_cons item
      · exact (inductionHypothesis _).cons item

theorem lastPassed_cons (start : Nat) (item : Item) (items : List Item) :
    lastPassed gap time start (item :: items) =
      lastPassed gap time (if gap ≤ time item - start then time item else start) items := by
  unfold lastPassed
  by_cases passes : gap ≤ time item - start
  · rw [throttled, if_pos passes, if_pos passes]
    cases rest : throttled gap time (time item) items with
    | nil => rfl
    | cons first others => rw [List.getLast?_cons_cons]; rfl
  · rw [throttled, if_neg passes, if_neg passes]

/-- One more item passes if it comes late enough. -/
theorem throttled_snoc (start : Nat) (items : List Item) (item : Item) :
    throttled gap time start (items ++ [item]) = throttled gap time start items ++
      if gap ≤ time item - lastPassed gap time start items then [item] else [] := by
  induction items generalizing start with
  | nil =>
      rw [List.nil_append, throttled]
      rfl
  | cons first items inductionHypothesis =>
      rw [List.cons_append, lastPassed_cons]
      by_cases passes : gap ≤ time first - start
      · rw [throttled, if_pos passes, throttled, if_pos passes, if_pos passes,
          inductionHypothesis, List.cons_append]
      · rw [throttled, if_neg passes, throttled, if_neg passes, if_neg passes,
          inductionHypothesis]

theorem lastPassed_snoc (start : Nat) (items : List Item) (item : Item) :
    lastPassed gap time start (items ++ [item]) =
      if gap ≤ time item - lastPassed gap time start items then time item
      else lastPassed gap time start items := by
  by_cases passes : gap ≤ time item - lastPassed gap time start items
  · rw [if_pos passes, lastPassed, throttled_snoc, if_pos passes, List.getLast?_concat]
    rfl
  · rw [if_neg passes]
    unfold lastPassed at passes ⊢
    rw [throttled_snoc]
    unfold lastPassed
    rw [if_neg passes, List.append_nil]

end Npt.Core
