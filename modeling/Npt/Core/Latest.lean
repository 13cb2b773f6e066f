import Mathlib.Data.List.Sort

/-!
Contract: the latest entries of a log.

The entries come in any order, as they do from several logs that were kept apart.
They are sorted by their times, the latest first, and cut off.

Owns: the times of the latest entries of a log whose times do not decrease, and
that what is cut off is not later than what stays.

Does not own: how a log comes about.
-/

namespace Npt.Core

variable {Entry Time : Type} [LinearOrder Time] (time : Entry → Time)

/-- The entries, the latest first. -/
def newestFirst (entries : List Entry) : List Entry :=
  entries.mergeSort (fun left right => time right ≤ time left)

def latest (count : Nat) (entries : List Entry) : List Entry :=
  (newestFirst time entries).take count

theorem perm_newestFirst (entries : List Entry) : (newestFirst time entries).Perm entries :=
  List.mergeSort_perm _ _

theorem pairwise_newestFirst (entries : List Entry) :
    (newestFirst time entries).Pairwise (fun left right => time right ≤ time left) := by
  let later : Entry → Entry → Bool := fun left right => decide (time right ≤ time left)
  have trans : ∀ a b c : Entry, later a b → later b c → later a c := by
    intro a b c first second
    exact decide_eq_true ((of_decide_eq_true second).trans (of_decide_eq_true first))
  have total : ∀ a b : Entry, later a b || later b a := by
    intro a b
    rcases le_total (time b) (time a) with above | below
    · simp [later, above]
    · simp [later, below]
  exact (List.pairwise_mergeSort trans total entries).imp of_decide_eq_true

variable {time} {count : Nat} {entries log : List Entry}

/-- The latest entries have the last times of the log, the last one first. -/
theorem map_latest (same : entries.Perm log)
    (ordered : (log.map time).Pairwise (· ≤ ·)) :
    (latest time count entries).map time = (log.map time).reverse.take count := by
  have falling : ((newestFirst time entries).map time).Pairwise (· ≥ ·) :=
    List.pairwise_map.mpr (pairwise_newestFirst time entries)
  have reversed : (log.map time).reverse.Pairwise (· ≥ ·) := List.pairwise_reverse.mpr ordered
  have perm : ((newestFirst time entries).map time).Perm (log.map time).reverse :=
    (((perm_newestFirst time entries).trans same).map time).trans (List.reverse_perm _).symm
  rw [latest, List.map_take]
  congr 1
  exact perm.eq_of_pairwise (fun a b _ _ above below => le_antisymm below above) falling reversed

theorem subperm_latest : (latest time count entries).Subperm entries :=
  (List.take_sublist _ _).subperm.trans (perm_newestFirst time entries).subperm

/-- What is left out is not later than what is not. -/
theorem le_of_notMem_latest {entry shown : Entry} (member : entry ∈ entries)
    (out : entry ∉ latest time count entries) (inside : shown ∈ latest time count entries) :
    time entry ≤ time shown := by
  have sorted := pairwise_newestFirst time entries
  rw [← List.take_append_drop count (newestFirst time entries)] at sorted
  have whole := (perm_newestFirst time entries).mem_iff.mpr member
  rw [← List.take_append_drop count (newestFirst time entries), List.mem_append] at whole
  exact (List.pairwise_append.mp sorted).2.2 shown inside entry (whole.resolve_left out)

end Npt.Core
