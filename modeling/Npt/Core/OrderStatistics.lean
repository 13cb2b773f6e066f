import Mathlib.Algebra.Order.BigOperators.Group.List
import Mathlib.Algebra.Order.Floor.Semiring
import Mathlib.Data.List.GetD
import Mathlib.Data.List.Sort
import Mathlib.Tactic.Linarith
import Mathlib.Tactic.Ring

/-!
Contract: order statistics of lists and the mean.

An entry of a sorted list is found by its rank. `interpolate` reads a sorted list
at a fractional rank, on the line between the two neighbours; it is monotone in
the rank over the whole list, and sorting makes it blind to the order of the
input.

Owns: entries of sorted lists, linear interpolation between them, sorted lists of
permutations, and the bounds of a mean.

Does not own: which ranks a percentile stands for.
-/

namespace Npt.Core

theorem getD_mem {Value : Type} {values : List Value} (default : Value) {index : Nat}
    (inside : index < values.length) : values.getD index default ∈ values := by
  rw [List.getD_eq_getElem _ _ inside]
  exact List.getElem_mem inside

section Sorted

variable {Value : Type} [LinearOrder Value]

/-- Later entries of a sorted list are larger. -/
theorem getD_mono {values : List Value} (ordered : values.Pairwise (· ≤ ·)) (default : Value)
    {low high : Nat} (le : low ≤ high) (inside : high < values.length) :
    values.getD low default ≤ values.getD high default := by
  rw [List.getD_eq_getElem _ _ inside, List.getD_eq_getElem _ _ (by omega)]
  rcases Nat.eq_or_lt_of_le le with rfl | less
  · exact le_refl _
  · exact List.pairwise_iff_getElem.mp ordered _ _ _ inside less

/-- Every entry of a sorted list is under its last one. -/
theorem le_getD_last {values : List Value} (ordered : values.Pairwise (· ≤ ·)) (default : Value)
    {value : Value} (member : value ∈ values) :
    value ≤ values.getD (values.length - 1) default := by
  obtain ⟨index, inside, rfl⟩ := List.getElem_of_mem member
  rw [← List.getD_eq_getElem _ default inside]
  exact getD_mono ordered default (by omega) (by omega)

theorem getD_zero_le {values : List Value} (ordered : values.Pairwise (· ≤ ·)) (default : Value)
    {value : Value} (member : value ∈ values) : values.getD 0 default ≤ value := by
  obtain ⟨index, inside, rfl⟩ := List.getElem_of_mem member
  rw [← List.getD_eq_getElem _ default inside]
  exact getD_mono ordered default (Nat.zero_le _) inside

/-- Sorting forgets the order of its input. -/
theorem mergeSort_eq_of_perm {left right : List Value} (permutation : left.Perm right) :
    left.mergeSort (· ≤ ·) = right.mergeSort (· ≤ ·) := by
  refine List.Perm.eq_of_pairwise' (List.pairwise_mergeSort' (· ≤ ·) left)
    (List.pairwise_mergeSort' (· ≤ ·) right) ?_
  exact (List.mergeSort_perm _ _).trans (permutation.trans (List.mergeSort_perm _ _).symm)

end Sorted

/-- The largest value that a partial reading finds in a list. -/
theorem exists_max_filterMap {Item Value : Type} [LE Value] [Max Value] [Std.IsLinearOrder Value]
    [Std.LawfulOrderMax Value] {items : List Item} (read : Item → Option Value)
    (default : Value) (some : ∃ item ∈ items, (read item).isSome = true) :
    ∃ item ∈ items, ∃ value, read item = .some value ∧
      (items.filterMap read).max?.getD default = value ∧
      ∀ other ∈ items, ∀ otherValue, read other = .some otherValue → otherValue ≤ value := by
  obtain ⟨item, member, found⟩ := some
  obtain ⟨value, shape⟩ := Option.isSome_iff_exists.mp found
  have nonempty : items.filterMap read ≠ [] :=
    List.ne_nil_of_mem (List.mem_filterMap.mpr ⟨item, member, shape⟩)
  obtain ⟨largest, isMax⟩ := Option.isSome_iff_exists.mp (List.isSome_max?_of_ne_nil nonempty)
  obtain ⟨present, greatest⟩ := List.max?_eq_some_iff.mp isMax
  obtain ⟨here, inside, reads⟩ := List.mem_filterMap.mp present
  exact ⟨here, inside, largest, reads, by rw [isMax]; rfl, fun other otherInside otherValue same =>
    greatest otherValue (List.mem_filterMap.mpr ⟨other, otherInside, same⟩)⟩

/-! ## Interpolation -/

section Interpolation

variable {Value : Type} [Field Value] [LinearOrder Value] [IsStrictOrderedRing Value]
  [FloorSemiring Value]

/-- The value at a fractional rank of a sorted list. -/
def interpolate (values : List Value) (rank : Value) : Value :=
  let lower := ⌊rank⌋₊
  let upper := ⌈rank⌉₊
  if lower = upper then values.getD lower 0
  else
    let weight := rank - lower
    values.getD lower 0 * (1 - weight) + values.getD upper 0 * weight

/-- The rank lies in the list. -/
def InRange (values : List Value) (rank : Value) : Prop :=
  0 ≤ rank ∧ rank ≤ (values.length - 1 : Nat)

variable {values : List Value} {rank : Value}

theorem InRange.floor_lt (inRange : InRange values rank) (nonempty : values ≠ []) :
    ⌊rank⌋₊ < values.length := by
  have positive : 0 < values.length := List.length_pos_iff.mpr nonempty
  have bound := Nat.floor_le_of_le inRange.2
  omega

omit [IsStrictOrderedRing Value] in
theorem InRange.ceil_lt (inRange : InRange values rank) (nonempty : values ≠ []) :
    ⌈rank⌉₊ < values.length := by
  have positive : 0 < values.length := List.length_pos_iff.mpr nonempty
  have bound := Nat.ceil_le.mpr inRange.2
  omega

/-- A whole rank is an entry. -/
theorem interpolate_natCast (values : List Value) (rank : Nat) :
    interpolate values (rank : Value) = values.getD rank 0 := by
  simp [interpolate]

/-- Between two neighbours the value moves along a line. -/
theorem interpolate_eq (nonnegative : 0 ≤ rank) :
    interpolate values rank = values.getD ⌊rank⌋₊ 0 +
      (rank - ⌊rank⌋₊) * (values.getD (⌊rank⌋₊ + 1) 0 - values.getD ⌊rank⌋₊ 0) := by
  by_cases whole : ⌊rank⌋₊ = ⌈rank⌉₊
  · have same : (⌊rank⌋₊ : Value) = rank :=
      le_antisymm (Nat.floor_le nonnegative) (whole ▸ Nat.le_ceil rank)
    rw [interpolate, if_pos whole, same]
    ring
  · have next : ⌈rank⌉₊ = ⌊rank⌋₊ + 1 := by
      have above := Nat.ceil_le_floor_add_one rank
      have below := Nat.floor_le_ceil rank
      omega
    unfold interpolate
    rw [if_neg whole, next]
    ring

variable (ordered : values.Pairwise (· ≤ ·))
include ordered

/-- The value is over its lower neighbour. -/
theorem floor_le_interpolate (inRange : InRange values rank) :
    values.getD ⌊rank⌋₊ 0 ≤ interpolate values rank := by
  have part : 0 ≤ rank - ⌊rank⌋₊ := sub_nonneg.mpr (Nat.floor_le inRange.1)
  rw [interpolate_eq inRange.1]
  by_cases inside : ⌊rank⌋₊ + 1 < values.length
  · have slope := sub_nonneg.mpr (getD_mono ordered 0 (Nat.le_succ ⌊rank⌋₊) inside)
    linarith only [mul_nonneg part slope]
  · -- At the last entry nothing is left to interpolate.
    have last : values.length - 1 ≤ ⌊rank⌋₊ := by omega
    have whole : rank = ⌊rank⌋₊ :=
      le_antisymm (inRange.2.trans (Nat.cast_le.mpr last)) (Nat.floor_le inRange.1)
    rw [sub_eq_zero.mpr whole]
    simp

/-- The value is under its upper neighbour. -/
theorem interpolate_le_next (nonnegative : 0 ≤ rank) (inside : ⌊rank⌋₊ + 1 < values.length) :
    interpolate values rank ≤ values.getD (⌊rank⌋₊ + 1) 0 := by
  have part : rank - ⌊rank⌋₊ ≤ 1 := by
    linarith only [Nat.lt_floor_add_one rank]
  have slope := sub_nonneg.mpr (getD_mono ordered 0 (Nat.le_succ ⌊rank⌋₊) inside)
  rw [interpolate_eq nonnegative]
  linarith only [mul_le_mul_of_nonneg_right part slope]

/-- Interpolation is monotone in the rank. -/
theorem interpolate_mono (nonempty : values ≠ []) {low high : Value} (nonnegative : 0 ≤ low)
    (le : low ≤ high) (bound : high ≤ (values.length - 1 : Nat)) :
    interpolate values low ≤ interpolate values high := by
  have highRange : InRange values high := ⟨nonnegative.trans le, bound⟩
  have highInside := highRange.floor_lt nonempty
  rcases Nat.eq_or_lt_of_le (Nat.floor_le_floor le) with same | less
  · -- In one cell both values are on the same line.
    rw [interpolate_eq nonnegative, interpolate_eq highRange.1, same]
    by_cases inside : ⌊high⌋₊ + 1 < values.length
    · have slope := sub_nonneg.mpr (getD_mono ordered 0 (Nat.le_succ ⌊high⌋₊) inside)
      have part : low - ⌊high⌋₊ ≤ high - ⌊high⌋₊ := by linarith only [le]
      linarith only [mul_le_mul_of_nonneg_right part slope]
    · have last : values.length - 1 ≤ ⌊high⌋₊ := by omega
      have top : high ≤ low := by
        have floorLow : (⌊high⌋₊ : Value) ≤ low := same ▸ Nat.floor_le nonnegative
        exact (bound.trans (Nat.cast_le.mpr last)).trans floorLow
      rw [le_antisymm le top]
  · -- The boundary of the cells lies between the values.
    calc interpolate values low
        ≤ values.getD (⌊low⌋₊ + 1) 0 :=
          interpolate_le_next ordered nonnegative (by omega)
      _ ≤ values.getD ⌊high⌋₊ 0 := getD_mono ordered 0 less highInside
      _ ≤ interpolate values high := floor_le_interpolate ordered highRange

end Interpolation

/-! ## Means -/

section Mean

variable {Value : Type} [Field Value] [LinearOrder Value] [IsStrictOrderedRing Value]
  {values : List Value} {bound : Value}

theorem le_sum_div_length (nonempty : values ≠ []) (each : ∀ value ∈ values, bound ≤ value) :
    bound ≤ values.sum / values.length := by
  have positive : (0 : Value) < values.length :=
    Nat.cast_pos.mpr (List.length_pos_iff.mpr nonempty)
  rw [le_div_iff₀ positive, mul_comm, ← nsmul_eq_mul]
  exact List.card_nsmul_le_sum values bound each

theorem sum_div_length_le (nonempty : values ≠ []) (each : ∀ value ∈ values, value ≤ bound) :
    values.sum / values.length ≤ bound := by
  have positive : (0 : Value) < values.length :=
    Nat.cast_pos.mpr (List.length_pos_iff.mpr nonempty)
  rw [div_le_iff₀ positive, mul_comm, ← nsmul_eq_mul]
  exact List.sum_le_card_nsmul values bound each

end Mean

end Npt.Core
