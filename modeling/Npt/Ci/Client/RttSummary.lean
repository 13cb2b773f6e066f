import Mathlib.Data.Rat.Floor
import Npt.Ci.Client.State
import Npt.Core.OrderStatistics

/-!
Contract: `rtt_summary` of `ci/src/client.rs` over any samples.

`rttSummaryOf` is the function on a slice of `f64` values, which are exact
rationals here; it is `none` where an index would be out of range. The run's
`rttSummary` is its case of whole microseconds.

Owns: that every index is in range and that the summary is made of samples, in
order, whatever the order they came in.

Does not own: which round trips are recorded.
-/

namespace Npt.Ci.Client

open Npt.Core

/-- `rtt_summary`. -/
def rttSummaryOf (samplesUs : List Rat) : Option RttSummary :=
  if samplesUs = [] then some {}
  else do
    let sorted := samplesUs.mergeSort (· ≤ ·)
    let pick (q : Rat) : Option Rat := sorted[quantileIndex sorted.length q]?.map (· / 1000)
    return {
      samples := sorted.length
      p50Ms := ← pick (50 / 100)
      p95Ms := ← pick (95 / 100)
      p99Ms := ← pick (99 / 100)
      maxMs := (← sorted[sorted.length - 1]?) / 1000 }

/-- The summary tells quantiles of the samples. -/
structure RttSummary.Summarizes (summary : RttSummary) (samplesUs : List Rat) : Prop where
  p50_le_p95 : summary.p50Ms ≤ summary.p95Ms
  p95_le_p99 : summary.p95Ms ≤ summary.p99Ms
  p99_le_max : summary.p99Ms ≤ summary.maxMs
  sampled : ∀ ms ∈ [summary.p50Ms, summary.p95Ms, summary.p99Ms, summary.maxMs],
    ∃ sample ∈ samplesUs, ms = sample / 1000
  largest : ∀ sample ∈ samplesUs, sample / 1000 ≤ summary.maxMs

/-- Larger quantiles have larger indices. -/
theorem quantileIndex_mono {size : Nat} (positive : 0 < size) {low high : Rat} (le : low ≤ high) :
    quantileIndex size low ≤ quantileIndex size high := by
  have width : (0 : Rat) ≤ size - 1 := by
    rw [sub_nonneg, Nat.one_le_cast]
    exact positive
  exact Int.toNat_le_toNat (Rat.floor_monotone (by gcongr))

/-- The whole is the last index. -/
theorem quantileIndex_one {size : Nat} (positive : 0 < size) :
    quantileIndex size 1 = size - 1 := by
  obtain ⟨fewer, rfl⟩ := Nat.exists_eq_succ_of_ne_zero (Nat.ne_of_gt positive)
  have half : ⌊(fewer : Rat) + 1 / 2⌋ = (fewer : Int) := by
    rw [Int.floor_eq_iff]
    constructor <;> push_cast <;> linarith
  have same : ((fewer.succ : Nat) : Rat) - 1 = fewer := by
    push_cast
    ring
  rw [quantileIndex, mul_one, same]
  show (⌊(fewer : Rat) + 1 / 2⌋).toNat = fewer
  rw [half, Int.toNat_natCast]

section Samples

variable {samplesUs : List Rat}

/-- The value at a quantile. -/
def pickMs (samplesUs : List Rat) (q : Rat) : Rat :=
  (samplesUs.mergeSort (· ≤ ·)).getD (quantileIndex samplesUs.length q) 0 / 1000

theorem quantileIndex_lt (nonempty : samplesUs ≠ []) {q : Rat} (part : q ≤ 1) :
    quantileIndex samplesUs.length q < samplesUs.length := by
  have positive := List.length_pos_iff.mpr nonempty
  have bound := quantileIndex_mono positive part
  rw [quantileIndex_one positive] at bound
  omega

/-- Every index is in range. -/
theorem rttSummaryOf_eq (nonempty : samplesUs ≠ []) :
    rttSummaryOf samplesUs = some
      { samples := samplesUs.length
        p50Ms := pickMs samplesUs (50 / 100)
        p95Ms := pickMs samplesUs (95 / 100)
        p99Ms := pickMs samplesUs (99 / 100)
        maxMs := pickMs samplesUs 1 } := by
  have entry : ∀ {index : Nat}, index < samplesUs.length →
      (samplesUs.mergeSort (· ≤ ·))[index]? =
        some ((samplesUs.mergeSort (· ≤ ·)).getD index 0) := by
    intro index inside
    replace inside : index < (samplesUs.mergeSort (· ≤ ·)).length := by
      rwa [List.length_mergeSort]
    rw [List.getD_eq_getElem _ _ inside, List.getElem?_eq_getElem inside]
  have last : samplesUs.length - 1 = quantileIndex samplesUs.length 1 :=
    (quantileIndex_one (List.length_pos_iff.mpr nonempty)).symm
  simp only [rttSummaryOf, if_neg nonempty, List.length_mergeSort, last]
  rw [entry (quantileIndex_lt nonempty (by norm_num)),
    entry (quantileIndex_lt nonempty (by norm_num)),
    entry (quantileIndex_lt nonempty (by norm_num)), entry (quantileIndex_lt nonempty le_rfl)]
  rfl

theorem pickMs_mono (nonempty : samplesUs ≠ []) {low high : Rat} (le : low ≤ high)
    (part : high ≤ 1) : pickMs samplesUs low ≤ pickMs samplesUs high := by
  have positive := List.length_pos_iff.mpr nonempty
  have inside : quantileIndex samplesUs.length high < (samplesUs.mergeSort (· ≤ ·)).length := by
    rw [List.length_mergeSort]
    exact quantileIndex_lt nonempty part
  have entries := getD_mono (List.pairwise_mergeSort' (· ≤ ·) samplesUs) 0
    (quantileIndex_mono positive le) inside
  unfold pickMs
  gcongr

theorem pickMs_mem (nonempty : samplesUs ≠ []) {q : Rat} (part : q ≤ 1) :
    ∃ sample ∈ samplesUs, pickMs samplesUs q = sample / 1000 := by
  refine ⟨_, ?_, rfl⟩
  refine List.mem_mergeSort.mp (getD_mem 0 ?_)
  rw [List.length_mergeSort]
  exact quantileIndex_lt nonempty part

theorem le_pickMs_one {sample : Rat} (member : sample ∈ samplesUs) :
    sample / 1000 ≤ pickMs samplesUs 1 := by
  have positive := List.length_pos_iff.mpr (List.ne_nil_of_mem member)
  have bound := le_getD_last (List.pairwise_mergeSort' (· ≤ ·) samplesUs) 0
    (List.mem_mergeSort.mpr member)
  rw [List.length_mergeSort] at bound
  rw [pickMs, quantileIndex_one positive]
  gcongr

theorem pickMs_of_perm {other : List Rat} (permutation : samplesUs.Perm other) (q : Rat) :
    pickMs samplesUs q = pickMs other q := by
  rw [pickMs, pickMs, mergeSort_eq_of_perm permutation, permutation.length_eq]

end Samples

/-- The summary of any samples: no index leaves the slice, the quantiles are
ordered samples up to the largest, and the order of the samples is forgotten. -/
theorem rtt_summarizes {samplesUs : List Rat} (nonempty : samplesUs ≠ []) :
    ∃ summary, rttSummaryOf samplesUs = some summary ∧ summary.Summarizes samplesUs ∧
      ∀ other, samplesUs.Perm other → rttSummaryOf other = some summary := by
  refine ⟨_, rttSummaryOf_eq nonempty, ?_, ?_⟩
  · exact
      { p50_le_p95 := pickMs_mono nonempty (by norm_num) (by norm_num)
        p95_le_p99 := pickMs_mono nonempty (by norm_num) (by norm_num)
        p99_le_max := pickMs_mono nonempty (by norm_num) (by norm_num)
        sampled := by
          intro ms member
          simp only [List.mem_cons, List.not_mem_nil, or_false] at member
          rcases member with rfl | rfl | rfl | rfl
          · exact pickMs_mem nonempty (by norm_num)
          · exact pickMs_mem nonempty (by norm_num)
          · exact pickMs_mem nonempty (by norm_num)
          · exact pickMs_mem nonempty le_rfl
        largest := fun sample member => le_pickMs_one member }
  · intro other permutation
    have otherNonempty : other ≠ [] := by
      rintro rfl
      exact nonempty permutation.eq_nil
    rw [rttSummaryOf_eq otherNonempty]
    simp only [pickMs_of_perm permutation, permutation.length_eq]

/-- Three samples out of order. -/
theorem rtt_summarizes_three :
    ∃ summary, rttSummaryOf [3000, 1000, 2000] = some summary ∧
      summary.Summarizes [3000, 1000, 2000] ∧
      rttSummaryOf [1000, 2000, 3000] = some summary := by
  obtain ⟨summary, made, summarizes, same⟩ :=
    @rtt_summarizes [3000, 1000, 2000] (by decide)
  exact ⟨summary, made, summarizes, same _ (by decide)⟩

/-- The summary of a run is the summary of its whole microseconds. -/
theorem rttSummaryOf_natCast (samplesUs : List Nat) :
    rttSummaryOf (samplesUs.map (↑)) = some (rttSummary samplesUs) := by
  by_cases empty : samplesUs = []
  · simp [empty, rttSummaryOf, rttSummary]
  · have sorted : (samplesUs.map ((↑) : Nat → Rat)).mergeSort (· ≤ ·) =
        (samplesUs.mergeSort (· ≤ ·)).map (↑) :=
      (List.map_mergeSort (fun left _ right _ => by simp)).symm
    have cast : ∀ index, (((samplesUs.mergeSort (· ≤ ·)).map ((↑) : Nat → Rat)).getD index 0) =
        ((samplesUs.mergeSort (· ≤ ·)).getD index 0 : Nat) := by
      intro index
      simp [List.getD_eq_getElem?_getD, List.getElem?_map]
      cases (samplesUs.mergeSort (· ≤ ·))[index]? <;> simp
    rw [rttSummaryOf_eq (by simpa using empty)]
    simp only [rttSummary, if_neg empty, pickMs, sorted, cast, List.length_map,
      List.length_mergeSort, quantileIndex_one (List.length_pos_iff.mpr empty)]

end Npt.Ci.Client
