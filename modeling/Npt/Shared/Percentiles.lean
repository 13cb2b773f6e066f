import Npt.Shared.CheckedReport

/-!
Contract: the order of a report's percentiles and means.

A percentile is a value of the sorted list at a fractional rank, so the percentiles
lie in the order of their ranks between the ends of the list, and the order of the
input does not matter. The mean lies between the ends as well.

Owns: monotone percentiles, and the order inside the latency bands, the performance
section and the throughput bands.

Does not own: where the values come from.
-/

namespace Npt.Shared

open Npt.Core

/-- The percentiles lie in order between the ends, and so does the mean. -/
structure LatencyBand.Ordered (band : LatencyBand) : Prop where
  min_le_p50 : band.minMs ≤ band.p50Ms
  p50_le_p95 : band.p50Ms ≤ band.p95Ms
  p95_le_p99 : band.p95Ms ≤ band.p99Ms
  p99_le_max : band.p99Ms ≤ band.maxMs
  min_le_avg : band.minMs ≤ band.avgMs
  avg_le_max : band.avgMs ≤ band.maxMs

structure PerformanceMetrics.Ordered (performance : PerformanceMetrics) : Prop where
  p50_le_p95 : performance.p50LatencyMs ≤ performance.p95LatencyMs
  p95_le_p99 : performance.p95LatencyMs ≤ performance.p99LatencyMs

structure ThroughputBand.Ordered (band : ThroughputBand) : Prop where
  min_le_avg : band.minBps ≤ band.avgBps
  avg_le_peak : band.avgBps ≤ band.peakBps

/-- The latencies of the connections, in whole milliseconds. -/
def allLatencies (connections : List ConnectionMetrics) : List Rat :=
  connections.flatMap
    (fun connection => connection.latencies.map (fun latency => ((latency / 10 ^ 6 : Nat) : Rat)))

section Percentile

variable {values : List Rat}

theorem percentile_mono (ordered : values.Pairwise (· ≤ ·)) {low high : Rat} (nonnegative : 0 ≤ low)
    (le : low ≤ high) (bound : high ≤ 100) : percentile values low ≤ percentile values high := by
  by_cases empty : values = []
  · simp [percentile, empty]
  · have inRange := inRange_percentile (nonnegative.trans le) bound values
    have first := inRange_percentile nonnegative (le.trans bound) values
    rw [percentile_eq_interpolate empty, percentile_eq_interpolate empty]
    refine interpolate_mono ordered empty first.1 ?_ inRange.2
    gcongr

theorem percentile_0 (nonempty : values ≠ []) : percentile values 0 = values.headD 0 := by
  rw [percentile_eq_interpolate nonempty, List.headD_eq_getD]
  simpa using interpolate_natCast values 0

theorem percentile_100 (nonempty : values ≠ []) : percentile values 100 = values.getLastD 0 := by
  have whole : (100 : Rat) / 100 * (values.length - 1 : Nat) = (values.length - 1 : Nat) := by
    norm_num
  rw [percentile_eq_interpolate nonempty, whole, interpolate_natCast, List.getLastD_eq_getLast?,
    List.getLast?_eq_getElem?, List.getD_eq_getElem?_getD]

end Percentile

/-! ## Latency bands -/

section Latency

variable {values : List Rat}

theorem latencyBandStats_of_ne_nil (nonempty : values ≠ []) :
    TestReport.latencyBandStats values =
      { avgMs := values.sum / values.length
        p50Ms := percentile (values.mergeSort (· ≤ ·)) 50
        p95Ms := percentile (values.mergeSort (· ≤ ·)) 95
        p99Ms := percentile (values.mergeSort (· ≤ ·)) 99
        maxMs := percentile (values.mergeSort (· ≤ ·)) 100
        minMs := percentile (values.mergeSort (· ≤ ·)) 0 } := by
  have sortedNonempty : values.mergeSort (· ≤ ·) ≠ [] := by
    rw [← List.length_pos_iff, List.length_mergeSort]
    exact List.length_pos_iff.mpr nonempty
  rw [percentile_0 sortedNonempty, percentile_100 sortedNonempty]
  simp only [TestReport.latencyBandStats, if_neg nonempty, mean]

/-- The ends of a band are the first and the last of its sorted values. -/
theorem latencyBandStats_ends (nonempty : values ≠ []) :
    (TestReport.latencyBandStats values).minMs = (values.mergeSort (· ≤ ·)).getD 0 0 ∧
      (TestReport.latencyBandStats values).maxMs =
        (values.mergeSort (· ≤ ·)).getD ((values.mergeSort (· ≤ ·)).length - 1) 0 := by
  simp only [TestReport.latencyBandStats, if_neg nonempty]
  constructor
  · exact List.headD_eq_getD
  · rw [List.getLastD_eq_getLast?, List.getLast?_eq_getElem?, List.getD_eq_getElem?_getD]

/-- They are ends of the values. -/
theorem latencyBandStats_bounds (nonempty : values ≠ []) {value : Rat} (member : value ∈ values) :
    (TestReport.latencyBandStats values).minMs ≤ value ∧
      value ≤ (TestReport.latencyBandStats values).maxMs := by
  have ordered := List.pairwise_mergeSort' (· ≤ ·) values
  have sortedMember : value ∈ values.mergeSort (· ≤ ·) := List.mem_mergeSort.mpr member
  obtain ⟨least, greatest⟩ := latencyBandStats_ends nonempty
  rw [least, greatest]
  exact ⟨getD_zero_le ordered 0 sortedMember, le_getD_last ordered 0 sortedMember⟩

/-- They are values. -/
theorem latencyBandStats_ends_mem (nonempty : values ≠ []) :
    (TestReport.latencyBandStats values).minMs ∈ values ∧
      (TestReport.latencyBandStats values).maxMs ∈ values := by
  have length : 0 < (values.mergeSort (· ≤ ·)).length := by
    rw [List.length_mergeSort]
    exact List.length_pos_iff.mpr nonempty
  obtain ⟨least, greatest⟩ := latencyBandStats_ends nonempty
  rw [least, greatest]
  exact ⟨List.mem_mergeSort.mp (getD_mem 0 length),
    List.mem_mergeSort.mp (getD_mem 0 (Nat.sub_lt length Nat.one_pos))⟩

theorem latencyBandStats_ordered (nonempty : values ≠ []) :
    (TestReport.latencyBandStats values).Ordered := by
  have ordered := List.pairwise_mergeSort' (· ≤ ·) values
  have lower : ∀ value ∈ values, (TestReport.latencyBandStats values).minMs ≤ value :=
    fun _ member => (latencyBandStats_bounds nonempty member).1
  have upper : ∀ value ∈ values, value ≤ (TestReport.latencyBandStats values).maxMs :=
    fun _ member => (latencyBandStats_bounds nonempty member).2
  rw [latencyBandStats_of_ne_nil nonempty] at lower upper ⊢
  exact
    { min_le_p50 := percentile_mono ordered (by norm_num) (by norm_num) (by norm_num)
      p50_le_p95 := percentile_mono ordered (by norm_num) (by norm_num) (by norm_num)
      p95_le_p99 := percentile_mono ordered (by norm_num) (by norm_num) (by norm_num)
      p99_le_max := percentile_mono ordered (by norm_num) (by norm_num) (by norm_num)
      min_le_avg := le_sum_div_length nonempty lower
      avg_le_max := sum_div_length_le nonempty upper }

theorem latencyBandStats_of_perm {other : List Rat} (permutation : values.Perm other) :
    TestReport.latencyBandStats values = TestReport.latencyBandStats other := by
  by_cases empty : values = []
  · obtain rfl : other = [] := (empty ▸ permutation).symm.eq_nil
    rw [empty]
  · have otherNonempty : other ≠ [] := by
      rintro rfl
      exact empty permutation.eq_nil
    rw [latencyBandStats_of_ne_nil empty, latencyBandStats_of_ne_nil otherNonempty,
      mergeSort_eq_of_perm permutation, permutation.sum_eq, permutation.length_eq]

end Latency

/-! ## The performance section -/

theorem calculatePerformance_ordered (connections : List ConnectionMetrics)
    (throughputSamples : List ThroughputSample) :
    (TestReport.calculatePerformance connections throughputSamples).Ordered := by
  have ordered := List.pairwise_mergeSort' (· ≤ ·) (allLatencies connections)
  exact
    { p50_le_p95 := percentile_mono ordered (by norm_num) (by norm_num) (by norm_num)
      p95_le_p99 := percentile_mono ordered (by norm_num) (by norm_num) (by norm_num) }

/-- The latencies of a performance section, in the order of its fields. -/
def PerformanceMetrics.latencies (performance : PerformanceMetrics) : List Rat :=
  [performance.avgLatencyMs, performance.p50LatencyMs, performance.p95LatencyMs,
    performance.p99LatencyMs]

theorem latencies_of_perm {connections others : List ConnectionMetrics}
    (permutation : (allLatencies connections).Perm (allLatencies others))
    (throughputSamples : List ThroughputSample) :
    (TestReport.calculatePerformance connections throughputSamples).latencies =
      (TestReport.calculatePerformance others throughputSamples).latencies := by
  have shape : ∀ connections : List ConnectionMetrics,
      (TestReport.calculatePerformance connections throughputSamples).latencies =
        [mean (allLatencies connections),
          percentile ((allLatencies connections).mergeSort (· ≤ ·)) 50,
          percentile ((allLatencies connections).mergeSort (· ≤ ·)) 95,
          percentile ((allLatencies connections).mergeSort (· ≤ ·)) 99] := fun _ => rfl
  have means : mean (allLatencies connections) = mean (allLatencies others) := by
    have empty : allLatencies connections = [] ↔ allLatencies others = [] := by
      rw [← List.length_eq_zero_iff, permutation.length_eq, List.length_eq_zero_iff]
    simp only [mean, empty, permutation.sum_eq, permutation.length_eq]
  rw [shape, shape, means, mergeSort_eq_of_perm permutation]

/-! ## Throughput bands -/

/-- The larger of two counters is their supremum. -/
instance lawfulOrderSupUInt64 : Std.LawfulOrderSup UInt64 where
  max_le_iff left right bound := by
    have shape : max left right = if left ≤ right then right else left := rfl
    rw [shape]
    split <;> simp only [UInt64.le_iff_toNat_le] at * <;> omega

instance lawfulOrderInfUInt64 : Std.LawfulOrderInf UInt64 where
  le_min_iff bound left right := by
    have shape : min left right = if left ≤ right then left else right := rfl
    rw [shape]
    split <;> simp only [UInt64.le_iff_toNat_le] at * <;> omega

section Throughput

variable {values : List UInt64}

theorem throughputBandStats_ordered (nonempty : values ≠ [])
    (fits : (values.map UInt64.toNat).sum < 2 ^ 64) :
    (TestReport.throughputBandStats values).Ordered := by
  have positive := List.length_pos_iff.mpr nonempty
  obtain ⟨largest, isMax⟩ := Option.isSome_iff_exists.mp (List.isSome_max?_of_ne_nil nonempty)
  obtain ⟨smallest, isMin⟩ := Option.isSome_iff_exists.mp (List.isSome_min?_of_ne_nil nonempty)
  have above : ∀ value ∈ values, value ≤ largest := (List.max?_le_iff isMax).mp (UInt64.le_refl _)
  have below : ∀ value ∈ values, smallest ≤ value := (List.le_min?_iff isMin).mp (UInt64.le_refl _)
  have total := toNat_sum fits
  have average : (UInt64.ofNat (values.sum.toNat / values.length)).toNat =
      (values.map UInt64.toNat).sum / values.length := by
    rw [total, UInt64.toNat_ofNat', Nat.mod_eq_of_lt (lt_of_le_of_lt (Nat.div_le_self _ _) fits)]
  simp only [TestReport.throughputBandStats, if_neg nonempty, isMax, isMin, Option.getD_some]
  constructor
  · rw [UInt64.le_iff_toNat_le, average, Nat.le_div_iff_mul_le positive, Nat.mul_comm,
      ← List.length_map UInt64.toNat]
    refine List.card_nsmul_le_sum _ _ (fun value member => ?_)
    obtain ⟨counter, present, rfl⟩ := List.mem_map.mp member
    exact UInt64.le_iff_toNat_le.mp (below counter present)
  · rw [UInt64.le_iff_toNat_le, average]
    refine Nat.div_le_of_le_mul ?_
    rw [← List.length_map UInt64.toNat]
    refine List.sum_le_card_nsmul _ _ (fun value member => ?_)
    obtain ⟨counter, present, rfl⟩ := List.mem_map.mp member
    exact UInt64.le_iff_toNat_le.mp (above counter present)

end Throughput

/-- Percentiles are taken at indices in range, are monotone, lie in order between the
ends of their band, and do not depend on the order of the values; means lie between
the ends too. -/
theorem percentiles_ordered :
    (∀ values : List Rat, values ≠ [] →
      TestReport.checkedLatencyBand values = .ok (TestReport.latencyBandStats values) ∧
        (TestReport.latencyBandStats values).Ordered ∧
        ∀ other, values.Perm other →
          TestReport.latencyBandStats other = TestReport.latencyBandStats values) ∧
    (∀ (connections : List ConnectionMetrics) (throughputSamples : List ThroughputSample),
      (TestReport.calculatePerformance connections throughputSamples).Ordered ∧
        ∀ others, (allLatencies connections).Perm (allLatencies others) →
          (TestReport.calculatePerformance others throughputSamples).latencies =
            (TestReport.calculatePerformance connections throughputSamples).latencies) ∧
    (∀ sortedValues : List Rat, sortedValues.Pairwise (· ≤ ·) →
      ∀ low high : Rat, 0 ≤ low → low ≤ high → high ≤ 100 →
        checkedPercentile sortedValues low = .ok (percentile sortedValues low) ∧
          checkedPercentile sortedValues high = .ok (percentile sortedValues high) ∧
          percentile sortedValues low ≤ percentile sortedValues high) ∧
    (∀ values : List UInt64, values ≠ [] → (values.map UInt64.toNat).sum < 2 ^ 64 →
      (TestReport.throughputBandStats values).Ordered) := by
  refine ⟨fun values nonempty => ?_, fun connections throughputSamples => ?_,
    fun sortedValues ordered low high nonnegative le bound => ?_,
    fun values nonempty fits => throughputBandStats_ordered nonempty fits⟩
  · exact ⟨TestReport.checkedLatencyBand_eq values, latencyBandStats_ordered nonempty,
      fun other permutation => (latencyBandStats_of_perm permutation).symm⟩
  · exact ⟨calculatePerformance_ordered connections throughputSamples,
      fun others permutation => (latencies_of_perm permutation throughputSamples).symm⟩
  · exact ⟨checkedPercentile_eq nonnegative (le.trans bound) sortedValues,
      checkedPercentile_eq (nonnegative.trans le) bound sortedValues,
      percentile_mono ordered nonnegative le bound⟩

/-- Three latencies, in two orders, and two rates. -/
theorem percentiles_ordered_three :
    (TestReport.latencyBandStats [30, 10, 20]).Ordered ∧
      TestReport.latencyBandStats [10, 20, 30] = TestReport.latencyBandStats [30, 10, 20] ∧
      percentile [10, 20, 30] 50 ≤ percentile [10, 20, 30] 95 ∧
      (TestReport.throughputBandStats [4000, 1000]).Ordered := by
  obtain ⟨bands, -, percentiles, rates⟩ := percentiles_ordered
  obtain ⟨-, ordered, same⟩ := bands [30, 10, 20] (by decide)
  obtain ⟨-, -, le⟩ := percentiles [10, 20, 30] (by decide +kernel) 50 95 (by norm_num)
    (by norm_num) (by norm_num)
  exact ⟨ordered, same _ (by decide +kernel), le, rates _ (by decide) (by decide)⟩

end Npt.Shared
