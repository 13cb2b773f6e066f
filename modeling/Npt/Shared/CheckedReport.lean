import Npt.Core.OrderStatistics
import Npt.Shared.Report

/-!
Contract: the divisions, indices and unwraps of `TestReport::generate`.

The report is computed once more, each operation checked: a divisor is not zero, an
index is in range, an unwrapped value is there. Where every check passes the two
computations agree; a division of `f64` values by zero does not stop the source, but
leaves a value that is no number.

Owns: the checked report and when it goes through.

Does not own: the exported files.
-/

namespace Npt.Shared

open Npt.Core

inductive Fault where
  | divisionByZero
  | indexOutOfRange
  | noValue
deriving DecidableEq, Repr

abbrev Checked := Except Fault

section Operations

variable {Value : Type}

def checkedDivide [Div Value] [Zero Value] [DecidableEq Value] (dividend divisor : Value) :
    Checked Value :=
  if divisor = 0 then .error .divisionByZero else .ok (dividend / divisor)

/-- `values[index]`. -/
def checkedEntry (values : List Value) (index : Nat) : Checked Value :=
  match values[index]? with
  | some value => .ok value
  | none => .error .indexOutOfRange

/-- `Option::unwrap`. -/
def checkedUnwrap : Option Value → Checked Value
  | some value => .ok value
  | none => .error .noValue

theorem checkedDivide_of_ne_zero [Div Value] [Zero Value] [DecidableEq Value]
    {dividend divisor : Value} (nonzero : divisor ≠ 0) :
    checkedDivide dividend divisor = .ok (dividend / divisor) :=
  if_neg nonzero

theorem checkedEntry_of_lt {values : List Value} {index : Nat} (inside : index < values.length)
    (default : Value) : checkedEntry values index = .ok (values.getD index default) := by
  rw [checkedEntry, List.getElem?_eq_getElem inside, List.getD_eq_getElem _ _ inside]

theorem checkedUnwrap_of_isSome {value : Option Value} (present : value.isSome = true)
    (default : Value) : checkedUnwrap value = .ok (value.getD default) := by
  obtain ⟨inner, rfl⟩ := Option.isSome_iff_exists.mp present
  rfl

end Operations

/-! ## The checked sections -/

def checkedPercentile (sortedValues : List Rat) (p : Rat) : Checked Rat := do
  if sortedValues = [] then return 0
  let index := (← checkedDivide p 100) * (sortedValues.length - 1 : Nat)
  let lower := ⌊index⌋₊
  let upper := ⌈index⌉₊
  if lower = upper then checkedEntry sortedValues lower
  else
    let weight := index - lower
    return (← checkedEntry sortedValues lower) * (1 - weight) +
      (← checkedEntry sortedValues upper) * weight

def checkedMean (values : List Rat) : Checked Rat :=
  if values = [] then return 0 else checkedDivide values.sum values.length

def checkedErrorRate (connections : List ConnectionMetrics) : Checked Rat :=
  if connections = [] then return 0
  else checkedDivide ((connections.map ConnectionMetrics.errors).sum.toNat : Rat) connections.length

namespace TestReport

def checkedPerformance (connections : List ConnectionMetrics)
    (throughputSamples : List ThroughputSample) : Checked PerformanceMetrics := do
  let allLatencies := connections.flatMap
    (fun connection => connection.latencies.map (fun latency => ((latency / 10 ^ 6 : Nat) : Rat)))
  let avgLatencyMs ← checkedMean allLatencies
  let sortedLatencies := allLatencies.mergeSort (· ≤ ·)
  let p50LatencyMs ← checkedPercentile sortedLatencies 50
  let p95LatencyMs ← checkedPercentile sortedLatencies 95
  let p99LatencyMs ← checkedPercentile sortedLatencies 99
  let totalBytes :=
    (connections.map (fun connection => connection.bytesSent + connection.bytesReceived)).sum
  let duration : Rat := totalDuration connections
  let avgThroughputMbps ← checkedDivide ((totalBytes.toNat : Rat) * 8) (duration * 1000000)
  let rates ← throughputSamples.mapM
    (fun sample => checkedDivide ((sample.reportedBps.toNat : Rat) * 8) 1000000)
  let errorRate ← checkedErrorRate connections
  let connectionsPerSecond ←
    if 0 < duration then checkedDivide (connections.length : Rat) duration else pure 0
  return {
    avgThroughputMbps := some avgThroughputMbps
    peakThroughputMbps := rates.foldl max 0
    avgLatencyMs := avgLatencyMs
    p50LatencyMs := p50LatencyMs
    p95LatencyMs := p95LatencyMs
    p99LatencyMs := p99LatencyMs
    errorRate := errorRate
    connectionsPerSecond := connectionsPerSecond }

def checkedConnectionStats (connections : List ConnectionMetrics) : Checked ConnectionStats := do
  let durations := endedDurations connections
  let avgConnectionDuration ← if durations = [] then pure 0
    else checkedDivide durations.sum durations.length
  return {
    tcpConnections := connections.countP (·.connectionType = .tcp)
    udpConnections := connections.countP (·.connectionType = .udp)
    avgConnectionDuration := avgConnectionDuration
    maxConnectionDuration := durations.max?.getD 0
    minConnectionDuration := durations.min?.getD 0 }

def checkedThroughputBand (values : List UInt64) : Checked ThroughputBand := do
  if values = [] then return ⟨0, 0, 0, 0⟩
  return {
    avgBps := UInt64.ofNat (← checkedDivide values.sum.toNat values.length)
    peakBps := ← checkedUnwrap values.max?
    minBps := ← checkedUnwrap values.min?
    totalBytes := values.sum }

def checkedThroughputStats (samples : List ThroughputSample) : Checked ThroughputStats := do
  return {
    tcpUpload := ← checkedThroughputBand (samples.map (·.bps.tcpUpload))
    tcpDownload := ← checkedThroughputBand (samples.map (·.bps.tcpDownload))
    udpUpload := ← checkedThroughputBand (samples.map (·.bps.udpUpload))
    udpDownload := ← checkedThroughputBand (samples.map (·.bps.udpDownload)) }

def checkedLatencyBand (values : List Rat) : Checked LatencyBand := do
  if values = [] then return ⟨0, 0, 0, 0, 0, 0⟩
  let sortedValues := values.mergeSort (· ≤ ·)
  return {
    avgMs := ← checkedDivide values.sum values.length
    p50Ms := ← checkedPercentile sortedValues 50
    p95Ms := ← checkedPercentile sortedValues 95
    p99Ms := ← checkedPercentile sortedValues 99
    maxMs := ← checkedUnwrap sortedValues.getLast?
    minMs := ← checkedUnwrap sortedValues.head? }

def checkedLatencyStats (samples : List LatencySample) : Checked LatencyStats := do
  return {
    tcp := ← checkedLatencyBand (samples.map LatencySample.tcpLatencyMs)
    udp := ← checkedLatencyBand (samples.map LatencySample.udpLatencyMs) }

def checkedErrorStats (connections : List ConnectionMetrics) : Checked ErrorStats := do
  let errorRate ← checkedErrorRate connections
  return { calculateErrorStats connections with errorRate := errorRate }

/-- `TestReport::generate` with every division, index and unwrap checked. -/
def checkedGenerate (now later : Nat) (connections : List ConnectionMetrics)
    (throughputSamples : List ThroughputSample) (latencySamples : List LatencySample)
    (errorSamples : List ErrorSample) (includeRawData : Bool) : Checked TestReport := do
  return {
    summary := calculateSummary now later connections
    performance := ← checkedPerformance connections throughputSamples
    connections := ← checkedConnectionStats connections
    throughput := ← checkedThroughputStats throughputSamples
    latency := ← checkedLatencyStats latencySamples
    errors := ← checkedErrorStats connections
    rawData :=
      if includeRawData then some ⟨connections, throughputSamples, latencySamples, errorSamples⟩
      else none }

end TestReport

/-! ## What goes through -/

/-- The rank of a percentile is in the list. -/
theorem inRange_percentile {p : Rat} (low : 0 ≤ p) (high : p ≤ 100) (values : List Rat) :
    InRange values (p / 100 * (values.length - 1 : Nat)) := by
  have part : p / 100 ≤ 1 := by linarith
  have positive : (0 : Rat) ≤ (values.length - 1 : Nat) := Nat.cast_nonneg _
  exact ⟨by positivity, by nlinarith⟩

theorem percentile_eq_interpolate {values : List Rat} (nonempty : values ≠ []) (p : Rat) :
    percentile values p = interpolate values (p / 100 * (values.length - 1 : Nat)) :=
  if_neg nonempty

/-- A percentile from 0 to 100 is computed at indices in range. -/
theorem checkedPercentile_eq {p : Rat} (low : 0 ≤ p) (high : p ≤ 100) (values : List Rat) :
    checkedPercentile values p = .ok (percentile values p) := by
  by_cases empty : values = []
  · simp [checkedPercentile, percentile, empty, pure, Except.pure]
  · have inRange := inRange_percentile low high values
    rw [percentile_eq_interpolate empty]
    unfold checkedPercentile interpolate
    rw [if_neg empty, checkedDivide_of_ne_zero (by norm_num : (100 : Rat) ≠ 0)]
    simp only [bind, Except.bind, checkedEntry_of_lt (inRange.floor_lt empty) 0,
      checkedEntry_of_lt (inRange.ceil_lt empty) 0]
    split <;> rfl

/-- The percentiles of the report. -/
theorem checkedPercentile_50 (values : List Rat) :
    checkedPercentile values 50 = .ok (percentile values 50) :=
  checkedPercentile_eq (by norm_num) (by norm_num) values

theorem checkedPercentile_95 (values : List Rat) :
    checkedPercentile values 95 = .ok (percentile values 95) :=
  checkedPercentile_eq (by norm_num) (by norm_num) values

theorem checkedPercentile_99 (values : List Rat) :
    checkedPercentile values 99 = .ok (percentile values 99) :=
  checkedPercentile_eq (by norm_num) (by norm_num) values

theorem checkedMean_eq (values : List Rat) : checkedMean values = .ok (mean values) := by
  unfold checkedMean mean
  split
  · rfl
  · rename_i nonempty
    exact checkedDivide_of_ne_zero (by simpa using nonempty)

theorem checkedErrorRate_eq (connections : List ConnectionMetrics) :
    checkedErrorRate connections = .ok (errorRate connections) := by
  unfold checkedErrorRate errorRate
  split
  · rfl
  · rename_i nonempty
    exact checkedDivide_of_ne_zero (by simpa using nonempty)

namespace TestReport

theorem checkedConnectionStats_eq (connections : List ConnectionMetrics) :
    checkedConnectionStats connections = .ok (calculateConnectionStats connections) := by
  unfold checkedConnectionStats calculateConnectionStats
  by_cases empty : endedDurations connections = []
  · simp only [empty, if_true]
    rfl
  · simp only [if_neg empty, checkedDivide_of_ne_zero (List.length_pos_iff.mpr empty).ne']
    rfl

theorem checkedThroughputBand_eq (values : List UInt64) :
    checkedThroughputBand values = .ok (throughputBandStats values) := by
  unfold checkedThroughputBand throughputBandStats
  by_cases empty : values = []
  · simp only [empty, if_true]
    rfl
  · simp only [if_neg empty, checkedDivide_of_ne_zero (List.length_pos_iff.mpr empty).ne',
      checkedUnwrap_of_isSome (List.isSome_max?_of_ne_nil empty) 0,
      checkedUnwrap_of_isSome (List.isSome_min?_of_ne_nil empty) 0]
    rfl

theorem checkedThroughputStats_eq (samples : List ThroughputSample) :
    checkedThroughputStats samples = .ok (calculateThroughputStats samples) := by
  simp only [checkedThroughputStats, checkedThroughputBand_eq]
  rfl

/-- The percentiles of a band are at indices in range, and its ends exist. -/
theorem checkedLatencyBand_eq (values : List Rat) :
    checkedLatencyBand values = .ok (latencyBandStats values) := by
  unfold checkedLatencyBand latencyBandStats
  by_cases empty : values = []
  · simp only [empty, if_true]
    rfl
  · have length : (values.length : Rat) ≠ 0 := by simpa using empty
    have sortedNonempty : values.mergeSort (· ≤ ·) ≠ [] := by
      rw [← List.length_pos_iff, List.length_mergeSort]
      exact List.length_pos_iff.mpr empty
    simp only [if_neg empty, checkedDivide_of_ne_zero length, mean,
      checkedPercentile_50, checkedPercentile_95, checkedPercentile_99,
      checkedUnwrap_of_isSome (List.getLast?_isSome.mpr sortedNonempty) 0,
      checkedUnwrap_of_isSome (List.isSome_head?.mpr sortedNonempty) 0,
      List.getLastD_eq_getLast?, List.headD_eq_head?_getD]
    rfl

theorem checkedLatencyStats_eq (samples : List LatencySample) :
    checkedLatencyStats samples = .ok (calculateLatencyStats samples) := by
  simp only [checkedLatencyStats, checkedLatencyBand_eq]
  rfl

theorem checkedErrorStats_eq (connections : List ConnectionMetrics) :
    checkedErrorStats connections = .ok (calculateErrorStats connections) := by
  simp only [checkedErrorStats, checkedErrorRate_eq]
  rfl

/-- The performance section needs a duration that is not zero. -/
theorem checkedPerformance_eq (connections : List ConnectionMetrics)
    (throughputSamples : List ThroughputSample) :
    checkedPerformance connections throughputSamples =
      if totalDuration connections = 0 then .error .divisionByZero
      else .ok (calculatePerformance connections throughputSamples) := by
  have rates : throughputSamples.mapM
      (fun sample => checkedDivide ((sample.reportedBps.toNat : Rat) * 8) 1000000) =
        .ok (throughputSamples.map (fun sample => megabits sample.reportedBps.toNat)) := by
    simp only [checkedDivide_of_ne_zero (by norm_num : (1000000 : Rat) ≠ 0)]
    exact List.mapM_pure
  unfold checkedPerformance calculatePerformance
  simp only [checkedMean_eq, checkedErrorRate_eq, checkedPercentile_50, checkedPercentile_95,
    checkedPercentile_99, rates]
  by_cases zero : totalDuration connections = 0
  · simp only [zero, Int.cast_zero, zero_mul]
    rfl
  · have duration : (totalDuration connections : Rat) ≠ 0 := Int.cast_ne_zero.mpr zero
    rw [if_neg zero, if_neg duration, checkedDivide_of_ne_zero (by positivity)]
    by_cases positive : (0 : Rat) < totalDuration connections
    · simp only [if_pos positive, checkedDivide_of_ne_zero duration]
      rfl
    · simp only [if_neg positive]
      rfl

/-- The whole report goes through the checks exactly when the longest ended connection
does not round to zero seconds. -/
theorem checkedGenerate_eq (now later : Nat) (connections : List ConnectionMetrics)
    (throughputSamples : List ThroughputSample) (latencySamples : List LatencySample)
    (errorSamples : List ErrorSample) (includeRawData : Bool) :
    checkedGenerate now later connections throughputSamples latencySamples errorSamples
        includeRawData =
      if totalDuration connections = 0 then .error .divisionByZero
      else .ok (generate now later connections throughputSamples latencySamples errorSamples
        includeRawData) := by
  unfold checkedGenerate
  simp only [checkedPerformance_eq, checkedConnectionStats_eq, checkedThroughputStats_eq,
    checkedLatencyStats_eq, checkedErrorStats_eq]
  split <;> rfl

end TestReport

end Npt.Shared
