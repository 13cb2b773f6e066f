import Mathlib.Data.List.MinMax
import Npt.Shared.Sampling

/-!
Contract: the report (`TestReport::generate` in `shared/src/report.rs`).

The report is six aggregations of the same connections and samples. `f64` values
are exact rationals, with `none` for a quotient by zero; counts of records are
naturals, sums of counters are `u64`. Instants and durations are nanoseconds.

Owns: the report's sections, and when its breakdowns by protocol add up.

Does not own: the exported files, or where the samples come from.
-/

namespace Npt.Shared

structure TestSummary where
  testDuration : Nat
  startTime : Nat
  endTime : Nat
  totalConnections : Nat
  successfulConnections : Nat
  failedConnections : Nat
  totalBytesSent : UInt64
  totalBytesReceived : UInt64
  totalPacketsSent : UInt64
  totalPacketsReceived : UInt64
deriving DecidableEq, Repr

structure PerformanceMetrics where
  avgThroughputMbps : Option Rat
  peakThroughputMbps : Rat
  avgLatencyMs : Rat
  p50LatencyMs : Rat
  p95LatencyMs : Rat
  p99LatencyMs : Rat
  errorRate : Rat
  connectionsPerSecond : Rat
deriving DecidableEq, Repr

structure ConnectionStats where
  tcpConnections : Nat
  udpConnections : Nat
  avgConnectionDuration : Nat
  maxConnectionDuration : Nat
  minConnectionDuration : Nat
deriving DecidableEq, Repr

structure ThroughputBand where
  avgBps : UInt64
  peakBps : UInt64
  minBps : UInt64
  totalBytes : UInt64
deriving DecidableEq, Repr

structure ThroughputStats where
  tcpUpload : ThroughputBand
  tcpDownload : ThroughputBand
  udpUpload : ThroughputBand
  udpDownload : ThroughputBand
deriving DecidableEq, Repr

structure LatencyBand where
  avgMs : Rat
  p50Ms : Rat
  p95Ms : Rat
  p99Ms : Rat
  maxMs : Rat
  minMs : Rat
deriving DecidableEq, Repr

structure LatencyStats where
  tcp : LatencyBand
  udp : LatencyBand
deriving DecidableEq, Repr

structure ErrorStats where
  totalErrors : UInt64
  tcpErrors : UInt64
  udpErrors : UInt64
  errorRate : Rat
  errorDistribution : List (String × UInt64)
  errorTypes : List (String × UInt64)
  errorDetails : List ErrorDetail
  mostRecentErrors : List ErrorDetail
deriving DecidableEq, Repr

structure RawData where
  connections : List ConnectionMetrics
  throughputSamples : List ThroughputSample
  latencySamples : List LatencySample
  errorSamples : List ErrorSample
deriving DecidableEq, Repr

structure TestReport where
  summary : TestSummary
  performance : PerformanceMetrics
  connections : ConnectionStats
  throughput : ThroughputStats
  latency : LatencyStats
  errors : ErrorStats
  rawData : Option RawData
deriving DecidableEq, Repr

/-! ## Sections -/

/-- Linear interpolation between the neighbours of rank `p / 100 * (n - 1)`. -/
def percentile (sortedValues : List Rat) (p : Rat) : Rat :=
  if sortedValues = [] then 0
  else
    let index : Rat := p / 100 * (sortedValues.length - 1 : Nat)
    let lower := ⌊index⌋₊
    let upper := ⌈index⌉₊
    if lower = upper then sortedValues.getD lower 0
    else
      let weight := index - lower
      sortedValues.getD lower 0 * (1 - weight) + sortedValues.getD upper 0 * weight

def mean (values : List Rat) : Rat :=
  if values = [] then 0 else values.sum / values.length

/-- The durations of the connections that have an end. -/
def endedDurations (connections : List ConnectionMetrics) : List Nat :=
  connections.filterMap
    (fun connection => connection.endTime.map (fun finish => finish - connection.startTime))

def megabits (bytes : Nat) : Rat := (bytes : Rat) * 8 / 1000000

/-- The rate that `calculate_performance` adds up for a sample. -/
def ThroughputSample.reportedBps (sample : ThroughputSample) : UInt64 :=
  sample.bps.tcpUpload + sample.bps.tcpDownload + sample.bps.udpUpload + sample.bps.udpDownload

/-- The text of `{:?}`. -/
def ErrorType.debug : ErrorType → String
  | .connectionFailed => "ConnectionFailed"
  | .networkTimeout => "NetworkTimeout"
  | .serializationError => "SerializationError"
  | .messageTooLarge => "MessageTooLarge"
  | .unexpectedDisconnection => "UnexpectedDisconnection"
  | .protocolError => "ProtocolError"
  | .ioError => "IoError"
  | .other => "Other"

/-- The section's errors per connection. -/
def errorRate (connections : List ConnectionMetrics) : Rat :=
  if connections = [] then 0
  else ((connections.map ConnectionMetrics.errors).sum.toNat : Rat) / connections.length

namespace TestReport

/-- `now` and `later` stand for the clock: a list without a start makes it read it,
and one without an end reads it again. -/
def calculateSummary (now later : Nat) (connections : List ConnectionMetrics) : TestSummary :=
  let successful := connections.countP
    (fun connection => connection.endTime.isSome && connection.errors = 0)
  let startTime := (connections.map ConnectionMetrics.startTime).min?.getD now
  let endTime := (connections.filterMap ConnectionMetrics.endTime).max?.getD later
  { testDuration := endTime - startTime
    startTime := startTime
    endTime := endTime
    totalConnections := connections.length
    successfulConnections := successful
    failedConnections := connections.length - successful
    totalBytesSent := (connections.map ConnectionMetrics.bytesSent).sum
    totalBytesReceived := (connections.map ConnectionMetrics.bytesReceived).sum
    totalPacketsSent := (connections.map ConnectionMetrics.packetsSent).sum
    totalPacketsReceived := (connections.map ConnectionMetrics.packetsReceived).sum }

/-- `total_duration`, in whole seconds: the longest connection that has an end. -/
def totalDuration (connections : List ConnectionMetrics) : Int :=
  ((connections.filterMap (fun connection => connection.endTime.map (fun finish =>
    ((finish : Int) - connection.startTime).tdiv (10 ^ 9)))).max?).getD 1

def calculatePerformance (connections : List ConnectionMetrics)
    (throughputSamples : List ThroughputSample) : PerformanceMetrics :=
  let allLatencies := connections.flatMap
    (fun connection => connection.latencies.map (fun latency => ((latency / 10 ^ 6 : Nat) : Rat)))
  let sortedLatencies := allLatencies.mergeSort (· ≤ ·)
  let totalBytes :=
    (connections.map (fun connection => connection.bytesSent + connection.bytesReceived)).sum
  let duration : Rat := totalDuration connections
  { avgThroughputMbps :=
      if duration = 0 then none else some ((totalBytes.toNat : Rat) * 8 / (duration * 1000000))
    peakThroughputMbps :=
      (throughputSamples.map (fun sample => megabits sample.reportedBps.toNat)).foldl max 0
    avgLatencyMs := mean allLatencies
    p50LatencyMs := percentile sortedLatencies 50
    p95LatencyMs := percentile sortedLatencies 95
    p99LatencyMs := percentile sortedLatencies 99
    errorRate := errorRate connections
    connectionsPerSecond := if 0 < duration then connections.length / duration else 0 }

def calculateConnectionStats (connections : List ConnectionMetrics) : ConnectionStats :=
  let durations := endedDurations connections
  { tcpConnections := connections.countP (·.connectionType = .tcp)
    udpConnections := connections.countP (·.connectionType = .udp)
    avgConnectionDuration := if durations = [] then 0 else durations.sum / durations.length
    maxConnectionDuration := durations.max?.getD 0
    minConnectionDuration := durations.min?.getD 0 }

/-- A length is a `usize`, so `values.len() as u64` is the length itself. -/
def throughputBandStats (values : List UInt64) : ThroughputBand :=
  if values = [] then ⟨0, 0, 0, 0⟩
  else
    { avgBps := UInt64.ofNat (values.sum.toNat / values.length)
      peakBps := values.max?.getD 0
      minBps := values.min?.getD 0
      totalBytes := values.sum }

def calculateThroughputStats (samples : List ThroughputSample) : ThroughputStats where
  tcpUpload := throughputBandStats (samples.map (·.bps.tcpUpload))
  tcpDownload := throughputBandStats (samples.map (·.bps.tcpDownload))
  udpUpload := throughputBandStats (samples.map (·.bps.udpUpload))
  udpDownload := throughputBandStats (samples.map (·.bps.udpDownload))

def latencyBandStats (values : List Rat) : LatencyBand :=
  if values = [] then ⟨0, 0, 0, 0, 0, 0⟩
  else
    let sortedValues := values.mergeSort (· ≤ ·)
    { avgMs := mean values
      p50Ms := percentile sortedValues 50
      p95Ms := percentile sortedValues 95
      p99Ms := percentile sortedValues 99
      maxMs := sortedValues.getLastD 0
      minMs := sortedValues.headD 0 }

def calculateLatencyStats (samples : List LatencySample) : LatencyStats where
  tcp := latencyBandStats (samples.map LatencySample.tcpLatencyMs)
  udp := latencyBandStats (samples.map LatencySample.udpLatencyMs)

/-- `*error_types.entry(error_type_name).or_insert(0) += 1`. -/
def countError (errorTypes : List (String × UInt64)) (errorTypeName : String) :
    List (String × UInt64) :=
  match errorTypes with
  | [] => [(errorTypeName, 1)]
  | (counted, count) :: rest =>
      if counted = errorTypeName then (counted, count + 1) :: rest
      else (counted, count) :: countError rest errorTypeName

/-- The errors of a protocol's connections. -/
def protocolErrors (connections : List ConnectionMetrics) (protocol : ConnectionType) : UInt64 :=
  ((connections.filter (·.connectionType = protocol)).map ConnectionMetrics.errors).sum

def calculateErrorStats (connections : List ConnectionMetrics) : ErrorStats :=
  let tcpErrors := protocolErrors connections .tcp
  let udpErrors := protocolErrors connections .udp
  let allErrorDetails := connections.flatMap ConnectionMetrics.errorDetails
  { totalErrors := (connections.map ConnectionMetrics.errors).sum
    tcpErrors := tcpErrors
    udpErrors := udpErrors
    errorRate := errorRate connections
    errorDistribution := [("tcp_errors", tcpErrors), ("udp_errors", udpErrors)]
    errorTypes := (allErrorDetails.map (·.errorType.debug)).foldl countError []
    errorDetails := allErrorDetails
    mostRecentErrors :=
      (allErrorDetails.mergeSort (fun left right => right.timestamp ≤ left.timestamp)).take 10 }

def generate (now later : Nat) (connections : List ConnectionMetrics)
    (throughputSamples : List ThroughputSample) (latencySamples : List LatencySample)
    (errorSamples : List ErrorSample) (includeRawData : Bool) : TestReport where
  summary := calculateSummary now later connections
  performance := calculatePerformance connections throughputSamples
  connections := calculateConnectionStats connections
  throughput := calculateThroughputStats throughputSamples
  latency := calculateLatencyStats latencySamples
  errors := calculateErrorStats connections
  rawData :=
    if includeRawData then some ⟨connections, throughputSamples, latencySamples, errorSamples⟩
    else none

end TestReport

/-! ## Breakdowns by protocol -/

/-- The rate of all six streams of a sample. -/
def ThroughputSample.totalBps (sample : ThroughputSample) : Nat :=
  sample.bps.tcpUpload.toNat + sample.bps.tcpDownload.toNat + sample.bps.udpUpload.toNat +
    sample.bps.udpDownload.toNat + sample.bps.quicUpload.toNat + sample.bps.quicDownload.toNat

/-- The sample has a QUIC rate, or TCP and UDP rates that together leave `u64`. -/
def ThroughputSample.Underreported (sample : ThroughputSample) : Prop :=
  sample.bps.quicUpload ≠ 0 ∨ sample.bps.quicDownload ≠ 0 ∨
    2 ^ 64 ≤ sample.bps.tcpUpload.toNat + sample.bps.tcpDownload.toNat +
      sample.bps.udpUpload.toNat + sample.bps.udpDownload.toNat

/-- Any other sample is reported whole. -/
theorem ThroughputSample.toNat_reportedBps {sample : ThroughputSample}
    (whole : ¬sample.Underreported) : sample.reportedBps.toNat = sample.totalBps := by
  unfold Underreported at whole
  push Not at whole
  obtain ⟨noUpload, noDownload, fits⟩ := whole
  simp only [reportedBps, totalBps, noUpload, noDownload, UInt64.toNat_add, UInt64.toNat_zero]
  omega

/-- The breakdowns of a report add up, for the samples it is made of. -/
structure TestReport.AddsUp (report : TestReport) (samples : List ThroughputSample) : Prop where
  connections : report.connections.tcpConnections + report.connections.udpConnections =
    report.summary.totalConnections
  errors : report.errors.tcpErrors + report.errors.udpErrors = report.errors.totalErrors
  distribution : (report.errors.errorDistribution.map Prod.snd).sum = report.errors.totalErrors
  peak : ∀ sample ∈ samples, megabits sample.totalBps ≤ report.performance.peakThroughputMbps

section Breakdowns

variable (connections : List ConnectionMetrics)

/-- The connections of the three protocols are all connections. -/
theorem countP_protocols :
    connections.countP (·.connectionType = .tcp) + connections.countP (·.connectionType = .udp) +
      connections.countP (·.connectionType = .quic) = connections.length := by
  induction connections with
  | nil => rfl
  | cons connection connections inductionHypothesis =>
      simp only [List.countP_cons, List.length_cons, ← inductionHypothesis]
      cases connection.connectionType <;> simp <;> omega

/-- The errors of the three protocols are all errors. -/
theorem protocolErrors_add :
    TestReport.protocolErrors connections .tcp + TestReport.protocolErrors connections .udp +
      TestReport.protocolErrors connections .quic =
        (connections.map ConnectionMetrics.errors).sum := by
  induction connections with
  | nil => rfl
  | cons connection connections inductionHypothesis =>
      unfold TestReport.protocolErrors at inductionHypothesis ⊢
      rw [List.map_cons, List.sum_cons, ← inductionHypothesis]
      cases here : connection.connectionType <;> simp [here] <;> ac_rfl

theorem protocolErrors_eq_zero {protocol : ConnectionType}
    (without : ∀ connection ∈ connections, connection.connectionType ≠ protocol) :
    TestReport.protocolErrors connections protocol = 0 := by
  have none : connections.filter (·.connectionType = protocol) = [] := by
    simpa [List.filter_eq_nil_iff] using without
  rw [TestReport.protocolErrors, none]
  rfl

end Breakdowns

theorem megabits_le_iff {left right : Nat} : megabits left ≤ megabits right ↔ left ≤ right := by
  unfold megabits
  rw [div_le_div_iff_of_pos_right (by norm_num), mul_le_mul_iff_left₀ (by norm_num), Nat.cast_le]

/-- A value is under a running maximum exactly when it is under one of the
values. -/
theorem le_foldl_max_iff {value : Rat} (values : List Rat) (first : Rat) :
    value ≤ values.foldl max first ↔ value ≤ first ∨ ∃ other ∈ values, value ≤ other := by
  induction values generalizing first with
  | nil => simp
  | cons head values inductionHypothesis =>
      rw [List.foldl_cons, inductionHypothesis, le_max_iff]
      simp [or_assoc]

/-- When the breakdowns of a report add up: no connection is QUIC, and the rate
of a sample that is not reported whole is reached by what is reported of some
sample. -/
theorem breakdowns_add_up_iff (now later : Nat) (connections : List ConnectionMetrics)
    (throughputSamples : List ThroughputSample) (latencySamples : List LatencySample)
    (errorSamples : List ErrorSample) (includeRawData : Bool) :
    (TestReport.generate now later connections throughputSamples latencySamples errorSamples
        includeRawData).AddsUp throughputSamples ↔
      (∀ connection ∈ connections, connection.connectionType ≠ .quic) ∧
      ∀ sample ∈ throughputSamples, sample.Underreported →
        ∃ other ∈ throughputSamples, sample.totalBps ≤ other.reportedBps.toNat := by
  have counted := countP_protocols connections
  have peaks : ∀ sample : ThroughputSample, sample ∈ throughputSamples →
      (megabits sample.totalBps ≤
          (throughputSamples.map (fun sample => megabits sample.reportedBps.toNat)).foldl max 0 ↔
        ∃ other ∈ throughputSamples, sample.totalBps ≤ other.reportedBps.toNat) := by
    intro sample member
    rw [le_foldl_max_iff]
    simp only [List.mem_map, exists_exists_and_eq_and, megabits_le_iff]
    refine or_iff_right_of_imp (fun none => ⟨sample, member, ?_⟩)
    have zero : megabits sample.totalBps ≤ megabits 0 := by simpa [megabits] using none
    exact (megabits_le_iff.mp zero).trans (Nat.zero_le _)
  constructor
  · intro addsUp
    refine ⟨fun connection member quic => ?_, fun sample member _ =>
      (peaks sample member).mp (addsUp.peak sample member)⟩
    have none : connections.countP (·.connectionType = .quic) = 0 := by
      have whole := addsUp.connections
      simp only [TestReport.generate, TestReport.calculateConnectionStats,
        TestReport.calculateSummary] at whole
      omega
    exact List.countP_eq_zero.mp none connection member (by simp [quic])
  · rintro ⟨without, reached⟩
    have errors := protocolErrors_add connections
    rw [protocolErrors_eq_zero connections without, add_zero] at errors
    exact
      { connections := by
          have none : connections.countP (·.connectionType = .quic) = 0 :=
            List.countP_eq_zero.mpr (fun connection member => by simp [without connection member])
          simp only [TestReport.generate, TestReport.calculateConnectionStats,
            TestReport.calculateSummary]
          omega
        errors := errors
        distribution := by
          simpa [TestReport.generate, TestReport.calculateErrorStats] using errors
        peak := fun sample member => (peaks sample member).mpr (by
          by_cases partly : sample.Underreported
          · exact reached sample member partly
          · exact ⟨sample, member, (sample.toNat_reportedBps partly).ge⟩) }

/-- One QUIC connection with an error. -/
def quicConnection : ConnectionMetrics where
  id := ⟨1⟩
  connectionType := .quic
  startTime := 0
  bytesSent := 1000000
  errors := 1

/-- Its bytes over one second. -/
def quicSample : ThroughputSample where
  timestamp := 1000000000
  bps := { Streams.fill 0 with quicUpload := 1000000 }

theorem quic_left_out :
    let report := TestReport.generate 0 0 [quicConnection] [quicSample] [] [] false
    report.connections.tcpConnections + report.connections.udpConnections ≠
        report.summary.totalConnections ∧
      report.errors.tcpErrors + report.errors.udpErrors ≠ report.errors.totalErrors ∧
      (report.errors.errorDistribution.map Prod.snd).sum ≠ report.errors.totalErrors ∧
      ¬megabits quicSample.totalBps ≤ report.performance.peakThroughputMbps := by
  decide +kernel

end Npt.Shared
