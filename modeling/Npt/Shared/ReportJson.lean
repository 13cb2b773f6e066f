import Mathlib.Data.UInt
import Npt.Core.Json
import Npt.Shared.Averages
import Npt.Shared.CheckedReport

/-!
Contract: the exported JSON of a report (`export` in `shared/src/report.rs`, with the
derived `Serialize` and `Deserialize` of everything that a report holds).

Every part of a report is read back from what is written of it but one: a throughput
over a duration of zero is not finite, is written as `null`, and `null` is no number.

Owns: the codecs of the report and of its parts, and when a report is computed without
a division by zero, has finite numbers only and is read back.

Does not own: the text of a document, or the texts of instants and identifiers.
-/

namespace Npt.Shared

open Npt.Core

/-- What the export relies on outside: a document is parsed from its own text, and
every instant and identifier is read back from what is written of it. -/
structure Serialization where
  reparse : Json → Option Json
  reparse_eq : ∀ document, reparse document = some document
  instant : Codec Nat
  readable_instant : ∀ nanos, instant.Readable nanos
  notNull_instant : instant.NotNull
  uuid : Codec Uuid
  readable_uuid : ∀ id, uuid.Readable id

/-- The name of the variant. -/
def ConnectionType.name : ConnectionType → String
  | .tcp => "Tcp"
  | .udp => "Udp"
  | .quic => "Quic"

namespace Serialization

variable (serialization : Serialization)

/-! ## Scalars -/

def u64 : Codec UInt64 :=
  Codec.natural.via UInt64.toNat
    (fun value => if value < 2 ^ 64 then some (UInt64.ofNat value) else none)
    (fun value => by rw [if_pos value.toNat_lt, UInt64.ofNat_toNat])

def u32 : Codec UInt32 :=
  Codec.natural.via UInt32.toNat
    (fun value => if value < 2 ^ 32 then some (UInt32.ofNat value) else none)
    (fun value => by rw [if_pos value.toNat_lt, UInt32.ofNat_toNat])

/-- A duration as its whole seconds and the rest. -/
def duration : Codec Nat :=
  .via
    (.record (.field "secs" .natural <| .field "nanos" .natural <| .nothing)
      (fun parts : Nat × Nat => (parts.1, parts.2, ())) (fun (secs, nanos, ()) => (secs, nanos))
      (fun _ => rfl))
    (fun nanos => (nanos / 10 ^ 9, nanos % 10 ^ 9))
    (fun (secs, nanos) => some (secs * 10 ^ 9 + nanos))
    (fun nanos => congrArg some (Nat.div_add_mod' nanos (10 ^ 9)))

/-! ## Connections and samples -/

def connectionType : Codec ConnectionType :=
  .enumeration ConnectionType.name [.tcp, .udp, .quic] (by intro value; cases value <;> decide)

def errorType : Codec ErrorType :=
  .enumeration ErrorType.debug
    [.connectionFailed, .networkTimeout, .serializationError, .messageTooLarge,
      .unexpectedDisconnection, .protocolError, .ioError, .other]
    (by intro value; cases value <;> decide)

/-- A count and a range, as three of the activities have them. -/
def counted (Count : Type) (codec : Codec Count) (countName rangeName : String)
    (different : countName ≠ rangeName) : Codec (Count × UInt32 × UInt32) :=
  .record
    (.field countName codec (.field rangeName (u32.pair u32) .nothing) (by simpa using different))
    (fun value => (value.1, value.2, ())) (fun (count, range, ()) => (count, range)) (fun _ => rfl)

def userActivity : Codec UserActivity :=
  .tagged
    (.variant "WebBrowsing" (counted _ u32 "pages_to_visit" "requests_per_page" (by decide)) <|
      .variant "FileDownload" (counted _ u64 "file_size" "chunk_size" (by decide)) <|
      .variant "FileUpload" (counted _ u64 "file_size" "chunk_size" (by decide)) <|
      .variant "QuicWebBrowsing"
        (.record
          (.field "pages_to_visit" u32 <| .field "resources_per_page" (u32.pair u32) <|
            .field "concurrent_requests" u32 <| .nothing)
          (fun value : UInt32 × (UInt32 × UInt32) × UInt32 => (value.1, value.2.1, value.2.2, ()))
          (fun (pages, resources, concurrent, ()) => (pages, resources, concurrent))
          (fun _ => rfl)) <|
      .nothing)
    (fun
      | .webBrowsing pages requests => .inl (pages, requests)
      | .fileDownload size chunk => .inr (.inl (size, chunk))
      | .fileUpload size chunk => .inr (.inr (.inl (size, chunk)))
      | .quicWebBrowsing pages resources concurrent =>
          .inr (.inr (.inr (.inl (pages, resources, concurrent)))))
    (fun
      | .inl (pages, requests) => .webBrowsing pages requests
      | .inr (.inl (size, chunk)) => .fileDownload size chunk
      | .inr (.inr (.inl (size, chunk))) => .fileUpload size chunk
      | .inr (.inr (.inr (.inl (pages, resources, concurrent)))) =>
          .quicWebBrowsing pages resources concurrent)
    (fun value => by cases value <;> rfl)

theorem notNull_userActivity : userActivity.NotNull := Codec.notNull_tagged _ _ _ _

def errorDetail : Codec ErrorDetail :=
  .record
    (.field "error_type" errorType <|
      .field "message" .text <|
      .field "timestamp" serialization.instant <|
      .field "connection_id" serialization.uuid <|
      .field "context" (Codec.text.optional Codec.notNull_text) <|
      .nothing)
    (fun detail => (detail.errorType, detail.message, detail.timestamp, detail.connectionId,
      detail.context, ()))
    (fun (errorType, message, timestamp, connectionId, context, ()) =>
      ⟨errorType, message, timestamp, connectionId, context⟩)
    (fun _ => rfl)

def connectionMetrics : Codec ConnectionMetrics :=
  .record
    (.field "id" serialization.uuid <|
      .field "connection_type" connectionType <|
      .field "start_time" serialization.instant <|
      .field "end_time" (serialization.instant.optional serialization.notNull_instant) <|
      .field "bytes_sent" u64 <|
      .field "bytes_received" u64 <|
      .field "packets_sent" u64 <|
      .field "packets_received" u64 <|
      .field "errors" u64 <|
      .field "latencies" (.array duration) <|
      .field "user_activity" (userActivity.optional notNull_userActivity) <|
      .field "error_details" (.array serialization.errorDetail) <|
      .nothing)
    (fun connection => (connection.id, connection.connectionType, connection.startTime,
      connection.endTime, connection.bytesSent, connection.bytesReceived, connection.packetsSent,
      connection.packetsReceived, connection.errors, connection.latencies, connection.userActivity,
      connection.errorDetails, ()))
    (fun (id, connectionType, startTime, endTime, bytesSent, bytesReceived, packetsSent,
        packetsReceived, errors, latencies, userActivity, errorDetails, ()) =>
      ⟨id, connectionType, startTime, endTime, bytesSent, bytesReceived, packetsSent,
        packetsReceived, errors, latencies, userActivity, errorDetails⟩)
    (fun _ => rfl)

def throughputSample : Codec ThroughputSample :=
  .record
    (.field "timestamp" serialization.instant <|
      .field "tcp_upload_bps" u64 <|
      .field "tcp_download_bps" u64 <|
      .field "udp_upload_bps" u64 <|
      .field "udp_download_bps" u64 <|
      .field "quic_upload_bps" u64 <|
      .field "quic_download_bps" u64 <|
      .nothing)
    (fun sample => (sample.timestamp, sample.bps.tcpUpload, sample.bps.tcpDownload,
      sample.bps.udpUpload, sample.bps.udpDownload, sample.bps.quicUpload,
      sample.bps.quicDownload, ()))
    (fun (timestamp, tcpUpload, tcpDownload, udpUpload, udpDownload, quicUpload, quicDownload,
        ()) =>
      ⟨timestamp, tcpUpload, tcpDownload, udpUpload, udpDownload, quicUpload, quicDownload⟩)
    (fun _ => rfl)

def latencySample : Codec LatencySample :=
  .record
    (.field "timestamp" serialization.instant <|
      .field "tcp_latency_ms" .real <|
      .field "udp_latency_ms" .real <|
      .nothing)
    (fun sample => (sample.timestamp, sample.tcpLatencyMs, sample.udpLatencyMs, ()))
    (fun (timestamp, tcpLatencyMs, udpLatencyMs, ()) => ⟨timestamp, tcpLatencyMs, udpLatencyMs⟩)
    (fun _ => rfl)

def errorSample : Codec ErrorSample :=
  .record
    (.field "timestamp" serialization.instant <|
      .field "tcp_errors" u64 <|
      .field "udp_errors" u64 <|
      .field "quic_errors" u64 <|
      .field "error_details" (.array serialization.errorDetail) <|
      .nothing)
    (fun sample => (sample.timestamp, sample.tcpErrors, sample.udpErrors, sample.quicErrors,
      sample.errorDetails, ()))
    (fun (timestamp, tcpErrors, udpErrors, quicErrors, errorDetails, ()) =>
      ⟨timestamp, tcpErrors, udpErrors, quicErrors, errorDetails⟩)
    (fun _ => rfl)

/-! ## The report -/

def testSummary : Codec TestSummary :=
  .record
    (.field "test_duration" duration <|
      .field "start_time" serialization.instant <|
      .field "end_time" serialization.instant <|
      .field "total_connections" .natural <|
      .field "successful_connections" .natural <|
      .field "failed_connections" .natural <|
      .field "total_bytes_sent" u64 <|
      .field "total_bytes_received" u64 <|
      .field "total_packets_sent" u64 <|
      .field "total_packets_received" u64 <|
      .nothing)
    (fun summary => (summary.testDuration, summary.startTime, summary.endTime,
      summary.totalConnections, summary.successfulConnections, summary.failedConnections,
      summary.totalBytesSent, summary.totalBytesReceived, summary.totalPacketsSent,
      summary.totalPacketsReceived, ()))
    (fun (testDuration, startTime, endTime, totalConnections, successfulConnections,
        failedConnections, totalBytesSent, totalBytesReceived, totalPacketsSent,
        totalPacketsReceived, ()) =>
      ⟨testDuration, startTime, endTime, totalConnections, successfulConnections,
        failedConnections, totalBytesSent, totalBytesReceived, totalPacketsSent,
        totalPacketsReceived⟩)
    (fun _ => rfl)

def performanceMetrics : Codec PerformanceMetrics :=
  .record
    (.field "avg_throughput_mbps" .float <|
      .field "peak_throughput_mbps" .real <|
      .field "avg_latency_ms" .real <|
      .field "p50_latency_ms" .real <|
      .field "p95_latency_ms" .real <|
      .field "p99_latency_ms" .real <|
      .field "error_rate" .real <|
      .field "connections_per_second" .real <|
      .nothing)
    (fun performance => (performance.avgThroughputMbps, performance.peakThroughputMbps,
      performance.avgLatencyMs, performance.p50LatencyMs, performance.p95LatencyMs,
      performance.p99LatencyMs, performance.errorRate, performance.connectionsPerSecond, ()))
    (fun (avgThroughputMbps, peakThroughputMbps, avgLatencyMs, p50LatencyMs, p95LatencyMs,
        p99LatencyMs, errorRate, connectionsPerSecond, ()) =>
      ⟨avgThroughputMbps, peakThroughputMbps, avgLatencyMs, p50LatencyMs, p95LatencyMs,
        p99LatencyMs, errorRate, connectionsPerSecond⟩)
    (fun _ => rfl)

def connectionStats : Codec ConnectionStats :=
  .record
    (.field "tcp_connections" .natural <|
      .field "udp_connections" .natural <|
      .field "avg_connection_duration" duration <|
      .field "max_connection_duration" duration <|
      .field "min_connection_duration" duration <|
      .nothing)
    (fun stats => (stats.tcpConnections, stats.udpConnections, stats.avgConnectionDuration,
      stats.maxConnectionDuration, stats.minConnectionDuration, ()))
    (fun (tcpConnections, udpConnections, avgConnectionDuration, maxConnectionDuration,
        minConnectionDuration, ()) =>
      ⟨tcpConnections, udpConnections, avgConnectionDuration, maxConnectionDuration,
        minConnectionDuration⟩)
    (fun _ => rfl)

def throughputBand : Codec ThroughputBand :=
  .record
    (.field "avg_bps" u64 <|
      .field "peak_bps" u64 <|
      .field "min_bps" u64 <|
      .field "total_bytes" u64 <|
      .nothing)
    (fun band => (band.avgBps, band.peakBps, band.minBps, band.totalBytes, ()))
    (fun (avgBps, peakBps, minBps, totalBytes, ()) => ⟨avgBps, peakBps, minBps, totalBytes⟩)
    (fun _ => rfl)

def throughputStats : Codec ThroughputStats :=
  .record
    (.field "tcp_upload" throughputBand <|
      .field "tcp_download" throughputBand <|
      .field "udp_upload" throughputBand <|
      .field "udp_download" throughputBand <|
      .nothing)
    (fun stats => (stats.tcpUpload, stats.tcpDownload, stats.udpUpload, stats.udpDownload, ()))
    (fun (tcpUpload, tcpDownload, udpUpload, udpDownload, ()) =>
      ⟨tcpUpload, tcpDownload, udpUpload, udpDownload⟩)
    (fun _ => rfl)

def latencyBand : Codec LatencyBand :=
  .record
    (.field "avg_ms" .real <|
      .field "p50_ms" .real <|
      .field "p95_ms" .real <|
      .field "p99_ms" .real <|
      .field "max_ms" .real <|
      .field "min_ms" .real <|
      .nothing)
    (fun band => (band.avgMs, band.p50Ms, band.p95Ms, band.p99Ms, band.maxMs, band.minMs, ()))
    (fun (avgMs, p50Ms, p95Ms, p99Ms, maxMs, minMs, ()) =>
      ⟨avgMs, p50Ms, p95Ms, p99Ms, maxMs, minMs⟩)
    (fun _ => rfl)

def latencyStats : Codec LatencyStats :=
  .record (.field "tcp" latencyBand <| .field "udp" latencyBand <| .nothing)
    (fun stats => (stats.tcp, stats.udp, ())) (fun (tcp, udp, ()) => ⟨tcp, udp⟩) (fun _ => rfl)

def errorStats : Codec ErrorStats :=
  .record
    (.field "total_errors" u64 <|
      .field "tcp_errors" u64 <|
      .field "udp_errors" u64 <|
      .field "error_rate" .real <|
      .field "error_distribution" (.dictionary u64) <|
      .field "error_types" (.dictionary u64) <|
      .field "error_details" (.array serialization.errorDetail) <|
      .field "most_recent_errors" (.array serialization.errorDetail) <|
      .nothing)
    (fun stats => (stats.totalErrors, stats.tcpErrors, stats.udpErrors, stats.errorRate,
      stats.errorDistribution, stats.errorTypes, stats.errorDetails, stats.mostRecentErrors, ()))
    (fun (totalErrors, tcpErrors, udpErrors, errorRate, errorDistribution, errorTypes,
        errorDetails, mostRecentErrors, ()) =>
      ⟨totalErrors, tcpErrors, udpErrors, errorRate, errorDistribution, errorTypes, errorDetails,
        mostRecentErrors⟩)
    (fun _ => rfl)

def rawData : Codec RawData :=
  .record
    (.field "connections" (.array serialization.connectionMetrics) <|
      .field "throughput_samples" (.array serialization.throughputSample) <|
      .field "latency_samples" (.array serialization.latencySample) <|
      .field "error_samples" (.array serialization.errorSample) <|
      .nothing)
    (fun raw => (raw.connections, raw.throughputSamples, raw.latencySamples, raw.errorSamples, ()))
    (fun (connections, throughputSamples, latencySamples, errorSamples, ()) =>
      ⟨connections, throughputSamples, latencySamples, errorSamples⟩)
    (fun _ => rfl)

theorem notNull_rawData : serialization.rawData.NotNull := Codec.notNull_record _ _ _ _

def testReport : Codec TestReport :=
  .record
    (.field "summary" serialization.testSummary <|
      .field "performance" performanceMetrics <|
      .field "connections" connectionStats <|
      .field "throughput" throughputStats <|
      .field "latency" latencyStats <|
      .field "errors" serialization.errorStats <|
      .field "raw_data" (serialization.rawData.optional serialization.notNull_rawData) <|
      .nothing)
    (fun report => (report.summary, report.performance, report.connections, report.throughput,
      report.latency, report.errors, report.rawData, ()))
    (fun (summary, performance, connections, throughput, latency, errors, rawData, ()) =>
      ⟨summary, performance, connections, throughput, latency, errors, rawData⟩)
    (fun _ => rfl)

/-! ## What is read back -/

attribute [simp] readable_instant readable_uuid

@[simp] theorem readable_u64 (value : UInt64) : u64.Readable value := by
  simp [u64]

@[simp] theorem readable_u32 (value : UInt32) : u32.Readable value := by
  simp [u32]

@[simp] theorem readable_duration (value : Nat) : duration.Readable value := by
  simp [duration]

@[simp] theorem readable_counted {Count : Type} (codec : Codec Count)
    (countName rangeName : String) (different : countName ≠ rangeName)
    (value : Count × UInt32 × UInt32) :
    (counted Count codec countName rangeName different).Readable value ↔ codec.Readable value.1 := by
  simp [counted]

@[simp] theorem readable_userActivity (value : UserActivity) : userActivity.Readable value := by
  cases value <;> simp [userActivity]

@[simp] theorem readable_errorDetail (value : ErrorDetail) :
    serialization.errorDetail.Readable value := by
  simp [errorDetail, errorType]

@[simp] theorem readable_connectionMetrics (value : ConnectionMetrics) :
    serialization.connectionMetrics.Readable value := by
  simp [connectionMetrics, connectionType]

@[simp] theorem readable_throughputSample (value : ThroughputSample) :
    serialization.throughputSample.Readable value := by
  simp [throughputSample]

@[simp] theorem readable_latencySample (value : LatencySample) :
    serialization.latencySample.Readable value := by
  simp [latencySample]

@[simp] theorem readable_errorSample (value : ErrorSample) :
    serialization.errorSample.Readable value := by
  simp [errorSample]

@[simp] theorem readable_testSummary (value : TestSummary) :
    serialization.testSummary.Readable value := by
  simp [testSummary]

/-- The one number that may not be finite. -/
@[simp] theorem readable_performanceMetrics (value : PerformanceMetrics) :
    performanceMetrics.Readable value ↔ value.avgThroughputMbps.isSome = true := by
  simp [performanceMetrics]

@[simp] theorem readable_connectionStats (value : ConnectionStats) :
    connectionStats.Readable value := by
  simp [connectionStats]

@[simp] theorem readable_throughputStats (value : ThroughputStats) :
    throughputStats.Readable value := by
  simp [throughputStats, throughputBand]

@[simp] theorem readable_latencyStats (value : LatencyStats) : latencyStats.Readable value := by
  simp [latencyStats, latencyBand]

@[simp] theorem readable_errorStats (value : ErrorStats) :
    serialization.errorStats.Readable value := by
  simp [errorStats]

@[simp] theorem readable_rawData (value : RawData) : serialization.rawData.Readable value := by
  simp [rawData]

theorem readable_testReport (report : TestReport) :
    serialization.testReport.Readable report ↔
      report.performance.avgThroughputMbps.isSome = true := by
  simp [testReport]

/-- The exported file, read as a report. -/
def readExport (report : TestReport) : Option TestReport :=
  (serialization.reparse (serialization.testReport.write report)).bind serialization.testReport.read

theorem readExport_iff (report : TestReport) :
    serialization.readExport report = some report ↔
      report.performance.avgThroughputMbps.isSome = true := by
  rw [readExport, serialization.reparse_eq, Option.bind_some, Codec.read_write_iff,
    readable_testReport]

end Serialization

/-! ## When the report is sound -/

/-- Every `f64` of a report. -/
def TestReport.floats (report : TestReport) : List (Option Rat) :=
  let performance := report.performance
  let bands := [report.latency.tcp, report.latency.udp]
  let samples := (report.rawData.map RawData.latencySamples).getD []
  performance.avgThroughputMbps ::
    ([performance.peakThroughputMbps, performance.avgLatencyMs, performance.p50LatencyMs,
        performance.p95LatencyMs, performance.p99LatencyMs, performance.errorRate,
        performance.connectionsPerSecond, report.errors.errorRate] ++
      bands.flatMap (fun band =>
        [band.avgMs, band.p50Ms, band.p95Ms, band.p99Ms, band.maxMs, band.minMs]) ++
      samples.flatMap (fun sample => [sample.tcpLatencyMs, sample.udpLatencyMs])).map some

theorem TestReport.floats_finite_iff (report : TestReport) :
    (∀ number ∈ report.floats, number.isSome = true) ↔
      report.performance.avgThroughputMbps.isSome = true := by
  rw [floats, List.forall_mem_cons, and_iff_left_iff_imp]
  intro _ number member
  obtain ⟨finite, -, rfl⟩ := List.mem_map.mp member
  rfl

/-- The longest ended connection does not round to zero seconds: some connection took a
second, or all that ended did so a second before they started, if any. -/
def Timed (connections : List ConnectionMetrics) : Prop :=
  (∃ connection ∈ connections, ∃ finish, connection.endTime = some finish ∧
      connection.startTime + 10 ^ 9 ≤ finish) ∨
    ∀ connection ∈ connections, ∀ finish, connection.endTime = some finish →
      finish + 10 ^ 9 ≤ connection.startTime

theorem one_le_tdiv_iff {nanos : Int} : 1 ≤ nanos.tdiv (10 ^ 9) ↔ 10 ^ 9 ≤ nanos := by
  rcases le_total 0 nanos with nonnegative | negative
  · rw [Int.tdiv_eq_ediv_of_nonneg nonnegative]
    omega
  · have nonpositive := Int.tdiv_nonneg_of_nonpos_of_nonpos negative (by norm_num : -10 ^ 9 ≤ (0 : Int))
    rw [Int.tdiv_neg] at nonpositive
    omega

theorem tdiv_le_neg_one_iff {nanos : Int} : nanos.tdiv (10 ^ 9) ≤ -1 ↔ nanos ≤ -10 ^ 9 := by
  have mirrored := @one_le_tdiv_iff (-nanos)
  rw [Int.neg_tdiv] at mirrored
  omega

theorem totalDuration_ne_zero_iff (connections : List ConnectionMetrics) :
    TestReport.totalDuration connections ≠ 0 ↔ Timed connections := by
  by_cases ended : ∃ connection ∈ connections, connection.endTime.isSome = true
  · obtain ⟨longest, member, finish, endTime, total, bound⟩ := exists_longest ended
    constructor
    · intro nonzero
      rcases lt_or_gt_of_ne nonzero with negative | positive
      · refine Or.inr (fun connection inside last closes => ?_)
        have shorter := bound connection inside last closes
        have before := tdiv_le_neg_one_iff.mp (shorter.trans (Int.le_sub_one_of_lt negative))
        omega
      · have long := one_le_tdiv_iff.mp (total ▸ positive)
        exact Or.inl ⟨longest, member, finish, endTime, by omega⟩
    · rintro (⟨connection, inside, last, closes, long⟩ | before)
      · have shorter := bound connection inside last closes
        have positive : 1 ≤ ((last : Int) - connection.startTime).tdiv (10 ^ 9) :=
          one_le_tdiv_iff.mpr (by omega)
        omega
      · have early := before longest member finish endTime
        have negative : ((finish : Int) - longest.startTime).tdiv (10 ^ 9) ≤ -1 :=
          tdiv_le_neg_one_iff.mpr (by omega)
        omega
  · have none : ∀ connection ∈ connections, connection.endTime = none := by simpa using ended
    obtain ⟨one, -⟩ := durations_of_open 0 none
    rw [one]
    refine iff_of_true one_ne_zero (Or.inr (fun connection member finish closes => ?_))
    rw [none connection member] at closes
    cases closes

/-- The report is computed without a fault, has finite numbers only, and its export is
read back as it, exactly when the longest ended connection does not round to zero. -/
theorem generate_sound_iff (serialization : Serialization) (now later : Nat)
    (connections : List ConnectionMetrics) (throughputSamples : List ThroughputSample)
    (latencySamples : List LatencySample) (errorSamples : List ErrorSample)
    (includeRawData : Bool) :
    (TestReport.checkedGenerate now later connections throughputSamples latencySamples errorSamples
          includeRawData =
        .ok (.generate now later connections throughputSamples latencySamples errorSamples
          includeRawData) ∧
      (∀ number ∈ (TestReport.generate now later connections throughputSamples latencySamples
        errorSamples includeRawData).floats, number.isSome = true) ∧
      serialization.readExport (.generate now later connections throughputSamples latencySamples
          errorSamples includeRawData) =
        some (.generate now later connections throughputSamples latencySamples errorSamples
          includeRawData)) ↔
      Timed connections := by
  rw [TestReport.floats_finite_iff, Serialization.readExport_iff, TestReport.checkedGenerate_eq,
    ← totalDuration_ne_zero_iff]
  constructor
  · rintro ⟨passes, -⟩ zero
    rw [if_pos zero] at passes
    cases passes
  · intro nonzero
    have finite : (TestReport.generate now later connections throughputSamples latencySamples
        errorSamples includeRawData).performance.avgThroughputMbps.isSome = true := by
      simp [TestReport.generate, TestReport.calculatePerformance, nonzero]
    exact ⟨if_neg nonzero, finite, finite⟩

/-- Instants of a run that starts with the epoch and takes one second; other instants
are plain numbers here. -/
def epochInstant : Codec Nat where
  write nanos :=
    if nanos = 0 then .text "1970-01-01T00:00:00Z"
    else if nanos = 10 ^ 9 then .text "1970-01-01T00:00:01Z"
    else .integer nanos
  read
    | .text "1970-01-01T00:00:00Z" => some 0
    | .text "1970-01-01T00:00:01Z" => some (10 ^ 9)
    | .integer nanos => nanos.toNat?
    | _ => none
  Readable _ := True
  read_write nanos _ := by
    by_cases first : nanos = 0
    · simp [first]
    · by_cases second : nanos = 10 ^ 9
      · simp [second]
      · simp only [if_neg first, if_neg second]
        rfl
  read_unreadable _ unreadable := absurd trivial unreadable

def epochSerialization : Serialization where
  reparse := some
  reparse_eq _ := rfl
  instant := epochInstant
  readable_instant _ := trivial
  notNull_instant nanos := by
    simp only [epochInstant]
    split_ifs <;> exact Json.noConfusion
  uuid := Codec.natural.via (fun id => id.bits.toNat)
    (fun value => some ⟨BitVec.ofNat 128 value⟩)
    (fun id => by rw [BitVec.ofNat_toNat, BitVec.setWidth_eq])
  readable_uuid _ := trivial

/-- One connection of one second. -/
theorem generate_sound_iff_second :
    TestReport.checkedGenerate 0 0 [sender 1 0 1000000000] [] [] [] false =
        .ok (.generate 0 0 [sender 1 0 1000000000] [] [] [] false) ∧
      (∀ number ∈ (TestReport.generate 0 0 [sender 1 0 1000000000] [] [] [] false).floats,
        number.isSome = true) ∧
      epochSerialization.readExport (.generate 0 0 [sender 1 0 1000000000] [] [] [] false) =
        some (.generate 0 0 [sender 1 0 1000000000] [] [] [] false) :=
  (generate_sound_iff epochSerialization 0 0 [sender 1 0 1000000000] [] [] [] false).mpr
    (Or.inl ⟨sender 1 0 1000000000, List.mem_cons_self, 1000000000, rfl, by decide⟩)

/-- One connection of half a second: a division by zero, a throughput that is no number,
and an export that is not read. -/
theorem half_second_divides_by_zero :
    TestReport.checkedGenerate 0 0 [sender 1 0 500000000] [] [] [] false =
        .error .divisionByZero ∧
      (TestReport.generate 0 0 [sender 1 0 500000000] [] [] [] false).performance.avgThroughputMbps =
        none ∧
      epochSerialization.readExport (.generate 0 0 [sender 1 0 500000000] [] [] [] false) =
        none := by
  have zero : TestReport.totalDuration [sender 1 0 500000000] = 0 := by decide +kernel
  have infinite : (TestReport.generate 0 0 [sender 1 0 500000000] [] [] []
      false).performance.avgThroughputMbps = none := by
    simp [TestReport.generate, TestReport.calculatePerformance, zero]
  refine ⟨by rw [TestReport.checkedGenerate_eq, if_pos zero], infinite, ?_⟩
  refine (Codec.read_unreadable _ _ ?_)
  rw [Serialization.readable_testReport, infinite]
  decide

end Npt.Shared
