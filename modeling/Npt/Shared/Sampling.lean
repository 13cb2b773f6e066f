import Mathlib.Algebra.Order.BigOperators.Group.List
import Mathlib.Algebra.Order.Floor.Ring
import Mathlib.Data.Rat.Floor
import Mathlib.Data.UInt
import Npt.Core.Ledger
import Npt.Core.TableSum
import Npt.Shared.Operation

/-!
Contract: the samplers of the metrics collector (`sample_throughput`,
`sample_latency` and `sample_errors` in `shared/src/metrics.rs`) over runs of
the collector.

There are six byte streams: three protocols, two directions. Each has a register
with its total at the last sample that was pushed. Instants and durations are
nanoseconds, `f64` values are exact rationals, and `as u64` cuts off at the
largest `u64`.

Owns: the samplers, the machine of a collector under a monotone clock with
fresh connection ids, and what the pushed throughput samples add up to.

Does not own: the report made of the samples.
-/

namespace Npt.Shared

open Npt.Core

inductive Direction where
  | upload
  | download
deriving DecidableEq, Repr

/-- One value for each stream. -/
structure Streams (Value : Type) where
  tcpUpload : Value
  tcpDownload : Value
  udpUpload : Value
  udpDownload : Value
  quicUpload : Value
  quicDownload : Value
deriving DecidableEq, Repr

namespace Streams

variable {Value Other Result : Type}

def get (streams : Streams Value) : ConnectionType → Direction → Value
  | .tcp, .upload => streams.tcpUpload
  | .tcp, .download => streams.tcpDownload
  | .udp, .upload => streams.udpUpload
  | .udp, .download => streams.udpDownload
  | .quic, .upload => streams.quicUpload
  | .quic, .download => streams.quicDownload

def fill (value : Value) : Streams Value := ⟨value, value, value, value, value, value⟩

def zipWith (combine : Value → Other → Result) (left : Streams Value) (right : Streams Other) :
    Streams Result where
  tcpUpload := combine left.tcpUpload right.tcpUpload
  tcpDownload := combine left.tcpDownload right.tcpDownload
  udpUpload := combine left.udpUpload right.udpUpload
  udpDownload := combine left.udpDownload right.udpDownload
  quicUpload := combine left.quicUpload right.quicUpload
  quicDownload := combine left.quicDownload right.quicDownload

def map (change : Value → Result) (streams : Streams Value) : Streams Result :=
  streams.zipWith (fun value _ => change value) streams

section Get

variable (protocol : ConnectionType) (direction : Direction)

@[simp] theorem get_fill (value : Value) : (fill value).get protocol direction = value := by
  cases protocol <;> cases direction <;> rfl

@[simp] theorem get_zipWith (combine : Value → Other → Result) (left : Streams Value)
    (right : Streams Other) :
    (zipWith combine left right).get protocol direction =
      combine (left.get protocol direction) (right.get protocol direction) := by
  cases protocol <;> cases direction <;> rfl

@[simp] theorem get_map (change : Value → Result) (streams : Streams Value) :
    (map change streams).get protocol direction = change (streams.get protocol direction) :=
  get_zipWith protocol direction _ _ _

end Get

theorem ext_get {left right : Streams Value}
    (same : ∀ protocol direction, left.get protocol direction = right.get protocol direction) :
    left = right := by
  have tcpUpload := same .tcp .upload
  have tcpDownload := same .tcp .download
  have udpUpload := same .udp .upload
  have udpDownload := same .udp .download
  have quicUpload := same .quic .upload
  have quicDownload := same .quic .download
  cases left
  cases right
  simp_all [get]

end Streams

/-- `f64 as u64`, for a value that is not negative. -/
def asU64 (value : Rat) : UInt64 := UInt64.ofNat (min ⌊value⌋₊ (2 ^ 64 - 1))

/-- `u64::saturating_sub`. -/
def saturatingSub (left right : UInt64) : UInt64 := if right ≤ left then left - right else 0

theorem toNat_asU64 (value : Rat) : (asU64 value).toNat = min ⌊value⌋₊ (2 ^ 64 - 1) := by
  rw [asU64, UInt64.toNat_ofNat']
  refine Nat.mod_eq_of_lt (lt_of_le_of_lt (Nat.min_le_right _ _) ?_)
  decide

theorem toNat_saturatingSub (left right : UInt64) :
    (saturatingSub left right).toNat = left.toNat - right.toNat := by
  unfold saturatingSub
  split
  · rename_i le
    exact UInt64.toNat_sub_of_le _ _ le
  · rename_i less
    have lt : left.toNat < right.toNat := UInt64.lt_iff_toNat_lt.mp (UInt64.not_le.mp less)
    rw [UInt64.toNat_zero]
    omega

structure ThroughputSample where
  timestamp : Nat
  bps : Streams UInt64
deriving DecidableEq, Repr

structure LatencySample where
  timestamp : Nat
  tcpLatencyMs : Rat
  udpLatencyMs : Rat
deriving DecidableEq, Repr

structure ErrorSample where
  timestamp : Nat
  tcpErrors : UInt64
  udpErrors : UInt64
  quicErrors : UInt64
  errorDetails : List ErrorDetail
deriving DecidableEq, Repr

/-! ## Totals of the records -/

def ConnectionMetrics.bytes (connection : ConnectionMetrics) : Direction → UInt64
  | .upload => connection.bytesSent
  | .download => connection.bytesReceived

/-- What a record adds to a stream. -/
def ConnectionMetrics.streamBytes (protocol : ConnectionType) (direction : Direction)
    (connection : ConnectionMetrics) : UInt64 :=
  if connection.connectionType = protocol then connection.bytes direction else 0

/-- One round of the loop of `sample_throughput`. -/
def Streams.addConnection (totals : Streams UInt64) (metrics : ConnectionMetrics) :
    Streams UInt64 :=
  match metrics.connectionType with
  | .tcp =>
      { totals with
        tcpUpload := totals.tcpUpload + metrics.bytesSent
        tcpDownload := totals.tcpDownload + metrics.bytesReceived }
  | .udp =>
      { totals with
        udpUpload := totals.udpUpload + metrics.bytesSent
        udpDownload := totals.udpDownload + metrics.bytesReceived }
  | .quic =>
      { totals with
        quicUpload := totals.quicUpload + metrics.bytesSent
        quicDownload := totals.quicDownload + metrics.bytesReceived }

theorem Streams.get_addConnection (totals : Streams UInt64) (connection : ConnectionMetrics)
    (protocol : ConnectionType) (direction : Direction) :
    (totals.addConnection connection).get protocol direction =
      totals.get protocol direction + connection.streamBytes protocol direction := by
  unfold addConnection ConnectionMetrics.streamBytes
  cases connection.connectionType <;> cases protocol <;> cases direction <;>
    simp [get, ConnectionMetrics.bytes]

namespace MetricsCollector

def byteTotals (metrics : MetricsCollector) : Streams UInt64 :=
  metrics.connections.records.foldl Streams.addConnection (.fill 0)

theorem get_byteTotals (metrics : MetricsCollector) (protocol : ConnectionType)
    (direction : Direction) :
    metrics.byteTotals.get protocol direction =
      (metrics.connections.records.map
        (ConnectionMetrics.streamBytes protocol direction)).sum := by
  have loop : ∀ (records : List ConnectionMetrics) (totals : Streams UInt64),
      (records.foldl Streams.addConnection totals).get protocol direction =
        totals.get protocol direction +
          (records.map (ConnectionMetrics.streamBytes protocol direction)).sum := by
    intro records
    induction records with
    | nil => simp
    | cons connection records inductionHypothesis =>
        intro totals
        rw [List.foldl_cons, inductionHypothesis, Streams.get_addConnection, List.map_cons,
          List.sum_cons, add_assoc]
  rw [byteTotals, loop, Streams.get_fill, zero_add]

/-- The errors of a protocol's connections, as `sample_errors` adds them. -/
def errorTotal (metrics : MetricsCollector) (protocol : ConnectionType) : UInt64 :=
  (metrics.connections.records.map
    (fun connection => if connection.connectionType = protocol then connection.errors else 0)).sum

/-- The mean, over a protocol's connections with a latency, of their mean
latency in milliseconds. -/
def latencyMean (metrics : MetricsCollector) (protocol : ConnectionType) : Rat :=
  let measured := metrics.connections.records.filter
    (fun connection => connection.connectionType = protocol ∧ connection.latencies ≠ [])
  let means := measured.map
    (fun connection => (connection.latencies.sum / 10 ^ 6 : Nat) / (connection.latencies.length : Rat))
  if means = [] then 0 else means.sum / means.length

end MetricsCollector

/-! ## The samplers -/

/-- The collector with its histories and the registers of `sample_throughput`. -/
structure SampledCollector extends MetricsCollector where
  throughputHistory : List ThroughputSample := []
  latencyHistory : List LatencySample := []
  errorHistory : List ErrorSample := []
  lastSampleTime : Nat
  lastBytes : Streams UInt64 := .fill 0

namespace SampledCollector

/-- `MetricsCollector::new`. -/
def new (now : Nat) : SampledCollector where
  lastSampleTime := now

section Throughput

variable (now : Nat) (collector : SampledCollector)

/-- The seconds since the last sample that was pushed. -/
def elapsed : Rat := ((now - collector.lastSampleTime : Nat) : Rat) / 10 ^ 9

def deltas : Streams UInt64 :=
  collector.byteTotals.zipWith saturatingSub collector.lastBytes

/-- The sample that a push at `now` appends. -/
def sample : ThroughputSample where
  timestamp := now
  bps := collector.deltas.map (fun delta => asU64 (delta.toNat / collector.elapsed now))

def sampleThroughput : SampledCollector :=
  if 1 / 10 ≤ collector.elapsed now then
    { collector with
      throughputHistory := collector.throughputHistory ++ [collector.sample now]
      lastBytes := collector.byteTotals
      lastSampleTime := now }
  else collector

/-- `sample_latency`, whose QUIC mean is not stored. -/
def sampleLatency : SampledCollector :=
  { collector with
    latencyHistory := collector.latencyHistory ++
      [⟨now, collector.latencyMean .tcp, collector.latencyMean .udp⟩] }

def sampleErrors : SampledCollector :=
  { collector with
    errorHistory := collector.errorHistory ++
      [⟨now, collector.errorTotal .tcp, collector.errorTotal .udp, collector.errorTotal .quic,
        collector.connections.records.flatMap ConnectionMetrics.errorDetails⟩] }

end Throughput

end SampledCollector

/-! ## Runs of the collector -/

structure CollectorState where
  now : Nat
  collector : SampledCollector

inductive CollectorLabel where
  | elapse (nanos : Nat)
  | operation (operation : Operation)
  | sampleThroughput
  | sampleLatency
  | sampleErrors
deriving DecidableEq, Repr

namespace CollectorState

variable (state : CollectorState)

/-- The operation opens no connection under an id in use. -/
def Fresh (operation : Operation) : Prop :=
  ∀ connection ∈ operation.opened state.now, ¬state.collector.Registered connection.id

instance (operation : Operation) : Decidable (state.Fresh operation) :=
  inferInstanceAs (Decidable (∀ _ ∈ _, _))

def step (state : CollectorState) : CollectorLabel → Option CollectorState
  | .elapse nanos => some { state with now := state.now + nanos }
  | .operation operation =>
      if state.Fresh operation then
        some { state with
          collector := { state.collector with
            toMetricsCollector := operation.apply state.now state.collector.toMetricsCollector } }
      else none
  | .sampleThroughput =>
      some { state with collector := state.collector.sampleThroughput state.now }
  | .sampleLatency => some { state with collector := state.collector.sampleLatency state.now }
  | .sampleErrors => some { state with collector := state.collector.sampleErrors state.now }

/-- A call of `sample_throughput` pushes a sample. -/
def Due : Prop := 1 / 10 ≤ state.collector.elapsed state.now

instance : Decidable state.Due := inferInstanceAs (Decidable (_ ≤ _))

end CollectorState

/-- A collector under a monotone clock whose connections have fresh ids. -/
def collecting : Machine CollectorState CollectorLabel where
  step := CollectorState.step

/-- A collector made at `now`. -/
def startCollecting (now : Nat) : CollectorState := ⟨now, .new now⟩

/-! ## Recorded bytes -/

/-- The bytes that a call records in a direction. -/
def ConnectionCall.bytes (direction : Direction) : ConnectionCall → UInt64
  | .recordBytesSent bytes => if direction = .upload then bytes else 0
  | .recordBytesReceived bytes => if direction = .download then bytes else 0
  | _ => 0

/-- The bytes that a step records on a stream. -/
def recordedBytes (protocol : ConnectionType) (direction : Direction) (state : CollectorState) :
    CollectorLabel → Nat
  | .operation (.record id call) =>
      if (state.collector.connections.get? id).any (·.connectionType = protocol) then
        (call.bytes direction).toNat
      else 0
  | _ => 0

/-- The bytes on a stream's records, without wrapping. -/
def MetricsCollector.transferred (metrics : MetricsCollector) (protocol : ConnectionType)
    (direction : Direction) : Nat :=
  (metrics.connections.records.map
    (fun connection => (connection.streamBytes protocol direction).toNat)).sum

section Recorded

variable {now : Nat} {metrics : MetricsCollector} {id : Uuid} {call : ConnectionCall}
  {protocol : ConnectionType} {direction : Direction}

theorem streamBytes_change (now : Nat) (id : Uuid) (call : ConnectionCall)
    (connection : ConnectionMetrics) :
    (call.change now id connection).streamBytes protocol direction =
      connection.streamBytes protocol direction +
        if connection.connectionType = protocol then call.bytes direction else 0 := by
  unfold ConnectionMetrics.streamBytes
  rw [ConnectionCall.change_connectionType]
  split
  · cases call <;> cases direction <;>
      simp [ConnectionCall.change, ConnectionCall.bytes, ConnectionMetrics.bytes,
        ConnectionMetrics.withError]
  · simp

/-- A sum of `u64` values that fits is the sum. -/
theorem toNat_sum {values : List UInt64} (fits : (values.map UInt64.toNat).sum < 2 ^ 64) :
    values.sum.toNat = (values.map UInt64.toNat).sum := by
  induction values with
  | nil => rfl
  | cons value values inductionHypothesis =>
      rw [List.map_cons, List.sum_cons] at fits ⊢
      rw [List.sum_cons, UInt64.toNat_add, inductionHypothesis (by omega), Nat.mod_eq_of_lt fits]

theorem toNat_byteTotals (fits : metrics.transferred protocol direction < 2 ^ 64) :
    (metrics.byteTotals.get protocol direction).toNat = metrics.transferred protocol direction := by
  have shape : metrics.transferred protocol direction =
      ((metrics.connections.records.map
        (ConnectionMetrics.streamBytes protocol direction)).map UInt64.toNat).sum := by
    rw [List.map_map]
    rfl
  rw [MetricsCollector.get_byteTotals, toNat_sum (shape ▸ fits), shape]

/-- A fresh operation adds what it records, as long as that fits. -/
theorem transferred_apply (operation : Operation) (state : CollectorState)
    (fresh : state.Fresh operation)
    (fits : state.collector.transferred protocol direction +
      recordedBytes protocol direction state (.operation operation) < 2 ^ 64) :
    (operation.apply state.now state.collector.toMetricsCollector).transferred protocol direction =
      state.collector.transferred protocol direction +
        recordedBytes protocol direction state (.operation operation) := by
  have effect := operation.effect_apply state.now state.collector.toMetricsCollector
  unfold MetricsCollector.transferred
  generalize (operation.apply state.now state.collector.toMetricsCollector).connections = records
    at effect
  cases effect with
  | @opens operation connection opened =>
      have absent : state.collector.connections.get? connection.id = none := by
        simpa [MetricsCollector.Registered] using fresh connection opened
      rw [Table.sum_insert _ _ absent]
      cases operation <;> simp [Operation.opened] at opened
      all_goals
        subst opened
        cases direction <;> simp [recordedBytes, ConnectionMetrics.streamBytes, ConnectionMetrics.bytes]
  | counts user =>
      rcases user with rfl | rfl <;> rfl
  | @writes id call =>
      cases found : state.collector.connections.get? id with
      | none => simp [Table.modify_of_absent _ found, recordedBytes, found]
      | some connection =>
          have moved := state.collector.connections.sum_modify
            (fun connection => (connection.streamBytes protocol direction).toNat) found
            (call.change state.now id) (call.change_id state.now id)
          have inside : (connection.streamBytes protocol direction).toNat ≤
              (state.collector.connections.records.map
                (fun connection => (connection.streamBytes protocol direction).toNat)).sum :=
            List.le_sum_of_mem
              (List.mem_map_of_mem (state.collector.connections.mem_of_get? found))
          simp only [recordedBytes, found, Option.any_some, decide_eq_true_eq] at fits ⊢
          simp only [streamBytes_change, UInt64.toNat_add] at moved
          unfold MetricsCollector.transferred at fits
          split at fits
          · rename_i same
            rw [if_pos same] at moved ⊢
            rw [Nat.mod_eq_of_lt (by omega)] at moved
            omega
          · rename_i different
            rw [if_neg different] at moved ⊢
            rw [UInt64.toNat_zero, Nat.add_zero, Nat.mod_eq_of_lt (UInt64.toNat_lt _)] at moved
            omega

end Recorded

end Npt.Shared
