import Mathlib.Tactic.Linarith
import Npt.Shared.Conservation
import Npt.Shared.Report

/-!
Contract: `total_bytes` of a throughput band against the bytes of its stream.

`throughput_band_stats` adds up rates, not rates times intervals. The sum is the
number of bytes, to the rounding of one byte a sample, when every sample that
transferred bytes covers one second.

Owns: the bands of a collector's report and the condition under which they count
bytes.

Does not own: the samplers or the report.
-/

namespace Npt.Shared

open Npt.Core
open Npt.Core.Machine

/-- `generate_test_report`, on the collector of the state. -/
def CollectorState.report (state : CollectorState) (includeRawData : Bool) : TestReport :=
  .generate state.now state.now state.collector.connections.records state.collector.throughputHistory
    state.collector.latencyHistory state.collector.errorHistory includeRawData

/-- The band of a stream; QUIC has none. -/
def ThroughputStats.band (stats : ThroughputStats) :
    ConnectionType → Direction → Option ThroughputBand
  | .tcp, .upload => some stats.tcpUpload
  | .tcp, .download => some stats.tcpDownload
  | .udp, .upload => some stats.udpUpload
  | .udp, .download => some stats.udpDownload
  | .quic, _ => none

/-- The bytes of a stream at the last sample that was pushed. -/
def sampledBytes (protocol : ConnectionType) (direction : Direction)
    (trace : List (CollectorState × CollectorLabel)) : Nat :=
  ((pushes trace).getLast?.map (fun push => push.collector.transferred protocol direction)).getD 0

/-- `total_bytes` is the bytes, up to one byte for each sample. -/
def CountsBytes (totalBytes bytes samples : Nat) : Prop :=
  totalBytes ≤ bytes + samples ∧ bytes ≤ totalBytes + samples

/-- The interval is one second, up to one byte of the bytes it covers. -/
def Paced (delta : Nat) (elapsed : Rat) : Prop :=
  elapsed * (delta - 1) ≤ delta ∧ delta < elapsed * (delta + 2)

/-- An interval of one second is, whatever it covers. -/
theorem paced_second (delta : Nat) : Paced delta 1 := by
  constructor <;> linarith

/-- So is any interval that covers nothing. -/
theorem paced_idle {elapsed : Rat} (positive : 0 < elapsed) : Paced 0 elapsed := by
  constructor <;> norm_num <;> linarith

/-- The interval decides whether the rate counts the bytes. -/
theorem countsBytes_floor_iff {delta : Nat} {elapsed : Rat} (positive : 0 < elapsed) :
    CountsBytes ⌊(delta : Rat) / elapsed⌋₊ delta 1 ↔ Paced delta elapsed := by
  have rate : 0 ≤ (delta : Rat) / elapsed := div_nonneg (Nat.cast_nonneg _) positive.le
  have above : ⌊(delta : Rat) / elapsed⌋₊ ≤ delta + 1 ↔ (delta : Rat) < elapsed * (delta + 2) := by
    rw [← Nat.lt_succ_iff, Nat.floor_lt rate, div_lt_iff₀ positive, mul_comm]
    push_cast
    norm_num [add_assoc]
  have below : delta ≤ ⌊(delta : Rat) / elapsed⌋₊ + 1 ↔ elapsed * (delta - 1) ≤ (delta : Rat) := by
    cases delta with
    | zero =>
        simp only [Nat.zero_le, Nat.cast_zero, zero_sub, mul_neg, mul_one, true_iff]
        linarith
    | succ fewer =>
        rw [Nat.add_le_add_iff_right, Nat.le_floor_iff rate, le_div_iff₀ positive, mul_comm]
        push_cast
        rw [add_sub_cancel_right]
  rw [CountsBytes, above, below, Paced, and_comm]

/-- Every band holds the sum of its stream's rates. -/
theorem totalBytes_report (state : CollectorState) (includeRawData : Bool)
    {protocol : ConnectionType} {direction : Direction} {band : ThroughputBand}
    (here : (state.report includeRawData).throughput.band protocol direction = some band) :
    band.totalBytes =
      (state.collector.throughputHistory.map (·.bps.get protocol direction)).sum := by
  have whole : ∀ values : List UInt64,
      (TestReport.throughputBandStats values).totalBytes = values.sum := by
    intro values
    unfold TestReport.throughputBandStats
    split
    · simp [*]
    · rfl
  cases protocol <;> cases direction <;> simp only [ThroughputStats.band, reduceCtorEq] at here
  all_goals
    rw [← Option.some.inj here]
    exact whole _

/-- Counting bytes adds up. -/
theorem CountsBytes.sum {Push : Type} {rate delta : Push → Nat} {pushes : List Push}
    (each : ∀ push ∈ pushes, CountsBytes (rate push) (delta push) 1) :
    CountsBytes (pushes.map rate).sum (pushes.map delta).sum pushes.length := by
  induction pushes with
  | nil => exact ⟨Nat.le_refl _, Nat.le_refl _⟩
  | cons push pushes inductionHypothesis =>
      obtain ⟨restAbove, restBelow⟩ :=
        inductionHypothesis (fun other member => each other (List.mem_cons_of_mem _ member))
      obtain ⟨above, below⟩ := each push (List.mem_cons_self ..)
      simp only [CountsBytes, List.map_cons, List.sum_cons, List.length_cons]
      omega

section Bands

variable {start : Nat} {trace : List (CollectorState × CollectorLabel)} {state : CollectorState}
  {protocol : ConnectionType} {direction : Direction}

/-- A pushed rate counts its bytes exactly when its interval is paced. -/
theorem countsBytes_pushed_iff (run : collecting.Run (startCollecting start) trace state)
    (fits : Fits trace) {push : CollectorState} (member : push ∈ pushes trace)
    (room : push.delta protocol direction + 2 < 2 ^ 64) :
    CountsBytes (push.pushed.bps.get protocol direction).toNat (push.delta protocol direction) 1 ↔
      Paced (push.delta protocol direction) (push.collector.elapsed push.now) := by
  obtain ⟨_, _, samples, _⟩ := sampling_conserves run fits
  obtain ⟨due, streams⟩ := samples push member
  have positive : 0 < push.collector.elapsed push.now := lt_of_lt_of_le (by norm_num) due
  rw [(streams protocol direction).2.2, ← countsBytes_floor_iff positive]
  unfold CountsBytes
  omega

/-- When `total_bytes` of a band is the number of its stream's bytes: it is when
every pushed interval is paced, and for one sample only then. -/
theorem band_counts_bytes (run : collecting.Run (startCollecting start) trace state)
    (includeRawData : Bool) {band : ThroughputBand}
    (here : (state.report includeRawData).throughput.band protocol direction = some band)
    (room : ∀ protocol direction,
      tally (recordedBytes protocol direction) trace + (pushes trace).length + 1 < 2 ^ 64) :
    ((∀ push ∈ pushes trace,
        Paced (push.delta protocol direction) (push.collector.elapsed push.now)) →
      CountsBytes band.totalBytes.toNat (sampledBytes protocol direction trace)
        (pushes trace).length) ∧
    ((pushes trace).length = 1 →
      CountsBytes band.totalBytes.toNat (sampledBytes protocol direction trace) 1 →
        ∀ push ∈ pushes trace,
          Paced (push.delta protocol direction) (push.collector.elapsed push.now)) := by
  have fits : Fits trace := fun protocol direction => by
    have bound := room protocol direction
    omega
  obtain ⟨history, _, _, totals⟩ := sampling_conserves run fits
  have summed : band.totalBytes = ((pushes trace).map
      (fun push => push.pushed.bps.get protocol direction)).sum := by
    rw [totalBytes_report state includeRawData here, history, List.map_map]
    rfl
  have bytes := (totals protocol direction).1
  change _ = sampledBytes protocol direction trace at bytes
  have inside : sampledBytes protocol direction trace ≤
      tally (recordedBytes protocol direction) trace := by
    rw [← bytes, sum_deltas_of_run run fits, ← transferred_of_run run fits]
    exact lastBytes_le_of_run run fits
  have bound := room protocol direction
  have small : ∀ push ∈ pushes trace, push.delta protocol direction + 2 < 2 ^ 64 := by
    intro push member
    have one : 0 < (pushes trace).length := List.length_pos_of_mem member
    have part : push.delta protocol direction ≤
        ((pushes trace).map (CollectorState.delta protocol direction)).sum :=
      List.le_sum_of_mem (List.mem_map_of_mem member)
    omega
  rw [summed, ← bytes]
  constructor
  · intro paced
    have counted := CountsBytes.sum (fun push member =>
      (countsBytes_pushed_iff run fits member (small push member)).mpr (paced push member))
    rw [toNat_sum, List.map_map]
    · exact counted
    · rw [List.map_map]
      refine lt_of_le_of_lt counted.1 ?_
      rw [bytes]
      omega
  · intro one counts push member
    obtain ⟨only, shape⟩ := List.length_eq_one_iff.mp one
    obtain rfl : push = only := by simpa [shape] using member
    refine (countsBytes_pushed_iff run fits member (small push member)).mp ?_
    simpa [shape] using counts

end Bands

/-- One second, then half a second. -/
def pacedLabels : List CollectorLabel :=
  [.operation (.startConnection ⟨1⟩ .tcp), .operation (.record ⟨1⟩ (.recordBytesSent 1000)),
    .elapse 1000000000, .sampleThroughput, .elapse 500000000, .sampleThroughput]

/-- A second with 1000 bytes and an idle half second. -/
theorem band_counts_bytes_paced :
    ∃ trace state, collecting.Run (startCollecting 0) trace state ∧
      CountsBytes (state.report false).throughput.tcpUpload.totalBytes.toNat
        (sampledBytes .tcp .upload trace) (pushes trace).length ∧
      sampledBytes .tcp .upload trace = 1000 := by
  obtain ⟨state, played⟩ := Option.isSome_iff_exists.mp (show
    (collecting.play (startCollecting 0) pacedLabels).isSome by decide +kernel)
  have run := run_of_play played
  have room : ∀ protocol direction,
      tally (recordedBytes protocol direction) (collecting.trace (startCollecting 0) pacedLabels) +
        (pushes (collecting.trace (startCollecting 0) pacedLabels)).length + 1 < 2 ^ 64 := by
    intro protocol direction
    cases protocol <;> cases direction <;> decide +kernel
  have shape : (pushes (collecting.trace (startCollecting 0) pacedLabels)).map
      (fun push => (push.delta .tcp .upload, push.collector.elapsed push.now)) =
        [(1000, 1), (0, 1 / 2)] := by decide +kernel
  have here : (state.report false).throughput.band .tcp .upload =
      some (state.report false).throughput.tcpUpload := rfl
  refine ⟨_, state, run, (band_counts_bytes run false here room).1 (fun push member => ?_),
    by decide +kernel⟩
  have present : (push.delta .tcp .upload, push.collector.elapsed push.now) ∈ _ :=
    List.mem_map_of_mem (f := fun push : CollectorState =>
      (push.delta .tcp .upload, push.collector.elapsed push.now)) member
  rw [shape] at present
  simp only [List.mem_cons, Prod.mk.injEq, List.not_mem_nil, or_false] at present
  rcases present with ⟨delta, elapsed⟩ | ⟨delta, elapsed⟩
  · rw [delta, elapsed]
    exact paced_second 1000
  · rw [delta, elapsed]
    exact paced_idle (by norm_num)

/-- Half a second with 1000 bytes. -/
def hurriedLabels : List CollectorLabel :=
  [.operation (.startConnection ⟨1⟩ .tcp), .operation (.record ⟨1⟩ (.recordBytesSent 1000)),
    .elapse 500000000, .sampleThroughput]

/-- The band says 2000 bytes where the connection had sent 1000. -/
theorem hurried_doubles :
    ∃ trace state, collecting.Run (startCollecting 0) trace state ∧
      (state.report false).throughput.tcpUpload.totalBytes = 2000 ∧
      sampledBytes .tcp .upload trace = 1000 ∧ (pushes trace).length = 1 ∧
      ¬CountsBytes 2000 1000 1 := by
  obtain ⟨state, played, total⟩ := Option.map_eq_some_iff.mp (show
    (collecting.play (startCollecting 0) hurriedLabels).map (fun state =>
      (state.report false).throughput.tcpUpload.totalBytes) = some 2000 by decide +kernel)
  exact ⟨_, state, run_of_play played, total, by decide +kernel, by decide +kernel, by
    unfold CountsBytes
    omega⟩

end Npt.Shared
