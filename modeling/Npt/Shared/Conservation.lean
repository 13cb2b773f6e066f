import Mathlib.Data.List.Chain
import Npt.Shared.Sampling

/-!
Contract: `sample_throughput` conserves bytes over a run.

Every sample that is pushed covers the bytes recorded since the one before it.
A call that comes too early leaves the registers and the clock alone, so its
bytes go to the next sample. Both hold as long as no stream's total leaves
`u64`: a total that wraps falls under its register.

Owns: the pushes of a run, the registers between them, and the telescoped sum.

Does not own: the samplers or the report.
-/

namespace Npt.Shared

open Npt.Core
open Npt.Core.Machine

variable {start : Nat} {trace : List (CollectorState × CollectorLabel)} {state : CollectorState}
  {protocol : ConnectionType} {direction : Direction}

/-- The states in which a sample was pushed. -/
def pushes (trace : List (CollectorState × CollectorLabel)) : List CollectorState :=
  (trace.filter (fun entry => entry.2 = .sampleThroughput ∧ entry.1.Due)).map Prod.fst

/-- The bytes of a stream behind the sample that is pushed in a state. -/
def CollectorState.delta (protocol : ConnectionType) (direction : Direction)
    (state : CollectorState) : Nat :=
  state.collector.transferred protocol direction -
    (state.collector.lastBytes.get protocol direction).toNat

/-- The sample that is pushed in a state. -/
def CollectorState.pushed (state : CollectorState) : ThroughputSample :=
  state.collector.sample state.now

theorem pushes_snoc {label : CollectorLabel} :
    pushes (trace ++ [(state, label)]) =
      pushes trace ++ if label = .sampleThroughput ∧ state.Due then [state] else [] := by
  simp only [pushes, List.filter_append, List.map_append]
  congr 1
  by_cases pushing : label = .sampleThroughput ∧ state.Due <;> simp [pushing]

/-- The bytes recorded on every stream stay within `u64`. -/
def Fits (trace : List (CollectorState × CollectorLabel)) : Prop :=
  ∀ protocol direction, tally (recordedBytes protocol direction) trace < 2 ^ 64

theorem Fits.initial {later : List (CollectorState × CollectorLabel)}
    (fits : Fits (trace ++ later)) : Fits trace := by
  intro protocol direction
  have whole := fits protocol direction
  rw [tally_append] at whole
  omega

/-- What one step does to what the samples depend on. -/
inductive CollectorMove (state : CollectorState) : CollectorLabel → CollectorState → Prop where
  | pushed (due : state.Due) :
      CollectorMove state .sampleThroughput { state with collector := { state.collector with
        throughputHistory := state.collector.throughputHistory ++ [state.pushed]
        lastBytes := state.collector.byteTotals
        lastSampleTime := state.now } }
  | quiet {label : CollectorLabel} {next : CollectorState}
      (unpushed : ¬(label = .sampleThroughput ∧ state.Due))
      (history : next.collector.throughputHistory = state.collector.throughputHistory)
      (registers : next.collector.lastBytes = state.collector.lastBytes)
      (clock : next.collector.lastSampleTime = state.collector.lastSampleTime)
      (recorded : ∀ protocol direction,
        state.collector.transferred protocol direction +
          recordedBytes protocol direction state label < 2 ^ 64 →
        next.collector.transferred protocol direction =
          state.collector.transferred protocol direction +
            recordedBytes protocol direction state label) :
      CollectorMove state label next

theorem collectorMove_of_step {label : CollectorLabel} {next : CollectorState}
    (step : collecting.step state label = some next) : CollectorMove state label next := by
  change state.step label = some next at step
  cases label with
  | operation operation =>
      simp only [CollectorState.step] at step
      split at step
      · rename_i fresh
        obtain rfl := Option.some.inj step
        exact .quiet (by simp) rfl rfl rfl
          (fun _ _ fits => transferred_apply operation state fresh fits)
      · simp at step
  | sampleThroughput =>
      obtain rfl := Option.some.inj step
      unfold SampledCollector.sampleThroughput
      split
      · rename_i due
        exact .pushed due
      · rename_i early
        exact .quiet (fun pushing => early pushing.2) rfl rfl rfl (fun _ _ _ => rfl)
  | elapse | sampleLatency | sampleErrors =>
      obtain rfl := Option.some.inj step
      exact .quiet (by simp) rfl rfl rfl (fun _ _ _ => rfl)

/-- The records hold what the run recorded. -/
theorem transferred_of_run (run : collecting.Run (startCollecting start) trace state)
    (fits : Fits trace) :
    state.collector.transferred protocol direction =
      tally (recordedBytes protocol direction) trace := by
  induction run with
  | nil => rfl
  | @snoc trace state next label before taken inductionHypothesis =>
      have earlier := inductionHypothesis fits.initial
      have room := fits protocol direction
      rw [tally_snoc, ← earlier] at room ⊢
      cases collectorMove_of_step taken with
      | pushed due => rfl
      | quiet _ _ _ _ recorded => exact recorded protocol direction room

/-- The registers and the history after a run. -/
structure Sampled (start : Nat) (trace : List (CollectorState × CollectorLabel))
    (collector : SampledCollector) : Prop where
  history : collector.throughputHistory = (pushes trace).map CollectorState.pushed
  registers : collector.lastBytes =
    ((pushes trace).getLast?.map (fun push => push.collector.byteTotals)).getD (.fill 0)
  clock : collector.lastSampleTime = ((pushes trace).getLast?.map CollectorState.now).getD start

theorem sampled_of_run (run : collecting.Run (startCollecting start) trace state) :
    Sampled start trace state.collector := by
  induction run with
  | nil => exact ⟨rfl, rfl, rfl⟩
  | @snoc trace state next label before taken inductionHypothesis =>
      cases collectorMove_of_step taken with
      | pushed due =>
          have more : pushes (trace ++ [(state, .sampleThroughput)]) = pushes trace ++ [state] := by
            rw [pushes_snoc, if_pos ⟨rfl, due⟩]
          exact
            { history := by simp [more, inductionHypothesis.history]
              registers := by simp [more]
              clock := by simp [more] }
      | quiet unpushed history registers clock _ =>
          have same : pushes (trace ++ [(state, label)]) = pushes trace := by
            rw [pushes_snoc, if_neg unpushed, List.append_nil]
          exact
            { history := by rw [history, same, inductionHypothesis.history]
              registers := by rw [registers, same, inductionHypothesis.registers]
              clock := by rw [clock, same, inductionHypothesis.clock] }

/-- No register is over its total. -/
theorem lastBytes_le_of_run (run : collecting.Run (startCollecting start) trace state)
    (fits : Fits trace) :
    (state.collector.lastBytes.get protocol direction).toNat ≤
      state.collector.transferred protocol direction := by
  induction run with
  | nil => simp [startCollecting, SampledCollector.new]
  | @snoc trace state next label before taken inductionHypothesis =>
      have earlier := inductionHypothesis fits.initial
      have now : state.collector.transferred protocol direction =
          tally (recordedBytes protocol direction) trace := transferred_of_run before fits.initial
      have room := fits protocol direction
      rw [tally_snoc, ← now] at room
      cases collectorMove_of_step taken with
      | pushed due =>
          show (state.collector.byteTotals.get protocol direction).toNat ≤ _
          rw [toNat_byteTotals (by omega)]
      | quiet _ _ registers _ recorded =>
          rw [registers, recorded protocol direction room]
          omega

/-- The deltas behind the samples add up to the register. -/
theorem sum_deltas_of_run (run : collecting.Run (startCollecting start) trace state)
    (fits : Fits trace) :
    ((pushes trace).map (CollectorState.delta protocol direction)).sum =
      (state.collector.lastBytes.get protocol direction).toNat := by
  induction run with
  | nil => simp [pushes, startCollecting, SampledCollector.new]
  | @snoc trace state next label before taken inductionHypothesis =>
      have earlier := inductionHypothesis fits.initial
      have below : (state.collector.lastBytes.get protocol direction).toNat ≤
          state.collector.transferred protocol direction := lastBytes_le_of_run before fits.initial
      have now : state.collector.transferred protocol direction =
          tally (recordedBytes protocol direction) trace := transferred_of_run before fits.initial
      have room := fits.initial protocol direction
      rw [pushes_snoc, List.map_append, List.sum_append, earlier]
      cases collectorMove_of_step taken with
      | pushed due =>
          rw [if_pos ⟨rfl, due⟩]
          show _ + ([state.delta protocol direction]).sum =
            (state.collector.byteTotals.get protocol direction).toNat
          rw [toNat_byteTotals (by omega), List.sum_singleton, CollectorState.delta]
          omega
      | quiet unpushed _ registers _ _ => simp [unpushed, registers]

/-- A push with the registers that the push before it left. -/
structure CollectorState.Follows (earlier later : CollectorState) : Prop where
  registers : later.collector.lastBytes = earlier.collector.byteTotals
  clock : later.collector.lastSampleTime = earlier.now

theorem chain_of_run (run : collecting.Run (startCollecting start) trace state) :
    (pushes trace).IsChain CollectorState.Follows := by
  induction run with
  | nil => exact .nil
  | @snoc trace state next label before taken inductionHypothesis =>
      rw [pushes_snoc]
      split
      · refine List.isChain_append.mpr ⟨inductionHypothesis, .singleton _, ?_⟩
        intro earlier final later same
        obtain rfl : state = later := by simpa using same
        have sampled := sampled_of_run before
        rw [Option.mem_def] at final
        exact
          { registers := by rw [sampled.registers, final]; rfl
            clock := by rw [sampled.clock, final]; rfl }
      · rwa [List.append_nil]

theorem run_of_push (run : collecting.Run (startCollecting start) trace state)
    {push : CollectorState} (member : push ∈ pushes trace) :
    push.Due ∧ ∃ before after, trace = before ++ after ∧
      collecting.Run (startCollecting start) before push := by
  obtain ⟨entry, kept, rfl⟩ := List.mem_map.mp member
  obtain ⟨present, pushing⟩ := List.mem_filter.mp kept
  obtain ⟨before, after, shape⟩ := List.append_of_mem present
  obtain ⟨_, earlier, _, _⟩ := run.split shape
  exact ⟨(of_decide_eq_true pushing).2, before, entry :: after, shape, earlier⟩

/-- The sum of the deltas, and what each pushed sample says. -/
theorem sampling_conserves (run : collecting.Run (startCollecting start) trace state)
    (fits : Fits trace) :
    state.collector.throughputHistory = (pushes trace).map CollectorState.pushed ∧
      (pushes trace).IsChain CollectorState.Follows ∧
      (∀ push ∈ pushes trace, 1 / 10 ≤ push.collector.elapsed push.now ∧
        ∀ protocol direction,
          push.collector.lastBytes.get protocol direction ≤
            push.collector.byteTotals.get protocol direction ∧
          (push.collector.byteTotals.get protocol direction).toNat =
            push.collector.transferred protocol direction ∧
          (push.pushed.bps.get protocol direction).toNat =
            min ⌊(push.delta protocol direction : Rat) / push.collector.elapsed push.now⌋₊
              (2 ^ 64 - 1)) ∧
      ∀ protocol direction,
        ((pushes trace).map (CollectorState.delta protocol direction)).sum =
          ((pushes trace).getLast?.map
            (fun push => push.collector.transferred protocol direction)).getD 0 ∧
        state.collector.transferred protocol direction =
          tally (recordedBytes protocol direction) trace := by
  have pushAt : ∀ push ∈ pushes trace, push.Due ∧
      ∃ before, collecting.Run (startCollecting start) before push ∧ Fits before := by
    intro push member
    obtain ⟨due, before, after, shape, earlier⟩ := run_of_push run member
    exact ⟨due, before, earlier, (shape ▸ fits).initial⟩
  have total : ∀ push ∈ pushes trace, ∀ protocol direction,
      (push.collector.byteTotals.get protocol direction).toNat =
        push.collector.transferred protocol direction := by
    intro push member protocol direction
    obtain ⟨_, before, earlier, room⟩ := pushAt push member
    refine toNat_byteTotals ?_
    rw [transferred_of_run earlier room]
    exact room protocol direction
  refine ⟨(sampled_of_run run).history, chain_of_run run, ?_, ?_⟩
  · intro push member
    obtain ⟨due, before, earlier, room⟩ := pushAt push member
    refine ⟨due, fun protocol direction => ⟨?_, total push member protocol direction, ?_⟩⟩
    · rw [UInt64.le_iff_toNat_le, total push member]
      exact lastBytes_le_of_run earlier room
    · have delta : (push.collector.deltas.get protocol direction).toNat =
          push.delta protocol direction := by
        rw [SampledCollector.deltas, Streams.get_zipWith, toNat_saturatingSub, total push member]
        rfl
      rw [CollectorState.pushed, SampledCollector.sample, Streams.get_map, toNat_asU64, delta]
  · intro protocol direction
    refine ⟨?_, transferred_of_run run fits⟩
    rw [sum_deltas_of_run run fits, (sampled_of_run run).registers]
    cases final : (pushes trace).getLast? with
    | none => simp
    | some push =>
        simpa using total push (List.mem_of_getLast? final) protocol direction

/-- A call after 50 ms is skipped; the next one covers both recordings. -/
def sampledLabels : List CollectorLabel :=
  [.operation (.startConnection ⟨1⟩ .tcp), .operation (.record ⟨1⟩ (.recordBytesSent 1000)),
    .elapse 50000000, .sampleThroughput, .operation (.record ⟨1⟩ (.recordBytesSent 500)),
    .elapse 450000000, .sampleThroughput]

theorem sampling_conserves_skipped :
    ∃ trace state, collecting.Run (startCollecting 0) trace state ∧ Fits trace ∧
      state.collector.throughputHistory.map (fun sample => sample.bps.tcpUpload) = [3000] ∧
      ((pushes trace).map (CollectorState.delta .tcp .upload)).sum = 1500 ∧
      state.collector.transferred .tcp .upload =
        tally (recordedBytes .tcp .upload) trace := by
  obtain ⟨state, played, rates⟩ := Option.map_eq_some_iff.mp (show
    (collecting.play (startCollecting 0) sampledLabels).map (fun state =>
      state.collector.throughputHistory.map (fun sample => sample.bps.tcpUpload)) =
      some [3000] by decide +kernel)
  have run := run_of_play played
  have fits : Fits (collecting.trace (startCollecting 0) sampledLabels) := by
    intro protocol direction
    cases protocol <;> cases direction <;> decide +kernel
  obtain ⟨_, _, _, totals⟩ := sampling_conserves run fits
  exact ⟨_, state, run, fits, rates, by decide +kernel, (totals .tcp .upload).2⟩

/-- Two recordings whose sum is `2 ^ 64 + 1`. -/
def wrappingLabels : List CollectorLabel :=
  [.operation (.startConnection ⟨1⟩ .tcp),
    .operation (.record ⟨1⟩ (.recordBytesSent 18446744073709551615)), .elapse 1000000000,
    .sampleThroughput, .operation (.record ⟨1⟩ (.recordBytesSent 2)), .elapse 1000000000,
    .sampleThroughput]

/-- A total that wraps: the second subtraction saturates, and the deltas do not
add up to the total. -/
theorem sampling_wraps :
    ∃ trace state, collecting.Run (startCollecting 0) trace state ∧
      (pushes trace).map (fun push => push.collector.byteTotals.tcpUpload) =
        [18446744073709551615, 1] ∧
      (pushes trace).map (fun push => push.collector.lastBytes.tcpUpload) =
        [0, 18446744073709551615] ∧
      (pushes trace).map (fun push => push.collector.deltas.tcpUpload) =
        [18446744073709551615, 0] := by
  obtain ⟨state, played⟩ := Option.isSome_iff_exists.mp (show
    (collecting.play (startCollecting 0) wrappingLabels).isSome by decide +kernel)
  exact ⟨_, state, run_of_play played, by decide +kernel, by decide +kernel, by decide +kernel⟩

end Npt.Shared
