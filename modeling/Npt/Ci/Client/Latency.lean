import Npt.Ci.Client.TcpFlow
import Npt.Ci.Detect

/-!
Contract: which round-trip times the final metrics of a run summarise.

All flows push into one recorder, `PortRun::record_rtt`, which stops at
`RTT_SAMPLE_CAP` values. The recorder therefore holds a prefix of what the run
measured, and the summary, its maximum and the 95th percentile that `evaluate`
compares are those of that prefix.

Owns: the round-trip times a run measures, the invariant of the recorder, and
the run of an echoing peer that measures a given sequence.

Does not own: when a frame comes back, or the other rules of the verdict.
-/

namespace Npt.Ci.Client

open Npt.Core

/-! ## The summary of a sequence -/

private theorem le_last_of_pairwise {sorted : List Nat} (ordered : sorted.Pairwise (· ≤ ·))
    {value : Nat} (member : value ∈ sorted) : value ≤ sorted.getD (sorted.length - 1) 0 := by
  obtain ⟨index, bound, rfl⟩ := List.getElem_of_mem member
  have last : sorted.length - 1 < sorted.length := by omega
  rw [List.getD_eq_getElem _ _ last]
  rcases Nat.lt_or_ge index (sorted.length - 1) with before | here
  · exact List.pairwise_iff_getElem.mp ordered _ _ bound last before
  · obtain rfl : index = sorted.length - 1 := by omega
    exact Nat.le_refl _

/-- `max_ms` is at least every sample. -/
theorem le_rttSummary_maxMs {samplesUs : List Nat} {rttUs : Nat} (member : rttUs ∈ samplesUs) :
    (rttUs : Rat) / 1000 ≤ (rttSummary samplesUs).maxMs := by
  have nonempty : samplesUs ≠ [] := List.ne_nil_of_mem member
  have bound := le_last_of_pairwise (List.pairwise_mergeSort' (· ≤ ·) samplesUs)
    (List.mem_mergeSort.mpr member)
  simp only [rttSummary, if_neg nonempty]
  gcongr

theorem rttSummary_samples (samplesUs : List Nat) :
    (rttSummary samplesUs).samples = samplesUs.length := by
  unfold rttSummary
  split
  · rename_i empty
    simp [empty]
  · simp

/-- The summary of a sequence that is in order. -/
theorem rttSummary_of_pairwise {samplesUs : List Nat} (ordered : samplesUs.Pairwise (· ≤ ·))
    (nonempty : samplesUs ≠ []) :
    (rttSummary samplesUs).p95Ms =
        (samplesUs.getD (quantileIndex samplesUs.length (95 / 100)) 0 : Rat) / 1000 ∧
      (rttSummary samplesUs).maxMs = (samplesUs.getD (samplesUs.length - 1) 0 : Rat) / 1000 := by
  have same : samplesUs.mergeSort (· ≤ ·) = samplesUs := List.mergeSort_eq_self _ ordered
  simp only [rttSummary, if_neg nonempty, same, and_self]

/-! ## What a run measures -/

/-- The round-trip time that an event hands to `record_rtt`. -/
def FlowEvent.rtts : FlowEvent → List Nat
  | .frameReceived _ rttUs | .datagramReceived _ rttUs => [rttUs]
  | _ => []

section AnyProgram

variable {Task Label : Type} (program : FlowProgram Task Label)

/-- The round-trip times that a step of the run measures. -/
def measuredAt (state : RunState Task) : RunLabel Label → List Nat
  | .flow index label =>
      match state.flows[index]? with
      | none => []
      | some flow =>
          match program.step state.now flow.conn.id flow.task label with
          | none => []
          | some (event, _) => event.rtts
  | _ => []

/-- The round-trip times that a run measures, in the order of its steps. -/
def measured (trace : List (RunState Task × RunLabel Label)) : List Nat :=
  trace.flatMap (fun entry => measuredAt program entry.1 entry.2)

variable {program}

@[simp] theorem measured_append (left right : List (RunState Task × RunLabel Label)) :
    measured program (left ++ right) = measured program left ++ measured program right :=
  List.flatMap_append

theorem measured_single (state : RunState Task) (label : RunLabel Label) :
    measured program [(state, label)] = measuredAt program state label := by
  simp [measured]

/-- Recording keeps the first `RTT_SAMPLE_CAP` values. -/
theorem recordRtt_take (run : PortRun) (earlier : List Nat) (rttUs : Nat)
    (held : run.rttUs = earlier.take rttSampleCap) :
    (run.recordRtt rttUs).rttUs = (earlier ++ [rttUs]).take rttSampleCap := by
  unfold PortRun.recordRtt
  rw [held]
  by_cases free : earlier.length < rttSampleCap
  · rw [List.take_of_length_le free.le, if_pos free]
    exact (List.take_of_length_le (by simpa using Nat.succ_le_of_lt free)).symm
  · have full : rttSampleCap ≤ earlier.length := Nat.not_lt.mp free
    rw [if_neg (by simpa using full), List.take_append_of_le_length full]
    exact held

@[simp] theorem noteError_rttUs (run : PortRun) (message : String) :
    (run.noteError message).rttUs = run.rttUs := by
  unfold PortRun.noteError
  split <;> rfl

/-- An event records what it measures. -/
theorem apply_rttUs (now deadline : Nat) (run : PortRun) (conn : ConnState) (event : FlowEvent)
    (earlier : List Nat) (held : run.rttUs = earlier.take rttSampleCap) :
    (event.apply now deadline run conn).1.rttUs = (earlier ++ event.rtts).take rttSampleCap := by
  cases event with
  | frameReceived bytes rttUs | datagramReceived bytes rttUs =>
      exact recordRtt_take run earlier rttUs held
  | broken message =>
      simp only [FlowEvent.apply, noteBroken, FlowEvent.rtts, List.append_nil]
      split
      · simp only [noteError_rttUs]
        split <;> exact held
      · exact held
  | _ => simpa [FlowEvent.apply, FlowEvent.rtts] using held

theorem visitFlow_rttUs (stallMs now : Nat) (run : PortRun) (conn : ConnState) :
    (visitFlow stallMs now run conn).1.rttUs = run.rttUs := by
  rw [visitFlow_eq]
  split <;> rfl

variable {config : RunConfig} {trace : List (RunState Task × RunLabel Label)}
  {state : RunState Task}

/-- The recorder holds the first values that the run measured. -/
theorem rttUs_eq_take (run : (runMachine program config).Run (initialRun program config) trace state) :
    state.run.rttUs = (measured program trace).take rttSampleCap := by
  refine run.history
    (fun trace state => state.run.rttUs = (measured program trace).take rttSampleCap) rfl ?_
  intro trace state label next before held step
  rw [measured_append, measured_single]
  cases taken_of_step step with
  | @flow index label flow event task present own =>
      have here : measuredAt program state (.flow index label) = event.rtts := by
        simp [measuredAt, present, own]
      rw [here]
      exact apply_rttUs _ _ _ _ _ _ held
  | visit visiting present =>
      simpa [RunState.replace, visitFlow_rttUs, measuredAt] using held
  | _ => simpa [measuredAt] using held

/-- The latency figures of a finished run, TCP or UDP, are those of the first
`RTT_SAMPLE_CAP` round-trip times that it measured; they cover the run exactly
when it measured no more. -/
theorem rtt_summarises_first_samples
    (run : (runMachine program config).Run (initialRun program config) trace state)
    {metrics : PortMetrics} (result : state.result = some metrics) :
    metrics.rtt = rttSummary ((measured program trace).take rttSampleCap) ∧
      (metrics.rtt = rttSummary (measured program trace) ↔
        (measured program trace).length ≤ rttSampleCap) ∧
      (∀ rttUs ∈ (measured program trace).take rttSampleCap,
        (rttUs : Rat) / 1000 ≤ metrics.rtt.maxMs) ∧
      ∀ (limits : Config.DetectParams) (portId : Int),
        (Detect.evaluate metrics limits portId).verdict = .pass → 0 < limits.maxRttP95Ms →
          (rttSummary ((measured program trace).take rttSampleCap)).p95Ms ≤ limits.maxRttP95Ms := by
  have summary : metrics.rtt = rttSummary ((measured program trace).take rttSampleCap) := by
    obtain ⟨series, rfl⟩ := (finished_of_run run).metrics metrics (main_of_result result)
    rw [← rttUs_eq_take run]
    rfl
  refine ⟨summary, ⟨fun same => ?_, fun few => ?_⟩, fun rttUs member => ?_, ?_⟩
  · have counts := congrArg RttSummary.samples (summary.symm.trans same)
    rw [rttSummary_samples, rttSummary_samples, List.length_take] at counts
    omega
  · rw [summary, List.take_of_length_le few]
  · rw [summary]
    exact le_rttSummary_maxMs member
  · intro limits portId passed limited
    rw [← summary]
    exact ((Detect.evaluate_pass_iff metrics limits portId).mp passed).rtt limited

end AnyProgram

/-! ## A peer that echoes with given delays -/

namespace TcpFlow

open Npt.Ci.Protocol

def oneFlow : RunConfig where
  endpoint := "127.0.0.1:9"
  params := { connectionsPerPort := 1, durationSecs := 1, payloadBytes := 1 }
  stallSecs := 5

/-- The state of a run of one flow whose watchdog and sampler have not run. -/
def single (now : Nat) (run : PortRun) (conn : ConnState) (task : Task) : RunState Task where
  now := now
  run := run
  flows := [⟨conn, task⟩]
  watchdog := .waiting 0
  sampler := .waiting {}
  main := .joining

/-- A run of one flow that leads here and measured these round-trip times. -/
def Measures (rtts : List Nat) (state : RunState Task) : Prop :=
  ∃ trace, (runTcp oneFlow).Run (startTcp oneFlow) trace state ∧
    measured (tcpFlow oneFlow) trace = rtts

theorem Measures.step {rtts : List Nat} {state next : RunState Task}
    (before : Measures rtts state) (label : RunLabel Label)
    (taken : (runTcp oneFlow).step state label = some next)
    (silent : measuredAt (tcpFlow oneFlow) state label = []) : Measures rtts next := by
  obtain ⟨trace, run, rfl⟩ := before
  refine ⟨trace ++ [(state, label)], .snoc run taken, ?_⟩
  rw [measured_append, measured_single, silent, List.append_nil]

/-- A step of the flow adds what its event measures. -/
theorem Measures.flow {rtts : List Nat} {now : Nat} {run : PortRun} {conn : ConnState}
    {task : Task} (before : Measures rtts (single now run conn task)) (label : Label)
    (event : FlowEvent) (next : Task)
    (own : TcpFlow.step oneFlow now conn.id task label = some (event, next)) :
    Measures (rtts ++ event.rtts)
      (single now (event.apply now oneFlow.deadline run conn).1
        (event.apply now oneFlow.deadline run conn).2 next) := by
  obtain ⟨trace, earlier, rfl⟩ := before
  have taken : (runTcp oneFlow).step (single now run conn task) (.flow 0 label) =
      some (single now (event.apply now oneFlow.deadline run conn).1
        (event.apply now oneFlow.deadline run conn).2 next) := by
    simp [runTcp, runMachine, runStep, single, tcpFlow, own, RunState.replace]
  have here : measuredAt (tcpFlow oneFlow) (single now run conn task) (.flow 0 label) =
      event.rtts := by
    simp [measuredAt, single, tcpFlow, own]
  refine ⟨trace ++ [(single now run conn task, .flow 0 label)], .snoc earlier taken, ?_⟩
  rw [measured_append, measured_single, here]

/-- A step of the flow that touches no shared state. -/
theorem Measures.quiet {rtts : List Nat} {now : Nat} {run : PortRun} {conn : ConnState}
    {task : Task} (before : Measures rtts (single now run conn task)) (label : Label) (next : Task)
    (own : TcpFlow.step oneFlow now conn.id task label = some (.quiet, next)) :
    Measures rtts (single now run conn next) := by
  simpa [FlowEvent.rtts, FlowEvent.apply] using before.flow label .quiet next own

/-- The flow between two frames, with all that it sent echoed and read. -/
def idle (seq : UInt64) : Task := .streaming { room := 25, seq := seq }

/-- One more frame goes out, comes back and is read `rttUs` after its stamp. -/
theorem Measures.roundTrip {rtts : List Nat} {run : PortRun} {conn : ConnState} {seq : UInt64}
    {rttUs : Nat} (before : Measures rtts (single 0 run conn (idle seq)))
    (small : rttUs < 2 ^ 64) :
    ∃ recorded changed,
      Measures (rtts ++ [rttUs]) (single 0 recorded changed (idle (seq + 1))) := by
  obtain ⟨frame, shape⟩ : ∃ frame, nextFrame oneFlow seq 0 = frame := ⟨_, rfl⟩
  have stamp : frame.sendTsMicros = 0 := by rw [← shape]; rfl
  have payload : frame.payload = [0xA5] := by rw [← shape]; rfl
  have width : frame.encode.length = 25 := by
    rw [Frame.encode_length, payload]
    rfl
  have back : Frame.read ⟨frame.encode, .live⟩ = .ok (some frame) ⟨[], .live⟩ := by
    simpa using Frame.read_encode frame (by simp [payload, maxPayload]) [] .live
  have early : 0 < oneFlow.deadline := by decide
  have started := before.quiet (.writerCheck 0)
    (.streaming { room := 25, seq := seq, writer := .writing frame frame.encode })
    (by simp [idle, TcpFlow.step, streamStep, early, shape])
  have sent := started.quiet (.writerSend 25)
    (.streaming { room := 0, seq := seq, writer := .writing frame [] })
    (by simp [TcpFlow.step, streamStep, width, List.drop_eq_nil_of_le])
  have counted := sent.flow .writerDone (.frameSent (frameLen frame))
    (.streaming { room := 0, seq := seq + 1 }) rfl
  have drained := counted.quiet (.peerDrain 25) (idle (seq + 1)) rfl
  have echoed := drained.quiet (.peerSend frame.encode)
    (.streaming { room := 25, seq := seq + 1, rx := ⟨frame.encode, .live⟩ }) rfl
  have read := echoed.flow (.read (UInt64.ofNat rttUs))
    (.frameReceived (frameLen frame) rttUs) (idle (seq + 1))
    (by simp [TcpFlow.step, streamStep, back, stamp, idle, UInt64.toNat_ofNat_of_lt' small])
  exact ⟨_, _, by simpa [FlowEvent.rtts] using read⟩

/-- Every sequence of round-trip times can be measured before the deadline. -/
theorem measures_any (rtts : List Nat) (small : ∀ rttUs ∈ rtts, rttUs < 2 ^ 64) :
    ∃ run conn seq, Measures rtts (single 0 run conn (idle seq)) := by
  induction rtts using List.reverseRecOn with
  | nil =>
      have played : (runTcp oneFlow).play (startTcp oneFlow)
          [.flow 0 .wake, .flow 0 (.connectOk 25)] =
            some (single 0 {} { id := 0, connected := true } (idle 0)) := by rfl
      exact ⟨{}, { id := 0, connected := true }, 0, _, Machine.run_of_play played, by rfl⟩
  | append_singleton earlier rttUs inductionHypothesis =>
      obtain ⟨run, conn, seq, before⟩ := inductionHypothesis (fun other member =>
        small other (List.mem_append_left _ member))
      obtain ⟨recorded, changed, after⟩ := before.roundTrip (small rttUs (by simp))
      exact ⟨recorded, changed, seq + 1, after⟩

/-- Such a run ends when the peer closes after the deadline. -/
theorem finished_measuring (rtts : List Nat) (small : ∀ rttUs ∈ rtts, rttUs < 2 ^ 64) :
    ∃ trace state metrics, (runTcp oneFlow).Run (startTcp oneFlow) trace state ∧
      state.result = some metrics ∧ measured (tcpFlow oneFlow) trace = rtts := by
  obtain ⟨run, conn, seq, before⟩ := measures_any rtts small
  have past : oneFlow.deadline = 1000 := rfl
  have late : Measures rtts (single 1000 run conn (idle seq)) :=
    before.step (.elapse 1000) rfl rfl
  have stopped := late.quiet (.writerCheck 0)
    (.streaming { room := 25, seq := seq, writer := .stopped })
    (by simp [idle, TcpFlow.step, streamStep, past])
  have closed := stopped.quiet .peerClose
    (.streaming { room := 25, seq := seq, writer := .stopped, rx := ⟨[], .eof⟩ }) rfl
  have ended := closed.flow (.read 0)
    (.broken s!"conn {conn.id}: peer closed mid-test (EOF)")
    (.streaming
      { room := 25, seq := seq, writer := .stopped, rx := ⟨[], .eof⟩, reader := .stopped })
    (by simp [TcpFlow.step, streamStep, read_empty_eof])
  have joined := ended.quiet .join .returned rfl
  have wound := joined.step .join rfl rfl
  have ticked := wound.step (.sampler .tick) rfl rfl
  have down := (ticked.step (.sampler .load) rfl rfl).step (.sampler .load) rfl rfl
  have up := (down.step (.sampler .load) rfl rfl).step (.sampler .load) rfl rfl
  have sampled := up.step (.sampler .check) rfl rfl
  have finished := sampled.step .finalize rfl rfl
  obtain ⟨trace, finalRun, same⟩ := finished
  refine ⟨trace, _, _, finalRun, rfl, ?_⟩
  simpa [FlowEvent.rtts] using same

/-- As many fast frames as the recorder takes, then as many slow ones. -/
def slowdown : List Nat := List.replicate rttSampleCap 1000 ++ List.replicate rttSampleCap 1000000

theorem fast_rttSummary :
    (rttSummary (slowdown.take rttSampleCap)).p95Ms = 1 ∧
      (rttSummary (slowdown.take rttSampleCap)).maxMs = 1 := by
  have recorded : slowdown.take rttSampleCap = List.replicate rttSampleCap 1000 := by
    rw [slowdown, List.take_left' (List.length_replicate ..)]
  have nonempty : List.replicate rttSampleCap 1000 ≠ [] := by
    rw [← List.length_pos_iff, List.length_replicate]
    decide
  obtain ⟨p95, max⟩ := rttSummary_of_pairwise
    (List.pairwise_replicate.mpr (Or.inr (Nat.le_refl 1000))) nonempty
  have index : quantileIndex rttSampleCap (95 / 100) < rttSampleCap := by decide +kernel
  have last : rttSampleCap - 1 < rttSampleCap := by decide
  rw [recorded, p95, max, List.length_replicate, List.getD_replicate _ index,
    List.getD_replicate _ last]
  norm_num

theorem slowdown_p95 : (rttSummary slowdown).p95Ms = 1000 := by
  have size : slowdown.length = rttSampleCap + rttSampleCap := by
    simp only [slowdown, List.length_append, List.length_replicate]
  have nonempty : slowdown ≠ [] := by
    rw [← List.length_pos_iff, size]
    decide
  have ordered : slowdown.Pairwise (· ≤ ·) := by
    refine List.pairwise_append.mpr ⟨List.pairwise_replicate.mpr (Or.inr (Nat.le_refl 1000)),
      List.pairwise_replicate.mpr (Or.inr (Nat.le_refl 1000000)), ?_⟩
    intro fast fastIn slow slowIn
    rw [List.eq_of_mem_replicate fastIn, List.eq_of_mem_replicate slowIn]
    decide
  have index : quantileIndex (rttSampleCap + rttSampleCap) (95 / 100) = 94999 := by decide +kernel
  have behind : rttSampleCap ≤ 94999 := by decide
  rw [(rttSummary_of_pairwise ordered nonempty).1, size, index, slowdown,
    List.getD_append_right _ _ _ _ (by rwa [List.length_replicate]), List.length_replicate,
    List.getD_replicate _ (by decide)]
  norm_num

/-- A run whose second half is a thousand times slower shows the latency of its
first half. -/
theorem slowdown_not_summarised :
    ∃ trace state metrics, (runTcp oneFlow).Run (startTcp oneFlow) trace state ∧
      state.result = some metrics ∧ measured (tcpFlow oneFlow) trace = slowdown ∧
      metrics.rtt ≠ rttSummary (measured (tcpFlow oneFlow) trace) ∧
      metrics.rtt.p95Ms = 1 ∧ (rttSummary (measured (tcpFlow oneFlow) trace)).p95Ms = 1000 ∧
      ∃ rttUs ∈ measured (tcpFlow oneFlow) trace, metrics.rtt.maxMs < (rttUs : Rat) / 1000 := by
  have small : ∀ rttUs ∈ slowdown, rttUs < 2 ^ 64 := by
    intro rttUs member
    rcases List.mem_append.mp member with fast | slow
    · rw [List.eq_of_mem_replicate fast]
      decide
    · rw [List.eq_of_mem_replicate slow]
      decide
  obtain ⟨trace, state, metrics, run, result, same⟩ := finished_measuring slowdown small
  obtain ⟨series, rfl⟩ := (finished_of_run run).metrics metrics (main_of_result result)
  have held : state.run.rttUs = slowdown.take rttSampleCap := by
    rw [rttUs_eq_take run, same]
  obtain ⟨p95, max⟩ := fast_rttSummary
  have slow : 1000000 ∈ slowdown := by
    refine List.mem_append_right _ (List.mem_replicate.mpr ⟨by decide, rfl⟩)
  refine ⟨trace, state, _, run, result, same, fun equal => ?_, ?_, ?_, 1000000, ?_, ?_⟩
  · have impossible := congrArg RttSummary.p95Ms equal
    simp only [finalize, held, p95, same, slowdown_p95] at impossible
    norm_num at impossible
  · simp only [finalize, held, p95]
  · rw [same, slowdown_p95]
  · rwa [same]
  · simp only [finalize, held, max]
    norm_num

theorem rtt_summarises_first_samples_oneFrame :
    ∃ trace state metrics, (runTcp oneFlow).Run (startTcp oneFlow) trace state ∧
      state.result = some metrics ∧ metrics.rtt = rttSummary [1000] := by
  obtain ⟨trace, state, metrics, run, result, same⟩ := finished_measuring [1000] (by simp)
  have covered := (rtt_summarises_first_samples run result).2.1.mpr
    (by rw [same]; decide)
  exact ⟨trace, state, metrics, run, result, by rw [covered, same]⟩

end TcpFlow
end Npt.Ci.Client
