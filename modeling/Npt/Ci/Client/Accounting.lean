import Npt.Ci.Client.Phases

/-!
Owns: the flow ledger of a run. The break counter is the number of flows whose
`disconnected` flag is set, a broken flow was connected, and connected flows
and reported connection failures together account for every flow whose task has
got past its connect.

Does not own: what the watchdog records, or the verdict over the metrics.
-/

namespace Npt.Ci.Client

open Npt.Core

section AnyProgram

variable {Task Label : Type} {program : FlowProgram Task Label} {phase : Task → Phase}
  {config : RunConfig} {trace : List (RunState Task × RunLabel Label)} {state : RunState Task}

/-- Every break is counted once, whichever half of the flow notices it first. -/
theorem midstream_eq_disconnected
    (run : (runMachine program config).Run (initialRun program config) trace state) :
    state.run.midstreamDisconnects =
      state.flows.countP (fun flow => flow.conn.disconnected) := by
  refine run.invariant (fun state => state.run.midstreamDisconnects =
    state.flows.countP (fun flow => flow.conn.disconnected)) ?_ ?_
  · refine (List.countP_eq_zero.mpr ?_).symm
    intro flow member
    obtain ⟨id, wake, rfl⟩ := mem_initialRun_flows member
    simp
  · intro state label next ledger step
    cases taken_of_step step with
    | @flow index label flow event task present own =>
        have moved := countP_set_add (fun flow : Flow Task => flow.conn.disconnected) present
          ⟨(event.apply state.now config.deadline state.run flow.conn).2, task⟩
        have counted := event.apply_midstream state.now config.deadline state.run flow.conn
        simp only [RunState.replace] at moved counted ⊢
        omega
    | @visit now due index flow visiting present =>
        have moved := countP_set_add (fun flow : Flow Task => flow.conn.disconnected) present
          ⟨(visitFlow config.stallMs now state.run flow.conn).2, flow.task⟩
        have counter : (visitFlow config.stallMs now state.run flow.conn).1.midstreamDisconnects =
            state.run.midstreamDisconnects := by
          rw [visitFlow_eq]
          split <;> rfl
        have flag : (visitFlow config.stallMs now state.run flow.conn).2.disconnected =
            flow.conn.disconnected := by
          rw [visitFlow_conn_eq]
        simp only [RunState.replace, flag] at moved ⊢
        omega
    | _ => exact ledger

/-- A flow whose task ended in a connection failure. -/
def connectFailure (phase : Task → Phase) (flow : Flow Task) : Bool :=
  decide (phase flow.task = .returned) && !flow.conn.connected

/-- One failure is reported for each flow that never connected. -/
theorem connectFailed_eq (phased : Phased program phase)
    (run : (runMachine program config).Run (initialRun program config) trace state) :
    state.run.connectFailed = state.flows.countP (connectFailure phase) := by
  refine run.history
    (fun _ state => state.run.connectFailed = state.flows.countP (connectFailure phase)) ?_ ?_
  · refine (List.countP_eq_zero.mpr ?_).symm
    intro flow member
    obtain ⟨id, wake, rfl⟩ := mem_initialRun_flows member
    simp [connectFailure, phased.start wake]
  · intro trace state label next before ledger step
    cases taken_of_step step with
    | @flow index label flow event task present own =>
        have moved := countP_set_add (connectFailure phase) present
          ⟨(event.apply state.now config.deadline state.run flow.conn).2, task⟩
        have counted := event.apply_connectFailed state.now config.deadline state.run flow.conn
        have flags := flagsMatch_of_run phased before index flow present
        have kept := event.apply_connected state.now config.deadline state.run flow.conn
        have move := phased.step _ _ _ _ _ _ own
        -- The flow's weight grows by the failures its step reports.
        have weight : (connectFailure phase
              ⟨(event.apply state.now config.deadline state.run flow.conn).2, task⟩).toNat =
            (connectFailure phase flow).toNat + event.refusals := by
          generalize old : phase flow.task = first, new : phase task = second at move
          cases move with
          | waited => simp [connectFailure, old, new, FlowEvent.refusals]
          | connected => simp [connectFailure, old, new, FlowEvent.refusals]
          | refused message =>
              simp [connectFailure, old, new, kept, flags.waiting old, FlowEvent.refusals]
          | streamed once unreported onwards =>
              simp [connectFailure, kept, flags.connected old, unreported]
        simp only [RunState.replace]
        omega
    | @visit now due index flow visiting present =>
        have moved := countP_set_add (connectFailure phase) present
          ⟨(visitFlow config.stallMs now state.run flow.conn).2, flow.task⟩
        have counter : (visitFlow config.stallMs now state.run flow.conn).1.connectFailed =
            state.run.connectFailed := by
          rw [visitFlow_eq]
          split <;> rfl
        have flag : connectFailure phase
              ⟨(visitFlow config.stallMs now state.run flow.conn).2, flow.task⟩ =
            connectFailure phase flow := by
          rw [visitFlow_conn_eq]
          rfl
        simp only [RunState.replace, flag] at moved ⊢
        omega
    | _ => exact ledger

theorem connected_add_connectFailure_le (flows : List (Flow Task)) :
    flows.countP (fun flow => flow.conn.connected) + flows.countP (connectFailure phase) ≤
      flows.length := by
  rw [List.length_eq_countP_add_countP (fun flow => flow.conn.connected) (l := flows)]
  refine Nat.add_le_add_left (List.countP_mono_left ?_) _
  intro flow _ failed
  simp only [connectFailure, Bool.and_eq_true, Bool.not_eq_true'] at failed
  simp [failed.2]

theorem connected_add_connectFailure_eq {flows : List (Flow Task)}
    (returned : ∀ flow ∈ flows, phase flow.task = .returned) :
    flows.countP (fun flow => flow.conn.connected) + flows.countP (connectFailure phase) =
      flows.length := by
  rw [List.length_eq_countP_add_countP (fun flow => flow.conn.connected) (l := flows)]
  refine congrArg _ (List.countP_congr ?_)
  intro flow member
  simp [connectFailure, returned flow member]

/-- The ledger of the flows in a state. -/
structure Balanced (program : FlowProgram Task Label) (state : RunState Task) : Prop where
  breaks : state.run.midstreamDisconnects =
    state.flows.countP (fun flow => flow.conn.disconnected)
  broken : ∀ flow ∈ state.flows, flow.conn.disconnected = true → flow.conn.connected = true
  bounded : state.flows.countP (fun flow => flow.conn.connected) + state.run.connectFailed ≤
    state.flows.length
  settled : (∀ flow ∈ state.flows, program.returned flow.task = true) →
    state.flows.countP (fun flow => flow.conn.connected) + state.run.connectFailed =
      state.flows.length

theorem balanced_of_run (phased : Phased program phase)
    (run : (runMachine program config).Run (initialRun program config) trace state) :
    Balanced program state where
  breaks := midstream_eq_disconnected run
  broken := by
    intro flow member
    obtain ⟨index, present⟩ := List.getElem?_of_mem member
    exact (flagsMatch_of_run phased run index flow present).broken
  bounded := by
    rw [connectFailed_eq phased run]
    exact connected_add_connectFailure_le state.flows
  settled := by
    intro returned
    rw [connectFailed_eq phased run]
    exact connected_add_connectFailure_eq
      (fun flow member => (phased.returned flow.task).mp (returned flow member))

/-- The ledger as the final metrics show it. -/
theorem metrics_balanced (phased : Phased program phase)
    (run : (runMachine program config).Run (initialRun program config) trace state)
    {metrics : PortMetrics} (returned : state.main = .returned metrics) :
    metrics.midstreamDisconnects ≤ metrics.connected ∧
      metrics.flowsNoReturn ≤ metrics.connected ∧
      metrics.connected + metrics.connectFailed = metrics.connectionsAttempted := by
  have balanced := balanced_of_run phased run
  have balance := balanced.settled (main_returned_of_run run returned)
  obtain ⟨series, rfl⟩ := (finished_of_run run).metrics metrics returned
  simp only [finalize, RunState.conns, List.countP_map, List.length_map]
  refine ⟨?_, ?_, balance⟩
  · rw [balanced.breaks]
    exact List.countP_mono_left (fun flow member flagged => balanced.broken flow member flagged)
  · refine List.countP_mono_left (fun flow _ unreturned => ?_)
    exact (Bool.and_eq_true_iff.mp unreturned).1

end AnyProgram

namespace TcpFlow

/-- The flow ledger of a TCP run, in every reachable state and in the metrics. -/
theorem tcp_flow_accounting (config : RunConfig)
    {trace : List (RunState Task × RunLabel Label)} {state : RunState Task}
    (run : (runTcp config).Run (startTcp config) trace state) :
    state.run.midstreamDisconnects =
        state.flows.countP (fun flow => flow.conn.disconnected) ∧
      (∀ flow ∈ state.flows, flow.conn.disconnected = true → flow.conn.connected = true) ∧
      state.flows.countP (fun flow => flow.conn.connected) + state.run.connectFailed ≤
        state.flows.length ∧
      ((∀ flow ∈ state.flows, flow.task = .returned) →
        state.flows.countP (fun flow => flow.conn.connected) + state.run.connectFailed =
          state.flows.length) ∧
      ∀ metrics, state.main = .returned metrics →
        metrics.connectionsAttempted = state.flows.length ∧
          metrics.midstreamDisconnects ≤ metrics.connected ∧
          metrics.flowsNoReturn ≤ metrics.connected ∧
          metrics.connected + metrics.connectFailed = metrics.connectionsAttempted := by
  have balanced := balanced_of_run (phased config) run
  refine ⟨balanced.breaks, balanced.broken, balanced.bounded, ?_, ?_⟩
  · intro returned
    refine balanced.settled (fun flow member => ?_)
    exact decide_eq_true (returned flow member)
  · intro metrics returned
    refine ⟨?_, metrics_balanced (phased config) run returned⟩
    obtain ⟨series, rfl⟩ := (finished_of_run run).metrics metrics returned
    simp [finalize, RunState.conns]

/-- One flow that breaks, noticed by both halves, and one that is refused. -/
def brokenAndRefused : RunConfig where
  endpoint := "127.0.0.1:9"
  params := { connectionsPerPort := 2, durationSecs := 1, payloadBytes := 1, rampMs := 0 }
  stallSecs := 1

def brokenAndRefusedLabels : List (RunLabel Label) :=
  [.flow 0 .wake, .flow 1 .wake, .flow 0 (.connectOk 0),
    .flow 1 (.connectError ⟨.other, "Connection refused"⟩),
    .flow 0 (.peerReset 0 ⟨.other, "Connection reset by peer"⟩), .flow 0 (.read 0),
    .flow 0 (.writerCheck 0), .flow 0 .writerError, .flow 0 .join, .join, .elapse 1000] ++
    sampleRound _ 2 ++ [.finalize]

theorem tcp_flow_accounting_brokenAndRefused :
    ∃ state metrics,
      (runTcp brokenAndRefused).play (startTcp brokenAndRefused) brokenAndRefusedLabels =
          some state ∧
        state.main = .returned metrics ∧ metrics.midstreamDisconnects = 1 ∧
        metrics.midstreamDisconnects ≤ metrics.connected ∧
        metrics.connected + metrics.connectFailed = 2 := by
  obtain ⟨metrics, returned, one⟩ := Option.map_eq_some_iff.mp (show
    (((runTcp brokenAndRefused).play (startTcp brokenAndRefused) brokenAndRefusedLabels).bind
      RunState.result).map PortMetrics.midstreamDisconnects = some 1 by decide +kernel)
  obtain ⟨state, played, result⟩ := Option.bind_eq_some_iff.mp returned
  have run := Machine.run_of_play played
  have main := main_of_result result
  obtain ⟨_, _, _, _, final⟩ := tcp_flow_accounting brokenAndRefused run
  obtain ⟨attempted, breaks, _, balance⟩ := final metrics main
  have size := flows_length run
  exact ⟨state, metrics, played, main, one, breaks, by rw [balance, attempted, size]; rfl⟩

end TcpFlow

end Npt.Ci.Client
