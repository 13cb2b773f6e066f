import Npt.Ci.Client.TcpFlow
import Npt.Ci.Client.UdpFlow

/-!
Contract: the life of a flow task, the same for both protocols: it waits, then
connects or reports one failure, and a connected task streams until it returns.

Owns: `Phase`, the law `Phased` with its two instances, and how a flow's flags
fit its phase.

Does not own: counters shared by the flows.
-/

namespace Npt.Ci.Client

open Npt.Core

inductive Phase where
  | waiting
  | connected
  | returned
deriving DecidableEq, Repr

/-- How a step moves the phase, and the event it may have. -/
inductive PhaseMove : Phase → FlowEvent → Phase → Prop where
  | waited : PhaseMove .waiting .quiet .waiting
  | connected : PhaseMove .waiting .connected .connected
  | refused (message : String) : PhaseMove .waiting (.connectFailed message) .returned
  | streamed {event : FlowEvent} {next : Phase} (once : event ≠ .connected)
      (counted : event.refusals = 0) (onwards : next ≠ .waiting) :
      PhaseMove .connected event next

/-- The phases of a flow program. -/
structure Phased {Task Label : Type} (program : FlowProgram Task Label) (phase : Task → Phase) :
    Prop where
  start : ∀ wake, phase (program.start wake) = .waiting
  returned : ∀ task, program.returned task = true ↔ phase task = .returned
  step : ∀ now id task label event next, program.step now id task label = some (event, next) →
    PhaseMove (phase task) event (phase next)

def TcpFlow.phase : TcpFlow.Task → Phase
  | .ramping _ | .connecting _ => .waiting
  | .streaming _ => .connected
  | .returned => .returned

theorem TcpFlow.phased (config : RunConfig) : Phased (TcpFlow.tcpFlow config) TcpFlow.phase where
  start _ := rfl
  returned task := by cases task <;> simp [TcpFlow.tcpFlow, TcpFlow.phase]
  step := by
    intro now id task label event next taken
    cases TcpFlow.taskMove_of_step taken with
    | woke => exact .waited
    | connected => exact .connected
    | refused => exact .refused _
    | streamed move =>
        cases move <;> exact .streamed (by simp) rfl (by simp [TcpFlow.phase])

def UdpFlow.phase : UdpFlow.Task → Phase
  | .ramping _ | .opening => .waiting
  | .streaming _ => .connected
  | .returned => .returned

theorem UdpFlow.phased (config : RunConfig) : Phased (UdpFlow.udpFlow config) UdpFlow.phase where
  start _ := rfl
  returned task := by cases task <;> simp [UdpFlow.udpFlow, UdpFlow.phase]
  step := by
    intro now id task label event next taken
    cases UdpFlow.taskMove_of_step taken with
    | woke => exact .waited
    | opened => exact .connected
    | refused => exact .refused _
    | moved move =>
        cases move <;> exact .streamed (by simp) rfl (by simp [UdpFlow.phase])

section Flags

variable {Task Label : Type} {program : FlowProgram Task Label} {phase : Task → Phase}
  {config : RunConfig} {trace : List (RunState Task × RunLabel Label)} {state : RunState Task}

/-- A flow's flags fit the phase of its task. -/
structure FlagsMatch (phase : Task → Phase) (flow : Flow Task) : Prop where
  broken : flow.conn.disconnected = true → flow.conn.connected = true
  received : flow.conn.firstRecv = true → flow.conn.connected = true
  waiting : phase flow.task = .waiting → flow.conn.connected = false
  connected : phase flow.task = .connected → flow.conn.connected = true

theorem flagsMatch_of_run (phased : Phased program phase)
    (run : (runMachine program config).Run (initialRun program config) trace state) :
    ∀ (index : Nat) flow, state.flows[index]? = some flow → FlagsMatch phase flow := by
  refine flow_invariant (fun _ _ flow => FlagsMatch phase flow) ?_ ?_ ?_ ?_ run
  · intro index wake
    exact ⟨by simp, by simp, fun _ => rfl, by simp [phased.start wake]⟩
  · intro index now run flow label event task running flags step
    have move := phased.step _ _ _ _ _ _ step
    have kept := event.apply_connected now config.deadline run flow.conn
    generalize before : phase flow.task = first, after : phase task = second at move
    cases move with
    | waited =>
        have unconnected := flags.waiting before
        exact ⟨flags.broken, flags.received, fun _ => unconnected, by simp [after]⟩
    | connected => exact ⟨fun _ => rfl, fun _ => rfl, by simp [after], fun _ => rfl⟩
    | refused message => exact ⟨flags.broken, flags.received, by simp [after], by simp [after]⟩
    | streamed once counted onwards =>
        have still : (event.apply now config.deadline run flow.conn).2.connected = true := by
          rw [kept, flags.connected before, Bool.true_or]
        exact ⟨fun _ => still, fun _ => still, fun waiting => absurd (after.symm.trans waiting) onwards,
          fun _ => still⟩
  · intro index now seen run flow flags
    rw [visitFlow_conn_eq]
    exact ⟨flags.broken, flags.received, flags.waiting, flags.connected⟩
  · exact fun _ _ _ _ flags => flags

end Flags

/-! ## The two probes -/

namespace TcpFlow

variable {config : RunConfig} {trace : List (RunState Task × RunLabel Label)} {state : RunState Task}

/-- The reader has left its loop. -/
def Task.readerLeft : Task → Prop
  | .streaming stream => stream.reader = .stopped
  | .returned => True
  | _ => False

/-- The reader of an unflagged flow leaves its loop only after the deadline. -/
theorem deadline_le_of_readerLeft (run : (runTcp config).Run (startTcp config) trace state) :
    ∀ (index : Nat) flow, state.flows[index]? = some flow → flow.task.readerLeft →
      flow.conn.connected = true → flow.conn.disconnected = false → config.deadline ≤ state.now := by
  refine flow_history (fun _ _ now flow => flow.task.readerLeft →
    flow.conn.connected = true → flow.conn.disconnected = false → config.deadline ≤ now)
    ?_ ?_ ?_ ?_ ?_ run
  · intro index wake left
    exact left.elim
  · intro trace state index label flow event task before present running holds taken left
      connected unbroken
    have flags := flagsMatch_of_run (phased config) before index flow present
    obtain ⟨conn, _⟩ := flow
    cases taskMove_of_step taken with
    | woke | connected => simp [Task.readerLeft] at left
    | refused =>
        have unconnected : conn.connected = false := flags.waiting rfl
        simp [FlowEvent.apply, unconnected] at connected
    | streamed move =>
        cases move with
        | start | stop | send | sent | paced | frame | delivered | closed | cut | drained =>
            exact holds left (flags.connected rfl) unbroken
        | writeFailed | ended =>
            -- The break would have flagged the flow before the deadline.
            by_contra early
            rw [FlowEvent.apply_broken _ _ _ _ _ running (Nat.not_le.mp early)] at unbroken
            simp at unbroken
        | joined readerStopped writerStopped =>
            exact holds readerStopped (flags.connected rfl) unbroken
  · intro trace index now seen run flow holds left connected unbroken
    rw [visitFlow_conn_eq] at connected unbroken
    exact holds left connected unbroken
  · exact fun _ _ _ _ _ _ holds => holds
  · intro trace index now ms flow holds left connected unbroken
    exact Nat.le_add_right_of_le (holds left connected unbroken)

end TcpFlow

namespace UdpFlow

variable {config : RunConfig} {trace : List (RunState Task × RunLabel Label)} {state : RunState Task}

/-- The writer has left its loop. -/
def Task.writerLeft : Task → Prop
  | .streaming socket => socket.writer = .stopped
  | .returned => True
  | _ => False

theorem deadline_le_of_writerLeft (run : (runUdp config).Run (startUdp config) trace state) :
    ∀ (index : Nat) flow, state.flows[index]? = some flow → flow.task.writerLeft →
      flow.conn.connected = true → config.deadline ≤ state.now := by
  refine flow_history (fun _ _ now flow => flow.task.writerLeft →
    flow.conn.connected = true → config.deadline ≤ now) ?_ ?_ ?_ ?_ ?_ run
  · intro index wake left
    exact left.elim
  · intro trace state index label flow event task before present running holds taken left connected
    have flags := flagsMatch_of_run (phased config) before index flow present
    obtain ⟨conn, _⟩ := flow
    cases taskMove_of_step taken with
    | woke | opened => simp [Task.writerLeft] at left
    | refused =>
        have unconnected : conn.connected = false := flags.waiting rfl
        simp [FlowEvent.apply, unconnected] at connected
    | moved move =>
        cases move with
        | start | tick | sent | unsent => simp [Task.writerLeft] at left
        | stop checking late => exact late
        | joined readerStopped writerStopped => exact holds writerStopped (flags.connected rfl)
        | _ => exact holds left (flags.connected rfl)
  · intro trace index now seen run flow holds left connected
    rw [visitFlow_conn_eq] at connected
    exact holds left connected
  · exact fun _ _ _ _ _ _ holds => holds
  · intro trace index now ms flow holds left connected
    exact Nat.le_add_right_of_le (holds left connected)

end UdpFlow

/-- The flow program of `run_tcp` or of `run_udp`. -/
inductive Probe (config : RunConfig) : {Task Label : Type} → FlowProgram Task Label → Prop where
  | tcp : Probe config (TcpFlow.tcpFlow config)
  | udp : Probe config (UdpFlow.udpFlow config)

section Probe

variable {Task Label : Type} {program : FlowProgram Task Label} {config : RunConfig}
  {trace : List (RunState Task × RunLabel Label)} {state : RunState Task}

theorem Probe.phased (probe : Probe config program) : ∃ phase, Phased program phase := by
  cases probe with
  | tcp => exact ⟨_, TcpFlow.phased config⟩
  | udp => exact ⟨_, UdpFlow.phased config⟩

/-- A connected and unflagged flow lasts until the deadline. -/
theorem Probe.lasting (probe : Probe config program)
    (run : (runMachine program config).Run (initialRun program config) trace state) {index : Nat}
    {flow : Flow Task} (present : state.flows[index]? = some flow)
    (returned : program.returned flow.task = true) (connected : flow.conn.connected = true)
    (unbroken : flow.conn.disconnected = false) : config.deadline ≤ state.now := by
  cases probe with
  | tcp =>
      have final : flow.task = .returned := of_decide_eq_true returned
      refine TcpFlow.deadline_le_of_readerLeft run index flow present ?_ connected unbroken
      rw [final]
      trivial
  | udp =>
      have final : flow.task = .returned := of_decide_eq_true returned
      refine UdpFlow.deadline_le_of_writerLeft run index flow present ?_ connected
      rw [final]
      trivial

end Probe

end Npt.Ci.Client
