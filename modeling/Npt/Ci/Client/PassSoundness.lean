import Npt.Ci.Client.Accounting
import Npt.Ci.Client.Watchdog
import Npt.Ci.Detect

/-!
Owns: the soundness of a passing verdict of a TCP run. Each counter and flag
that `evaluate` reads is tied to the steps of the run that moved it: received
and sent bytes to reads and writes, `disconnected` to the breaks seen, recorded
stalls to the silences the watchdog saw.

Does not own: completeness of the verdict, or UDP runs.
-/

namespace Npt.Ci.Client.TcpFlow

open Npt.Core
open Npt.Ci.Protocol
open Npt.Ci.Config
open Npt.Ci.Detect

/-! ## What a step of the run shows -/

/-- A step together with the state it was taken in. -/
abbrev Entry := RunState Task × RunLabel Label

/-- Flow `index` is connected and in `stream`. -/
def StreamOf (state : RunState Task) (index : Nat) (stream : Stream) : Prop :=
  ∃ conn, state.flows[index]? = some ⟨conn, .streaming stream⟩

/-- The reader of flow `index` received `frame`. -/
def FrameRead (entry : Entry) (index : Nat) (frame : Frame) : Prop :=
  ∃ stream rest nowMicros, StreamOf entry.1 index stream ∧
    entry.2 = .flow index (.read nowMicros) ∧ Frame.read stream.rx = .ok (some frame) rest

/-- The writer of flow `index` finished a frame. -/
def FrameWritten (entry : Entry) (index : Nat) : Prop :=
  ∃ stream, StreamOf entry.1 index stream ∧ entry.2 = .flow index .writerDone

/-- The reader of flow `index` observed the end of the stream or an error, or
its writer observed an error. -/
def BreakSeen (entry : Entry) (index : Nat) : Prop :=
  ∃ stream, StreamOf entry.1 index stream ∧
    ((∃ nowMicros, entry.2 = .flow index (.read nowMicros) ∧
        ∀ frame rest, Frame.read stream.rx ≠ .ok (some frame) rest) ∨
      entry.2 = .flow index .writerError)

variable {config : RunConfig} {trace : List Entry} {state : RunState Task}

/-! ## Counters and the steps behind them -/

private theorem frameRead_of_move {now id : Nat} {stream : Stream} {label : Label}
    {event : FlowEvent} {task : Task} (move : Move config now id stream label event task)
    (received : event.receives = true) :
    ∃ nowMicros frame rest, label = .read nowMicros ∧
      Frame.read stream.rx = .ok (some frame) rest := by
  cases move with
  | frame reading read => exact ⟨_, _, _, rfl, read⟩
  | _ => simp [FlowEvent.receives] at received

/-- Returned bytes were read as a frame. -/
theorem frameRead_of_bytesRecv (run : (runTcp config).Run (startTcp config) trace state) :
    ∀ (index : Nat) flow, state.flows[index]? = some flow → 0 < flow.conn.bytesRecv →
      ∃ entry ∈ trace, ∃ frame, FrameRead entry index frame := by
  refine flow_history (fun trace index _ flow => 0 < flow.conn.bytesRecv →
    ∃ entry ∈ trace, ∃ frame, FrameRead entry index frame) ?_ ?_ ?_ ?_ ?_ run
  · intro index wake bytes
    simp at bytes
  · intro trace state index label flow event task _ present _ holds taken bytes
    cases received : event.receives with
    | false =>
        rw [(event.apply_unreceived _ _ _ _ received).1] at bytes
        obtain ⟨entry, member, read⟩ := holds bytes
        exact ⟨entry, List.mem_append_left _ member, read⟩
    | true =>
        obtain ⟨conn, before⟩ := flow
        cases taskMove_of_step taken with
        | woke | connected | refused => simp [FlowEvent.receives] at received
        | @streamed stream _ _ _ move =>
            obtain ⟨nowMicros, frame, rest, rfl, read⟩ := frameRead_of_move move received
            exact ⟨_, List.mem_append_right _ (List.mem_singleton_self _), frame, stream, rest,
              nowMicros, ⟨conn, present⟩, rfl, read⟩
  · intro trace index now seen run flow holds bytes
    rw [visitFlow_conn_eq] at bytes
    exact holds bytes
  · intro trace entry index now flow _ holds bytes
    obtain ⟨found, member, read⟩ := holds bytes
    exact ⟨found, List.mem_append_left _ member, read⟩
  · exact fun _ _ _ _ _ holds => holds

private theorem frameWritten_of_move {now id : Nat} {stream : Stream} {label : Label}
    {event : FlowEvent} {task : Task} (move : Move config now id stream label event task)
    (sent : event.sends = true) : label = .writerDone := by
  cases move with
  | sent => rfl
  | _ => simp [FlowEvent.sends] at sent

/-- Sent bytes were written as a frame. -/
theorem frameWritten_of_bytesSent (run : (runTcp config).Run (startTcp config) trace state) :
    ∀ (index : Nat) flow, state.flows[index]? = some flow → 0 < flow.conn.bytesSent →
      ∃ entry ∈ trace, FrameWritten entry index := by
  refine flow_history (fun trace index _ flow => 0 < flow.conn.bytesSent →
    ∃ entry ∈ trace, FrameWritten entry index) ?_ ?_ ?_ ?_ ?_ run
  · intro index wake bytes
    simp at bytes
  · intro trace state index label flow event task _ present _ holds taken bytes
    cases sent : event.sends with
    | false =>
        rw [event.apply_unsent _ _ _ _ sent] at bytes
        obtain ⟨entry, member, written⟩ := holds bytes
        exact ⟨entry, List.mem_append_left _ member, written⟩
    | true =>
        obtain ⟨conn, before⟩ := flow
        cases taskMove_of_step taken with
        | woke | connected | refused => simp [FlowEvent.sends] at sent
        | @streamed stream _ _ _ move =>
            obtain rfl := frameWritten_of_move move sent
            exact ⟨_, List.mem_append_right _ (List.mem_singleton_self _), stream,
              ⟨conn, present⟩, rfl⟩
  · intro trace index now seen run flow holds bytes
    rw [visitFlow_conn_eq] at bytes
    exact holds bytes
  · intro trace entry index now flow _ holds bytes
    obtain ⟨found, member, written⟩ := holds bytes
    exact ⟨found, List.mem_append_left _ member, written⟩
  · exact fun _ _ _ _ _ holds => holds

private theorem broken_of_move {now id : Nat} {stream : Stream} {label : Label}
    {event : FlowEvent} {task : Task} (move : Move config now id stream label event task)
    (seen : label = .writerError ∨ ∃ nowMicros, label = .read nowMicros ∧
      ∀ frame rest, Frame.read stream.rx ≠ .ok (some frame) rest) :
    ∃ message, event = .broken message := by
  rcases seen with rfl | ⟨nowMicros, rfl, past⟩
  · cases move with
    | writeFailed => exact ⟨_, rfl⟩
  · cases move with
    | frame reading read => exact absurd read (past _ _)
    | ended => exact ⟨_, rfl⟩

/-- A break seen before the deadline leaves its flow flagged. -/
theorem disconnected_of_breakSeen (run : (runTcp config).Run (startTcp config) trace state) :
    ∀ (index : Nat) flow, state.flows[index]? = some flow → ∀ entry ∈ trace,
      BreakSeen entry index → entry.1.now < config.deadline → flow.conn.disconnected = true := by
  refine flow_history (fun trace index _ flow => ∀ entry ∈ trace,
    BreakSeen entry index → entry.1.now < config.deadline → flow.conn.disconnected = true)
    ?_ ?_ ?_ ?_ ?_ run
  · simp
  · intro trace state index label flow event task _ present running holds taken entry member seen early
    rcases List.mem_append.mp member with old | here
    · exact event.apply_disconnected_of_disconnected _ _ _ _ (holds entry old seen early)
    · obtain rfl := List.mem_singleton.mp here
      obtain ⟨stream, ⟨conn, there⟩, shown⟩ := seen
      obtain rfl : flow = ⟨conn, .streaming stream⟩ := Option.some.inj (present.symm.trans there)
      cases taskMove_of_step taken with
      | streamed move =>
          obtain ⟨message, rfl⟩ := broken_of_move move (by
            rcases shown with ⟨nowMicros, same, past⟩ | same
            · exact Or.inr ⟨nowMicros, (RunLabel.flow.inj same).2, past⟩
            · exact Or.inl (RunLabel.flow.inj same).2)
          exact FlowEvent.apply_broken _ _ _ _ message running early
  · intro trace index now seen run flow holds entry member broken early
    rw [visitFlow_conn_eq]
    exact holds entry member broken early
  · intro trace entry index now flow foreign holds found member seen early
    rcases List.mem_append.mp member with old | here
    · exact holds found old seen early
    · obtain rfl := List.mem_singleton.mp here
      obtain ⟨_, _, ⟨nowMicros, same, _⟩ | same⟩ := seen
      · exact absurd same (foreign _)
      · exact absurd same (foreign _)
  · exact fun _ _ _ _ _ holds => holds

/-! ## The verdict -/

/-- A connected flow of a run that passes the no-return rule received bytes. -/
private theorem bytesRecv_pos_of_noReturn {conns : List ConnState} {conn : ConnState}
    (none : conns.countP (fun conn => conn.connected && conn.bytesRecv == 0) = 0)
    (member : conn ∈ conns) (connected : conn.connected = true) : 0 < conn.bytesRecv := by
  have returned := List.countP_eq_zero.mp none conn member
  simp only [connected, Bool.true_and, beq_iff_eq] at returned
  exact Nat.pos_of_ne_zero returned

private theorem exists_bytesSent_pos {conns : List ConnState}
    (sent : 0 < (conns.map ConnState.bytesSent).sum) : ∃ conn ∈ conns, 0 < conn.bytesSent := by
  by_contra none
  push Not at none
  have zero : (conns.map ConnState.bytesSent).sum = 0 := by
    refine List.sum_eq_zero ?_
    intro bytes member
    obtain ⟨conn, present, rfl⟩ := List.mem_map.mp member
    exact Nat.le_zero.mp (none conn present)
  omega

/-- A TCP run whose final metrics pass was healthy in every step. -/
theorem pass_sound (config : RunConfig) (detect : DetectParams) (portId : Int)
    {trace : List Entry} {state : RunState Task} {metrics : PortMetrics}
    (run : (runTcp config).Run (startTcp config) trace state)
    (returned : state.main = .returned metrics)
    (failOnStall : detect.failOnStall = true)
    (failOnMidstreamDisconnect : detect.failOnMidstreamDisconnect = true)
    (failOnNoReturn : detect.failOnNoReturn = true)
    (passed : (evaluate metrics detect portId).verdict = .pass) :
    (∃ flow ∈ state.flows, flow.conn.connected = true) ∧
      (0 < metrics.bytesSent ∧ ∃ entry ∈ trace, ∃ index, FrameWritten entry index) ∧
      (∀ (index : Nat) flow, state.flows[index]? = some flow → flow.conn.connected = true →
        ∃ entry ∈ trace, ∃ frame, FrameRead entry index frame) ∧
      (∀ entry ∈ trace, ∀ index, BreakSeen entry index → config.deadline ≤ entry.1.now) ∧
      (∀ entry ∈ trace, ∀ index seen conn, Visited entry index seen conn →
        conn.firstRecv = true → conn.disconnected = false →
          seen - conn.lastRecvMs ≤ config.stallMs) ∧
      (metrics.connectFailed : Rat) / (metrics.connectionsAttempted : Rat) ≤
        detect.maxConnectFailRatio := by
  have clean := (evaluate_pass_iff metrics detect portId).mp passed
  obtain ⟨series, shown⟩ := (finished_of_run run).metrics metrics returned
  have size := flows_length run
  have positive : 1 ≤ config.flowCount := by simp [RunConfig.flowCount]
  have breaks := midstream_eq_disconnected run
  subst shown
  refine ⟨?_, ⟨clean.sent, ?_⟩, ?_, ?_, ?_, ?_⟩
  · obtain ⟨conn, member, connected⟩ := List.countP_pos_iff.mp clean.connected
    obtain ⟨flow, present, rfl⟩ := List.mem_map.mp member
    exact ⟨flow, present, connected⟩
  · obtain ⟨conn, member, sent⟩ := exists_bytesSent_pos clean.sent
    obtain ⟨flow, present, rfl⟩ := List.mem_map.mp member
    obtain ⟨index, found⟩ := List.getElem?_of_mem present
    obtain ⟨entry, member, written⟩ := frameWritten_of_bytesSent run index flow found sent
    exact ⟨entry, member, index, written⟩
  · intro index flow present connected
    have member : flow.conn ∈ state.conns :=
      List.mem_map_of_mem (List.mem_of_getElem? present)
    have bytes := bytesRecv_pos_of_noReturn (clean.returns failOnNoReturn) member connected
    exact frameRead_of_bytesRecv run index flow present bytes
  · intro entry member index seen
    by_contra early
    have unbroken : state.flows.countP (fun flow => flow.conn.disconnected) = 0 :=
      breaks.symm.trans (clean.disconnects failOnMidstreamDisconnect)
    obtain ⟨before, _, earlier, _⟩ := run.mem_step member
    obtain ⟨stream, ⟨conn, present⟩, shown⟩ := seen
    have inside : index < state.flows.length := by
      rw [size, ← flows_length earlier]
      exact (List.getElem?_eq_some_iff.mp present).1
    have flagged := disconnected_of_breakSeen run index _ (List.getElem?_eq_getElem inside)
      entry member ⟨stream, ⟨conn, present⟩, shown⟩ (Nat.not_le.mp early)
    exact List.countP_eq_zero.mp unbroken _ (List.getElem_mem inside) flagged
  · intro entry member index seen conn visited received unbroken
    by_contra gap
    obtain ⟨before, _, earlier, _⟩ := run.mem_step member
    have connected : conn.connected = true := by
      obtain ⟨_, task, _, _, present⟩ := visited
      exact (flagsMatch_of_run (phased config) earlier index _ present).received received
    have found : silent config.stallMs seen conn = true := by
      simp [silent, connected, unbroken, received, Nat.not_le.mp gap]
    obtain ⟨event, recorded, _⟩ := (stallsRecorded_of_run run).seen entry member index seen conn
      visited found
    have none : state.run.stalls = [] := clean.stalls failOnStall
    rw [none] at recorded
    simp at recorded
  · have ratio := clean.ratio
    have attempted : max state.conns.length 1 = state.conns.length := by
      simp only [RunState.conns, List.length_map, size]
      omega
    simpa only [failRatio, finalize, attempted] using ratio

/-- One flow that is echoed one frame. -/
def echoed : RunConfig where
  endpoint := "127.0.0.1:9"
  params := { connectionsPerPort := 1, durationSecs := 1, payloadBytes := 1, rampMs := 0 }
  stallSecs := 1

def echoedLabels : List (RunLabel Label) :=
  [.flow 0 .wake, .flow 0 (.connectOk 100), .flow 0 (.writerCheck 7), .flow 0 (.writerSend 25),
    .flow 0 .writerDone, .flow 0 (.peerSend (Frame.mk 0 7 [0xA5]).encode), .flow 0 (.read 9),
    .watchdogTick, .watchdogVisit, .watchdogVisit, .elapse 1000, .flow 0 (.writerCheck 11),
    .flow 0 .peerClose, .flow 0 (.read 12), .flow 0 .join, .join] ++ sampleRound _ 1 ++ [.finalize]

/-- The metrics of the echoed run pass, and its run was healthy. -/
theorem pass_sound_echoed :
    ∃ state metrics, (runTcp echoed).play (startTcp echoed) echoedLabels = some state ∧
      state.main = .returned metrics ∧ (evaluate metrics {} 1).verdict = .pass ∧
      0 < metrics.bytesSent ∧
      (metrics.connectFailed : Rat) / (metrics.connectionsAttempted : Rat) ≤ 1 / 10 := by
  obtain ⟨metrics, found, passed⟩ := Option.map_eq_some_iff.mp (show
    (((runTcp echoed).play (startTcp echoed) echoedLabels).bind RunState.result).map
      (fun metrics => (evaluate metrics {} 1).verdict) = some .pass by decide +kernel)
  obtain ⟨state, played, result⟩ := Option.bind_eq_some_iff.mp found
  have run := Machine.run_of_play played
  have returned := main_of_result result
  obtain ⟨_, ⟨sent, _⟩, _, _, _, ratio⟩ := pass_sound echoed {} 1 run returned rfl rfl rfl passed
  exact ⟨state, metrics, played, returned, passed, sent, ratio⟩

end Npt.Ci.Client.TcpFlow
