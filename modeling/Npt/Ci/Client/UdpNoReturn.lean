import Npt.Ci.Client.NoReturn
import Npt.Ci.Client.UdpFlow

/-!
Contract: the one-way-dead count of a UDP run over an echoing path.

The path returns every datagram it is given, in any order, and has returned all
of them before a reader gives up. A flow is then counted exactly when its reader
gives up before the first send goes through, which a ramp past the deadline
forces.

Owns: the UDP path, its runs, and the joint statement with the TCP path.

Does not own: the count itself.
-/

namespace Npt.Ci.Client

open Npt.Core
open Npt.Ci.Protocol

namespace UdpFlow

/-! ## The UDP path -/

/-- How the echoing path answers a step of an open flow; `inFlight` is what was
sent and has not come back. -/
def answerSocket (inFlight : List (List UInt8)) (socket : Socket) (after : Task) :
    Label → Option (List (List UInt8))
  | .sendOk =>
      match socket.writer with
      | .sending _ datagram => some (inFlight ++ [datagram])
      | _ => none
  | .deliver datagram => if datagram ∈ inFlight then some (inFlight.erase datagram) else none
  | .recvTimeout =>
      match after with
      | .streaming { reader := .stopped, .. } => if inFlight = [] then some inFlight else none
      | _ => some inFlight
  | .recvError _ => none
  | _ => some inFlight

/-- A path that opens every socket and returns what it is sent. -/
def loopback : FlowPath Task Label (List (List UInt8)) Empty where
  start := []
  answer := fun inFlight task label after =>
    match task, label with
    | .streaming socket, label => answerSocket inFlight socket after label
    | .opening, .bindError _ | .opening, .connectError _ => none
    | _, _ => some inFlight
  act := fun _ act => nomatch act

/-! ## Echoed sockets -/

/-- A datagram that the reader counts. -/
def Counted (datagram : List UInt8) : Prop :=
  (decodeUdp (datagram.take bufferLen)).isSome

/-- The writer has passed its first loop test. -/
def Started (sent : Nat) (socket : Socket) : Prop :=
  0 < sent ∨ ∃ due, socket.writer = .ticking due ∨ ∃ datagram, socket.writer = .sending due datagram

/-- An open flow on the echoing path, with what it counts as sent and received. -/
structure Echoing (gaveUp : Prop) (sent received : Nat) (socket : Socket)
    (inFlight : List (List UInt8)) : Prop where
  probes : ∀ datagram ∈ socket.queue ++ inFlight, Counted datagram
  probe : ∀ due datagram, socket.writer = .sending due datagram → Counted datagram
  untouched : sent = 0 → socket.queue ++ inFlight = [] ∧ received = 0
  owing : 0 < sent → received = 0 → socket.reader ≠ .stopped → socket.queue ++ inFlight ≠ []
  waiting : socket.reader ≠ .stopped → ¬gaveUp
  stopped : socket.reader = .stopped → (received = 0 ↔ gaveUp)

theorem counted_nextDatagram (config : RunConfig) (seq nowMicros : UInt64) :
    Counted (nextDatagram config seq nowMicros) := by
  unfold Counted nextDatagram
  rw [decodeUdp_take_encodeUdp _ _ _ _ (by decide)]
  rfl

theorem Counted.length_pos {datagram : List UInt8} (counted : Counted datagram) :
    0 < (datagram.take bufferLen).length := by
  by_contra empty
  have none : datagram.take bufferLen = [] :=
    List.eq_nil_of_length_eq_zero (Nat.eq_zero_of_not_pos empty)
  simp [Counted, none, decodeUdp, udpHeaderLen] at counted

section Steps

variable {config : RunConfig} {gaveUp : Prop} {now id sent received : Nat}
  {socket after : Socket} {inFlight answered : List (List UInt8)} {label : Label}
  {event : FlowEvent} {task : Task}

/-- A flow starts before the deadline only. -/
theorem started_step (move : Move config now id socket label event (.streaming after))
    (begun : Started (sent + event.bytesOut) after) : Started sent socket ∨ now < config.deadline := by
  cases move with
  | start checking early => exact Or.inr early
  | stop checking | unsent sending =>
      refine Or.inl (Or.inl ?_)
      simpa [Started, FlowEvent.bytesOut] using begun
  | tick ticking => exact Or.inl (Or.inr ⟨_, Or.inl ticking⟩)
  | sent sending => exact Or.inl (Or.inr ⟨_, Or.inr ⟨_, sending⟩⟩)
  | received | ignored | readerFailed | readerDone | again | delivered => exact Or.inl begun

/-- A step of the writer that completes no send. -/
theorem Echoing.rewrite (echoing : Echoing gaveUp sent received socket inFlight) {writer : Writer}
    {seq : UInt64} (probe : ∀ due datagram, writer = .sending due datagram → Counted datagram) :
    Echoing gaveUp sent received { socket with writer := writer, seq := seq } inFlight where
  probes := echoing.probes
  probe := probe
  untouched := echoing.untouched
  owing := echoing.owing
  waiting := echoing.waiting
  stopped := echoing.stopped

/-- A datagram moves from the path into the socket. -/
theorem Echoing.moved (echoing : Echoing gaveUp sent received socket inFlight)
    {datagram : List UInt8} (present : datagram ∈ inFlight) :
    Echoing gaveUp sent received { socket with queue := socket.queue ++ [datagram] }
      (inFlight.erase datagram) where
  probes := fun other member => by
    refine echoing.probes other ?_
    simp only [List.append_assoc, List.mem_append, List.mem_singleton] at member ⊢
    rcases member with queued | rfl | rest
    · exact Or.inl queued
    · exact Or.inr present
    · exact Or.inr (List.mem_of_mem_erase rest)
  probe := echoing.probe
  untouched := fun unsent => by
    have empty := (List.append_eq_nil_iff.mp (echoing.untouched unsent).1).2
    simp [empty] at present
  owing := by simp
  waiting := echoing.waiting
  stopped := echoing.stopped

/-- The reader takes a datagram. -/
theorem Echoing.taken (echoing : Echoing gaveUp sent received socket inFlight) {since : Nat}
    {datagram : List UInt8} {rest : List (List UInt8)} (receiving : socket.reader = .receiving since)
    (arrived : socket.queue = datagram :: rest) :
    Echoing gaveUp sent (received + (datagram.take bufferLen).length)
      { socket with queue := rest, reader := .receiving now } inFlight where
  probes := fun other member => echoing.probes other (by
    simp only [arrived, List.cons_append, List.mem_cons]
    exact Or.inr member)
  probe := echoing.probe
  untouched := fun unsent => absurd (echoing.untouched unsent).1 (by simp [arrived])
  owing := fun _ none => by
    have counted := echoing.probes datagram (by simp [arrived])
    have positive := counted.length_pos
    omega
  waiting := fun _ => echoing.waiting (by simp [receiving])
  stopped := by simp

/-- A datagram is sent, and is on the path. -/
theorem Echoing.send (echoing : Echoing gaveUp sent received socket inFlight) {due next : Nat}
    {datagram : List UInt8} {seq : UInt64} (sending : socket.writer = .sending due datagram) :
    Echoing gaveUp (sent + datagram.length) received
      { socket with seq := seq, writer := .checking next } (inFlight ++ [datagram]) := by
  have counted := echoing.probe due datagram sending
  have positive : 0 < datagram.length :=
    lt_of_lt_of_le counted.length_pos (List.length_take_le' _ _)
  exact
    { probes := fun other member => by
        rw [← List.append_assoc, List.mem_append, List.mem_singleton] at member
        rcases member with earlier | rfl
        · exact echoing.probes other earlier
        · exact counted
      probe := by simp
      untouched := fun unsent => by omega
      owing := by simp
      waiting := echoing.waiting
      stopped := echoing.stopped }

/-- The reader leaves its loop with nothing waiting and nothing on the path. -/
theorem Echoing.leave {gaveUpAfter : Prop} {since : Nat}
    (echoing : Echoing gaveUp sent received socket []) (receiving : socket.reader = .receiving since)
    (idle : socket.queue = []) (givesUp : gaveUpAfter ↔ gaveUp ∨ sent = 0) :
    Echoing gaveUpAfter sent received { socket with reader := .stopped } [] where
  probes := echoing.probes
  probe := echoing.probe
  untouched := echoing.untouched
  owing := by simp
  waiting := by simp
  stopped := fun _ => by
    rw [givesUp, or_iff_right (echoing.waiting (by simp [receiving]))]
    constructor
    · intro none
      refine Nat.eq_zero_of_not_pos fun sent => ?_
      exact echoing.owing sent none (by simp [receiving]) (by simp [idle])
    · exact fun unsent => (echoing.untouched unsent).2

/-- What one step of an echoed socket leaves. -/
theorem echoing_step {gaveUpAfter : Prop}
    (echoing : Echoing gaveUp sent received socket inFlight)
    (taken : socketStep config now id socket label = some (event, .streaming after))
    (answer : answerSocket inFlight socket (.streaming after) label = some answered)
    (givesUp : gaveUpAfter ↔
      gaveUp ∨ label = .recvTimeout ∧ sent = 0 ∧ config.deadline ≤ now) :
    Echoing gaveUpAfter (sent + event.bytesOut) (received + event.bytesIn) after answered := by
  generalize shape : Task.streaming after = task at taken
  cases move_of_socketStep taken with
  | start checking | stop checking | tick ticking | unsent sending =>
      obtain rfl := Option.some.inj answer
      obtain rfl := Task.streaming.inj shape
      simp only [reduceCtorEq, false_and, or_false] at givesUp
      rw [givesUp]
      refine echoing.rewrite ?_
      simp +contextual [counted_nextDatagram]
  | @sent due datagram sending =>
      simp only [answerSocket, sending, Option.some.injEq] at answer
      subst answer
      obtain rfl := Task.streaming.inj shape
      simp only [reduceCtorEq, false_and, or_false] at givesUp
      rw [givesUp]
      exact echoing.send sending
  | @received since nowMicros seq stamp datagram rest receiving arrived valid =>
      obtain rfl := Option.some.inj answer
      obtain rfl := Task.streaming.inj shape
      simp only [reduceCtorEq, false_and, or_false] at givesUp
      rw [givesUp]
      exact echoing.taken receiving arrived
  | @ignored since nowMicros datagram rest receiving arrived invalid =>
      have counted := echoing.probes datagram (by simp [arrived])
      simp [Counted, invalid] at counted
  | readerFailed => simp [answerSocket] at answer
  | readerDone receiving late =>
      obtain rfl := Task.streaming.inj shape
      simp only [answerSocket] at answer
      split at answer
      · rename_i returned
        obtain rfl := Option.some.inj answer
        subst returned
        refine echoing.leave receiving (queue_of_recvTimeout taken) ?_
        simpa [late] using givesUp
      · simp at answer
  | again receiving early =>
      obtain rfl := Task.streaming.inj shape
      obtain rfl := Option.some.inj answer
      have same : gaveUpAfter ↔ gaveUp := by
        rw [givesUp, or_iff_left]
        rintro ⟨_, _, late⟩
        omega
      rw [same]
      exact
        { probes := echoing.probes
          probe := echoing.probe
          untouched := echoing.untouched
          owing := fun sent none _ => echoing.owing sent none (by simp [receiving])
          waiting := fun _ => echoing.waiting (by simp [receiving])
          stopped := by simp }
  | joined => simp at shape
  | delivered =>
      obtain rfl := Task.streaming.inj shape
      simp only [answerSocket] at answer
      split at answer
      · rename_i present
        obtain rfl := Option.some.inj answer
        simp only [reduceCtorEq, false_and, or_false] at givesUp
        rw [givesUp]
        exact echoing.moved present
      · simp at answer

end Steps

/-! ## UDP runs -/

/-- A run over the echoing path. -/
def looped (config : RunConfig) :
    Machine (RunState Task × List (List (List UInt8))) (RunLabel Label ⊕ (Nat × Empty)) :=
  pathMachine (udpFlow config) loopback config

def startLooped (config : RunConfig) : RunState Task × List (List (List UInt8)) :=
  initialPath (udpFlow config) loopback config

/-- The end of a wait of the reader. -/
def TimedOut (label : Label) : Prop := label = .recvTimeout

/-- A flow of a run over the echoing path. -/
structure Answered (config : RunConfig) (gaveUp : Prop) (index now : Nat) (flow : Flow Task)
    (inFlight : List (List UInt8)) : Prop where
  waiting : (∀ socket, flow.task ≠ .streaming socket) → flow.task ≠ .returned →
    ¬gaveUp ∧ flow.conn.bytesSent = 0 ∧ flow.conn.bytesRecv = 0 ∧ inFlight = []
  ramping : ∀ wake, flow.task = .ramping wake → wake = wakeTime config index
  woken : (∀ wake, flow.task ≠ .ramping wake) → wakeTime config index ≤ now
  connected : ∀ socket, flow.task = .streaming socket → flow.conn.connected = true
  echoing : ∀ socket, flow.task = .streaming socket →
    Echoing gaveUp flow.conn.bytesSent flow.conn.bytesRecv socket inFlight
  begun : ∀ socket, flow.task = .streaming socket → Started flow.conn.bytesSent socket →
    wakeTime config index < config.deadline
  returned : flow.task = .returned → flow.conn.connected = true ∧
    (flow.conn.bytesRecv = 0 ↔ gaveUp) ∧ (config.deadline ≤ wakeTime config index → gaveUp)

section Runs

variable {config : RunConfig}
  {trace : List ((RunState Task × List (List (List UInt8))) × (RunLabel Label ⊕ (Nat × Empty)))}
  {joint : RunState Task × List (List (List UInt8))}

/-- What the join of a flow's two halves leaves. -/
theorem Answered.joined {gaveUp : Prop} {index now : Nat} {conn : ConnState} {socket : Socket}
    {inFlight : List (List UInt8)}
    (answered : Answered config gaveUp index now ⟨conn, .streaming socket⟩ inFlight)
    (readerStopped : socket.reader = .stopped) :
    (conn.bytesRecv = 0 ↔ gaveUp) ∧ (config.deadline ≤ wakeTime config index → gaveUp) := by
  have echoing := answered.echoing socket rfl
  refine ⟨echoing.stopped readerStopped, fun tooLate => ?_⟩
  have unsent : conn.bytesSent = 0 := by
    by_contra sent
    have early := answered.begun socket rfl (Or.inl (Nat.pos_of_ne_zero sent))
    omega
  exact (echoing.stopped readerStopped).mp (echoing.untouched unsent).2

section Steps

variable {gaveUp gaveUpNow : Prop} {index now id : Nat} {run : PortRun} {conn : ConnState}
  {inFlight after : List (List UInt8)} {label : Label} {event : FlowEvent} {task : Task}

private theorem Answered.start : Answered config False index 0
    ⟨{ id := index }, .ramping (wakeTime config index)⟩ [] where
  waiting _ _ := ⟨not_false, rfl, rfl, rfl⟩
  ramping wake same := (Task.ramping.inj same).symm
  woken awake := absurd rfl (awake _)
  connected := by simp
  echoing := by simp
  begun := by simp
  returned := by simp

private theorem Answered.wake {wake : Nat}
    (answered : Answered config gaveUp index now ⟨conn, .ramping wake⟩ inFlight)
    (reached : wake ≤ now) : Answered config gaveUp index now ⟨conn, .opening⟩ inFlight where
  waiting _ _ := answered.waiting (by simp) (by simp)
  ramping := by simp
  woken _ := (answered.ramping wake rfl) ▸ reached
  connected := by simp
  echoing := by simp
  begun := by simp
  returned := by simp

private theorem Answered.opened
    (answered : Answered config gaveUp index now ⟨conn, .opening⟩ inFlight) :
    Answered config gaveUp index now
      ⟨(FlowEvent.connected.apply now config.deadline run conn).2,
        .streaming { reader := .receiving now, writer := .checking now }⟩ inFlight := by
  obtain ⟨onTime, unsent, unreceived, rfl⟩ := answered.waiting (by simp) (by simp)
  have unsent : conn.bytesSent = 0 := unsent
  have unreceived : conn.bytesRecv = 0 := unreceived
  refine
    { waiting := by simp
      ramping := by simp
      woken := fun _ => answered.woken (by simp)
      connected := fun _ _ => rfl
      echoing := fun socket same => ?_
      begun := fun socket same begun => ?_
      returned := by simp }
  · obtain rfl := Task.streaming.inj same
    rw [FlowEvent.apply_bytesSent, FlowEvent.apply_bytesRecv, unsent, unreceived]
    exact
      { probes := by simp
        probe := by simp
        untouched := fun _ => ⟨rfl, rfl⟩
        owing := fun sent => absurd sent (Nat.lt_irrefl 0)
        waiting := fun _ => onTime
        stopped := by simp }
  · obtain rfl := Task.streaming.inj same
    rw [FlowEvent.apply_bytesSent, unsent] at begun
    simp [Started, FlowEvent.bytesOut] at begun

/-- A step of an open flow. -/
private theorem Answered.moved {socket : Socket}
    (answered : Answered config gaveUp index now ⟨conn, .streaming socket⟩ inFlight)
    (taken : (udpFlow config).step now id (.streaming socket) label = some (event, task))
    (move : Move config now id socket label event task)
    (answer : loopback.answer inFlight (.streaming socket) label task = some after)
    (lateOwn : gaveUpNow ↔
      gaveUp ∨ label = .recvTimeout ∧ conn.bytesSent = 0 ∧ config.deadline ≤ now) :
    Answered config gaveUpNow index now
      ⟨(event.apply now config.deadline run conn).2, task⟩ after := by
  have echoing := answered.echoing socket rfl
  refine
    { waiting := fun none unfinished => ?_
      ramping := fun wake same => ?_
      woken := fun _ => answered.woken (by simp)
      connected := fun after same => ?_
      echoing := fun after same => ?_
      begun := fun after same begun => ?_
      returned := fun past => ?_ }
  · cases move <;> simp at none unfinished
  · cases move <;> simp at same
  · rw [FlowEvent.apply_connected, answered.connected socket rfl, Bool.true_or]
  · obtain rfl : task = .streaming after := same
    rw [FlowEvent.apply_bytesSent, FlowEvent.apply_bytesRecv]
    exact echoing_step echoing taken answer lateOwn
  · obtain rfl : task = .streaming after := same
    rw [FlowEvent.apply_bytesSent] at begun
    rcases started_step move begun with earlier | early
    · exact answered.begun socket rfl earlier
    · exact lt_of_le_of_lt (answered.woken (by simp)) early
  · obtain rfl : task = .returned := past
    cases move with
    | joined readerStopped =>
        have same : gaveUpNow ↔ gaveUp := by simp [lateOwn]
        rw [same]
        exact ⟨answered.connected socket rfl, answered.joined readerStopped⟩

end Steps

theorem answered_of_run (run : (looped config).Run (startLooped config) trace joint) :
    ∀ (index : Nat) (flow : Flow Task) (inFlight : List (List UInt8)),
      joint.1.flows[index]? = some flow → joint.2[index]? = some inFlight →
      Answered config (Late TimedOut config trace index) index joint.1.now flow inFlight := by
  refine path_history (fun trace index now flow inFlight =>
    Answered config (Late TimedOut config trace index) index now flow inFlight) ?_ ?_ ?_ ?_ ?_ ?_ run
  · intro index
    have onTime : ¬Late TimedOut config
      ([] : List ((RunState Task × List (List (List UInt8))) × (RunLabel Label ⊕ (Nat × Empty))))
        index := by simp [Late]
    rw [iff_false_intro onTime]
    exact Answered.start
  · intro trace joint index label flow event task inFlight answered _ present _ holds own answer
    obtain ⟨conn, before⟩ := flow
    cases taskMove_of_step own with
    | woke reached =>
        obtain rfl := Option.some.inj answer
        rw [late_unmarked (by simp [TimedOut]) present]
        exact holds.wake reached
    | opened =>
        obtain rfl := Option.some.inj answer
        rw [late_unmarked (by simp [TimedOut]) present]
        exact holds.opened
    | refused =>
        cases label <;> simp [udpFlow, step, loopback] at own answer
    | moved move => exact holds.moved own move answer (late_own present)
  · intro trace entry index now flow inFlight act
    exact act.elim
  · intro trace index now seen run flow inFlight holds
    rw [visitFlow_conn_eq]
    exact ⟨holds.waiting, holds.ramping, holds.woken, holds.connected, holds.echoing, holds.begun,
      holds.returned⟩
  · intro trace entry index now flow inFlight foreign holds
    simp only [late_other foreign]
    exact holds
  · intro trace index now ms flow inFlight holds
    exact { holds with woken := fun awake => Nat.le_add_right_of_le (holds.woken awake) }

/-- What a finished run says of each of its flows. -/
theorem settled_of_run (run : (looped config).Run (startLooped config) trace joint)
    {metrics : PortMetrics} (result : joint.1.result = some metrics) (index : Nat)
    (flow : Flow Task) (present : joint.1.flows[index]? = some flow) :
    flow.conn.connected = true ∧ (flow.conn.bytesRecv = 0 ↔ Late TimedOut config trace index) ∧
      (config.deadline ≤ wakeTime config index → Late TimedOut config trace index) := by
  obtain ⟨inFlight, there⟩ := path_of_flow run present
  have past := main_returned_of_run (run_of_path run) (main_of_result result) flow
    (List.mem_of_getElem? present)
  exact (answered_of_run run index flow inFlight present there).returned (of_decide_eq_true past)

/-- A run over the echoing path counts no flow as one-way dead exactly when no
reader gives up before the flow's first send. -/
theorem udp_no_return_iff (run : (looped config).Run (startLooped config) trace joint)
    {metrics : PortMetrics} (result : joint.1.result = some metrics) :
    metrics.flowsNoReturn = 0 ↔
      ∀ entry ∈ trace, ∀ index, ¬LateStep TimedOut config index entry := by
  have settled := settled_of_run run result
  have silent : ∀ (index : Nat) flow, joint.1.flows[index]? = some flow →
      flow.conn.connected = true ∧
        (flow.conn.bytesRecv = 0 ↔ False ∨ Late TimedOut config trace index) := by
    intro index flow present
    obtain ⟨connected, unreceived, _⟩ := settled index flow present
    exact ⟨connected, unreceived.trans (false_or _).symm.to_iff⟩
  rw [no_return_iff run result silent, not_false_eq_true, true_and]

/-- A flow whose ramp ends at the deadline or later is counted. -/
theorem udp_no_return_of_ramp (run : (looped config).Run (startLooped config) trace joint)
    {metrics : PortMetrics} (result : joint.1.result = some metrics) {index : Nat}
    (below : index < config.flowCount) (tooLate : config.deadline ≤ wakeTime config index) :
    metrics.flowsNoReturn ≠ 0 := by
  intro none
  rw [← flows_length (run_of_path run)] at below
  obtain ⟨entry, member, late⟩ :=
    (settled_of_run run result index _ (List.getElem?_eq_getElem below)).2.2 tooLate
  exact (udp_no_return_iff run result).mp none entry member index late

end Runs

end UdpFlow

/-! ## The one-way-dead count -/

/-- Over an echoing path, when `flows_no_return` is zero: for TCP, the reader
takes the frames and no writer's loop test finds the deadline passed before its
first frame; for UDP, no reader gives up before its flow's first send. A ramp
that ends at the deadline or later rules both out. -/
theorem flows_no_return_zero_iff (config : RunConfig) :
    (∀ trace joint metrics,
      (TcpFlow.looped config).Run (TcpFlow.startLooped config) trace joint →
      joint.1.result = some metrics →
        (metrics.flowsNoReturn = 0 ↔ TcpFlow.Readable config ∧
          ∀ entry ∈ trace, ∀ index, ¬LateStep TcpFlow.Tested config index entry) ∧
        ∀ index < config.flowCount, config.deadline ≤ wakeTime config index →
          metrics.flowsNoReturn ≠ 0) ∧
    (∀ trace joint metrics,
      (UdpFlow.looped config).Run (UdpFlow.startLooped config) trace joint →
      joint.1.result = some metrics →
        (metrics.flowsNoReturn = 0 ↔
          ∀ entry ∈ trace, ∀ index, ¬LateStep UdpFlow.TimedOut config index entry) ∧
        ∀ index < config.flowCount, config.deadline ≤ wakeTime config index →
          metrics.flowsNoReturn ≠ 0) :=
  ⟨fun _ _ _ run result => ⟨TcpFlow.tcp_no_return_iff run result,
      fun _ below tooLate => TcpFlow.tcp_no_return_of_ramp run result below tooLate⟩,
    fun _ _ _ run result => ⟨UdpFlow.udp_no_return_iff run result,
      fun _ below tooLate => UdpFlow.udp_no_return_of_ramp run result below tooLate⟩⟩

/-- One flow without a ramp. -/
def prompt : RunConfig where
  endpoint := "127.0.0.1:9"
  params := { connectionsPerPort := 1, durationSecs := 1, payloadBytes := 1, rampMs := 0 }
  stallSecs := 1

def promptTcpLabels : List (RunLabel TcpFlow.Label ⊕ (Nat × Empty)) :=
  [.inl (.flow 0 .wake), .inl (.flow 0 (.connectOk 100)), .inl (.flow 0 (.writerCheck 7)),
    .inl (.flow 0 (.writerSend 25)), .inl (.flow 0 .writerDone),
    .inl (.flow 0 (.peerSend (Frame.mk 0 7 [0xA5]).encode)), .inl (.flow 0 (.read 9)),
    .inl (.elapse 1000), .inl (.flow 0 (.writerCheck 11)), .inl (.flow 0 .peerClose),
    .inl (.flow 0 (.read 12)), .inl (.flow 0 .join), .inl .join] ++
    (sampleRound TcpFlow.Label 1).map .inl ++ [.inl .finalize]

def promptUdpLabels : List (RunLabel UdpFlow.Label ⊕ (Nat × Empty)) :=
  [.inl (.flow 0 .wake), .inl (.flow 0 .opened), .inl (.flow 0 .writerCheck),
    .inl (.flow 0 (.writerTick 7)), .inl (.flow 0 .sendOk),
    .inl (.flow 0 (.deliver (encodeUdp 0 7 [0xA5]))), .inl (.flow 0 (.recv 9)),
    .inl (.elapse 2000), .inl (.flow 0 .writerCheck), .inl (.flow 0 .recvTimeout),
    .inl (.flow 0 .join), .inl .join] ++
    (sampleRound UdpFlow.Label 1).map .inl ++ [.inl .finalize]

/-- One flow of either kind, echoed once. -/
theorem flows_no_return_zero_prompt :
    (∃ trace joint metrics, (TcpFlow.looped prompt).Run (TcpFlow.startLooped prompt) trace joint ∧
      joint.1.result = some metrics ∧ metrics.flowsNoReturn = 0 ∧
      ∀ entry ∈ trace, ∀ index, ¬LateStep TcpFlow.Tested prompt index entry) ∧
    ∃ trace joint metrics, (UdpFlow.looped prompt).Run (UdpFlow.startLooped prompt) trace joint ∧
      joint.1.result = some metrics ∧ metrics.flowsNoReturn = 0 ∧
      ∀ entry ∈ trace, ∀ index, ¬LateStep UdpFlow.TimedOut prompt index entry := by
  constructor
  · obtain ⟨metrics, found, zero⟩ := Option.map_eq_some_iff.mp (show
      (((TcpFlow.looped prompt).play (TcpFlow.startLooped prompt) promptTcpLabels).bind
        (fun joint => joint.1.result)).map PortMetrics.flowsNoReturn = some 0 by decide +kernel)
    obtain ⟨joint, played, result⟩ := Option.bind_eq_some_iff.mp found
    have run := Machine.run_of_play played
    have exact := ((flows_no_return_zero_iff prompt).1 _ _ _ run result).1
    exact ⟨_, joint, metrics, run, result, zero, (exact.mp zero).2⟩
  · obtain ⟨metrics, found, zero⟩ := Option.map_eq_some_iff.mp (show
      (((UdpFlow.looped prompt).play (UdpFlow.startLooped prompt) promptUdpLabels).bind
        (fun joint => joint.1.result)).map PortMetrics.flowsNoReturn = some 0 by decide +kernel)
    obtain ⟨joint, played, result⟩ := Option.bind_eq_some_iff.mp found
    have run := Machine.run_of_play played
    have exact := ((flows_no_return_zero_iff prompt).2 _ _ _ run result).1
    exact ⟨_, joint, metrics, run, result, zero, exact.mp zero⟩

/-- The default ramp under a duration of one second. -/
def shortened : RunConfig where
  endpoint := "127.0.0.1:9"
  params := { connectionsPerPort := 2, durationSecs := 1, payloadBytes := 1 }
  stallSecs := 5

/-- Flow 0 is echoed; flow 1 wakes at the deadline, connects and sends nothing. -/
def shortenedLabels : List (RunLabel TcpFlow.Label ⊕ (Nat × Empty)) :=
  [.inl (.flow 0 .wake), .inl (.flow 0 (.connectOk 100)), .inl (.flow 0 (.writerCheck 7)),
    .inl (.flow 0 (.writerSend 25)), .inl (.flow 0 .writerDone),
    .inl (.flow 0 (.peerSend (Frame.mk 0 7 [0xA5]).encode)), .inl (.flow 0 (.read 9)),
    .inl (.elapse 1000), .inl (.flow 1 .wake), .inl (.flow 1 (.connectOk 100)),
    .inl (.flow 0 (.writerCheck 11)), .inl (.flow 1 (.writerCheck 11)),
    .inl (.flow 0 .peerClose), .inl (.flow 1 .peerClose), .inl (.flow 0 (.read 12)),
    .inl (.flow 1 (.read 12)), .inl (.flow 0 .join), .inl (.flow 1 .join), .inl .join] ++
    (sampleRound TcpFlow.Label 2).map .inl ++ [.inl .finalize]

/-- A configuration that `CiConfig::load` and the overrides admit, with a run
over the echoing path that counts a flow which had sent nothing. -/
theorem shortened_counted :
    ∃ (cfg : Config.CiConfig) (ov : Config.RunOverrides),
      Config.CiConfig.load "ci.toml" (.ok "") (fun _ => .ok cfg) = .ok cfg ∧
      (ov.apply cfg).test = shortened.params ∧ 1 ≤ shortened.params.durationSecs ∧
      ∃ trace joint metrics,
        (TcpFlow.looped shortened).Run (TcpFlow.startLooped shortened) trace joint ∧
        joint.1.result = some metrics ∧ metrics.flowsNoReturn = 1 ∧
        (joint.1.flows.map fun flow => (flow.conn.bytesSent, flow.conn.bytesRecv)) =
          [(25, 25), (0, 0)] := by
  refine ⟨{ panelUrl := "", apiKey := "", portIds := [1], test := { payloadBytes := 1 } },
    { duration := some 1, connections := some 2 }, rfl, rfl, Nat.le_refl 1, ?_⟩
  obtain ⟨joint, played, same⟩ := Option.map_eq_some_iff.mp (show
    ((TcpFlow.looped shortened).play (TcpFlow.startLooped shortened) shortenedLabels).map
      (fun joint => (joint.1.result.map PortMetrics.flowsNoReturn,
        joint.1.flows.map fun flow => (flow.conn.bytesSent, flow.conn.bytesRecv))) =
      some (some 1, [(25, 25), (0, 0)]) by decide +kernel)
  obtain ⟨result, counts⟩ := Prod.mk.inj same
  obtain ⟨metrics, found, one⟩ := Option.map_eq_some_iff.mp result
  exact ⟨_, joint, metrics, Machine.run_of_play played, found, one, counts⟩

end Npt.Ci.Client
