import Npt.Ci.Client.Accounting
import Npt.Ci.Client.Path
import Npt.Ci.Client.TcpFlow
import Npt.Ci.Server

/-!
Contract: a TCP run straight against `npt-ci serve`.

Between a flow and its echo loop lie two reliable byte streams. What the
writer's kernel takes reaches the loop, what the loop writes can be delivered in
any pieces, and the loop sees the end of its input when the writer shuts its
half down. A loop that has returned drops its socket: after all was delivered
the flow sees a close, and after an error it may see a reset instead.

Owns: the direct path, the frames that the echo loop accepts, and when no break
can be counted on it.

Does not own: the echo loop itself, or how long delivery takes.
-/

namespace Npt.Ci.Client.TcpFlow

open Npt.Core
open Npt.Ci.Protocol
open Npt.Ci.Server

/-! ## The path -/

/-- The echo loop of one connection, and how much of its output has reached the
flow. -/
structure Served where
  server : EchoState
  returned : Nat := 0

/-- What the loop has written and the flow has not been given. -/
def Served.undelivered (served : Served) : List UInt8 := served.server.written.drop served.returned

/-- The bytes of the current frame that the kernel has not taken. -/
def Writer.unsent : Writer → List UInt8
  | .writing _ unsent => unsent
  | _ => []

/-- How the path answers a step of a connected flow; `after` is the stream that
the step leaves, if the flow is still connected. -/
def answerStream (served : Served) (stream : Stream) (after : Option Stream) :
    Label → Option Served
  | .writerSend count =>
      (tcpEcho.step served.server (.peerSend (stream.writer.unsent.take count))).map
        ({ served with server := · })
  | .writerCheck _ | .writerError =>
      match after.map Stream.writer with
      | some .stopped => (tcpEcho.step served.server .peerClose).map ({ served with server := · })
      | _ => some served
  | .peerSend bytes =>
      if bytes <+: served.undelivered then
        some { served with returned := served.returned + bytes.length }
      else none
  | .peerClose =>
      if served.server.result.isSome = true ∧ served.undelivered = [] then some served else none
  | .peerReset _ _ =>
      match served.server.result with
      | some (.error _) => some served
      | _ => none
  | .wake | .connectTimeout | .connectOk _ | .connectError _ | .writerDone | .writerWake | .read _
  | .join | .peerDrain _ => some served

def Task.stream? : Task → Option Stream
  | .streaming stream => some stream
  | _ => none

/-- The path of a flow straight to `npt-ci serve`. Its own act is a round of the
echo loop. -/
def directPath : FlowPath Task Label Served Unit where
  start := { server := accepted 0 }
  answer := fun served task label after =>
    match task with
    | .streaming stream => answerStream served stream after.stream? label
    | _ => some served
  act := fun served _ => (tcpEcho.step served.server .round).map ({ served with server := · })

def direct (config : RunConfig) :
    Machine (RunState Task × List Served) (RunLabel Label ⊕ (Nat × Unit)) :=
  pathMachine (tcpFlow config) directPath config

def startDirect (config : RunConfig) : RunState Task × List Served :=
  initialPath (tcpFlow config) directPath config

/-! ## Streams of acceptable frames -/

/-- Frames in both directions, and ends of stream only where everything was
passed on. -/
structure Carried (config : RunConfig) (now : Nat) (stream : Stream) (served : Served) : Prop where
  whole : stream.reset = none
  intact : ∀ error, stream.rx.ending ≠ .failed error
  outbound : Spelled frames (served.server.rx.bytes ++ stream.writer.unsent)
  inbound : Spelled frames (stream.rx.bytes ++ served.undelivered)
  within : served.returned ≤ served.server.written.length
  serverIntact : ∀ error, served.server.rx.ending ≠ .failed error
  finished : served.server.rx.ending = .eof → stream.writer = .stopped
  sound : ∀ error, served.server.result ≠ some (.error error)
  ended : served.server.result.isSome = true → served.server.rx.ending = .eof
  late : stream.writer = .stopped → config.deadline ≤ now
  closed : stream.rx.ending = .eof →
    served.server.result.isSome = true ∧ served.undelivered = []

section Steps

variable {config : RunConfig} {now id : Nat} {stream after : Stream} {served answered : Served}
  {label : Label} {event : FlowEvent} {task : Task}

/-- Every frame of the writer is one that the echo loop accepts. -/
theorem nextFrame_fits (fits : max config.params.payloadBytes 1 ≤ maxPayload)
    (seq nowMicros : UInt64) : (nextFrame config seq nowMicros).payload.length ≤ maxPayload := by
  simpa [nextFrame] using fits

theorem Carried.read_ne_error (carried : Carried config now stream served) {error : IoError} :
    Frame.read stream.rx ≠ .error error := by
  have inbound := carried.inbound
  have intact := carried.intact
  have closed := carried.closed
  generalize stream.rx = rx at inbound intact closed ⊢
  obtain ⟨bytes, ending⟩ := rx
  cases ending with
  | live => exact read_ne_error_of_spelled inbound
  | eof =>
      rw [(closed rfl).2, List.append_nil] at inbound
      exact read_eof_ne_error_of_spelled inbound
  | failed other => exact absurd rfl (intact other)

/-- A stream that has ended for its reader, and did not fail, is closed. -/
theorem eof_of_read {rx : ByteStream IoError} (intact : ∀ error, rx.ending ≠ .failed error)
    (past : ∀ frame rest, Frame.read rx ≠ .ok (some frame) rest)
    (decided : Frame.read rx ≠ .pending)
    (sound : rx.ending = .live → ∀ error, Frame.read rx ≠ .error error) : rx.ending = .eof := by
  cases ending : rx.ending with
  | eof => rfl
  | failed error => exact absurd ending (intact error)
  | live =>
      cases read : Frame.read rx with
      | pending => exact absurd read decided
      | error error => exact absurd read (sound ending error)
      | ok value rest =>
          cases value with
          | none => exact absurd ending (Frame.read_none read).2
          | some frame => exact absurd read (past frame rest)

theorem Carried.stopped_of_closed (carried : Carried config now stream served)
    (closed : stream.rx.ending = .eof) : stream.writer = .stopped :=
  carried.finished (carried.ended (carried.closed closed).1)

theorem Carried.serverRead_ne_error (carried : Carried config now stream served)
    {error : IoError} : Frame.read served.server.rx ≠ .error error := by
  have outbound := carried.outbound
  have intact := carried.serverIntact
  have finished := carried.finished
  generalize served.server.rx = rx at outbound intact finished ⊢
  obtain ⟨bytes, ending⟩ := rx
  cases ending with
  | live => exact read_ne_error_of_spelled outbound
  | eof =>
      rw [finished rfl, Writer.unsent, List.append_nil] at outbound
      · exact read_eof_ne_error_of_spelled outbound
      · simp
  | failed other => exact absurd rfl (intact other)

/-- The loop's half is open while the writer writes. -/
theorem Carried.serverLive (carried : Carried config now stream served)
    (writing : stream.writer ≠ .stopped) : served.server.rx.ending = .live := by
  cases shape : served.server.rx.ending with
  | live => rfl
  | eof => exact absurd (carried.finished shape) writing
  | failed error => exact absurd shape (carried.serverIntact error)

/-- What is delivered next is the front of what was written next. -/
theorem undelivered_advance {bytes : List UInt8} (front : bytes <+: served.undelivered) :
    bytes ++ ({ served with returned := served.returned + bytes.length } : Served).undelivered =
      served.undelivered := by
  obtain ⟨rest, split⟩ := front
  have drop : served.server.written.drop (served.returned + bytes.length) =
      served.undelivered.drop bytes.length := by
    rw [Served.undelivered, List.drop_drop]
  rw [Served.undelivered, drop, ← split, List.drop_left]

/-- A step of the writer that hands nothing to the loop. -/
theorem Carried.rewrite (carried : Carried config now stream served) {writer : Writer}
    {seq : UInt64} (before : stream.writer ≠ .stopped) (goesOn : writer ≠ .stopped)
    (outbound : Spelled frames (served.server.rx.bytes ++ writer.unsent)) :
    Carried config now { stream with writer := writer, seq := seq } served :=
  { carried with
    outbound := outbound
    finished := by simp [carried.serverLive before]
    late := fun stopped => absurd stopped goesOn
    closed := carried.closed }

/-- The reader takes a frame. -/
theorem Carried.frameRead (carried : Carried config now stream served) {frame : Frame}
    {rest : ByteStream IoError} (read : Frame.read stream.rx = .ok (some frame) rest) :
    Carried config now { stream with rx := rest } served := by
  obtain ⟨split, sameEnding, framed⟩ := Frame.read_some read
  have inbound := carried.inbound
  rw [split, List.append_assoc] at inbound
  exact
    { carried with
      intact := by simpa [sameEnding] using carried.intact
      inbound := frames_prefixCode.spelled_rest (wellFormed_encode frame framed) inbound
      closed := by simpa [sameEnding] using carried.closed }

/-- Some of what the loop wrote comes back. -/
theorem Carried.returned (carried : Carried config now stream served) {bytes : List UInt8}
    (front : bytes <+: served.undelivered) :
    Carried config now { stream with rx := ⟨stream.rx.bytes ++ bytes, .live⟩ }
      { served with returned := served.returned + bytes.length } := by
  have bound : bytes.length ≤ served.server.written.length - served.returned := by
    simpa [Served.undelivered] using front.length_le
  exact
    { carried with
      intact := by simp
      inbound := by
        rw [List.append_assoc, undelivered_advance front]
        exact carried.inbound
      within := by
        have within := carried.within
        show served.returned + bytes.length ≤ served.server.written.length
        omega
      closed := by simp }

/-- A step of the flow keeps the streams of acceptable frames, and breaks
nothing before the deadline. -/
theorem carried_step (fits : max config.params.payloadBytes 1 ≤ maxPayload)
    (carried : Carried config now stream served) (move : Move config now id stream label event task)
    (answer : answerStream served stream task.stream? label = some answered) :
    (∀ after, task = .streaming after → Carried config now after answered) ∧
      (now < config.deadline → ∀ message, event ≠ .broken message) := by
  have outbound := carried.outbound
  cases move with
  | @start nowMicros checking early =>
      obtain rfl := Option.some.inj answer
      refine ⟨fun after same => ?_, by simp⟩
      obtain rfl := Task.streaming.inj same
      simp only [checking, Writer.unsent, List.append_nil] at outbound
      exact carried.rewrite (by simp [checking]) (by simp)
        (outbound.snoc (wellFormed_encode _ (nextFrame_fits fits _ _)))
  | stop checking late =>
      have running := carried.serverLive (by simp [checking])
      simp only [answerStream, Task.stream?, Option.map_some, tcpEcho, echoStep, running, if_true,
        Option.some.injEq] at answer
      obtain rfl := answer
      refine ⟨fun after same => ?_, by simp⟩
      obtain rfl := Task.streaming.inj same
      rw [checking] at outbound
      exact
        { carried with
          outbound := outbound
          serverIntact := by simp
          finished := fun _ => rfl
          ended := fun _ => rfl
          late := fun _ => late
          closed := carried.closed }
  | @send frame unsent count writing whole positive inRoom inFrame =>
      have running := carried.serverLive (by simp [writing])
      simp only [answerStream, tcpEcho, echoStep, running, if_true, Option.map_some,
        Option.some.injEq] at answer
      obtain rfl := answer
      refine ⟨fun after same => ?_, by simp⟩
      obtain rfl := Task.streaming.inj same
      rw [writing] at outbound
      exact
        { carried with
          outbound := by simpa [writing, Writer.unsent] using outbound
          serverIntact := by simp
          finished := by simp
          ended := fun past => by simp [carried.ended past] at running
          late := by simp
          closed := carried.closed }
  | @sent frame writing writer after =>
      obtain rfl := Option.some.inj answer
      refine ⟨fun next same => ?_, by simp⟩
      obtain rfl := Task.streaming.inj same
      rw [writing] at outbound
      refine carried.rewrite (by simp [writing]) ?_ ?_
      · rcases after with rfl | ⟨wake, rfl⟩ <;> simp
      · rcases after with rfl | ⟨wake, rfl⟩ <;> exact outbound
  | writeFailed writing reset => simp [carried.whole] at reset
  | paced pacing reached =>
      obtain rfl := Option.some.inj answer
      refine ⟨fun next same => ?_, by simp⟩
      obtain rfl := Task.streaming.inj same
      rw [pacing] at outbound
      exact carried.rewrite (by simp [pacing]) (by simp) outbound
  | @frame nowMicros frame rest reading read =>
      obtain rfl := Option.some.inj answer
      refine ⟨fun next same => ?_, by simp⟩
      obtain rfl := Task.streaming.inj same
      exact carried.frameRead read
  | @ended nowMicros message rx reading past decided left =>
      obtain rfl := Option.some.inj answer
      have closed := eof_of_read carried.intact past decided
        (fun _ _ => carried.read_ne_error)
      have stopped := carried.stopped_of_closed closed
      have delivered := (carried.closed closed).2
      refine ⟨fun next same => ?_, fun early => ?_⟩
      · obtain rfl := Task.streaming.inj same
        rcases left with rfl | ⟨rfl, _⟩
        · exact { carried with }
        · exact { carried with inbound := by simpa [delivered] using .nil }
      · have late := carried.late stopped
        omega
  | joined => exact ⟨by simp, by simp⟩
  | @delivered bytes live =>
      simp only [answerStream] at answer
      split at answer
      · rename_i front
        obtain rfl := Option.some.inj answer
        refine ⟨fun next same => ?_, by simp⟩
        obtain rfl := Task.streaming.inj same
        exact carried.returned front
      · simp at answer
  | closed live =>
      simp only [answerStream] at answer
      split at answer
      · rename_i past
        obtain rfl := Option.some.inj answer
        refine ⟨fun next same => ?_, by simp⟩
        obtain rfl := Task.streaming.inj same
        exact
          { carried with
            intact := by simp
            closed := fun _ => past }
      · simp at answer
  | cut whole =>
      simp only [answerStream] at answer
      split at answer
      · rename_i error failed
        exact absurd failed (carried.sound error)
      · simp at answer
  | drained =>
      obtain rfl := Option.some.inj answer
      refine ⟨fun next same => ?_, by simp⟩
      obtain rfl := Task.streaming.inj same
      exact { carried with }

/-- A round of the echo loop keeps the streams of acceptable frames. -/
theorem carried_round (carried : Carried config now stream served) {server : EchoState}
    (taken : tcpEcho.step served.server .round = some server) :
    Carried config now stream { served with server := server } := by
  obtain ⟨running, taken⟩ : served.server.result = none ∧ echoRound served.server = some server := by
    change echoStep served.server .round = some server at taken
    cases result : served.server.result with
    | none => exact ⟨rfl, by simpa [echoStep, result] using taken⟩
    | some value => simp [echoStep, result] at taken
  have undelivered (written : List UInt8) :
      ({ served with server := { served.server with written := served.server.written ++ written } } :
        Served).undelivered = served.undelivered ++ written := by
    simp only [Served.undelivered]
    exact List.drop_append_of_le_length carried.within
  cases read : Frame.read served.server.rx with
  | pending => simp [echoRound, read] at taken
  | error error =>
      exact absurd read carried.serverRead_ne_error
  | ok value rest =>
      cases value with
      | none =>
          simp only [echoRound, read, Option.some.injEq] at taken
          obtain rfl := taken
          have eof := eof_of_read carried.serverIntact (by simp [read]) (by simp [read])
            (by simp [read])
          obtain ⟨rfl, _⟩ := Frame.read_none read
          have stopped := carried.finished eof
          exact
            { carried with
              outbound := by
                simp only [stopped, Writer.unsent, List.append_nil]
                exact .nil
              sound := by simp
              ended := fun _ => eof
              closed := fun closed => ⟨rfl, (carried.closed closed).2⟩ }
      | some frame =>
          simp only [echoRound, read, Option.some.injEq] at taken
          obtain rfl := taken
          obtain ⟨split, sameEnding, framed⟩ := Frame.read_some read
          have outbound := carried.outbound
          rw [split, List.append_assoc] at outbound
          have member := wellFormed_encode frame framed
          exact
            { carried with
              outbound := frames_prefixCode.spelled_rest member outbound
              inbound := by
                have longer := carried.inbound.snoc member
                rw [List.append_assoc, ← undelivered] at longer
                exact longer
              within := by
                have within := carried.within
                simp only [List.length_append]
                omega
              serverIntact := by simpa [sameEnding] using carried.serverIntact
              finished := by simpa [sameEnding] using carried.finished
              ended := by simpa [sameEnding] using carried.ended
              closed := fun closed => by simpa [running] using (carried.closed closed).1 }

end Steps

/-! ## Runs -/

/-- A flow on a path that passes acceptable frames. -/
structure Passing (config : RunConfig) (now : Nat) (flow : Flow Task) (served : Served) : Prop where
  unbroken : flow.conn.disconnected = false
  fresh : flow.task.stream? = none → flow.task ≠ .returned → served = directPath.start
  carried : ∀ stream, flow.task = .streaming stream → Carried config now stream served

section Runs

variable {config : RunConfig}
  {trace : List ((RunState Task × List Served) × (RunLabel Label ⊕ (Nat × Unit)))}
  {joint : RunState Task × List Served}

/-- Only a break before the deadline flags a flow. -/
theorem unbroken_of_event {now : Nat} {run : PortRun} {conn : ConnState} {event : FlowEvent}
    (unbroken : conn.disconnected = false)
    (kept : now < config.deadline → ∀ message, event ≠ .broken message) :
    (event.apply now config.deadline run conn).2.disconnected = false := by
  cases event with
  | broken message =>
      have late : ¬now < config.deadline := fun early => kept early message rfl
      simp [FlowEvent.apply, noteBroken, late, unbroken]
  | _ => simpa [FlowEvent.apply, ConnState.received] using unbroken

/-- A fresh connection carries nothing. -/
theorem carried_start (config : RunConfig) (now room : Nat) :
    Carried config now { room := room } directPath.start where
  whole := rfl
  intact := by simp
  outbound := .nil
  inbound := .nil
  within := Nat.le_refl 0
  serverIntact := by simp [directPath, accepted]
  finished := by simp [directPath, accepted]
  sound := by simp [directPath, accepted]
  ended := by simp [directPath, accepted]
  late := by simp
  closed := by simp

theorem passing_of_run (fits : max config.params.payloadBytes 1 ≤ maxPayload)
    (run : (direct config).Run (startDirect config) trace joint) :
    ∀ (index : Nat) (flow : Flow Task) (served : Served), joint.1.flows[index]? = some flow →
      joint.2[index]? = some served →
      Passing config joint.1.now flow served := by
  refine path_history (fun _ _ now flow served => Passing config now flow served)
    ?_ ?_ ?_ ?_ ?_ ?_ run
  · intro index
    exact ⟨rfl, fun _ _ => rfl, by simp [tcpFlow]⟩
  · intro trace joint index label flow event task served answered _ _ _ passing own answer
    obtain ⟨conn, before⟩ := flow
    cases taskMove_of_step own with
    | woke =>
        obtain rfl := Option.some.inj answer
        exact ⟨passing.unbroken, fun _ _ => passing.fresh rfl (by simp), by simp⟩
    | connected =>
        obtain rfl := Option.some.inj answer
        have fresh := passing.fresh rfl (by simp)
        refine ⟨passing.unbroken, by simp [Task.stream?], fun stream same => ?_⟩
        obtain rfl := Task.streaming.inj same
        rw [fresh]
        exact carried_start config _ _
    | refused =>
        obtain rfl := Option.some.inj answer
        exact ⟨passing.unbroken, by simp, by simp⟩
    | @streamed stream _ _ _ move =>
        have carried := passing.carried stream rfl
        obtain ⟨kept, quiet⟩ := carried_step fits carried move answer
        refine ⟨unbroken_of_event passing.unbroken quiet, fun none unfinished => ?_, kept⟩
        cases move <;> simp [Task.stream?] at none unfinished
  · intro trace entry index now flow served act after done passing
    obtain ⟨server, taken, rfl⟩ := Option.map_eq_some_iff.mp done
    refine ⟨passing.unbroken, fun none unfinished => ?_, fun stream same => ?_⟩
    · rw [passing.fresh none unfinished] at taken
      simp [directPath, accepted, tcpEcho, echoStep, echoRound, Frame.read, ByteStream.readExact,
        headerLen] at taken
    · exact carried_round (passing.carried stream same) taken
  · intro trace index now seen run flow served passing
    refine ⟨?_, passing.fresh, passing.carried⟩
    rw [visitFlow_conn_eq]
    exact passing.unbroken
  · intro trace entry index now flow served _ passing
    exact passing
  · intro trace index now ms flow served passing
    refine ⟨passing.unbroken, passing.fresh, fun stream same => ?_⟩
    have carried := passing.carried stream same
    exact { carried with late := fun stopped => Nat.le_add_right_of_le (carried.late stopped) }

/-- No break is counted when every frame is acceptable. -/
theorem no_break_of_fits (fits : max config.params.payloadBytes 1 ≤ maxPayload)
    (run : (direct config).Run (startDirect config) trace joint) :
    joint.1.run.midstreamDisconnects = 0 := by
  rw [midstream_eq_disconnected (run_of_path run)]
  refine List.countP_eq_zero.mpr (fun flow member => ?_)
  obtain ⟨index, present⟩ := List.getElem?_of_mem member
  obtain ⟨served, there⟩ := path_of_flow run present
  simp [(passing_of_run fits run index flow served present there).unbroken]

/-- Every frame of the writer is read back as itself, whatever its sequence
number and its time, and no break is counted on the direct path, exactly when
the configured payload is within the reader's cap. -/
theorem frames_accepted_iff (config : RunConfig) :
    ((∀ seq nowMicros tail ending,
        Frame.read ⟨(nextFrame config seq nowMicros).encode ++ tail, ending⟩ =
          .ok (some (nextFrame config seq nowMicros)) ⟨tail, ending⟩) ∧
      ∀ trace joint, (direct config).Run (startDirect config) trace joint →
        joint.1.run.midstreamDisconnects = 0) ↔
      max config.params.payloadBytes 1 ≤ maxPayload := by
  constructor
  · rintro ⟨accepted, _⟩
    have read := accepted 0 0 [] .eof
    simpa [nextFrame] using (Frame.read_some read).2.2
  · intro fits
    exact ⟨fun seq nowMicros tail ending =>
      Frame.read_encode _ (nextFrame_fits fits seq nowMicros) tail ending,
      fun trace joint run => no_break_of_fits fits run⟩

end Runs

/-! ## A payload over the cap -/

/-- One flow with a payload one byte over the reader's cap. -/
def oversized : RunConfig where
  endpoint := "127.0.0.1:9"
  params := { connectionsPerPort := 1, payloadBytes := maxPayload + 1 }
  stallSecs := 5

theorem oversized_read (seq nowMicros : UInt64) (ending : Ending IoError) :
    Frame.read ⟨(nextFrame oversized seq nowMicros).encode, ending⟩ =
      .error (oversizedPayload (maxPayload + 1)) := by
  have size : (nextFrame oversized seq nowMicros).payload.length = maxPayload + 1 :=
    List.length_replicate ..
  have read := Frame.read_encode_eq (nextFrame oversized seq nowMicros) [] ending
  rw [List.append_nil, size] at read
  exact read

/-- The run of one flow at its start time. -/
def solo (run : PortRun) (conn : ConnState) (task : Task) (served : Served) :
    RunState Task × List Served :=
  ({ startTcp oversized with run := run, flows := [⟨conn, task⟩] }, [served])

theorem solo_step {run : PortRun} {conn : ConnState} {task : Task} {served : Served}
    (label : Label) (event : FlowEvent) (next : Task) (answered : Served)
    (own : step oversized 0 conn.id task label = some (event, next))
    (answer : directPath.answer served task label next = some answered) :
    (direct oversized).step (solo run conn task served) (.inl (.flow 0 label)) =
      some (solo (event.apply 0 oversized.deadline run conn).1
        (event.apply 0 oversized.deadline run conn).2 next answered) := by
  simp [direct, pathMachine, Machine.coupled, runMachine, runStep, solo, startTcp, initialRun,
    tcpFlow, own, FlowPath.environment, answer, RunState.replace]

theorem solo_round {run : PortRun} {conn : ConnState} {task : Task} {served : Served}
    (after : Served) (done : directPath.act served () = some after) :
    (direct oversized).step (solo run conn task served) (.inr (0, ())) =
      some (solo run conn task after) := by
  simp [direct, pathMachine, Machine.coupled, solo, FlowPath.environment, done]

/-- A configuration that `CiConfig::load` accepts and whose frames the echo loop
rejects, which the flow counts as a break. -/
theorem oversized_disconnects :
    ∃ cfg : Config.CiConfig,
      Config.CiConfig.load "ci.toml" (.ok "") (fun _ => .ok cfg) = .ok cfg ∧
        cfg.test = oversized.params ∧
        (∀ seq nowMicros, Frame.read ⟨(nextFrame oversized seq nowMicros).encode, .eof⟩ =
          .error (oversizedPayload (maxPayload + 1))) ∧
        ∃ trace joint, (direct oversized).Run (startDirect oversized) trace joint ∧
          joint.1.run.midstreamDisconnects = 1 := by
  refine ⟨{ panelUrl := "", apiKey := "", portIds := [1], test := oversized.params }, rfl, rfl,
    fun seq nowMicros => oversized_read seq nowMicros .eof, ?_⟩
  obtain ⟨frame, shape⟩ : ∃ frame, nextFrame oversized 0 0 = frame := ⟨_, rfl⟩
  have rejected : Frame.read ⟨frame.encode, .live⟩ = .error (oversizedPayload (maxPayload + 1)) := by
    rw [← shape]
    exact oversized_read 0 0 .live
  have positive := frame.encode_length_pos
  have early : 0 < oversized.deadline := by decide
  let writing (unsent : List UInt8) (room : Nat) : Stream :=
    { room := room, writer := .writing frame unsent }
  let heard (result : Option (Except IoError Unit)) : Served :=
    { server := { accepted 0 with rx := ⟨frame.encode, .live⟩, result := result } }
  let failed := some (Except.error (oversizedPayload (maxPayload + 1)) : Except IoError Unit)
  have woken : (direct oversized).Run (solo {} { id := 0 } (.ramping 0) directPath.start) _
      (solo {} { id := 0 } (.connecting 0) directPath.start) :=
    .single (solo_step .wake .quiet (.connecting 0) directPath.start rfl rfl)
  have connected := woken.snoc (solo_step (.connectOk frame.encode.length) .connected
    (.streaming { room := frame.encode.length }) _ rfl rfl)
  have started := connected.snoc (solo_step (.writerCheck 0) .quiet
    (.streaming (writing frame.encode frame.encode.length)) _
    (by simp [step, streamStep, early, shape, writing]) rfl)
  have sent := started.snoc (solo_step (.writerSend frame.encode.length) .quiet
    (.streaming (writing [] 0)) (heard none)
    (by simp [step, streamStep, writing, positive])
    (by simp [directPath, answerStream, writing, Writer.unsent, tcpEcho, echoStep, accepted, heard]))
  have served := sent.snoc (solo_round (heard failed)
    (by simp [directPath, tcpEcho, echoStep, echoRound, accepted, heard, rejected, failed]))
  have closed := served.snoc (solo_step .peerClose .quiet
    (.streaming { writing [] 0 with rx := ⟨[], .eof⟩ }) (heard failed) rfl
    (by simp [directPath, answerStream, heard, failed, Served.undelivered, accepted]))
  have broken := closed.snoc (solo_step (.read 0)
    (.broken s!"conn {0}: peer closed mid-test (EOF)")
    (.streaming { writing [] 0 with rx := ⟨[], .eof⟩, reader := .stopped }) _ rfl rfl)
  have start : startDirect oversized =
      solo {} { id := 0 } (.ramping 0) directPath.start := rfl
  rw [start]
  refine ⟨_, _, broken, ?_⟩
  simp [solo, FlowEvent.apply, noteBroken, early]

end Npt.Ci.Client.TcpFlow
