import Npt.Ci.Client.Finishing
import Npt.Ci.Client.TcpFlow

/-!
Owns: which TCP runs can finish without the peer. A flow waits for its peer
when its reader waits for bytes that have not been delivered or its writer for
room the send buffer does not have; past the deadline a run can finish by its
own steps exactly when no connected flow does either.

Does not own: fairness, or what the peer does. The timers of a flow (its ramp
sleep, its connect timeout, its pacing sleep) count as steps of its own.
-/

namespace Npt.Ci.Client.TcpFlow

open Npt.Core
open Npt.Ci.Protocol

/-! ## Waiting for the peer -/

/-- The reader waits for bytes, whatever it reads first of what has arrived. -/
def Stream.readerWaits (stream : Stream) : Prop :=
  stream.reader = .reading ∧ (readFrames stream.rx).2 = .pending

/-- The writer is inside a write that the send buffer has no room for. -/
def Stream.writerWaits (stream : Stream) : Prop :=
  ∃ frame unsent, stream.writer = .writing frame unsent ∧ stream.reset = none ∧
    stream.room < unsent.length

/-- The task cannot return before its peer does something. -/
def Task.waits : Task → Prop
  | .streaming stream => stream.readerWaits ∨ stream.writerWaits
  | _ => False

/-- A step of the run that is not the peer's. -/
def own : RunLabel Label → Prop
  | .flow _ label => label.fromPeer = false
  | _ => True

/-- The task has a step of its own, now or once one of its timers runs out. -/
def CanMove (config : RunConfig) (now : Nat) (flow : Flow Task) : Prop :=
  ∃ ms label result, label.fromPeer = false ∧
    step config (now + ms) flow.conn.id flow.task label = some result

variable {config : RunConfig} {now id : Nat} {stream : Stream} {label : Label} {event : FlowEvent}
  {task next : Task} {trace : List (RunState Task × RunLabel Label)} {state : RunState Task}

private theorem stop_of_read_none {rx rest : ByteStream IoError}
    (read : Frame.read rx = .ok none rest) : (readFrames rx).2 = .finished := by
  rw [readFrames]
  split <;> simp_all

private theorem stop_of_read_error {rx : ByteStream IoError} {error : IoError}
    (read : Frame.read rx = .error error) : (readFrames rx).2 = .failed error := by
  rw [readFrames]
  split <;> simp_all

private theorem stop_of_read_pending {rx : ByteStream IoError}
    (read : Frame.read rx = .pending) : (readFrames rx).2 = .pending := by
  rw [readFrames]
  split <;> simp_all

/-- Waiting for the peer is kept by every step that is not the peer's. -/
theorem waits_of_move (waits : (Task.streaming stream).waits) (notPeer : label.fromPeer = false)
    (move : Move config now id stream label event task) : task.waits := by
  rcases waits with ⟨reading, pending⟩ | ⟨frame, unsent, writing, whole, short⟩
  · cases move with
    | start | stop | send | sent | writeFailed | paced => exact Or.inl ⟨reading, pending⟩
    | frame _ read =>
        rw [readFrames_of_frame read] at pending
        exact Or.inl ⟨reading, pending⟩
    | ended _ past decided =>
        cases read : Frame.read stream.rx with
        | pending => exact absurd read decided
        | error error => simp [stop_of_read_error read] at pending
        | ok value rest =>
            cases value with
            | none => simp [stop_of_read_none read] at pending
            | some frame => exact absurd read (past frame rest)
    | joined stopped => simp [reading] at stopped
    | delivered | closed | cut | drained => simp [Label.fromPeer] at notPeer
  · cases move with
    | start checking | stop checking => simp [writing] at checking
    | paced pacing => simp [writing] at pacing
    | send sending _ _ inRoom inFrame =>
        obtain ⟨rfl, rfl⟩ := Writer.writing.inj (writing.symm.trans sending)
        refine Or.inr ⟨_, _, rfl, whole, ?_⟩
        rw [List.length_drop]
        simp only
        omega
    | sent sending =>
        obtain ⟨rfl, rfl⟩ := Writer.writing.inj (writing.symm.trans sending)
        simp at short
    | writeFailed _ reset => simp [whole] at reset
    | frame | ended => exact Or.inr ⟨frame, unsent, writing, whole, short⟩
    | joined _ stopped => simp [writing] at stopped
    | delivered | closed | cut | drained => simp [Label.fromPeer] at notPeer

/-- Past the deadline no step of its own makes a task wait for the peer. -/
theorem not_waits_of_move (past : config.deadline ≤ now) (free : ¬(Task.streaming stream).waits)
    (notPeer : label.fromPeer = false) (move : Move config now id stream label event task) :
    ¬task.waits := by
  obtain ⟨reader, writer⟩ := not_or.mp free
  cases move with
  | start _ early => exact absurd past (Nat.not_le.mpr early)
  | stop | paced | writeFailed =>
      rintro (waits | ⟨_, _, writing, _⟩)
      · exact reader waits
      · simp at writing
  | sent _ after =>
      rintro (waits | ⟨_, _, writing, _⟩)
      · exact reader waits
      · rcases after with rfl | ⟨wake, rfl⟩ <;> simp at writing
  | send writing whole positive inRoom inFrame =>
      rintro (waits | ⟨_, _, sending, _, short⟩)
      · exact reader waits
      · obtain ⟨_, rfl⟩ := Writer.writing.inj sending
        rw [List.length_drop] at short
        refine writer ⟨_, _, writing, whole, ?_⟩
        simp only at short
        omega
  | frame reading read =>
      rintro (⟨_, pending⟩ | waits)
      · refine reader ⟨reading, ?_⟩
        rw [readFrames_of_frame read]
        exact pending
      · exact writer waits
  | ended =>
      rintro (⟨reading, _⟩ | waits)
      · simp at reading
      · exact writer waits
  | joined => exact fun waits => waits
  | delivered | closed | cut | drained => simp [Label.fromPeer] at notPeer

/-- Steps of its own lead to no connection: only the peer accepts one. -/
theorem waits_of_step (waits : task.waits) (notPeer : label.fromPeer = false)
    (taken : step config now id task label = some (event, next)) : next.waits := by
  cases taskMove_of_step taken with
  | streamed move => exact waits_of_move waits notPeer move
  | _ => exact waits.elim

theorem not_waits_of_step (past : config.deadline ≤ now) (free : ¬task.waits)
    (notPeer : label.fromPeer = false)
    (taken : step config now id task label = some (event, next)) : ¬next.waits := by
  cases taskMove_of_step taken with
  | woke | refused => exact fun waits => waits
  | connected => simp [Label.fromPeer] at notPeer
  | streamed move => exact not_waits_of_move past free notPeer move

/-! ## Finishing alone -/

def Writer.remaining : Writer → Nat
  | .writing _ (_ :: _) => 4
  | .writing _ [] => 3
  | .pacing _ => 2
  | .checking => 1
  | .stopped => 0

def Stream.readerRemaining (stream : Stream) : Nat :=
  match stream.reader with
  | .reading => stream.rx.bytes.length + 1
  | .stopped => 0

/-- A bound on the steps a task takes to return without its peer. -/
def Task.remaining : Task → Nat
  | .ramping _ => 2
  | .connecting _ => 1
  | .streaming stream => stream.writer.remaining + stream.readerRemaining + 1
  | .returned => 0

private theorem closer_of_read (config : RunConfig) (now id : Nat)
    (reading : stream.reader = .reading) (free : ¬stream.readerWaits) :
    Closer Task.remaining (Task.streaming stream).remaining
      (streamStep config now id stream (.read 0)) := by
  have before : stream.readerRemaining = stream.rx.bytes.length + 1 := by
    simp [Stream.readerRemaining, reading]
  cases read : Frame.read stream.rx with
  | pending => exact absurd ⟨reading, stop_of_read_pending read⟩ free
  | error error => simp [Closer, streamStep, reading, read, Task.remaining, Stream.readerRemaining]
  | ok value rest =>
      cases value with
      | none => simp [Closer, streamStep, reading, read, Task.remaining, Stream.readerRemaining]
      | some frame =>
          obtain ⟨split, _, _⟩ := Frame.read_some read
          have positive := frame.encode_length_pos
          simp only [Closer, streamStep, reading, read, Option.some.injEq, exists_eq_left',
            Task.remaining, Stream.readerRemaining, split, List.length_append]
          omega

private theorem closer_of_writer (past : config.deadline ≤ now) (stopped : stream.reader = .stopped)
    (free : ¬stream.writerWaits) :
    ∃ ms label, label.fromPeer = false ∧
      Closer Task.remaining (Task.streaming stream).remaining
        (streamStep config (now + ms) id stream label) := by
  cases writer : stream.writer with
  | checking =>
      refine ⟨0, .writerCheck 0, rfl, ?_⟩
      simp [Closer, streamStep, writer, Nat.not_lt.mpr past, Task.remaining, Writer.remaining,
        Stream.readerRemaining]
  | pacing wake =>
      refine ⟨wake, .writerWake, rfl, ?_⟩
      simp [Closer, streamStep, writer, Task.remaining, Writer.remaining, Stream.readerRemaining]
  | stopped =>
      refine ⟨0, .join, rfl, ?_⟩
      simp [Closer, streamStep, writer, stopped, Task.remaining]
  | writing frame unsent =>
      cases unsent with
      | nil =>
          refine ⟨0, .writerDone, rfl, ?_⟩
          by_cases paced : 0 < config.params.sendRateBps <;>
            simp [Closer, streamStep, writer, paced, Task.remaining, Writer.remaining,
              Stream.readerRemaining]
      | cons byte rest =>
          cases reset : stream.reset with
          | some error =>
              refine ⟨0, .writerError, rfl, ?_⟩
              simp [Closer, streamStep, writer, reset, Task.remaining, Writer.remaining,
                Stream.readerRemaining]
          | none =>
              have room : rest.length + 1 ≤ stream.room := by
                by_contra short
                exact free ⟨frame, byte :: rest, writer, reset, by simpa using short⟩
              refine ⟨0, .writerSend (byte :: rest).length, rfl, ?_⟩
              simp [Closer, streamStep, writer, reset, room, Task.remaining, Writer.remaining,
                Stream.readerRemaining]

/-- A task that does not wait for its peer gets closer to returning. -/
theorem closer_of_not_waits (past : config.deadline ≤ now) (unfinished : task ≠ .returned)
    (free : ¬task.waits) :
    ∃ ms label, label.fromPeer = false ∧
      Closer Task.remaining task.remaining (step config (now + ms) id task label) := by
  cases task with
  | ramping wake =>
      refine ⟨wake, .wake, rfl, ?_⟩
      simp [Closer, step, Task.remaining]
  | connecting since =>
      refine ⟨since + config.params.connectTimeoutSecs * 1000, .connectTimeout, rfl, ?_⟩
      simp [Closer, step, Task.remaining]
  | streaming stream =>
      obtain ⟨reader, writer⟩ := not_or.mp free
      cases reading : stream.reader with
      | reading => exact ⟨0, .read 0, rfl, closer_of_read config (now + 0) id reading reader⟩
      | stopped => exact closer_of_writer past reading writer
  | returned => exact absurd rfl unfinished

/-! ## Runs without the peer -/

/-- Steps of the run that are not the peer's lead to `state`. -/
abbrev ReachableAlone (config : RunConfig) (start state : RunState Task) : Prop :=
  (runTcp config).ReachableBy own start state

/-- Past the deadline no flow waits for its peer. -/
structure Unblocked (config : RunConfig) (state : RunState Task) : Prop where
  past : config.deadline ≤ state.now
  free : ∀ flow ∈ state.flows, ¬flow.task.waits

/-- No step but the peer's makes a flow wait for it. -/
theorem unblocked_of_taken {next : RunState Task} {label : RunLabel Label}
    (unblocked : Unblocked config state) (notPeer : own label)
    (taken : Taken (tcpFlow config) config state label next) : Unblocked config next := by
  cases taken with
  | clock ms => exact ⟨Nat.le_add_right_of_le unblocked.past, unblocked.free⟩
  | watchdogStop | watchdogStart | visitDone | sample | join | finalize =>
      exact ⟨unblocked.past, unblocked.free⟩
  | @flow index label flow event task present taken =>
      refine ⟨unblocked.past, fun other member => ?_⟩
      rcases List.mem_or_eq_of_mem_set member with old | rfl
      · exact unblocked.free other old
      · exact not_waits_of_step unblocked.past
          (unblocked.free flow (List.mem_of_getElem? present)) notPeer taken
  | @visit now due index flow visiting present =>
      refine ⟨unblocked.past, fun other member => ?_⟩
      rcases List.mem_or_eq_of_mem_set member with old | rfl
      · exact unblocked.free other old
      · exact unblocked.free flow (List.mem_of_getElem? present)

/-- An unblocked state finishes by steps that are not the peer's. -/
theorem finishes (config : RunConfig) :
    Finishes (tcpFlow config) config own (Unblocked config) Task.remaining where
  collects label collected := by
    cases label with
    | flow => simp [RunLabel.collects] at collected
    | _ => trivial
  join := trivial
  kept := unblocked_of_taken
  closer := by
    intro state flow unblocked member unfinished
    obtain ⟨ms, label, notPeer, closer⟩ := @closer_of_not_waits _ _ flow.conn.id _
      unblocked.past (of_decide_eq_false unfinished) (unblocked.free flow member)
    exact ⟨ms, label, fun _ => notPeer, closer⟩

theorem waits_alone {start : RunState Task} {index : Nat}
    (alone : ReachableAlone config start state)
    (waits : ∃ flow, start.flows[index]? = some flow ∧ flow.task.waits) :
    ∃ flow, state.flows[index]? = some flow ∧ flow.task.waits := by
  refine alone.invariant (fun state => ∃ flow, state.flows[index]? = some flow ∧ flow.task.waits)
    waits ?_
  rintro state label next ⟨flow, present, waits⟩ notPeer stepped
  obtain ⟨changed, there, change⟩ := flowChange_of_step present stepped
  refine ⟨changed, there, ?_⟩
  cases change with
  | same => exact waits
  | own taken => exact waits_of_step waits notPeer taken
  | visited => exact waits

/-- With a flow that waits for its peer the run does not end without the peer. -/
theorem not_completes_of_waits (run : (runTcp config).Run (startTcp config) trace state)
    {flow : Flow Task} (member : flow ∈ state.flows) (waits : flow.task.waits) :
    ¬∃ final metrics, ReachableAlone config state final ∧ final.main = .returned metrics := by
  rintro ⟨final, metrics, alone, returned⟩
  obtain ⟨index, present⟩ := List.getElem?_of_mem member
  obtain ⟨blocked, found, still⟩ := waits_alone alone ⟨flow, present, waits⟩
  obtain ⟨onwards, later, _⟩ := alone
  have everyTask := main_returned_of_run (run.append later) returned
  have task : blocked.task = .returned :=
    of_decide_eq_true (everyTask blocked (List.mem_of_getElem? found))
  rw [task] at still
  exact still

/-! ## The end of a run -/

/-- Past the deadline a run is never stuck without its peer, and can reach
`finalize` without it, exactly when no flow waits for the peer. -/
theorem tcp_run_completes_iff (config : RunConfig)
    {trace : List (RunState Task × RunLabel Label)} {state : RunState Task}
    (run : (runTcp config).Run (startTcp config) trace state)
    (past : config.deadline ≤ state.now) :
    ((∀ later, ReachableAlone config state later → ∀ flow ∈ later.flows,
        flow.task ≠ .returned → CanMove config later.now flow) ∧
      ∃ final metrics, ReachableAlone config state final ∧ final.main = .returned metrics) ↔
    ∀ flow ∈ state.flows, ¬flow.task.waits := by
  constructor
  · rintro ⟨_, completes⟩ flow member waits
    exact not_completes_of_waits run member waits completes
  · intro free
    have unblocked : Unblocked config state := ⟨past, free⟩
    refine ⟨fun later alone flow member unfinished => ?_, (finishes config).completes run unblocked⟩
    have after := (finishes config).kept_by unblocked alone
    obtain ⟨ms, label, notPeer, result, taken, _⟩ :=
      closer_of_not_waits after.past unfinished (after.free flow member)
    exact ⟨ms, label, result, notPeer, taken⟩

def oneSecond : RunConfig where
  endpoint := "127.0.0.1:9"
  params :=
    { connectionsPerPort := 1
      durationSecs := 1
      payloadBytes := 1
      connectTimeoutSecs := 1
      rampMs := 0 }
  stallSecs := 1

/-- The peer accepts the connection and closes it. -/
def closingPeer : List (RunLabel Label) :=
  [.flow 0 .wake, .flow 0 (.connectOk 0), .flow 0 .peerClose, .elapse 1000]

theorem tcp_run_completes_iff_closingPeer :
    ∃ state, (runTcp oneSecond).play (startTcp oneSecond) closingPeer = some state ∧
      ∃ final metrics, ReachableAlone oneSecond state final ∧ final.main = .returned metrics := by
  let stream : Stream := { rx := ⟨[], .eof⟩, room := 0 }
  have played : (runTcp oneSecond).play (startTcp oneSecond) closingPeer =
      some { startTcp oneSecond with
        now := 1000
        flows := [⟨{ id := 0, connected := true }, .streaming stream⟩] } := by rfl
  have free : ¬(Task.streaming stream).waits := by
    rintro (⟨_, pending⟩ | ⟨_, _, writing, _⟩)
    · simp [stream, readFrames_empty_eof] at pending
    · simp [stream] at writing
  refine ⟨_, played, ?_⟩
  exact ((tcp_run_completes_iff oneSecond (Machine.run_of_play played) (by decide)).mpr
    (by simpa using free)).2

/-- The peer accepts the connection and then neither sends nor drains nor closes. -/
def silentPeer : List (RunLabel Label) :=
  [.flow 0 .wake, .flow 0 (.connectOk 0), .flow 0 (.writerCheck 7), .elapse 1000]

/-- Past the deadline and the connect timeout, the flow of a silent peer has no
step of its own left, at any time, and the run never returns. -/
theorem silentPeer_blocks :
    ∃ state flow, (runTcp oneSecond).play (startTcp oneSecond) silentPeer = some state ∧
      oneSecond.deadline ≤ state.now ∧ oneSecond.params.connectTimeoutSecs * 1000 ≤ state.now ∧
      flow ∈ state.flows ∧ flow.task ≠ .returned ∧ ¬CanMove oneSecond state.now flow ∧
      ¬∃ final metrics, ReachableAlone oneSecond state final ∧ final.main = .returned metrics := by
  let frame := nextFrame oneSecond 0 7
  let stream : Stream := { room := 0, writer := .writing frame frame.encode }
  let flow : Flow Task := ⟨{ id := 0, connected := true }, .streaming stream⟩
  have played : (runTcp oneSecond).play (startTcp oneSecond) silentPeer =
      some { startTcp oneSecond with now := 1000, flows := [flow] } := by rfl
  have quiet : Frame.read stream.rx = .pending := by decide +kernel
  refine ⟨_, flow, played, by decide, by decide, by simp, by simp [flow], ?_, ?_⟩
  · rintro ⟨ms, label, ⟨event, task⟩, notPeer, taken⟩
    have own : (tcpFlow oneSecond).step (1000 + ms) 0 (.streaming stream) label =
        some (event, task) := taken
    cases taskMove_of_step own with
    | streamed move =>
        cases move with
        | start checking | stop checking => simp [stream] at checking
        | paced pacing => simp [stream] at pacing
        | send _ _ positive inRoom => simp [stream] at inRoom; omega
        | sent writing =>
            obtain ⟨_, empty⟩ := Writer.writing.inj writing
            have positive := frame.encode_length_pos
            simp [empty] at positive
        | writeFailed _ reset => simp [stream] at reset
        | frame _ read => simp [quiet] at read
        | ended _ _ decided => exact decided quiet
        | joined stopped => simp [stream] at stopped
        | delivered | closed | cut | drained => simp [Label.fromPeer] at notPeer
  · exact not_completes_of_waits (Machine.run_of_play played) (List.mem_singleton_self flow)
      (Or.inl ⟨rfl, stop_of_read_pending quiet⟩)

end Npt.Ci.Client.TcpFlow
