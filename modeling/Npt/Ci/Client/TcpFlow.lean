import Npt.Ci.Client.Run
import Npt.Ci.Protocol

/-!
Contract: one TCP flow of the probe (`tcp_flow` in `ci/src/client.rs`).

The writer and the reader run concurrently on one connection. The labels of the
task are its own steps and, apart, what the peer and the network do: complete
or refuse the connection, deliver bytes, close, reset, and free room in the
send buffer. A read is one step because it consumes nothing the flow could see
before it returns; a write is as many steps as the kernel takes pieces.

Owns: the task, its program, `runTcp`, and the exhaustive list of its moves.

Does not own: shared state (see `FlowEvent.apply`) or the wall clock, whose
microseconds are part of the labels that read it.
-/

namespace Npt.Ci.Client.TcpFlow

open Npt.Core
open Npt.Ci.Protocol

inductive Writer where
  /-- At the test of the writer's loop. -/
  | checking
  /-- Inside `frame.write`, with the bytes the kernel has not taken yet. -/
  | writing (frame : Frame) (unsent : List UInt8)
  /-- Inside the pacing sleep. -/
  | pacing (wake : Nat)
  | stopped
deriving DecidableEq, Repr

inductive Reader where
  | reading
  | stopped
deriving DecidableEq, Repr

/-- A connection and the two loops on it. -/
structure Stream where
  /-- Delivered and unread bytes. -/
  rx : ByteStream IoError := ⟨[], .live⟩
  /-- How many more bytes the send buffer takes. -/
  room : Nat
  /-- Set when the connection was reset. -/
  reset : Option IoError := none
  writer : Writer := .checking
  reader : Reader := .reading
  /-- The sequence number of the writer's next frame. -/
  seq : UInt64 := 0
deriving DecidableEq, Repr

inductive Task where
  | ramping (wake : Nat)
  | connecting (since : Nat)
  | streaming (stream : Stream)
  | returned
deriving DecidableEq, Repr

inductive Label where
  | wake
  | connectTimeout
  /-- The loop test; a frame that it starts is stamped `nowMicros`. -/
  | writerCheck (nowMicros : UInt64)
  | writerSend (count : Nat)
  | writerDone
  | writerError
  | writerWake
  | read (nowMicros : UInt64)
  | join
  | connectOk (room : Nat)
  | connectError (error : IoError)
  | peerSend (bytes : List UInt8)
  | peerClose
  /-- A reset, or the kernel giving the connection up; `kept` bytes of what was
  delivered stay readable. -/
  | peerReset (kept : Nat) (error : IoError)
  | peerDrain (count : Nat)
deriving DecidableEq, Repr

/-- The labels that are not steps of the flow's own code. -/
def Label.fromPeer : Label → Bool
  | .connectOk _ | .connectError _ | .peerSend _ | .peerClose | .peerReset _ _ | .peerDrain _ =>
      true
  | _ => false

/-- The frame the writer builds in one iteration. -/
def nextFrame (config : RunConfig) (seq nowMicros : UInt64) : Frame :=
  { seq := seq
    sendTsMicros := nowMicros
    payload := List.replicate (max config.params.payloadBytes 1) 0xA5 }

/-- `HEADER_LEN + payload.len()`. -/
def frameLen (frame : Frame) : Nat := headerLen + frame.payload.length

/-- The pacing sleep of one frame, in whole milliseconds rounded up. -/
def paceMs (rate bytes : Nat) : Nat := (bytes * 1000 + rate - 1) / rate

def streamStep (config : RunConfig) (now id : Nat) (stream : Stream) :
    Label → Option (FlowEvent × Task)
  | .writerCheck nowMicros =>
      match stream.writer with
      | .checking =>
          if now < config.deadline then
            let frame := nextFrame config stream.seq nowMicros
            some (.quiet, .streaming { stream with writer := .writing frame frame.encode })
          else some (.quiet, .streaming { stream with writer := .stopped })
      | _ => none
  | .writerSend count =>
      match stream.writer with
      | .writing frame unsent =>
          if stream.reset = none ∧ 0 < count ∧ count ≤ stream.room ∧ count ≤ unsent.length then
            some (.quiet, .streaming { stream with
              room := stream.room - count
              writer := .writing frame (unsent.drop count) })
          else none
      | _ => none
  | .writerDone =>
      match stream.writer with
      | .writing frame [] =>
          let rate := config.params.sendRateBps
          some (.frameSent (frameLen frame), .streaming { stream with
            seq := stream.seq + 1
            writer := if 0 < rate then .pacing (now + paceMs rate (frameLen frame)) else .checking })
      | _ => none
  | .writerError =>
      match stream.writer, stream.reset with
      | .writing _ (_ :: _), some error =>
          some (.broken s!"conn {id}: write error: {error.message}",
            .streaming { stream with writer := .stopped })
      | _, _ => none
  | .writerWake =>
      match stream.writer with
      | .pacing wake =>
          if wake ≤ now then some (.quiet, .streaming { stream with writer := .checking }) else none
      | _ => none
  | .read nowMicros =>
      match stream.reader with
      | .reading =>
          match Frame.read stream.rx with
          | .pending => none
          | .ok (some frame) rest =>
              some (.frameReceived (frameLen frame) (nowMicros.toNat - frame.sendTsMicros.toNat),
                .streaming { stream with rx := rest })
          | .ok none rest =>
              some (.broken s!"conn {id}: peer closed mid-test (EOF)",
                .streaming { stream with rx := rest, reader := .stopped })
          | .error error =>
              some (.broken s!"conn {id}: read error: {error.message}",
                .streaming { stream with reader := .stopped })
      | .stopped => none
  | .join =>
      if stream.reader = .stopped ∧ stream.writer = .stopped then some (.quiet, .returned) else none
  | .peerSend bytes =>
      if stream.rx.ending = .live then
        some (.quiet, .streaming { stream with rx := ⟨stream.rx.bytes ++ bytes, .live⟩ })
      else none
  | .peerClose =>
      if stream.rx.ending = .live then
        some (.quiet, .streaming { stream with rx := ⟨stream.rx.bytes, .eof⟩ })
      else none
  | .peerReset kept error =>
      if stream.reset = none then
        some (.quiet, .streaming { stream with
          rx := ⟨stream.rx.bytes.take kept, .failed error⟩
          reset := some error })
      else none
  | .peerDrain count => some (.quiet, .streaming { stream with room := stream.room + count })
  | .wake | .connectTimeout | .connectOk _ | .connectError _ => none

/-- `tcp_flow`, after the ramp sleep of its caller. -/
def step (config : RunConfig) (now id : Nat) : Task → Label → Option (FlowEvent × Task)
  | .ramping wake, .wake => if wake ≤ now then some (.quiet, .connecting now) else none
  | .connecting _, .connectOk room => some (.connected, .streaming { room := room })
  | .connecting _, .connectError error =>
      some (.connectFailed s!"conn {id}: connect failed: {error.message}", .returned)
  | .connecting since, .connectTimeout =>
      if since + config.params.connectTimeoutSecs * 1000 ≤ now then
        some (.connectFailed s!"conn {id}: connect timeout", .returned)
      else none
  | .streaming stream, label => streamStep config now id stream label
  | _, _ => none

def tcpFlow (config : RunConfig) : FlowProgram Task Label where
  protocol := "tcp"
  start := .ramping
  step := step config
  returned := fun task => decide (task = .returned)
  returned_final := by
    intro now id task label returned
    obtain rfl : task = .returned := of_decide_eq_true returned
    rfl

/-- `run_tcp`. -/
def runTcp (config : RunConfig) : Machine (RunState Task) (RunLabel Label) :=
  runMachine (tcpFlow config) config

def startTcp (config : RunConfig) : RunState Task := initialRun (tcpFlow config) config

/-- The state that labels lead to. -/
def stateAfter (config : RunConfig) (start : RunState Task) (labels : List (RunLabel Label)) :
    RunState Task :=
  ((runTcp config).play start labels).getD start

/-! ## The moves of a connected flow -/

/-- Every step of a connected flow. -/
inductive Move (config : RunConfig) (now id : Nat) (stream : Stream) :
    Label → FlowEvent → Task → Prop where
  | start {nowMicros : UInt64} (checking : stream.writer = .checking)
      (early : now < config.deadline) :
      Move config now id stream (.writerCheck nowMicros) .quiet
        (.streaming { stream with
          writer := .writing (nextFrame config stream.seq nowMicros)
            (nextFrame config stream.seq nowMicros).encode })
  | stop {nowMicros : UInt64} (checking : stream.writer = .checking)
      (late : config.deadline ≤ now) :
      Move config now id stream (.writerCheck nowMicros) .quiet
        (.streaming { stream with writer := .stopped })
  | send {frame : Frame} {unsent : List UInt8} {count : Nat}
      (writing : stream.writer = .writing frame unsent) (whole : stream.reset = none)
      (positive : 0 < count) (inRoom : count ≤ stream.room) (inFrame : count ≤ unsent.length) :
      Move config now id stream (.writerSend count) .quiet
        (.streaming { stream with
          room := stream.room - count
          writer := .writing frame (unsent.drop count) })
  | sent {frame : Frame} (writing : stream.writer = .writing frame []) {writer : Writer}
      (after : writer = .checking ∨ ∃ wake, writer = .pacing wake) :
      Move config now id stream .writerDone (.frameSent (frameLen frame))
        (.streaming { stream with seq := stream.seq + 1, writer := writer })
  | writeFailed {frame : Frame} {unsent : List UInt8} {error : IoError}
      (writing : stream.writer = .writing frame unsent) (reset : stream.reset = some error) :
      Move config now id stream .writerError
        (.broken s!"conn {id}: write error: {error.message}")
        (.streaming { stream with writer := .stopped })
  | paced {wake : Nat} (pacing : stream.writer = .pacing wake) (reached : wake ≤ now) :
      Move config now id stream .writerWake .quiet
        (.streaming { stream with writer := .checking })
  | frame {nowMicros : UInt64} {frame : Frame} {rest : ByteStream IoError}
      (reading : stream.reader = .reading) (read : Frame.read stream.rx = .ok (some frame) rest) :
      Move config now id stream (.read nowMicros)
        (.frameReceived (frameLen frame) (nowMicros.toNat - frame.sendTsMicros.toNat))
        (.streaming { stream with rx := rest })
  | ended {nowMicros : UInt64} {message : String} {rx : ByteStream IoError}
      (reading : stream.reader = .reading) (past : ∀ frame rest,
        Frame.read stream.rx ≠ .ok (some frame) rest) (decided : Frame.read stream.rx ≠ .pending)
      (left : rx = stream.rx ∨ rx = { stream.rx with bytes := [] } ∧ stream.rx.ending ≠ .live) :
      Move config now id stream (.read nowMicros) (.broken message)
        (.streaming { stream with rx := rx, reader := .stopped })
  | joined (readerStopped : stream.reader = .stopped) (writerStopped : stream.writer = .stopped) :
      Move config now id stream .join .quiet .returned
  | delivered {bytes : List UInt8} (live : stream.rx.ending = .live) :
      Move config now id stream (.peerSend bytes) .quiet
        (.streaming { stream with rx := ⟨stream.rx.bytes ++ bytes, .live⟩ })
  | closed (live : stream.rx.ending = .live) :
      Move config now id stream .peerClose .quiet
        (.streaming { stream with rx := ⟨stream.rx.bytes, .eof⟩ })
  | cut {kept : Nat} {error : IoError} (whole : stream.reset = none) :
      Move config now id stream (.peerReset kept error) .quiet
        (.streaming { stream with
          rx := ⟨stream.rx.bytes.take kept, .failed error⟩
          reset := some error })
  | drained {count : Nat} :
      Move config now id stream (.peerDrain count) .quiet
        (.streaming { stream with room := stream.room + count })

theorem move_of_streamStep {config : RunConfig} {now id : Nat} {stream : Stream} {label : Label}
    {event : FlowEvent} {task : Task}
    (step : streamStep config now id stream label = some (event, task)) :
    Move config now id stream label event task := by
  cases label with
  | wake | connectTimeout | connectOk room | connectError error => simp [streamStep] at step
  | writerCheck nowMicros =>
      cases checking : stream.writer with
      | checking =>
          simp only [streamStep, checking] at step
          split at step
          · rename_i early
            obtain ⟨rfl, rfl⟩ := Prod.mk.inj (Option.some.inj step)
            exact .start checking early
          · rename_i late
            obtain ⟨rfl, rfl⟩ := Prod.mk.inj (Option.some.inj step)
            exact .stop checking (Nat.not_lt.mp late)
      | _ => simp [streamStep, checking] at step
  | writerSend count =>
      cases writing : stream.writer with
      | writing frame unsent =>
          simp only [streamStep, writing] at step
          split at step
          · rename_i ready
            obtain ⟨rfl, rfl⟩ := Prod.mk.inj (Option.some.inj step)
            exact .send writing ready.1 ready.2.1 ready.2.2.1 ready.2.2.2
          · simp at step
      | _ => simp [streamStep, writing] at step
  | writerDone =>
      cases writing : stream.writer with
      | writing frame unsent =>
          cases unsent with
          | nil =>
              simp only [streamStep, writing, Option.some.injEq, Prod.mk.injEq] at step
              obtain ⟨rfl, rfl⟩ := step
              refine .sent writing ?_
              split
              · exact Or.inr ⟨_, rfl⟩
              · exact Or.inl rfl
          | cons byte rest => simp [streamStep, writing] at step
      | _ => simp [streamStep, writing] at step
  | writerError =>
      simp only [streamStep] at step
      split at step
      · rename_i writing reset
        obtain ⟨rfl, rfl⟩ := Prod.mk.inj (Option.some.inj step)
        exact .writeFailed writing reset
      · simp at step
  | writerWake =>
      cases pacing : stream.writer with
      | pacing wake =>
          simp only [streamStep, pacing] at step
          split at step
          · rename_i reached
            obtain ⟨rfl, rfl⟩ := Prod.mk.inj (Option.some.inj step)
            exact .paced pacing reached
          · simp at step
      | _ => simp [streamStep, pacing] at step
  | read nowMicros =>
      simp only [streamStep] at step
      split at step
      · rename_i reading
        split at step
        · simp at step
        · rename_i frame rest read
          obtain ⟨rfl, rfl⟩ := Prod.mk.inj (Option.some.inj step)
          exact .frame reading read
        · rename_i rest read
          obtain ⟨rfl, rfl⟩ := Prod.mk.inj (Option.some.inj step)
          exact .ended reading (by simp [read]) (by simp [read]) (Or.inr (Frame.read_none read))
        · rename_i error read
          obtain ⟨rfl, rfl⟩ := Prod.mk.inj (Option.some.inj step)
          exact .ended reading (by simp [read]) (by simp [read]) (Or.inl (Eq.refl stream.rx))
      · simp at step
  | join =>
      simp only [streamStep] at step
      split at step
      · rename_i stopped
        obtain ⟨rfl, rfl⟩ := Prod.mk.inj (Option.some.inj step)
        exact .joined stopped.1 stopped.2
      · simp at step
  | peerSend bytes =>
      simp only [streamStep] at step
      split at step
      · rename_i live
        obtain ⟨rfl, rfl⟩ := Prod.mk.inj (Option.some.inj step)
        exact .delivered live
      · simp at step
  | peerClose =>
      simp only [streamStep] at step
      split at step
      · rename_i live
        obtain ⟨rfl, rfl⟩ := Prod.mk.inj (Option.some.inj step)
        exact .closed live
      · simp at step
  | peerReset kept error =>
      simp only [streamStep] at step
      split at step
      · rename_i whole
        obtain ⟨rfl, rfl⟩ := Prod.mk.inj (Option.some.inj step)
        exact .cut whole
      · simp at step
  | peerDrain count =>
      simp only [streamStep, Option.some.injEq, Prod.mk.injEq] at step
      obtain ⟨rfl, rfl⟩ := step
      exact .drained

theorem wake_of_writerDone {config : RunConfig} {now id wake : Nat} {stream after : Stream}
    {event : FlowEvent} {frame : Frame} (writing : stream.writer = .writing frame [])
    (taken : (tcpFlow config).step now id (.streaming stream) .writerDone =
      some (event, .streaming after))
    (pacing : after.writer = .pacing wake) :
    wake = now + paceMs config.params.sendRateBps (frameLen frame) := by
  simp only [tcpFlow, step, streamStep, writing, Option.some.injEq, Prod.mk.injEq,
    Task.streaming.injEq] at taken
  obtain ⟨_, rfl⟩ := taken
  simp only at pacing
  split at pacing
  · exact (Writer.pacing.inj pacing).symm
  · simp at pacing

/-- Every step of the flow task. -/
inductive TaskMove (config : RunConfig) (now id : Nat) :
    Task → Label → FlowEvent → Task → Prop where
  | woke {wake : Nat} (reached : wake ≤ now) :
      TaskMove config now id (.ramping wake) .wake .quiet (.connecting now)
  | connected {since room : Nat} :
      TaskMove config now id (.connecting since) (.connectOk room) .connected
        (.streaming { room := room })
  | refused {since : Nat} {label : Label} {message : String} :
      TaskMove config now id (.connecting since) label (.connectFailed message) .returned
  | streamed {stream : Stream} {label : Label} {event : FlowEvent} {task : Task}
      (move : Move config now id stream label event task) :
      TaskMove config now id (.streaming stream) label event task

theorem taskMove_of_step {config : RunConfig} {now id : Nat} {task next : Task} {label : Label}
    {event : FlowEvent} (taken : (tcpFlow config).step now id task label = some (event, next)) :
    TaskMove config now id task label event next := by
  change step config now id task label = some (event, next) at taken
  cases task with
  | ramping wake =>
      cases label <;> simp only [step, reduceCtorEq] at taken
      split at taken
      · rename_i reached
        obtain ⟨rfl, rfl⟩ := Prod.mk.inj (Option.some.inj taken)
        exact .woke reached
      · simp at taken
  | connecting since =>
      cases label <;> simp only [step, reduceCtorEq] at taken
      case connectOk room =>
        obtain ⟨rfl, rfl⟩ := Prod.mk.inj (Option.some.inj taken)
        exact .connected
      case connectError error =>
        obtain ⟨rfl, rfl⟩ := Prod.mk.inj (Option.some.inj taken)
        exact .refused
      case connectTimeout =>
        split at taken
        · obtain ⟨rfl, rfl⟩ := Prod.mk.inj (Option.some.inj taken)
          exact .refused
        · simp at taken
  | streaming stream => exact .streamed (move_of_streamStep taken)
  | returned => cases label <;> simp [step] at taken

end Npt.Ci.Client.TcpFlow
