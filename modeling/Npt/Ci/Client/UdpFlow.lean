import Npt.Ci.Client.Run
import Npt.Ci.Protocol

/-!
Contract: one UDP flow of the probe (`udp_flow` in `ci/src/client.rs`).

The socket holds the datagrams the network delivered and the reader has not
taken. The reader gives every `recv` a second; the writer sends one datagram a
tick until the deadline. Binding and connecting the socket is one step, since
neither waits for the network.

Owns: the task, its program, `runUdp`, and the exhaustive list of its moves.

Does not own: shared state (see `FlowEvent.apply`) or the wall clock, whose
microseconds are part of the labels that read it.
-/

namespace Npt.Ci.Client.UdpFlow

open Npt.Core
open Npt.Ci.Protocol

/-- The size of the reader's buffer; `recv` drops what does not fit. -/
def bufferLen : Nat := 64 * 1024

inductive Reader where
  /-- Inside the `recv` that began at `since`. -/
  | receiving (since : Nat)
  | stopped
deriving DecidableEq, Repr

inductive Writer where
  /-- At the test of the writer's loop; the next tick is at `due`. -/
  | checking (due : Nat)
  | ticking (due : Nat)
  | sending (due : Nat) (datagram : List UInt8)
  | stopped
deriving DecidableEq, Repr

/-- A connected socket and the two loops on it. -/
structure Socket where
  queue : List (List UInt8) := []
  reader : Reader
  writer : Writer
  /-- The sequence number of the writer's next datagram. -/
  seq : UInt64 := 0
deriving DecidableEq, Repr

inductive Task where
  | ramping (wake : Nat)
  | opening
  | streaming (socket : Socket)
  | returned
deriving DecidableEq, Repr

inductive Label where
  | wake
  | bindError (error : IoError)
  | connectError (error : IoError)
  | opened
  | writerCheck
  /-- The tick; the datagram it starts is stamped `nowMicros`. -/
  | writerTick (nowMicros : UInt64)
  | sendOk
  | sendError (error : IoError)
  | recv (nowMicros : UInt64)
  | recvError (error : IoError)
  | recvTimeout
  | join
  /-- The network delivers a datagram to the socket. -/
  | deliver (datagram : List UInt8)
deriving DecidableEq, Repr

/-- The datagram the writer builds in one iteration. -/
def nextDatagram (config : RunConfig) (seq nowMicros : UInt64) : List UInt8 :=
  encodeUdp seq nowMicros (List.replicate (max config.params.payloadBytes 1) 0xA5)

/-- The writer's period, in milliseconds. -/
def intervalMs (config : RunConfig) : Nat := max config.params.udpIntervalMs 1

def socketStep (config : RunConfig) (now id : Nat) (socket : Socket) :
    Label → Option (FlowEvent × Task)
  | .writerCheck =>
      match socket.writer with
      | .checking due =>
          if now < config.deadline then
            some (.quiet, .streaming { socket with writer := .ticking due })
          else some (.quiet, .streaming { socket with writer := .stopped })
      | _ => none
  | .writerTick nowMicros =>
      match socket.writer with
      | .ticking due =>
          if due ≤ now then
            some (.quiet, .streaming { socket with
              writer := .sending due (nextDatagram config socket.seq nowMicros) })
          else none
      | _ => none
  | .sendOk =>
      match socket.writer with
      | .sending due datagram =>
          some (.datagramSent datagram.length, .streaming { socket with
            seq := socket.seq + 1
            writer := .checking (due + intervalMs config) })
      | _ => none
  | .sendError error =>
      match socket.writer with
      | .sending due _ =>
          some (.sendFailed s!"conn {id}: udp send error: {error.message}", .streaming { socket with
            seq := socket.seq + 1
            writer := .checking (due + intervalMs config) })
      | _ => none
  | .recv nowMicros =>
      match socket.reader, socket.queue with
      | .receiving _, datagram :: rest =>
          let received := datagram.take bufferLen
          let after := Task.streaming { socket with queue := rest, reader := .receiving now }
          match decodeUdp received with
          | some (_, stamp) =>
              some (.datagramReceived received.length (nowMicros.toNat - stamp.toNat), after)
          | none => some (.quiet, after)
      | _, _ => none
  | .recvError _ =>
      match socket.reader with
      | .receiving _ => some (.quiet, .streaming { socket with reader := .stopped })
      | .stopped => none
  | .recvTimeout =>
      match socket.reader, socket.queue with
      | .receiving since, [] =>
          if since + 1000 ≤ now then
            if config.deadline ≤ now then
              some (.quiet, .streaming { socket with reader := .stopped })
            else some (.quiet, .streaming { socket with reader := .receiving now })
          else none
      | _, _ => none
  | .join =>
      if socket.reader = .stopped ∧ socket.writer = .stopped then some (.quiet, .returned) else none
  | .deliver datagram => some (.quiet, .streaming { socket with queue := socket.queue ++ [datagram] })
  | .wake | .bindError _ | .connectError _ | .opened => none

/-- `udp_flow`, after the ramp sleep of its caller. -/
def step (config : RunConfig) (now id : Nat) : Task → Label → Option (FlowEvent × Task)
  | .ramping wake, .wake => if wake ≤ now then some (.quiet, .opening) else none
  | .opening, .bindError error =>
      some (.connectFailed s!"conn {id}: udp bind failed: {error.message}", .returned)
  | .opening, .connectError error =>
      some (.connectFailed s!"conn {id}: udp connect failed: {error.message}", .returned)
  | .opening, .opened =>
      some (.connected, .streaming { reader := .receiving now, writer := .checking now })
  | .streaming socket, label => socketStep config now id socket label
  | _, _ => none

def udpFlow (config : RunConfig) : FlowProgram Task Label where
  protocol := "udp"
  start := .ramping
  step := step config
  returned := fun task => decide (task = .returned)
  returned_final := by
    intro now id task label returned
    obtain rfl : task = .returned := of_decide_eq_true returned
    rfl

/-- `run_udp`. -/
def runUdp (config : RunConfig) : Machine (RunState Task) (RunLabel Label) :=
  runMachine (udpFlow config) config

def startUdp (config : RunConfig) : RunState Task := initialRun (udpFlow config) config

/-! ## The moves of an open flow -/

/-- Every step of an open flow. -/
inductive Move (config : RunConfig) (now id : Nat) (socket : Socket) :
    Label → FlowEvent → Task → Prop where
  | start {due : Nat} (checking : socket.writer = .checking due) (early : now < config.deadline) :
      Move config now id socket .writerCheck .quiet
        (.streaming { socket with writer := .ticking due })
  | stop {due : Nat} (checking : socket.writer = .checking due) (late : config.deadline ≤ now) :
      Move config now id socket .writerCheck .quiet (.streaming { socket with writer := .stopped })
  | tick {due : Nat} {nowMicros : UInt64} (ticking : socket.writer = .ticking due)
      (reached : due ≤ now) :
      Move config now id socket (.writerTick nowMicros) .quiet
        (.streaming { socket with
          writer := .sending due (nextDatagram config socket.seq nowMicros) })
  | sent {due : Nat} {datagram : List UInt8} (sending : socket.writer = .sending due datagram) :
      Move config now id socket .sendOk (.datagramSent datagram.length)
        (.streaming { socket with
          seq := socket.seq + 1
          writer := .checking (due + intervalMs config) })
  | unsent {due : Nat} {datagram : List UInt8} {error : IoError}
      (sending : socket.writer = .sending due datagram) :
      Move config now id socket (.sendError error)
        (.sendFailed s!"conn {id}: udp send error: {error.message}")
        (.streaming { socket with
          seq := socket.seq + 1
          writer := .checking (due + intervalMs config) })
  | received {since : Nat} {nowMicros seq stamp : UInt64} {datagram : List UInt8}
      {rest : List (List UInt8)} (receiving : socket.reader = .receiving since)
      (arrived : socket.queue = datagram :: rest)
      (valid : decodeUdp (datagram.take bufferLen) = some (seq, stamp)) :
      Move config now id socket (.recv nowMicros)
        (.datagramReceived (datagram.take bufferLen).length (nowMicros.toNat - stamp.toNat))
        (.streaming { socket with queue := rest, reader := .receiving now })
  | ignored {since : Nat} {nowMicros : UInt64} {datagram : List UInt8}
      {rest : List (List UInt8)} (receiving : socket.reader = .receiving since)
      (arrived : socket.queue = datagram :: rest)
      (invalid : decodeUdp (datagram.take bufferLen) = none) :
      Move config now id socket (.recv nowMicros) .quiet
        (.streaming { socket with queue := rest, reader := .receiving now })
  | readerFailed {since : Nat} {error : IoError} (receiving : socket.reader = .receiving since) :
      Move config now id socket (.recvError error) .quiet
        (.streaming { socket with reader := .stopped })
  | readerDone {since : Nat} (receiving : socket.reader = .receiving since)
      (late : config.deadline ≤ now) :
      Move config now id socket .recvTimeout .quiet (.streaming { socket with reader := .stopped })
  | again {since : Nat} (receiving : socket.reader = .receiving since)
      (early : now < config.deadline) :
      Move config now id socket .recvTimeout .quiet
        (.streaming { socket with reader := .receiving now })
  | joined (readerStopped : socket.reader = .stopped) (writerStopped : socket.writer = .stopped) :
      Move config now id socket .join .quiet .returned
  | delivered {datagram : List UInt8} :
      Move config now id socket (.deliver datagram) .quiet
        (.streaming { socket with queue := socket.queue ++ [datagram] })

theorem move_of_socketStep {config : RunConfig} {now id : Nat} {socket : Socket} {label : Label}
    {event : FlowEvent} {task : Task}
    (step : socketStep config now id socket label = some (event, task)) :
    Move config now id socket label event task := by
  cases label with
  | wake | bindError error | connectError error | opened => simp [socketStep] at step
  | writerCheck =>
      cases checking : socket.writer with
      | checking due =>
          simp only [socketStep, checking] at step
          split at step
          · rename_i early
            obtain ⟨rfl, rfl⟩ := Prod.mk.inj (Option.some.inj step)
            exact .start checking early
          · rename_i late
            obtain ⟨rfl, rfl⟩ := Prod.mk.inj (Option.some.inj step)
            exact .stop checking (Nat.not_lt.mp late)
      | _ => simp [socketStep, checking] at step
  | writerTick nowMicros =>
      cases ticking : socket.writer with
      | ticking due =>
          simp only [socketStep, ticking] at step
          split at step
          · rename_i reached
            obtain ⟨rfl, rfl⟩ := Prod.mk.inj (Option.some.inj step)
            exact .tick ticking reached
          · simp at step
      | _ => simp [socketStep, ticking] at step
  | sendOk =>
      cases sending : socket.writer with
      | sending due datagram =>
          simp only [socketStep, sending, Option.some.injEq, Prod.mk.injEq] at step
          obtain ⟨rfl, rfl⟩ := step
          exact .sent sending
      | _ => simp [socketStep, sending] at step
  | sendError error =>
      cases sending : socket.writer with
      | sending due datagram =>
          simp only [socketStep, sending, Option.some.injEq, Prod.mk.injEq] at step
          obtain ⟨rfl, rfl⟩ := step
          exact .unsent sending
      | _ => simp [socketStep, sending] at step
  | recv nowMicros =>
      simp only [socketStep] at step
      split at step
      · rename_i since datagram rest receiving arrived
        split at step
        · rename_i seq stamp valid
          obtain ⟨rfl, rfl⟩ := Prod.mk.inj (Option.some.inj step)
          exact .received receiving arrived valid
        · rename_i invalid
          obtain ⟨rfl, rfl⟩ := Prod.mk.inj (Option.some.inj step)
          exact .ignored receiving arrived invalid
      · simp at step
  | recvError error =>
      cases receiving : socket.reader with
      | receiving since =>
          simp only [socketStep, receiving, Option.some.injEq, Prod.mk.injEq] at step
          obtain ⟨rfl, rfl⟩ := step
          exact .readerFailed receiving
      | stopped => simp [socketStep, receiving] at step
  | recvTimeout =>
      simp only [socketStep] at step
      split at step
      · rename_i since receiving arrived
        split at step
        · split at step
          · rename_i late
            obtain ⟨rfl, rfl⟩ := Prod.mk.inj (Option.some.inj step)
            exact .readerDone receiving late
          · rename_i early
            obtain ⟨rfl, rfl⟩ := Prod.mk.inj (Option.some.inj step)
            exact .again receiving (Nat.not_le.mp early)
        · simp at step
      · simp at step
  | join =>
      simp only [socketStep] at step
      split at step
      · rename_i stopped
        obtain ⟨rfl, rfl⟩ := Prod.mk.inj (Option.some.inj step)
        exact .joined stopped.1 stopped.2
      · simp at step
  | deliver datagram =>
      simp only [socketStep, Option.some.injEq, Prod.mk.injEq] at step
      obtain ⟨rfl, rfl⟩ := step
      exact .delivered

theorem queue_of_recvTimeout {config : RunConfig} {now id : Nat} {socket : Socket}
    {outcome : FlowEvent × Task}
    (taken : socketStep config now id socket .recvTimeout = some outcome) : socket.queue = [] := by
  simp only [socketStep] at taken
  split at taken
  · assumption
  · simp at taken

/-- Every step of the flow task. -/
inductive TaskMove (config : RunConfig) (now id : Nat) :
    Task → Label → FlowEvent → Task → Prop where
  | woke {wake : Nat} (reached : wake ≤ now) :
      TaskMove config now id (.ramping wake) .wake .quiet .opening
  | opened :
      TaskMove config now id .opening .opened .connected
        (.streaming { reader := .receiving now, writer := .checking now })
  | refused {label : Label} {message : String} :
      TaskMove config now id .opening label (.connectFailed message) .returned
  | moved {socket : Socket} {label : Label} {event : FlowEvent} {task : Task}
      (move : Move config now id socket label event task) :
      TaskMove config now id (.streaming socket) label event task

theorem taskMove_of_step {config : RunConfig} {now id : Nat} {task next : Task} {label : Label}
    {event : FlowEvent} (taken : (udpFlow config).step now id task label = some (event, next)) :
    TaskMove config now id task label event next := by
  change step config now id task label = some (event, next) at taken
  cases task with
  | ramping wake =>
      cases label <;> simp only [step, reduceCtorEq] at taken
      split at taken
      · rename_i reached
        obtain ⟨rfl, rfl⟩ := Prod.mk.inj (Option.some.inj taken)
        exact .woke reached
      · simp at taken
  | opening =>
      cases label <;> simp only [step, reduceCtorEq] at taken
      case bindError error =>
        obtain ⟨rfl, rfl⟩ := Prod.mk.inj (Option.some.inj taken)
        exact .refused
      case connectError error =>
        obtain ⟨rfl, rfl⟩ := Prod.mk.inj (Option.some.inj taken)
        exact .refused
      case opened =>
        obtain ⟨rfl, rfl⟩ := Prod.mk.inj (Option.some.inj taken)
        exact .opened
  | streaming socket => exact .moved (move_of_socketStep taken)
  | returned => cases label <;> simp [step] at taken

end Npt.Ci.Client.UdpFlow
