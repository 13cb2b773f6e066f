import Mathlib.Data.List.Forall2
import Npt.Server.MessageAccounting
import Npt.System.TransferSession

/-!
Contract: what both sides of a stream have on their records, for a web page, a
download or an upload (`client/src/tcp_client.rs`, `server/src/tcp_server.rs`).

The session is carried out without a fault: there is no timeout and no transport
error, and a message beyond the limit of its receiver is never received. A stop
request may be seen wherever the client looks for one.

Owns: the machine of such a session, its client as one side sees it, the runs of
its server, and the books of both.

Does not own: how a connection comes about, or the end of a stream whose close
request the server has not handled.
-/

namespace Npt.System

open Npt.Core
open Npt.Shared
open Npt.Client
open Npt.Server.TcpServer (Serving Stage Continuation servingMachine drawBetween)

/-! ## The session of an activity -/

/-- What a wait in `send_message` sends; `requestNum` requests were made before. -/
def spoken (sessionId : Uuid) (activity : UserActivity) (requestNum draw : Nat) :
    Exchange → Option Message
  | .sendHandshake => some
      { sessionId := sessionId
        messageType := .tlsHandshake
        payload := Message.zeros (drawBetween 400 2000 draw) }
  | .sendRequest _ => some
      { sessionId := sessionId
        messageType := .httpRequest
        payload := Message.zeros (drawBetween 1024 (4 * 1024) draw)
        sequence := UInt64.ofNat requestNum }
  | exchange => outgoing sessionId activity exchange

/-- The requests that a page has made. -/
def requestsMade (sent : List Frame) : Nat :=
  (ofType .httpRequest (sent.map Frame.message)).length

inductive ActivityLabel where
  | clientSends (draw stamp : Nat)
  | clientReceives (stopped : Bool) (latency draw : Nat)
  | clientPaused (stopped : Bool)
  | serverReceives (draw latency now : Nat)
  | serverSends (stamp draw latency : Nat)
deriving DecidableEq, Repr

/-- The client sees a stop request. -/
def ActivityLabel.stops : ActivityLabel → Bool
  | .clientReceives stopped _ _ | .clientPaused stopped => stopped
  | _ => false

namespace Session

variable (encodedLength : Message → Nat → Nat) (sessionId : Uuid)

def activityStep (session : Session) : ActivityLabel → Option Session
  | .clientSends draw stamp => do
      let (call, server, exchange) ← session.clientWait
      let message ← spoken sessionId call.activity (requestsMade session.upstream.sent) draw exchange
      let length := encodedLength message stamp
      let next ← streamStep false call server exchange (.sent (UInt32.ofNat length))
      some { session with
        client := next.2, effects := session.effects ++ next.1
        upstream := session.upstream.send ⟨message, length⟩ }
  | .clientReceives stopped latency draw => do
      let (call, server, exchange) ← session.clientWait
      let (frame, rest) ← session.downstream.receive?
      let next ← streamStep stopped call server exchange
        (.received frame.length frame.message.payload.length latency draw)
      some { session with
        client := next.2, effects := session.effects ++ next.1, downstream := rest }
  | .clientPaused stopped => do
      let (call, server, exchange) ← session.clientWait
      let next ← streamStep stopped call server exchange .pauseOver
      some { session with client := next.2, effects := session.effects ++ next.1 }
  | .serverReceives draw latency now => do
      let (frame, rest) ← session.upstream.receive?
      if frame.length ≤ Npt.Server.TcpServer.messageLimit then
        let next ← session.server.step (.received frame.message draw latency now)
        some { session with server := next, upstream := rest }
      else none
  | .serverSends stamp draw latency =>
      match session.server.stage with
      | .sending reply _ _ => do
          let next ← session.server.step (.sent draw latency)
          some { session with
            server := next
            downstream := session.downstream.send ⟨reply, encodedLength reply stamp⟩ }
      | _ => none

end Session

def activityMachine (encodedLength : Message → Nat → Nat) (sessionId : Uuid) :
    Machine Session ActivityLabel where
  step := Session.activityStep encodedLength sessionId

/-! ## The client's side -/

/-- What the client's side of a session consists of: its wait on the stream, and
what it has recorded, sent and received. -/
structure ClientSide where
  wait : Option Exchange
  effects : List Effect := []
  sent : List Frame := []
  received : List Frame := []

def Session.clientSide (session : Session) (wait : Option Exchange) : ClientSide where
  wait := wait
  effects := session.effects
  sent := session.upstream.sent
  received := session.downstream.delivered

/-- The client's steps; `stopped` is whether it sees a stop request. -/
inductive ClientMove (encodedLength : Message → Nat → Nat) (sessionId : Uuid) (call : TcpCall)
    (side : ClientSide) (stopped : Bool) : ClientSide → Prop where
  | spoke {exchange after : Exchange} {message : Message} {effects : List Effect}
      {draw stamp : Nat} (waits : side.wait = some exchange)
      (sends : spoken sessionId call.activity (requestsMade side.sent) draw exchange = some message)
      (goesOn : afterSend call.connectionId call.activity
        (UInt32.ofNat (encodedLength message stamp)) exchange = some (effects, after)) :
      ClientMove encodedLength sessionId call side stopped
        { wait := some after
          effects := side.effects ++ effects
          sent := side.sent ++ [⟨message, encodedLength message stamp⟩]
          received := side.received }
  | closed {server : SocketAddr} {stamp : Nat} (waits : side.wait = some .sendClose) :
      ClientMove encodedLength sessionId call side stopped
        { wait := none
          effects := side.effects ++ [.markConnectionEnd server, .endConnection call.connectionId]
          sent := side.sent ++
            [⟨closeMessage sessionId, encodedLength (closeMessage sessionId) stamp⟩]
          received := side.received }
  | heard {exchange : Exchange} {after : Option Exchange} {frame : Frame}
      {effects : List Effect} {latency draw : Nat} (waits : side.wait = some exchange)
      (goesOn : afterReceive call.connectionId call.activity stopped frame.length
        frame.message.payload.length latency draw exchange = some (effects, after)) :
      ClientMove encodedLength sessionId call side stopped
        { wait := after
          effects := side.effects ++ effects
          sent := side.sent
          received := side.received ++ [frame] }
  | paused {left : Nat} (waits : side.wait = some (.pause left)) :
      ClientMove encodedLength sessionId call side stopped
        { side with wait := some (if stopped then .sendClose else nextRequest (left - 1)) }

/-! ## What a step of a session can do -/

/-- The client waits on its stream as `wait` says. -/
def Session.WaitsAs (session : Session) (call : TcpCall) (server : SocketAddr)
    (wait : Option Exchange) : Prop :=
  session.clientWait = wait.map fun exchange =>
    ({ call with stage := .streaming server exchange }, server, exchange)

/-- A step is one of the client's or one of the server's. -/
inductive ActivityMove (encodedLength : Message → Nat → Nat) (sessionId : Uuid) (call : TcpCall)
    (server : SocketAddr) (session : Session) (wait : Option Exchange) :
    ActivityLabel → Session → Prop where
  | client {label : ActivityLabel} {next : Session} (after : Option Exchange)
      (move : ClientMove encodedLength sessionId call (session.clientSide wait) label.stops
        (next.clientSide after))
      (waits : next.WaitsAs call server after) (same : next.server = session.server)
      (read : next.upstream.delivered = session.upstream.delivered)
      (written : next.downstream.sent = session.downstream.sent) :
      ActivityMove encodedLength sessionId call server session wait label next
  | served {draw latency now : Nat} {frame : Frame} {rest : Channel Frame} {after : Serving}
      (arrived : session.upstream.receive? = some (frame, rest))
      (fits : frame.length ≤ messageLimit)
      (handles : session.server.step (.received frame.message draw latency now) = some after) :
      ActivityMove encodedLength sessionId call server session wait
        (.serverReceives draw latency now) { session with server := after, upstream := rest }
  | replied {stamp draw latency : Nat} {reply : Message} {counted : UInt64} {goes : Continuation}
      {after : Serving} (sends : session.server.stage = .sending reply counted goes)
      (handles : session.server.step (.sent draw latency) = some after) :
      ActivityMove encodedLength sessionId call server session wait
        (.serverSends stamp draw latency)
        { session with
          server := after
          downstream := session.downstream.send ⟨reply, encodedLength reply stamp⟩ }

section Steps

variable {encodedLength : Message → Nat → Nat} {sessionId : Uuid} {call : TcpCall}
  {server : SocketAddr} {session next : Session} {wait : Option Exchange} {label : ActivityLabel}

theorem Session.WaitsAs.inv (waits : session.WaitsAs call server wait) {waiting : TcpCall}
    {peer : SocketAddr} {exchange : Exchange}
    (here : session.clientWait = some (waiting, peer, exchange)) :
    wait = some exchange ∧ waiting = { call with stage := .streaming server exchange } ∧
      peer = server := by
  rw [waits] at here
  obtain ⟨other, same, equal⟩ := Option.map_eq_some_iff.mp here
  obtain ⟨rfl, rest⟩ := Prod.mk.inj equal
  obtain ⟨rfl, rfl⟩ := Prod.mk.inj rest
  exact ⟨same, rfl, rfl⟩

/-- A client that has left its connection waits on no stream. -/
theorem clientWait_of_left (left : session.client = afterConnection call) :
    session.clientWait = none := by
  rw [Session.clientWait, left, afterConnection]
  split
  · rename_i running
    split at running
    · obtain rfl := TcpOutcome.running.inj running
      rfl
    · simp at running
  · rfl

theorem move_of_clientSends {draw stamp : Nat} (waits : session.WaitsAs call server wait)
    (taken : session.activityStep encodedLength sessionId (.clientSends draw stamp) = some next) :
    ActivityMove encodedLength sessionId call server session wait (.clientSends draw stamp) next := by
  simp only [Session.activityStep] at taken
  obtain ⟨⟨waiting, peer, exchange⟩, here, taken⟩ := Option.bind_eq_some_iff.mp taken
  obtain ⟨message, sends, taken⟩ := Option.bind_eq_some_iff.mp taken
  obtain ⟨⟨effects, outcome⟩, goesOn, taken⟩ := Option.bind_eq_some_iff.mp taken
  obtain rfl := Option.some.inj taken
  obtain ⟨rfl, rfl, rfl⟩ := waits.inv here
  simp only [streamStep] at goesOn
  split at goesOn
  · rename_i closing
    subst closing
    obtain rfl := Option.some.inj sends
    obtain ⟨rfl, rfl⟩ := Prod.mk.inj (Option.some.inj goesOn)
    refine .client none ?_ (clientWait_of_left rfl) rfl rfl rfl
    simp only [Session.clientSide, Channel.sent_send]
    exact .closed rfl
  · obtain ⟨⟨effects, after⟩, onwards, same⟩ := Option.map_eq_some_iff.mp goesOn
    obtain ⟨rfl, rfl⟩ := Prod.mk.inj same
    refine .client (some after) ?_ rfl rfl rfl rfl
    simp only [Session.clientSide, Channel.sent_send]
    exact .spoke rfl sends onwards

theorem move_of_clientReceives {stopped : Bool} {latency draw : Nat}
    (waits : session.WaitsAs call server wait)
    (taken : session.activityStep encodedLength sessionId (.clientReceives stopped latency draw) =
      some next) :
    ActivityMove encodedLength sessionId call server session wait
      (.clientReceives stopped latency draw) next := by
  simp only [Session.activityStep] at taken
  obtain ⟨⟨waiting, peer, exchange⟩, here, taken⟩ := Option.bind_eq_some_iff.mp taken
  obtain ⟨⟨frame, rest⟩, arrived, taken⟩ := Option.bind_eq_some_iff.mp taken
  obtain ⟨⟨effects, outcome⟩, goesOn, taken⟩ := Option.bind_eq_some_iff.mp taken
  obtain rfl := Option.some.inj taken
  obtain ⟨rfl, rfl, rfl⟩ := waits.inv here
  obtain ⟨read, written⟩ := Channel.delivered_of_receive? arrived
  simp only [streamStep] at goesOn
  split at goesOn
  · obtain ⟨⟨effects, after⟩, onwards, same⟩ := Option.map_eq_some_iff.mp goesOn
    obtain ⟨rfl, rfl⟩ := Prod.mk.inj same
    refine .client after ?_ (by cases after <;> rfl) rfl rfl written
    simp only [Session.clientSide, read]
    exact .heard rfl onwards
  · simp at goesOn

theorem move_of_clientPaused {stopped : Bool} (waits : session.WaitsAs call server wait)
    (taken : session.activityStep encodedLength sessionId (.clientPaused stopped) = some next) :
    ActivityMove encodedLength sessionId call server session wait (.clientPaused stopped) next := by
  simp only [Session.activityStep] at taken
  obtain ⟨⟨waiting, peer, exchange⟩, here, taken⟩ := Option.bind_eq_some_iff.mp taken
  obtain ⟨⟨effects, outcome⟩, goesOn, taken⟩ := Option.bind_eq_some_iff.mp taken
  obtain rfl := Option.some.inj taken
  obtain ⟨rfl, rfl, rfl⟩ := waits.inv here
  simp only [streamStep] at goesOn
  split at goesOn
  · rename_i left
    obtain ⟨rfl, rfl⟩ := Prod.mk.inj (Option.some.inj goesOn)
    refine .client (some (if stopped then .sendClose else nextRequest (left - 1))) ?_ rfl rfl rfl rfl
    simp only [Session.clientSide, List.append_nil]
    exact .paused rfl
  · simp at goesOn

theorem move_of_activityStep (waits : session.WaitsAs call server wait)
    (taken : session.activityStep encodedLength sessionId label = some next) :
    ActivityMove encodedLength sessionId call server session wait label next := by
  cases label with
  | clientSends draw stamp => exact move_of_clientSends waits taken
  | clientReceives stopped latency draw => exact move_of_clientReceives waits taken
  | clientPaused stopped => exact move_of_clientPaused waits taken
  | serverReceives draw latency now =>
      simp only [Session.activityStep] at taken
      obtain ⟨⟨frame, rest⟩, arrived, taken⟩ := Option.bind_eq_some_iff.mp taken
      split at taken
      · rename_i fits
        obtain ⟨after, handles, taken⟩ := Option.bind_eq_some_iff.mp taken
        obtain rfl := Option.some.inj taken
        exact .served arrived fits handles
      · simp at taken
  | serverSends stamp draw latency =>
      simp only [Session.activityStep] at taken
      split at taken
      · rename_i sends
        obtain ⟨after, handles, taken⟩ := Option.bind_eq_some_iff.mp taken
        obtain rfl := Option.some.inj taken
        exact .replied sends handles
      · simp at taken

end Steps

/-! ## Both sides of a run -/

section Runs

variable {encodedLength : Message → Nat → Nat} {sessionId connectionId : Uuid} {call : TcpCall}
  {server : SocketAddr} {metrics : MetricsCollector} {now : Nat} {final : Session}
  {trace : List (Session × ActivityLabel)}

/-- What the client's steps preserve holds of its side after every run; with
`stoppable` unset only of runs without a stop request. -/
theorem clientSide_of_run
    (run : (activityMachine encodedLength sessionId).Run
      (Session.begin call server connectionId metrics now) trace final)
    (invariant : ClientSide → Prop) (stoppable : Bool)
    (stops : ∀ entry ∈ trace, entry.2.stops = true → stoppable = true)
    (initial : invariant { wait := some (firstExchange call.activity) })
    (preserved : ∀ side stopped after, (stopped = true → stoppable = true) → invariant side →
      ClientMove encodedLength sessionId call side stopped after → invariant after) :
    ∃ wait, final.WaitsAs call server wait ∧ invariant (final.clientSide wait) := by
  refine run.invariant_under (fun _ label => label.stops = true → stoppable = true)
    (fun session => ∃ wait, session.WaitsAs call server wait ∧ invariant (session.clientSide wait))
    stops ⟨some (firstExchange call.activity), rfl, initial⟩ ?_
  rintro session label next ⟨wait, waits, holds⟩ stops taken
  cases move_of_activityStep waits taken with
  | client after move waitsNext => exact ⟨after, waitsNext, preserved _ _ _ stops holds move⟩
  | served arrived =>
      refine ⟨wait, waits, ?_⟩
      rw [Session.clientSide, (Channel.delivered_of_receive? arrived).2]
      exact holds
  | replied => exact ⟨wait, waits, holds⟩

/-- The server's steps in a run of a session are a run of its connection, which
decodes what is delivered to it, all of it within the limit, and sends what the
client is to get. -/
theorem serving_of_run
    (run : (activityMachine encodedLength sessionId).Run
      (Session.begin call server connectionId metrics now) trace final) :
    ∃ steps, servingMachine.Run (Serving.accept connectionId metrics now) steps final.server ∧
      Serving.decoded steps = final.upMessages.delivered ∧
      Serving.replies steps = final.downMessages.sent ∧
      (∀ step ∈ steps, step.2.fails = false) ∧
      ∀ frame ∈ final.upstream.delivered, frame.length ≤ messageLimit := by
  refine run.history (fun _ session =>
    ∃ steps, servingMachine.Run (Serving.accept connectionId metrics now) steps session.server ∧
      Serving.decoded steps = session.upMessages.delivered ∧
      Serving.replies steps = session.downMessages.sent ∧
      (∀ step ∈ steps, step.2.fails = false) ∧
      ∀ frame ∈ session.upstream.delivered, frame.length ≤ messageLimit)
    ⟨[], .nil, rfl, rfl, by simp, by simp [Session.begin]⟩ ?_
  rintro trace session label next before ⟨steps, served, decoded, replies, faultless, within⟩ taken
  obtain ⟨wait, waits, _⟩ := clientSide_of_run before (fun _ => True) true (fun _ _ _ => rfl) trivial
    (fun _ _ _ _ _ _ => trivial)
  cases move_of_activityStep waits taken with
  | client after move waitsNext same read written =>
      refine ⟨steps, same ▸ served, ?_, ?_, faultless, read ▸ within⟩
      · rw [decoded, Session.upMessages, Session.upMessages, Channel.map, Channel.map, read]
      · rw [replies, Session.downMessages, Session.downMessages, Channel.sent_map, Channel.sent_map,
          written]
  | @served draw latency now frame rest after arrived fits handles =>
      have handled : servingMachine.step session.server (.received frame.message draw latency now) =
        some after := handles
      refine ⟨_, served.snoc handled, ?_, ?_, ?_, ?_⟩
      · rw [Serving.decoded_snoc, decoded]
        simp [Session.upMessages, Channel.map, Serving.decoding,
          (Channel.delivered_of_receive? arrived).1]
      · rw [Serving.replies_snoc, replies]
        simp [Session.downMessages, Serving.replying]
      · exact List.forall_mem_append.mpr ⟨faultless, List.forall_mem_singleton.mpr rfl⟩
      · rw [(Channel.delivered_of_receive? arrived).1]
        exact List.forall_mem_append.mpr ⟨within, List.forall_mem_singleton.mpr fits⟩
  | @replied stamp draw latency reply _ _ after sends handles =>
      have handled : servingMachine.step session.server (.sent draw latency) = some after := handles
      refine ⟨_, served.snoc handled, ?_, ?_, ?_, within⟩
      · rw [Serving.decoded_snoc, decoded]
        simp [Session.upMessages, Serving.decoding]
      · rw [Serving.replies_snoc, replies]
        simp [Session.downMessages, Serving.replying, sends, Channel.sent_map]
      · exact List.forall_mem_append.mpr ⟨faultless, List.forall_mem_singleton.mpr rfl⟩

end Runs

/-! ## The client's books -/

/-- The length of messages on the wire, their length prefixes aside. -/
def wireBytes (frames : List Frame) : Nat := (frames.map Frame.length).sum

/-- The messages but the close requests. -/
def unclosed (frames : List Frame) : List Frame :=
  frames.filter (fun frame => frame.message.messageType ≠ .connectionClose)

/-- The bytes that an effect records as sent. -/
def sentAmount : Effect → Option UInt64
  | .recordBytesSent _ bytes => some bytes
  | _ => none

/-- The bytes that the effects record as sent, one message after the other. -/
def sentAmounts (effects : List Effect) : List UInt64 := effects.filterMap sentAmount

/-- A message is recorded with its length on the wire, unless it is too long for
its receiver or requests an upload. -/
def Metered (amount : UInt64) (frame : Frame) : Prop :=
  frame.length ≤ messageLimit → frame.message.messageType ≠ .fileUploadRequest →
    amount = UInt64.ofNat frame.length

/-- What the client has recorded of the messages that it sent and received. -/
structure Booked (call : TcpCall) (side : ClientSide) : Prop where
  unregistered : Effect.registrations side.effects = []
  traffic : (side.effects.map (Effect.traffic call.connectionId)).sum =
    { packetsReceived := UInt64.ofNat side.received.length
      bytesReceived := UInt64.ofNat (wireBytes side.received)
      packetsSent := UInt64.ofNat (unclosed side.sent).length
      bytesSent := (sentAmounts side.effects).sum }
  amounts : List.Forall₂ Metered (sentAmounts side.effects) (unclosed side.sent)

section Books

variable {encodedLength : Message → Nat → Nat} {sessionId id : Uuid} {call : TcpCall}
  {activity : UserActivity} {side next : ClientSide} {stopped : Bool} {exchange : Exchange}
  {effects : List Effect}

@[simp] theorem sentAmounts_append (earlier later : List Effect) :
    sentAmounts (earlier ++ later) = sentAmounts earlier ++ sentAmounts later :=
  List.filterMap_append

@[simp] theorem sentAmounts_recorded (amount : UInt64) :
    sentAmounts [.recordPacketSent id, .recordBytesSent id amount] = [amount] := rfl

@[simp] theorem sentAmounts_closing (server : SocketAddr) :
    sentAmounts [.markConnectionEnd server, .endConnection id] = [] := rfl

/-- A message that is sent in the loop is recorded once, and if it is no upload
request with its length. -/
theorem afterSend_effects {length : UInt32} {after : Exchange}
    (goesOn : afterSend id activity length exchange = some (effects, after)) :
    ∃ amount, effects = [.recordPacketSent id, .recordBytesSent id amount] ∧
      (exchange = .sendUploadRequest ∨ amount = length.toUInt64) := by
  cases exchange with
  | sendUploadRequest =>
      obtain ⟨rfl, _⟩ := Prod.mk.inj (Option.some.inj goesOn)
      exact ⟨8, rfl, Or.inl rfl⟩
  | sendHandshake | sendRequest _ | sendDownloadRequest | sendChunk _ _ _ =>
      obtain ⟨rfl, _⟩ := Prod.mk.inj (Option.some.inj goesOn)
      exact ⟨_, rfl, Or.inr rfl⟩
  | _ => simp [afterSend] at goesOn

/-- A response is recorded once, with its length. -/
theorem afterReceive_effects {length payload latency draw : Nat} {after : Option Exchange}
    (goesOn : afterReceive id activity stopped length payload latency draw exchange =
      some (effects, after)) :
    (effects.map (Effect.traffic id)).sum =
        { packetsReceived := 1, bytesReceived := UInt64.ofNat length } ∧
      sentAmounts effects = [] := by
  have one (other : UInt64) : ({ packetsReceived := 1 } : Traffic) + { bytesReceived := other } =
      { packetsReceived := 1, bytesReceived := other } := by
    simp [Traffic.add_def, Traffic.add]
  cases exchange with
  | receiveChunk bytesReceived chunkCount =>
      obtain ⟨rfl, _⟩ := Prod.mk.inj (Option.some.inj goesOn)
      split <;> simp [Effect.traffic, sentAmounts, sentAmount, one]
  | receiveHandshake | receiveResponse _ | receiveUploadAck | receiveChunkAck _ _ _ =>
      obtain ⟨rfl, _⟩ := Prod.mk.inj (Option.some.inj goesOn)
      simp [Effect.traffic, sentAmounts, sentAmount, one]
  | _ => simp [afterReceive] at goesOn

/-- The type of the message that a wait sends. -/
def spokenType : Exchange → MessageType
  | .sendHandshake => .tlsHandshake
  | .sendRequest _ => .httpRequest
  | .sendDownloadRequest => .fileDownloadRequest
  | .sendUploadRequest => .fileUploadRequest
  | .sendChunk _ _ _ => .fileUploadChunk
  | _ => .connectionClose

theorem messageType_of_spoken {requestNum draw : Nat} {message : Message}
    (sends : spoken sessionId activity requestNum draw exchange = some message) :
    message.messageType = spokenType exchange := by
  cases exchange <;> simp only [spoken, outgoing, Option.some.injEq, reduceCtorEq] at sends <;>
    subst sends <;> rfl

theorem booked_start (wait : Exchange) : Booked call { wait := some wait } :=
  ⟨rfl, rfl, .nil⟩

theorem toUInt64_ofNat {length : Nat} (fits : length ≤ messageLimit) :
    (UInt32.ofNat length).toUInt64 = UInt64.ofNat length := by
  have small : length < 2 ^ 32 := fits.trans_lt (by decide)
  refine UInt64.toNat_inj.mp ?_
  rw [UInt32.toNat_toUInt64, UInt32.toNat_ofNat_of_lt' small,
    UInt64.toNat_ofNat_of_lt' (small.trans (by decide))]

/-- The client's books stay in order. -/
theorem booked_move (booked : Booked call side)
    (move : ClientMove encodedLength sessionId call side stopped next) : Booked call next := by
  cases move with
  | @spoke exchange after message effects draw stamp waits sends goesOn =>
      have quiet := Effect.registrations_of_neutral (neutral_afterSend goesOn)
      obtain ⟨amount, rfl, metered⟩ := afterSend_effects goesOn
      have kind := messageType_of_spoken sends
      have opened : message.messageType ≠ .connectionClose := by
        rw [kind]
        cases exchange <;> simp [spokenType, afterSend] at goesOn ⊢
      have kept : unclosed (side.sent ++ [⟨message, encodedLength message stamp⟩]) =
          unclosed side.sent ++ [⟨message, encodedLength message stamp⟩] := by
        simp [unclosed, opened]
      constructor
      · rw [Effect.registrations_append, booked.unregistered, quiet, List.append_nil]
      · rw [kept]
        simp [booked.traffic, Effect.traffic, Traffic.add_def, Traffic.add]
      · rw [kept, sentAmounts_append]
        refine List.rel_append booked.amounts (.cons (fun fits other => ?_) .nil)
        rcases metered with rfl | wire
        · exact absurd kind other
        · rw [wire, toUInt64_ofNat fits]
  | closed waits =>
      have kept (length : Nat) : unclosed (side.sent ++ [⟨closeMessage sessionId, length⟩]) =
          unclosed side.sent := by
        simp [unclosed, closeMessage]
      constructor
      · rw [Effect.registrations_append, booked.unregistered]
        rfl
      · rw [kept]
        simp [booked.traffic, Effect.traffic]
      · rw [kept, sentAmounts_append]
        simpa using booked.amounts
  | heard waits goesOn =>
      have quiet := Effect.registrations_of_neutral (neutral_afterReceive goesOn)
      obtain ⟨recorded, silent⟩ := afterReceive_effects goesOn
      constructor
      · rw [Effect.registrations_append, booked.unregistered, quiet, List.append_nil]
      · rw [List.map_append, List.sum_append, booked.traffic, recorded, sentAmounts_append, silent]
        simp [Traffic.add_def, Traffic.add, wireBytes, UInt64.ofNat_add]
      · rw [sentAmounts_append, silent, List.append_nil]
        exact booked.amounts
  | paused waits => exact ⟨booked.unregistered, booked.traffic, booked.amounts⟩

/-- The record that the client has started for its connection holds what its
effects record. -/
theorem traffic_of_booked (booked : Booked call side) (now : Nat) (shared : SharedState) :
    (Effect.applyAll now shared
      (.startConnection call.connectionId .tcp call.activity :: side.effects)).metrics.traffic
        call.connectionId = some (side.effects.map (Effect.traffic call.connectionId)).sum := by
  show (Effect.applyAll now (Effect.apply now shared
    (.startConnection call.connectionId .tcp call.activity)) side.effects).metrics.traffic _ = _
  rw [Effect.traffic_applyAll _ _ _ (by simp [booked.unregistered]), Effect.apply,
    SharedState.onMetrics, MetricsCollector.startConnectionWithActivity,
    MetricsCollector.traffic_insert, if_pos rfl, Option.map_some]
  exact congrArg some (zero_add _)

end Books

end Npt.System
