import Npt.Client.TcpClient
import Npt.Core.Channel
import Npt.Core.TransitionSystem
import Npt.Server.TcpServer

/-!
Contract: a transfer as the client and the server carry it out together.

A session is the client's side of one stream, the server's side, and a reliable
first-in first-out channel in each direction. There is no transport fault, no
timeout and no stop request. The serialiser is `encodedLength`: it gives the
length of a message with its id and timestamp, and a message is decoded as it
was encoded. Receivers look at the length before anything else.

Owns: the messages of a transfer, the session machine, and what a step of it
does to a session whose server has recorded no error.

Does not own: how a connection comes about, web pages, or a message of 4 GiB
and more, whose length prefix would wrap.
-/

namespace Npt.System

open Npt.Core
open Npt.Shared
open Npt.Client
open Npt.Server.TcpServer (Serving Stage Continuation)

/-! ## Messages -/

/-- The message of `perform_file_download`. -/
def downloadRequest (sessionId : Uuid) (fileSize : UInt64) : Message where
  sessionId := sessionId
  messageType := .fileDownloadRequest
  payload := Message.sizeBytes fileSize

/-- The first message of `perform_file_upload`. -/
def uploadRequest (sessionId : Uuid) (fileSize : UInt64) : Message where
  sessionId := sessionId
  messageType := .fileUploadRequest
  payload := Message.sizeBytes fileSize

/-- The message of `send_chunk_streaming`. -/
def uploadChunk (sessionId : Uuid) (sequence : UInt64) (size : Nat) : Message where
  sessionId := sessionId
  messageType := .fileUploadChunk
  payload := Message.zeros size
  sequence := sequence

def closeMessage (sessionId : Uuid) : Message where
  sessionId := sessionId
  messageType := .connectionClose
  payload := []

/-- What a wait in `send_message` of a transfer sends. -/
def outgoing (sessionId : Uuid) (activity : UserActivity) : Exchange → Option Message
  | .sendDownloadRequest => some (downloadRequest sessionId (fileSize activity))
  | .sendUploadRequest => some (uploadRequest sessionId (fileSize activity))
  | .sendChunk _ sequence chunkSize => some (uploadChunk sessionId sequence chunkSize.toNat)
  | .sendClose => some (closeMessage sessionId)
  | .sendHandshake | .receiveHandshake | .sendRequest _ | .receiveResponse _ | .pause _
  | .receiveChunk _ _ | .receiveUploadAck | .receiveChunkAck _ _ _ => none

/-- A message on its way, with the length in front of it. -/
structure Frame where
  message : Message
  length : Nat
deriving DecidableEq, Repr

/-! ## The session machine -/

structure Session where
  client : TcpOutcome
  /-- What the client has recorded. -/
  effects : List Effect := []
  server : Serving
  upstream : Channel Frame := {}
  downstream : Channel Frame := {}

/-- Who is next to send or to receive. -/
inductive Turn where
  | clientSends
  | clientReceives
  | serverReceives
  | serverSends
deriving DecidableEq, Repr

structure SessionLabel where
  turn : Turn
  /-- Of the message that is sent: its id and timestamp. -/
  stamp : Nat
  draw : Nat
  latency : Nat
  now : Nat
deriving DecidableEq, Repr

namespace Session

variable (encodedLength : Message → Nat → Nat) (sessionId : Uuid)

/-- The client's wait on the stream. -/
def clientWait (session : Session) : Option (TcpCall × SocketAddr × Exchange) :=
  match session.client with
  | .running call =>
      match call.stage with
      | .streaming server exchange => some (call, server, exchange)
      | _ => none
  | _ => none

/-- What ends the client's wait for a frame. -/
def clientArrival (frame : Frame) (latency draw : Nat) : TcpLabel :=
  if frame.length ≤ messageLimit then
    .received frame.length frame.message.payload.length latency draw
  else .oversized frame.length

/-- What ends the server's wait for a frame. -/
def serverArrival (frame : Frame) (draw latency now : Nat) : Npt.Server.TcpServer.Label :=
  if frame.length ≤ Npt.Server.TcpServer.messageLimit then .received frame.message draw latency now
  else .receiveFailed s!"Message too large: {frame.length} bytes" now

def step (session : Session) (label : SessionLabel) : Option Session :=
  match label.turn with
  | .clientSends => do
      let (call, server, exchange) ← session.clientWait
      let message ← outgoing sessionId call.activity exchange
      let length := encodedLength message label.stamp
      let next ← streamStep false call server exchange (.sent (UInt32.ofNat length))
      some { session with
        client := next.2, effects := session.effects ++ next.1
        upstream := session.upstream.send ⟨message, length⟩ }
  | .clientReceives => do
      let (call, server, exchange) ← session.clientWait
      let (frame, rest) ← session.downstream.receive?
      let next ← streamStep false call server exchange
        (clientArrival frame label.latency label.draw)
      some { session with
        client := next.2, effects := session.effects ++ next.1, downstream := rest }
  | .serverReceives => do
      let (frame, rest) ← session.upstream.receive?
      let next ← session.server.step (serverArrival frame label.draw label.latency label.now)
      some { session with server := next, upstream := rest }
  | .serverSends =>
      match session.server.stage with
      | .sending reply _ _ => do
          let next ← session.server.step (.sent label.draw label.latency)
          some { session with
            server := next
            downstream := session.downstream.send ⟨reply, encodedLength reply label.stamp⟩ }
      | _ => none

/-- A session right after the server accepted the client's connection. -/
def begin (call : TcpCall) (server : SocketAddr) (connectionId : Uuid) (metrics : MetricsCollector)
    (now : Nat) : Session where
  client := .running { call with stage := .streaming server (firstExchange call.activity) }
  server := Serving.accept connectionId metrics now

/-- Both sides have left their functions. -/
def Over (session : Session) : Prop :=
  session.client = .returned ∧ session.server.stage = .returned

/-- The client waits for a message. -/
def ClientListens (session : Session) : Prop :=
  ∃ call server exchange, session.clientWait = some (call, server, exchange) ∧
    exchange.receiving = true

/-- The server waits for a message, so it has not handled `ConnectionClose`. -/
def ServerListens (session : Session) : Prop :=
  session.server.stage = .receiving ∨
    ∃ expectedSize bytesReceived, session.server.stage = .receivingChunk expectedSize bytesReceived

/-- Both sides wait for a message, and none is in flight. -/
def Deadlocked (session : Session) : Prop :=
  session.ClientListens ∧ session.ServerListens ∧ session.upstream.inFlight = [] ∧
    session.downstream.inFlight = []

/-- The messages the client has sent. -/
def upMessages (session : Session) : Channel Message := session.upstream.map Frame.message

/-- The messages the server has sent. -/
def downMessages (session : Session) : Channel Message := session.downstream.map Frame.message

end Session

def sessionMachine (encodedLength : Message → Nat → Nat) (sessionId : Uuid) :
    Machine Session SessionLabel where
  step := Session.step encodedLength sessionId

/-- The serialiser keeps the message within the limit of its receiver. -/
def Fitting (encodedLength : Message → Nat → Nat) (message : Message) : Prop :=
  ∀ stamp, encodedLength message stamp ≤ messageLimit

/-- A payload of at most 64 KiB fits, whatever its bytes. -/
theorem fitting_of_short {encodedLength : Message → Nat → Nat}
    (compact : ∀ message stamp, encodedLength message stamp ≤ 2 * message.payload.length + 1024)
    {message : Message} (short : message.payload.length ≤ 65536) :
    Fitting encodedLength message := by
  intro stamp
  have bound := compact message stamp
  simp only [messageLimit]
  omega

/-! ## What a step can do -/

/-- The client in a wait on its stream, or returned. -/
def clientAt (call : TcpCall) (server : SocketAddr) : Option Exchange → TcpOutcome
  | some exchange => .running { call with stage := .streaming server exchange }
  | none => .returned

/-- Where the two sides stand and what they have told each other, in a session
without an error so far. -/
structure Facing (call : TcpCall) (server : SocketAddr) (session : Session)
    (wait : Option Exchange) (stage : Stage) (up down : Channel Message) : Prop where
  client : session.client = clientAt call server wait
  stage : session.server.stage = stage
  up : session.upMessages = up
  down : session.downMessages = down
  upFits : ∀ frame ∈ session.upstream.inFlight, frame.length ≤ messageLimit
  downFits : ∀ frame ∈ session.downstream.inFlight, frame.length ≤ messageLimit
  clean : session.server.Clean

section Steps

variable {encodedLength : Message → Nat → Nat} {sessionId : Uuid} {call : TcpCall}
  {server : SocketAddr} {session next : Session} {wait : Option Exchange} {stage : Stage}
  {up down : Channel Message} {label : SessionLabel}

/-- The steps of a session. -/
inductive Moved (encodedLength : Message → Nat → Nat) (sessionId : Uuid) (call : TcpCall)
    (server : SocketAddr) (serving : Serving) (wait : Option Exchange) (stage : Stage)
    (up down : Channel Message) (next : Session) : Prop where
  | clientSent {exchange after : Exchange} {message : Message} {effects : List Effect}
      {length : UInt32} (waits : wait = some exchange)
      (sends : outgoing sessionId call.activity exchange = some message)
      (goesOn : afterSend call.connectionId call.activity length exchange = some (effects, after))
      (facing : Fitting encodedLength message →
        Facing call server next (some after) stage (up.send message) down)
  | clientClosed (waits : wait = some .sendClose)
      (facing : Fitting encodedLength (closeMessage sessionId) →
        Facing call server next none stage (up.send (closeMessage sessionId)) down)
  | clientReceived {exchange : Exchange} {message : Message} {rest : Channel Message}
      {effects : List Effect} {after : Option Exchange} {length latency draw : Nat}
      (waits : wait = some exchange) (arrived : down.receive? = some (message, rest))
      (goesOn : afterReceive call.connectionId call.activity false length message.payload.length
        latency draw exchange = some (effects, after))
      (facing : after.isSome = true → Facing call server next after stage up rest)
  | serverReceived {message : Message} {rest : Channel Message} {after : Serving}
      {draw latency now : Nat} (arrived : up.receive? = some (message, rest))
      (handles : serving.step (.received message draw latency now) = some after)
      (facing : Facing call server next wait after.stage rest down)
  | serverSent {reply : Message} {counted : UInt64} {goes : Continuation} {after : Serving}
      {draw latency : Nat} (sends : stage = .sending reply counted goes)
      (handles : serving.step (.sent draw latency) = some after)
      (facing : Fitting encodedLength reply →
        Facing call server next wait after.stage up (down.send reply))

theorem afterConnection_stage (transfer : afterConnection call = .returned) (stage : TcpStage) :
    afterConnection { call with stage := stage } = .returned := by
  obtain ⟨activity, page, connectionId, earlier⟩ := call
  cases activity with
  | webBrowsing pagesToVisit requestsPerPage => simp [afterConnection] at transfer
  | _ => rfl

/-- What a client has to send, it can send. -/
theorem isSome_streamStep_sent {exchange : Exchange} {message : Message}
    (sends : outgoing sessionId call.activity exchange = some message) (server : SocketAddr)
    (length : UInt32) : (streamStep false call server exchange (.sent length)).isSome = true := by
  cases exchange <;> simp_all [outgoing, streamStep, afterSend]

/-- A client that waits for a message takes whatever frame fits. -/
theorem isSome_streamStep_arrival (call : TcpCall) (server : SocketAddr) {exchange : Exchange}
    {frame : Frame} (receiving : exchange.receiving = true) (fits : frame.length ≤ messageLimit)
    (latency draw : Nat) :
    (streamStep false call server exchange (Session.clientArrival frame latency draw)).isSome =
      true := by
  cases exchange <;>
    simp_all [Session.clientArrival, streamStep, afterReceive, Exchange.receiving]

/-- A server that waits for a message takes whatever frame arrives. -/
theorem Session.ServerListens.isSome_arrival (listens : session.ServerListens) (frame : Frame)
    (draw latency now : Nat) :
    (session.server.step (Session.serverArrival frame draw latency now)).isSome = true := by
  unfold Session.serverArrival
  split
  · exact (Serving.isSome_of_listening listens frame.message "" draw latency now).1
  · exact (Serving.isSome_of_listening listens frame.message _ draw latency now).2

namespace Facing

theorem clientWait (facing : Facing call server session wait stage up down) :
    session.clientWait = wait.map (fun exchange =>
      ({ call with stage := .streaming server exchange }, server, exchange)) := by
  rw [Session.clientWait, facing.client]
  cases wait <;> rfl

theorem waits_of_clientWait (facing : Facing call server session wait stage up down)
    {exchange : Exchange} {waiting : TcpCall} {peer : SocketAddr}
    (waits : session.clientWait = some (waiting, peer, exchange)) :
    wait = some exchange ∧ waiting = { call with stage := .streaming server exchange } ∧
      peer = server := by
  rw [facing.clientWait] at waits
  obtain ⟨here, same, equal⟩ := Option.map_eq_some_iff.mp waits
  obtain ⟨rfl, rest⟩ := Prod.mk.inj equal
  obtain ⟨rfl, rfl⟩ := Prod.mk.inj rest
  exact ⟨same, rfl, rfl⟩

/-- A frame that is sent fits if its message does. -/
theorem fits_send {channel : Channel Frame} {message : Message}
    (earlier : ∀ frame ∈ channel.inFlight, frame.length ≤ messageLimit)
    (fitting : Fitting encodedLength message) (stamp : Nat) :
    ∀ frame ∈ (channel.send ⟨message, encodedLength message stamp⟩).inFlight,
      frame.length ≤ messageLimit := by
  intro frame member
  rcases List.mem_append.mp member with before | new
  · exact earlier frame before
  · rw [List.mem_singleton.mp new]
    exact fitting stamp

theorem fits_receive {channel rest : Channel Frame} {frame : Frame}
    (earlier : ∀ frame ∈ channel.inFlight, frame.length ≤ messageLimit)
    (arrived : channel.receive? = some (frame, rest)) :
    frame.length ≤ messageLimit ∧ ∀ frame ∈ rest.inFlight, frame.length ≤ messageLimit := by
  rw [Channel.inFlight_of_receive? arrived] at earlier
  exact ⟨earlier frame (by simp), fun other member => earlier other (by simp [member])⟩

/-- What the client sends, and where that leaves it. -/
theorem clientSends_cases (transfer : afterConnection call = .returned)
    (facing : Facing call server session wait stage up down) (turn : label.turn = .clientSends)
    (taken : session.step encodedLength sessionId label = some next) :
    ∃ exchange message, wait = some exchange ∧
      outgoing sessionId call.activity exchange = some message ∧
      (exchange = .sendClose ∧ (Fitting encodedLength message →
          Facing call server next none stage (up.send message) down) ∨
        ∃ effects after length,
          afterSend call.connectionId call.activity length exchange = some (effects, after) ∧
            (Fitting encodedLength message →
              Facing call server next (some after) stage (up.send message) down)) := by
  simp only [Session.step, turn] at taken
  obtain ⟨⟨waiting, peer, exchange⟩, waits, taken⟩ := Option.bind_eq_some_iff.mp taken
  obtain ⟨message, sends, taken⟩ := Option.bind_eq_some_iff.mp taken
  obtain ⟨⟨effects, outcome⟩, goesOn, taken⟩ := Option.bind_eq_some_iff.mp taken
  obtain rfl := Option.some.inj taken
  obtain ⟨rfl, rfl, rfl⟩ := facing.waits_of_clientWait waits
  refine ⟨exchange, message, rfl, sends, ?_⟩
  have sentUp : (session.upstream.send ⟨message, encodedLength message label.stamp⟩).map
      Frame.message = up.send message := by
    rw [Channel.map_send, ← facing.up, Session.upMessages]
  simp only [streamStep] at goesOn
  split at goesOn
  · rename_i closing
    obtain ⟨rfl, rfl⟩ := Prod.mk.inj (Option.some.inj goesOn)
    exact Or.inl ⟨closing, fun fitting => ⟨afterConnection_stage transfer _, facing.stage, sentUp,
      facing.down, fits_send facing.upFits fitting _, facing.downFits, facing.clean⟩⟩
  · obtain ⟨onward, sent, same⟩ := Option.map_eq_some_iff.mp goesOn
    obtain ⟨rfl, rfl⟩ := Prod.mk.inj same
    exact Or.inr ⟨_, _, _, sent, fun fitting => ⟨rfl, facing.stage, sentUp, facing.down,
      fits_send facing.upFits fitting _, facing.downFits, facing.clean⟩⟩

/-- What the client makes of a message, with its stop flag set or not. -/
theorem clientReceives_cases {stopped : Bool} {waiting : TcpCall} {peer : SocketAddr}
    {exchange : Exchange} {frame : Frame} {rest : Channel Frame} {latency draw : Nat}
    {effects : List Effect} {outcome : TcpOutcome}
    (facing : Facing call server session wait stage up down)
    (waits : session.clientWait = some (waiting, peer, exchange))
    (arrived : session.downstream.receive? = some (frame, rest))
    (goesOn : streamStep stopped waiting peer exchange (Session.clientArrival frame latency draw) =
      some (effects, outcome)) :
    wait = some exchange ∧ down.receive? = some (frame.message, rest.map Frame.message) ∧
      ∃ after, afterReceive call.connectionId call.activity stopped frame.length
          frame.message.payload.length latency draw exchange = some (effects, after) ∧
        (after = none → outcome = .panicked server call.connectionId) ∧
        (after.isSome = true → Facing call server { session with
            client := outcome, effects := session.effects ++ effects, downstream := rest }
          after stage up (rest.map Frame.message)) := by
  obtain ⟨rfl, rfl, rfl⟩ := facing.waits_of_clientWait waits
  obtain ⟨fits, restFits⟩ := fits_receive facing.downFits arrived
  have shown := Channel.receive?_map session.downstream frame Frame.message arrived
  rw [← Session.downMessages, facing.down] at shown
  rw [Session.clientArrival, if_pos fits, streamStep, if_pos fits] at goesOn
  obtain ⟨⟨effects, after⟩, received, same⟩ := Option.map_eq_some_iff.mp goesOn
  obtain ⟨rfl, rfl⟩ := Prod.mk.inj same
  refine ⟨rfl, shown, after, received, ?_, fun isSome => ?_⟩
  · rintro rfl
    rfl
  · obtain ⟨onward, rfl⟩ := Option.isSome_iff_exists.mp isSome
    exact ⟨rfl, facing.stage, facing.up, rfl, facing.upFits, restFits, facing.clean⟩

/-- What the server makes of a message. -/
theorem serverReceives_cases (facing : Facing call server session wait stage up down)
    (turn : label.turn = .serverReceives)
    (taken : session.step encodedLength sessionId label = some next) :
    ∃ message rest after, up.receive? = some (message, rest) ∧
      session.server.step (.received message label.draw label.latency label.now) = some after ∧
      Facing call server next wait after.stage rest down := by
  simp only [Session.step, turn] at taken
  obtain ⟨⟨frame, rest⟩, arrived, taken⟩ := Option.bind_eq_some_iff.mp taken
  obtain ⟨serving, handles, taken⟩ := Option.bind_eq_some_iff.mp taken
  obtain rfl := Option.some.inj taken
  obtain ⟨fits, restFits⟩ := fits_receive facing.upFits arrived
  have shown := Channel.receive?_map session.upstream frame Frame.message arrived
  rw [← Session.upMessages, facing.up] at shown
  have within : frame.length ≤ Npt.Server.TcpServer.messageLimit := fits
  simp only [Session.serverArrival, within, if_true] at handles
  have clean := Serving.clean_received _ _ _ _ facing.clean.faultless handles
  exact ⟨_, _, serving, shown, handles, facing.client, rfl, rfl, facing.down, restFits,
    facing.downFits, clean⟩

/-- What the server sends, and where that leaves it. -/
theorem serverSends_cases (facing : Facing call server session wait stage up down)
    (turn : label.turn = .serverSends)
    (taken : session.step encodedLength sessionId label = some next) :
    ∃ reply counted goes after, stage = .sending reply counted goes ∧
      session.server.step (.sent label.draw label.latency) = some after ∧
      (Fitting encodedLength reply →
        Facing call server next wait after.stage up (down.send reply)) := by
  simp only [Session.step, turn] at taken
  split at taken
  · rename_i reply counted goes sending
    obtain ⟨serving, handles, taken⟩ := Option.bind_eq_some_iff.mp taken
    obtain rfl := Option.some.inj taken
    have sentDown : (session.downstream.send ⟨reply, encodedLength reply label.stamp⟩).map
        Frame.message = down.send reply := by
      rw [Channel.map_send, ← facing.down, Session.downMessages]
    have clean := Serving.clean_sent _ _ facing.clean.faultless handles
    exact ⟨reply, counted, goes, serving, facing.stage ▸ sending, handles, fun fitting =>
      ⟨facing.client, rfl, facing.up, sentDown, facing.upFits,
        fits_send facing.downFits fitting _, clean⟩⟩
  · simp at taken

theorem moved_clientSends (transfer : afterConnection call = .returned)
    (facing : Facing call server session wait stage up down) (turn : label.turn = .clientSends)
    (taken : session.step encodedLength sessionId label = some next) :
    Moved encodedLength sessionId call server session.server wait stage up down next := by
  obtain ⟨exchange, message, rfl, sends, closing | onward⟩ :=
    facing.clientSends_cases transfer turn taken
  · obtain ⟨rfl, moved⟩ := closing
    obtain rfl := Option.some.inj sends
    exact .clientClosed rfl moved
  · obtain ⟨effects, after, length, goesOn, moved⟩ := onward
    exact .clientSent rfl sends goesOn moved

theorem moved_clientReceives (facing : Facing call server session wait stage up down)
    (turn : label.turn = .clientReceives)
    (taken : session.step encodedLength sessionId label = some next) :
    Moved encodedLength sessionId call server session.server wait stage up down next := by
  simp only [Session.step, turn] at taken
  obtain ⟨⟨waiting, peer, exchange⟩, waits, taken⟩ := Option.bind_eq_some_iff.mp taken
  obtain ⟨⟨frame, rest⟩, arrived, taken⟩ := Option.bind_eq_some_iff.mp taken
  obtain ⟨⟨effects, outcome⟩, goesOn, taken⟩ := Option.bind_eq_some_iff.mp taken
  obtain rfl := Option.some.inj taken
  obtain ⟨rfl, shown, after, received, _, moved⟩ := facing.clientReceives_cases waits arrived goesOn
  exact .clientReceived rfl shown received moved

theorem moved_serverReceives (facing : Facing call server session wait stage up down)
    (turn : label.turn = .serverReceives)
    (taken : session.step encodedLength sessionId label = some next) :
    Moved encodedLength sessionId call server session.server wait stage up down next := by
  obtain ⟨message, rest, after, arrived, handles, moved⟩ :=
    facing.serverReceives_cases turn taken
  exact .serverReceived arrived handles moved

theorem moved_serverSends (facing : Facing call server session wait stage up down)
    (turn : label.turn = .serverSends)
    (taken : session.step encodedLength sessionId label = some next) :
    Moved encodedLength sessionId call server session.server wait stage up down next := by
  obtain ⟨reply, counted, goes, after, sends, handles, moved⟩ :=
    facing.serverSends_cases turn taken
  exact .serverSent sends handles moved

theorem moved (transfer : afterConnection call = .returned)
    (facing : Facing call server session wait stage up down)
    (taken : session.step encodedLength sessionId label = some next) :
    Moved encodedLength sessionId call server session.server wait stage up down next := by
  cases turn : label.turn with
  | clientSends => exact facing.moved_clientSends transfer turn taken
  | clientReceives => exact facing.moved_clientReceives turn taken
  | serverReceives => exact facing.moved_serverReceives turn taken
  | serverSends => exact facing.moved_serverSends turn taken

/-! ### Who can move -/

theorem clientSends_isSome {exchange : Exchange} {message : Message}
    (facing : Facing call server session (some exchange) stage up down)
    (sends : outgoing sessionId call.activity exchange = some message)
    (turn : label.turn = .clientSends) :
    (session.step encodedLength sessionId label).isSome = true := by
  obtain ⟨next, goesOn⟩ := Option.isSome_iff_exists.mp
    (@isSome_streamStep_sent _ { call with stage := .streaming server exchange } _ _ sends server
      (UInt32.ofNat (encodedLength message label.stamp)))
  rw [Session.step, turn]
  simp [facing.clientWait, sends, goesOn]

theorem clientReceives_isSome {exchange : Exchange} {message : Message} {rest : Channel Message}
    (facing : Facing call server session (some exchange) stage up down)
    (receiving : exchange.receiving = true) (arrived : down.receive? = some (message, rest))
    (turn : label.turn = .clientReceives) :
    (session.step encodedLength sessionId label).isSome = true := by
  have present : session.downstream.receive?.isSome = true := by
    rw [← Channel.isSome_receive?_map _ Frame.message, ← Session.downMessages, facing.down, arrived]
    rfl
  obtain ⟨⟨frame, rest⟩, here⟩ := Option.isSome_iff_exists.mp present
  obtain ⟨fits, _⟩ := fits_receive facing.downFits here
  obtain ⟨next, goesOn⟩ := Option.isSome_iff_exists.mp
    (isSome_streamStep_arrival { call with stage := .streaming server exchange } server receiving
      fits label.latency label.draw)
  rw [Session.step, turn]
  simp [facing.clientWait, here, goesOn]

theorem serverReceives_isSome {message : Message} {rest : Channel Message}
    (facing : Facing call server session wait stage up down)
    (listens : session.ServerListens) (arrived : up.receive? = some (message, rest))
    (turn : label.turn = .serverReceives) :
    (session.step encodedLength sessionId label).isSome = true := by
  have present : session.upstream.receive?.isSome = true := by
    rw [← Channel.isSome_receive?_map _ Frame.message, ← Session.upMessages, facing.up, arrived]
    rfl
  obtain ⟨⟨frame, rest⟩, here⟩ := Option.isSome_iff_exists.mp present
  obtain ⟨serving, handles⟩ := Option.isSome_iff_exists.mp
    (listens.isSome_arrival frame label.draw label.latency label.now)
  rw [Session.step, turn]
  simp [here, handles]

theorem serverSends_isSome {reply : Message} {counted : UInt64} {goes : Continuation}
    (facing : Facing call server session wait (.sending reply counted goes) up down)
    (turn : label.turn = .serverSends) :
    (session.step encodedLength sessionId label).isSome = true := by
  obtain ⟨serving, handles⟩ := Option.isSome_iff_exists.mp
    (Serving.isSome_of_sending facing.stage label.draw label.latency)
  rw [Session.step, turn]
  simp [facing.stage, handles]

end Facing

/-- In a deadlock no side can move. -/
theorem Session.step_of_deadlocked (deadlocked : session.Deadlocked) :
    session.step encodedLength sessionId label = none := by
  obtain ⟨⟨waiting, peer, exchange, waits, receiving⟩, listens, upEmpty, downEmpty⟩ := deadlocked
  cases turn : label.turn with
  | clientSends =>
      simp only [Session.step, turn, waits]
      cases exchange <;> simp_all [outgoing, Exchange.receiving]
  | clientReceives => simp [Session.step, turn, waits, Channel.receive?, downEmpty]
  | serverReceives => simp [Session.step, turn, Channel.receive?, upEmpty]
  | serverSends =>
      rcases listens with stage | ⟨expectedSize, bytesReceived, stage⟩
      · simp [Session.step, turn, stage]
      · simp [Session.step, turn, stage]

end Steps

/-! ## Sessions that complete -/

section Completion

variable (encodedLength : Message → Nat → Nat) (sessionId : Uuid)

/-- Some side can move, whatever is drawn. -/
def Session.CanMove (session : Session) : Prop :=
  ∃ turn, ∀ label : SessionLabel, label.turn = turn →
    (session.step encodedLength sessionId label).isSome = true

/-- Every run from `start` ends, none gets stuck or deadlocks before both sides
have left, `always` holds throughout, and `outcome` at the end. -/
structure Completes (start : Session) (always outcome : Session → Prop) : Prop where
  bounded : ∃ bound, ∀ trace last, (sessionMachine encodedLength sessionId).Run start trace last →
    trace.length ≤ bound
  live : ∀ last, (sessionMachine encodedLength sessionId).Reachable start last →
    last.Over ∨ last.CanMove encodedLength sessionId
  undeadlocked : ∀ last, (sessionMachine encodedLength sessionId).Reachable start last →
    ¬ last.Deadlocked
  throughout : ∀ last, (sessionMachine encodedLength sessionId).Reachable start last → always last
  final : ∀ last, (sessionMachine encodedLength sessionId).Reachable start last → last.Over →
    outcome last

variable {encodedLength sessionId}

theorem Session.not_deadlocked {session : Session}
    (live : session.Over ∨ session.CanMove encodedLength sessionId) : ¬ session.Deadlocked := by
  intro deadlocked
  rcases live with ⟨returned, _⟩ | ⟨turn, moves⟩
  · obtain ⟨⟨_, _, _, waits, _⟩, _⟩ := deadlocked
    simp [clientWait, returned] at waits
  · have stuck := moves ⟨turn, 0, 0, 0, 0⟩ rfl
    simp [step_of_deadlocked deadlocked] at stuck

/-- Phases with a rank that every step lowers. -/
theorem Completes.of_phases {start : Session} {always outcome : Session → Prop}
    (phase : Session → Nat → Prop) {first : Nat} (initial : phase start first)
    (lowers : ∀ here session label next, phase session here →
      session.step encodedLength sessionId label = some next → ∃ lower < here, phase next lower)
    (live : ∀ session here, phase session here →
      session.Over ∨ session.CanMove encodedLength sessionId)
    (throughout : ∀ session here, phase session here → always session)
    (final : ∀ session here, phase session here → session.Over → outcome session) :
    Completes encodedLength sessionId start always outcome := by
  have ranked : ∀ trace last, (sessionMachine encodedLength sessionId).Run start trace last →
      ∃ final, final + trace.length ≤ first ∧ phase last final := fun trace last run =>
    run.ranked (fun here session => phase session here) initial lowers
  refine ⟨⟨first, fun trace last run => ?_⟩, ?_, ?_, ?_, ?_⟩
  · obtain ⟨final, bound, _⟩ := ranked trace last run
    omega
  · rintro last ⟨trace, run⟩
    obtain ⟨here, _, inPhase⟩ := ranked trace last run
    exact live last here inPhase
  · rintro last ⟨trace, run⟩
    obtain ⟨here, _, inPhase⟩ := ranked trace last run
    exact Session.not_deadlocked (live last here inPhase)
  · rintro last ⟨trace, run⟩
    obtain ⟨here, _, inPhase⟩ := ranked trace last run
    exact throughout last here inPhase
  · rintro last ⟨trace, run⟩ finished
    obtain ⟨here, _, inPhase⟩ := ranked trace last run
    exact final last here inPhase finished

end Completion

end Npt.System
