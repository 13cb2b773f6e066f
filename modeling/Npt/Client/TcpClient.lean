import Npt.Client.Effect

/-!
Contract: the TCP activities (`client/src/tcp_client.rs`).

A web page, a download and an upload connect through `connect_with_failover`
and then exchange messages over one stream. Each wait of the code is a stage;
a label is what ends the wait, with the random draws of the code that then runs
to the next one. Every failure of an exchange leaves the function through `?`.

Owns: the stages, the labels, the exchange, its callers' error records, and the
classification of error texts.

Does not own: the bytes on the wire (a label carries the length the serialiser
produced), sleeping times, or log output.
-/

namespace Npt.Client

open Npt.Core
open Npt.Shared

/-! ## Error texts -/

/-- The classification in `simulate_web_browsing`. -/
def webErrorType (message : String) : ErrorType :=
  let errorString := toLowercase message
  if contains errorString "connection refused" then .connectionFailed
  else if contains errorString "timeout" then .networkTimeout
  else if contains errorString "broken pipe" || contains errorString "reset" then
    .unexpectedDisconnection
  else .other

/-- The classification in `simulate_file_download` and `simulate_file_upload`. -/
def transferErrorType (message : String) : ErrorType :=
  let errorString := toLowercase message
  if contains errorString "connection refused" then .connectionFailed
  else if contains errorString "timeout" then .networkTimeout
  else if contains errorString "broken pipe" || contains errorString "reset" then
    .unexpectedDisconnection
  else if contains errorString "too large" then .messageTooLarge
  else .ioError

/-! ## Stages and labels -/

/-- The waits on an open stream, each with the loop variables alive in it. -/
inductive Exchange where
  | sendHandshake
  | receiveHandshake
  /-- Requests left, the one being made included. -/
  | sendRequest (left : Nat)
  | receiveResponse (left : Nat)
  | pause (left : Nat)
  | sendDownloadRequest
  | receiveChunk (bytesReceived : UInt64) (chunkCount : UInt64)
  | sendUploadRequest
  | receiveUploadAck
  | sendChunk (bytesSent sequence : UInt64) (chunkSize : UInt64)
  | receiveChunkAck (bytesSent sequence : UInt64) (chunkSize : UInt64)
  | sendClose
deriving DecidableEq, Repr

inductive TcpStage where
  /-- Inside `TcpStream::connect` of `connect_with_failover`. -/
  | connecting (attempt : Nat) (server : SocketAddr)
  /-- Inside the back-off of `100 * 2 ^ attempt` milliseconds. -/
  | backoff (attempt : Nat)
  | streaming (server : SocketAddr) (exchange : Exchange)
  /-- The think time after a page. -/
  | thinking
deriving DecidableEq, Repr

/-- Inside `connect_with_failover`. -/
def TcpStage.dialing : TcpStage → Bool
  | .connecting _ _ | .backoff _ => true
  | _ => false

/-- The server of the wait. -/
def TcpStage.server : TcpStage → Option SocketAddr
  | .connecting _ server | .streaming server _ => some server
  | _ => none

structure TcpCall where
  activity : UserActivity
  /-- Of web browsing. -/
  page : Nat := 0
  connectionId : Uuid
  stage : TcpStage
deriving DecidableEq, Repr

inductive TcpLabel where
  /-- The connect succeeds; `local_addr` may still fail. -/
  | connected (localAddrError : Option String)
  /-- The connect fails, with the error in its debug form. -/
  | refused (error : String)
  | backoffOver (draw : Nat)
  /-- `send_message` returns, with the length of the serialised message. -/
  | sent (length : UInt32)
  | sendFailed (error : String)
  /-- `receive_response` returns a message of a length, with its payload's. -/
  | received (length payload : Nat) (latency : Nat) (draw : Nat)
  /-- Its time runs out, the stream fails or ends, or the message is malformed. -/
  | receiveFailed (error : String)
  /-- The announced length is beyond the limit. -/
  | oversized (length : Nat)
  | pauseOver
  /-- The think time is over; the next page has a new connection. -/
  | thinkOver (connectionId : Uuid) (draw : Nat)
deriving DecidableEq, Repr

def TcpLabel.connects : TcpLabel → Bool
  | .connected _ => true
  | _ => false

/-- The exchange on an open stream fails in the step. -/
def TcpLabel.fails : TcpLabel → Bool
  | .sendFailed _ | .receiveFailed _ | .oversized _ => true
  | _ => false

/-- How `simulate_user_activity` goes on after a label. -/
inductive TcpOutcome where
  | running (call : TcpCall)
  | returned
  | panicked (server : SocketAddr) (connectionId : Uuid)
deriving DecidableEq, Repr

/-- `10 * 1024 * 1024`. -/
def messageLimit : Nat := 10 * 1024 * 1024

def maxRetries : Nat := 3

/-! ## The end of a page or a transfer -/

/-- What the caller records when the page or transfer returned an error. -/
def errorRecord (call : TcpCall) (message : String) : Effect :=
  match call.activity with
  | .fileDownload fileSize _ =>
      .recordErrorWithDetail call.connectionId (transferErrorType message) message
        (some s!"File download - size: {fileSize} bytes")
  | .fileUpload fileSize _ =>
      .recordErrorWithDetail call.connectionId (transferErrorType message) message
        (some s!"File upload - size: {fileSize} bytes")
  | _ =>
      .recordErrorWithDetail call.connectionId (webErrorType message) message
        (some s!"Web browsing - page {call.page + 1}")

/-- After the page or transfer: web browsing goes on to its think time. -/
def afterConnection (call : TcpCall) : TcpOutcome :=
  match call.activity with
  | .webBrowsing _ _ => .running { call with stage := .thinking }
  | _ => .returned

/-- The page or transfer returned `Err`. -/
def failed (call : TcpCall) (message : String) : List Effect × TcpOutcome :=
  ([errorRecord call message, .endConnection call.connectionId], afterConnection call)

/-- The page or transfer is done with its server and returned `Ok`. -/
def completed (call : TcpCall) (server : SocketAddr) : List Effect × TcpOutcome :=
  ([.markConnectionEnd server, .endConnection call.connectionId], afterConnection call)

/-! ## Connecting -/

/-- One iteration of `connect_with_failover`, up to its connect. -/
def tryServer (pool : ServerPool) (call : TcpCall) (attempt draw : Nat) :
    List Effect × TcpOutcome :=
  match (pool.getServer draw).1 with
  | some server =>
      ([.getServer draw], .running { call with stage := .connecting attempt server })
  | none => failed call "No healthy servers available"

/-- Register a connection and start connecting. -/
def openConnection (pool : ServerPool) (activity : UserActivity) (page : Nat) (connectionId : Uuid)
    (draw : Nat) : List Effect × TcpOutcome :=
  -- The stage stands until `tryServer` gives the first one.
  let call : TcpCall :=
    { activity := activity, page := page, connectionId := connectionId, stage := .thinking }
  let tried := tryServer pool call 0 draw
  (.startConnection connectionId .tcp activity :: tried.1, tried.2)

/-- The first wait after `connect_with_failover`. -/
def firstExchange : UserActivity → Exchange
  | .fileDownload _ _ => .sendDownloadRequest
  | .fileUpload _ _ => .sendUploadRequest
  | _ => .sendHandshake

/-! ## The exchange -/

/-- Where a page goes with `left` requests to make. -/
def nextRequest (left : Nat) : Exchange := if left = 0 then .sendClose else .sendRequest left

/-- The loop test of a download. -/
def nextDownload (fileSize bytesReceived chunkCount : UInt64) : Exchange :=
  if bytesReceived < fileSize then .receiveChunk bytesReceived chunkCount else .sendClose

/-- The loop test of an upload and the size it draws for the next chunk. -/
def nextUpload (fileSize bytesSent sequence : UInt64) (chunkSize : UInt32 × UInt32) (draw : Nat) :
    Option Exchange :=
  if bytesSent < fileSize then
    (genRange chunkSize draw).map (fun size =>
      .sendChunk bytesSent sequence (min (UInt64.ofNat size) (fileSize - bytesSent)))
  else some .sendClose

def requestsPerPage : UserActivity → UInt32 × UInt32
  | .webBrowsing _ requestsPerPage => requestsPerPage
  | _ => (0, 0)

def fileSize : UserActivity → UInt64
  | .fileDownload fileSize _ | .fileUpload fileSize _ => fileSize
  | _ => 0

def chunkSize : UserActivity → UInt32 × UInt32
  | .fileUpload _ chunkSize => chunkSize
  | _ => (0, 0)

/-- A message was sent: what is recorded, and the next wait. The close message
is not recorded. -/
def afterSend (id : Uuid) (activity : UserActivity) (length : UInt32) :
    Exchange → Option (List Effect × Exchange)
  | .sendHandshake =>
      some ([.recordPacketSent id, .recordBytesSent id length.toUInt64], .receiveHandshake)
  | .sendRequest left =>
      some ([.recordPacketSent id, .recordBytesSent id length.toUInt64], .receiveResponse left)
  | .sendDownloadRequest =>
      some ([.recordPacketSent id, .recordBytesSent id length.toUInt64],
        nextDownload (fileSize activity) 0 0)
  -- The upload request is counted by its payload, eight bytes of file size.
  | .sendUploadRequest => some ([.recordPacketSent id, .recordBytesSent id 8], .receiveUploadAck)
  | .sendChunk bytesSent sequence chunkSize =>
      some ([.recordPacketSent id, .recordBytesSent id length.toUInt64],
        .receiveChunkAck bytesSent sequence chunkSize)
  | .receiveHandshake | .receiveResponse _ | .pause _ | .receiveChunk _ _ | .receiveUploadAck
  | .receiveChunkAck _ _ _ | .sendClose => none

/-- A response arrived: what is recorded, and the next wait, which is none when
drawing from an empty range panics. -/
def afterReceive (id : Uuid) (activity : UserActivity) (stopped : Bool)
    (length payload latency draw : Nat) : Exchange → Option (List Effect × Option Exchange)
  | .receiveHandshake =>
      some ([.recordLatency id latency, .recordPacketReceived id,
          .recordBytesReceived id (UInt64.ofNat length)],
        (genRange (requestsPerPage activity) draw).map nextRequest)
  | .receiveResponse left =>
      some ([.recordLatency id latency, .recordPacketReceived id,
          .recordBytesReceived id (UInt64.ofNat length)],
        some (.pause left))
  | .receiveChunk bytesReceived chunkCount =>
      let bytesReceived := bytesReceived + UInt64.ofNat payload
      let chunkCount := chunkCount + 1
      some ([.recordPacketReceived id, .recordBytesReceived id (UInt64.ofNat length)] ++
          (if chunkCount = 1 then [.recordLatency id latency] else []),
        some (if stopped then .sendClose
          else nextDownload (fileSize activity) bytesReceived chunkCount))
  | .receiveUploadAck =>
      some ([.recordLatency id latency, .recordPacketReceived id,
          .recordBytesReceived id (UInt64.ofNat length)],
        nextUpload (fileSize activity) 0 0 (chunkSize activity) draw)
  | .receiveChunkAck bytesSent sequence size =>
      some ([.recordLatency id latency, .recordPacketReceived id,
          .recordBytesReceived id (UInt64.ofNat length)],
        if stopped then some .sendClose
        else nextUpload (fileSize activity) (bytesSent + size) (sequence + 1) (chunkSize activity)
          draw)
  | .sendHandshake | .sendRequest _ | .pause _ | .sendDownloadRequest | .sendUploadRequest
  | .sendChunk _ _ _ | .sendClose => none

/-- Whether the wait is inside `send_message`. -/
def Exchange.sending : Exchange → Bool
  | .sendHandshake | .sendRequest _ | .sendDownloadRequest | .sendUploadRequest | .sendChunk _ _ _
  | .sendClose => true
  | .receiveHandshake | .receiveResponse _ | .pause _ | .receiveChunk _ _ | .receiveUploadAck
  | .receiveChunkAck _ _ _ => false

/-- Whether the wait is inside `receive_response`. -/
def Exchange.receiving : Exchange → Bool
  | .receiveHandshake | .receiveResponse _ | .receiveChunk _ _ | .receiveUploadAck
  | .receiveChunkAck _ _ _ => true
  | .sendHandshake | .sendRequest _ | .pause _ | .sendDownloadRequest | .sendUploadRequest
  | .sendChunk _ _ _ | .sendClose => false

def streamStep (stopped : Bool) (call : TcpCall) (server : SocketAddr) (exchange : Exchange) :
    TcpLabel → Option (List Effect × TcpOutcome)
  | .sent length =>
      if exchange = .sendClose then some (completed call server)
      else
        (afterSend call.connectionId call.activity length exchange).map (fun next =>
          (next.1, .running { call with stage := .streaming server next.2 }))
  | .received length payload latency draw =>
      if length ≤ messageLimit then
        (afterReceive call.connectionId call.activity stopped length payload latency draw
            exchange).map (fun next =>
          (next.1, match next.2 with
            | some exchange => .running { call with stage := .streaming server exchange }
            | none => .panicked server call.connectionId))
      else none
  | .pauseOver =>
      match exchange with
      | .pause left =>
          some ([], .running { call with
            stage := .streaming server (if stopped then .sendClose else nextRequest (left - 1)) })
      | _ => none
  | .sendFailed error => if exchange.sending then some (failed call error) else none
  | .receiveFailed error => if exchange.receiving then some (failed call error) else none
  | .oversized length =>
      if exchange.receiving = true ∧ messageLimit < length then
        some (failed call s!"Message too large: {length} bytes")
      else none
  | .connected _ | .refused _ | .backoffOver _ | .thinkOver _ _ => none

/-- One step of a TCP activity. -/
def tcpStep (pool : ServerPool) (stopped : Bool) (call : TcpCall) (label : TcpLabel) :
    Option (List Effect × TcpOutcome) :=
  match call.stage, label with
  | .connecting _ server, .connected none =>
      some ([.markConnectionStart server, .markConnectionSuccess server],
        .running { call with stage := .streaming server (firstExchange call.activity) })
  | .connecting _ server, .connected (some error) =>
      let result := failed call error
      some ([.markConnectionStart server, .markConnectionSuccess server] ++ result.1, result.2)
  | .connecting attempt server, .refused error =>
      if attempt + 1 < maxRetries then
        some ([.markConnectionFailed server], .running { call with stage := .backoff attempt })
      else
        let result := failed call s!"All connection attempts failed: Some({error})"
        some (.markConnectionFailed server :: result.1, result.2)
  | .backoff attempt, .backoffOver draw => some (tryServer pool call (attempt + 1) draw)
  | .streaming server exchange, label => streamStep stopped call server exchange label
  | .thinking, .thinkOver connectionId draw =>
      match call.activity with
      | .webBrowsing pagesToVisit _ =>
          if call.page + 1 < pagesToVisit.toNat then
            some (openConnection pool call.activity (call.page + 1) connectionId draw)
          else some ([], .returned)
      | _ => none
  | _, _ => none

/-- `simulate_user_activity` up to its first wait. -/
def startTcp (pool : ServerPool) (activity : UserActivity) (connectionId : Uuid) (draw : Nat) :
    Option (List Effect × TcpOutcome) :=
  match activity with
  | .webBrowsing pagesToVisit _ =>
      if pagesToVisit = 0 then some ([], .returned)
      else some (openConnection pool activity 0 connectionId draw)
  | .fileDownload _ _ | .fileUpload _ _ =>
      some (openConnection pool activity 0 connectionId draw)
  | .quicWebBrowsing _ _ _ => none

/-! ## What a step can do -/

/-- The steps of a TCP activity. -/
inductive TcpMove (pool : ServerPool) (call : TcpCall) :
    TcpLabel → List Effect → TcpOutcome → Prop where
  | connected {attempt : Nat} {server : SocketAddr} (stage : call.stage = .connecting attempt server) :
      TcpMove pool call (.connected none)
        [.markConnectionStart server, .markConnectionSuccess server]
        (.running { call with stage := .streaming server (firstExchange call.activity) })
  | unnamed {attempt : Nat} {server : SocketAddr} {error : String}
      (stage : call.stage = .connecting attempt server) :
      TcpMove pool call (.connected (some error))
        (.markConnectionStart server :: .markConnectionSuccess server :: (failed call error).1)
        (failed call error).2
  /-- On to the next wait of `connect_with_failover`. -/
  | retried {label : TcpLabel} {effects : List Effect} {next : TcpStage}
      (dialing : call.stage.dialing = true) (still : next.dialing = true)
      (known : ∀ server, next.server = some server → server ∈ pool.addresses)
      (quiet : Effect.Neutral effects) (unopened : label.connects = false) :
      TcpMove pool call label effects (.running { call with stage := next })
  | gaveUp {label : TcpLabel} {effects : List Effect} {message : String}
      (dialing : call.stage.dialing = true) (quiet : Effect.Neutral effects)
      (unopened : label.connects = false) :
      TcpMove pool call label (effects ++ (failed call message).1) (failed call message).2
  | exchanged {label : TcpLabel} {effects : List Effect} {server : SocketAddr}
      {before after : Exchange} (stage : call.stage = .streaming server before)
      (quiet : Effect.Neutral effects) (onwards : label.fails = false) :
      TcpMove pool call label effects
        (.running { call with stage := .streaming server after })
  | panicked {label : TcpLabel} {effects : List Effect} {server : SocketAddr}
      {exchange : Exchange} (stage : call.stage = .streaming server exchange)
      (quiet : Effect.Neutral effects) (onwards : label.fails = false) :
      TcpMove pool call label effects (.panicked server call.connectionId)
  | broke {label : TcpLabel} {message : String} {server : SocketAddr} {exchange : Exchange}
      (stage : call.stage = .streaming server exchange) (fails : label.fails = true) :
      TcpMove pool call label (failed call message).1 (failed call message).2
  | completed {length : UInt32} {server : SocketAddr}
      (stage : call.stage = .streaming server .sendClose) :
      TcpMove pool call (.sent length) (completed call server).1 (completed call server).2
  | opened {pages : UInt32} {requests : UInt32 × UInt32} {connectionId : Uuid} {draw : Nat}
      (stage : call.stage = .thinking) (browsing : call.activity = .webBrowsing pages requests) :
      TcpMove pool call (.thinkOver connectionId draw)
        (openConnection pool call.activity (call.page + 1) connectionId draw).1
        (openConnection pool call.activity (call.page + 1) connectionId draw).2
  | returned {connectionId : Uuid} {draw : Nat} (stage : call.stage = .thinking) :
      TcpMove pool call (.thinkOver connectionId draw) [] .returned

section Moves

variable {pool : ServerPool} {stopped : Bool} {call : TcpCall} {label : TcpLabel}
  {effects : List Effect} {outcome : TcpOutcome}

theorem neutral_afterSend {id : Uuid} {activity : UserActivity} {length : UInt32}
    {exchange : Exchange} {result : List Effect × Exchange}
    (sent : afterSend id activity length exchange = some result) : Effect.Neutral result.1 := by
  cases exchange <;> simp only [afterSend, Option.some.injEq, reduceCtorEq] at sent <;>
    subst sent <;> simp [Effect.Neutral, Effect.neutral]

theorem neutral_afterReceive {id : Uuid} {activity : UserActivity}
    {length payload latency draw : Nat} {exchange : Exchange}
    {result : List Effect × Option Exchange}
    (received : afterReceive id activity stopped length payload latency draw exchange =
      some result) :
    Effect.Neutral result.1 := by
  cases exchange with
  | receiveChunk bytesReceived chunkCount =>
      obtain rfl := Option.some.inj received
      intro effect member
      simp only [List.mem_append, List.mem_cons, List.not_mem_nil, or_false] at member
      rcases member with (rfl | rfl) | latency
      · rfl
      · rfl
      · split at latency
        · obtain rfl := List.mem_singleton.mp latency
          rfl
        · simp at latency
  | _ =>
      simp only [afterReceive, Option.some.injEq, reduceCtorEq] at received
      try subst received
      try simp [Effect.Neutral, Effect.neutral]

/-- Either the next connect is under way or the activity gave up. -/
theorem tryServer_cases (pool : ServerPool) (call : TcpCall) (attempt draw : Nat) :
    (∃ server ∈ pool.addresses, tryServer pool call attempt draw =
        ([.getServer draw], .running { call with stage := .connecting attempt server })) ∨
      ∃ message, tryServer pool call attempt draw = failed call message := by
  unfold tryServer
  split
  · rename_i server selected
    exact Or.inl ⟨server, ServerPool.getServer_mem_addresses selected, rfl⟩
  · exact Or.inr ⟨_, rfl⟩

theorem openConnection_cases (pool : ServerPool) (activity : UserActivity) (page : Nat)
    (connectionId : Uuid) (draw : Nat) :
    (∃ server ∈ pool.addresses, openConnection pool activity page connectionId draw =
        ([.startConnection connectionId .tcp activity, .getServer draw],
          .running ⟨activity, page, connectionId, .connecting 0 server⟩)) ∨
      ∃ call message, call.connectionId = connectionId ∧
        openConnection pool activity page connectionId draw =
          (.startConnection connectionId .tcp activity :: (failed call message).1,
            (failed call message).2) := by
  unfold openConnection
  rcases tryServer_cases pool ⟨activity, page, connectionId, .thinking⟩ 0 draw with
    ⟨server, known, tried⟩ | ⟨message, tried⟩
  · exact Or.inl ⟨server, known, by simp [tried]⟩
  · exact Or.inr ⟨⟨activity, page, connectionId, .thinking⟩, message, rfl, by simp [tried]⟩

/-- Either nothing is to be done, or the first connection opens. -/
theorem startTcp_cases {activity : UserActivity} {connectionId : Uuid} {draw : Nat}
    (taken : startTcp pool activity connectionId draw = some (effects, outcome)) :
    (effects = [] ∧ outcome = .returned) ∨
      (effects, outcome) = openConnection pool activity 0 connectionId draw := by
  cases activity with
  | webBrowsing pages requests =>
      simp only [startTcp] at taken
      split at taken
      · exact Or.inl (Prod.mk.inj (Option.some.inj taken).symm)
      · exact Or.inr (Option.some.inj taken).symm
  | quicWebBrowsing pages resources concurrent => simp [startTcp] at taken
  | _ => exact Or.inr (Option.some.inj taken).symm

theorem move_of_streamStep {server : SocketAddr} {exchange : Exchange}
    (stage : call.stage = .streaming server exchange)
    (taken : streamStep stopped call server exchange label = some (effects, outcome)) :
    TcpMove pool call label effects outcome := by
  cases label with
  | sent length =>
      simp only [streamStep] at taken
      split at taken
      · rename_i closing
        obtain ⟨rfl, rfl⟩ := Prod.mk.inj (Option.some.inj taken)
        exact .completed (closing ▸ stage)
      · obtain ⟨next, sent, same⟩ := Option.map_eq_some_iff.mp taken
        obtain ⟨rfl, rfl⟩ := Prod.mk.inj same
        exact .exchanged stage (neutral_afterSend sent) rfl
  | received length payload latency draw =>
      simp only [streamStep] at taken
      split at taken
      · obtain ⟨next, received, same⟩ := Option.map_eq_some_iff.mp taken
        obtain ⟨rfl, rfl⟩ := Prod.mk.inj same
        cases onwards : next.2 with
        | some after => exact .exchanged stage (neutral_afterReceive received) rfl
        | none => exact .panicked stage (neutral_afterReceive received) rfl
      · simp at taken
  | pauseOver =>
      simp only [streamStep] at taken
      split at taken
      · obtain ⟨rfl, rfl⟩ := Prod.mk.inj (Option.some.inj taken)
        exact .exchanged stage (by simp [Effect.Neutral]) rfl
      · simp at taken
  | sendFailed error =>
      simp only [streamStep] at taken
      split at taken
      · obtain ⟨rfl, rfl⟩ := Prod.mk.inj (Option.some.inj taken)
        exact .broke stage rfl
      · simp at taken
  | receiveFailed error =>
      simp only [streamStep] at taken
      split at taken
      · obtain ⟨rfl, rfl⟩ := Prod.mk.inj (Option.some.inj taken)
        exact .broke stage rfl
      · simp at taken
  | oversized length =>
      simp only [streamStep] at taken
      split at taken
      · obtain ⟨rfl, rfl⟩ := Prod.mk.inj (Option.some.inj taken)
        exact .broke stage rfl
      · simp at taken
  | _ => simp [streamStep] at taken

theorem move_of_tcpStep (taken : tcpStep pool stopped call label = some (effects, outcome)) :
    TcpMove pool call label effects outcome := by
  unfold tcpStep at taken
  split at taken
  · rename_i attempt server stage
    obtain ⟨rfl, rfl⟩ := Prod.mk.inj (Option.some.inj taken)
    exact .connected stage
  · rename_i attempt server error stage
    obtain ⟨rfl, rfl⟩ := Prod.mk.inj (Option.some.inj taken)
    exact .unnamed stage
  · rename_i attempt server error stage
    have dialing : call.stage.dialing = true := by rw [stage]; rfl
    split at taken
    · obtain ⟨rfl, rfl⟩ := Prod.mk.inj (Option.some.inj taken)
      exact .retried dialing rfl (by simp [TcpStage.server])
        (by simp [Effect.Neutral, Effect.neutral]) rfl
    · obtain ⟨rfl, rfl⟩ := Prod.mk.inj (Option.some.inj taken)
      show TcpMove pool call _ ([Effect.markConnectionFailed server] ++ (failed call _).1) _
      exact .gaveUp dialing (by simp [Effect.Neutral, Effect.neutral]) rfl
  · rename_i attempt draw stage
    have dialing : call.stage.dialing = true := by rw [stage]; rfl
    rcases tryServer_cases pool call (attempt + 1) draw with
      ⟨server, known, tried⟩ | ⟨message, tried⟩
    · rw [tried] at taken
      obtain ⟨rfl, rfl⟩ := Prod.mk.inj (Option.some.inj taken)
      exact .retried dialing rfl (by simpa [TcpStage.server] using known)
        (by simp [Effect.Neutral, Effect.neutral]) rfl
    · rw [tried] at taken
      obtain ⟨rfl, rfl⟩ := Prod.mk.inj (Option.some.inj taken)
      show TcpMove pool call _ ([] ++ (failed call message).1) _
      exact .gaveUp dialing (by simp [Effect.Neutral]) rfl
  · rename_i server exchange stage
    exact move_of_streamStep stage taken
  · rename_i connectionId draw stage
    cases browsing : call.activity with
    | webBrowsing pages requests =>
        simp only [browsing] at taken
        split at taken
        · rw [← browsing] at taken
          obtain ⟨rfl, rfl⟩ := Prod.mk.inj (Option.some.inj taken)
          exact .opened stage browsing
        · obtain ⟨rfl, rfl⟩ := Prod.mk.inj (Option.some.inj taken)
          exact .returned stage
    | _ => simp [browsing] at taken
  · simp at taken

end Moves

end Npt.Client
