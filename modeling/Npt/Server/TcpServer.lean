import Npt.Shared.Message
import Npt.Shared.Metrics
import Npt.Shared.Text

/-!
Contract: one connection of the TCP server (`server/src/tcp_server.rs`).

`handle_connection` reads messages in a loop and hands each to `handle_message`,
which may read and write more of them itself. Each wait of the code is a stage;
a label is what ends the wait, with the random draws of the code that then runs
to the next one.

Owns: the stages, the replies, the transfer loops, and what is recorded.

Does not own: the listener, or the bytes on the wire (`receive_message` returns
a message or an error text).
-/

namespace Npt.Server.TcpServer

open Npt.Core
open Npt.Shared

/-- `10 * 1024 * 1024`. -/
def messageLimit : Nat := 10 * 1024 * 1024

/-- `gen_range(low..=high)`. -/
def drawBetween (low high draw : Nat) : Nat := low + draw % (high - low + 1)

/-- What the code goes on with when a reply has been sent. -/
inductive Continuation where
  /-- `handle_message` returns `Ok(true)`. -/
  | respond
  | upload (expectedSize bytesReceived : UInt64)
  | download (fileSize bytesSent sequence : UInt64) (sessionId : Uuid)
deriving DecidableEq, Repr

inductive Stage where
  /-- In `receive_message` of `handle_connection`. -/
  | receiving
  /-- In `receive_message` of `handle_file_upload`. -/
  | receivingChunk (expectedSize bytesReceived : UInt64)
  /-- In `send_message`; `counted` is what is recorded when it returns. -/
  | sending (reply : Message) (counted : UInt64) (next : Continuation)
  /-- `handle_connection` has returned. -/
  | returned
deriving DecidableEq, Repr

structure Serving where
  connectionId : Uuid
  stage : Stage := .receiving
  metrics : MetricsCollector

inductive Label where
  | received (message : Message) (draw latency now : Nat)
  /-- The time runs out, the stream fails or ends, or the message is malformed
  or too large. -/
  | receiveFailed (error : String) (now : Nat)
  | sent (draw latency : Nat)
  | sendFailed (error : String) (now : Nat)
deriving DecidableEq, Repr

namespace Serving

variable (serving : Serving)

/-- `handle_connection` on a stream whose `local_addr` is found, up to its first wait. -/
def accept (connectionId : Uuid) (metrics : MetricsCollector) (now : Nat) : Serving where
  connectionId := connectionId
  metrics := metrics.startConnection now connectionId .tcp

/-- `handle_message` returned `Ok(true)`. -/
def goOn (latency : Nat) : Serving :=
  { serving with
    stage := .receiving
    metrics := serving.metrics.recordLatency serving.connectionId latency }

/-- `handle_message` returned `Ok(false)`. -/
def close (latency now : Nat) : Serving :=
  { serving with
    stage := .returned
    metrics := (serving.metrics.recordLatency serving.connectionId latency).endConnection now
      serving.connectionId }

/-- An error that is recorded. -/
def fail (now : Nat) : Serving :=
  { serving with
    stage := .returned
    metrics := (serving.metrics.recordError serving.connectionId).endConnection now
      serving.connectionId }

/-- An error of `receive_message` in `handle_connection`: the end of the stream
is not recorded. -/
def disconnect (error : String) (now : Nat) : Serving :=
  if contains (toLowercase error) "eof" then
    { serving with
      stage := .returned
      metrics := serving.metrics.endConnection now serving.connectionId }
  else serving.fail now

/-- A message was decoded and is recorded. -/
def count (message : Message) : Serving :=
  { serving with
    metrics := (serving.metrics.recordPacketReceived serving.connectionId).recordBytesReceived
      serving.connectionId (UInt64.ofNat message.payload.length) }

def send (reply : Message) (counted : UInt64) (next : Continuation) : Serving :=
  { serving with stage := .sending reply counted next }

/-- The loop test of `handle_file_download`, with the chunk it draws. -/
def download (fileSize bytesSent sequence : UInt64) (sessionId : Uuid) (draw latency : Nat) :
    Serving :=
  if bytesSent < fileSize then
    let chunkSize := UInt64.ofNat (drawBetween 4096 65536 draw)
    let currentChunkSize := min chunkSize (fileSize - bytesSent)
    serving.send
      { sessionId := sessionId
        messageType := .fileDownloadChunk
        payload := Message.zeros currentChunkSize.toNat
        sequence := sequence }
      currentChunkSize (.download fileSize (bytesSent + currentChunkSize) (sequence + 1) sessionId)
  else serving.goOn latency

/-- The loop test of `handle_file_upload`. -/
def upload (expectedSize bytesReceived : UInt64) (latency : Nat) : Serving :=
  if bytesReceived < expectedSize then
    { serving with stage := .receivingChunk expectedSize bytesReceived }
  else serving.goOn latency

/-- `b"CHUNK_ACK"`, with the sequence number of the chunk. -/
def chunkAck (message : Message) : Message where
  sessionId := message.sessionId
  messageType := .httpResponse
  payload := "CHUNK_ACK".toUTF8.toList
  sequence := message.sequence

/-- `b"ACK"`. -/
def uploadAck (message : Message) : Message where
  sessionId := message.sessionId
  messageType := .httpResponse
  payload := "ACK".toUTF8.toList

def handleMessage (message : Message) (draw latency now : Nat) : Serving :=
  match message.messageType with
  | .tlsHandshake =>
      let responseSize := drawBetween 2000 4000 draw
      serving.send
        { sessionId := message.sessionId
          messageType := .httpResponse
          payload := Message.zeros responseSize }
        (UInt64.ofNat responseSize) .respond
  | .httpRequest =>
      let responseSize := drawBetween 4096 (32 * 1024) draw
      serving.send
        { sessionId := message.sessionId
          messageType := .httpResponse
          payload := Message.zeros responseSize
          sequence := message.sequence }
        (UInt64.ofNat responseSize) .respond
  | .fileDownloadRequest =>
      serving.download message.requestedSize 0 0 message.sessionId draw latency
  | .fileUploadRequest => serving.send (uploadAck message) 3 (.upload message.requestedSize 0)
  | .fileUploadChunk => serving.send (chunkAck message) 9 .respond
  | .connectionClose => serving.close latency now
  | _ => serving.goOn latency

/-- What follows a reply that was sent and recorded. -/
def resume (next : Continuation) (draw latency : Nat) : Serving :=
  match next with
  | .respond => serving.goOn latency
  | .upload expectedSize bytesReceived => serving.upload expectedSize bytesReceived latency
  | .download fileSize bytesSent sequence sessionId =>
      serving.download fileSize bytesSent sequence sessionId draw latency

def step (serving : Serving) : Label → Option Serving
  | .received message draw latency now =>
      match serving.stage with
      | .receiving => some ((serving.count message).handleMessage message draw latency now)
      | .receivingChunk expectedSize bytesReceived =>
          -- Any other message is dropped and ends the upload.
          if message.messageType = .fileUploadChunk then
            some ((serving.count message).send (chunkAck message) 9 (.upload expectedSize
              (bytesReceived + UInt64.ofNat message.payload.length)))
          else some (serving.goOn latency)
      | _ => none
  | .receiveFailed error now =>
      match serving.stage with
      | .receiving => some (serving.disconnect error now)
      | .receivingChunk _ _ => some (serving.fail now)
      | _ => none
  | .sent draw latency =>
      match serving.stage with
      | .sending _ counted next =>
          let recorded : Serving := { serving with
            metrics := (serving.metrics.recordPacketSent serving.connectionId).recordBytesSent
              serving.connectionId counted }
          some (recorded.resume next draw latency)
      | _ => none
  | .sendFailed _ now =>
      match serving.stage with
      | .sending _ _ _ => some (serving.fail now)
      | _ => none

/-! ## Stages -/

section Stages

variable (serving : Serving) (draw latency now : Nat)

/-- The wait at the loop test of `handle_file_upload`. -/
def uploading (expectedSize bytesReceived : UInt64) : Stage :=
  if bytesReceived < expectedSize then .receivingChunk expectedSize bytesReceived else .receiving

@[simp] theorem stage_accept (connectionId : Uuid) (metrics : MetricsCollector) :
    (accept connectionId metrics now).stage = .receiving := rfl

@[simp] theorem stage_goOn : (serving.goOn latency).stage = .receiving := rfl

@[simp] theorem stage_close : (serving.close latency now).stage = .returned := rfl

@[simp] theorem stage_send (reply : Message) (counted : UInt64) (next : Continuation) :
    (serving.send reply counted next).stage = .sending reply counted next := rfl

@[simp] theorem stage_upload (expectedSize bytesReceived : UInt64) :
    (serving.upload expectedSize bytesReceived latency).stage =
      uploading expectedSize bytesReceived := by
  unfold upload uploading
  split <;> rfl

theorem uploading_ne_sending {expectedSize bytesReceived counted : UInt64} {reply : Message}
    {next : Continuation} : uploading expectedSize bytesReceived ≠ .sending reply counted next := by
  unfold uploading
  split <;> simp

theorem uploading_of_lt {expectedSize bytesReceived : UInt64} (more : bytesReceived < expectedSize) :
    uploading expectedSize bytesReceived = .receivingChunk expectedSize bytesReceived :=
  if_pos more

theorem uploading_self (expectedSize : UInt64) : uploading expectedSize expectedSize = .receiving :=
  if_neg (UInt64.lt_irrefl expectedSize)

theorem length_uploadAck (message : Message) : (uploadAck message).payload.length = 3 := by
  have bytes : "ACK".toUTF8.toList.length = 3 := by decide +kernel
  exact bytes

theorem length_chunkAck (message : Message) : (chunkAck message).payload.length = 9 := by
  have bytes : "CHUNK_ACK".toUTF8.toList.length = 9 := by decide +kernel
  exact bytes

/-- The next chunk of a download is not empty, and leaves what is to be sent
after it. -/
theorem stage_download_of_lt {fileSize bytesSent : UInt64} (more : bytesSent < fileSize)
    (sequence : UInt64) (sessionId : Uuid) :
    ∃ size : UInt64, 1 ≤ size.toNat ∧ size.toNat ≤ 65536 ∧
      bytesSent.toNat + size.toNat ≤ fileSize.toNat ∧
      (serving.download fileSize bytesSent sequence sessionId draw latency).stage =
        .sending ⟨sessionId, .fileDownloadChunk, Message.zeros size.toNat, sequence⟩ size
          (.download fileSize (bytesSent + size) (sequence + 1) sessionId) := by
  have drawn : drawBetween 4096 65536 draw ≤ 65536 := by
    have remainder := Nat.mod_lt draw (show 0 < 65536 - 4096 + 1 by decide)
    unfold drawBetween
    omega
  obtain ⟨some, within, left⟩ := chunk_bounds more
    (show 1 ≤ drawBetween 4096 65536 draw by unfold drawBetween; omega) (by omega)
  refine ⟨_, some, within.trans drawn, left, ?_⟩
  rw [download, if_pos more]
  rfl

theorem stage_download_self (fileSize sequence : UInt64) (sessionId : Uuid) :
    (serving.download fileSize fileSize sequence sessionId draw latency).stage = .receiving := by
  rw [download, if_neg (UInt64.lt_irrefl fileSize)]
  rfl

end Stages

section Answers

variable {serving next : Serving} {message : Message} {draw latency now : Nat}

/-- A connection that waits for a message takes whatever arrives, or that nothing
does. -/
theorem isSome_of_listening
    (listens : serving.stage = .receiving ∨
      ∃ expectedSize bytesReceived, serving.stage = .receivingChunk expectedSize bytesReceived)
    (message : Message) (error : String) (draw latency now : Nat) :
    (serving.step (.received message draw latency now)).isSome = true ∧
      (serving.step (.receiveFailed error now)).isSome = true := by
  rcases listens with waits | ⟨expectedSize, bytesReceived, waits⟩
  · simp only [step, waits, Option.isSome_some, and_self]
  · simp only [step, waits, Option.isSome_some, and_true]
    split <;> rfl

theorem isSome_of_sending {reply : Message} {counted : UInt64} {goes : Continuation}
    (sends : serving.stage = .sending reply counted goes) (draw latency : Nat) :
    (serving.step (.sent draw latency)).isSome = true := by
  simp only [step, sends, Option.isSome_some]

theorem stage_of_uploadRequest (waits : serving.stage = .receiving)
    (kind : message.messageType = .fileUploadRequest)
    (taken : serving.step (.received message draw latency now) = some next) :
    next.stage = .sending (uploadAck message) 3 (.upload message.requestedSize 0) := by
  simp only [step, waits] at taken
  obtain rfl := Option.some.inj taken
  simp only [handleMessage, kind, stage_send]

theorem stage_of_downloadRequest (waits : serving.stage = .receiving)
    (kind : message.messageType = .fileDownloadRequest)
    (taken : serving.step (.received message draw latency now) = some next) :
    next = (serving.count message).download message.requestedSize 0 0 message.sessionId draw
      latency := by
  simp only [step, waits] at taken
  obtain rfl := Option.some.inj taken
  simp only [handleMessage, kind]

theorem stage_of_close (waits : serving.stage = .receiving)
    (kind : message.messageType = .connectionClose)
    (taken : serving.step (.received message draw latency now) = some next) :
    next.stage = .returned := by
  simp only [step, waits] at taken
  obtain rfl := Option.some.inj taken
  simp only [handleMessage, kind, stage_close]

theorem stage_of_chunk {expectedSize bytesReceived : UInt64}
    (waits : serving.stage = .receivingChunk expectedSize bytesReceived)
    (kind : message.messageType = .fileUploadChunk)
    (taken : serving.step (.received message draw latency now) = some next) :
    next.stage = .sending (chunkAck message) 9
      (.upload expectedSize (bytesReceived + UInt64.ofNat message.payload.length)) := by
  simp only [step, waits, kind, if_true] at taken
  obtain rfl := Option.some.inj taken
  rfl

theorem stage_of_sent_upload {reply : Message} {counted expectedSize bytesReceived : UInt64}
    (waits : serving.stage = .sending reply counted (.upload expectedSize bytesReceived))
    (taken : serving.step (.sent draw latency) = some next) :
    next.stage = uploading expectedSize bytesReceived := by
  simp only [step, waits] at taken
  obtain rfl := Option.some.inj taken
  simp only [resume, stage_upload]

theorem stage_of_sent_download {reply : Message} {counted fileSize bytesSent sequence : UInt64}
    {sessionId : Uuid}
    (waits : serving.stage = .sending reply counted
      (.download fileSize bytesSent sequence sessionId))
    (taken : serving.step (.sent draw latency) = some next) :
    ∃ recorded : Serving,
      next = recorded.download fileSize bytesSent sequence sessionId draw latency := by
  simp only [step, waits] at taken
  exact ⟨_, (Option.some.inj taken).symm⟩

end Answers

/-! ## Serving without an error -/

/-- No error is on the record of the connection, and the record has an end once
`handle_connection` has returned. -/
structure Clean (serving : Serving) : Prop where
  faultless : serving.metrics.Faultless serving.connectionId
  ended : serving.stage = .returned → serving.metrics.Ended serving.connectionId

section Clean

variable {serving : Serving} (message : Message) (draw latency now : Nat)
  (faultless : serving.metrics.Faultless serving.connectionId)

theorem clean_accept (connectionId : Uuid) (metrics : MetricsCollector) :
    (accept connectionId metrics now).Clean where
  faultless := MetricsCollector.faultless_startConnection now .tcp
  ended returned := by simp at returned

include faultless

theorem faultless_count :
    (serving.count message).metrics.Faultless (serving.count message).connectionId := by
  have packet := faultless.update (fun connection =>
    { connection with packetsReceived := connection.packetsReceived + 1 }) (fun _ => rfl)
    (fun _ => rfl)
  exact packet.update _ _ (fun _ => rfl)

theorem clean_goOn : (serving.goOn latency).Clean where
  faultless := faultless.update _ _ (fun _ => rfl)
  ended returned := by simp at returned

theorem clean_close : (serving.close latency now).Clean where
  faultless := (clean_goOn latency faultless).faultless.update _ _ (fun _ => rfl)
  ended _ := by
    have registered := (clean_goOn latency faultless).faultless.registered
    exact (MetricsCollector.ended_endConnection ..).mpr (Or.inr ⟨rfl, registered⟩)

theorem clean_send (reply : Message) (counted : UInt64) (next : Continuation) :
    (serving.send reply counted next).Clean where
  faultless := faultless
  ended returned := by simp at returned

theorem clean_download (fileSize bytesSent sequence : UInt64) (sessionId : Uuid) :
    (serving.download fileSize bytesSent sequence sessionId draw latency).Clean := by
  unfold download
  split
  · exact clean_send faultless _ _ _
  · exact clean_goOn latency faultless

theorem clean_upload (expectedSize bytesReceived : UInt64) :
    (serving.upload expectedSize bytesReceived latency).Clean := by
  unfold upload
  split
  · exact ⟨faultless, by simp⟩
  · exact clean_goOn latency faultless

theorem clean_handleMessage : (serving.handleMessage message draw latency now).Clean := by
  unfold handleMessage
  split
  · exact clean_send faultless _ _ _
  · exact clean_send faultless _ _ _
  · exact clean_download draw latency faultless _ _ _ _
  · exact clean_send faultless _ _ _
  · exact clean_send faultless _ _ _
  · exact clean_close latency now faultless
  · exact clean_goOn latency faultless

theorem clean_resume (next : Continuation) : (serving.resume next draw latency).Clean := by
  cases next with
  | respond => exact clean_goOn latency faultless
  | upload expectedSize bytesReceived => exact clean_upload latency faultless _ _
  | download fileSize bytesSent sequence sessionId =>
      exact clean_download draw latency faultless _ _ _ _

/-- A message that arrives puts no error on the record. -/
theorem clean_received {next : Serving}
    (taken : serving.step (.received message draw latency now) = some next) : next.Clean := by
  simp only [step] at taken
  split at taken
  · obtain rfl := Option.some.inj taken
    exact clean_handleMessage message draw latency now (faultless_count message faultless)
  · split at taken
    · obtain rfl := Option.some.inj taken
      exact clean_send (faultless_count message faultless) _ _ _
    · obtain rfl := Option.some.inj taken
      exact clean_goOn latency faultless
  · simp at taken

/-- Nor does a message that is sent. -/
theorem clean_sent {next : Serving} (taken : serving.step (.sent draw latency) = some next) :
    next.Clean := by
  simp only [step] at taken
  split at taken
  · obtain rfl := Option.some.inj taken
    refine clean_resume draw latency ?_ _
    have packet := faultless.update (fun connection =>
      { connection with packetsSent := connection.packetsSent + 1 }) (fun _ => rfl) (fun _ => rfl)
    exact packet.update _ _ (fun _ => rfl)
  · simp at taken

end Clean

end Serving

end Npt.Server.TcpServer
