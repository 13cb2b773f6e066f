import Npt.System.StoppableSession

/-!
Contract: how the two sides of a transfer that may be stopped stand to each other.

Until the client leaves, a download or an upload is in one of a few stages, each
with the wait of the client, the stage of the server and the messages on their
way. A side that sends or receives goes from one stage to another.

Owns: the stages, what a send or a receipt of either side does to them, and which
of them leave the server with chunks to send.

Does not own: the steps of the two sides, or the history of a run.
-/

namespace Npt.System

open Npt.Core
open Npt.Shared
open Npt.Client
open Npt.Server.TcpServer (Serving Stage Continuation)

/-! ## Where both sides stand -/

/-- In `handle_file_download`, or between messages. -/
inductive Serves : Stage → Prop where
  | receiving : Serves .receiving
  | chunk {reply : Message} {counted fileSize bytesSent sequence : UInt64} {sessionId : Uuid}
      (short : reply.payload.length ≤ 65536) :
      Serves (.sending reply counted (.download fileSize bytesSent sequence sessionId))

/-- In the loop of `perform_file_download`, or behind it. -/
def Listens (exchange : Exchange) : Prop :=
  exchange = .sendClose ∨ ∃ bytesReceived chunkCount, exchange = .receiveChunk bytesReceived chunkCount

def Downloads (activity : UserActivity) : Prop :=
  ∃ fileSize chunkSize, activity = .fileDownload fileSize chunkSize

/-- The wait of the client, the stage of the server, and the messages on their
way up and down. -/
inductive Stands (sessionId : Uuid) (activity : UserActivity) :
    Option Exchange → Stage → List Message → List Message → Prop where
  | downloading (downloads : Downloads activity) :
      Stands sessionId activity (some .sendDownloadRequest) .receiving [] []
  | asked (downloads : Downloads activity) :
      Stands sessionId activity (some (nextDownload (fileSize activity) 0 0)) .receiving
        [downloadRequest sessionId (fileSize activity)] []
  /-- The client left behind its request for an empty file. -/
  | hasty (downloads : Downloads activity) (empty : fileSize activity = 0) :
      Stands sessionId activity none .receiving
        [downloadRequest sessionId (fileSize activity), closeMessage sessionId] []
  | served {exchange : Exchange} {stage : Stage} {down : List Message}
      (downloads : Downloads activity) (listens : Listens exchange) (serves : Serves stage) :
      Stands sessionId activity (some exchange) stage [] down
  | left {stage : Stage} {down : List Message} (downloads : Downloads activity)
      (serves : Serves stage) :
      Stands sessionId activity none stage [closeMessage sessionId] down
  | uploading : Stands sessionId activity (some .sendUploadRequest) .receiving [] []
  | applied : Stands sessionId activity (some .receiveUploadAck) .receiving
      [uploadRequest sessionId (fileSize activity)] []
  | granting : Stands sessionId activity (some .receiveUploadAck)
      (.sending (Serving.uploadAck (uploadRequest sessionId (fileSize activity))) 3
        (.upload (fileSize activity) 0)) [] []
  | granted : Stands sessionId activity (some .receiveUploadAck)
      (Serving.uploading (fileSize activity) 0) []
      [Serving.uploadAck (uploadRequest sessionId (fileSize activity))]
  | sending {bytes sequence size : UInt64} :
      Stands sessionId activity (some (.sendChunk bytes sequence size))
        (.receivingChunk (fileSize activity) bytes) [] []
  | sent {bytes sequence size : UInt64} :
      Stands sessionId activity (some (.receiveChunkAck bytes sequence size))
        (.receivingChunk (fileSize activity) bytes) [uploadChunk sessionId sequence size.toNat] []
  | acking {bytes sequence size : UInt64} :
      Stands sessionId activity (some (.receiveChunkAck bytes sequence size))
        (.sending (Serving.chunkAck (uploadChunk sessionId sequence size.toNat)) 9
          (.upload (fileSize activity) (bytes + size))) [] []
  | acked {bytes sequence size : UInt64} :
      Stands sessionId activity (some (.receiveChunkAck bytes sequence size))
        (Serving.uploading (fileSize activity) (bytes + size)) []
        [Serving.chunkAck (uploadChunk sessionId sequence size.toNat)]
  | closing {bytes : UInt64} : Stands sessionId activity (some .sendClose)
      (Serving.uploading (fileSize activity) bytes) [] []
  | closed {bytes : UInt64} : Stands sessionId activity none
      (Serving.uploading (fileSize activity) bytes) [closeMessage sessionId] []
  /-- The upload loop of the server has dropped the close message. -/
  | parted : Stands sessionId activity none .receiving [] []
  | finished {down : List Message} : Stands sessionId activity none .returned [] down

section Moves

variable {sessionId : Uuid} {activity : UserActivity} {wait : Option Exchange}
  {exchange : Exchange} {stage : Stage} {up down : List Message}

theorem listens_nextDownload (fileSize bytesReceived chunkCount : UInt64) :
    Listens (nextDownload fileSize bytesReceived chunkCount) := by
  unfold nextDownload
  split
  · exact Or.inr ⟨_, _, rfl⟩
  · exact Or.inl rfl

theorem serves_download (serving : Serving) (fileSize bytesSent sequence : UInt64)
    (sessionId : Uuid) (draw latency : Nat) :
    Serves (serving.download fileSize bytesSent sequence sessionId draw latency).stage := by
  by_cases more : bytesSent < fileSize
  · obtain ⟨size, _, small, _, stage⟩ :=
      serving.stage_download_of_lt draw latency more sequence sessionId
    rw [stage]
    exact .chunk (by rw [Message.length_zeros]; exact small)
  · rw [Serving.download, if_neg more]
    exact .receiving

/-- Both loop tests of an upload after the same chunks come out the same. -/
theorem stands_nextUpload {bytes sequence : UInt64} {draw : Nat}
    (next : nextUpload (fileSize activity) bytes sequence (chunkSize activity) draw = some exchange) :
    Stands sessionId activity (some exchange) (Serving.uploading (fileSize activity) bytes) [] [] := by
  unfold nextUpload at next
  split at next
  · rename_i more
    obtain ⟨size, drawn, rfl⟩ := Option.map_eq_some_iff.mp next
    rw [Serving.uploading_of_lt more]
    exact .sending
  · obtain rfl := Option.some.inj next
    exact .closing

/-- A client that listens sends nothing but its close message. -/
theorem not_sent_of_listens {id : Uuid} {length : UInt32} {message : Message}
    {next : List Effect × Exchange} (listens : Listens exchange)
    (sends : outgoing sessionId activity exchange = some message)
    (goesOn : afterSend id activity length exchange = some next) : False := by
  rcases listens with rfl | ⟨bytesReceived, chunkCount, rfl⟩
  · simp [afterSend] at goesOn
  · simp [outgoing] at sends

theorem stands_clientSent {id : Uuid} {length : UInt32} {message : Message}
    {effects : List Effect} {after : Exchange}
    (stands : Stands sessionId activity (some exchange) stage up down)
    (sends : outgoing sessionId activity exchange = some message)
    (goesOn : afterSend id activity length exchange = some (effects, after)) :
    Stands sessionId activity (some after) stage (up ++ [message]) down := by
  cases stands with
  | downloading downloads =>
      obtain rfl := Option.some.inj sends
      obtain ⟨_, rfl⟩ := Prod.mk.inj (Option.some.inj goesOn)
      exact .asked downloads
  | asked => exact (not_sent_of_listens (listens_nextDownload _ _ _) sends goesOn).elim
  | served _ listens _ => exact (not_sent_of_listens listens sends goesOn).elim
  | uploading =>
      obtain rfl := Option.some.inj sends
      obtain ⟨_, rfl⟩ := Prod.mk.inj (Option.some.inj goesOn)
      exact .applied
  | applied => simp [outgoing] at sends
  | granting => simp [outgoing] at sends
  | granted => simp [outgoing] at sends
  | sending =>
      obtain rfl := Option.some.inj sends
      obtain ⟨_, rfl⟩ := Prod.mk.inj (Option.some.inj goesOn)
      exact .sent
  | sent => simp [outgoing] at sends
  | acking => simp [outgoing] at sends
  | acked => simp [outgoing] at sends
  | closing => simp [afterSend] at goesOn

theorem stands_clientClosed (stands : Stands sessionId activity wait stage up down)
    (waits : wait = some .sendClose) :
    Stands sessionId activity none stage (up ++ [closeMessage sessionId]) down := by
  cases stands with
  | asked downloads =>
      refine .hasty downloads ?_
      by_contra filled
      have more : 0 < fileSize activity := UInt64.pos_iff_ne_zero.mpr filled
      simp [nextDownload, more] at waits
  | served downloads _ serves => exact .left downloads serves
  | closing => exact .closed
  | _ => simp at waits

/-- What the flag does to a client that has received a chunk or its
acknowledgement. -/
theorem stands_clientReceived {id : Uuid} {stopped : Bool} {length latency draw : Nat}
    {message : Message} {effects : List Effect} {after : Exchange}
    (stands : Stands sessionId activity (some exchange) stage up (message :: down))
    (goesOn : afterReceive id activity stopped length message.payload.length latency draw exchange =
      some (effects, some after)) :
    Stands sessionId activity (some after) stage up down := by
  cases stands with
  | served downloads listens serves =>
      rcases listens with rfl | ⟨bytesReceived, chunkCount, rfl⟩
      · simp [afterReceive] at goesOn
      · obtain ⟨_, onward⟩ := Prod.mk.inj (Option.some.inj goesOn)
        obtain rfl := Option.some.inj onward
        refine .served downloads ?_ serves
        split
        · exact Or.inl rfl
        · exact listens_nextDownload _ _ _
  | granted =>
      obtain ⟨_, onward⟩ := Prod.mk.inj (Option.some.inj goesOn)
      exact stands_nextUpload onward
  | acked =>
      obtain ⟨_, onward⟩ := Prod.mk.inj (Option.some.inj goesOn)
      split at onward
      · obtain rfl := Option.some.inj onward
        exact .closing
      · exact stands_nextUpload onward

section Server

variable {serving next : Serving} {message : Message} {draw latency now : Nat}

/-- A server that waits for a message sends none. -/
theorem stage_ne_sending {reply : Message} {counted : UInt64} {goes : Continuation}
    (handles : serving.step (.received message draw latency now) = some next) :
    serving.stage ≠ .sending reply counted goes := by
  intro sending
  simp [Serving.step, sending] at handles

/-- What follows a message of a client that has left, or not. -/
theorem stands_serverReceived (waits : serving.stage = stage)
    (stands : Stands sessionId activity wait stage (message :: up) down)
    (handles : serving.step (.received message draw latency now) = some next) :
    Stands sessionId activity wait next.stage up down ∧
      (wait = none → ¬Overruns next.stage down) := by
  cases stands with
  | asked downloads =>
      rw [Serving.stage_of_downloadRequest waits rfl handles, downloadRequest,
        Message.requestedSize_sizeBytes]
      exact ⟨.served downloads (listens_nextDownload _ _ _) (serves_download _ _ _ _ _ _ _), by simp⟩
  | hasty downloads empty =>
      have stage : next.stage = .receiving := by
        rw [Serving.stage_of_downloadRequest waits rfl handles, downloadRequest,
          Message.requestedSize_sizeBytes, empty, Serving.stage_download_self]
      rw [stage]
      exact ⟨.left downloads .receiving, by simp [Overruns]⟩
  | left downloads serves =>
      cases serves with
      | receiving =>
          rw [Serving.stage_of_close waits rfl handles]
          exact ⟨.finished, by simp [Overruns]⟩
      | chunk _ => exact absurd waits (stage_ne_sending handles)
  | applied =>
      rw [Serving.stage_of_uploadRequest waits rfl handles, uploadRequest,
        Message.requestedSize_sizeBytes]
      exact ⟨.granting, by simp⟩
  | @sent bytes sequence size =>
      rw [Serving.stage_of_chunk waits rfl handles, uploadChunk, Message.length_zeros,
        UInt64.ofNat_toNat]
      exact ⟨.acking, by simp⟩
  | @closed bytes =>
      by_cases more : bytes < fileSize activity
      · rw [Serving.uploading_of_lt more] at waits
        simp only [Serving.step, waits, closeMessage, reduceCtorEq, if_false] at handles
        obtain rfl := Option.some.inj handles
        exact ⟨.parted, by simp [Overruns]⟩
      · have receiving : serving.stage = .receiving := by
          rw [waits, Serving.uploading, if_neg more]
        rw [Serving.stage_of_close receiving rfl handles]
        exact ⟨.finished, by simp [Overruns]⟩

/-- What follows a message of the server, which is small; once the client has left, a
chunk overruns it exactly if another one follows. -/
theorem stands_serverSent {reply : Message} {counted : UInt64} {goes : Continuation}
    (waits : serving.stage = .sending reply counted goes)
    (stands : Stands sessionId activity wait (.sending reply counted goes) up down)
    (handles : serving.step (.sent draw latency) = some next) :
    Stands sessionId activity wait next.stage up (down ++ [reply]) ∧
      reply.payload.length ≤ 65536 ∧
      (wait = none →
        (Overruns next.stage [reply] ↔ Overruns (.sending reply counted goes) [])) := by
  generalize here : Stage.sending reply counted goes = stage at stands
  cases stands with
  | served downloads listens serves =>
      obtain _ | short := serves
      · cases here
      · obtain ⟨rfl, rfl, rfl⟩ := Stage.sending.inj here
        obtain ⟨recorded, rfl⟩ := Serving.stage_of_sent_download waits handles
        exact ⟨.served downloads listens (serves_download _ _ _ _ _ _ _), short, by simp⟩
  | left downloads serves =>
      obtain _ | @⟨_, _, fileSize, bytesSent, sequence, sessionId, short⟩ := serves
      · cases here
      · obtain ⟨rfl, rfl, rfl⟩ := Stage.sending.inj here
        obtain ⟨recorded, rfl⟩ := Serving.stage_of_sent_download waits handles
        refine ⟨.left downloads (serves_download _ _ _ _ _ _ _), short, fun _ => ?_⟩
        by_cases more : bytesSent < fileSize
        · simp [Serving.download, more, Overruns]
        · simp [Serving.download, more, Overruns]
  | granting =>
      obtain ⟨rfl, rfl, rfl⟩ := Stage.sending.inj here
      rw [Serving.stage_of_sent_upload waits handles]
      exact ⟨.granted, by rw [Serving.length_uploadAck]; decide, by simp⟩
  | acking =>
      obtain ⟨rfl, rfl, rfl⟩ := Stage.sending.inj here
      rw [Serving.stage_of_sent_upload waits handles]
      exact ⟨.acked, by rw [Serving.length_chunkAck]; decide, by simp⟩
  | granted => exact absurd here.symm Serving.uploading_ne_sending
  | acked => exact absurd here.symm Serving.uploading_ne_sending
  | closing => exact absurd here.symm Serving.uploading_ne_sending
  | closed => exact absurd here.symm Serving.uploading_ne_sending
  | _ => cases here

end Server

/-- A server that still sends as the client has left sends chunks of a download. -/
theorem overruns_of_unread {reply : Message} {counted : UInt64} {goes : Continuation}
    (stands : Stands sessionId activity none stage up down)
    (sending : stage = .sending reply counted goes) (unread : down ≠ []) : Overruns stage down := by
  cases stands with
  | left _ serves =>
      cases serves with
      | receiving => cases sending
      | chunk _ => exact Or.inr unread
  | closed => exact absurd sending Serving.uploading_ne_sending
  | _ => cases sending

/-- Only a download is overrun. -/
theorem downloads_of_overruns (stands : Stands sessionId activity none stage up down)
    (overruns : Overruns stage down) : Downloads activity := by
  obtain ⟨reply, counted, goes, sending⟩ := sending_of_overruns overruns
  cases stands with
  | left downloads _ => exact downloads
  | closed => exact absurd sending Serving.uploading_ne_sending
  | _ => cases sending

/-- Only the chunks of an upload may be long. -/
theorem short_or_chunk {id : Uuid} {length : UInt32} {message : Message}
    {next : List Effect × Exchange}
    (stands : Stands sessionId activity (some exchange) stage up down)
    (sends : outgoing sessionId activity exchange = some message)
    (goesOn : afterSend id activity length exchange = some next) :
    message.payload.length ≤ 65536 ∨ ∃ bytes sequence size,
      exchange = .sendChunk bytes sequence size ∧
        stage = .receivingChunk (fileSize activity) bytes ∧ up = [] ∧ down = [] := by
  cases stands with
  | downloading =>
      obtain rfl := Option.some.inj sends
      exact Or.inl (by rw [downloadRequest, Message.length_sizeBytes]; decide)
  | asked => exact (not_sent_of_listens (listens_nextDownload _ _ _) sends goesOn).elim
  | served _ listens _ => exact (not_sent_of_listens listens sends goesOn).elim
  | uploading =>
      obtain rfl := Option.some.inj sends
      exact Or.inl (by rw [uploadRequest, Message.length_sizeBytes]; decide)
  | sending => exact Or.inr ⟨_, _, _, rfl, rfl, rfl, rfl⟩
  | closing => simp [afterSend] at goesOn
  | applied | granting | granted | sent | acking | acked => simp [outgoing] at sends

end Moves

end Npt.System
