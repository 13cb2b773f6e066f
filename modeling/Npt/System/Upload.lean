import Npt.System.TransferSession

/-!
Contract: an upload as both sides carry it out.

`perform_file_upload` and `handle_file_upload` each end on their own byte
counter. The two take turns, so an upload is always in one of eleven phases; a
phase says where both sides stand and what has been sent, and its rank counts
the steps that are left if every chunk were a single byte.

Owns: the phases of an upload, what a step does to them, and its completion.

Does not own: the session machine.
-/

namespace Npt.System

open Npt.Core
open Npt.Shared
open Npt.Client
open Npt.Server.TcpServer (Serving Stage Continuation)

/-! ## What an upload is to achieve -/

/-- The messages that acknowledge a chunk. -/
def acks (messages : List Message) : List Message :=
  messages.filter (fun message => message.payload = "CHUNK_ACK".toUTF8.toList)

/-- So far every acknowledgement answers its chunk, in order, and no error is
on the server's record. -/
structure Uploading (session : Session) : Prop where
  inOrder : acks session.downMessages.sent <+:
    (ofType .fileUploadChunk session.upMessages.delivered).map Serving.chunkAck
  faultless : session.server.metrics.Faultless session.server.connectionId

/-- All bytes were sent and received, every chunk was acknowledged once, in
order and under its own number, and the server recorded no error. -/
structure Uploaded (fileSize : UInt64) (session : Session) : Prop where
  sentBytes : payloadBytes (ofType .fileUploadChunk session.upMessages.sent) = fileSize.toNat
  receivedBytes :
    payloadBytes (ofType .fileUploadChunk session.upMessages.delivered) = fileSize.toNat
  acknowledged : acks session.downMessages.sent =
    (ofType .fileUploadChunk session.upMessages.sent).map Serving.chunkAck
  heard : acks session.downMessages.delivered = acks session.downMessages.sent
  distinct : ((ofType .fileUploadChunk session.upMessages.sent).map (·.sequence)).Nodup
  faultless : session.server.metrics.Faultless session.server.connectionId
  ended : session.server.metrics.Ended session.server.connectionId

/-! ## Phases -/

/-- What the server sends for a request and these chunks. -/
def answers (request : Message) (chunks : List Message) : List Message :=
  Serving.uploadAck request :: chunks.map Serving.chunkAck

section Answers

variable (request message : Message) (chunks messages : List Message)

theorem acks_append (later : List Message) : acks (messages ++ later) = acks messages ++ acks later :=
  List.filter_append ..

theorem acks_uploadAck : acks (Serving.uploadAck request :: messages) = acks messages := by
  have different : "ACK".toUTF8.toList ≠ "CHUNK_ACK".toUTF8.toList := by decide +kernel
  exact List.filter_cons_of_neg (by simpa [Serving.uploadAck] using different)

theorem acks_chunkAck : acks (messages.map Serving.chunkAck) = messages.map Serving.chunkAck := by
  refine List.filter_eq_self.mpr (fun ack member => ?_)
  obtain ⟨chunk, _, rfl⟩ := List.mem_map.mp member
  simp [Serving.chunkAck]

theorem ofType_upload {chunks : List Message} (chunked : Chunked .fileUploadChunk chunks)
    (sessionId : Uuid) (fileSize : UInt64) :
    ofType .fileUploadChunk (uploadRequest sessionId fileSize :: chunks) = chunks := by
  rw [ofType, List.filter_cons_of_neg (by simp [uploadRequest])]
  exact chunked.ofType_self

theorem ofType_closed_upload {chunks : List Message} (chunked : Chunked .fileUploadChunk chunks)
    (sessionId : Uuid) (fileSize : UInt64) :
    ofType .fileUploadChunk
      (uploadRequest sessionId fileSize :: (chunks ++ [closeMessage sessionId])) = chunks := by
  rw [ofType, List.filter_cons_of_neg (by simp [uploadRequest]), List.filter_append,
    List.filter_cons_of_neg (by simp [closeMessage]), List.filter_nil, List.append_nil]
  exact chunked.ofType_self

theorem acks_answers : acks (answers request chunks) = chunks.map Serving.chunkAck := by
  rw [answers, acks_uploadAck, acks_chunkAck]

end Answers

section Upload

variable {encodedLength : Message → Nat → Nat} {sessionId : Uuid} {call : TcpCall}
  {server : SocketAddr} {fileSize : UInt64} {session next : Session} {label : SessionLabel}

inductive UploadPhase (encodedLength : Message → Nat → Nat) (sessionId : Uuid) (call : TcpCall)
    (server : SocketAddr) (fileSize : UInt64) (session : Session) : Nat → Prop where
  | requesting
      (facing : Facing call server session (some .sendUploadRequest) .receiving {} {}) :
      UploadPhase encodedLength sessionId call server fileSize session (4 * fileSize.toNat + 7)
  | requested
      (facing : Facing call server session (some .receiveUploadAck) .receiving
        ⟨[], [uploadRequest sessionId fileSize]⟩ {}) :
      UploadPhase encodedLength sessionId call server fileSize session (4 * fileSize.toNat + 6)
  | granting
      (facing : Facing call server session (some .receiveUploadAck)
        (.sending (Serving.uploadAck (uploadRequest sessionId fileSize)) 3 (.upload fileSize 0))
        ⟨[uploadRequest sessionId fileSize], []⟩ {}) :
      UploadPhase encodedLength sessionId call server fileSize session (4 * fileSize.toNat + 5)
  | granted
      (facing : Facing call server session (some .receiveUploadAck) (Serving.uploading fileSize 0)
        ⟨[uploadRequest sessionId fileSize], []⟩
        ⟨[], [Serving.uploadAck (uploadRequest sessionId fileSize)]⟩) :
      UploadPhase encodedLength sessionId call server fileSize session (4 * fileSize.toNat + 4)
  | sending {chunks : List Message} {bytes sequence size : UInt64}
      (counters : ChunkCounters .fileUploadChunk chunks bytes sequence) (filled : 1 ≤ size.toNat)
      (room : bytes.toNat + size.toNat ≤ fileSize.toNat)
      (fitting : Fitting encodedLength (uploadChunk sessionId sequence size.toNat))
      (facing : Facing call server session (some (.sendChunk bytes sequence size))
        (.receivingChunk fileSize bytes)
        ⟨uploadRequest sessionId fileSize :: chunks, []⟩
        ⟨answers (uploadRequest sessionId fileSize) chunks, []⟩) :
      UploadPhase encodedLength sessionId call server fileSize session
        (4 * (fileSize.toNat - bytes.toNat) + 3)
  | sent {chunks : List Message} {bytes sequence size : UInt64}
      (counters : ChunkCounters .fileUploadChunk chunks bytes sequence) (filled : 1 ≤ size.toNat)
      (room : bytes.toNat + size.toNat ≤ fileSize.toNat)
      (facing : Facing call server session (some (.receiveChunkAck bytes sequence size))
        (.receivingChunk fileSize bytes)
        ⟨uploadRequest sessionId fileSize :: chunks, [uploadChunk sessionId sequence size.toNat]⟩
        ⟨answers (uploadRequest sessionId fileSize) chunks, []⟩) :
      UploadPhase encodedLength sessionId call server fileSize session
        (4 * (fileSize.toNat - bytes.toNat) + 2)
  | acking {chunks : List Message} {bytes sequence size : UInt64}
      (counters : ChunkCounters .fileUploadChunk chunks bytes sequence) (filled : 1 ≤ size.toNat)
      (room : bytes.toNat + size.toNat ≤ fileSize.toNat)
      (facing : Facing call server session (some (.receiveChunkAck bytes sequence size))
        (.sending (Serving.chunkAck (uploadChunk sessionId sequence size.toNat)) 9
          (.upload fileSize (bytes + size)))
        ⟨uploadRequest sessionId fileSize ::
          (chunks ++ [uploadChunk sessionId sequence size.toNat]), []⟩
        ⟨answers (uploadRequest sessionId fileSize) chunks, []⟩) :
      UploadPhase encodedLength sessionId call server fileSize session
        (4 * (fileSize.toNat - bytes.toNat) + 1)
  | acked {chunks : List Message} {bytes sequence size : UInt64}
      (counters : ChunkCounters .fileUploadChunk chunks bytes sequence) (filled : 1 ≤ size.toNat)
      (room : bytes.toNat + size.toNat ≤ fileSize.toNat)
      (facing : Facing call server session (some (.receiveChunkAck bytes sequence size))
        (Serving.uploading fileSize (bytes + size))
        ⟨uploadRequest sessionId fileSize ::
          (chunks ++ [uploadChunk sessionId sequence size.toNat]), []⟩
        ⟨answers (uploadRequest sessionId fileSize) chunks,
          [Serving.chunkAck (uploadChunk sessionId sequence size.toNat)]⟩) :
      UploadPhase encodedLength sessionId call server fileSize session
        (4 * (fileSize.toNat - bytes.toNat))
  | closing {chunks : List Message} {sequence : UInt64}
      (counters : ChunkCounters .fileUploadChunk chunks fileSize sequence)
      (facing : Facing call server session (some .sendClose) .receiving
        ⟨uploadRequest sessionId fileSize :: chunks, []⟩
        ⟨answers (uploadRequest sessionId fileSize) chunks, []⟩) :
      UploadPhase encodedLength sessionId call server fileSize session 2
  | closed {chunks : List Message} {sequence : UInt64}
      (counters : ChunkCounters .fileUploadChunk chunks fileSize sequence)
      (facing : Facing call server session none .receiving
        ⟨uploadRequest sessionId fileSize :: chunks, [closeMessage sessionId]⟩
        ⟨answers (uploadRequest sessionId fileSize) chunks, []⟩) :
      UploadPhase encodedLength sessionId call server fileSize session 1
  | finished {chunks : List Message} {sequence : UInt64}
      (counters : ChunkCounters .fileUploadChunk chunks fileSize sequence)
      (facing : Facing call server session none .returned
        ⟨uploadRequest sessionId fileSize :: (chunks ++ [closeMessage sessionId]), []⟩
        ⟨answers (uploadRequest sessionId fileSize) chunks, []⟩) :
      UploadPhase encodedLength sessionId call server fileSize session 0

/-! ## What a step does to a phase -/

/-- The loop test of `perform_file_upload`: the next chunk is not empty and leaves
what is to be sent after it. -/
theorem nextUpload_cases {bytes sequence : UInt64} {range : UInt32 × UInt32} {draw : Nat}
    {exchange : Exchange} (within : bytes.toNat ≤ fileSize.toNat) (low : 1 ≤ range.1.toNat)
    (next : nextUpload fileSize bytes sequence range draw = some exchange) :
    (∃ size : UInt64, exchange = .sendChunk bytes sequence size ∧ bytes < fileSize ∧
      1 ≤ size.toNat ∧ size.toNat ≤ range.2.toNat ∧
      bytes.toNat + size.toNat ≤ fileSize.toNat) ∨
    (exchange = .sendClose ∧ bytes = fileSize) := by
  unfold nextUpload at next
  split at next
  · rename_i more
    obtain ⟨size, drawn, rfl⟩ := Option.map_eq_some_iff.mp next
    unfold genRange at drawn
    split at drawn
    · rename_i ordered
      have order := UInt32.le_iff_toNat_le.mp ordered
      have remainder := Nat.mod_lt draw (show 0 < range.2.toNat - range.1.toNat + 1 by omega)
      obtain rfl := Option.some.inj drawn
      have small := range.2.toNat_lt
      obtain ⟨filled, bound, room⟩ := chunk_bounds more
        (show 1 ≤ range.1.toNat + draw % (range.2.toNat - range.1.toNat + 1) by omega) (by omega)
      exact Or.inl ⟨_, rfl, more, filled, bound.trans (by omega), room⟩
    · simp at drawn
  · rename_i done
    obtain rfl := Option.some.inj next
    have beyond := mt UInt64.lt_iff_toNat_lt.mpr done
    exact Or.inr ⟨rfl, UInt64.toNat_inj.mp (by omega)⟩

/-- Drawing from a range that is not empty goes on. -/
theorem nextUpload_isSome {range : UInt32 × UInt32} (ordered : range.1 ≤ range.2)
    (bytes sequence : UInt64) (draw : Nat) :
    (nextUpload fileSize bytes sequence range draw).isSome = true := by
  unfold nextUpload
  split
  · simp [genRange, ordered]
  · rfl

namespace UploadPhase

variable {range : UInt32 × UInt32}

/-- Both loop tests after the same chunks come out the same. -/
theorem of_next {chunks : List Message} {bytes sequence : UInt64} {draw : Nat}
    (fits : ∀ sequence size, size ≤ range.2.toNat →
      Fitting encodedLength (uploadChunk sessionId sequence size))
    (low : 1 ≤ range.1.toNat) (ordered : range.1 ≤ range.2)
    (counters : ChunkCounters .fileUploadChunk chunks bytes sequence)
    (within : bytes.toNat ≤ fileSize.toNat)
    (facing : Facing call server session (nextUpload fileSize bytes sequence range draw)
      (Serving.uploading fileSize bytes)
      ⟨uploadRequest sessionId fileSize :: chunks, []⟩
      ⟨answers (uploadRequest sessionId fileSize) chunks, []⟩) :
    ∃ lower ≤ 4 * (fileSize.toNat - bytes.toNat) + 3,
      UploadPhase encodedLength sessionId call server fileSize session lower := by
  obtain ⟨exchange, onward⟩ :=
    Option.isSome_iff_exists.mp (nextUpload_isSome ordered bytes sequence draw)
  rw [onward] at facing
  rcases nextUpload_cases within low onward with
    ⟨size, rfl, more, filled, bound, room⟩ | ⟨rfl, rfl⟩
  · rw [Serving.uploading_of_lt more] at facing
    exact ⟨_, le_rfl, .sending counters filled room (fits sequence _ bound) facing⟩
  · rw [Serving.uploading_self] at facing
    exact ⟨2, by omega, .closing counters facing⟩

theorem transfer_of_upload (activity : call.activity = .fileUpload fileSize range) :
    afterConnection call = .returned := by
  simp [afterConnection, activity]

section Steps

variable (activity : call.activity = .fileUpload fileSize range)
  (taken : session.step encodedLength sessionId label = some next)

include activity taken

theorem step_requesting
    (compact : ∀ message stamp, encodedLength message stamp ≤ 2 * message.payload.length + 1024)
    (facing : Facing call server session (some .sendUploadRequest) .receiving {} {}) :
    UploadPhase encodedLength sessionId call server fileSize next (4 * fileSize.toNat + 6) := by
  cases facing.moved (transfer_of_upload activity) taken with
  | clientSent waits sends goesOn after =>
      obtain rfl := Option.some.inj waits
      obtain rfl := Option.some.inj sends
      obtain ⟨_, rfl⟩ := Prod.mk.inj (Option.some.inj goesOn)
      rw [activity] at after
      refine .requested (after (fitting_of_short compact ?_))
      rw [uploadRequest, Message.length_sizeBytes]
      decide
  | clientClosed waits => simp at waits
  | clientReceived _ arrived => simp at arrived
  | serverReceived arrived => simp at arrived
  | serverSent sends => simp at sends

theorem step_requested
    (facing : Facing call server session (some .receiveUploadAck) .receiving
      ⟨[], [uploadRequest sessionId fileSize]⟩ {}) :
    UploadPhase encodedLength sessionId call server fileSize next (4 * fileSize.toNat + 5) := by
  cases facing.moved (transfer_of_upload activity) taken with
  | clientSent waits sends =>
      obtain rfl := Option.some.inj waits
      simp [outgoing] at sends
  | clientClosed waits => simp at waits
  | clientReceived _ arrived => simp at arrived
  | serverReceived arrived handles after =>
      obtain ⟨rfl, rfl⟩ := Prod.mk.inj (Option.some.inj arrived)
      have stage := Serving.stage_of_uploadRequest facing.stage rfl handles
      rw [stage, uploadRequest, Message.requestedSize_sizeBytes] at after
      exact .granting after
  | serverSent sends => simp at sends

theorem step_granting
    (compact : ∀ message stamp, encodedLength message stamp ≤ 2 * message.payload.length + 1024)
    (facing : Facing call server session (some .receiveUploadAck)
      (.sending (Serving.uploadAck (uploadRequest sessionId fileSize)) 3 (.upload fileSize 0))
      ⟨[uploadRequest sessionId fileSize], []⟩ {}) :
    UploadPhase encodedLength sessionId call server fileSize next (4 * fileSize.toNat + 4) := by
  cases facing.moved (transfer_of_upload activity) taken with
  | clientSent waits sends =>
      obtain rfl := Option.some.inj waits
      simp [outgoing] at sends
  | clientClosed waits => simp at waits
  | clientReceived _ arrived => simp at arrived
  | serverReceived arrived => simp at arrived
  | serverSent sends handles after =>
      obtain ⟨rfl, rfl, rfl⟩ := Stage.sending.inj sends
      rw [Serving.stage_of_sent_upload facing.stage handles] at after
      have short := fitting_of_short compact
        (show (Serving.uploadAck (uploadRequest sessionId fileSize)).payload.length ≤ 65536 by
          rw [Serving.length_uploadAck]
          decide)
      exact .granted (after short)

theorem step_granted
    (fits : ∀ sequence size, size ≤ range.2.toNat →
      Fitting encodedLength (uploadChunk sessionId sequence size))
    (low : 1 ≤ range.1.toNat) (ordered : range.1 ≤ range.2)
    (facing : Facing call server session (some .receiveUploadAck) (Serving.uploading fileSize 0)
      ⟨[uploadRequest sessionId fileSize], []⟩
      ⟨[], [Serving.uploadAck (uploadRequest sessionId fileSize)]⟩) :
    ∃ lower < 4 * fileSize.toNat + 4,
      UploadPhase encodedLength sessionId call server fileSize next lower := by
  cases facing.moved (transfer_of_upload activity) taken with
  | clientSent waits sends =>
      obtain rfl := Option.some.inj waits
      simp [outgoing] at sends
  | clientClosed waits => simp at waits
  | clientReceived waits arrived goesOn after =>
      obtain rfl := Option.some.inj waits
      obtain ⟨rfl, rfl⟩ := Prod.mk.inj (Option.some.inj arrived)
      obtain ⟨_, rfl⟩ := Prod.mk.inj (Option.some.inj goesOn)
      rw [activity] at after
      obtain ⟨lower, bound, phase⟩ := of_next fits low ordered .zero (Nat.zero_le _)
        (after (nextUpload_isSome ordered 0 0 _))
      exact ⟨lower, Nat.lt_succ_of_le bound, phase⟩
  | serverReceived arrived => simp at arrived
  | serverSent sends => exact absurd sends Serving.uploading_ne_sending

theorem step_sending
    {chunks : List Message} {bytes sequence size : UInt64}
    (counters : ChunkCounters .fileUploadChunk chunks bytes sequence) (filled : 1 ≤ size.toNat)
    (room : bytes.toNat + size.toNat ≤ fileSize.toNat)
    (fitting : Fitting encodedLength (uploadChunk sessionId sequence size.toNat))
    (facing : Facing call server session (some (.sendChunk bytes sequence size))
      (.receivingChunk fileSize bytes) ⟨uploadRequest sessionId fileSize :: chunks, []⟩
      ⟨answers (uploadRequest sessionId fileSize) chunks, []⟩) :
    UploadPhase encodedLength sessionId call server fileSize next
      (4 * (fileSize.toNat - bytes.toNat) + 2) := by
  cases facing.moved (transfer_of_upload activity) taken with
  | clientSent waits sends goesOn after =>
      obtain rfl := Option.some.inj waits
      obtain rfl := Option.some.inj sends
      obtain ⟨_, rfl⟩ := Prod.mk.inj (Option.some.inj goesOn)
      exact .sent counters filled room (after fitting)
  | clientClosed waits => simp at waits
  | clientReceived _ arrived => simp at arrived
  | serverReceived arrived => simp at arrived
  | serverSent sends => simp at sends

theorem step_sent
    {chunks : List Message} {bytes sequence size : UInt64}
    (counters : ChunkCounters .fileUploadChunk chunks bytes sequence) (filled : 1 ≤ size.toNat)
    (room : bytes.toNat + size.toNat ≤ fileSize.toNat)
    (facing : Facing call server session (some (.receiveChunkAck bytes sequence size))
      (.receivingChunk fileSize bytes)
      ⟨uploadRequest sessionId fileSize :: chunks, [uploadChunk sessionId sequence size.toNat]⟩
      ⟨answers (uploadRequest sessionId fileSize) chunks, []⟩) :
    UploadPhase encodedLength sessionId call server fileSize next
      (4 * (fileSize.toNat - bytes.toNat) + 1) := by
  cases facing.moved (transfer_of_upload activity) taken with
  | clientSent waits sends =>
      obtain rfl := Option.some.inj waits
      simp [outgoing] at sends
  | clientClosed waits => simp at waits
  | clientReceived _ arrived => simp at arrived
  | serverReceived arrived handles after =>
      obtain ⟨rfl, rfl⟩ := Prod.mk.inj (Option.some.inj arrived)
      rw [Serving.stage_of_chunk facing.stage rfl handles] at after
      have whole : UInt64.ofNat (uploadChunk sessionId sequence size.toNat).payload.length =
          size := by
        simp [uploadChunk]
      rw [whole] at after
      exact .acking counters filled room after
  | serverSent sends => simp at sends

theorem step_acking
    (compact : ∀ message stamp, encodedLength message stamp ≤ 2 * message.payload.length + 1024)
    {chunks : List Message} {bytes sequence size : UInt64}
    (counters : ChunkCounters .fileUploadChunk chunks bytes sequence) (filled : 1 ≤ size.toNat)
    (room : bytes.toNat + size.toNat ≤ fileSize.toNat)
    (facing : Facing call server session (some (.receiveChunkAck bytes sequence size))
      (.sending (Serving.chunkAck (uploadChunk sessionId sequence size.toNat)) 9
        (.upload fileSize (bytes + size)))
      ⟨uploadRequest sessionId fileSize ::
        (chunks ++ [uploadChunk sessionId sequence size.toNat]), []⟩
      ⟨answers (uploadRequest sessionId fileSize) chunks, []⟩) :
    UploadPhase encodedLength sessionId call server fileSize next
      (4 * (fileSize.toNat - bytes.toNat)) := by
  cases facing.moved (transfer_of_upload activity) taken with
  | clientSent waits sends =>
      obtain rfl := Option.some.inj waits
      simp [outgoing] at sends
  | clientClosed waits => simp at waits
  | clientReceived _ arrived => simp at arrived
  | serverReceived arrived => simp at arrived
  | serverSent sends handles after =>
      obtain ⟨rfl, rfl, rfl⟩ := Stage.sending.inj sends
      rw [Serving.stage_of_sent_upload facing.stage handles] at after
      refine .acked counters filled room (after (fitting_of_short compact ?_))
      rw [Serving.length_chunkAck]
      decide

theorem step_acked
    (fits : ∀ sequence size, size ≤ range.2.toNat →
      Fitting encodedLength (uploadChunk sessionId sequence size))
    (low : 1 ≤ range.1.toNat) (ordered : range.1 ≤ range.2)
    {chunks : List Message} {bytes sequence size : UInt64}
    (counters : ChunkCounters .fileUploadChunk chunks bytes sequence) (filled : 1 ≤ size.toNat)
    (room : bytes.toNat + size.toNat ≤ fileSize.toNat)
    (facing : Facing call server session (some (.receiveChunkAck bytes sequence size))
      (Serving.uploading fileSize (bytes + size))
      ⟨uploadRequest sessionId fileSize ::
        (chunks ++ [uploadChunk sessionId sequence size.toNat]), []⟩
      ⟨answers (uploadRequest sessionId fileSize) chunks,
        [Serving.chunkAck (uploadChunk sessionId sequence size.toNat)]⟩) :
    ∃ lower < 4 * (fileSize.toNat - bytes.toNat),
      UploadPhase encodedLength sessionId call server fileSize next lower := by
  have small := fileSize.toNat_lt
  cases facing.moved (transfer_of_upload activity) taken with
  | clientSent waits sends =>
      obtain rfl := Option.some.inj waits
      simp [outgoing] at sends
  | clientClosed waits => simp at waits
  | clientReceived waits arrived goesOn after =>
      obtain rfl := Option.some.inj waits
      obtain ⟨rfl, rfl⟩ := Prod.mk.inj (Option.some.inj arrived)
      obtain ⟨_, rfl⟩ := Prod.mk.inj (Option.some.inj goesOn)
      rw [activity] at after
      have answered := after (nextUpload_isSome ordered (bytes + size) (sequence + 1) _)
      have total : (bytes + size).toNat = bytes.toNat + size.toNat := by
        rw [UInt64.toNat_add, Nat.mod_eq_of_lt (by omega)]
      have grown : ChunkCounters .fileUploadChunk
          (chunks ++ [uploadChunk sessionId sequence size.toNat]) (bytes + size) (sequence + 1) :=
        counters.snoc rfl (Message.length_zeros _) filled rfl (by omega)
      have within : (bytes + size).toNat ≤ fileSize.toNat := by omega
      obtain ⟨lower, bound, phase⟩ := of_next fits low ordered grown within
        (by simpa [answers, Npt.Client.fileSize, chunkSize] using answered)
      exact ⟨lower, by omega, phase⟩
  | serverReceived arrived => simp at arrived
  | serverSent sends => exact absurd sends Serving.uploading_ne_sending

theorem step_closing
    (compact : ∀ message stamp, encodedLength message stamp ≤ 2 * message.payload.length + 1024)
    {chunks : List Message} {sequence : UInt64}
    (counters : ChunkCounters .fileUploadChunk chunks fileSize sequence)
    (facing : Facing call server session (some .sendClose) .receiving
      ⟨uploadRequest sessionId fileSize :: chunks, []⟩
      ⟨answers (uploadRequest sessionId fileSize) chunks, []⟩) :
    UploadPhase encodedLength sessionId call server fileSize next 1 := by
  cases facing.moved (transfer_of_upload activity) taken with
  | clientSent waits sends goesOn =>
      obtain rfl := Option.some.inj waits
      simp [afterSend] at goesOn
  | clientClosed _ after => exact .closed counters (after (fitting_of_short compact (Nat.zero_le _)))
  | clientReceived _ arrived => simp at arrived
  | serverReceived arrived => simp at arrived
  | serverSent sends => simp at sends

theorem step_closed
    {chunks : List Message} {sequence : UInt64}
    (counters : ChunkCounters .fileUploadChunk chunks fileSize sequence)
    (facing : Facing call server session none .receiving
      ⟨uploadRequest sessionId fileSize :: chunks, [closeMessage sessionId]⟩
      ⟨answers (uploadRequest sessionId fileSize) chunks, []⟩) :
    UploadPhase encodedLength sessionId call server fileSize next 0 := by
  cases facing.moved (transfer_of_upload activity) taken with
  | clientSent waits => simp at waits
  | clientClosed waits => simp at waits
  | clientReceived waits => simp at waits
  | serverReceived arrived handles after =>
      obtain ⟨rfl, rfl⟩ := Prod.mk.inj (Option.some.inj arrived)
      rw [Serving.stage_of_close facing.stage rfl handles] at after
      exact .finished counters after
  | serverSent sends => simp at sends

/-- Every step takes an upload to a phase of lower rank. -/
theorem lowers
    (compact : ∀ message stamp, encodedLength message stamp ≤ 2 * message.payload.length + 1024)
    (fits : ∀ sequence size, size ≤ range.2.toNat →
      Fitting encodedLength (uploadChunk sessionId sequence size))
    (low : 1 ≤ range.1.toNat) (ordered : range.1 ≤ range.2) {here : Nat}
    (phase : UploadPhase encodedLength sessionId call server fileSize session here) :
    ∃ lower < here, UploadPhase encodedLength sessionId call server fileSize next lower := by
  cases phase with
  | requesting facing =>
      exact ⟨_, Nat.lt_succ_self _, step_requesting activity taken compact facing⟩
  | requested facing => exact ⟨_, Nat.lt_succ_self _, step_requested activity taken facing⟩
  | granting facing => exact ⟨_, Nat.lt_succ_self _, step_granting activity taken compact facing⟩
  | granted facing => exact step_granted activity taken fits low ordered facing
  | sending counters filled room fitting facing =>
      exact ⟨_, Nat.lt_succ_self _, step_sending activity taken counters filled room fitting facing⟩
  | sent counters filled room facing =>
      exact ⟨_, Nat.lt_succ_self _, step_sent activity taken counters filled room facing⟩
  | acking counters filled room facing =>
      exact ⟨_, Nat.lt_succ_self _, step_acking activity taken compact counters filled room facing⟩
  | acked counters filled room facing =>
      exact step_acked activity taken fits low ordered counters filled room facing
  | closing counters facing =>
      exact ⟨1, by decide, step_closing activity taken compact counters facing⟩
  | closed counters facing =>
      exact ⟨0, by decide, step_closed activity taken counters facing⟩
  | finished counters facing =>
      cases facing.moved (transfer_of_upload activity) taken with
      | clientSent waits => simp at waits
      | clientClosed waits => simp at waits
      | clientReceived waits => simp at waits
      | serverReceived arrived => simp at arrived
      | serverSent sends => simp at sends

end Steps

theorem live {here : Nat}
    (phase : UploadPhase encodedLength sessionId call server fileSize session here) :
    session.Over ∨ session.CanMove encodedLength sessionId := by
  cases phase with
  | requesting facing =>
      exact Or.inr ⟨.clientSends, fun label turn => facing.clientSends_isSome rfl turn⟩
  | requested facing =>
      exact Or.inr ⟨.serverReceives, fun label turn =>
        facing.serverReceives_isSome (Or.inl facing.stage) rfl turn⟩
  | granting facing => exact Or.inr ⟨.serverSends, fun label turn => facing.serverSends_isSome turn⟩
  | granted facing =>
      exact Or.inr ⟨.clientReceives, fun label turn => facing.clientReceives_isSome rfl rfl turn⟩
  | sending counters filled room fitting facing =>
      exact Or.inr ⟨.clientSends, fun label turn => facing.clientSends_isSome rfl turn⟩
  | sent counters filled room facing =>
      exact Or.inr ⟨.serverReceives, fun label turn =>
        facing.serverReceives_isSome (Or.inr ⟨_, _, facing.stage⟩) rfl turn⟩
  | acking counters filled room facing =>
      exact Or.inr ⟨.serverSends, fun label turn => facing.serverSends_isSome turn⟩
  | acked counters filled room facing =>
      exact Or.inr ⟨.clientReceives, fun label turn => facing.clientReceives_isSome rfl rfl turn⟩
  | closing counters facing =>
      exact Or.inr ⟨.clientSends, fun label turn => facing.clientSends_isSome rfl turn⟩
  | closed counters facing =>
      exact Or.inr ⟨.serverReceives, fun label turn =>
        facing.serverReceives_isSome (Or.inl facing.stage) rfl turn⟩
  | finished counters facing => exact Or.inl ⟨facing.client, facing.stage⟩

theorem chunked_snoc {chunks : List Message} {bytes sequence size : UInt64}
    (counters : ChunkCounters .fileUploadChunk chunks bytes sequence) (filled : 1 ≤ size.toNat) :
    Chunked .fileUploadChunk (chunks ++ [uploadChunk sessionId sequence size.toNat]) :=
  counters.chunked.snoc rfl (by simpa [uploadChunk] using filled) counters.next

/-- Every acknowledgement so far answers its chunk. -/
theorem inOrder {here : Nat}
    (phase : UploadPhase encodedLength sessionId call server fileSize session here) :
    acks session.downMessages.sent <+:
      (ofType .fileUploadChunk session.upMessages.delivered).map Serving.chunkAck := by
  cases phase with
  | requesting facing | requested facing | granting facing =>
      rw [facing.down]
      exact List.nil_prefix
  | granted facing =>
      rw [facing.down, Channel.sent_mk, List.nil_append, acks_uploadAck]
      exact List.nil_prefix
  | sending counters _ _ _ facing | sent counters _ _ facing | closing counters facing
  | closed counters facing =>
      rw [facing.down, facing.up, Channel.sent_mk, List.append_nil, acks_answers,
        ofType_upload counters.chunked]
  | acking counters filled room facing =>
      rw [facing.down, facing.up, Channel.sent_mk, List.append_nil, acks_answers,
        ofType_upload (chunked_snoc counters filled), List.map_append]
      exact List.prefix_append _ _
  | acked counters filled room facing =>
      rw [facing.down, facing.up, Channel.sent_mk, acks_append, acks_answers,
        ofType_upload (chunked_snoc counters filled), List.map_append, ← List.map_singleton,
        acks_chunkAck]
  | finished counters facing =>
      rw [facing.down, facing.up, Channel.sent_mk, List.append_nil, acks_answers,
        ofType_closed_upload counters.chunked]

theorem clean {here : Nat}
    (phase : UploadPhase encodedLength sessionId call server fileSize session here) :
    session.server.Clean := by
  cases phase with
  | requesting facing | requested facing | granting facing | granted facing
  | sending _ _ _ _ facing | sent _ _ _ facing | acking _ _ _ facing | acked _ _ _ facing
  | closing _ facing | closed _ facing | finished _ facing => exact facing.clean

theorem uploaded {here : Nat}
    (phase : UploadPhase encodedLength sessionId call server fileSize session here)
    (finished : session.Over) : Uploaded fileSize session := by
  obtain ⟨returned, closed⟩ := finished
  cases phase with
  | requesting facing | requested facing | granting facing | granted facing
  | sending _ _ _ _ facing | sent _ _ _ facing | acking _ _ _ facing | acked _ _ _ facing
  | closing _ facing =>
      simp [facing.client, clientAt] at returned
  | closed _ facing => simp [facing.stage] at closed
  | finished counters facing =>
      have sent := ofType_closed_upload counters.chunked sessionId fileSize
      refine ⟨?_, ?_, ?_, ?_, ?_, facing.clean.faultless, facing.clean.ended facing.stage⟩
      · rw [facing.up, Channel.sent_mk, List.append_nil, sent, counters.total]
      · rw [facing.up, sent, counters.total]
      · rw [facing.down, facing.up, Channel.sent_mk, List.append_nil, acks_answers,
          Channel.sent_mk, List.append_nil, sent]
      · rw [facing.down, Channel.sent_mk, List.append_nil]
      · rw [facing.up, Channel.sent_mk, List.append_nil, sent]
        exact counters.distinct

end UploadPhase

/-- An upload completes, whatever is drawn and whoever moves first. -/
theorem upload_completes {range : UInt32 × UInt32}
    (compact : ∀ message stamp, encodedLength message stamp ≤ 2 * message.payload.length + 1024)
    (fits : ∀ sequence size, size ≤ range.2.toNat →
      Fitting encodedLength (uploadChunk sessionId sequence size))
    (low : 1 ≤ range.1) (ordered : range.1 ≤ range.2)
    (activity : call.activity = .fileUpload fileSize range) (connectionId : Uuid)
    (metrics : MetricsCollector) (now : Nat) :
    Completes encodedLength sessionId (Session.begin call server connectionId metrics now)
      Uploading (Uploaded fileSize) := by
  have positive : 1 ≤ range.1.toNat := UInt32.le_iff_toNat_le.mp low
  refine .of_phases (UploadPhase encodedLength sessionId call server fileSize) (.requesting ?_)
    (fun here session label next phase taken =>
      UploadPhase.lowers activity taken compact fits positive ordered phase)
    (fun session here phase => phase.live)
    (fun session here phase => ⟨phase.inOrder, phase.clean.faultless⟩)
    (fun session here phase finished => phase.uploaded finished)
  have first : firstExchange call.activity = .sendUploadRequest := by rw [activity]; rfl
  refine ⟨?_, rfl, rfl, rfl, by simp [Session.begin], by simp [Session.begin],
    Serving.clean_accept now connectionId metrics⟩
  rw [Session.begin, first]
  rfl

end Upload

end Npt.System
