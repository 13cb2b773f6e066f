import Npt.Server.MessageAccounting

/-!
Contract: what a TCP connection of the server sends in answer to the messages
it decodes (`server/src/tcp_server.rs`), over runs in which no message fails.

Owns: where the code that handles a message leaves the connection, the single
reply to every message but a download request and a close request, the chunks of
one download, and what leads to the loop of `handle_file_upload` and to the end
of the connection.

Does not own: who sends the messages.
-/

namespace Npt.Server.TcpServer

open Npt.Core
open Npt.Shared

/-- The types of messages. -/
def kinds (messages : List Message) : List MessageType := messages.map (·.messageType)

@[simp] theorem kinds_append (earlier later : List Message) :
    kinds (earlier ++ later) = kinds earlier ++ kinds later := List.map_append

/-! ## Stages -/

/-- The loop of `handle_file_download` is left, or sends another chunk. -/
inductive Chunking (fileSize bytesSent : UInt64) : Stage → Prop where
  | left : Chunking fileSize bytesSent .receiving
  | chunk {reply : Message} {size sequence : UInt64} {sessionId : Uuid}
      (filled : 1 ≤ reply.payload.length) (sized : reply.payload.length = size.toNat)
      (room : bytesSent.toNat + size.toNat ≤ fileSize.toNat) :
      Chunking fileSize bytesSent
        (.sending reply size (.download fileSize (bytesSent + size) sequence sessionId))

/-- Where `handle_message` leaves the connection. -/
inductive Answer (message : Message) : Stage → Prop where
  | reply {reply : Message} {counted : UInt64}
      (kind : message.messageType ∈ [.tlsHandshake, .httpRequest, .fileUploadChunk]) :
      Answer message (.sending reply counted .respond)
  | grant (kind : message.messageType = .fileUploadRequest) :
      Answer message (.sending (Serving.uploadAck message) 3 (.upload message.requestedSize 0))
  | download {stage : Stage} (kind : message.messageType = .fileDownloadRequest)
      (chunking : Chunking message.requestedSize 0 stage) : Answer message stage
  | close (kind : message.messageType = .connectionClose) : Answer message .returned
  | ignore (kind : message.messageType ∉ [.tlsHandshake, .httpRequest, .fileDownloadRequest,
      .fileUploadRequest, .fileUploadChunk, .connectionClose]) : Answer message .receiving

namespace Serving

section Stages

variable (serving : Serving) (message : Message) (draw latency now : Nat)

theorem chunking_download (fileSize bytesSent sequence : UInt64) (sessionId : Uuid) :
    Chunking fileSize bytesSent
      (serving.download fileSize bytesSent sequence sessionId draw latency).stage := by
  by_cases more : bytesSent < fileSize
  · obtain ⟨size, filled, _, room, stage⟩ :=
      serving.stage_download_of_lt draw latency more sequence sessionId
    rw [stage]
    exact .chunk (by simpa using filled) (by simp) room
  · rw [download, if_neg more]
    exact .left

theorem answer_handleMessage :
    Answer message (serving.handleMessage message draw latency now).stage := by
  unfold handleMessage
  split
  · rename_i kind
    exact .reply (by simp [kind])
  · rename_i kind
    exact .reply (by simp [kind])
  · rename_i kind
    exact .download kind (chunking_download _ _ _ _ _ _ _)
  · rename_i kind
    exact .grant kind
  · rename_i kind
    exact .reply (by simp [kind])
  · rename_i kind
    exact .close kind
  · rename_i handshake request download upload chunk close
    refine .ignore (fun member => ?_)
    simp only [List.mem_cons, List.not_mem_nil, or_false] at member
    rcases member with kind | kind | kind | kind | kind | kind
    · exact handshake kind
    · exact request kind
    · exact download kind
    · exact upload kind
    · exact chunk kind
    · exact close kind

end Stages

/-- What is dispatched was decoded. -/
theorem kinds_dispatched_subset {trace : List (Serving × Label)} :
    kinds (dispatched trace) ⊆ kinds (decoded trace) := by
  refine List.map_subset _ (fun message member => ?_)
  obtain ⟨entry, within, dispatches⟩ := List.mem_filterMap.mp member
  refine List.mem_filterMap.mpr ⟨entry, within, ?_⟩
  obtain ⟨serving, label⟩ := entry
  cases label with
  | received received draw latency now =>
      simp only [dispatching] at dispatches
      split at dispatches
      · exact dispatches
      · split at dispatches
        · exact dispatches
        · simp at dispatches
      · simp at dispatches
  | _ => simp [dispatching] at dispatches

/-! ## Runs without a failure -/

/-- What a step does to the stage, with the message it decodes, the one it
dispatches, and the reply it has sent. -/
inductive StageMove : Stage → Option Message → Option Message → Option Message → Stage → Prop where
  | handled {message : Message} {stage : Stage} (answer : Answer message stage) :
      StageMove .receiving (some message) (some message) none stage
  | chunk {message : Message} {expectedSize bytesReceived : UInt64}
      (kind : message.messageType = .fileUploadChunk) :
      StageMove (.receivingChunk expectedSize bytesReceived) (some message) (some message) none
        (.sending (chunkAck message) 9
          (.upload expectedSize (bytesReceived + UInt64.ofNat message.payload.length)))
  | forgotten {message : Message} {expectedSize bytesReceived : UInt64}
      (kind : message.messageType ≠ .fileUploadChunk) :
      StageMove (.receivingChunk expectedSize bytesReceived) (some message) none none .receiving
  | responded {reply : Message} {counted : UInt64} :
      StageMove (.sending reply counted .respond) none none (some reply) .receiving
  | acknowledged {reply : Message} {counted expectedSize bytesReceived : UInt64} :
      StageMove (.sending reply counted (.upload expectedSize bytesReceived)) none none (some reply)
        (uploading expectedSize bytesReceived)
  | streamed {reply : Message} {counted fileSize bytesSent sequence : UInt64} {sessionId : Uuid}
      {stage : Stage} (chunking : Chunking fileSize bytesSent stage) :
      StageMove (.sending reply counted (.download fileSize bytesSent sequence sessionId)) none none
        (some reply) stage

theorem stageMove_of_moved {serving next : Serving} {label : Label}
    (moved : Moved serving label next) (fine : label.fails = false) :
    StageMove serving.stage (decoding (serving, label)) (dispatching (serving, label))
      (replying (serving, label)) next.stage := by
  cases moved with
  | @handled message draw latency now waits =>
      have answer := answer_handleMessage (serving.count message) message draw latency now
      simpa [decoding, dispatching, replying, waits] using StageMove.handled answer
  | chunk waits kind =>
      simpa [decoding, dispatching, replying, waits, kind] using StageMove.chunk kind
  | forgotten waits kind =>
      simpa [decoding, dispatching, replying, waits, kind] using StageMove.forgotten kind
  | disconnected | uploadFailed | sendFailed => simp [Label.fails] at fine
  | @replied draw latency reply counted goes waits =>
      simp only [decoding, dispatching, replying, waits]
      cases goes with
      | respond => exact .responded
      | upload expectedSize bytesReceived =>
          rw [resume, stage_upload]
          exact .acknowledged
      | download fileSize bytesSent sequence sessionId =>
          exact .streamed (chunking_download _ draw latency fileSize bytesSent sequence sessionId)

/-- What every faultless step preserves of the messages and the stage holds
after every run without a failure. -/
theorem faultless_history {connectionId : Uuid} {metrics : MetricsCollector} {now : Nat}
    {final : Serving} {trace : List (Serving × Label)}
    (run : servingMachine.Run (accept connectionId metrics now) trace final)
    (faultless : ∀ entry ∈ trace, entry.2.fails = false)
    (invariant : List Message → List Message → List Message → Stage → Prop)
    (initial : invariant [] [] [] .receiving)
    (preserved : ∀ before dispatches sent stage message dispatch reply next,
      invariant before dispatches sent stage → StageMove stage message dispatch reply next →
      invariant (before ++ message.toList) (dispatches ++ dispatch.toList) (sent ++ reply.toList)
        next) :
    invariant (decoded trace) (dispatched trace) (replies trace) final.stage := by
  refine run.history (fun trace final => (∀ entry ∈ trace, entry.2.fails = false) →
    invariant (decoded trace) (dispatched trace) (replies trace) final.stage)
    (fun _ => initial) ?_ faultless
  intro trace serving label next _ earlier taken fine
  obtain ⟨before, last⟩ := List.forall_mem_append.mp fine
  rw [decoded_snoc, dispatched_snoc, replies_snoc]
  exact preserved _ _ _ _ _ _ _ _ (earlier before)
    (stageMove_of_moved (moved_of_step taken) (last _ List.mem_cons_self))

/-- In the upload that a request has started. -/
def inUpload : Stage → Bool
  | .receivingChunk _ _ | .sending _ _ (.upload _ _) => true
  | _ => false

/-- In `handle_file_download`. -/
def inDownload : Stage → Bool
  | .sending _ _ (.download _ _ _ _) => true
  | _ => false

/-- The replies that are still to be sent. -/
def owed : Stage → Nat
  | .sending _ _ _ => 1
  | _ => 0

section Runs

variable {connectionId : Uuid} {metrics : MetricsCollector} {now : Nat} {final : Serving}
  {trace : List (Serving × Label)}
  (run : servingMachine.Run (accept connectionId metrics now) trace final)
  (faultless : ∀ entry ∈ trace, entry.2.fails = false)

include run faultless

/-- It takes a close request to end the loop. -/
theorem closed_of_returned (returned : final.stage = .returned) :
    .connectionClose ∈ kinds (dispatched trace) := by
  refine faultless_history run faultless (fun _ dispatches _ stage =>
    stage = .returned → .connectionClose ∈ kinds dispatches) (by simp) ?_ returned
  rintro before dispatches sent stage message dispatch reply next earlier move rfl
  rw [kinds_append]
  refine List.mem_append_right _ ?_
  generalize ended : Stage.returned = stage at move
  cases move with
  | handled answer =>
      subst ended
      cases answer with
      | download _ chunking => cases chunking
      | close kind => simp [kinds, kind]
  | acknowledged =>
      unfold uploading at ended
      split at ended <;> simp at ended
  | streamed chunking =>
      subst ended
      cases chunking
  | _ => simp at ended

/-- An upload was asked for. -/
theorem requested_of_inUpload (inside : inUpload final.stage = true) :
    .fileUploadRequest ∈ kinds (decoded trace) := by
  refine faultless_history run faultless (fun before _ _ stage =>
    inUpload stage = true → .fileUploadRequest ∈ kinds before) (by simp [inUpload]) ?_ inside
  intro before dispatches sent stage message dispatch reply next earlier move inside
  rw [kinds_append, List.mem_append]
  cases move with
  | handled answer =>
      cases answer with
      | grant kind => exact Or.inr (by simp [kinds, kind])
      | download _ chunking => cases chunking <;> simp [inUpload] at inside
      | _ => simp [inUpload] at inside
  | chunk => exact Or.inl (earlier rfl)
  | forgotten | responded => simp [inUpload] at inside
  | acknowledged => exact Or.inl (earlier rfl)
  | streamed chunking => cases chunking <;> simp [inUpload] at inside

/-- Without a download every message but a close request is replied to once. -/
theorem replies_of_answered
    (answered : ∀ kind ∈ kinds (decoded trace), kind ∈ [.tlsHandshake, .httpRequest,
      .fileUploadRequest, .fileUploadChunk, .connectionClose]) :
    inDownload final.stage = false ∧ (replies trace).length + owed final.stage =
      (kinds (dispatched trace)).countP (· ≠ .connectionClose) := by
  refine faultless_history run faultless (fun before dispatches sent stage =>
    (∀ kind ∈ kinds before, kind ∈ [.tlsHandshake, .httpRequest, .fileUploadRequest,
      .fileUploadChunk, .connectionClose]) → inDownload stage = false ∧
      sent.length + owed stage = (kinds dispatches).countP (· ≠ .connectionClose))
    (by simp [inDownload, owed, kinds]) ?_ answered
  intro before dispatches sent stage message dispatch reply next earlier move answered
  rw [kinds_append] at answered
  obtain ⟨past, last⟩ := List.forall_mem_append.mp answered
  obtain ⟨outside, balance⟩ := earlier past
  rw [kinds_append, List.countP_append, ← balance]
  cases move with
  | @handled message stage answer =>
      have asked := last message.messageType (by simp [kinds])
      cases answer with
      | reply kind =>
          have opened : message.messageType ≠ .connectionClose := by
            intro closes
            simp [closes] at kind
          simp [inDownload, owed, kinds, opened]
      | grant kind => simp [inDownload, owed, kinds, kind]
      | download kind => simp [kind] at asked
      | close kind => simp [inDownload, owed, kinds, kind]
      | ignore kind =>
          exfalso
          simp only [List.mem_cons, List.not_mem_nil, or_false] at asked kind
          rcases asked with same | same | same | same | same <;> exact kind (by simp [same])
  | chunk kind => simp [inDownload, owed, kinds, kind]
  | forgotten => simp [inDownload, owed, kinds]
  | responded => simp [inDownload, owed, kinds]
  | acknowledged =>
      unfold uploading
      split <;> simp [inDownload, owed, kinds]
  | streamed => simp [inDownload] at outside

/-- What a single download has sent when it stands at a stage. -/
def Streamed (fileSize : UInt64) (sent : List Message) : Stage → Prop
  | .sending reply _ (.download total bytesSent _ _) =>
      total = fileSize ∧ 1 ≤ reply.payload.length ∧
        payloadBytes sent + reply.payload.length = bytesSent.toNat ∧
        bytesSent.toNat ≤ fileSize.toNat
  | .receiving | .returned => payloadBytes sent ≤ fileSize.toNat
  | _ => False

omit run faultless in
theorem streamed_of_chunking {fileSize bytesSent : UInt64} {sent : List Message} {stage : Stage}
    (chunking : Chunking fileSize bytesSent stage) (sentAll : payloadBytes sent = bytesSent.toNat)
    (within : bytesSent.toNat ≤ fileSize.toNat) : Streamed fileSize sent stage := by
  cases chunking with
  | left => exact sentAll.trans_le within
  | @chunk reply size sequence sessionId filled sized room =>
      have sum : (bytesSent + size).toNat = bytesSent.toNat + size.toNat := by
        rw [UInt64.toNat_add, Nat.mod_eq_of_lt (room.trans_lt fileSize.toNat_lt)]
      refine ⟨rfl, filled, ?_, ?_⟩
      · rw [sum, sentAll, sized]
      · rw [sum]
        exact room

omit run faultless in
/-- A message at the end of a prefix of two. -/
theorem snoc_prefix_pair {before : List Message} {message first second : Message}
    (asked : before ++ [message] <+: [first, second]) :
    before = [] ∧ message = first ∨ before = [first] ∧ message = second := by
  obtain ⟨rest, whole⟩ := asked
  cases before with
  | nil => simp_all
  | cons head tail => cases tail <;> simp_all

/-- A single download sends no more than it was asked for, and no empty chunk. -/
theorem replies_of_download {request close : Message} (asked : decoded trace <+: [request, close])
    (kind : request.messageType = .fileDownloadRequest)
    (closes : close.messageType = .connectionClose) :
    (∀ reply ∈ replies trace, 1 ≤ reply.payload.length) ∧
      Streamed request.requestedSize (replies trace) final.stage := by
  have both := faultless_history run faultless (fun before _ sent stage =>
    before <+: [request, close] → (before = [] → sent = [] ∧ stage = .receiving) ∧
      (∀ reply ∈ sent, 1 ≤ reply.payload.length) ∧ Streamed request.requestedSize sent stage)
    (fun _ => ⟨fun _ => ⟨rfl, rfl⟩, by simp, Nat.zero_le _⟩) ?_ asked
  · exact both.2
  intro before dispatches sent stage message dispatch reply next earlier move asked
  obtain ⟨fresh, filled, streamed⟩ := earlier ((List.prefix_append before _).trans asked)
  cases move with
  | @handled message stage answer =>
      refine ⟨by simp, by simpa using filled, ?_⟩
      rw [Option.toList_none, List.append_nil]
      rcases snoc_prefix_pair asked with ⟨none, rfl⟩ | ⟨_, rfl⟩
      · cases answer with
        | download _ chunking =>
            exact streamed_of_chunking chunking (by rw [(fresh none).1]; rfl) (Nat.zero_le _)
        | reply other | ignore other => simp [kind] at other
        | grant other => simp [kind] at other
        | close other => simp [kind] at other
      · cases answer with
        | close => exact streamed
        | download other | grant other => simp [closes] at other
        | reply other | ignore other => simp [closes] at other
  | chunk | forgotten | responded | acknowledged => exact streamed.elim
  | streamed chunking =>
      obtain ⟨rfl, some, sentAll, within⟩ := streamed
      refine ⟨fun none => ?_, ?_, streamed_of_chunking chunking ?_ within⟩
      · have idle := (fresh (by simpa using none)).2
        simp at idle
      · exact List.forall_mem_append.mpr ⟨filled, by simpa using some⟩
      · simpa using sentAll

/-- One close request, and an upload of nothing but chunks: no message is stray if
the loop has ended. -/
theorem no_stray_of_returned (returned : final.stage = .returned)
    (closedOnce : (kinds (decoded trace)).count .connectionClose ≤ 1)
    (askedOnce : (kinds (decoded trace)).count .fileUploadRequest ≤ 1)
    (chunks : .fileUploadRequest ∈ kinds (decoded trace) → ∀ kind ∈ kinds (decoded trace),
      kind ∈ [.fileUploadRequest, .fileUploadChunk, .connectionClose]) :
    ∀ entry ∈ trace, ¬Stray entry := by
  intro entry member stray
  have closed := closed_of_returned run faultless returned
  obtain ⟨before, after, rfl⟩ := List.append_of_mem member
  obtain ⟨next, runBefore, taken, _⟩ := run.split rfl
  have silent : dispatching entry = none := by
    rcases dispatching_of_moved (moved_of_step taken) with ⟨expected, _⟩ | ⟨_, none, _⟩
    · exact absurd stray expected
    · exact none
  obtain ⟨message, decodes, other, awaits⟩ := stray
  have requested : .fileUploadRequest ∈ kinds (decoded before) := by
    refine requested_of_inUpload runBefore (fun step earlier => faultless step (by simp [earlier])) ?_
    unfold awaitsChunk at awaits
    split at awaits
    · rename_i stage
      rw [stage]
      rfl
    · simp at awaits
  have shape : decoded (before ++ entry :: after) = decoded before ++ message :: decoded after := by
    rw [decoded, List.filterMap_append, List.filterMap_cons_some decodes]
    rfl
  have dispatchedShape : dispatched (before ++ entry :: after) =
      dispatched before ++ dispatched after := by
    simp [dispatched, silent]
  rw [shape] at closedOnce askedOnce chunks
  have some := List.one_le_count_iff.mpr requested
  have here : message.messageType ∈ kinds (decoded before ++ message :: decoded after) := by
    simp [kinds]
  have type := chunks (by rw [kinds_append]; exact List.mem_append_left _ requested) _ here
  simp only [List.mem_cons, List.not_mem_nil, or_false] at type
  rcases type with request | chunk | close
  · simp only [kinds, List.map_append, List.map_cons, List.count_append, request,
      List.count_cons_self] at askedOnce some
    omega
  · exact other chunk
  · rw [dispatchedShape, kinds_append] at closed
    have twice : 1 ≤ (kinds (decoded before)).count .connectionClose +
        (kinds (decoded after)).count .connectionClose := by
      rcases List.mem_append.mp closed with early | late
      · exact (List.one_le_count_iff.mpr (kinds_dispatched_subset early)).trans (Nat.le_add_right _ _)
      · exact (List.one_le_count_iff.mpr (kinds_dispatched_subset late)).trans (Nat.le_add_left _ _)
    simp only [kinds, List.map_append, List.map_cons, List.count_append, close,
      List.count_cons_self] at closedOnce twice
    omega

end Runs

end Serving

end Npt.Server.TcpServer
