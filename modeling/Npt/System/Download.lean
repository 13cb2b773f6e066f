import Npt.System.TransferSession

/-!
Contract: a download as both sides carry it out.

`handle_file_download` sends without waiting for an answer, so both sides run
at once: the server is ahead of the client by the chunks in flight. An empty
file lets the client close before the server has read the request.

Owns: the phases of a download, what a step does to them, and its completion.

Does not own: the session machine.
-/

namespace Npt.System

open Npt.Core
open Npt.Shared
open Npt.Client
open Npt.Server.TcpServer (Serving Stage Continuation)

/-! ## What a download is to achieve -/

/-- No error is on the server's record. -/
def Downloading (session : Session) : Prop :=
  session.server.metrics.Faultless session.server.connectionId

/-- All bytes were sent and received, and the server recorded no error. -/
structure Downloaded (fileSize : UInt64) (session : Session) : Prop where
  sentBytes : payloadBytes (ofType .fileDownloadChunk session.downMessages.sent) = fileSize.toNat
  receivedBytes :
    payloadBytes (ofType .fileDownloadChunk session.downMessages.delivered) = fileSize.toNat
  faultless : session.server.metrics.Faultless session.server.connectionId
  ended : session.server.metrics.Ended session.server.connectionId

/-! ## Phases -/

section Download

variable {encodedLength : Message → Nat → Nat} {sessionId : Uuid} {call : TcpCall}
  {server : SocketAddr} {fileSize : UInt64} {session next : Session} {label : SessionLabel}

/-- The message of `send_chunk_streaming` of the server. -/
def downloadChunk (sessionId : Uuid) (sequence : UInt64) (size : Nat) : Message where
  sessionId := sessionId
  messageType := .fileDownloadChunk
  payload := Message.zeros size
  sequence := sequence

inductive DownloadPhase (sessionId : Uuid) (call : TcpCall) (server : SocketAddr)
    (fileSize : UInt64) (session : Session) : Nat → Prop where
  | requesting
      (facing : Facing call server session (some .sendDownloadRequest) .receiving {} {}) :
      DownloadPhase sessionId call server fileSize session (2 * fileSize.toNat + 5)
  | requested
      (facing : Facing call server session (some (nextDownload fileSize 0 0)) .receiving
        ⟨[], [downloadRequest sessionId fileSize]⟩ {}) :
      DownloadPhase sessionId call server fileSize session (2 * fileSize.toNat + 4)
  /-- The client closed after its request for an empty file. -/
  | hasty (empty : fileSize = 0)
      (facing : Facing call server session none .receiving
        ⟨[], [downloadRequest sessionId fileSize, closeMessage sessionId]⟩ {}) :
      DownloadPhase sessionId call server fileSize session 3
  | streaming {delivered queued : List Message} {bytes sequence size received count : UInt64}
      (counters : ChunkCounters .fileDownloadChunk (delivered ++ queued) bytes sequence)
      (got : payloadBytes delivered = received.toNat) (filled : 1 ≤ size.toNat)
      (small : size.toNat ≤ 65536) (room : bytes.toNat + size.toNat ≤ fileSize.toNat)
      (facing : Facing call server session (some (.receiveChunk received count))
        (.sending (downloadChunk sessionId sequence size.toNat) size
          (.download fileSize (bytes + size) (sequence + 1) sessionId))
        ⟨[downloadRequest sessionId fileSize], []⟩ ⟨delivered, queued⟩) :
      DownloadPhase sessionId call server fileSize session
        (2 * (fileSize.toNat - bytes.toNat) + queued.length + 2)
  | draining {delivered queued : List Message} {sequence received count : UInt64}
      (counters : ChunkCounters .fileDownloadChunk (delivered ++ queued) fileSize sequence)
      (got : payloadBytes delivered = received.toNat)
      (facing : Facing call server session (some (nextDownload fileSize received count)) .receiving
        ⟨[downloadRequest sessionId fileSize], []⟩ ⟨delivered, queued⟩) :
      DownloadPhase sessionId call server fileSize session (queued.length + 2)
  | closed {delivered : List Message} {sequence : UInt64}
      (counters : ChunkCounters .fileDownloadChunk delivered fileSize sequence)
      (facing : Facing call server session none .receiving
        ⟨[downloadRequest sessionId fileSize], [closeMessage sessionId]⟩ ⟨delivered, []⟩) :
      DownloadPhase sessionId call server fileSize session 1
  | finished {delivered : List Message} {sequence : UInt64}
      (counters : ChunkCounters .fileDownloadChunk delivered fileSize sequence)
      (facing : Facing call server session none .returned
        ⟨[downloadRequest sessionId fileSize, closeMessage sessionId], []⟩ ⟨delivered, []⟩) :
      DownloadPhase sessionId call server fileSize session 0

/-! ## Counting -/

theorem nextDownload_of_lt {received : UInt64} (more : received.toNat < fileSize.toNat)
    (count : UInt64) : nextDownload fileSize received count = .receiveChunk received count :=
  if_pos (UInt64.lt_iff_toNat_lt.mpr more)

theorem nextDownload_cases (fileSize received count : UInt64) :
    (nextDownload fileSize received count = .receiveChunk received count ∧
      received.toNat < fileSize.toNat) ∨
    (nextDownload fileSize received count = .sendClose ∧ fileSize.toNat ≤ received.toNat) := by
  unfold nextDownload
  split
  · rename_i more
    exact Or.inl ⟨rfl, UInt64.lt_iff_toNat_lt.mp more⟩
  · rename_i done
    exact Or.inr ⟨rfl, Nat.le_of_not_lt (mt UInt64.lt_iff_toNat_lt.mpr done)⟩

/-- After its request the client sends nothing but the close message. -/
theorem not_sent_of_nextDownload {activity : UserActivity} {received count : UInt64}
    {message : Message} {id : Uuid} {length : UInt32} {next : List Effect × Exchange}
    (sends : outgoing sessionId activity (nextDownload fileSize received count) = some message)
    (goesOn : afterSend id activity length (nextDownload fileSize received count) = some next) :
    False := by
  rcases nextDownload_cases fileSize received count with ⟨same, _⟩ | ⟨same, _⟩
  · simp [same, outgoing] at sends
  · simp [same, afterSend] at goesOn

/-- The client's counter after the next chunk. -/
theorem got_snoc {delivered rest : List Message} {bytes sequence received : UInt64}
    {chunk : Message}
    (counters : ChunkCounters .fileDownloadChunk (delivered ++ chunk :: rest) bytes sequence)
    (got : payloadBytes delivered = received.toNat) :
    payloadBytes (delivered ++ [chunk]) =
      (received + UInt64.ofNat chunk.payload.length).toNat := by
  have total := counters.total
  have limit := bytes.toNat_lt
  rw [payloadBytes_append, payloadBytes_cons, got] at total
  rw [payloadBytes_append, payloadBytes_cons, payloadBytes_nil, Nat.add_zero, got, UInt64.toNat_add,
    UInt64.toNat_ofNat_of_lt' (by simp only [UInt64.size]; omega), Nat.mod_eq_of_lt (by omega)]

/-- When all bytes have arrived, nothing is in flight. -/
theorem queued_eq_nil {delivered queued : List Message} {bytes sequence : UInt64}
    (counters : ChunkCounters .fileDownloadChunk (delivered ++ queued) bytes sequence)
    (all : payloadBytes delivered = bytes.toNat) : queued = [] := by
  have total := counters.total
  rw [payloadBytes_append, all] at total
  cases queued with
  | nil => rfl
  | cons chunk rest =>
      have filled := counters.chunked.filled chunk (by simp)
      rw [payloadBytes_cons] at total
      omega

namespace DownloadPhase

/-- The loop test of `handle_file_download`. -/
theorem of_download {serving : Serving} {delivered queued : List Message}
    {bytes sequence received count : UInt64} {draw latency : Nat}
    (counters : ChunkCounters .fileDownloadChunk (delivered ++ queued) bytes sequence)
    (got : payloadBytes delivered = received.toNat) (within : bytes.toNat ≤ fileSize.toNat)
    (facing : Facing call server session (some (nextDownload fileSize received count))
      (serving.download fileSize bytes sequence sessionId draw latency).stage
      ⟨[downloadRequest sessionId fileSize], []⟩ ⟨delivered, queued⟩) :
    ∃ lower ≤ 2 * (fileSize.toNat - bytes.toNat) + queued.length + 2,
      DownloadPhase sessionId call server fileSize session lower := by
  have total := counters.total
  rw [payloadBytes_append, got] at total
  by_cases more : bytes.toNat < fileSize.toNat
  · obtain ⟨size, filled, small, room, stage⟩ := serving.stage_download_of_lt draw latency
      (UInt64.lt_iff_toNat_lt.mpr more) sequence sessionId
    rw [stage, nextDownload_of_lt (by omega)] at facing
    exact ⟨_, le_rfl, .streaming counters got filled small room facing⟩
  · obtain rfl : bytes = fileSize := UInt64.toNat_inj.mp (by omega)
    rw [serving.stage_download_self] at facing
    exact ⟨_, by omega, .draining counters got facing⟩

theorem transfer_of_download {range : UInt32 × UInt32}
    (activity : call.activity = .fileDownload fileSize range) : afterConnection call = .returned := by
  simp [afterConnection, activity]

section Steps

variable {range : UInt32 × UInt32} (activity : call.activity = .fileDownload fileSize range)
  (taken : session.step encodedLength sessionId label = some next)

include activity taken

theorem step_requesting
    (compact : ∀ message stamp, encodedLength message stamp ≤ 2 * message.payload.length + 1024)
    (facing : Facing call server session (some .sendDownloadRequest) .receiving {} {}) :
    DownloadPhase sessionId call server fileSize next (2 * fileSize.toNat + 4) := by
  cases facing.moved (transfer_of_download activity) taken with
  | clientSent waits sends goesOn after =>
      obtain rfl := Option.some.inj waits
      obtain rfl := Option.some.inj sends
      obtain ⟨_, rfl⟩ := Prod.mk.inj (Option.some.inj goesOn)
      rw [activity] at after
      refine .requested (after (fitting_of_short compact ?_))
      rw [downloadRequest, Message.length_sizeBytes]
      decide
  | clientClosed waits => simp at waits
  | clientReceived _ arrived => simp at arrived
  | serverReceived arrived => simp at arrived
  | serverSent sends => simp at sends

theorem step_requested
    (compact : ∀ message stamp, encodedLength message stamp ≤ 2 * message.payload.length + 1024)
    (facing : Facing call server session (some (nextDownload fileSize 0 0)) .receiving
      ⟨[], [downloadRequest sessionId fileSize]⟩ {}) :
    ∃ lower < 2 * fileSize.toNat + 4,
      DownloadPhase sessionId call server fileSize next lower := by
  cases facing.moved (transfer_of_download activity) taken with
  | clientSent waits sends goesOn =>
      obtain rfl := Option.some.inj waits
      exact (not_sent_of_nextDownload sends goesOn).elim
  | clientClosed waits after =>
      rcases nextDownload_cases fileSize 0 0 with ⟨same, _⟩ | ⟨_, empty⟩
      · simp [same] at waits
      · have none : fileSize = 0 := UInt64.toNat_inj.mp (Nat.le_zero.mp empty)
        have short : (closeMessage sessionId).payload.length ≤ 65536 := Nat.zero_le _
        exact ⟨3, by omega, .hasty none (after (fitting_of_short compact short))⟩
  | clientReceived _ arrived => simp at arrived
  | serverReceived arrived handles after =>
      obtain ⟨rfl, rfl⟩ := Prod.mk.inj (Option.some.inj arrived)
      rw [Serving.stage_of_downloadRequest facing.stage rfl handles, downloadRequest,
        Message.requestedSize_sizeBytes] at after
      have none : ChunkCounters .fileDownloadChunk ([] ++ []) 0 0 := .zero
      obtain ⟨lower, bound, phase⟩ := of_download none rfl (Nat.zero_le _) after
      exact ⟨lower, bound.trans_lt (by simp), phase⟩
  | serverSent sends => simp at sends

theorem step_hasty (empty : fileSize = 0)
    (facing : Facing call server session none .receiving
      ⟨[], [downloadRequest sessionId fileSize, closeMessage sessionId]⟩ {}) :
    DownloadPhase sessionId call server fileSize next 1 := by
  cases facing.moved (transfer_of_download activity) taken with
  | clientSent waits => simp at waits
  | clientClosed waits => simp at waits
  | clientReceived waits => simp at waits
  | serverReceived arrived handles after =>
      obtain ⟨rfl, rfl⟩ := Prod.mk.inj (Option.some.inj arrived)
      rw [Serving.stage_of_downloadRequest facing.stage rfl handles, downloadRequest,
        Message.requestedSize_sizeBytes, empty, Serving.stage_download_self] at after
      subst empty
      exact .closed .zero after
  | serverSent sends => simp at sends

theorem step_streaming
    (compact : ∀ message stamp, encodedLength message stamp ≤ 2 * message.payload.length + 1024)
    {delivered queued : List Message} {bytes sequence size received count : UInt64}
    (counters : ChunkCounters .fileDownloadChunk (delivered ++ queued) bytes sequence)
    (got : payloadBytes delivered = received.toNat) (filled : 1 ≤ size.toNat)
    (small : size.toNat ≤ 65536) (room : bytes.toNat + size.toNat ≤ fileSize.toNat)
    (facing : Facing call server session (some (.receiveChunk received count))
      (.sending (downloadChunk sessionId sequence size.toNat) size
        (.download fileSize (bytes + size) (sequence + 1) sessionId))
      ⟨[downloadRequest sessionId fileSize], []⟩ ⟨delivered, queued⟩) :
    ∃ lower < 2 * (fileSize.toNat - bytes.toNat) + queued.length + 2,
      DownloadPhase sessionId call server fileSize next lower := by
  have limit := fileSize.toNat_lt
  have total := counters.total
  cases facing.moved (transfer_of_download activity) taken with
  | clientSent waits sends =>
      obtain rfl := Option.some.inj waits
      simp [outgoing] at sends
  | clientClosed waits => simp at waits
  | clientReceived waits arrived goesOn after =>
      obtain rfl := Option.some.inj waits
      cases queued with
      | nil => simp at arrived
      | cons chunk rest =>
          obtain ⟨rfl, rfl⟩ := Prod.mk.inj (Option.some.inj arrived)
          obtain ⟨_, rfl⟩ := Prod.mk.inj (Option.some.inj goesOn)
          have more := got_snoc counters got
          rw [List.append_cons] at counters total
          rw [payloadBytes_append, more] at total
          rw [activity] at after
          have answered := after rfl
          simp only [Npt.Client.fileSize, Bool.false_eq_true, if_false] at answered
          rw [nextDownload_of_lt (by omega)] at answered
          rw [List.length_cons]
          exact ⟨_, by omega, .streaming counters more filled small room answered⟩
  | serverReceived arrived => simp at arrived
  | serverSent sends handles after =>
      obtain ⟨rfl, rfl, rfl⟩ := Stage.sending.inj sends
      obtain ⟨recorded, goesOn⟩ := Serving.stage_of_sent_download facing.stage handles
      have grown : ChunkCounters .fileDownloadChunk
          (delivered ++ (queued ++ [downloadChunk sessionId sequence size.toNat])) (bytes + size)
          (sequence + 1) := by
        rw [← List.append_assoc]
        exact counters.snoc rfl (Message.length_zeros _) filled rfl (by omega)
      have sum : (bytes + size).toNat = bytes.toNat + size.toNat := by
        rw [UInt64.toNat_add, Nat.mod_eq_of_lt (by omega)]
      rw [payloadBytes_append, got] at total
      have short : (downloadChunk sessionId sequence size.toNat).payload.length ≤ 65536 :=
        (Message.length_zeros _).trans_le small
      have answered := after (fitting_of_short compact short)
      rw [goesOn, ← nextDownload_of_lt (show received.toNat < fileSize.toNat by omega)] at answered
      have within : (bytes + size).toNat ≤ fileSize.toNat := by omega
      obtain ⟨lower, bound, phase⟩ := of_download grown got within answered
      rw [List.length_append, List.length_singleton] at bound
      exact ⟨lower, by omega, phase⟩

theorem step_draining
    (compact : ∀ message stamp, encodedLength message stamp ≤ 2 * message.payload.length + 1024)
    {delivered queued : List Message} {sequence received count : UInt64}
    (counters : ChunkCounters .fileDownloadChunk (delivered ++ queued) fileSize sequence)
    (got : payloadBytes delivered = received.toNat)
    (facing : Facing call server session (some (nextDownload fileSize received count)) .receiving
      ⟨[downloadRequest sessionId fileSize], []⟩ ⟨delivered, queued⟩) :
    ∃ lower < queued.length + 2, DownloadPhase sessionId call server fileSize next lower := by
  have total := counters.total
  rw [payloadBytes_append, got] at total
  cases facing.moved (transfer_of_download activity) taken with
  | clientSent waits sends goesOn =>
      obtain rfl := Option.some.inj waits
      exact (not_sent_of_nextDownload sends goesOn).elim
  | clientClosed waits after =>
      rcases nextDownload_cases fileSize received count with ⟨same, _⟩ | ⟨_, all⟩
      · simp [same] at waits
      · obtain rfl := queued_eq_nil counters (got.trans (by omega))
        have short : (closeMessage sessionId).payload.length ≤ 65536 := Nat.zero_le _
        rw [List.append_nil] at counters
        exact ⟨1, by omega, .closed counters (after (fitting_of_short compact short))⟩
  | clientReceived waits arrived goesOn after =>
      obtain rfl := Option.some.inj waits
      cases queued with
      | nil => simp at arrived
      | cons chunk rest =>
          obtain ⟨rfl, rfl⟩ := Prod.mk.inj (Option.some.inj arrived)
          rcases nextDownload_cases fileSize received count with ⟨same, _⟩ | ⟨same, _⟩
          · rw [same] at goesOn
            obtain ⟨_, rfl⟩ := Prod.mk.inj (Option.some.inj goesOn)
            have more := got_snoc counters got
            rw [List.append_cons] at counters
            rw [activity] at after
            have answered := after rfl
            simp only [Npt.Client.fileSize, Bool.false_eq_true, if_false] at answered
            exact ⟨_, by simp, .draining counters more answered⟩
          · simp [same, afterReceive] at goesOn
  | serverReceived arrived => simp at arrived
  | serverSent sends => simp at sends

theorem step_closed {delivered : List Message} {sequence : UInt64}
    (counters : ChunkCounters .fileDownloadChunk delivered fileSize sequence)
    (facing : Facing call server session none .receiving
      ⟨[downloadRequest sessionId fileSize], [closeMessage sessionId]⟩ ⟨delivered, []⟩) :
    DownloadPhase sessionId call server fileSize next 0 := by
  cases facing.moved (transfer_of_download activity) taken with
  | clientSent waits => simp at waits
  | clientClosed waits => simp at waits
  | clientReceived waits => simp at waits
  | serverReceived arrived handles after =>
      obtain ⟨rfl, rfl⟩ := Prod.mk.inj (Option.some.inj arrived)
      rw [Serving.stage_of_close facing.stage rfl handles] at after
      exact .finished counters after
  | serverSent sends => simp at sends

/-- Every step takes a download to a phase of lower rank. -/
theorem lowers
    (compact : ∀ message stamp, encodedLength message stamp ≤ 2 * message.payload.length + 1024)
    {here : Nat} (phase : DownloadPhase sessionId call server fileSize session here) :
    ∃ lower < here, DownloadPhase sessionId call server fileSize next lower := by
  cases phase with
  | requesting facing =>
      exact ⟨_, Nat.lt_succ_self _, step_requesting activity taken compact facing⟩
  | requested facing => exact step_requested activity taken compact facing
  | hasty empty facing => exact ⟨1, by decide, step_hasty activity taken empty facing⟩
  | streaming counters got filled small room facing =>
      exact step_streaming activity taken compact counters got filled small room facing
  | draining counters got facing => exact step_draining activity taken compact counters got facing
  | closed counters facing => exact ⟨0, by decide, step_closed activity taken counters facing⟩
  | finished counters facing =>
      cases facing.moved (transfer_of_download activity) taken with
      | clientSent waits => simp at waits
      | clientClosed waits => simp at waits
      | clientReceived waits => simp at waits
      | serverReceived arrived => simp at arrived
      | serverSent sends => simp at sends

end Steps

theorem live {here : Nat} (phase : DownloadPhase sessionId call server fileSize session here) :
    session.Over ∨ session.CanMove encodedLength sessionId := by
  cases phase with
  | requesting facing =>
      exact Or.inr ⟨.clientSends, fun label turn => facing.clientSends_isSome rfl turn⟩
  | requested facing | hasty _ facing | closed _ facing =>
      exact Or.inr ⟨.serverReceives, fun label turn =>
        facing.serverReceives_isSome (Or.inl facing.stage) rfl turn⟩
  | streaming counters got filled small room facing =>
      exact Or.inr ⟨.serverSends, fun label turn => facing.serverSends_isSome turn⟩
  | @draining delivered queued sequence received count counters got facing =>
      refine Or.inr ?_
      rcases nextDownload_cases fileSize received count with ⟨same, more⟩ | ⟨same, _⟩
      · rw [same] at facing
        cases queued with
        | nil =>
            have total := counters.total
            rw [List.append_nil, got] at total
            omega
        | cons chunk rest =>
            exact ⟨.clientReceives, fun label turn => facing.clientReceives_isSome rfl rfl turn⟩
      · rw [same] at facing
        exact ⟨.clientSends, fun label turn => facing.clientSends_isSome rfl turn⟩
  | finished counters facing => exact Or.inl ⟨facing.client, facing.stage⟩

theorem clean {here : Nat} (phase : DownloadPhase sessionId call server fileSize session here) :
    session.server.Clean := by
  cases phase with
  | requesting facing | requested facing | hasty _ facing | streaming _ _ _ _ _ facing
  | draining _ _ facing | closed _ facing | finished _ facing => exact facing.clean

theorem downloaded {here : Nat}
    (phase : DownloadPhase sessionId call server fileSize session here) (finished : session.Over) :
    Downloaded fileSize session := by
  obtain ⟨returned, closed⟩ := finished
  cases phase with
  | requesting facing | requested facing | streaming _ _ _ _ _ facing | draining _ _ facing =>
      simp [facing.client, clientAt] at returned
  | hasty _ facing | closed _ facing => simp [facing.stage] at closed
  | finished counters facing =>
      refine ⟨?_, ?_, facing.clean.faultless, facing.clean.ended facing.stage⟩
      · rw [facing.down, Channel.sent_mk, List.append_nil, counters.chunked.ofType_self,
          counters.total]
      · rw [facing.down, counters.chunked.ofType_self, counters.total]

end DownloadPhase

/-- A download completes, whatever is drawn and whoever moves first. -/
theorem download_completes {range : UInt32 × UInt32}
    (compact : ∀ message stamp, encodedLength message stamp ≤ 2 * message.payload.length + 1024)
    (activity : call.activity = .fileDownload fileSize range) (connectionId : Uuid)
    (metrics : MetricsCollector) (now : Nat) :
    Completes encodedLength sessionId (Session.begin call server connectionId metrics now)
      Downloading (Downloaded fileSize) := by
  refine .of_phases (DownloadPhase sessionId call server fileSize) (.requesting ?_)
    (fun here session label next phase taken =>
      DownloadPhase.lowers activity taken compact phase)
    (fun session here phase => phase.live)
    (fun session here phase => phase.clean.faultless)
    (fun session here phase finished => phase.downloaded finished)
  have first : firstExchange call.activity = .sendDownloadRequest := by rw [activity]; rfl
  refine ⟨?_, rfl, rfl, rfl, by simp [Session.begin], by simp [Session.begin],
    Serving.clean_accept now connectionId metrics⟩
  rw [Session.begin, first]
  rfl

end Download

end Npt.System
