import Npt.Core.TransitionSystem
import Npt.Server.TcpServer

/-!
Contract: what a TCP connection of the server has on its record after a run of
`handle_connection` (`server/src/tcp_server.rs`).

Messages are decoded in two loops. The one of `handle_connection` records each
and hands it to `handle_message`. The one of `handle_file_upload` records the
chunks; any other message ends the upload there and is forgotten.

Owns: the machine of one connection, the messages a run decodes, dispatches and
sends, their traffic, and the runs in which the record and the messages agree.

Does not own: the bytes on the wire, or what the client has on its record.
-/

namespace Npt.Server.TcpServer

open Npt.Core
open Npt.Shared

/-- A message could not be received or sent. -/
def Label.fails : Label → Bool
  | .receiveFailed _ _ | .sendFailed _ _ => true
  | .received _ _ _ _ | .sent _ _ => false

def servingMachine : Machine Serving Label where
  step := Serving.step

namespace Serving

/-! ## The messages of a run -/

/-- The message that `receive_message` returns in a step. -/
def decoding : Serving × Label → Option Message
  | (_, .received message _ _ _) => some message
  | _ => none

/-- The message that a step hands to `handle_message`, or takes as a chunk of an
upload. -/
def dispatching : Serving × Label → Option Message
  | (serving, .received message _ _ _) =>
      match serving.stage with
      | .receiving => some message
      | .receivingChunk _ _ => if message.messageType = .fileUploadChunk then some message else none
      | _ => none
  | _ => none

/-- The message that `send_message` has sent in a step. -/
def replying : Serving × Label → Option Message
  | (serving, .sent _ _) =>
      match serving.stage with
      | .sending reply _ _ => some reply
      | _ => none
  | _ => none

def decoded (trace : List (Serving × Label)) : List Message := trace.filterMap decoding

def dispatched (trace : List (Serving × Label)) : List Message := trace.filterMap dispatching

def replies (trace : List (Serving × Label)) : List Message := trace.filterMap replying

/-- The packets and payload bytes of messages received and sent. -/
def tally (received sent : List Message) : Traffic where
  packetsReceived := UInt64.ofNat received.length
  bytesReceived := UInt64.ofNat (payloadBytes received)
  packetsSent := UInt64.ofNat sent.length
  bytesSent := UInt64.ofNat (payloadBytes sent)

/-- In the loop of `handle_file_upload`, waiting for a message. -/
def awaitsChunk (serving : Serving) : Bool :=
  match serving.stage with
  | .receivingChunk _ _ => true
  | _ => false

/-- A message other than a chunk is received in `handle_file_upload`. -/
def Stray (entry : Serving × Label) : Prop :=
  ∃ message ∈ decoding entry, message.messageType ≠ .fileUploadChunk ∧ entry.1.awaitsChunk = true

instance (entry : Serving × Label) : Decidable (Stray entry) :=
  inferInstanceAs (Decidable (∃ message ∈ decoding entry, _))

/-- What a connection has on its record is what it decoded and sent, nothing
that it decoded was forgotten, and a close request ended its loop. -/
structure Accounted (connectionId : Uuid) (trace : List (Serving × Label)) (final : Serving) :
    Prop where
  traffic : final.metrics.traffic connectionId = some (tally (decoded trace) (replies trace))
  dispatched : dispatched trace = decoded trace
  closed : ∀ message ∈ decoded trace, message.messageType = .connectionClose →
    final.stage = .returned

theorem tally_received (received sent : List Message) (message : Message) :
    tally (received ++ [message]) sent = tally received sent +
      ({ packetsReceived := 1 } + { bytesReceived := UInt64.ofNat message.payload.length }) := by
  simp [tally, Traffic.add_def, Traffic.add, UInt64.ofNat_add]

theorem tally_sent (received sent : List Message) (message : Message) :
    tally received (sent ++ [message]) = tally received sent +
      ({ packetsSent := 1 } + { bytesSent := UInt64.ofNat message.payload.length }) := by
  simp [tally, Traffic.add_def, Traffic.add, UInt64.ofNat_add]

/-! ## What a step can do -/

inductive Moved (serving : Serving) : Label → Serving → Prop where
  | handled {message : Message} {draw latency now : Nat} (waits : serving.stage = .receiving) :
      Moved serving (.received message draw latency now)
        ((serving.count message).handleMessage message draw latency now)
  | chunk {message : Message} {draw latency now : Nat} {expectedSize bytesReceived : UInt64}
      (waits : serving.stage = .receivingChunk expectedSize bytesReceived)
      (kind : message.messageType = .fileUploadChunk) :
      Moved serving (.received message draw latency now)
        ((serving.count message).send (chunkAck message) 9
          (.upload expectedSize (bytesReceived + UInt64.ofNat message.payload.length)))
  | forgotten {message : Message} {draw latency now : Nat} {expectedSize bytesReceived : UInt64}
      (waits : serving.stage = .receivingChunk expectedSize bytesReceived)
      (kind : message.messageType ≠ .fileUploadChunk) :
      Moved serving (.received message draw latency now) (serving.goOn latency)
  | disconnected {error : String} {now : Nat} (waits : serving.stage = .receiving) :
      Moved serving (.receiveFailed error now) (serving.disconnect error now)
  | uploadFailed {error : String} {now : Nat} {expectedSize bytesReceived : UInt64}
      (waits : serving.stage = .receivingChunk expectedSize bytesReceived) :
      Moved serving (.receiveFailed error now) (serving.fail now)
  | replied {draw latency : Nat} {reply : Message} {counted : UInt64} {goes : Continuation}
      (waits : serving.stage = .sending reply counted goes) :
      Moved serving (.sent draw latency)
        ({ serving with
            metrics := (serving.metrics.recordPacketSent serving.connectionId).recordBytesSent
              serving.connectionId counted : Serving }.resume goes draw latency)
  | sendFailed {error : String} {now : Nat} {reply : Message} {counted : UInt64}
      {goes : Continuation} (waits : serving.stage = .sending reply counted goes) :
      Moved serving (.sendFailed error now) (serving.fail now)

theorem moved_of_step {serving next : Serving} {label : Label}
    (taken : serving.step label = some next) : Moved serving label next := by
  cases label with
  | received message draw latency now =>
      simp only [step] at taken
      split at taken
      · rename_i waits
        obtain rfl := Option.some.inj taken
        exact .handled waits
      · rename_i waits
        split at taken
        · rename_i kind
          obtain rfl := Option.some.inj taken
          exact .chunk waits kind
        · rename_i kind
          obtain rfl := Option.some.inj taken
          exact .forgotten waits kind
      · simp at taken
  | receiveFailed error now =>
      simp only [step] at taken
      split at taken
      · rename_i waits
        obtain rfl := Option.some.inj taken
        exact .disconnected waits
      · rename_i waits
        obtain rfl := Option.some.inj taken
        exact .uploadFailed waits
      · simp at taken
  | sent draw latency =>
      simp only [step] at taken
      split at taken
      · rename_i waits
        obtain rfl := Option.some.inj taken
        exact .replied waits
      · simp at taken
  | sendFailed error now =>
      simp only [step] at taken
      split at taken
      · rename_i waits
        obtain rfl := Option.some.inj taken
        exact .sendFailed waits
      · simp at taken

/-- Nothing happens on a connection whose `handle_connection` has returned. -/
theorem Moved.not_returned {serving next : Serving} {label : Label}
    (moved : Moved serving label next) : serving.stage ≠ .returned := by
  cases moved <;> simp [*]

/-! ## The record of a connection -/

/-- The traffic on the record, and the length of a reply on its way. -/
structure Standing (connectionId : Uuid) (amount : Traffic) (serving : Serving) : Prop where
  id : serving.connectionId = connectionId
  traffic : serving.metrics.traffic connectionId = some amount
  exact : ∀ reply counted next, serving.stage = .sending reply counted next →
    counted = UInt64.ofNat reply.payload.length

section Record

variable {connectionId : Uuid} {amount : Traffic} {serving : Serving} {message : Message}
  (draw latency now : Nat) (standing : Standing connectionId amount serving)

theorem standing_accept (connectionId : Uuid) (metrics : MetricsCollector) :
    Standing connectionId (tally [] []) (accept connectionId metrics now) where
  id := rfl
  traffic := by
    rw [accept, MetricsCollector.startConnection, MetricsCollector.traffic_insert, if_pos rfl]
    rfl
  exact _ _ _ waits := by simp at waits

include standing

/-- A recording moves the traffic on the record by its amount. -/
theorem traffic_of_records {record : MetricsCollector → Uuid → MetricsCollector} {more : Traffic}
    (records : MetricsCollector.Records record more) :
    (record serving.metrics serving.connectionId).traffic connectionId = some (amount + more) := by
  rw [records.traffic, if_pos standing.id.symm, standing.traffic, Option.map_some]

theorem standing_goOn : Standing connectionId amount (serving.goOn latency) where
  id := standing.id
  traffic := (MetricsCollector.traffic_recordLatency ..).trans standing.traffic
  exact _ _ _ waits := by simp at waits

theorem standing_close : Standing connectionId amount (serving.close latency now) where
  id := standing.id
  traffic := (MetricsCollector.traffic_endConnection ..).trans (standing_goOn latency standing).traffic
  exact _ _ _ waits := by simp at waits

theorem standing_fail : Standing connectionId amount (serving.fail now) where
  id := standing.id
  traffic := by simpa [fail] using standing.traffic
  exact _ _ _ waits := by simp [fail] at waits

theorem standing_disconnect (error : String) :
    Standing connectionId amount (serving.disconnect error now) := by
  unfold disconnect
  split
  · exact ⟨standing.id, by simpa using standing.traffic, by simp⟩
  · exact standing_fail now standing

/-- A reply that is counted with its length. -/
theorem standing_send {reply : Message} {counted : UInt64} (next : Continuation)
    (exact : counted = UInt64.ofNat reply.payload.length) :
    Standing connectionId amount (serving.send reply counted next) where
  id := standing.id
  traffic := standing.traffic
  exact _ _ _ waits := by
    obtain ⟨rfl, rfl, rfl⟩ := Stage.sending.inj waits
    exact exact

theorem standing_download (fileSize bytesSent sequence : UInt64) (sessionId : Uuid) :
    Standing connectionId amount
      (serving.download fileSize bytesSent sequence sessionId draw latency) := by
  unfold download
  split
  · refine standing_send standing _ ?_
    rw [Message.length_zeros, UInt64.ofNat_toNat]
  · exact standing_goOn latency standing

theorem standing_upload (expectedSize bytesReceived : UInt64) :
    Standing connectionId amount (serving.upload expectedSize bytesReceived latency) := by
  unfold upload
  split
  · exact ⟨standing.id, standing.traffic, by simp⟩
  · exact standing_goOn latency standing

theorem standing_handleMessage :
    Standing connectionId amount (serving.handleMessage message draw latency now) := by
  unfold handleMessage
  split
  · refine standing_send standing _ ?_
    rw [Message.length_zeros]
  · refine standing_send standing _ ?_
    rw [Message.length_zeros]
  · exact standing_download draw latency standing _ _ _ _
  · refine standing_send standing _ ?_
    rw [length_uploadAck]
    rfl
  · refine standing_send standing _ ?_
    rw [length_chunkAck]
    rfl
  · exact standing_close latency now standing
  · exact standing_goOn latency standing

theorem standing_resume (next : Continuation) :
    Standing connectionId amount (serving.resume next draw latency) := by
  cases next with
  | respond => exact standing_goOn latency standing
  | upload expectedSize bytesReceived => exact standing_upload latency standing _ _
  | download fileSize bytesSent sequence sessionId =>
      exact standing_download draw latency standing _ _ _ _

theorem standing_count
    (waits : ∀ reply counted goes, serving.stage ≠ .sending reply counted goes) :
    Standing connectionId
      (amount +
        ({ packetsReceived := 1 } + { bytesReceived := UInt64.ofNat message.payload.length }))
      (serving.count message) where
  id := standing.id
  traffic := traffic_of_records standing
    (MetricsCollector.records_packetReceived.comp (MetricsCollector.records_bytesReceived _))
  exact reply counted goes sends := absurd sends (waits reply counted goes)

theorem standing_replied {reply : Message} {counted : UInt64} {goes : Continuation}
    (waits : serving.stage = .sending reply counted goes) :
    Standing connectionId
      (amount + ({ packetsSent := 1 } + { bytesSent := UInt64.ofNat reply.payload.length }))
      { serving with
        metrics := (serving.metrics.recordPacketSent serving.connectionId).recordBytesSent
          serving.connectionId counted } where
  id := standing.id
  traffic := by
    rw [← standing.exact _ _ _ waits]
    exact traffic_of_records standing
      (MetricsCollector.records_packetSent.comp (MetricsCollector.records_bytesSent counted))
  exact := standing.exact

end Record

/-! ## Whole runs -/

section Runs

variable {connectionId : Uuid} {metrics : MetricsCollector} {now : Nat} {serving next final : Serving}
  {label : Label} {trace : List (Serving × Label)}

theorem decoded_snoc (entry : Serving × Label) :
    decoded (trace ++ [entry]) = decoded trace ++ (decoding entry).toList := by
  cases decodes : decoding entry <;> simp [decoded, decodes]

theorem dispatched_snoc (entry : Serving × Label) :
    dispatched (trace ++ [entry]) = dispatched trace ++ (dispatching entry).toList := by
  cases dispatches : dispatching entry <;> simp [dispatched, dispatches]

theorem replies_snoc (entry : Serving × Label) :
    replies (trace ++ [entry]) = replies trace ++ (replying entry).toList := by
  cases replied : replying entry <;> simp [replies, replied]

/-- A step records the message that it dispatches or has sent, and nothing else. -/
theorem standing_step (moved : Moved serving label next)
    (standing : Standing connectionId (tally (dispatched trace) (replies trace)) serving) :
    Standing connectionId (tally (dispatched (trace ++ [(serving, label)]))
      (replies (trace ++ [(serving, label)]))) next := by
  rw [dispatched_snoc, replies_snoc]
  cases moved with
  | @handled message draw latency now waits =>
      have counted : Standing connectionId _ (serving.count message) :=
        standing_count standing (by simp [waits])
      rw [← tally_received] at counted
      simpa [dispatching, replying, waits] using standing_handleMessage draw latency now counted
  | @chunk message draw latency now expectedSize bytesReceived waits kind =>
      have counted : Standing connectionId _ (serving.count message) :=
        standing_count standing (by simp [waits])
      rw [← tally_received] at counted
      have nine : (9 : UInt64) = UInt64.ofNat (chunkAck message).payload.length := by
        rw [length_chunkAck]
        rfl
      simpa [dispatching, replying, waits, kind] using standing_send counted _ nine
  | forgotten waits kind =>
      simpa [dispatching, replying, waits, kind] using standing_goOn _ standing
  | disconnected => simpa [dispatching, replying] using standing_disconnect _ standing _
  | uploadFailed => simpa [dispatching, replying] using standing_fail _ standing
  | replied waits =>
      have counted := standing_replied standing waits
      rw [← tally_sent] at counted
      simpa [dispatching, replying, waits] using standing_resume _ _ counted _
  | sendFailed => simpa [dispatching, replying] using standing_fail _ standing

/-- After every run the record holds the traffic of the messages that were
dispatched and of the replies that were sent. -/
theorem standing_of_run
    (run : servingMachine.Run (accept connectionId metrics now) trace final) :
    Standing connectionId (tally (dispatched trace) (replies trace)) final := by
  refine run.history (fun trace final =>
    Standing connectionId (tally (dispatched trace) (replies trace)) final)
    (standing_accept now connectionId metrics) ?_
  intro trace serving label next _ standing taken
  exact standing_step (moved_of_step taken) standing

/-- A close request that is dispatched ends the loop. -/
theorem returned_of_dispatched
    (run : servingMachine.Run (accept connectionId metrics now) trace final) :
    ∀ message ∈ dispatched trace, message.messageType = .connectionClose →
      final.stage = .returned := by
  refine run.history (fun trace final => ∀ message ∈ dispatched trace,
    message.messageType = .connectionClose → final.stage = .returned) (by simp [dispatched]) ?_
  intro trace serving label next _ earlier taken message member kind
  have moved := moved_of_step taken
  rw [dispatched_snoc] at member
  rcases List.mem_append.mp member with before | last
  · exact absurd (earlier message before kind) moved.not_returned
  · cases moved with
    | handled waits =>
        obtain rfl : message = _ := by simpa [dispatching, waits] using last
        simp [handleMessage, kind]
    | chunk waits chunk =>
        obtain rfl : message = _ := by simpa [dispatching, waits, chunk] using last
        simp [chunk] at kind
    | forgotten waits other => simp [dispatching, waits, other] at last
    | _ => simp [dispatching] at last

/-- A step dispatches the message it decodes, or forgets it as a stray one. -/
theorem dispatching_of_moved (moved : Moved serving label next) :
    ¬Stray (serving, label) ∧ dispatching (serving, label) = decoding (serving, label) ∨
      Stray (serving, label) ∧ dispatching (serving, label) = none ∧
        ∃ message, decoding (serving, label) = some message := by
  cases moved with
  | handled waits => simp [dispatching, decoding, Stray, awaitsChunk, waits]
  | chunk waits kind => simp [dispatching, decoding, Stray, awaitsChunk, waits, kind]
  | forgotten waits kind => simp [dispatching, decoding, Stray, awaitsChunk, waits, kind]
  | _ => simp [dispatching, decoding, Stray]

theorem dispatched_eq_decoded_iff
    (run : servingMachine.Run (accept connectionId metrics now) trace final) :
    (dispatched trace).length ≤ (decoded trace).length ∧
      (dispatched trace = decoded trace ↔ ∀ entry ∈ trace, ¬Stray entry) := by
  refine run.history (fun trace _ => (dispatched trace).length ≤ (decoded trace).length ∧
    (dispatched trace = decoded trace ↔ ∀ entry ∈ trace, ¬Stray entry))
    (by simp [dispatched, decoded]) ?_
  rintro trace serving label next _ ⟨fewer, agree⟩ taken
  rw [dispatched_snoc, decoded_snoc]
  rcases dispatching_of_moved (moved_of_step taken) with
    ⟨expected, same⟩ | ⟨stray, forgotten, message, decodes⟩
  · rw [same, List.append_left_inj, agree]
    refine ⟨by simpa using fewer, ?_⟩
    simp [or_imp, forall_and, expected]
  · rw [forgotten, decodes]
    refine ⟨by simp; omega, ⟨fun equal => ?_, fun none => absurd stray (none _ (by simp))⟩⟩
    have length := congrArg List.length equal
    simp at length
    omega

/-- A connection's record, its messages and its end agree exactly in the runs in
which no message but a chunk is received in the loop of `handle_file_upload`. -/
theorem accounted_iff (run : servingMachine.Run (accept connectionId metrics now) trace final) :
    Accounted connectionId trace final ↔ ∀ entry ∈ trace, ¬Stray entry := by
  rw [← (dispatched_eq_decoded_iff run).2]
  constructor
  · exact Accounted.dispatched
  · intro same
    have standing := standing_of_run run
    have closed := returned_of_dispatched run
    rw [same] at standing closed
    exact ⟨standing.traffic, same, closed⟩

end Runs

/-! ## An upload of two bytes -/

/-- A request to upload two bytes, its acknowledgement, and one chunk with its
own. -/
def halfUpload : List Label :=
  [.received ⟨⟨1⟩, .fileUploadRequest, Message.sizeBytes 2, 0⟩ 0 0 1, .sent 0 0,
    .received ⟨⟨1⟩, .fileUploadChunk, [7], 0⟩ 0 0 2, .sent 0 0]

/-- The second chunk and the close request arrive. -/
def wholeUpload : List Label :=
  halfUpload ++ [.received ⟨⟨1⟩, .fileUploadChunk, [8], 1⟩ 0 0 3, .sent 0 0,
    .received ⟨⟨1⟩, .connectionClose, [], 0⟩ 0 0 4]

/-- The close request arrives in place of the second chunk. -/
def cutUpload : List Label :=
  halfUpload ++ [.received ⟨⟨1⟩, .connectionClose, [], 0⟩ 0 0 3]

theorem accounted_iff_wholeUpload :
    ∃ trace final, servingMachine.Run (accept ⟨5⟩ {} 0) trace final ∧
      (decoded trace).length = 4 ∧ Accounted ⟨5⟩ trace final := by
  have run : servingMachine.Run (accept ⟨5⟩ {} 0)
      (servingMachine.trace (accept ⟨5⟩ {} 0) wholeUpload)
      ((servingMachine.play (accept ⟨5⟩ {} 0) wholeUpload).get (by decide +kernel)) :=
    Machine.run_of_play (Option.some_get _).symm
  exact ⟨_, _, run, by decide +kernel, (accounted_iff run).mpr (by decide +kernel)⟩

/-- The close request of a cut upload is not on the record, and the loop goes
on. -/
theorem close_forgotten_in_upload :
    ∃ trace final, servingMachine.Run (accept ⟨5⟩ {} 0) trace final ∧
      decoded trace = [⟨⟨1⟩, .fileUploadRequest, Message.sizeBytes 2, 0⟩,
        ⟨⟨1⟩, .fileUploadChunk, [7], 0⟩, ⟨⟨1⟩, .connectionClose, [], 0⟩] ∧
      final.metrics.traffic ⟨5⟩ = some
        { packetsReceived := 2, bytesReceived := 9, packetsSent := 2, bytesSent := 12 } ∧
      (dispatched trace).length = 2 ∧ final.stage = .receiving := by
  have run : servingMachine.Run (accept ⟨5⟩ {} 0)
      (servingMachine.trace (accept ⟨5⟩ {} 0) cutUpload)
      ((servingMachine.play (accept ⟨5⟩ {} 0) cutUpload).get (by decide +kernel)) :=
    Machine.run_of_play (Option.some_get _).symm
  exact ⟨_, _, run, by decide +kernel⟩

end Serving

end Npt.Server.TcpServer
