import Npt.Server.Answers

/-!
Contract: how `handle_connection` comes to its end
(`server/src/tcp_server.rs`).

Owns: what an end puts on the record of its connection, and how many replies are
left to send before the next message is read.

Does not own: the messages, or why one could not be read.
-/

namespace Npt.Server.TcpServer

open Npt.Core
open Npt.Shared

/-- There is an error on the record of the connection. -/
def Blamed (metrics : MetricsCollector) (id : Uuid) : Prop :=
  ∃ errors, metrics.errorCount id = some errors ∧ errors ≠ 0

theorem not_blamed_of_faultless {metrics : MetricsCollector} {id : Uuid}
    (faultless : metrics.Faultless id) : ¬Blamed metrics id := by
  rintro ⟨errors, counted, some⟩
  rw [(metrics.faultless_iff id).mp faultless] at counted
  exact some (Option.some.inj counted).symm

/-- The steps a stage takes at most before the next message is read. -/
def weight : Stage → Nat
  | .returned => 0
  | .receiving | .receivingChunk _ _ => 1
  | .sending _ _ (.download fileSize bytesSent _ _) => 2 + (fileSize.toNat - bytesSent.toNat)
  | .sending _ _ _ => 2

namespace Serving

section Ends

variable {serving : Serving} (now : Nat)
  (faultless : serving.metrics.Faultless serving.connectionId)

include faultless

theorem blamed_fail : Blamed (serving.fail now).metrics serving.connectionId := by
  have none := (serving.metrics.faultless_iff serving.connectionId).mp faultless
  refine ⟨1, ?_, by decide⟩
  rw [fail, MetricsCollector.errorCount_endConnection, MetricsCollector.errorCount_recordError, none]
  simp

theorem ended_fail : (serving.fail now).metrics.Ended serving.connectionId := by
  refine (MetricsCollector.ended_endConnection ..).mpr (Or.inr ⟨rfl, ?_⟩)
  exact (MetricsCollector.registered_update _ _ _ _ _).mpr faultless.registered

/-- The end of the stream is no error. -/
theorem clean_disconnect {error : String} (quiet : contains (toLowercase error) "eof" = true) :
    (serving.disconnect error now).Clean := by
  unfold disconnect
  rw [if_pos quiet]
  exact
    { faultless := faultless.update _ _ (fun _ => rfl)
      ended := fun _ =>
        (MetricsCollector.ended_endConnection ..).mpr (Or.inr ⟨rfl, faultless.registered⟩) }

/-- A message that could not be read is blamed on the connection unless its text
has "eof" in it. -/
theorem blamed_disconnect_iff (error : String) :
    Blamed (serving.disconnect error now).metrics serving.connectionId ↔
      contains (toLowercase error) "eof" = false := by
  cases quiet : contains (toLowercase error) "eof" with
  | true =>
      have clean := clean_disconnect now faultless quiet
      have id : (serving.disconnect error now).connectionId = serving.connectionId := by
        unfold disconnect
        rw [if_pos quiet]
      simpa using not_blamed_of_faultless (id ▸ clean.faultless)
  | false =>
      have failed : serving.disconnect error now = serving.fail now := by
        unfold disconnect
        rw [if_neg (by simp [quiet])]
      rw [failed]
      simpa using blamed_fail now faultless

end Ends

@[simp] theorem stage_fail (serving : Serving) (now : Nat) :
    (serving.fail now).stage = .returned := rfl

@[simp] theorem stage_disconnect (serving : Serving) (error : String) (now : Nat) :
    (serving.disconnect error now).stage = .returned := by
  unfold disconnect
  split <;> rfl

/-- No step changes whose connection it is. -/
theorem connectionId_of_step {serving next : Serving} {label : Label}
    (taken : serving.step label = some next) : next.connectionId = serving.connectionId := by
  have sends (serving : Serving) (fileSize bytesSent sequence : UInt64) (sessionId : Uuid)
      (draw latency : Nat) :
      (serving.download fileSize bytesSent sequence sessionId draw latency).connectionId =
        serving.connectionId := by
    unfold download
    split <;> rfl
  cases moved_of_step taken with
  | handled _ =>
      unfold handleMessage
      split
      · rfl
      · rfl
      · exact sends _ _ _ _ _ _ _
      · rfl
      · rfl
      · rfl
      · rfl
  | chunk _ _ => rfl
  | forgotten _ _ => rfl
  | disconnected _ =>
      unfold disconnect
      split <;> rfl
  | uploadFailed _ => rfl
  | @replied draw latency reply counted goes _ =>
      cases goes with
      | respond => rfl
      | upload expectedSize bytesReceived =>
          unfold resume upload
          dsimp only
          split <;> rfl
      | download fileSize bytesSent sequence sessionId => exact sends _ _ _ _ _ _ _
  | sendFailed _ => rfl

section Weights

variable {fileSize bytesSent : UInt64} {stage : Stage}

theorem weight_lt (stage : Stage) : weight stage < 2 ^ 64 + 2 := by
  unfold weight
  split
  · decide
  · decide
  · decide
  · rename_i fileSize _ _ _
    have small := fileSize.toNat_lt
    omega
  · decide

/-- A chunk of a download leaves less of it. -/
theorem weight_of_chunking (chunking : Chunking fileSize bytesSent stage) :
    inUpload stage = false ∧ stage ≠ .returned ∧
      weight stage < 2 + (fileSize.toNat - bytesSent.toNat) := by
  cases chunking with
  | left => exact ⟨rfl, by simp, by simp only [weight]; omega⟩
  | @chunk reply size sequence sessionId filled sized room =>
      have sum : (bytesSent + size).toNat = bytesSent.toNat + size.toNat := by
        rw [UInt64.toNat_add, Nat.mod_eq_of_lt (room.trans_lt fileSize.toNat_lt)]
      refine ⟨rfl, by simp, ?_⟩
      simp only [weight, sum]
      omega

theorem weight_uploading (expectedSize bytesReceived : UInt64) :
    weight (uploading expectedSize bytesReceived) = 1 := by
  unfold uploading
  split <;> rfl

section Received

variable {serving next : Serving} {draw latency now : Nat}

/-- A message is read where one is waited for. -/
theorem weight_of_received {message : Message}
    (taken : serving.step (.received message draw latency now) = some next) :
    weight serving.stage = 1 := by
  simp only [step] at taken
  split at taken
  · rename_i waits
    rw [waits]
    rfl
  · rename_i waits
    rw [waits]
    rfl
  · cases taken

/-- Where a message is waited for and cannot be read, the connection comes to its
end. -/
theorem returned_of_receiveFailed {error : String}
    (taken : serving.step (.receiveFailed error now) = some next) :
    weight serving.stage = 1 ∧ next.stage = .returned := by
  simp only [step] at taken
  split at taken
  · rename_i waits
    obtain rfl := Option.some.inj taken
    rw [waits]
    exact ⟨rfl, stage_disconnect ..⟩
  · rename_i waits
    obtain rfl := Option.some.inj taken
    rw [waits]
    exact ⟨rfl, stage_fail ..⟩
  · cases taken

end Received

/-- A reply that cannot be sent ends the connection with an error. -/
theorem failed_of_sendFailed {serving next : Serving} {error : String} {now : Nat}
    (taken : serving.step (.sendFailed error now) = some next) :
    (∃ reply counted goes, serving.stage = .sending reply counted goes) ∧
      next = serving.fail now := by
  simp only [step] at taken
  split at taken
  · rename_i sending
    exact ⟨⟨_, _, _, sending⟩, (Option.some.inj taken).symm⟩
  · cases taken

theorem weight_of_sendFailed {serving next : Serving} {error : String} {now : Nat}
    (taken : serving.step (.sendFailed error now) = some next) :
    weight next.stage < weight serving.stage := by
  obtain ⟨⟨reply, counted, goes, sending⟩, rfl⟩ := failed_of_sendFailed taken
  rw [sending, stage_fail]
  cases goes with
  | download fileSize bytesSent sequence sessionId =>
      simp only [weight]
      omega
  | _ => exact Nat.two_pos

section Sent

variable {serving next : Serving} {draw latency : Nat}
  (taken : serving.step (.sent draw latency) = some next)

include taken

/-- A reply that is sent leaves fewer to send. -/
theorem weight_of_sent : weight next.stage < weight serving.stage := by
  cases moved_of_step taken with
  | @replied _ _ reply counted goes waits =>
      rw [waits]
      cases goes with
      | respond => simp [resume, weight]
      | upload expectedSize bytesReceived =>
          rw [resume, stage_upload, weight_uploading]
          exact Nat.one_lt_two
      | download fileSize bytesSent sequence sessionId =>
          exact (weight_of_chunking (chunking_download _ _ _ _ _ _ _)).2.2

/-- A reply that is sent leads into no upload, and to no end. -/
theorem outside_of_sent (outside : inUpload serving.stage = false) :
    inUpload next.stage = false ∧ next.stage ≠ .returned := by
  cases moved_of_step taken with
  | @replied _ _ reply counted goes waits =>
      cases goes with
      | respond => exact ⟨rfl, by simp [resume]⟩
      | upload expectedSize bytesReceived => exact absurd outside (by simp [inUpload, waits])
      | download fileSize bytesSent sequence sessionId =>
          obtain ⟨outside, opened, _⟩ := weight_of_chunking (chunking_download _ _ _ _ _ _ _)
          exact ⟨outside, opened⟩

end Sent

end Weights

end Serving

end Npt.Server.TcpServer
