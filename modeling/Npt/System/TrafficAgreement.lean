import Npt.Server.Answers
import Npt.System.Agreement
import Npt.System.SessionTraffic

/-!
Contract: the client's and the server's record of one TCP connection agree.

Owns: the order in which an activity sends its messages, what is left unread at
the end of a session, and how the two records compare.

Does not own: a connection whose close request the server did not handle.
-/

namespace Npt.System

open Npt.Core
open Npt.Shared
open Npt.Client
open Npt.Server.TcpServer (Serving kinds kinds_append)

/-! ## The script of an activity -/

/-- The type of the first message of an activity. -/
def opening : UserActivity → MessageType
  | .fileDownload _ _ => .fileDownloadRequest
  | .fileUpload _ _ => .fileUploadRequest
  | _ => .tlsHandshake

/-- A type that comes after the first message and before the close request. -/
def Follows : UserActivity → MessageType → Prop
  | .fileDownload _ _, _ => False
  | .fileUpload _ _, messageType => messageType = .fileUploadChunk
  | _, messageType => messageType = .httpRequest

/-- Many messages may answer one. -/
def downloads : UserActivity → Bool
  | .fileDownload _ _ => true
  | _ => false

def uploads : UserActivity → Bool
  | .fileUpload _ _ => true
  | _ => false

/-- The activities of a page. -/
def browses : UserActivity → Bool
  | .fileDownload _ _ | .fileUpload _ _ => false
  | _ => true

/-- The waits of an activity after its first message. -/
def inside (activity : UserActivity) : Exchange → Bool
  | .sendHandshake | .sendDownloadRequest | .sendUploadRequest => false
  | .receiveHandshake | .sendRequest _ | .receiveResponse _ | .pause _ => browses activity
  | .receiveChunk _ _ => downloads activity
  | .receiveUploadAck | .sendChunk _ _ _ | .receiveChunkAck _ _ _ => uploads activity
  | .sendClose => true

/-- The replies that a wait is for. -/
def awaited (exchange : Exchange) : Nat := if exchange.receiving then 1 else 0

/-- The types of all messages of an activity. -/
def wholeScript (activity : UserActivity) (later : List MessageType) : List MessageType :=
  opening activity :: later ++ [.connectionClose]

/-- The types of the messages that an activity has sent and the number of those
it has received, by its wait. -/
inductive Script (activity : UserActivity) : Option Exchange → List MessageType → Nat → Prop where
  | fresh : Script activity (some (firstExchange activity)) [] 0
  | running {exchange : Exchange} {later : List MessageType} {received : Nat}
      (within : inside activity exchange = true) (follow : ∀ kind ∈ later, Follows activity kind)
      (balance : downloads activity = false → later.length + 1 = received + awaited exchange) :
      Script activity (some exchange) (opening activity :: later) received
  | panicked {later : List MessageType} {received : Nat}
      (follow : ∀ kind ∈ later, Follows activity kind) :
      Script activity none (opening activity :: later) received
  | closed {later : List MessageType} {received : Nat}
      (follow : ∀ kind ∈ later, Follows activity kind)
      (balance : downloads activity = false → later.length + 1 = received) :
      Script activity none (wholeScript activity later) received

section Script

variable {encodedLength : Message → Nat → Nat} {sessionId id : Uuid} {call : TcpCall}
  {activity : UserActivity} {side next : ClientSide} {stopped : Bool} {exchange after : Exchange}
  {effects : List Effect}

/-- The types of the messages in frames. -/
def frameKinds (frames : List Frame) : List MessageType := kinds (frames.map Frame.message)

@[simp] theorem frameKinds_append (earlier later : List Frame) :
    frameKinds (earlier ++ later) = frameKinds earlier ++ frameKinds later := by
  simp [frameKinds]

theorem inside_nextRequest (left : Nat) (browsing : browses activity = true) :
    inside activity (nextRequest left) = true ∧ awaited (nextRequest left) = 0 := by
  unfold nextRequest
  cases activity with
  | fileDownload | fileUpload => simp [browses] at browsing
  | _ => split <;> exact ⟨rfl, rfl⟩

theorem inside_nextUpload {total sent sequence : UInt64} {range : UInt32 × UInt32} {draw : Nat}
    {chunks : UInt32 × UInt32} {fileSize : UInt64}
    (goesOn : nextUpload total sent sequence range draw = some after) :
    inside (.fileUpload fileSize chunks) after = true ∧ awaited after = 0 := by
  unfold nextUpload at goesOn
  split at goesOn
  · obtain ⟨size, _, rfl⟩ := Option.map_eq_some_iff.mp goesOn
    exact ⟨rfl, rfl⟩
  · obtain rfl := Option.some.inj goesOn
    exact ⟨rfl, rfl⟩

/-- The first message is followed by its reply, a download's by many. -/
theorem inside_afterFirst {length : UInt32}
    (goesOn : afterSend id activity length (firstExchange activity) = some (effects, after)) :
    inside activity after = true ∧ spokenType (firstExchange activity) = opening activity ∧
      (downloads activity = false → awaited after = 1) := by
  cases activity with
  | fileDownload fileSize chunkSize =>
      obtain ⟨_, rfl⟩ := Prod.mk.inj (Option.some.inj goesOn)
      refine ⟨?_, rfl, by simp [downloads]⟩
      unfold nextDownload
      split <;> rfl
  | _ =>
      obtain ⟨_, rfl⟩ := Prod.mk.inj (Option.some.inj goesOn)
      exact ⟨rfl, rfl, fun _ => rfl⟩

/-- So is every other message. -/
theorem inside_afterSend {length : UInt32} (within : inside activity exchange = true)
    (goesOn : afterSend id activity length exchange = some (effects, after)) :
    inside activity after = true ∧ Follows activity (spokenType exchange) ∧ awaited exchange = 0 ∧
      awaited after = 1 := by
  cases activity <;> cases exchange <;>
    simp only [inside, browses, downloads, uploads, afterSend, Bool.false_eq_true, reduceCtorEq,
      Option.some.injEq, Prod.mk.injEq] at within goesOn <;>
    obtain ⟨-, rfl⟩ := goesOn <;> exact ⟨rfl, rfl, rfl, rfl⟩

/-- A response is followed by the next message, a chunk of a download also by
more chunks. -/
theorem inside_afterReceive {length payload latency draw : Nat}
    (within : inside activity exchange = true)
    (goesOn : afterReceive id activity stopped length payload latency draw exchange =
      some (effects, some after)) :
    inside activity after = true ∧ awaited exchange = 1 ∧
      (downloads activity = false → awaited after = 0) := by
  cases exchange with
  | receiveHandshake =>
      have browsing : browses activity = true := within
      obtain ⟨left, _, rfl⟩ := Option.map_eq_some_iff.mp (Prod.mk.inj (Option.some.inj goesOn)).2
      obtain ⟨inside, sending⟩ := inside_nextRequest left browsing
      exact ⟨inside, rfl, fun _ => sending⟩
  | receiveResponse left =>
      obtain rfl := Option.some.inj (Prod.mk.inj (Option.some.inj goesOn)).2
      exact ⟨within, rfl, fun _ => rfl⟩
  | receiveChunk bytesReceived chunkCount =>
      obtain rfl := Option.some.inj (Prod.mk.inj (Option.some.inj goesOn)).2
      cases activity with
      | fileDownload fileSize chunkSize =>
          refine ⟨?_, rfl, by simp [downloads]⟩
          unfold nextDownload
          split_ifs <;> rfl
      | _ => simp [inside, downloads] at within
  | receiveUploadAck =>
      cases activity with
      | fileUpload fileSize chunkSize =>
          obtain ⟨inside, sending⟩ := inside_nextUpload (Prod.mk.inj (Option.some.inj goesOn)).2
          exact ⟨inside, rfl, fun _ => sending⟩
      | _ => simp [inside, uploads] at within
  | receiveChunkAck bytesSent sequence size =>
      cases activity with
      | fileUpload fileSize chunkSize =>
          have goesOn := (Prod.mk.inj (Option.some.inj goesOn)).2
          split at goesOn
          · obtain rfl := Option.some.inj goesOn
            exact ⟨rfl, rfl, fun _ => rfl⟩
          · obtain ⟨inside, sending⟩ := inside_nextUpload goesOn
            exact ⟨inside, rfl, fun _ => sending⟩
      | _ => simp [inside, uploads] at within
  | _ => simp [afterReceive] at goesOn

/-- Every step of the client keeps to the script. -/
theorem script_move
    (script : Script call.activity side.wait (frameKinds side.sent) side.received.length)
    (move : ClientMove encodedLength sessionId call side stopped next) :
    Script call.activity next.wait (frameKinds next.sent) next.received.length := by
  obtain ⟨wait, earlier, sent, received⟩ := side
  cases move with
  | @spoke exchange after message effects draw stamp waits sends goesOn =>
      obtain rfl : wait = some exchange := waits
      have kind := messageType_of_spoken sends
      have said : frameKinds [⟨message, encodedLength message stamp⟩] = [spokenType exchange] := by
        simp [frameKinds, kinds, kind]
      simp only [frameKinds_append, said] at script ⊢
      generalize frameKinds sent = sentKinds at script
      generalize received.length = count at script
      cases script with
      | fresh =>
          obtain ⟨within, first, waiting⟩ := inside_afterFirst goesOn
          rw [first]
          exact .running within (by simp) (fun one => by simp [waiting one])
      | @running _ later _ within follow balance =>
          obtain ⟨within, follows, idle, waiting⟩ := inside_afterSend within goesOn
          rw [List.cons_append]
          refine .running within ?_ (fun one => ?_)
          · exact List.forall_mem_append.mpr ⟨follow, by simpa using follows⟩
          · rw [List.length_append, List.length_singleton, balance one, idle, waiting]
  | closed waits =>
      obtain rfl : wait = some .sendClose := waits
      have said (length : Nat) : frameKinds [⟨closeMessage sessionId, length⟩] =
          [.connectionClose] := rfl
      simp only [frameKinds_append, said] at script ⊢
      generalize frameKinds sent = sentKinds at script
      generalize received.length = count at script
      generalize waiting : some Exchange.sendClose = wait at script
      cases script with
      | fresh => cases activity : call.activity <;> simp [activity, firstExchange] at waiting
      | running within follow balance =>
          obtain rfl := Option.some.inj waiting
          exact .closed follow balance
      | panicked | closed => simp at waiting
  | @heard exchange after frame effects latency draw waits goesOn =>
      obtain rfl : wait = some exchange := waits
      simp only [List.length_append, List.length_singleton] at script ⊢
      generalize frameKinds sent = sentKinds at script ⊢
      generalize received.length = count at script ⊢
      cases script with
      | fresh => cases activity : call.activity <;> simp [activity, firstExchange, afterReceive] at goesOn
      | running within follow balance =>
          cases after with
          | none => exact .panicked follow
          | some after =>
              obtain ⟨within, waited, sending⟩ := inside_afterReceive within goesOn
              refine .running within follow (fun one => ?_)
              rw [balance one, waited, sending one]
  | @paused left waits =>
      obtain rfl : wait = some (.pause left) := waits
      simp only at script ⊢
      generalize frameKinds sent = sentKinds at script ⊢
      generalize received.length = count at script ⊢
      generalize waiting : some (Exchange.pause left) = wait at script
      cases script with
      | fresh => cases activity : call.activity <;> simp [activity, firstExchange] at waiting
      | running within follow balance =>
          obtain rfl := Option.some.inj waiting
          have browsing : browses call.activity = true := within
          obtain ⟨onwards, sending⟩ := inside_nextRequest (left - 1) browsing
          have closing : inside call.activity .sendClose = true := rfl
          split
          · exact .running closing follow balance
          · refine .running onwards follow (fun one => ?_)
            rw [balance one, sending]
            rfl
      | panicked | closed => simp at waiting

theorem opening_ne_close : opening activity ≠ .connectionClose := by
  cases activity <;> simp [opening]

theorem follows_ne {kind : MessageType} (follows : Follows activity kind) :
    kind ≠ .connectionClose ∧ kind ≠ .fileUploadRequest := by
  cases activity <;> simp_all [Follows]

section Ended

variable {later : List MessageType} (follow : ∀ kind ∈ later, Follows activity kind)

include follow

theorem close_notMem : .connectionClose ∉ opening activity :: later := by
  intro member
  rcases List.mem_cons.mp member with first | after
  · exact opening_ne_close first.symm
  · exact (follows_ne (follow _ after)).1 rfl

theorem count_close :
    (wholeScript activity later).count .connectionClose = 1 := by
  rw [wholeScript, List.count_append, List.count_eq_zero.mpr (close_notMem follow)]
  rfl

theorem count_uploadRequest :
    (wholeScript activity later).count .fileUploadRequest ≤ 1 := by
  have none : later.count .fileUploadRequest = 0 :=
    List.count_eq_zero.mpr fun member => (follows_ne (follow _ member)).2 rfl
  rw [wholeScript, List.cons_append, List.count_cons, List.count_append, none]
  split <;> simp

/-- Once an upload is asked for, only chunks and the close request come. -/
theorem chunks_of_upload
    (asked : .fileUploadRequest ∈ wholeScript activity later) :
    ∀ kind ∈ wholeScript activity later,
      kind ∈ [.fileUploadRequest, .fileUploadChunk, .connectionClose] := by
  have first : opening activity = .fileUploadRequest := by
    simp only [wholeScript, List.cons_append, List.mem_cons, List.mem_append, List.not_mem_nil, or_false,
      reduceCtorEq, or_false] at asked
    rcases asked with here | after
    · exact here.symm
    · exact absurd rfl (follows_ne (follow _ after)).2
  intro kind member
  simp only [wholeScript, List.cons_append, List.mem_cons, List.mem_append, List.not_mem_nil,
    or_false] at member ⊢
  rcases member with rfl | after | last
  · exact Or.inl first
  · cases activity with
    | fileUpload fileSize chunkSize => exact Or.inr (Or.inl (follow kind after))
    | _ => simp [opening] at first
  · exact Or.inr (Or.inr last)

theorem answered_of_script (one : downloads activity = false) :
    ∀ kind ∈ wholeScript activity later,
      kind ∈ [.tlsHandshake, .httpRequest, .fileUploadRequest, .fileUploadChunk,
        .connectionClose] := by
  intro kind member
  simp only [wholeScript, List.cons_append, List.mem_cons, List.mem_append, List.not_mem_nil,
    or_false] at member ⊢
  rcases member with rfl | after | last
  · cases activity <;> simp_all [opening, downloads]
  · have follows := follow kind after
    cases activity <;> simp_all [Follows]
  · simp [last]

theorem countP_unclosed :
    (wholeScript activity later).countP (· ≠ .connectionClose) =
      later.length + 1 := by
  have all : (opening activity :: later).countP (· ≠ .connectionClose) =
      (opening activity :: later).length := by
    refine List.countP_eq_length.mpr (fun kind member => ?_)
    have other : kind ≠ .connectionClose := by
      rintro rfl
      exact close_notMem follow member
    simpa using other
  rw [wholeScript, List.countP_append, all]
  simp

end Ended

/-- A script with a close request has ended with it. -/
theorem Script.ended {wait : Option Exchange} {kinds : List MessageType} {received : Nat}
    (script : Script activity wait kinds received) (closing : .connectionClose ∈ kinds) :
    wait = none ∧ ∃ later, kinds = wholeScript activity later ∧
      (∀ kind ∈ later, Follows activity kind) ∧
      (downloads activity = false → later.length + 1 = received) := by
  cases script with
  | fresh => simp at closing
  | running _ follow => exact absurd closing (close_notMem follow)
  | panicked follow => exact absurd closing (close_notMem follow)
  | closed follow balance => exact ⟨rfl, _, rfl, follow, balance⟩

/-! ## The bytes of a download -/

/-- What a client that is not asked to stop has sent and received of a download,
by its wait. -/
def Fetching (sessionId : Uuid) (fileSize : UInt64) (side : ClientSide) : Prop :=
  match side.wait with
  | some .sendDownloadRequest => side.sent = [] ∧ side.received = []
  | some (.receiveChunk bytesReceived _) =>
      side.sent.map Frame.message = [downloadRequest sessionId fileSize] ∧
        bytesReceived = UInt64.ofNat (payloadBytes (side.received.map Frame.message))
  | some .sendClose =>
      side.sent.map Frame.message = [downloadRequest sessionId fileSize] ∧
        fileSize ≤ UInt64.ofNat (payloadBytes (side.received.map Frame.message))
  | none =>
      side.sent.map Frame.message = [downloadRequest sessionId fileSize, closeMessage sessionId] ∧
        fileSize ≤ UInt64.ofNat (payloadBytes (side.received.map Frame.message))
  | _ => False

theorem fetching_nextDownload {fileSize bytesReceived chunkCount : UInt64} {earlier : List Effect}
    {sent received : List Frame}
    (asked : sent.map Frame.message = [downloadRequest sessionId fileSize])
    (got : bytesReceived = UInt64.ofNat (payloadBytes (received.map Frame.message))) :
    Fetching sessionId fileSize
      ⟨some (nextDownload fileSize bytesReceived chunkCount), earlier, sent, received⟩ := by
  unfold nextDownload
  split
  · exact ⟨asked, got⟩
  · rename_i enough
    rw [got] at enough
    exact ⟨asked, UInt64.not_lt.mp enough⟩

theorem fetching_move {fileSize : UInt64} {range : UInt32 × UInt32}
    (fetches : call.activity = .fileDownload fileSize range)
    (fetching : Fetching sessionId fileSize side)
    (move : ClientMove encodedLength sessionId call side false next) :
    Fetching sessionId fileSize next := by
  obtain ⟨wait, earlier, sent, received⟩ := side
  cases move with
  | @spoke exchange after message effects draw stamp waits sends goesOn =>
      obtain rfl : wait = some exchange := waits
      cases exchange with
      | sendDownloadRequest =>
          obtain ⟨_, rfl⟩ := Prod.mk.inj (Option.some.inj goesOn)
          obtain rfl := Option.some.inj sends
          obtain ⟨rfl, rfl⟩ := fetching
          rw [fetches]
          exact fetching_nextDownload rfl rfl
      | sendClose => simp [afterSend] at goesOn
      | _ => simp [Fetching, afterSend] at fetching goesOn
  | closed waits =>
      obtain rfl : wait = some .sendClose := waits
      exact ⟨by simp [fetching.1], fetching.2⟩
  | @heard exchange after frame effects latency draw waits goesOn =>
      obtain rfl : wait = some exchange := waits
      cases exchange with
      | receiveChunk bytesReceived chunkCount =>
          obtain ⟨_, rfl⟩ := Prod.mk.inj (Option.some.inj goesOn)
          obtain ⟨asked, got⟩ := fetching
          rw [fetches]
          refine fetching_nextDownload asked ?_
          simp [got, UInt64.ofNat_add]
      | sendClose => simp [afterReceive] at goesOn
      | _ => simp [Fetching, afterReceive] at fetching goesOn
  | @paused left waits =>
      obtain rfl : wait = some (.pause left) := waits
      exact fetching.elim

end Script

/-! ## Sessions whose close request was handled -/

/-- Both sides of a session at its end. -/
structure Settled (call : TcpCall) (connectionId : Uuid) (later : List MessageType)
    (session : Session) : Prop where
  booked : Booked call (session.clientSide none)
  script : frameKinds session.upstream.sent = wholeScript call.activity later
  follow : ∀ kind ∈ later, Follows call.activity kind
  heard : downloads call.activity = false → later.length + 1 = session.downstream.delivered.length
  read : session.upstream.inFlight = []
  fits : ∀ frame ∈ session.upstream.sent, frame.length ≤ messageLimit
  record : session.server.metrics.traffic connectionId =
    some (Serving.tally session.upMessages.sent session.downMessages.sent)
  replied : downloads call.activity = false →
    session.downMessages.sent.length = later.length + 1

/-- A message that is delivered and comes last leaves none in flight. -/
theorem inFlight_of_last {delivered inFlight front : List MessageType} {last : MessageType}
    (whole : delivered ++ inFlight = front ++ [last]) (fresh : last ∉ front)
    (got : last ∈ delivered) : inFlight = [] := by
  rcases List.eq_nil_or_concat inFlight with rfl | ⟨earlier, other, rfl⟩
  · rfl
  · rw [List.concat_eq_append, ← List.append_assoc] at whole
    obtain ⟨same, _⟩ := List.append_inj' whole rfl
    exact absurd (same ▸ List.mem_append_left _ got) fresh

section Settled

variable {encodedLength : Message → Nat → Nat} {sessionId connectionId : Uuid} {call : TcpCall}
  {server : SocketAddr} {metrics : MetricsCollector} {now : Nat} {final : Session}
  {trace : List (Session × ActivityLabel)}
  (run : (activityMachine encodedLength sessionId).Run
    (Session.begin call server connectionId metrics now) trace final)
  (handled : final.server.stage = .returned)

include run handled

theorem settled_of_run : ∃ later, Settled call connectionId later final := by
  obtain ⟨steps, served, decoded, replies, faultless, within⟩ := serving_of_run run
  obtain ⟨wait, waits, booked, script⟩ := clientSide_of_run run
    (fun side => Booked call side ∧
      Script call.activity side.wait (frameKinds side.sent) side.received.length) true
    (fun _ _ _ => rfl) ⟨booked_start _, .fresh⟩
    (fun side stopped after _ holds move => ⟨booked_move holds.1 move, script_move holds.2 move⟩)
  have got : .connectionClose ∈ kinds final.upMessages.delivered := by
    rw [← decoded]
    exact Serving.kinds_dispatched_subset (Serving.closed_of_returned served faultless handled)
  have whole : frameKinds final.upstream.sent =
      kinds final.upMessages.delivered ++ frameKinds final.upstream.inFlight :=
    frameKinds_append _ _
  obtain ⟨rfl, later, shape, follow, heard⟩ := script.ended (whole ▸ List.mem_append_left _ got)
  have shape : frameKinds final.upstream.sent = wholeScript call.activity later := shape
  have read : final.upstream.inFlight = [] := by
    have none := inFlight_of_last (whole.symm.trans shape) (close_notMem follow) got
    simpa [frameKinds, kinds] using none
  have all : final.upMessages.sent = final.upMessages.delivered := by
    simp [Channel.sent, Session.upMessages, Channel.map, read]
  have decodedKinds : kinds (Serving.decoded steps) = wholeScript call.activity later := by
    rw [decoded, ← shape, whole, read]
    simp [frameKinds, kinds]
  have dispatched : Serving.dispatched steps = Serving.decoded steps := by
    refine (Serving.dispatched_eq_decoded_iff served).2.mpr ?_
    refine Serving.no_stray_of_returned served faultless handled ?_ ?_ ?_
    · rw [decodedKinds, count_close follow]
    · rw [decodedKinds]
      exact count_uploadRequest follow
    · rw [decodedKinds]
      exact chunks_of_upload follow
  refine ⟨later, booked, shape, follow, heard, read, ?_, ?_, fun one => ?_⟩
  · simpa [Channel.sent, read] using within
  · rw [all, ← decoded, ← replies, ← dispatched]
    exact (Serving.standing_of_run served).traffic
  · have answered := answered_of_script follow one
    rw [← decodedKinds] at answered
    obtain ⟨_, balance⟩ := Serving.replies_of_answered served faultless answered
    rw [dispatched, decodedKinds, countP_unclosed follow, handled] at balance
    rw [← replies]
    exact balance

/-- A download that is not asked to stop reads all that it is sent. -/
theorem unread_of_download {fileSize : UInt64} {range : UInt32 × UInt32}
    (fetches : call.activity = .fileDownload fileSize range)
    (unstopped : ∀ entry ∈ trace, entry.2.stops = false) : final.downstream.inFlight = [] := by
  obtain ⟨steps, served, decoded, replies, faultless, _⟩ := serving_of_run run
  obtain ⟨later, settled⟩ := settled_of_run run handled
  obtain ⟨wait, _, script, fetching⟩ := clientSide_of_run run
    (fun side => Script call.activity side.wait (frameKinds side.sent) side.received.length ∧
      Fetching sessionId fileSize side) false
    (fun entry member stops => absurd stops (by simp [unstopped entry member]))
    ⟨.fresh, by simp [fetches, firstExchange, Fetching]⟩
    (fun side stopped after still holds move => by
      obtain rfl : stopped = false := by simpa using still
      exact ⟨script_move holds.1 move, fetching_move fetches holds.2 move⟩)
  have shape : frameKinds (final.clientSide wait).sent = wholeScript call.activity later :=
    settled.script
  obtain ⟨rfl, _⟩ := script.ended (by rw [shape]; simp [wholeScript])
  obtain ⟨asked, enough⟩ := fetching
  have asked : final.upMessages.sent =
      [downloadRequest sessionId fileSize, closeMessage sessionId] := by
    rw [Session.upMessages, Channel.sent_map]
    exact asked
  have heard : Serving.decoded steps <+:
      [downloadRequest sessionId fileSize, closeMessage sessionId] := by
    rw [decoded, ← asked]
    exact List.prefix_append _ _
  obtain ⟨filled, streamed⟩ := Serving.replies_of_download served faultless heard rfl rfl
  rw [handled, replies] at streamed
  have within : payloadBytes final.downMessages.sent ≤ fileSize.toNat := by
    have bound : payloadBytes final.downMessages.sent ≤
        (downloadRequest sessionId fileSize).requestedSize.toNat := streamed
    rwa [downloadRequest, Message.requestedSize_sizeBytes] at bound
  rw [replies] at filled
  have split : final.downMessages.sent =
      final.downMessages.delivered ++ final.downMessages.inFlight := rfl
  rw [split, payloadBytes_append] at within
  have read : fileSize.toNat ≤ payloadBytes final.downMessages.delivered := by
    have small : payloadBytes final.downMessages.delivered < 2 ^ 64 :=
      (Nat.le_of_add_right_le within).trans_lt fileSize.toNat_lt
    have bound := UInt64.le_iff_toNat_le.mp enough
    rwa [show payloadBytes ((final.clientSide none).received.map Frame.message) =
      payloadBytes final.downMessages.delivered from rfl, UInt64.toNat_ofNat_of_lt' small] at bound
  have nothing : payloadBytes final.downMessages.inFlight = 0 := by omega
  refine List.eq_nil_iff_forall_not_mem.mpr (fun frame member => ?_)
  have here : frame.message ∈ final.downMessages.inFlight := List.mem_map_of_mem member
  have some := filled frame.message (split ▸ List.mem_append_right _ here)
  have bound := List.le_sum_of_mem (List.mem_map_of_mem (f := fun message => message.payload.length) here)
  rw [payloadBytes] at nothing
  omega

end Settled

/-- How the two records of a connection compare. The server counts payloads and
every message; the client counts lengths on the wire and every message but its
close request. -/
structure Compared (session : Session) (client server : Traffic) : Prop where
  packetsUp : server.packetsReceived = client.packetsSent + 1
  payloadUp : server.bytesReceived = UInt64.ofNat (payloadBytes session.upMessages.sent)
  wireUp : client.bytesSent = (sentAmounts session.effects).sum
  amounts : List.Forall₂ Metered (sentAmounts session.effects) (unclosed session.upstream.sent)
  fits : ∀ frame ∈ session.upstream.sent, frame.length ≤ messageLimit
  payloadDown : server.bytesSent = UInt64.ofNat (payloadBytes session.downMessages.sent)
  wireDown : client.bytesReceived = UInt64.ofNat (wireBytes session.downstream.delivered)

/-- The unclosed messages of a whole script. -/
theorem length_unclosed {frames : List Frame} {activity : UserActivity} {later : List MessageType}
    (script : frameKinds frames = wholeScript activity later)
    (follow : ∀ kind ∈ later, Follows activity kind) :
    (unclosed frames).length = later.length + 1 := by
  rw [← countP_unclosed follow, ← script, unclosed, ← List.countP_eq_length_filter, frameKinds,
    kinds, List.countP_map, List.countP_map]
  rfl

/-- Once the server has handled the close request of a page, a download or an
upload, the records of both sides agree on the messages: the server has one more
packet, the close request, and as many replies as the client unless a download
was stopped. -/
theorem records_compare {encodedLength : Message → Nat → Nat} {sessionId connectionId : Uuid}
    {call : TcpCall} {server : SocketAddr} {metrics : MetricsCollector} {now : Nat}
    {trace : List (Session × ActivityLabel)} {final : Session}
    (run : (activityMachine encodedLength sessionId).Run
      (Session.begin call server connectionId metrics now) trace final)
    (handled : final.server.stage = .returned) (clock : Nat) (shared : SharedState) :
    ∃ atClient atServer : Traffic,
      (Effect.applyAll clock shared (.startConnection call.connectionId .tcp call.activity ::
        final.effects)).metrics.traffic call.connectionId = some atClient ∧
      final.server.metrics.traffic connectionId = some atServer ∧
      Compared final atClient atServer ∧
      (downloads call.activity = false ∨ (∀ entry ∈ trace, entry.2.stops = false) →
        atServer.packetsSent = atClient.packetsReceived ∧ final.downstream.inFlight = []) := by
  obtain ⟨later, settled⟩ := settled_of_run run handled
  refine ⟨_, _, traffic_of_booked settled.booked clock shared, settled.record, ?_, fun quiet => ?_⟩
  · rw [settled.booked.traffic]
    have counted := length_unclosed settled.script settled.follow
    refine ⟨?_, rfl, rfl, settled.booked.amounts, settled.fits, rfl, rfl⟩
    have all : final.upMessages.sent.length = later.length + 1 + 1 := by
      have lengths := congrArg List.length settled.script
      simpa [frameKinds, kinds, wholeScript, Session.upMessages, Channel.sent_map] using lengths
    show UInt64.ofNat _ = UInt64.ofNat _ + 1
    rw [all, Session.clientSide, counted, UInt64.ofNat_add]
    rfl
  · have unread : final.downstream.inFlight = [] := by
      cases one : downloads call.activity with
      | false =>
          have replied := settled.replied one
          rw [settled.heard one, Session.downMessages, Channel.sent_map, Channel.sent] at replied
          simpa using replied
      | true =>
          obtain ⟨fileSize, range, fetches⟩ : ∃ fileSize range,
              call.activity = .fileDownload fileSize range := by
            cases activity : call.activity <;> simp_all [downloads]
          exact unread_of_download run handled fetches (by simpa [one] using quiet)
    refine ⟨?_, unread⟩
    rw [settled.booked.traffic]
    show UInt64.ofNat _ = UInt64.ofNat _
    rw [Session.downMessages, Channel.sent_map, Channel.sent, unread, List.append_nil,
      List.length_map]
    rfl

/-! ## A download of five bytes -/

/-- The client is connected and has sent nothing. -/
def fiveBytes : Session :=
  Session.begin (smallCall (.fileDownload 5 (2, 3))) ⟨"127.0.0.1:8080"⟩ ⟨3⟩ {} 0

/-- The request, one chunk, and the close request. -/
def fiveBytesLabels : List ActivityLabel :=
  [.clientSends 0 0, .serverReceives 0 0 1, .serverSends 0 0 0, .clientReceives false 1 0,
    .clientSends 0 0, .serverReceives 0 0 2]

def fiveBytesTrace : List (Session × ActivityLabel) :=
  (activityMachine packedLength ⟨2⟩).trace fiveBytes fiveBytesLabels

/-- The session when the server has handled the close request. -/
def fiveBytesDone : Session :=
  ((activityMachine packedLength ⟨2⟩).play fiveBytes fiveBytesLabels).get (by decide +kernel)

theorem fiveBytes_run :
    (activityMachine packedLength ⟨2⟩).Run fiveBytes fiveBytesTrace fiveBytesDone :=
  Machine.run_of_play (Option.some_get _).symm

/-- What the client has on its record. -/
def fiveBytesAtClient : Option Traffic :=
  (Effect.applyAll 0 ⟨⟨.empty, {}, 0⟩, {}⟩
    (.startConnection ⟨1⟩ .tcp (.fileDownload 5 (2, 3)) :: fiveBytesDone.effects)).metrics.traffic ⟨1⟩

theorem records_compare_fiveBytes :
    ∃ atClient atServer, fiveBytesAtClient = some atClient ∧
      fiveBytesDone.server.metrics.traffic ⟨3⟩ = some atServer ∧
      Compared fiveBytesDone atClient atServer ∧ atServer.packetsSent = atClient.packetsReceived := by
  obtain ⟨atClient, atServer, client, server, compared, down⟩ :=
    records_compare fiveBytes_run (by decide +kernel) 0 ⟨⟨.empty, {}, 0⟩, {}⟩
  exact ⟨atClient, atServer, client, server, compared, (down (Or.inr (by decide +kernel))).1⟩

/-- Nothing was lost, and yet the records differ in all but the chunk's packet. -/
theorem records_differ_fiveBytes :
    (activityMachine packedLength ⟨2⟩).Run fiveBytes fiveBytesTrace fiveBytesDone ∧
      fiveBytesDone.client = .returned ∧ fiveBytesDone.server.stage = .returned ∧
      fiveBytesAtClient = some
        { packetsReceived := 1, bytesReceived := 83, packetsSent := 1, bytesSent := 88 } ∧
      fiveBytesDone.server.metrics.traffic ⟨3⟩ = some
        { packetsReceived := 2, bytesReceived := 8, packetsSent := 1, bytesSent := 5 } :=
  ⟨fiveBytes_run, by decide +kernel⟩

end Npt.System
