import Npt.Core.PrefixCode
import Npt.Core.Substring
import Npt.Server.Returning
import Npt.Shared.Text
import Npt.System.Framing

/-!
Owns: what the TCP server makes of a stream that ends. `handle_connection` reads
messages until one fails, and tells a disconnect from an error by looking for
"eof" in the text of that failure, wherever in a message the stream has ended.

Does not own: streams that fail or stay open, uploads, or replies that fail.
-/

namespace Npt.System

open Npt.Core
open Npt.Shared
open Npt.Server.TcpServer (Serving Stage Answer Blamed weight not_blamed_of_faultless messageLimit)
open Npt.Server.TcpServer.Serving (inUpload weight_lt weight_of_chunking connectionId_of_step)
open Npt.System.Framing

variable {EncodeError DecodeError : Type} (rmp : Serialiser EncodeError DecodeError)
  (text : DecodeError → String)

/-! ## Reading from a stream -/

/-- The text of what `receive_message` fails with. -/
def errorText : ReceiveError DecodeError → String
  | .elapsed => "deadline has elapsed"
  | .io .unexpectedEof => "early eof"
  | .io (.other error) => error
  | .tooLarge length => s!"Message too large: {length} bytes"
  | .decode error => text error

/-- A connection and what has not been read of its stream. -/
structure Delivery where
  serving : Serving
  stream : ByteStream IoError

inductive DeliveryLabel where
  /-- `receive_message` returns, and the code runs to its next wait. -/
  | read (draw latency now : Nat)
  | sent (draw latency : Nat)
deriving DecidableEq, Repr

/-- What the stream gives `receive_message`. -/
def Delivery.read (delivery : Delivery) : Received DecodeError WireMessage :=
  TcpServer.receiveMessage rmp ⟨false, false⟩ delivery.stream

def Delivery.step (delivery : Delivery) : DeliveryLabel → Option Delivery
  | .read draw latency now =>
      match delivery.read rmp with
      | ⟨some (.ok message), rest⟩ =>
          (delivery.serving.step (.received message.toMessage draw latency now)).map (⟨·, rest⟩)
      | ⟨some (.error error), rest⟩ =>
          (delivery.serving.step (.receiveFailed (errorText text error) now)).map
            (⟨·, rest⟩)
      | ⟨none, _⟩ => none
  | .sent draw latency =>
      (delivery.serving.step (.sent draw latency)).map (⟨·, delivery.stream⟩)

def deliveryMachine : Machine Delivery DeliveryLabel := ⟨Delivery.step rmp text⟩

/-- A new connection whose peer writes some bytes and closes. -/
def deliver (connectionId : Uuid) (metrics : MetricsCollector) (now : Nat) (bytes : List UInt8) :
    Delivery :=
  ⟨Serving.accept connectionId metrics now, ⟨bytes, .eof⟩⟩

/-! ## Complete messages -/

/-- The length in front of a message. -/
def declared (bytes : List UInt8) : Nat := ofLeBytes (bytes.take 4)

/-- The well-formed messages with their lengths in front. -/
def frames : Set (List UInt8) :=
  {frame | frame.length = 4 + declared frame ∧ declared frame ≤ messageLimit ∧
    ∃ message, rmp.fromSlice (frame.drop 4) = .ok message}

/-- A message of the stream, behind messages that are complete. -/
def Carries (bytes : List UInt8) (message : WireMessage) : Prop :=
  ∃ front frame rest, bytes = front ++ (frame ++ rest) ∧ Spelled (frames rmp) front ∧
    frame ∈ frames rmp ∧ rmp.fromSlice (frame.drop 4) = .ok message

/-- The stream does not end inside the message that begins here, and if that
cannot be decoded, the error's text has no "eof" in it. -/
def Told (rest : List UInt8) : Prop :=
  rest = [] ∨ 4 ≤ rest.length ∧ (messageLimit < declared rest ∨
    4 + declared rest ≤ rest.length ∧
      ∀ error, rmp.fromSlice ((rest.drop 4).take (declared rest)) = .error error →
        contains (toLowercase (text error)) "eof" = false)

section Frames

variable {rmp text} {bytes frame rest : List UInt8}

theorem declared_append (whole : 4 ≤ frame.length) : declared (frame ++ rest) = declared frame := by
  rw [declared, declared, List.take_append_of_le_length whole]

theorem length_of_frame (member : frame ∈ frames rmp) : 4 ≤ frame.length := by
  have length := member.1
  omega

/-- The length in front of a message is where it ends. -/
theorem frames_prefixCode : PrefixCode (frames rmp) := by
  rintro left leftFrame right rightFrame ⟨tail, rfl⟩
  have same : declared (left ++ tail) = declared left :=
    declared_append (length_of_frame leftFrame)
  have shorter := rightFrame.1
  rw [same, List.length_append, leftFrame.1] at shorter
  obtain rfl : tail = [] := List.eq_nil_of_length_eq_zero (by omega)
  rw [List.append_nil]

/-- What a frame at the front of a text says of the text. -/
theorem front_of_frame (member : frame ∈ frames rmp) (front : frame <+: bytes) :
    declared bytes ≤ messageLimit ∧ 4 + declared bytes ≤ bytes.length ∧
      ∃ message, rmp.fromSlice ((bytes.drop 4).take (declared bytes)) = .ok message := by
  obtain ⟨tail, rfl⟩ := front
  have wide := length_of_frame member
  obtain ⟨length, within, message, decoded⟩ := member
  rw [declared_append wide]
  refine ⟨within, by rw [List.length_append]; omega, message, ?_⟩
  rw [List.drop_append_of_le_length wide, List.take_left' (by rw [List.length_drop]; omega)]
  exact decoded

/-- A body that decodes makes a frame. -/
theorem frame_of_decoded (within : declared bytes ≤ messageLimit)
    (full : 4 + declared bytes ≤ bytes.length) {message : WireMessage}
    (decoded : rmp.fromSlice ((bytes.drop 4).take (declared bytes)) = .ok message) :
    bytes.take (4 + declared bytes) ∈ frames rmp ∧
      rmp.fromSlice ((bytes.take (4 + declared bytes)).drop 4) = .ok message := by
  have size : (bytes.take (4 + declared bytes)).length = 4 + declared bytes := by
    rw [List.length_take, Nat.min_eq_left full]
  have same : declared (bytes.take (4 + declared bytes)) = declared bytes := by
    rw [declared, declared, List.take_take, Nat.min_eq_left (Nat.le_add_right 4 _)]
  have body : rmp.fromSlice ((bytes.take (4 + declared bytes)).drop 4) = .ok message := by
    rw [List.drop_take, Nat.add_sub_cancel_left, decoded]
  exact ⟨⟨by rw [size, same], by rw [same]; exact within, message, body⟩, body⟩

/-- A body that does not decode is told by the error's text. -/
theorem told_iff_of_undecoded (whole : 4 ≤ bytes.length) (within : ¬messageLimit < declared bytes)
    (full : 4 + declared bytes ≤ bytes.length) {error : DecodeError}
    (failed : rmp.fromSlice ((bytes.drop 4).take (declared bytes)) = .error error) :
    Told rmp text bytes ↔ contains (toLowercase (text error)) "eof" = false := by
  constructor
  · rintro (rfl | ⟨_, past | ⟨_, told⟩⟩)
    · simp at whole
    · exact absurd past within
    · exact told error failed
  · intro quiet
    refine Or.inr ⟨whole, Or.inr ⟨full, fun other same => ?_⟩⟩
    obtain rfl := Except.error.inj (failed.symm.trans same)
    exact quiet

theorem told_of_frame (member : frame ∈ frames rmp) (front : frame <+: bytes) :
    Told rmp text bytes := by
  obtain ⟨within, full, message, decoded⟩ := front_of_frame member front
  refine Or.inr ⟨by omega, Or.inr ⟨full, fun error failed => ?_⟩⟩
  rw [decoded] at failed
  cases failed

/-- Nothing is left untold of a stream of complete messages. -/
theorem told_of_spelled {front : List UInt8} (spelled : Spelled (frames rmp) front)
    (whole : Spelled (frames rmp) (front ++ rest)) : Told rmp text rest := by
  cases frames_prefixCode.spelled_of_append spelled whole with
  | nil => exact Or.inl rfl
  | cons member _ => exact told_of_frame member (List.prefix_append _ _)

/-- Of the places between messages only the last can be one that is not told. -/
theorem told_of_boundary {front other remaining : List UInt8} (spelled : Spelled (frames rmp) front)
    (blocked : Blocked (frames rmp) rest) (last : Told rmp text rest)
    (otherSpelled : Spelled (frames rmp) other) (whole : front ++ rest = other ++ remaining) :
    Told rmp text remaining := by
  obtain ⟨middle, rfl⟩ := frames_prefixCode.prefix_of_blocked spelled blocked otherSpelled
    ⟨remaining, whole.symm⟩
  have between := frames_prefixCode.spelled_of_append otherSpelled spelled
  rw [List.append_assoc] at whole
  obtain rfl := List.append_cancel_left whole
  cases between with
  | nil => exact last
  | cons member _ =>
      rw [List.append_assoc]
      exact told_of_frame member (List.prefix_append _ _)

end Frames

/-- What `receive_message` makes of the rest of a stream that ends. -/
inductive Arrival : List UInt8 → Received DecodeError WireMessage → Prop where
  | message {frame rest : List UInt8} {message : WireMessage} (member : frame ∈ frames rmp)
      (decoded : rmp.fromSlice (frame.drop 4) = .ok message) :
      Arrival (frame ++ rest) ⟨some (.ok message), ⟨rest, .eof⟩⟩
  | failed {bytes rest : List UInt8} {error : ReceiveError DecodeError}
      (blocked : Blocked (frames rmp) bytes) (less : rest.length ≤ bytes.length)
      (told : contains (toLowercase (errorText text error)) "eof" = false ↔
        bytes ≠ [] ∧ Told rmp text bytes) :
      Arrival bytes ⟨some (.error error), ⟨rest, .eof⟩⟩

theorem contains_tooLarge (length : Nat) :
    contains (toLowercase s!"Message too large: {length} bytes") "eof" = false := by
  have shape : s!"Message too large: {length} bytes" =
      "Message too large: " ++ length.repr ++ " bytes" := rfl
  have missing : 'f' ∉ (toLowercase s!"Message too large: {length} bytes").toList := by
    have before : 'f' ∉ (toLowercase "Message too large: ").toList := by decide
    have after : 'f' ∉ (toLowercase " bytes").toList := by decide
    have number := not_mem_lowercase_repr length (c := 'f') (by decide)
    rw [shape, toLowercase_append, toLowercase_append]
    simp [before, after, number]
  have needed : 'f' ∈ "eof".toList := by decide
  rw [Bool.eq_false_iff, Ne, contains_iff]
  exact Substring.not_infix_of_mem needed missing

/-- The end of the stream inside what is being read. -/
theorem contains_eof : contains (toLowercase (errorText text (.io .unexpectedEof))) "eof" = true := by
  have early : contains (toLowercase "early eof") "eof" = true := by decide
  exact early

theorem readTimed_eof {bytes : List UInt8} {count : Nat} (short : bytes.length < count) :
    @readTimed DecodeError false count ⟨bytes, .eof⟩ =
      ⟨some (.error (.io .unexpectedEof)), ⟨[], .eof⟩⟩ := by
  simp [readTimed, ByteStream.readExact, Nat.not_le.mpr short]

theorem readTimed_of_le {bytes : List UInt8} {count : Nat} (enough : count ≤ bytes.length) :
    @readTimed DecodeError false count ⟨bytes, .eof⟩ =
      ⟨some (.ok (bytes.take count)), ⟨bytes.drop count, .eof⟩⟩ := by
  have stream : count ≤ (⟨bytes, .eof⟩ : ByteStream IoError).bytes.length := enough
  rw [readTimed, ByteStream.readExact_of_le stream]

section Receive

variable {bytes : List UInt8}

theorem receive_short (short : bytes.length < 4) :
    TcpServer.receiveMessage rmp ⟨false, false⟩ ⟨bytes, .eof⟩ =
      ⟨some (.error (.io .unexpectedEof)), ⟨[], .eof⟩⟩ := by
  rw [TcpServer.receiveMessage, readTimed_eof short]
  rfl

theorem receive_tooLarge (whole : 4 ≤ bytes.length) (large : messageLimit < declared bytes) :
    TcpServer.receiveMessage rmp ⟨false, false⟩ ⟨bytes, .eof⟩ =
      ⟨some (.error (.tooLarge (declared bytes))), ⟨bytes.drop 4, .eof⟩⟩ := by
  have refused : ofLeBytes (bytes.take 4) > 10 * 1024 * 1024 := large
  rw [TcpServer.receiveMessage, readTimed_of_le whole]
  simp only [Received.andThen, if_pos refused]
  rfl

theorem receive_body (whole : 4 ≤ bytes.length) (within : ¬messageLimit < declared bytes) :
    TcpServer.receiveMessage rmp ⟨false, false⟩ ⟨bytes, .eof⟩ =
      (readTimed false (declared bytes) ⟨bytes.drop 4, .eof⟩).andThen fun messageBuf stream =>
        match rmp.fromSlice messageBuf with
        | .error error => ⟨some (.error (.decode error)), stream⟩
        | .ok message => ⟨some (.ok message), stream⟩ := by
  have accepted : ¬ofLeBytes (bytes.take 4) > 10 * 1024 * 1024 := within
  rw [TcpServer.receiveMessage, readTimed_of_le whole]
  simp only [Received.andThen, if_neg accepted]
  rfl

end Receive

theorem arrival_receiveMessage (bytes : List UInt8) :
    Arrival rmp text bytes (TcpServer.receiveMessage rmp ⟨false, false⟩ ⟨bytes, .eof⟩) := by
  by_cases whole : 4 ≤ bytes.length
  · have nonempty : bytes ≠ [] := by
      rintro rfl
      simp at whole
    by_cases large : messageLimit < declared bytes
    · rw [receive_tooLarge rmp whole large]
      refine .failed (fun frame member front => ?_) (by simp) ?_
      · exact absurd (front_of_frame member front).1 (Nat.not_le.mpr large)
      · exact ⟨fun _ => ⟨nonempty, Or.inr ⟨whole, Or.inl large⟩⟩,
          fun _ => contains_tooLarge (declared bytes)⟩
    · rw [receive_body rmp whole large]
      by_cases full : 4 + declared bytes ≤ bytes.length
      · rw [readTimed_of_le (by rw [List.length_drop]; omega)]
        simp only [Received.andThen]
        cases decoded : rmp.fromSlice ((bytes.drop 4).take (declared bytes)) with
        | error error =>
            refine .failed (fun frame member front => ?_) (by simp) ?_
            · obtain ⟨_, _, message, read⟩ := front_of_frame member front
              simp [decoded] at read
            · rw [told_iff_of_undecoded whole large full decoded]
              exact ⟨fun quiet => ⟨nonempty, quiet⟩, fun both => both.2⟩
        | ok message =>
            obtain ⟨member, read⟩ := frame_of_decoded (Nat.not_lt.mp large) full decoded
            have arrival : Arrival rmp text
                (bytes.take (4 + declared bytes) ++ bytes.drop (4 + declared bytes))
                ⟨some (.ok message), ⟨bytes.drop (4 + declared bytes), .eof⟩⟩ :=
              .message member read
            rw [List.take_append_drop] at arrival
            rw [List.drop_drop]
            exact arrival
      · rw [readTimed_eof (by rw [List.length_drop]; omega)]
        refine .failed (fun frame member front => ?_) (Nat.zero_le _) ?_
        · exact absurd (front_of_frame member front).2.1 full
        · simp [contains_eof, Told, nonempty, large, full]
  · rw [receive_short rmp (Nat.not_le.mp whole)]
    refine .failed (fun frame member front => ?_) (Nat.zero_le _) ?_
    · have wide := (front_of_frame member front).2.1
      omega
    · simp [contains_eof, Told, whole]

/-! ## Runs -/

/-- A bound on the steps that are left. -/
def Delivery.rank (delivery : Delivery) : Nat :=
  delivery.stream.bytes.length * (2 ^ 64 + 2) + weight delivery.serving.stage

section Stages

variable {stage : Stage}

/-- A message that neither closes nor asks for an upload. -/
theorem stage_of_answer {message : Message} (answer : Answer message stage)
    (kind : message.messageType ∉ [.connectionClose, .fileUploadRequest]) :
    inUpload stage = false ∧ stage ≠ .returned := by
  cases answer with
  | reply _ => exact ⟨rfl, by simp⟩
  | grant asks => simp [asks] at kind
  | download _ chunking =>
      obtain ⟨outside, opened, _⟩ := weight_of_chunking chunking
      exact ⟨outside, opened⟩
  | close closes => simp [closes] at kind
  | ignore _ => exact ⟨rfl, by simp⟩

end Stages

/-- Between its messages, with no error so far. -/
structure Reading (id : Uuid) (bytes front : List UInt8) (delivery : Delivery) : Prop where
  split : bytes = front ++ delivery.stream.bytes
  spelled : Spelled (frames rmp) front
  ended : delivery.stream.ending = .eof
  id : delivery.serving.connectionId = id
  faultless : delivery.serving.metrics.Faultless delivery.serving.connectionId
  outside : inUpload delivery.serving.stage = false
  opened : delivery.serving.stage ≠ .returned

/-- The connection reads, or has returned at the first rest of the stream that no
message begins. -/
inductive Course (id : Uuid) (bytes : List UInt8) (delivery : Delivery) : Prop where
  | reading {front : List UInt8} (reading : Reading rmp id bytes front delivery)
  | returned {front rest : List UInt8} (split : bytes = front ++ rest)
      (spelled : Spelled (frames rmp) front) (blocked : Blocked (frames rmp) rest)
      (returned : delivery.serving.stage = .returned)
      (told : Blamed delivery.serving.metrics id ↔ rest ≠ [] ∧ Told rmp text rest)

section Runs

variable {rmp text} {id : Uuid} {bytes front : List UInt8} {delivery next : Delivery}

theorem course_deliver (connectionId : Uuid) (metrics : MetricsCollector) (now : Nat) :
    Course rmp text connectionId bytes (deliver connectionId metrics now bytes) := by
  have reading : Reading rmp connectionId bytes [] (deliver connectionId metrics now bytes) :=
    { split := rfl
      spelled := .nil
      ended := rfl
      id := rfl
      faultless := (Serving.clean_accept now connectionId metrics).faultless
      outside := rfl
      opened := by simp [deliver] }
  exact .reading reading

/-- A message of the stream is read. -/
theorem reading_of_message (reading : Reading rmp id bytes front delivery)
    {frame rest : List UInt8} {message : WireMessage} {draw latency now : Nat} {serving : Serving}
    (unread : delivery.stream.bytes = frame ++ rest) (member : frame ∈ frames rmp)
    (kind : message.messageType ∉ [.connectionClose, .fileUploadRequest])
    (taken : delivery.serving.step (.received message.toMessage draw latency now) = some serving) :
    Reading rmp id bytes (front ++ frame) ⟨serving, ⟨rest, .eof⟩⟩ ∧
      (Delivery.rank ⟨serving, ⟨rest, .eof⟩⟩) < delivery.rank := by
  have clean := Serving.clean_received message.toMessage draw latency now reading.faultless taken
  have stage : inUpload serving.stage = false ∧ serving.stage ≠ .returned := by
    cases Serving.moved_of_step taken with
    | handled _ => exact stage_of_answer (Serving.answer_handleMessage _ _ _ _ _) kind
    | chunk waits _ => exact absurd reading.outside (by simp [inUpload, waits])
    | forgotten _ _ => exact ⟨rfl, by simp⟩
  refine ⟨?_, ?_⟩
  · exact
      { split := by rw [reading.split, unread, List.append_assoc]
        spelled := reading.spelled.snoc member
        ended := rfl
        id := (connectionId_of_step taken).trans reading.id
        faultless := clean.faultless
        outside := stage.1
        opened := stage.2 }
  · have wide := length_of_frame member
    have less := weight_lt serving.stage
    simp only [Delivery.rank, unread, List.length_append]
    omega

/-- A reply has been sent. -/
theorem reading_of_sent (reading : Reading rmp id bytes front delivery) {draw latency : Nat}
    {serving : Serving} (taken : delivery.serving.step (.sent draw latency) = some serving) :
    Reading rmp id bytes front ⟨serving, delivery.stream⟩ ∧
      Delivery.rank ⟨serving, delivery.stream⟩ < delivery.rank := by
  have clean := Serving.clean_sent draw latency reading.faultless taken
  obtain ⟨outside, opened⟩ := Serving.outside_of_sent taken reading.outside
  refine ⟨?_, ?_⟩
  · exact
      { split := reading.split
        spelled := reading.spelled
        ended := reading.ended
        id := (connectionId_of_step taken).trans reading.id
        faultless := clean.faultless
        outside := outside
        opened := opened }
  · have fewer := Serving.weight_of_sent taken
    simp only [Delivery.rank]
    omega

/-- A read that fails ends the run where no message begins. -/
theorem course_of_failure (reading : Reading rmp id bytes front delivery)
    {error : ReceiveError DecodeError} {rest : List UInt8} {now : Nat} {serving : Serving}
    (blocked : Blocked (frames rmp) delivery.stream.bytes)
    (less : rest.length ≤ delivery.stream.bytes.length)
    (told : contains (toLowercase (errorText text error)) "eof" = false ↔
      delivery.stream.bytes ≠ [] ∧ Told rmp text delivery.stream.bytes)
    (taken : delivery.serving.step (.receiveFailed (errorText text error) now) = some serving) :
    Course rmp text id bytes ⟨serving, ⟨rest, .eof⟩⟩ ∧
      Delivery.rank ⟨serving, ⟨rest, .eof⟩⟩ < delivery.rank := by
  cases Serving.moved_of_step taken with
  | disconnected waits =>
      have blamed := Serving.blamed_disconnect_iff now reading.faultless (errorText text error)
      have stage := delivery.serving.stage_disconnect (errorText text error) now
      constructor
      · refine .returned reading.split reading.spelled blocked stage ?_
        rw [← reading.id, blamed, told]
      · simp only [Delivery.rank, stage, waits, weight]
        omega
  | uploadFailed waits => exact absurd reading.outside (by simp [inUpload, waits])

/-- A connection that has returned takes no step. -/
theorem stopped_of_returned (returned : delivery.serving.stage = .returned)
    (label : DeliveryLabel) : (deliveryMachine rmp text).step delivery label ≠ some next := by
  intro taken
  cases label with
  | read draw latency now =>
      simp only [deliveryMachine, Delivery.step] at taken
      split at taken
      · obtain ⟨_, stepped, _⟩ := Option.map_eq_some_iff.mp taken
        exact (Serving.moved_of_step stepped).not_returned returned
      · obtain ⟨_, stepped, _⟩ := Option.map_eq_some_iff.mp taken
        exact (Serving.moved_of_step stepped).not_returned returned
      · simp at taken
  | sent draw latency =>
      obtain ⟨_, stepped, _⟩ := Option.map_eq_some_iff.mp taken
      exact (Serving.moved_of_step stepped).not_returned returned

theorem course_of_step
    (kinds : ∀ message, Carries rmp bytes message →
      message.messageType ∉ [.connectionClose, .fileUploadRequest])
    (course : Course rmp text id bytes delivery) {label : DeliveryLabel}
    (taken : (deliveryMachine rmp text).step delivery label = some next) :
    Course rmp text id bytes next ∧ next.rank < delivery.rank := by
  cases course with
  | returned _ _ _ returned _ => exact absurd taken (stopped_of_returned returned label)
  | @reading front reading =>
      cases label with
      | sent draw latency =>
          obtain ⟨serving, stepped, rfl⟩ := Option.map_eq_some_iff.mp taken
          obtain ⟨later, less⟩ := reading_of_sent reading stepped
          exact ⟨.reading later, less⟩
      | read draw latency now =>
          obtain ⟨serving, ⟨unread, ending⟩⟩ := delivery
          obtain rfl : ending = .eof := reading.ended
          have arrival := arrival_receiveMessage rmp text unread
          simp only [deliveryMachine, Delivery.step, Delivery.read] at taken
          generalize TcpServer.receiveMessage rmp ⟨false, false⟩ ⟨unread, .eof⟩ = received
            at arrival taken
          cases arrival with
          | @message frame rest message member decoded =>
              obtain ⟨after, stepped, rfl⟩ := Option.map_eq_some_iff.mp taken
              have carried : Carries rmp bytes message :=
                ⟨front, frame, rest, reading.split, reading.spelled, member, decoded⟩
              obtain ⟨later, less⟩ :=
                reading_of_message reading rfl member (kinds message carried) stepped
              exact ⟨.reading later, less⟩
          | failed blocked less told =>
              obtain ⟨after, stepped, rfl⟩ := Option.map_eq_some_iff.mp taken
              exact course_of_failure reading blocked less told stepped

/-- A connection that has not returned goes on. -/
theorem Course.live (course : Course rmp text id bytes delivery)
    (opened : delivery.serving.stage ≠ .returned) :
    ∃ label next, (deliveryMachine rmp text).step delivery label = some next := by
  cases course with
  | returned _ _ _ returned _ => exact absurd returned opened
  | reading reading =>
      obtain ⟨serving, ⟨unread, ending⟩⟩ := delivery
      obtain rfl : ending = .eof := reading.ended
      cases stage : serving.stage with
      | returned => exact absurd stage opened
      | receivingChunk _ _ => exact absurd reading.outside (by simp [inUpload, stage])
      | sending reply counted goes =>
          exact ⟨.sent 0 0, _, by
            simp only [deliveryMachine, Delivery.step, Serving.step, stage]
            rfl⟩
      | receiving =>
          have arrival := arrival_receiveMessage rmp text unread
          refine ⟨.read 0 0 0, ?_⟩
          simp only [deliveryMachine, Delivery.step, Delivery.read]
          generalize TcpServer.receiveMessage rmp ⟨false, false⟩ ⟨unread, .eof⟩ = received
            at arrival
          cases arrival with
          | message member decoded => exact ⟨_, by simp only [Serving.step, stage]; rfl⟩
          | failed blocked less told => exact ⟨_, by simp only [Serving.step, stage]; rfl⟩

end Runs

/-- The server reads a stream to its end, and has an error on the connection's
record exactly when the stream is not made of complete messages. -/
def TellsTruncation (connectionId : Uuid) (metrics : MetricsCollector) (now : Nat)
    (bytes : List UInt8) : Prop :=
  (∃ trace last, (deliveryMachine rmp text).Run (deliver connectionId metrics now bytes) trace last ∧
    last.serving.stage = .returned) ∧
  ∀ trace last, (deliveryMachine rmp text).Run (deliver connectionId metrics now bytes) trace last →
    last.serving.stage = .returned →
    (Blamed last.serving.metrics connectionId ↔ ¬Spelled (frames rmp) bytes)

section Outcome

variable {rmp text} {connectionId : Uuid} {metrics : MetricsCollector} {now : Nat}
  {bytes : List UInt8}
  (kinds : ∀ message, Carries rmp bytes message →
    message.messageType ∉ [.connectionClose, .fileUploadRequest])

include kinds

theorem course_of_run {trace : List (Delivery × DeliveryLabel)} {last : Delivery}
    (run : (deliveryMachine rmp text).Run (deliver connectionId metrics now bytes) trace last) :
    Course rmp text connectionId bytes last :=
  run.invariant (Course rmp text connectionId bytes) (course_deliver connectionId metrics now)
    (fun _ _ _ course taken => (course_of_step kinds course taken).1)

variable (rmp text connectionId metrics now) in
theorem returns : ∃ trace last,
    (deliveryMachine rmp text).Run (deliver connectionId metrics now bytes) trace last ∧
      last.serving.stage = .returned :=
  Machine.exists_run_of_rank Delivery.rank (fun _ course opened => course.live opened)
    (fun _ _ _ course taken => course_of_step kinds course taken)
    (course_deliver connectionId metrics now)

end Outcome

/-- The server tells a truncated stream from a disconnect exactly when the stream
does not end inside a message and no error of decoding speaks of "eof". -/
theorem tellsTruncation_iff (connectionId : Uuid) (metrics : MetricsCollector) (now : Nat)
    (bytes : List UInt8)
    (kinds : ∀ message, Carries rmp bytes message →
      message.messageType ∉ [.connectionClose, .fileUploadRequest]) :
    TellsTruncation rmp text connectionId metrics now bytes ↔
      ∀ front rest, bytes = front ++ rest → Spelled (frames rmp) front → Told rmp text rest := by
  -- A run ends at one rest; at any other place a message follows, which is told.
  have judged : ∀ trace last,
      (deliveryMachine rmp text).Run (deliver connectionId metrics now bytes) trace last →
      last.serving.stage = .returned →
      ((Blamed last.serving.metrics connectionId ↔ ¬Spelled (frames rmp) bytes) ↔
        ∀ front rest, bytes = front ++ rest → Spelled (frames rmp) front → Told rmp text rest) := by
    intro trace last run returned
    cases course_of_run kinds run with
    | reading reading => exact absurd returned reading.opened
    | @returned front rest split spelled blocked _ told =>
        rw [told, split, frames_prefixCode.spelled_append_iff spelled blocked]
        constructor
        · intro same other remaining whole otherSpelled
          have last : Told rmp text rest := by
            by_cases none : rest = []
            · exact Or.inl none
            · exact (same.mpr none).2
          exact told_of_boundary spelled blocked last otherSpelled whole
        · intro all
          have here := all front rest rfl spelled
          simp [here]
  obtain ⟨trace, last, run, returned⟩ := returns rmp text connectionId metrics now kinds
  constructor
  · rintro ⟨_, each⟩
    exact (judged trace last run returned).mp (each trace last run returned)
  · intro all
    exact ⟨⟨trace, last, run, returned⟩,
      fun trace last run returned => (judged trace last run returned).mpr all⟩

/-- A request as the client of a web page writes it. -/
def visit : WireMessage :=
  { id := ⟨0⟩
    sessionId := ⟨0⟩
    messageType := .httpRequest
    payload := []
    timestamp := "1970-01-01T00:00:00Z" }

/-- The MessagePack array of `visit`. -/
def visitBytes : List UInt8 :=
  let ascii (text : String) : List UInt8 := text.toList.map fun c => UInt8.ofNat c.toNat
  [0x96, 0xC4, 16] ++ List.replicate 16 0 ++ [0xC4, 16] ++ List.replicate 16 0 ++
    [0xAB] ++ ascii "HttpRequest" ++ [0x90, 0xB4] ++ ascii "1970-01-01T00:00:00Z" ++ [0]

/-- The serialiser, as far as `visit` shows it. -/
def visitOnly : Serialiser Unit Unit where
  toVec message := if message = visit then .ok visitBytes else .error ()
  fromSlice bytes := if bytes = visitBytes then .ok visit else .error ()

def visitFrame : List UInt8 := toLeBytes 4 visitBytes.length ++ visitBytes

theorem visitFrame_mem : visitFrame ∈ frames visitOnly :=
  ⟨by decide +kernel, by decide +kernel, visit, by decide +kernel⟩

theorem visitOnly_kinds {bytes : List UInt8} (message : WireMessage)
    (carried : Carries visitOnly bytes message) :
    message.messageType ∉ [.connectionClose, .fileUploadRequest] := by
  obtain ⟨_, _, _, _, _, _, decoded⟩ := carried
  simp only [visitOnly] at decoded
  split at decoded
  · obtain rfl := Except.ok.inj decoded
    decide
  · cases decoded

/-- Two requests are told from one of them cut off, which is taken for a
disconnect. -/
theorem tellsTruncation_iff_visits :
    TellsTruncation visitOnly (fun _ => "invalid marker") ⟨7⟩ {} 0 (visitFrame ++ visitFrame) ∧
      ¬TellsTruncation visitOnly (fun _ => "invalid marker") ⟨7⟩ {} 0
        (visitFrame ++ visitFrame.take 20) := by
  have one : Spelled (frames visitOnly) visitFrame := by
    simpa using Spelled.cons visitFrame_mem .nil
  constructor
  · refine (tellsTruncation_iff visitOnly _ ⟨7⟩ {} 0 _ (visitOnly_kinds ·)).mpr ?_
    intro front rest split spelled
    exact told_of_spelled spelled (split ▸ one.append one)
  · intro tells
    have told := (tellsTruncation_iff visitOnly _ ⟨7⟩ {} 0 _ (visitOnly_kinds ·)).mp tells
      visitFrame (visitFrame.take 20) rfl one
    rcases told with none | ⟨_, large | ⟨full, _⟩⟩
    · exact absurd none (by decide +kernel)
    · exact absurd large (by decide +kernel)
    · exact absurd full (by decide +kernel)

/-- The connection whose peer closes inside its first request. -/
def cutOff : Delivery :=
  ((deliveryMachine visitOnly (fun _ => "invalid marker")).play
    (deliver ⟨7⟩ {} 0 (visitFrame.take 20)) [.read 0 0 0]).get (by decide +kernel)

/-- A message that is cut off is not told from a disconnect. -/
theorem cut_untold :
    ¬∀ (bytes : List UInt8), (∀ message, Carries visitOnly bytes message →
        message.messageType ∉ [.connectionClose, .fileUploadRequest]) →
      TellsTruncation visitOnly (fun _ => "invalid marker") ⟨7⟩ {} 0 bytes := by
  intro tells
  have run : (deliveryMachine visitOnly (fun _ => "invalid marker")).Run
      (deliver ⟨7⟩ {} 0 (visitFrame.take 20)) _ cutOff :=
    Machine.run_of_play (Option.some_get _).symm
  have same := (tells (visitFrame.take 20) visitOnly_kinds).2 _ cutOff run (by decide +kernel)
  have unblamed : ¬Blamed cutOff.serving.metrics ⟨7⟩ :=
    not_blamed_of_faultless ((MetricsCollector.faultless_iff _ _).mpr (by decide +kernel))
  have spelled : Spelled (frames visitOnly) (visitFrame.take 20) :=
    not_not.mp (fun broken => unblamed (same.mpr broken))
  generalize cut : visitFrame.take 20 = bytes at spelled
  cases spelled with
  | nil => exact absurd cut (by decide +kernel)
  | cons member _ =>
      exact absurd (front_of_frame member ⟨_, cut.symm⟩).2.1 (by decide +kernel)

end Npt.System
