import Npt.Core.ByteStream
import Npt.Shared.Message

/-!
Contract: the frames of the TCP sessions, as `TcpClient` and `TcpServer` write
and read them (`client/src/tcp_client.rs`, `server/src/tcp_server.rs`).

A frame is a 32-bit little-endian length and that many bytes of a serialised
message. Each peer has its own writer and its own reader.

Owns: both writers, both readers over a byte stream, and the round trip of any
list of messages from either peer to the other.

Does not own: the serialiser `rmp_serde`, which is a parameter, or how long a
read waits: whether its timer runs out is given with the call.
-/

namespace Npt.System.Framing

open Npt.Core
open Npt.Shared

/-! ## The formats -/

/-- A message with the fields that only the serialiser looks at. -/
structure WireMessage extends Message where
  id : Uuid
  timestamp : String
deriving DecidableEq, Repr

inductive IoError where
  | unexpectedEof
  | other (text : String)
deriving DecidableEq, Repr

/-- `rmp_serde::to_vec` and `rmp_serde::from_slice`. -/
structure Serialiser (EncodeError DecodeError : Type) where
  toVec : WireMessage → Except EncodeError (List UInt8)
  fromSlice : List UInt8 → Except DecodeError WireMessage

inductive ReceiveError (DecodeError : Type) where
  | elapsed
  | io (error : IoError)
  | tooLarge (length : Nat)
  | decode (error : DecodeError)
deriving DecidableEq, Repr

/-- Whether the timers of a call's two reads run out while they wait. -/
structure Timers where
  length : Bool
  body : Bool
deriving DecidableEq, Repr

/-- What a reader gave, if it is done, and the stream it left. -/
structure Received (DecodeError Value : Type) where
  result : Option (Except (ReceiveError DecodeError) Value)
  rest : ByteStream IoError
deriving DecidableEq, Repr

variable {EncodeError DecodeError : Type}

def Received.map {Value Mapped : Type} (f : Value → Mapped)
    (received : Received DecodeError Value) : Received DecodeError Mapped :=
  ⟨received.result.map (Except.map f), received.rest⟩

/-- The `?` after a read: go on with its value and the stream it left. -/
def Received.andThen {Value Next : Type} (received : Received DecodeError Value)
    (next : Value → ByteStream IoError → Received DecodeError Next) : Received DecodeError Next :=
  match received with
  | ⟨some (.ok value), rest⟩ => next value rest
  | ⟨some (.error error), rest⟩ => ⟨some (.error error), rest⟩
  | ⟨none, rest⟩ => ⟨none, rest⟩

/-- `timeout(30 s, stream.read_exact(buf))`. A read that does not fill its buffer
has taken every byte that arrived. -/
def readTimed (expires : Bool) (count : Nat) (stream : ByteStream IoError) :
    Received DecodeError (List UInt8) :=
  match stream.readExact .unexpectedEof count with
  | .ok piece rest => ⟨some (.ok piece), rest⟩
  | .error error => ⟨some (.error (.io error)), ⟨[], stream.ending⟩⟩
  | .pending => ⟨if expires then some (.error .elapsed) else none, ⟨[], stream.ending⟩⟩

/-! ## The peers -/

variable (rmp : Serialiser EncodeError DecodeError)

/-- `TcpClient::send_message`: the bytes it writes, and the length it returns. -/
def TcpClient.sendMessage (message : WireMessage) : Except EncodeError (List UInt8 × Nat) :=
  match rmp.toVec message with
  | .error error => .error error
  | .ok serialized =>
      let length := serialized.length % 2 ^ 32
      .ok (toLeBytes 4 length ++ serialized, length)

/-- `TcpServer::send_message`: the bytes it writes. -/
def TcpServer.sendMessage (message : WireMessage) : Except EncodeError (List UInt8) :=
  match rmp.toVec message with
  | .error error => .error error
  | .ok serialized =>
      let length := serialized.length % 2 ^ 32
      .ok (toLeBytes 4 length ++ serialized)

/-- `TcpServer::receive_message`. -/
def TcpServer.receiveMessage (timers : Timers) (stream : ByteStream IoError) :
    Received DecodeError WireMessage :=
  (readTimed timers.length 4 stream).andThen fun lengthBuf stream =>
    let length := ofLeBytes lengthBuf
    if length > 10 * 1024 * 1024 then ⟨some (.error (.tooLarge length)), stream⟩
    else
      (readTimed timers.body length stream).andThen fun messageBuf stream =>
        match rmp.fromSlice messageBuf with
        | .error error => ⟨some (.error (.decode error)), stream⟩
        | .ok message => ⟨some (.ok message), stream⟩

/-- `TcpClient::receive_response`: the message, and the length of its frame's
body. -/
def TcpClient.receiveResponse (timers : Timers) (stream : ByteStream IoError) :
    Received DecodeError (WireMessage × Nat) :=
  (readTimed timers.length 4 stream).andThen fun lengthBuf stream =>
    let length := ofLeBytes lengthBuf
    if length > 10 * 1024 * 1024 then ⟨some (.error (.tooLarge length)), stream⟩
    else
      (readTimed timers.body length stream).andThen fun messageBuf stream =>
        match rmp.fromSlice messageBuf with
        | .error error => ⟨some (.error (.decode error)), stream⟩
        | .ok message => ⟨some (.ok (message, length)), stream⟩

/-- The bytes of successive sends. -/
def writeAll (send : WireMessage → Except EncodeError (List UInt8)) :
    List WireMessage → Except EncodeError (List UInt8)
  | [] => .ok []
  | message :: rest =>
      match send message, writeAll send rest with
      | .ok written, .ok later => .ok (written ++ later)
      | .error error, _ => .error error
      | .ok _, .error error => .error error

/-- Successive calls of a reader, one for each entry of `timers`. -/
def readEach {Value : Type}
    (receive : Timers → ByteStream IoError → Received DecodeError Value) :
    List Timers → ByteStream IoError → Received DecodeError (List Value)
  | [], stream => ⟨some (.ok []), stream⟩
  | timers :: later, stream =>
      (receive timers stream).andThen fun value stream =>
        (readEach receive later stream).map (value :: ·)

/-! ## Reading a frame -/

section Read

variable {Value Next : Type} {timers : Timers} {stream rest : ByteStream IoError}

theorem Received.andThen_eq_ok {received : Received DecodeError Value} {result : Next}
    {next : Value → ByteStream IoError → Received DecodeError Next}
    (done : received.andThen next = ⟨some (.ok result), rest⟩) :
    ∃ value middle, received = ⟨some (.ok value), middle⟩ ∧
      next value middle = ⟨some (.ok result), rest⟩ := by
  obtain ⟨outcome, middle⟩ := received
  cases outcome with
  | none => simp [Received.andThen] at done
  | some outcome =>
      cases outcome with
      | error error => simp [Received.andThen] at done
      | ok value => exact ⟨value, middle, rfl, done⟩

theorem Received.map_andThen {Mapped : Type} (f : Next → Mapped)
    (received : Received DecodeError Value)
    (next : Value → ByteStream IoError → Received DecodeError Next) :
    (received.andThen next).map f =
      received.andThen fun value stream => (next value stream).map f := by
  obtain ⟨outcome, middle⟩ := received
  cases outcome with
  | none => rfl
  | some outcome => cases outcome <;> rfl

theorem readTimed_append (expires : Bool) (piece after : List UInt8) (ending : Ending IoError) :
    @readTimed DecodeError expires piece.length ⟨piece ++ after, ending⟩ =
      ⟨some (.ok piece), ⟨after, ending⟩⟩ := by
  rw [readTimed, ByteStream.readExact_append]

theorem readTimed_eq_ok {expires : Bool} {count : Nat} {piece : List UInt8}
    (read : @readTimed DecodeError expires count stream =
      ⟨some (.ok piece), rest⟩) :
    stream.bytes = piece ++ rest.bytes ∧ piece.length = count ∧ rest.ending = stream.ending := by
  unfold readTimed at read
  split at read
  · rename_i found left exact
    simp only [Received.mk.injEq, Option.some.injEq, Except.ok.injEq] at read
    obtain ⟨rfl, rfl⟩ := read
    exact ByteStream.readExact_eq_ok exact
  · simp at read
  · split at read <;> simp at read

/-- The two readers do the same with every stream. -/
theorem receiveMessage_eq (timers : Timers) (stream : ByteStream IoError) :
    TcpServer.receiveMessage rmp timers stream =
      (TcpClient.receiveResponse rmp timers stream).map Prod.fst := by
  unfold TcpServer.receiveMessage TcpClient.receiveResponse
  rw [Received.map_andThen]
  congr 1
  funext lengthBuf middle
  simp only
  split
  · rfl
  · rw [Received.map_andThen]
    congr 1
    funext messageBuf left
    cases rmp.fromSlice messageBuf <;> rfl

/-- A length above the cap is refused with the body untouched. -/
theorem receiveResponse_tooLarge (enough : 4 ≤ stream.bytes.length)
    (large : 10 * 1024 * 1024 < ofLeBytes (stream.bytes.take 4)) :
    TcpClient.receiveResponse rmp timers stream =
      ⟨some (.error (.tooLarge (ofLeBytes (stream.bytes.take 4)))),
        ⟨stream.bytes.drop 4, stream.ending⟩⟩ := by
  have header : @readTimed DecodeError timers.length 4 stream =
      ⟨some (.ok (stream.bytes.take 4)), ⟨stream.bytes.drop 4, stream.ending⟩⟩ := by
    rw [readTimed, ByteStream.readExact_of_le enough]
  rw [TcpClient.receiveResponse, header]
  simp only [Received.andThen]
  rw [if_pos large]

/-- A reader that returns a message has consumed its frame and nothing else. -/
theorem receiveResponse_eq_ok {message : WireMessage} {length : Nat}
    (read : TcpClient.receiveResponse rmp timers stream = ⟨some (.ok (message, length)), rest⟩) :
    length ≤ 10 * 1024 * 1024 ∧ ∃ body, body.length = length ∧
      ofLeBytes (stream.bytes.take 4) = length ∧ stream.bytes.length = 4 + length + rest.bytes.length ∧
      stream.bytes = stream.bytes.take 4 ++ body ++ rest.bytes ∧ rest.ending = stream.ending ∧
      rmp.fromSlice body = .ok message := by
  obtain ⟨lengthBuf, middle, header, read⟩ := Received.andThen_eq_ok read
  obtain ⟨headSplit, headLength, headEnding⟩ := readTimed_eq_ok header
  simp only at read
  split at read
  · simp at read
  · rename_i within
    obtain ⟨body, left, content, read⟩ := Received.andThen_eq_ok read
    obtain ⟨bodySplit, bodyLength, bodyEnding⟩ := readTimed_eq_ok content
    split at read
    · simp at read
    · rename_i found decoded
      simp only [Received.mk.injEq, Option.some.injEq, Except.ok.injEq, Prod.mk.injEq] at read
      obtain ⟨⟨rfl, rfl⟩, rfl⟩ := read
      have front : stream.bytes.take 4 = lengthBuf := by
        rw [headSplit, ← headLength, List.take_left]
      refine ⟨Nat.le_of_not_lt within, body, bodyLength, by rw [front], ?_, ?_,
        bodyEnding.trans headEnding, decoded⟩
      · rw [headSplit, bodySplit]
        simp only [List.length_append]
        omega
      · rw [front, headSplit, bodySplit, List.append_assoc]

end Read

/-! ## The round trip -/

section RoundTrip

variable {rmp}

/-- The serialiser reads back what it wrote. -/
def Serialiser.ReadsBack (rmp : Serialiser EncodeError DecodeError) : Prop :=
  ∀ message serialized, rmp.toVec message = .ok serialized →
    rmp.fromSlice serialized = .ok message

/-- The message has an encoding that the readers take. -/
def Serialiser.Fits (rmp : Serialiser EncodeError DecodeError) (message : WireMessage) : Prop :=
  ∃ serialized, rmp.toVec message = .ok serialized ∧ serialized.length ≤ 10 * 1024 * 1024

/-- The two writers write the same bytes. -/
theorem serverSend_eq (message : WireMessage) :
    TcpServer.sendMessage rmp message = (TcpClient.sendMessage rmp message).map Prod.fst := by
  unfold TcpServer.sendMessage TcpClient.sendMessage
  cases rmp.toVec message <;> rfl

/-- One frame, from writer to reader. -/
theorem frame_roundTrip (readsBack : rmp.ReadsBack) {message : WireMessage}
    (fits : rmp.Fits message) :
    ∃ written length, TcpClient.sendMessage rmp message = .ok (written, length) ∧
      ∀ timers after ending, TcpClient.receiveResponse rmp timers ⟨written ++ after, ending⟩ =
        ⟨some (.ok (message, length)), ⟨after, ending⟩⟩ := by
  obtain ⟨serialized, encoded, within⟩ := fits
  have small : serialized.length % 2 ^ 32 = serialized.length := Nat.mod_eq_of_lt (by omega)
  refine ⟨toLeBytes 4 serialized.length ++ serialized, serialized.length, ?_,
    fun timers after ending => ?_⟩
  · simp only [TcpClient.sendMessage, encoded, small]
  · have width : (toLeBytes 4 serialized.length).length = 4 := toLeBytes_length ..
    have header := @readTimed_append DecodeError timers.length
      (toLeBytes 4 serialized.length) (serialized ++ after) ending
    rw [width, ← List.append_assoc] at header
    have value : ofLeBytes (toLeBytes 4 serialized.length) = serialized.length :=
      ofLeBytes_toLeBytes_of_lt (by omega)
    rw [TcpClient.receiveResponse, header]
    simp only [Received.andThen, value]
    rw [if_neg (Nat.not_lt.mpr within), readTimed_append]
    simp only [readsBack message serialized encoded]

/-- A writer and a reader that agree on every frame agree on every stream of
frames. -/
theorem stream_roundTrip {send : WireMessage → Except EncodeError (List UInt8)}
    {receive : Timers → ByteStream IoError → Received DecodeError WireMessage}
    (messages : List WireMessage)
    (frames : ∀ message ∈ messages, ∃ written, send message = .ok written ∧
      ∀ timers after ending, receive timers ⟨written ++ after, ending⟩ =
        ⟨some (.ok message), ⟨after, ending⟩⟩) :
    ∃ written, writeAll send messages = .ok written ∧
      ∀ timers : List Timers, timers.length = messages.length → ∀ after ending,
        readEach receive timers ⟨written ++ after, ending⟩ =
          ⟨some (.ok messages), ⟨after, ending⟩⟩ := by
  induction messages with
  | nil =>
      refine ⟨[], rfl, fun timers none after ending => ?_⟩
      obtain rfl := List.eq_nil_of_length_eq_zero none
      rfl
  | cons message rest inductionHypothesis =>
      obtain ⟨first, sent, received⟩ := frames message (by simp)
      obtain ⟨others, laterSent, laterReceived⟩ :=
        inductionHypothesis (fun later member => frames later (by simp [member]))
      refine ⟨first ++ others, by simp only [writeAll, sent, laterSent], ?_⟩
      intro timers enough after ending
      cases timers with
      | nil => simp at enough
      | cons now later =>
          rw [readEach, List.append_assoc, received]
          simp only [Received.andThen]
          rw [laterReceived later (Nat.succ.inj enough)]
          rfl

/-- The frames of either peer, read by the other. -/
theorem client_frame (readsBack : rmp.ReadsBack) {message : WireMessage}
    (fits : rmp.Fits message) :
    ∃ written, (TcpClient.sendMessage rmp message).map Prod.fst = .ok written ∧
      ∀ timers after ending, TcpServer.receiveMessage rmp timers ⟨written ++ after, ending⟩ =
        ⟨some (.ok message), ⟨after, ending⟩⟩ := by
  obtain ⟨written, length, sent, received⟩ := frame_roundTrip readsBack fits
  refine ⟨written, by rw [sent]; rfl, fun timers after ending => ?_⟩
  rw [receiveMessage_eq, received]
  rfl

theorem server_frame (readsBack : rmp.ReadsBack) {message : WireMessage}
    (fits : rmp.Fits message) :
    ∃ written, TcpServer.sendMessage rmp message = .ok written ∧
      ∀ timers after ending,
        (TcpClient.receiveResponse rmp timers ⟨written ++ after, ending⟩).map Prod.fst =
          ⟨some (.ok message), ⟨after, ending⟩⟩ := by
  obtain ⟨written, length, sent, received⟩ := frame_roundTrip readsBack fits
  refine ⟨written, by rw [serverSend_eq, sent]; rfl, fun timers after ending => ?_⟩
  rw [received]
  rfl

end RoundTrip

/-- The framing of the TCP sessions: what either peer writes is read back by the
other, and the two readers are one, take no body of a refused frame and
otherwise consume exactly the frame. -/
theorem framing (rmp : Serialiser EncodeError DecodeError) (readsBack : rmp.ReadsBack) :
    (∀ messages : List WireMessage, (∀ message ∈ messages, rmp.Fits message) →
      (∃ written,
        writeAll (fun message => (TcpClient.sendMessage rmp message).map Prod.fst) messages =
          .ok written ∧
        ∀ timers : List Timers, timers.length = messages.length → ∀ after ending,
          readEach (TcpServer.receiveMessage rmp) timers ⟨written ++ after, ending⟩ =
            ⟨some (.ok messages), ⟨after, ending⟩⟩) ∧
      ∃ written, writeAll (TcpServer.sendMessage rmp) messages = .ok written ∧
        ∀ timers : List Timers, timers.length = messages.length → ∀ after ending,
          readEach (fun timers stream => (TcpClient.receiveResponse rmp timers stream).map Prod.fst)
              timers ⟨written ++ after, ending⟩ =
            ⟨some (.ok messages), ⟨after, ending⟩⟩) ∧
    (∀ timers stream, TcpServer.receiveMessage rmp timers stream =
      (TcpClient.receiveResponse rmp timers stream).map Prod.fst) ∧
    (∀ timers stream, 4 ≤ stream.bytes.length →
      10 * 1024 * 1024 < ofLeBytes (stream.bytes.take 4) →
      TcpClient.receiveResponse rmp timers stream =
        ⟨some (.error (.tooLarge (ofLeBytes (stream.bytes.take 4)))),
          ⟨stream.bytes.drop 4, stream.ending⟩⟩) ∧
    ∀ timers stream message length rest,
      TcpClient.receiveResponse rmp timers stream = ⟨some (.ok (message, length)), rest⟩ →
      length ≤ 10 * 1024 * 1024 ∧ ofLeBytes (stream.bytes.take 4) = length ∧
        stream.bytes.length = 4 + length + rest.bytes.length ∧
        ∃ body, body.length = length ∧
          stream.bytes = stream.bytes.take 4 ++ body ++ rest.bytes ∧
          rmp.fromSlice body = .ok message := by
  refine ⟨fun messages fits => ⟨?_, ?_⟩, receiveMessage_eq rmp, ?_, ?_⟩
  · exact stream_roundTrip messages fun message member => client_frame readsBack (fits message member)
  · exact stream_roundTrip messages fun message member => server_frame readsBack (fits message member)
  · exact fun timers stream enough large => receiveResponse_tooLarge rmp enough large
  · intro timers stream message length rest read
    obtain ⟨within, body, size, value, consumed, split, -, decoded⟩ := receiveResponse_eq_ok rmp read
    exact ⟨within, value, consumed, body, size, split, decoded⟩

/-- A close as the client of a web page ends its session with. -/
def closing : WireMessage :=
  { id := ⟨0⟩
    sessionId := ⟨0⟩
    messageType := .connectionClose
    payload := []
    timestamp := "1970-01-01T00:00:00Z" }

/-- The MessagePack array of `closing`: two identifiers of sixteen bytes, the
variant's name, no payload, the timestamp's text and the sequence number. -/
def closingBytes : List UInt8 :=
  let ascii (text : String) : List UInt8 := text.toList.map fun c => UInt8.ofNat c.toNat
  [0x96, 0xC4, 16] ++ List.replicate 16 0 ++ [0xC4, 16] ++ List.replicate 16 0 ++
    [0xAF] ++ ascii "ConnectionClose" ++ [0x90, 0xB4] ++ ascii "1970-01-01T00:00:00Z" ++ [0]

/-- The serialiser, as far as `closing` shows it. -/
def closingOnly : Serialiser Unit Unit where
  toVec message := if message = closing then .ok closingBytes else .error ()
  fromSlice bytes := if bytes = closingBytes then .ok closing else .error ()

theorem closingOnly_readsBack : closingOnly.ReadsBack := by
  intro message serialized encoded
  simp only [closingOnly] at encoded ⊢
  split at encoded
  · rename_i same
    obtain rfl := Except.ok.inj encoded
    rw [if_pos rfl, same]
  · simp at encoded

theorem framing_closing :
    ∃ written, writeAll (TcpServer.sendMessage closingOnly) [closing, closing] = .ok written ∧
      readEach (fun timers stream =>
          (TcpClient.receiveResponse closingOnly timers stream).map Prod.fst)
          [⟨false, false⟩, ⟨false, false⟩] ⟨written ++ [7], .live⟩ =
        ⟨some (.ok [closing, closing]), ⟨[7], .live⟩⟩ := by
  have fits : ∀ message ∈ [closing, closing], closingOnly.Fits message := by
    intro message member
    obtain rfl : message = closing := by simpa using member
    exact ⟨closingBytes, rfl, by decide⟩
  obtain ⟨written, sent, read⟩ := ((framing closingOnly closingOnly_readsBack).1 _ fits).2
  exact ⟨written, sent, read _ rfl _ _⟩

end Npt.System.Framing
