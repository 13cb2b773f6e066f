import Npt.Core.ByteStream
import Npt.Core.LittleEndian

/-!
Contract: wire framing of the continuity probe (`ci/src/protocol.rs`).

TCP frames are `magic | payload_len | seq | send_ts_micros | payload`, all
little-endian, with a 24-byte header; UDP datagrams drop the length field.

Owns: the constants, both encoders, `Frame.read` over a byte stream that may
still be open, `readFrames` (successive reads until one does not return a
frame), the UDP decoder, and the exactness of both codecs.

Does not own: sockets, tasks or the wall clock that stamps frames.
-/

namespace Npt.Ci.Protocol

open Npt.Core

/-- `"NPT1"`. -/
def magic : UInt32 := 0x3154504E

def headerLen : Nat := 24

def maxPayload : Nat := 8 * 1024 * 1024

/-! ## I/O errors -/

/-- The `std::io::ErrorKind`s this crate distinguishes. -/
inductive ErrorKind where
  | unexpectedEof
  | invalidData
  | other
deriving DecidableEq, Repr

structure IoError where
  kind : ErrorKind
  message : String
deriving DecidableEq, Repr

/-- What `read_exact` reports on a stream that ends too early. -/
def earlyEof : IoError := ⟨.unexpectedEof, "early eof"⟩

/-- The `{value:0widthX}` format. -/
def upperHex (width value : Nat) : String :=
  String.ofList (((Nat.toDigits 16 value).map Char.toUpper).leftpad width '0')

def badMagic (found : UInt32) : IoError :=
  ⟨.invalidData, s!"bad magic 0x{upperHex 8 found.toNat} (not an npt echo endpoint?)"⟩

def oversizedPayload (len : Nat) : IoError :=
  ⟨.invalidData, s!"frame payload {len} exceeds MAX_PAYLOAD"⟩

/-! ## Fixed-width fields -/

def u32ToLe (value : UInt32) : List UInt8 := toLeBytes 4 value.toNat

def u64ToLe (value : UInt64) : List UInt8 := toLeBytes 8 value.toNat

def u32FromLe (bytes : List UInt8) : UInt32 := UInt32.ofNat (ofLeBytes bytes)

def u64FromLe (bytes : List UInt8) : UInt64 := UInt64.ofNat (ofLeBytes bytes)

@[simp] theorem u32ToLe_length (value : UInt32) : (u32ToLe value).length = 4 := by
  simp [u32ToLe]

@[simp] theorem u64ToLe_length (value : UInt64) : (u64ToLe value).length = 8 := by
  simp [u64ToLe]

@[simp] theorem u32FromLe_u32ToLe (value : UInt32) : u32FromLe (u32ToLe value) = value := by
  unfold u32FromLe u32ToLe
  rw [ofLeBytes_toLeBytes_of_lt (by simpa using value.toNat_lt)]
  exact UInt32.ofNat_toNat

@[simp] theorem u64FromLe_u64ToLe (value : UInt64) : u64FromLe (u64ToLe value) = value := by
  unfold u64FromLe u64ToLe
  rw [ofLeBytes_toLeBytes_of_lt (by simpa using value.toNat_lt)]
  exact UInt64.ofNat_toNat

theorem u32ToLe_u32FromLe {bytes : List UInt8} (width : bytes.length = 4) :
    u32ToLe (u32FromLe bytes) = bytes := by
  have small := ofLeBytes_lt bytes
  have restored := toLeBytes_ofLeBytes bytes
  rw [width] at small restored
  unfold u32ToLe u32FromLe
  rw [UInt32.toNat_ofNat', Nat.mod_eq_of_lt (by simpa using small), restored]

theorem u64ToLe_u64FromLe {bytes : List UInt8} (width : bytes.length = 8) :
    u64ToLe (u64FromLe bytes) = bytes := by
  have small := ofLeBytes_lt bytes
  have restored := toLeBytes_ofLeBytes bytes
  rw [width] at small restored
  unfold u64ToLe u64FromLe
  rw [UInt64.toNat_ofNat', Nat.mod_eq_of_lt (by simpa using small), restored]

/-- Adjacent pieces of a buffer join. -/
theorem extract_append_extract {buffer : List UInt8} {start middle stop : Nat}
    (first : start ≤ middle) (second : middle ≤ stop) :
    buffer.extract start middle ++ buffer.extract middle stop = buffer.extract start stop := by
  have widths : stop - start = (middle - start) + (stop - middle) := by omega
  have shift : (buffer.drop start).drop (middle - start) = buffer.drop middle := by
    rw [List.drop_drop, Nat.add_sub_of_le first]
  simp only [List.extract_eq_take_drop, widths, List.take_add, shift]

/-- A piece sits between its offsets. -/
theorem extract_middle {before piece after : List UInt8} {start stop : Nat}
    (offset : before.length = start) (width : start + piece.length = stop) :
    (before ++ piece ++ after).extract start stop = piece := by
  have wide : stop - start = piece.length := by omega
  rw [List.extract_eq_take_drop, wide, List.append_assoc, ← offset, List.drop_left, List.take_left]

theorem extract_length {buffer : List UInt8} {start stop : Nat} (inside : stop ≤ buffer.length) :
    (buffer.extract start stop).length = stop - start := by
  simp only [List.extract_eq_take_drop, List.length_take, List.length_drop]
  omega

/-! ## TCP frames -/

structure Frame where
  seq : UInt64
  sendTsMicros : UInt64
  payload : List UInt8
deriving DecidableEq, Repr

/-- `Frame::encode`; the length field is `payload.len() as u32`. -/
def Frame.encode (frame : Frame) : List UInt8 :=
  u32ToLe magic ++ u32ToLe (UInt32.ofNat frame.payload.length) ++ u64ToLe frame.seq ++
    u64ToLe frame.sendTsMicros ++ frame.payload

/-- `Frame::read`. Any end of stream inside the header is reported as a clean
end, an end inside the payload is an error. -/
def Frame.read (stream : ByteStream IoError) : Outcome IoError (Option Frame) :=
  match stream.readExact earlyEof headerLen with
  | .pending => .pending
  | .error error =>
      if error.kind = .unexpectedEof then .ok none { stream with bytes := [] }
      else .error error
  | .ok header body =>
      if u32FromLe (header.extract 0 4) ≠ magic then
        .error (badMagic (u32FromLe (header.extract 0 4)))
      else
        let len := (u32FromLe (header.extract 4 8)).toNat
        if maxPayload < len then .error (oversizedPayload len)
        else
          match body.readExact earlyEof len with
          | .pending => .pending
          | .error error => .error error
          | .ok payload rest =>
              .ok (some ⟨u64FromLe (header.extract 8 16), u64FromLe (header.extract 16 24), payload⟩)
                rest

theorem Frame.encode_length (frame : Frame) :
    frame.encode.length = headerLen + frame.payload.length := by
  simp [Frame.encode, headerLen]
  omega

theorem Frame.encode_length_pos (frame : Frame) : 0 < frame.encode.length := by
  rw [Frame.encode_length]
  simp [headerLen]

/-- The four fields of a complete header, in order. -/
theorem header_fields {header : List UInt8} (width : header.length = headerLen) :
    header.extract 0 4 ++ header.extract 4 8 ++ header.extract 8 16 ++ header.extract 16 24 =
      header := by
  rw [extract_append_extract (by omega) (by omega), extract_append_extract (by omega) (by omega),
    extract_append_extract (by omega) (by omega), List.extract_eq_take_drop]
  exact List.take_of_length_le (le_of_eq width)

/-- A frame that was read is exactly the frame whose encoding was consumed. -/
theorem Frame.read_some {stream rest : ByteStream IoError} {frame : Frame}
    (read : Frame.read stream = .ok (some frame) rest) :
    stream.bytes = frame.encode ++ rest.bytes ∧ rest.ending = stream.ending ∧
      frame.payload.length ≤ maxPayload := by
  unfold Frame.read at read
  cases headerRead : stream.readExact earlyEof headerLen with
  | pending => simp [headerRead] at read
  | error error =>
      simp only [headerRead] at read
      split at read <;> simp at read
  | ok header body =>
      simp only [headerRead] at read
      split at read
      · simp at read
      · rename_i sameMagic
        split at read
        · simp at read
        · rename_i fits
          cases payloadRead : body.readExact earlyEof
              (u32FromLe (header.extract 4 8)).toNat with
          | pending => simp [payloadRead] at read
          | error error => simp [payloadRead] at read
          | ok payload tail =>
              simp only [payloadRead, Outcome.ok.injEq, Option.some.injEq] at read
              obtain ⟨rfl, rfl⟩ := read
              obtain ⟨streamSplit, headerWidth, bodyEnding⟩ :=
                ByteStream.readExact_eq_ok headerRead
              obtain ⟨bodySplit, payloadWidth, restEnding⟩ :=
                ByteStream.readExact_eq_ok payloadRead
              have width : header.length = 24 := headerWidth
              have magicBytes : u32ToLe magic = header.extract 0 4 := by
                rw [← not_not.mp sameMagic, u32ToLe_u32FromLe (extract_length (by omega))]
              have lenBytes : u32ToLe (UInt32.ofNat payload.length) = header.extract 4 8 := by
                rw [payloadWidth, UInt32.ofNat_toNat,
                  u32ToLe_u32FromLe (extract_length (by omega))]
              have seqBytes : u64ToLe (u64FromLe (header.extract 8 16)) = header.extract 8 16 :=
                u64ToLe_u64FromLe (extract_length (by omega))
              have stampBytes :
                  u64ToLe (u64FromLe (header.extract 16 24)) = header.extract 16 24 :=
                u64ToLe_u64FromLe (extract_length (by omega))
              refine ⟨?_, restEnding.trans bodyEnding, ?_⟩
              · simp only [Frame.encode, magicBytes, lenBytes, seqBytes, stampBytes,
                  header_fields headerWidth]
                rw [streamSplit, bodySplit, List.append_assoc]
              · rw [payloadWidth]
                exact Nat.not_lt.mp fits

/-- A clean end consumes what is left of a stream that will not go on. -/
theorem Frame.read_none {stream rest : ByteStream IoError}
    (read : Frame.read stream = .ok none rest) :
    rest = { stream with bytes := [] } ∧ stream.ending ≠ .live := by
  unfold Frame.read at read
  cases headerRead : stream.readExact earlyEof headerLen with
  | pending => simp [headerRead] at read
  | error error =>
      simp only [headerRead] at read
      split at read
      · refine ⟨(Outcome.ok.inj read).2.symm, fun live => ?_⟩
        unfold ByteStream.readExact at headerRead
        split at headerRead
        · simp at headerRead
        · simp [live] at headerRead
      · simp at read
  | ok header body =>
      simp only [headerRead] at read
      split at read
      · simp at read
      · split at read
        · simp at read
        · split at read <;> simp at read

/-- Only an open stream leaves a read undecided. -/
theorem Frame.read_pending {stream : ByteStream IoError} (read : Frame.read stream = .pending) :
    stream.ending = .live := by
  unfold Frame.read at read
  cases headerRead : stream.readExact earlyEof headerLen with
  | pending => exact (ByteStream.readExact_eq_pending_iff.mp headerRead).2
  | error error =>
      simp only [headerRead] at read
      split at read <;> simp at read
  | ok header body =>
      obtain ⟨_, _, sameEnding⟩ := ByteStream.readExact_eq_ok headerRead
      simp only [headerRead] at read
      split at read
      · simp at read
      · split at read
        · simp at read
        · split at read
          · rename_i payloadRead
            exact sameEnding ▸ (ByteStream.readExact_eq_pending_iff.mp payloadRead).2
          · simp at read
          · simp at read

/-- The encoding without the payload. -/
def Frame.header (frame : Frame) : List UInt8 :=
  u32ToLe magic ++ u32ToLe (UInt32.ofNat frame.payload.length) ++ u64ToLe frame.seq ++
    u64ToLe frame.sendTsMicros

theorem Frame.header_length (frame : Frame) : frame.header.length = headerLen := by
  simp [Frame.header, headerLen]

/-- What `Frame::read` makes of a frame's header and any bytes behind it: the
length field holds the payload's length modulo `2 ^ 32`. -/
theorem Frame.read_header (frame : Frame) (body : List UInt8) (ending : Ending IoError) :
    Frame.read ⟨frame.header ++ body, ending⟩ =
      if maxPayload < frame.payload.length % 2 ^ 32 then
        .error (oversizedPayload (frame.payload.length % 2 ^ 32))
      else
        match ByteStream.readExact earlyEof (frame.payload.length % 2 ^ 32) ⟨body, ending⟩ with
        | .pending => .pending
        | .error error => .error error
        | .ok payload rest => .ok (some ⟨frame.seq, frame.sendTsMicros, payload⟩) rest := by
  let len := u32ToLe (UInt32.ofNat frame.payload.length)
  let header := frame.header
  have headerRead : ByteStream.readExact earlyEof headerLen ⟨frame.header ++ body, ending⟩ =
      .ok header ⟨body, ending⟩ := by
    rw [← frame.header_length]
    exact ByteStream.readExact_append earlyEof frame.header body ending
  have magicField : header.extract 0 4 = u32ToLe magic := by
    have shape : header =
        [] ++ u32ToLe magic ++ (len ++ u64ToLe frame.seq ++ u64ToLe frame.sendTsMicros) := by
      simp [header, len, Frame.header]
    rw [shape]
    exact extract_middle rfl (by simp)
  have lenField : header.extract 4 8 = len := by
    have shape : header =
        u32ToLe magic ++ len ++ (u64ToLe frame.seq ++ u64ToLe frame.sendTsMicros) := by
      simp [header, len, Frame.header]
    rw [shape]
    exact extract_middle (by simp) (by simp [len])
  have seqField : header.extract 8 16 = u64ToLe frame.seq :=
    extract_middle (by simp) (by simp)
  have stampField : header.extract 16 24 = u64ToLe frame.sendTsMicros := by
    rw [← List.append_nil header]
    exact extract_middle (by simp) (by simp)
  have lenValue : (UInt32.ofNat frame.payload.length).toNat = frame.payload.length % 2 ^ 32 :=
    UInt32.toNat_ofNat'
  unfold Frame.read
  simp only [headerRead, magicField, lenField, seqField, stampField, len, u32FromLe_u32ToLe,
    u64FromLe_u64ToLe, lenValue, ne_eq, not_true_eq_false, if_false]

/-- What `Frame::read` makes of an encoded frame of any size. -/
theorem Frame.read_encode_eq (frame : Frame) (tail : List UInt8) (ending : Ending IoError) :
    Frame.read ⟨frame.encode ++ tail, ending⟩ =
      if maxPayload < frame.payload.length % 2 ^ 32 then
        .error (oversizedPayload (frame.payload.length % 2 ^ 32))
      else
        match ByteStream.readExact earlyEof (frame.payload.length % 2 ^ 32)
            ⟨frame.payload ++ tail, ending⟩ with
        | .pending => .pending
        | .error error => .error error
        | .ok payload rest => .ok (some ⟨frame.seq, frame.sendTsMicros, payload⟩) rest := by
  have shape : frame.encode ++ tail = frame.header ++ (frame.payload ++ tail) :=
    List.append_assoc ..
  rw [shape, Frame.read_header]

/-- Reading an encoded frame returns it and leaves what follows. -/
theorem Frame.read_encode (frame : Frame) (fits : frame.payload.length ≤ maxPayload)
    (tail : List UInt8) (ending : Ending IoError) :
    Frame.read ⟨frame.encode ++ tail, ending⟩ = .ok (some frame) ⟨tail, ending⟩ := by
  have lenValue : frame.payload.length % 2 ^ 32 = frame.payload.length :=
    Nat.mod_eq_of_lt (lt_of_le_of_lt fits (by decide))
  rw [Frame.read_encode_eq, lenValue, if_neg (Nat.not_lt.mpr fits), ByteStream.readExact_append]

/-! ## Whole streams -/

/-- What ended a sequence of `Frame::read` calls that returned frames. -/
inductive Stop where
  | pending
  | finished
  | failed (error : IoError)
deriving DecidableEq, Repr

/-- Successive `Frame::read` calls, until one does not return a frame. -/
def readFrames (stream : ByteStream IoError) : List Frame × Stop :=
  match _read : Frame.read stream with
  | .pending => ([], .pending)
  | .error error => ([], .failed error)
  | .ok none _ => ([], .finished)
  | .ok (some frame) rest => (frame :: (readFrames rest).1, (readFrames rest).2)
termination_by stream.bytes.length
decreasing_by
  all_goals
    obtain ⟨split, _, _⟩ := Frame.read_some _read
    rw [split, List.length_append]
    have positive := frame.encode_length_pos
    omega

theorem readFrames_of_frame {stream rest : ByteStream IoError} {frame : Frame}
    (read : Frame.read stream = .ok (some frame) rest) :
    readFrames stream = (frame :: (readFrames rest).1, (readFrames rest).2) := by
  rw [readFrames]
  split <;> simp_all

theorem read_empty_eof : Frame.read ⟨[], .eof⟩ = .ok none ⟨[], .eof⟩ := by
  simp [Frame.read, ByteStream.readExact, headerLen, earlyEof]

theorem readFrames_empty_eof : readFrames ⟨[], .eof⟩ = ([], .finished) := by
  rw [readFrames]
  split <;> simp_all [read_empty_eof]

theorem readFrames_encode (frames : List Frame)
    (fits : ∀ frame ∈ frames, frame.payload.length ≤ maxPayload) (tail : List UInt8)
    (ending : Ending IoError) :
    readFrames ⟨frames.flatMap Frame.encode ++ tail, ending⟩ =
      (frames ++ (readFrames ⟨tail, ending⟩).1, (readFrames ⟨tail, ending⟩).2) := by
  induction frames with
  | nil => rfl
  | cons frame rest inductionHypothesis =>
      have read := Frame.read_encode frame (fits frame (by simp))
        (rest.flatMap Frame.encode ++ tail) ending
      rw [← List.append_assoc] at read
      rw [List.flatMap_cons, readFrames_of_frame read,
        inductionHypothesis (fun other member => fits other (by simp [member]))]
      rfl

/-- The codec is exact in both directions: a stream of encoded frames reads
back as these frames and then a clean end, and whatever is read as a frame was
that frame's encoding. -/
theorem frame_stream_codec :
    (∀ frames : List Frame, (∀ frame ∈ frames, frame.payload.length ≤ maxPayload) →
        readFrames ⟨frames.flatMap Frame.encode, .eof⟩ = (frames, .finished)) ∧
      ∀ (stream rest : ByteStream IoError) (frame : Frame),
        Frame.read stream = .ok (some frame) rest →
          stream.bytes = frame.encode ++ rest.bytes ∧ frame.payload.length ≤ maxPayload := by
  constructor
  · intro frames fits
    have read := readFrames_encode frames fits [] .eof
    rw [readFrames_empty_eof] at read
    simpa using read
  · intro stream rest frame read
    obtain ⟨split, _, fits⟩ := Frame.read_some read
    exact ⟨split, fits⟩

/-- Two frames on one stream, and the first of them read back. -/
theorem frame_stream_codec_pair :
    readFrames ⟨[Frame.mk 0 7 [1], Frame.mk 1 9 []].flatMap Frame.encode, .eof⟩ =
        ([⟨0, 7, [1]⟩, ⟨1, 9, []⟩], .finished) ∧
      (Frame.mk 1 9 []).encode = (Frame.mk 1 9 []).encode ++ [] ∧ 0 ≤ maxPayload :=
  ⟨frame_stream_codec.1 [⟨0, 7, [1]⟩, ⟨1, 9, []⟩] (by decide),
    frame_stream_codec.2 ⟨(Frame.mk 1 9 []).encode, .eof⟩ ⟨[], .eof⟩ ⟨1, 9, []⟩ (by decide)⟩

/-! ## Cut streams -/

/-- The stream ends, or fails as if it had ended, inside a header. -/
def EndsInHeader (stream : ByteStream IoError) : Prop :=
  0 < stream.bytes.length ∧ stream.bytes.length < headerLen ∧
    (stream.ending = .eof ∨ ∃ error, stream.ending = .failed error ∧ error.kind = .unexpectedEof)

/-- A clean end is what `Frame::read` makes of any end inside the header. -/
theorem Frame.read_eq_none_iff {stream : ByteStream IoError} :
    (∃ rest, Frame.read stream = .ok none rest) ↔
      stream.bytes.length < headerLen ∧ (stream.ending = .eof ∨
        ∃ error, stream.ending = .failed error ∧ error.kind = .unexpectedEof) := by
  obtain ⟨bytes, ending⟩ := stream
  by_cases enough : headerLen ≤ bytes.length
  · constructor
    · rintro ⟨rest, read⟩
      unfold Frame.read at read
      rw [ByteStream.readExact_of_le enough] at read
      dsimp only at read
      split at read
      · simp at read
      · split at read
        · simp at read
        · split at read <;> simp at read
    · rintro ⟨short, _⟩
      exact absurd short (Nat.not_lt.mpr enough)
  · have short : bytes.length < headerLen := Nat.not_le.mp enough
    cases ending with
    | live => simp [Frame.read, ByteStream.readExact, enough]
    | eof => simp [Frame.read, ByteStream.readExact, short, enough, earlyEof]
    | failed error =>
        by_cases early : error.kind = .unexpectedEof
        · simp [Frame.read, ByteStream.readExact, short, enough, early]
        · simp [Frame.read, ByteStream.readExact, enough, early]

/-- A cut frame is an error when the cut is behind the header and inside the
payload that the length field announces, or that payload is refused. -/
theorem Frame.read_take_iff (frame : Frame) (cut : Nat) :
    (∃ error, Frame.read ⟨frame.encode.take cut, .eof⟩ = .error error) ↔
      headerLen ≤ cut ∧ (maxPayload < frame.payload.length % 2 ^ 32 ∨
        cut < headerLen + frame.payload.length % 2 ^ 32) := by
  by_cases behind : headerLen ≤ cut
  · have shape : frame.encode.take cut = frame.header ++ frame.payload.take (cut - headerLen) := by
      have split : frame.encode = frame.header ++ frame.payload := rfl
      rw [split, List.take_append, frame.header_length,
        List.take_of_length_le (frame.header_length.trans_le behind)]
    rw [shape, Frame.read_header]
    split
    · rename_i refused
      exact ⟨fun _ => ⟨behind, Or.inl refused⟩, fun _ => ⟨_, rfl⟩⟩
    · rename_i accepted
      rw [or_iff_right accepted, and_iff_right behind]
      have announced := Nat.mod_le frame.payload.length (2 ^ 32)
      have kept := List.length_take (i := cut - headerLen) (l := frame.payload)
      by_cases whole : frame.payload.length % 2 ^ 32 ≤ (frame.payload.take (cut - headerLen)).length
      · rw [ByteStream.readExact_of_le whole]
        simp only [reduceCtorEq, exists_false, false_iff]
        omega
      · simp only [ByteStream.readExact, whole, if_false, Outcome.error.injEq, exists_eq', true_iff]
        omega
  · have short : (frame.encode.take cut).length < headerLen := by
      rw [List.length_take]
      omega
    obtain ⟨rest, read⟩ : ∃ rest, Frame.read ⟨frame.encode.take cut, .eof⟩ = .ok none rest :=
      Frame.read_eq_none_iff.mpr ⟨short, Or.inl rfl⟩
    simp [read, behind]

/-- A clean end is reported for a frame boundary only, and a cut frame as an
error, exactly outside the cuts in the header and the payloads whose length the
header does not tell. -/
theorem truncation_reported_iff (stream : ByteStream IoError) (frame : Frame) (cut : Nat) :
    ((∀ rest, Frame.read stream = .ok none rest → stream.bytes = []) ↔ ¬EndsInHeader stream) ∧
    ((∃ error, Frame.read ⟨frame.encode.take cut, .eof⟩ = .error error) ↔
      headerLen ≤ cut ∧ (maxPayload < frame.payload.length % 2 ^ 32 ∨
        cut < headerLen + frame.payload.length % 2 ^ 32)) := by
  refine ⟨?_, frame.read_take_iff cut⟩
  rw [← exists_imp, Frame.read_eq_none_iff, EndsInHeader]
  constructor
  · rintro boundary ⟨some, inside, ended⟩
    simp [boundary ⟨inside, ended⟩] at some
  · rintro outside ⟨inside, ended⟩
    refine List.eq_nil_of_length_eq_zero (Nat.eq_zero_of_not_pos fun some => ?_)
    exact outside ⟨some, inside, ended⟩

/-- The first byte of a frame, and then the end of the stream. -/
theorem cut_header_read_as_end :
    ∃ (frame : Frame) (cut : Nat), 0 < cut ∧ cut < frame.encode.length ∧
      Frame.read ⟨frame.encode.take cut, .eof⟩ = .ok none ⟨[], .eof⟩ ∧
      frame.encode.take cut ≠ [] :=
  ⟨⟨0, 7, [1]⟩, 1, by decide⟩

/-! ## UDP datagrams -/

def udpHeaderLen : Nat := 20

/-- `encode_udp`. -/
def encodeUdp (seq sendTsMicros : UInt64) (payload : List UInt8) : List UInt8 :=
  u32ToLe magic ++ u64ToLe seq ++ u64ToLe sendTsMicros ++ payload

/-- `decode_udp`. -/
def decodeUdp (buffer : List UInt8) : Option (UInt64 × UInt64) :=
  if buffer.length < udpHeaderLen then none
  else if u32FromLe (buffer.extract 0 4) ≠ magic then none
  else some (u64FromLe (buffer.extract 4 12), u64FromLe (buffer.extract 12 20))

/-- Decoding an encoded datagram, whole or cut off after its header, returns its
fields. -/
theorem decodeUdp_take_encodeUdp (seq sendTsMicros : UInt64) (payload : List UInt8) (kept : Nat)
    (header : udpHeaderLen ≤ kept) :
    decodeUdp ((encodeUdp seq sendTsMicros payload).take kept) = some (seq, sendTsMicros) := by
  let fields := u32ToLe magic ++ u64ToLe seq ++ u64ToLe sendTsMicros
  have width : fields.length = 20 := by simp [fields]
  have header' : 20 ≤ kept := header
  have shape : (encodeUdp seq sendTsMicros payload).take kept =
      fields ++ payload.take (kept - 20) := by
    have outside : fields.take kept = fields := List.take_of_length_le (by omega)
    rw [encodeUdp, List.take_append, outside, width]
  have enough : ¬(fields ++ payload.take (kept - 20)).length < udpHeaderLen := by
    rw [List.length_append, width]
    exact Nat.not_lt.mpr (Nat.le_add_right _ _)
  have magicField : (fields ++ payload.take (kept - 20)).extract 0 4 = u32ToLe magic := by
    have split : fields ++ payload.take (kept - 20) = [] ++ u32ToLe magic ++
        (u64ToLe seq ++ u64ToLe sendTsMicros ++ payload.take (kept - 20)) := by
      simp [fields]
    rw [split]
    exact extract_middle rfl (by simp)
  have seqField : (fields ++ payload.take (kept - 20)).extract 4 12 = u64ToLe seq := by
    have split : fields ++ payload.take (kept - 20) = u32ToLe magic ++ u64ToLe seq ++
        (u64ToLe sendTsMicros ++ payload.take (kept - 20)) := by
      simp [fields]
    rw [split]
    exact extract_middle (by simp) (by simp)
  have stampField : (fields ++ payload.take (kept - 20)).extract 12 20 = u64ToLe sendTsMicros :=
    extract_middle (by simp) (by simp)
  unfold decodeUdp
  rw [shape, if_neg enough, magicField, seqField, stampField]
  simp

theorem decodeUdp_encodeUdp (seq sendTsMicros : UInt64) (payload : List UInt8) :
    decodeUdp (encodeUdp seq sendTsMicros payload) = some (seq, sendTsMicros) := by
  have whole := decodeUdp_take_encodeUdp seq sendTsMicros payload
    (encodeUdp seq sendTsMicros payload).length (by simp [encodeUdp, udpHeaderLen]; omega)
  rwa [List.take_length] at whole

end Npt.Ci.Protocol
