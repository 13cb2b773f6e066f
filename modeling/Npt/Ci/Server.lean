import Mathlib.Data.Set.Basic
import Npt.Ci.Protocol
import Npt.Core.PrefixCode
import Npt.Core.TransitionSystem

/-!
Contract: one TCP connection of the echo endpoint (`tcp_echo` in
`ci/src/server.rs`).

The loop reads a frame, writes its encoding back and counts the bytes. The
labels are one round of the loop and, apart, what the peer does: deliver bytes
or end its stream. Every write succeeds.

Owns: the machine, well-formed frames as byte strings, and that the loop writes
back the longest prefix of its input that is made of them.

Does not own: the listener, the heartbeat, or the UDP socket.
-/

namespace Npt.Ci.Server

open Npt.Core
open Npt.Ci.Protocol

/-! ## The echo loop -/

structure EchoState where
  /-- Delivered and unread bytes. -/
  rx : ByteStream IoError := ⟨[], .live⟩
  written : List UInt8 := []
  bytesEchoed : UInt64
  /-- What `tcp_echo` returned. -/
  result : Option (Except IoError Unit) := none

inductive EchoLabel where
  | round
  | peerSend (bytes : List UInt8)
  | peerClose
deriving DecidableEq, Repr

/-- One round of the loop of `tcp_echo`. -/
def echoRound (state : EchoState) : Option EchoState :=
  match Frame.read state.rx with
  | .pending => none
  | .error error => some { state with result := some (.error error) }
  | .ok none rest => some { state with rx := rest, result := some (.ok ()) }
  | .ok (some frame) rest =>
      some { state with
        rx := rest
        written := state.written ++ frame.encode
        bytesEchoed := state.bytesEchoed + UInt64.ofNat (headerLen + frame.payload.length) }

def echoStep (state : EchoState) : EchoLabel → Option EchoState
  | .round =>
      match state.result with
      | none => echoRound state
      | some _ => none
  | .peerSend bytes =>
      if state.rx.ending = .live then
        some { state with rx := ⟨state.rx.bytes ++ bytes, .live⟩ }
      else none
  | .peerClose =>
      if state.rx.ending = .live then some { state with rx := ⟨state.rx.bytes, .eof⟩ } else none

/-- `tcp_echo`. -/
def tcpEcho : Machine EchoState EchoLabel := ⟨echoStep⟩

/-- A fresh connection, with the counter that all connections share. -/
def accepted (bytesEchoed : UInt64) : EchoState := { bytesEchoed := bytesEchoed }

/-- The bytes that a step delivers. -/
def EchoLabel.bytes : EchoLabel → List UInt8
  | .peerSend bytes => bytes
  | .round | .peerClose => []

/-- The input of a run. -/
def delivered (trace : List (EchoState × EchoLabel)) : List UInt8 :=
  trace.flatMap (fun entry => entry.2.bytes)

@[simp] theorem delivered_snoc (trace : List (EchoState × EchoLabel)) (state : EchoState)
    (label : EchoLabel) : delivered (trace ++ [(state, label)]) = delivered trace ++ label.bytes := by
  simp [delivered]

/-! ## Well-formed frames -/

/-- The right magic, an allowed payload length, and a complete payload. -/
structure WellFormed (bytes : List UInt8) : Prop where
  header : headerLen ≤ bytes.length
  magic : u32FromLe (bytes.extract 0 4) = Protocol.magic
  allowed : (u32FromLe (bytes.extract 4 8)).toNat ≤ maxPayload
  complete : bytes.length = headerLen + (u32FromLe (bytes.extract 4 8)).toNat

/-- `Frame::read` takes a well-formed byte string as one frame. -/
theorem WellFormed.read {bytes : List UInt8} (wellFormed : WellFormed bytes) :
    ∃ frame, Frame.read ⟨bytes, .eof⟩ = .ok (some frame) ⟨[], .eof⟩ := by
  have fields (start stop : Nat) (inside : stop ≤ headerLen) :
      (bytes.take headerLen).extract start stop = bytes.extract start stop := by
    rw [List.extract_eq_take_drop, List.extract_eq_take_drop, List.drop_take, List.take_take]
    congr 1
    omega
  have body : (u32FromLe (bytes.extract 4 8)).toNat ≤ (bytes.drop headerLen).length := by
    have complete := wellFormed.complete
    rw [List.length_drop]
    omega
  have left : (bytes.drop headerLen).drop (u32FromLe (bytes.extract 4 8)).toNat = [] := by
    rw [List.drop_drop, ← wellFormed.complete, List.drop_length]
  unfold Frame.read
  rw [ByteStream.readExact_of_le wellFormed.header]
  simp only [fields 0 4 (by decide), fields 4 8 (by decide), wellFormed.magic, ne_eq,
    not_true_eq_false, if_false, Nat.not_lt.mpr wellFormed.allowed]
  rw [ByteStream.readExact_of_le body]
  simp only [left]
  exact ⟨_, rfl⟩

theorem wellFormed_encode (frame : Frame) (fits : frame.payload.length ≤ maxPayload) :
    WellFormed frame.encode := by
  let len := u32ToLe (UInt32.ofNat frame.payload.length)
  have magicField : frame.encode.extract 0 4 = u32ToLe magic := by
    have shape : frame.encode = [] ++ u32ToLe magic ++
        (len ++ u64ToLe frame.seq ++ u64ToLe frame.sendTsMicros ++ frame.payload) := by
      simp [Frame.encode, len]
    rw [shape]
    exact extract_middle rfl (by simp)
  have lenField : frame.encode.extract 4 8 = len := by
    have shape : frame.encode = u32ToLe magic ++ len ++
        (u64ToLe frame.seq ++ u64ToLe frame.sendTsMicros ++ frame.payload) := by
      simp [Frame.encode, len]
    rw [shape]
    exact extract_middle (by simp) (by simp [len])
  have lenValue : (u32FromLe (frame.encode.extract 4 8)).toNat = frame.payload.length := by
    rw [lenField, u32FromLe_u32ToLe, UInt32.toNat_ofNat', Nat.mod_eq_of_lt]
    exact lt_of_le_of_lt fits (by decide)
  exact
    { header := by rw [Frame.encode_length]; exact Nat.le_add_right _ _
      magic := by rw [magicField, u32FromLe_u32ToLe]
      allowed := by rwa [lenValue]
      complete := by rw [lenValue, Frame.encode_length] }

/-- The well-formed byte strings are the encodings of frames. -/
theorem wellFormed_iff {bytes : List UInt8} :
    WellFormed bytes ↔
      ∃ frame : Frame, frame.payload.length ≤ maxPayload ∧ bytes = frame.encode := by
  constructor
  · intro wellFormed
    obtain ⟨frame, read⟩ := wellFormed.read
    obtain ⟨split, _, fits⟩ := Frame.read_some read
    exact ⟨frame, fits, by simpa using split⟩
  · rintro ⟨frame, fits, rfl⟩
    exact wellFormed_encode frame fits

/-- The frames of the protocol. -/
def frames : Set (List UInt8) := {bytes | WellFormed bytes}

/-- A frame says where it ends, so none begins another. -/
theorem frames_prefixCode : PrefixCode frames := by
  intro left leftFormed right rightFormed front
  obtain ⟨first, firstFits, rfl⟩ := wellFormed_iff.mp leftFormed
  obtain ⟨second, secondFits, rfl⟩ := wellFormed_iff.mp rightFormed
  obtain ⟨tail, longer⟩ := front
  have readFirst := Frame.read_encode first firstFits tail .eof
  have readSecond := Frame.read_encode second secondFits [] .eof
  rw [List.append_nil, ← longer, readFirst] at readSecond
  obtain rfl : first = second := Option.some.inj (Outcome.ok.inj readSecond).1
  rfl

/-! ## What is left unread -/

/-- Where no frame can be read, no frame begins. -/
theorem blocked_of_read {stream : ByteStream IoError}
    (none : ∀ frame rest, Frame.read stream ≠ .ok (some frame) rest) :
    Blocked frames stream.bytes := by
  obtain ⟨bytes, ending⟩ := stream
  intro word member front
  obtain ⟨frame, fits, rfl⟩ := wellFormed_iff.mp member
  obtain ⟨tail, rfl⟩ := front
  exact none _ _ (Frame.read_encode frame fits tail ending)

/-- Reading from an open stream waits rather than fails. -/
theorem readExact_live_ne_error {bytes : List UInt8} {count : Nat} {error : IoError} :
    ByteStream.readExact earlyEof count ⟨bytes, .live⟩ ≠ .error error := by
  unfold ByteStream.readExact
  split <;> simp

/-- An error on an open stream is the error of everything that goes on from it. -/
theorem read_error_append {bytes more : List UInt8} {error : IoError}
    (read : Frame.read ⟨bytes, .live⟩ = .error error) :
    Frame.read ⟨bytes ++ more, .live⟩ = .error error := by
  unfold Frame.read at read
  cases headerRead : ByteStream.readExact earlyEof headerLen ⟨bytes, .live⟩ with
  | pending => simp [headerRead] at read
  | error other => exact absurd headerRead readExact_live_ne_error
  | ok header body =>
      obtain ⟨split, width, live⟩ := ByteStream.readExact_eq_ok headerRead
      have longer : ByteStream.readExact earlyEof headerLen ⟨bytes ++ more, .live⟩ =
          .ok header ⟨body.bytes ++ more, .live⟩ := by
        rw [show bytes = header ++ body.bytes from split, List.append_assoc, ← width]
        exact ByteStream.readExact_append earlyEof header _ _
      obtain ⟨bodyBytes, bodyEnding⟩ := body
      obtain rfl : bodyEnding = .live := live
      simp only [headerRead] at read
      unfold Frame.read
      simp only [longer]
      split at read
      · rename_i badField
        rw [if_pos badField, read]
      · rename_i goodField
        rw [if_neg goodField]
        split at read
        · rename_i oversized
          rw [if_pos oversized, read]
        · split at read
          · simp at read
          · rename_i other payloadRead
            exact absurd payloadRead readExact_live_ne_error
          · simp at read

/-- Frames read without an error, wherever an open stream is cut. -/
theorem read_ne_error_of_spelled {bytes more : List UInt8} {error : IoError}
    (spelled : Spelled frames (bytes ++ more)) : Frame.read ⟨bytes, .live⟩ ≠ .error error := by
  intro read
  have longer : Frame.read ⟨bytes ++ more, .live⟩ = .error error := read_error_append read
  generalize bytes ++ more = text at spelled longer
  cases spelled with
  | nil => simp [Frame.read, ByteStream.readExact, headerLen] at longer
  | cons member _ =>
      obtain ⟨frame, fits, rfl⟩ := wellFormed_iff.mp member
      rw [Frame.read_encode frame fits] at longer
      simp at longer

/-- Frames that have all arrived read without an error. -/
theorem read_eof_ne_error_of_spelled {bytes : List UInt8} {error : IoError}
    (spelled : Spelled frames bytes) : Frame.read ⟨bytes, .eof⟩ ≠ .error error := by
  intro read
  cases spelled with
  | nil => simp [read_empty_eof] at read
  | cons member _ =>
      obtain ⟨frame, fits, rfl⟩ := wellFormed_iff.mp member
      rw [Frame.read_encode frame fits] at read
      simp at read

/-! ## Runs of the loop -/

/-- What the loop has done with its input. -/
structure Echoed (start : UInt64) (input : List UInt8) (state : EchoState) : Prop where
  framed : Spelled frames state.written
  counted : state.bytesEchoed = start + UInt64.ofNat state.written.length
  unread : state.result = none → input = state.written ++ state.rx.bytes
  stopped : state.result.isSome = true → ∃ rest, input = state.written ++ rest ∧
    Blocked frames rest ∧ (state.rx.ending = .live → ∀ more, Blocked frames (rest ++ more))

theorem echoed_step {start : UInt64} {input : List UInt8} {state next : EchoState}
    {label : EchoLabel} (echoed : Echoed start input state)
    (taken : tcpEcho.step state label = some next) : Echoed start (input ++ label.bytes) next := by
  change echoStep state label = some next at taken
  cases label with
  | peerSend bytes =>
      simp only [echoStep] at taken
      split at taken
      · rename_i live
        obtain rfl := Option.some.inj taken
        refine ⟨echoed.framed, echoed.counted, fun running => ?_, fun past => ?_⟩
        · simp [echoed.unread running, EchoLabel.bytes]
        · obtain ⟨rest, split, _, blocked⟩ := echoed.stopped past
          refine ⟨rest ++ bytes, by simp [split, EchoLabel.bytes], blocked live bytes, ?_⟩
          intro _ more
          rw [List.append_assoc]
          exact blocked live (bytes ++ more)
      · simp at taken
  | peerClose =>
      simp only [echoStep] at taken
      split at taken
      · obtain rfl := Option.some.inj taken
        refine ⟨echoed.framed, echoed.counted, fun running => ?_, fun past => ?_⟩
        · simp [echoed.unread running, EchoLabel.bytes]
        · obtain ⟨rest, split, blocked, _⟩ := echoed.stopped past
          exact ⟨rest, by simp [split, EchoLabel.bytes], blocked, by simp⟩
      · simp at taken
  | round =>
      cases running : state.result with
      | some result => simp [echoStep, running] at taken
      | none =>
          simp only [echoStep, running, echoRound] at taken
          have unread := echoed.unread running
          rw [EchoLabel.bytes, List.append_nil]
          split at taken
          · simp at taken
          · rename_i error read
            obtain rfl := Option.some.inj taken
            refine ⟨echoed.framed, echoed.counted, by simp, fun _ => ?_⟩
            refine ⟨state.rx.bytes, unread, blocked_of_read (by simp [read]), fun live more => ?_⟩
            have longer : Frame.read ⟨state.rx.bytes ++ more, .live⟩ = .error error := by
              refine read_error_append ?_
              rw [← live]
              exact read
            have blocked : Blocked frames
                (ByteStream.mk (state.rx.bytes ++ more) (.live : Ending IoError)).bytes :=
              blocked_of_read (by simp [longer])
            exact blocked
          · rename_i rest read
            obtain rfl := Option.some.inj taken
            obtain ⟨rfl, ended⟩ := Frame.read_none read
            refine ⟨echoed.framed, echoed.counted, by simp, fun _ => ?_⟩
            exact ⟨state.rx.bytes, unread, blocked_of_read (by simp [read]),
              fun live => absurd live ended⟩
          · rename_i frame rest read
            obtain rfl := Option.some.inj taken
            obtain ⟨split, _, fits⟩ := Frame.read_some read
            have member : frame.encode ∈ frames := wellFormed_encode frame fits
            refine ⟨echoed.framed.snoc member, ?_, fun _ => ?_, ?_⟩
            · show state.bytesEchoed + _ = _
              rw [echoed.counted, List.length_append, Frame.encode_length, UInt64.ofNat_add,
                UInt64.ofNat_add, UInt64.ofNat_add, UInt64.add_assoc]
            · rw [unread, split, List.append_assoc]
            · simp

theorem echoed_of_run {start : UInt64} {trace : List (EchoState × EchoLabel)} {state : EchoState}
    (run : tcpEcho.Run (accepted start) trace state) : Echoed start (delivered trace) state := by
  refine run.history (fun trace state => Echoed start (delivered trace) state) ?_ ?_
  · exact ⟨.nil, by simp [accepted], by simp [accepted, delivered], by simp [accepted]⟩
  · intro trace state label next _ echoed taken
    rw [delivered_snoc]
    exact echoed_step echoed taken

/-! ## Verbatim echo -/

/-- The longest prefix that is a concatenation of well-formed frames. -/
structure IsLongestFramedPrefix (input echoed : List UInt8) : Prop where
  front : echoed <+: input
  framed : Spelled frames echoed
  longest : ∀ other, other <+: input → Spelled frames other → other <+: echoed

/-- Once the input has ended, every round returns or takes a frame off it. -/
theorem round_enabled {state : EchoState} (running : state.result = none)
    (ended : state.rx.ending = .eof) :
    ∃ next, tcpEcho.step state .round = some next ∧
      (next.result.isSome = true ∨ next.result = none ∧ next.rx.ending = .eof ∧
        next.rx.bytes.length < state.rx.bytes.length) := by
  cases read : Frame.read state.rx with
  | pending =>
      have waits := Frame.read_pending read
      simp [ended] at waits
  | error error =>
      exact ⟨{ state with result := some (.error error) },
        by simp [tcpEcho, echoStep, running, echoRound, read], Or.inl rfl⟩
  | ok value rest =>
      cases value with
      | none =>
          exact ⟨{ state with rx := rest, result := some (.ok ()) },
            by simp [tcpEcho, echoStep, running, echoRound, read], Or.inl rfl⟩
      | some frame =>
          obtain ⟨split, sameEnding, _⟩ := Frame.read_some read
          have positive := frame.encode_length_pos
          refine ⟨{ state with
              rx := rest
              written := state.written ++ frame.encode
              bytesEchoed := state.bytesEchoed + UInt64.ofNat (headerLen + frame.payload.length) },
            by simp [tcpEcho, echoStep, running, echoRound, read],
            Or.inr ⟨running, sameEnding.trans ended, ?_⟩⟩
          show rest.bytes.length < state.rx.bytes.length
          rw [split, List.length_append]
          omega

/-- The loop returns once its input has ended. -/
theorem returns {state : EchoState} (ended : state.rx.ending = .eof) :
    ∃ last, tcpEcho.ReachableBy (· = .round) state last ∧ last.result.isSome = true := by
  induction size : state.rx.bytes.length using Nat.strong_induction_on generalizing state with
  | _ count inductionHypothesis =>
      cases running : state.result with
      | some result => exact ⟨state, .refl state, by simp [running]⟩
      | none =>
          obtain ⟨next, taken, past | ⟨_, stillEnded, shorter⟩⟩ := round_enabled running ended
          · exact ⟨next, .single taken rfl, past⟩
          · obtain ⟨last, later, past⟩ := inductionHypothesis _ (size ▸ shorter) stillEnded rfl
            exact ⟨last, .trans (.single taken rfl) later, past⟩

/-- However the input arrives, what `tcp_echo` has written back when it returns
is the longest prefix of the input made of well-formed frames, and the shared
counter has grown by its length. It returns once the input has ended. -/
theorem tcp_echo_verbatim {start : UInt64} {trace : List (EchoState × EchoLabel)}
    {state : EchoState} (run : tcpEcho.Run (accepted start) trace state) :
    (state.result.isSome = true → IsLongestFramedPrefix (delivered trace) state.written ∧
        state.bytesEchoed = start + UInt64.ofNat state.written.length) ∧
      (state.rx.ending = .eof →
        ∃ last, tcpEcho.ReachableBy (· = .round) state last ∧ last.result.isSome = true) := by
  have echoed := echoed_of_run run
  refine ⟨fun past => ?_, returns⟩
  obtain ⟨rest, split, blocked, _⟩ := echoed.stopped past
  refine ⟨⟨?_, echoed.framed, fun other front spelled => ?_⟩, echoed.counted⟩
  · rw [split]
    exact List.prefix_append _ _
  · rw [split] at front
    exact frames_prefixCode.prefix_of_blocked echoed.framed blocked spelled front

/-- A frame, cut into two deliveries, and then a stray byte. -/
def frameThenByte : List EchoLabel :=
  let bytes := (Frame.mk 0 7 [1]).encode
  [.peerSend (bytes.take 3), .peerSend (bytes.drop 3 ++ [0]), .round, .peerClose, .round]

theorem tcp_echo_verbatim_frameThenByte :
    ∃ state, tcpEcho.play (accepted 5) frameThenByte = some state ∧
      IsLongestFramedPrefix ((Frame.mk 0 7 [1]).encode ++ [0]) state.written ∧
        state.bytesEchoed = 5 + UInt64.ofNat state.written.length := by
  obtain ⟨state, played⟩ := Option.isSome_iff_exists.mp (show
    (tcpEcho.play (accepted 5) frameThenByte).isSome = true by rfl)
  have past : state.result.isSome = true := by
    have returned : (tcpEcho.play (accepted 5) frameThenByte).map (·.result.isSome) =
        some true := by rfl
    rwa [played, Option.map_some, Option.some.injEq] at returned
  exact ⟨state, played, (tcp_echo_verbatim (Machine.run_of_play played)).1 past⟩

end Npt.Ci.Server
