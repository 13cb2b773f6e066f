import Mathlib.Data.UInt
import Npt.Ci.Protocol
import Npt.Core.TransitionSystem

/-!
Contract: the UDP side of the echo endpoint (`udp_echo` in `ci/src/server.rs`).

The loop receives a datagram, sends it back if it decodes, and counts what went
out. The byte counter is shared with the TCP connections, whose additions are a
label of their own. A socket's address stands for the peer.

Owns: the machine, the datagrams of the probe as byte strings, and that the loop
answers exactly these and counts exactly what it sent.

Does not own: the TCP side or the heartbeat.
-/

namespace Npt.Ci.Server

open Npt.Core
open Npt.Ci.Protocol

/-! ## Datagrams of the probe -/

/-- Some probe client could have encoded the bytes. -/
def Encoded (bytes : List UInt8) : Prop :=
  ∃ seq sendTsMicros payload, bytes = encodeUdp seq sendTsMicros payload

/-- The decoder finds the fields of exactly the datagrams encoded from them. -/
theorem decodeUdp_eq_some_iff {bytes : List UInt8} {seq sendTsMicros : UInt64} :
    decodeUdp bytes = some (seq, sendTsMicros) ↔
      ∃ payload, bytes = encodeUdp seq sendTsMicros payload := by
  constructor
  · intro decoded
    unfold decodeUdp at decoded
    split at decoded
    · cases decoded
    · rename_i long
      split at decoded
      · cases decoded
      · rename_i marked
        rw [ne_eq, not_not] at marked
        obtain ⟨rfl, rfl⟩ := Prod.mk.inj (Option.some.inj decoded)
        replace long : 20 ≤ bytes.length := Nat.not_lt.mp long
        refine ⟨bytes.drop 20, ?_⟩
        -- The three fields and the rest cover the buffer.
        rw [encodeUdp, ← marked, u32ToLe_u32FromLe (by simp; omega),
          u64ToLe_u64FromLe (by simp; omega), u64ToLe_u64FromLe (by simp; omega),
          extract_append_extract (by decide) (by decide),
          extract_append_extract (by decide) (by decide)]
        simp [List.extract_eq_take_drop]
  · rintro ⟨payload, rfl⟩
    exact decodeUdp_encodeUdp seq sendTsMicros payload

theorem isSome_decodeUdp_iff {bytes : List UInt8} :
    (decodeUdp bytes).isSome = true ↔ Encoded bytes := by
  rw [Option.isSome_iff_exists]
  constructor
  · rintro ⟨⟨seq, sendTsMicros⟩, decoded⟩
    obtain ⟨payload, shape⟩ := decodeUdp_eq_some_iff.mp decoded
    exact ⟨seq, sendTsMicros, payload, shape⟩
  · rintro ⟨seq, sendTsMicros, payload, rfl⟩
    exact ⟨_, decodeUdp_encodeUdp seq sendTsMicros payload⟩

instance (bytes : List UInt8) : Decidable (Encoded bytes) :=
  decidable_of_iff _ isSome_decodeUdp_iff

/-! ## The loop -/

/-- The length field of UDP has 16 bits and counts a header of 8 bytes. -/
structure Datagram where
  bytes : List UInt8
  size : bytes.length + 8 < 2 ^ 16

/-- A datagram's bytes and its peer. -/
structure Packet where
  bytes : List UInt8
  peer : String
deriving DecidableEq, Repr

inductive UdpStage where
  | receiving
  /-- Inside `send_to`. -/
  | sending (packet : Packet)
  /-- The pause after a failed `recv_from`. -/
  | sleeping
deriving DecidableEq, Repr

structure UdpEchoState where
  stage : UdpStage := .receiving
  udpDatagrams : UInt64
  bytesEchoed : UInt64
deriving DecidableEq, Repr

inductive UdpEchoLabel where
  | recv (datagram : Datagram) (peer : String)
  | recvError
  | sendOk
  | sendError
  | wake
  /-- A TCP connection counts bytes of its own. -/
  | tcpEchoed (bytes : UInt64)

/-- The buffer of the loop. -/
def recvBufferLen : Nat := 64 * 1024

def udpEchoStep (state : UdpEchoState) : UdpEchoLabel → Option UdpEchoState
  | .recv datagram peer =>
      match state.stage with
      | .receiving =>
          let received := datagram.bytes.take recvBufferLen
          if (decodeUdp received).isSome then
            some { state with stage := .sending ⟨received, peer⟩ }
          else some state
      | _ => none
  | .recvError =>
      match state.stage with
      | .receiving => some { state with stage := .sleeping }
      | _ => none
  | .sendOk =>
      match state.stage with
      | .sending packet =>
          some { state with
            stage := .receiving
            udpDatagrams := state.udpDatagrams + 1
            bytesEchoed := state.bytesEchoed + UInt64.ofNat packet.bytes.length }
      | _ => none
  | .sendError =>
      match state.stage with
      | .sending _ => some { state with stage := .receiving }
      | _ => none
  | .wake =>
      match state.stage with
      | .sleeping => some { state with stage := .receiving }
      | _ => none
  | .tcpEchoed bytes => some { state with bytesEchoed := state.bytesEchoed + bytes }

/-- `udp_echo`. -/
def udpEcho : Machine UdpEchoState UdpEchoLabel := ⟨udpEchoStep⟩

/-- The loop at its start, with the counters as they are. -/
def listening (udpDatagrams bytesEchoed : UInt64) : UdpEchoState where
  udpDatagrams := udpDatagrams
  bytesEchoed := bytesEchoed

/-! ## What a run receives and sends -/

/-- The packet that `send_to` is busy with. -/
def UdpStage.packets : UdpStage → List Packet
  | .sending packet => [packet]
  | .receiving | .sleeping => []

/-- The packet that a step receives. -/
def receivedAt : UdpEchoLabel → List Packet
  | .recv datagram peer => [⟨datagram.bytes, peer⟩]
  | _ => []

/-- The packet whose `send_to` a step ends. -/
def answeredAt (state : UdpEchoState) : UdpEchoLabel → List Packet
  | .sendOk | .sendError => state.stage.packets
  | _ => []

/-- The packet that a step has sent. -/
def sentAt (state : UdpEchoState) : UdpEchoLabel → List Packet
  | .sendOk => state.stage.packets
  | _ => []

def tcpBytesAt : UdpEchoLabel → UInt64
  | .tcpEchoed bytes => bytes
  | _ => 0

abbrev UdpTrace := List (UdpEchoState × UdpEchoLabel)

def received (trace : UdpTrace) : List Packet := trace.flatMap (fun entry => receivedAt entry.2)

def answered (trace : UdpTrace) : List Packet :=
  trace.flatMap (fun entry => answeredAt entry.1 entry.2)

def sent (trace : UdpTrace) : List Packet := trace.flatMap (fun entry => sentAt entry.1 entry.2)

/-- The bytes that the TCP connections count in the meantime. -/
def tcpBytes (trace : UdpTrace) : UInt64 := (trace.map (fun entry => tcpBytesAt entry.2)).sum

/-- What a run from `listening` keeps. -/
structure Echoes (udpDatagrams bytesEchoed : UInt64) (trace : UdpTrace) (state : UdpEchoState) :
    Prop where
  answered : answered trace ++ state.stage.packets =
    (received trace).filter (fun packet => Encoded packet.bytes)
  datagrams : state.udpDatagrams = udpDatagrams + UInt64.ofNat (sent trace).length
  bytes : state.bytesEchoed = bytesEchoed + tcpBytes trace +
    UInt64.ofNat ((sent trace).map (·.bytes.length)).sum

section Snoc

variable (trace : UdpTrace) (state : UdpEchoState) (label : UdpEchoLabel)

@[simp] theorem received_snoc :
    received (trace ++ [(state, label)]) = received trace ++ receivedAt label := by
  simp [received]

@[simp] theorem answered_snoc :
    answered (trace ++ [(state, label)]) = answered trace ++ answeredAt state label := by
  simp [answered]

@[simp] theorem sent_snoc :
    sent (trace ++ [(state, label)]) = sent trace ++ sentAt state label := by
  simp [sent]

@[simp] theorem tcpBytes_snoc :
    tcpBytes (trace ++ [(state, label)]) = tcpBytes trace + tcpBytesAt label := by
  simp [tcpBytes]

end Snoc

/-- A datagram fits the buffer. -/
theorem Datagram.take_bytes (datagram : Datagram) :
    datagram.bytes.take recvBufferLen = datagram.bytes := by
  have size := datagram.size
  exact List.take_of_length_le (by rw [recvBufferLen]; omega)

/-- What one step answers and counts. -/
structure Moves (state : UdpEchoState) (label : UdpEchoLabel) (next : UdpEchoState) : Prop where
  packets : answeredAt state label ++ next.stage.packets =
    state.stage.packets ++ (receivedAt label).filter (fun packet => Encoded packet.bytes)
  datagrams : next.udpDatagrams = state.udpDatagrams + UInt64.ofNat (sentAt state label).length
  bytes : next.bytesEchoed = state.bytesEchoed + tcpBytesAt label +
    UInt64.ofNat ((sentAt state label).map (·.bytes.length)).sum

section Steps

variable {udpDatagrams bytesEchoed : UInt64} {trace : UdpTrace} {state next : UdpEchoState}
  {label : UdpEchoLabel}

theorem moves_of_step (taken : udpEcho.step state label = some next) : Moves state label next := by
  simp only [udpEcho, udpEchoStep] at taken
  cases label with
  | recv datagram peer =>
      cases stage : state.stage <;> simp only [stage, reduceCtorEq] at taken
      rw [datagram.take_bytes] at taken
      split at taken
      · rename_i decodes
        obtain rfl := Option.some.inj taken
        have encoded := isSome_decodeUdp_iff.mp decodes
        constructor <;> simp [answeredAt, receivedAt, sentAt, tcpBytesAt, UdpStage.packets, stage,
          encoded]
      · rename_i stray
        obtain rfl := Option.some.inj taken
        have foreign : ¬Encoded datagram.bytes := fun encoded =>
          stray (isSome_decodeUdp_iff.mpr encoded)
        constructor <;> simp [answeredAt, receivedAt, sentAt, tcpBytesAt, UdpStage.packets, stage,
          foreign]
  | tcpEchoed more =>
      obtain rfl := Option.some.inj taken
      constructor <;> simp [answeredAt, receivedAt, sentAt, tcpBytesAt]
  | recvError | sendOk | sendError | wake =>
      cases stage : state.stage <;>
        simp only [stage, reduceCtorEq, Option.some.injEq] at taken
      subst taken
      constructor <;> simp [answeredAt, receivedAt, sentAt, tcpBytesAt, UdpStage.packets, stage]

/-- One step keeps what the loop has answered and counted. -/
theorem Echoes.step (echoes : Echoes udpDatagrams bytesEchoed trace state)
    (taken : udpEcho.step state label = some next) :
    Echoes udpDatagrams bytesEchoed (trace ++ [(state, label)]) next := by
  have moves := moves_of_step taken
  exact
    { answered := by
        rw [answered_snoc, received_snoc, List.filter_append, ← echoes.answered, List.append_assoc,
          moves.packets, List.append_assoc]
      datagrams := by
        rw [moves.datagrams, echoes.datagrams, sent_snoc, List.length_append, UInt64.ofNat_add,
          UInt64.add_assoc]
      bytes := by
        rw [moves.bytes, echoes.bytes, sent_snoc, tcpBytes_snoc, List.map_append, List.sum_append,
          UInt64.ofNat_add]
        ac_rfl }

/-- So does a whole run. -/
theorem echoes_of_run (run : udpEcho.Run (listening udpDatagrams bytesEchoed) trace state) :
    Echoes udpDatagrams bytesEchoed trace state :=
  run.history (Echoes udpDatagrams bytesEchoed)
    ⟨rfl, by simp [listening, sent], by simp [listening, sent, tcpBytes]⟩
    (fun _ _ _ _ _ echoes taken => echoes.step taken)

/-- What was sent is part of what was answered. -/
theorem sent_sublist (trace : UdpTrace) : (sent trace).Sublist (answered trace) := by
  induction trace with
  | nil => exact List.Sublist.refl _
  | cons entry trace inductionHypothesis =>
      obtain ⟨state, label⟩ := entry
      have here : (sentAt state label).Sublist (answeredAt state label) := by
        cases label <;> simp [sentAt, answeredAt]
      exact here.append inductionHypothesis

end Steps

/-- The codec is exact, and so is the loop: it answers the received datagrams that a
probe could have encoded, unchanged, in order and to their peers, and its counters
move by what it sent. -/
theorem udp_echo_exact :
    (∀ (bytes : List UInt8) (seq sendTsMicros : UInt64),
      decodeUdp bytes = some (seq, sendTsMicros) ↔
        ∃ payload, bytes = encodeUdp seq sendTsMicros payload) ∧
    ∀ (udpDatagrams bytesEchoed : UInt64) (trace : UdpTrace) (state : UdpEchoState),
      udpEcho.Run (listening udpDatagrams bytesEchoed) trace state →
        answered trace ++ state.stage.packets =
            (received trace).filter (fun packet => Encoded packet.bytes) ∧
          (sent trace).Sublist (answered trace) ∧
          state.udpDatagrams = udpDatagrams + UInt64.ofNat (sent trace).length ∧
          state.bytesEchoed = bytesEchoed + tcpBytes trace +
            UInt64.ofNat ((sent trace).map (·.bytes.length)).sum := by
  refine ⟨fun _ _ _ => decodeUdp_eq_some_iff, fun _ _ trace state run => ?_⟩
  obtain ⟨answeredAll, datagrams, bytes⟩ := echoes_of_run run
  exact ⟨answeredAll, sent_sublist trace, datagrams, bytes⟩

/-- A probe's datagram and a stray one; the answer to the first goes out. -/
def oneProbe : List UdpEchoLabel :=
  [.recv ⟨encodeUdp 0 7 [1], by decide⟩ "127.0.0.1:9000", .sendOk,
    .recv ⟨[1, 2, 3], by decide⟩ "127.0.0.1:9001"]

theorem udp_echo_exact_oneProbe :
    ∃ state, udpEcho.play (listening 0 0) oneProbe = some state ∧
      sent (udpEcho.trace (listening 0 0) oneProbe) =
        [⟨encodeUdp 0 7 [1], "127.0.0.1:9000"⟩] ∧
      state.udpDatagrams = 1 ∧ state.bytesEchoed = 21 := by
  obtain ⟨state, played⟩ := Option.isSome_iff_exists.mp (show
    (udpEcho.play (listening 0 0) oneProbe).isSome = true by rfl)
  have outgoing : sent (udpEcho.trace (listening 0 0) oneProbe) =
      [⟨encodeUdp 0 7 [1], "127.0.0.1:9000"⟩] := by rfl
  obtain ⟨-, -, datagrams, bytes⟩ := udp_echo_exact.2 0 0 _ state (Machine.run_of_play played)
  rw [outgoing] at datagrams bytes
  exact ⟨state, played, outgoing, datagrams, bytes⟩

end Npt.Ci.Server
