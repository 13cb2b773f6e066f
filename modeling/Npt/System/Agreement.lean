import Mathlib.Algebra.Order.BigOperators.Group.List
import Npt.System.Download
import Npt.System.Upload

/-!
Contract: both kinds of transfer complete.

Owns: the joint statement, and the lengths that MessagePack gives messages.

Does not own: the phases of either transfer.
-/

namespace Npt.System

open Npt.Core
open Npt.Shared
open Npt.Client

/-! ## MessagePack -/

/-- The length of a variant's name. -/
def variantLength : MessageType → Nat
  | .tlsHandshake => 12
  | .httpRequest => 11
  | .httpResponse => 12
  | .fileDownloadRequest => 19
  | .fileDownloadChunk => 17
  | .fileUploadRequest => 17
  | .fileUploadChunk => 15
  | .gamePacket => 10
  | .connectionClose => 15
  | .httpGetRequest => 14
  | .httpGetResponse => 15
  | .resourceRequest => 15
  | .resourceResponse => 16

/-- The length of an unsigned integer. -/
def packedNat (value : Nat) : Nat :=
  if value < 2 ^ 7 then 1
  else if value < 2 ^ 8 then 2
  else if value < 2 ^ 16 then 3
  else if value < 2 ^ 32 then 5
  else 9

/-- The length of the header of an array. -/
def packedHeader (length : Nat) : Nat :=
  if length < 16 then 1 else if length < 2 ^ 16 then 3 else 5

/-- The length of a message as an array of its fields: two ids of 16 bytes, a
variant name, the payload as an array of integers, a timestamp with no, three,
six or nine digits after the second, as the stamp has it, and the sequence. -/
def packedLength (message : Message) (stamp : Nat) : Nat :=
  let timestamp := if stamp % 4 = 0 then 20 else 21 + 3 * (stamp % 4)
  1 + 18 + 18 + (1 + variantLength message.messageType) +
    (packedHeader message.payload.length +
      (message.payload.map (fun byte => packedNat byte.toNat)).sum) +
    (1 + timestamp) + packedNat message.sequence.toNat

theorem packedNat_byte (byte : UInt8) : packedNat byte.toNat ≤ 2 := by
  have small := byte.toNat_lt
  unfold packedNat
  split
  · decide
  · exact le_rfl

theorem packedNat_le (value : Nat) : packedNat value ≤ 9 := by
  unfold packedNat
  split_ifs <;> decide

theorem variantLength_le (messageType : MessageType) : variantLength messageType ≤ 19 := by
  cases messageType <;> decide

/-- MessagePack is compact. -/
theorem packedLength_le (message : Message) (stamp : Nat) :
    packedLength message stamp ≤ 2 * message.payload.length + 1024 := by
  have payload : (message.payload.map (fun byte => packedNat byte.toNat)).sum ≤
      message.payload.length * 2 := by
    rw [← List.length_map (fun byte : UInt8 => packedNat byte.toNat)]
    refine List.sum_le_card_nsmul _ 2 (fun length member => ?_)
    obtain ⟨byte, _, rfl⟩ := List.mem_map.mp member
    exact packedNat_byte byte
  have variant := variantLength_le message.messageType
  have sequence := packedNat_le message.sequence.toNat
  have header : packedHeader message.payload.length ≤ 5 := by
    unfold packedHeader
    split_ifs <;> decide
  have digits := Nat.mod_lt stamp (show 0 < 4 by decide)
  unfold packedLength
  dsimp only
  split <;> omega

/-! ## Agreement -/

/-- A call whose stage is still to come. -/
def smallCall (activity : UserActivity) : TcpCall where
  activity := activity
  connectionId := ⟨1⟩
  stage := .thinking

end Npt.System
