import Mathlib.Algebra.BigOperators.Group.List.Basic
import Mathlib.Data.List.Nodup
import Npt.Core.LittleEndian
import Npt.Shared.Protocol

/-!
Contract: the messages of the TCP sessions (`Message` in
`shared/src/protocol.rs`).

Owns: message types, the fields of a message that either peer reads, and series
of chunks.

Does not own: the id and the timestamp, which no one reads, or the serialiser.
-/

namespace Npt.Shared

open Npt.Core

inductive MessageType where
  | tlsHandshake
  | httpRequest
  | httpResponse
  | fileDownloadRequest
  | fileDownloadChunk
  | fileUploadRequest
  | fileUploadChunk
  | gamePacket
  | connectionClose
  | httpGetRequest
  | httpGetResponse
  | resourceRequest
  | resourceResponse
deriving DecidableEq, Repr

structure Message where
  sessionId : Uuid
  messageType : MessageType
  payload : List UInt8
  sequence : UInt64 := 0
deriving DecidableEq, Repr

namespace Message

/-- `vec![0u8; size]`. -/
def zeros (size : Nat) : List UInt8 := List.replicate size 0

@[simp] theorem length_zeros (size : Nat) : (zeros size).length = size := List.length_replicate ..

/-- The size in a transfer request: its first eight bytes, or one mebibyte. -/
def requestedSize (message : Message) : UInt64 :=
  if 8 ≤ message.payload.length then UInt64.ofNat (ofLeBytes (message.payload.take 8))
  else 1024 * 1024

/-- `file_size.to_le_bytes()`. -/
def sizeBytes (fileSize : UInt64) : List UInt8 := toLeBytes 8 fileSize.toNat

@[simp] theorem length_sizeBytes (fileSize : UInt64) : (sizeBytes fileSize).length = 8 :=
  toLeBytes_length ..

@[simp] theorem requestedSize_sizeBytes (sessionId : Uuid) (messageType : MessageType)
    (fileSize sequence : UInt64) :
    requestedSize ⟨sessionId, messageType, sizeBytes fileSize, sequence⟩ = fileSize := by
  have width : (sizeBytes fileSize).length = 8 := length_sizeBytes fileSize
  have fits : fileSize.toNat < 256 ^ 8 := fileSize.toNat_lt
  rw [requestedSize, if_pos width.ge]
  simp only [← width, List.take_length]
  rw [sizeBytes, ofLeBytes_toLeBytes_of_lt fits, UInt64.ofNat_toNat]

end Message

/-! ## Chunks -/

/-- The smaller of a drawn size and what is left. -/
theorem chunk_bounds {total done : UInt64} (more : done < total) {size : Nat} (some : 1 ≤ size)
    (fits : size < 2 ^ 64) :
    1 ≤ (min (UInt64.ofNat size) (total - done)).toNat ∧
      (min (UInt64.ofNat size) (total - done)).toNat ≤ size ∧
      done.toNat + (min (UInt64.ofNat size) (total - done)).toNat ≤ total.toNat := by
  have less : done.toNat < total.toNat := UInt64.lt_iff_toNat_lt.mp more
  have left : (total - done).toNat = total.toNat - done.toNat :=
    UInt64.toNat_sub_of_le total done (UInt64.le_iff_toNat_le.mpr less.le)
  have drawn : (UInt64.ofNat size).toNat = size := UInt64.toNat_ofNat_of_lt' fits
  rw [show min (UInt64.ofNat size) (total - done) =
    if UInt64.ofNat size ≤ total - done then UInt64.ofNat size else total - done from rfl]
  split
  · rename_i within
    have bound := UInt64.le_iff_toNat_le.mp within
    omega
  · rename_i beyond
    have bound := mt UInt64.le_iff_toNat_le.mpr beyond
    omega

def payloadBytes (messages : List Message) : Nat := (messages.map (·.payload.length)).sum

@[simp] theorem payloadBytes_nil : payloadBytes [] = 0 := rfl

@[simp] theorem payloadBytes_append (earlier later : List Message) :
    payloadBytes (earlier ++ later) = payloadBytes earlier + payloadBytes later := by
  simp [payloadBytes]

@[simp] theorem payloadBytes_cons (message : Message) (messages : List Message) :
    payloadBytes (message :: messages) = message.payload.length + payloadBytes messages := by
  simp [payloadBytes]

/-- The messages of a type. -/
def ofType (messageType : MessageType) (messages : List Message) : List Message :=
  messages.filter (fun message => message.messageType = messageType)

/-- Chunks of one type, none of them empty, numbered in order from zero. -/
structure Chunked (messageType : MessageType) (chunks : List Message) : Prop where
  typed : ∀ chunk ∈ chunks, chunk.messageType = messageType
  filled : ∀ chunk ∈ chunks, 1 ≤ chunk.payload.length
  numbered : chunks.map (·.sequence) = (List.range chunks.length).map UInt64.ofNat

namespace Chunked

variable {messageType : MessageType} {chunks : List Message}

theorem nil : Chunked messageType [] := ⟨by simp, by simp, rfl⟩

theorem snoc (chunked : Chunked messageType chunks) {chunk : Message}
    (typed : chunk.messageType = messageType) (filled : 1 ≤ chunk.payload.length)
    (next : chunk.sequence = UInt64.ofNat chunks.length) :
    Chunked messageType (chunks ++ [chunk]) where
  typed := by
    intro member within
    rcases List.mem_append.mp within with earlier | last
    · exact chunked.typed member earlier
    · rwa [List.mem_singleton.mp last]
  filled := by
    intro member within
    rcases List.mem_append.mp within with earlier | last
    · exact chunked.filled member earlier
    · rwa [List.mem_singleton.mp last]
  numbered := by
    rw [List.map_append, chunked.numbered, List.length_append, List.length_singleton,
      List.range_succ, List.map_append, List.map_singleton, List.map_singleton, next]

theorem length_le (chunked : Chunked messageType chunks) :
    chunks.length ≤ payloadBytes chunks := by
  rw [payloadBytes, ← List.length_map (·.payload.length)]
  refine List.length_le_sum_of_one_le _ (fun length member => ?_)
  obtain ⟨chunk, within, rfl⟩ := List.mem_map.mp member
  exact chunked.filled chunk within

/-- A 64-bit size has too few chunks for a number to come back. -/
theorem distinct (chunked : Chunked messageType chunks) (small : payloadBytes chunks < 2 ^ 64) :
    (chunks.map (·.sequence)).Nodup := by
  rw [chunked.numbered]
  refine List.Nodup.map_on (fun left leftIn right rightIn same => ?_) List.nodup_range
  have few : chunks.length < UInt64.size := chunked.length_le.trans_lt small
  have values := congrArg UInt64.toNat same
  rwa [UInt64.toNat_ofNat_of_lt' ((List.mem_range.mp leftIn).trans few),
    UInt64.toNat_ofNat_of_lt' ((List.mem_range.mp rightIn).trans few)] at values

theorem ofType_self (chunked : Chunked messageType chunks) : ofType messageType chunks = chunks :=
  List.filter_eq_self.mpr (fun chunk member => by simpa using chunked.typed chunk member)

end Chunked

/-- The counters of a transfer loop that has sent these chunks. -/
structure ChunkCounters (messageType : MessageType) (chunks : List Message)
    (bytes sequence : UInt64) : Prop where
  chunked : Chunked messageType chunks
  total : payloadBytes chunks = bytes.toNat
  next : sequence = UInt64.ofNat chunks.length

namespace ChunkCounters

variable {messageType : MessageType} {chunks : List Message} {bytes sequence : UInt64}

theorem zero : ChunkCounters messageType [] 0 0 := ⟨.nil, rfl, rfl⟩

theorem snoc (counters : ChunkCounters messageType chunks bytes sequence) {chunk : Message}
    {size : UInt64} (typed : chunk.messageType = messageType)
    (sized : chunk.payload.length = size.toNat) (filled : 1 ≤ size.toNat)
    (numbered : chunk.sequence = sequence) (fits : bytes.toNat + size.toNat < 2 ^ 64) :
    ChunkCounters messageType (chunks ++ [chunk]) (bytes + size) (sequence + 1) where
  chunked := counters.chunked.snoc typed (by omega) (numbered.trans counters.next)
  total := by
    rw [payloadBytes_append, counters.total, payloadBytes_cons, payloadBytes_nil, sized,
      UInt64.toNat_add, Nat.mod_eq_of_lt fits]
    omega
  next := by
    rw [counters.next, List.length_append, List.length_singleton, UInt64.ofNat_add]
    rfl

theorem distinct (counters : ChunkCounters messageType chunks bytes sequence) :
    (chunks.map (·.sequence)).Nodup :=
  counters.chunked.distinct (counters.total ▸ bytes.toNat_lt)

end ChunkCounters

end Npt.Shared
