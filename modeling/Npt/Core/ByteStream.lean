import Mathlib.Data.List.Basic

/-!
Contract: reading fixed-size pieces from a byte stream.

A stream is the bytes that have arrived and not been consumed, together with
how it goes on after them: still open, ended, or failed. Reading is the usual
`read_exact`: it hands out the next `count` bytes once they have all arrived,
however they were chunked; a shorter remainder is an error when the stream has
ended and is not decided while it is open.

Owns: streams, the outcome of a read, `readExact` and its exact cases.

Does not own: any message format.
-/

namespace Npt.Core

universe u v

/-- What follows the bytes that have arrived. -/
inductive Ending (Error : Type u) where
  | live
  | eof
  | failed (error : Error)
deriving DecidableEq, Repr

/-- Arrived and unread bytes, and what follows them. -/
structure ByteStream (Error : Type u) where
  bytes : List UInt8
  ending : Ending Error
deriving DecidableEq, Repr

/-- The outcome of a read: not decided yet, an error, or a value together with
the stream that is left. -/
inductive Outcome (Error : Type u) (Value : Type v) where
  | pending
  | error (error : Error)
  | ok (value : Value) (rest : ByteStream Error)
deriving DecidableEq, Repr

namespace ByteStream

variable {Error : Type u}

/-- Hand out the next `count` bytes; `onEof` is the error of a stream that ends
before them. -/
def readExact (onEof : Error) (count : Nat) (stream : ByteStream Error) :
    Outcome Error (List UInt8) :=
  if count ≤ stream.bytes.length then
    .ok (stream.bytes.take count) { stream with bytes := stream.bytes.drop count }
  else
    match stream.ending with
    | .live => .pending
    | .eof => .error onEof
    | .failed error => .error error

variable {onEof : Error} {count : Nat} {stream : ByteStream Error}

theorem readExact_of_le (enough : count ≤ stream.bytes.length) :
    stream.readExact onEof count =
      .ok (stream.bytes.take count) { stream with bytes := stream.bytes.drop count } := by
  simp [readExact, enough]

theorem readExact_append (onEof : Error) (piece rest : List UInt8) (ending : Ending Error) :
    readExact onEof piece.length ⟨piece ++ rest, ending⟩ = .ok piece ⟨rest, ending⟩ := by
  rw [readExact_of_le (by simp)]
  simp

/-- A successful read splits the stream. -/
theorem readExact_eq_ok {piece : List UInt8} {rest : ByteStream Error}
    (read : stream.readExact onEof count = .ok piece rest) :
    stream.bytes = piece ++ rest.bytes ∧ piece.length = count ∧ rest.ending = stream.ending := by
  unfold readExact at read
  split at read
  · rename_i enough
    obtain ⟨rfl, rfl⟩ := Outcome.ok.inj read
    exact ⟨(List.take_append_drop _ _).symm, by simp [enough], rfl⟩
  · split at read <;> simp at read

/-- A read is undecided exactly on an open stream that is too short. -/
theorem readExact_eq_pending_iff :
    stream.readExact onEof count = .pending ↔
      stream.bytes.length < count ∧ stream.ending = .live := by
  unfold readExact
  split
  · rename_i enough
    simp only [reduceCtorEq, false_iff, not_and]
    omega
  · rename_i short
    cases stream.ending <;> simp [Nat.not_le.mp short]

end ByteStream

end Npt.Core
