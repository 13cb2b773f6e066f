import Npt.Core.BoundedQueue

/-!
Contract: the log buffer of the dashboards (`shared/src/log_buffer.rs`).

A buffer is a bounded queue of entries, oldest first. Instants are nanoseconds.

Owns: the entries with their symbol and colour, and the operations on the queue as
one handle makes them.

Does not own: the clones of a buffer, the file writer or the tracing subscriber.
-/

namespace Npt.Shared

open Npt.Core

/-- `tracing::Level`. -/
inductive Level where
  | error
  | warn
  | info
  | debug
  | trace
deriving DecidableEq, Repr

structure LogEntry where
  timestamp : Nat
  level : Level
  target : String
  message : String
deriving DecidableEq, Repr

def LogEntry.levelColor (entry : LogEntry) : Nat × Nat × Nat :=
  match entry.level with
  | .error => (255, 0, 0)
  | .warn => (255, 165, 0)
  | .info => (0, 255, 0)
  | .debug => (173, 216, 230)
  | .trace => (128, 128, 128)

def LogEntry.levelSymbol (entry : LogEntry) : String :=
  match entry.level with
  | .error => "❌"
  | .warn => "⚠️ "
  | .info => "ℹ️ "
  | .debug => "🐛"
  | .trace => "🔍"

structure LogBuffer where
  entries : List LogEntry := []
  maxSize : Nat
deriving DecidableEq, Repr

namespace LogBuffer

def getEntries (buffer : LogBuffer) : List LogEntry := buffer.entries

def len (buffer : LogBuffer) : Nat := buffer.entries.length

def isEmpty (buffer : LogBuffer) : Bool := buffer.entries.isEmpty

/-- `add_entry` without its message to the file writer. -/
def addEntry (buffer : LogBuffer) (entry : LogEntry) : LogBuffer :=
  { buffer with entries := enqueue buffer.maxSize buffer.entries entry }

/-- `entries.iter().rev().take(count).rev()`. -/
def getLatest (buffer : LogBuffer) (count : Nat) : List LogEntry :=
  (buffer.entries.reverse.take count).reverse

def clear (buffer : LogBuffer) : LogBuffer := { buffer with entries := [] }

variable (buffer : LogBuffer) (entry : LogEntry)

theorem getLatest_eq_rtake (count : Nat) :
    buffer.getLatest count = buffer.getEntries.rtake (min count buffer.len) := by
  rw [len, ← getEntries, rtake_min_length, List.rtake_eq_reverse_take_reverse, getLatest,
    getEntries]

/-- The new entry is the newest, whatever was let go of. -/
@[simp] theorem getLatest_one_addEntry : (buffer.addEntry entry).getLatest 1 = [entry] := by
  simp [getLatest, addEntry, enqueue]

end LogBuffer

end Npt.Shared
