import Npt.Core.TransitionSystem
import Npt.Shared.LogBuffer

/-!
Contract: the clones of a log buffer (`shared/src/log_buffer.rs`).

Every task logs through a clone and both dashboards read one. A clone copies the
size and the sender to the file writer and shares the queue, which a mutex guards.
`add_entry` sends its entry to the file writer first and takes the mutex then; here
the two make one step, as every call does.

Owns: the calls through the handles, and what every handle reads after any
sequence of them.

Does not own: calls of other tasks between the two halves of `add_entry`, the task
that writes the file, or what the entries say.
-/

namespace Npt.Shared

open Npt.Core

/-- What the clones share: the queue behind the `Arc`, and the entries sent to the
file writer, oldest first. -/
structure LogStore where
  entries : List LogEntry := []
  sent : List LogEntry := []
deriving DecidableEq, Repr

/-- One `LogBuffer` value of the source. -/
structure LogHandle where
  maxSize : Nat
  fileSender : Bool
deriving DecidableEq, Repr

namespace LogHandle

/-- The buffer as the handle has it under the lock. -/
def buffer (handle : LogHandle) (store : LogStore) : LogBuffer where
  entries := store.entries
  maxSize := handle.maxSize

/-- `add_entry` up to its lock. Whether the writer still receives is ignored there. -/
def send (handle : LogHandle) (entry : LogEntry) (store : LogStore) : LogStore :=
  { store with sent := if handle.fileSender then store.sent ++ [entry] else store.sent }

/-- `add_entry` under its lock. -/
def push (handle : LogHandle) (entry : LogEntry) (store : LogStore) : LogStore :=
  { store with entries := ((handle.buffer store).addEntry entry).entries }

/-- `add_entry` as a whole. -/
def addEntry (handle : LogHandle) (entry : LogEntry) (store : LogStore) : LogStore :=
  handle.push entry (handle.send entry store)

def clear (handle : LogHandle) (store : LogStore) : LogStore :=
  { store with entries := (handle.buffer store).clear.entries }

def clone (handle : LogHandle) : LogHandle where
  maxSize := handle.maxSize
  fileSender := handle.fileSender

@[simp] theorem buffer_addEntry (handle : LogHandle) (entry : LogEntry) (store : LogStore) :
    handle.buffer (handle.addEntry entry store) = (handle.buffer store).addEntry entry := rfl

end LogHandle

/-! ## The calls -/

/-- A buffer with all its clones, in the order they were made. -/
structure SharedLog where
  store : LogStore
  handles : List LogHandle
deriving DecidableEq, Repr

inductive LogOperation where
  | clone
  | addEntry (entry : LogEntry)
  | clear
deriving DecidableEq, Repr

/-- An operation and the index of the handle it is called on. -/
structure LogCall where
  handle : Nat
  operation : LogOperation
deriving DecidableEq, Repr

namespace SharedLog

/-- `LogBuffer::new`, or `LogBuffer::new_with_file` where there is a sender. -/
def new (maxSize : Nat) (fileSender : Bool) : SharedLog where
  store := {}
  handles := [{ maxSize := maxSize, fileSender := fileSender }]

def perform (log : SharedLog) (operation : LogOperation) (handle : LogHandle) : SharedLog :=
  match operation with
  | .clone => { log with handles := log.handles ++ [handle.clone] }
  | .addEntry entry => { log with store := handle.addEntry entry log.store }
  | .clear => { log with store := handle.clear log.store }

def step (log : SharedLog) (call : LogCall) : Option SharedLog :=
  log.handles[call.handle]?.map (log.perform call.operation)

end SharedLog

def sharedLog : Machine SharedLog LogCall := ⟨SharedLog.step⟩

/-! ## The history of calls -/

/-- The entry that an operation adds. -/
def LogOperation.added : LogOperation → Option LogEntry
  | .addEntry entry => some entry
  | .clone | .clear => none

def LogOperation.isClear : LogOperation → Bool
  | .clear => true
  | .clone | .addEntry _ => false

/-- All entries that the calls added, in the order of the calls. -/
def addedBy (calls : List LogCall) : List LogEntry :=
  calls.filterMap (fun call => call.operation.added)

/-- The entries added by the calls after the last `clear`. -/
def addedSinceClear (calls : List LogCall) : List LogEntry :=
  addedBy (calls.rtakeWhile (fun call => !call.operation.isClear))

section History

variable (calls : List LogCall) (handle : Nat) (entry : LogEntry)

@[simp] theorem addedBy_concat (call : LogCall) :
    addedBy (calls ++ [call]) = addedBy calls ++ call.operation.added.toList := by
  cases added : call.operation.added <;> simp [addedBy, List.filterMap_append, added]

@[simp] theorem addedSinceClear_clone :
    addedSinceClear (calls ++ [⟨handle, .clone⟩]) = addedSinceClear calls := by
  rw [addedSinceClear, List.rtakeWhile_concat_pos _ _ _ rfl]
  simp [addedSinceClear, LogOperation.added]

@[simp] theorem addedSinceClear_addEntry :
    addedSinceClear (calls ++ [⟨handle, .addEntry entry⟩]) = addedSinceClear calls ++ [entry] := by
  rw [addedSinceClear, List.rtakeWhile_concat_pos _ _ _ rfl]
  simp [addedSinceClear, LogOperation.added]

@[simp] theorem addedSinceClear_clear : addedSinceClear (calls ++ [⟨handle, .clear⟩]) = [] := by
  rw [addedSinceClear, List.rtakeWhile_concat_neg _ _ _ (by simp [LogOperation.isClear])]
  rfl

end History

/-! ## What the handles read -/

/-- The shared buffer after the calls: its clones are equal, and its queue is the
one that took the entries since the last `clear`. -/
structure SharedLog.After (original : LogHandle) (calls : List LogCall) (log : SharedLog) :
    Prop where
  handles : ∀ handle ∈ log.handles, handle = original
  entries : log.store.entries = (addedSinceClear calls).foldl (enqueue original.maxSize) []

section Calls

variable {original : LogHandle} {calls : List LogCall} {log next : SharedLog} {call : LogCall}

/-- A call is made through one of the handles. -/
theorem SharedLog.exists_handle_of_step (taken : log.step call = some next) :
    ∃ handle ∈ log.handles, next = log.perform call.operation handle := by
  obtain ⟨handle, held, rfl⟩ := Option.map_eq_some_iff.mp taken
  exact ⟨handle, List.mem_of_getElem? held, rfl⟩

theorem SharedLog.After.step (before : log.After original calls)
    (taken : log.step call = some next) : next.After original (calls ++ [call]) := by
  obtain ⟨handle, held, rfl⟩ := exists_handle_of_step taken
  obtain rfl := before.handles handle held
  obtain ⟨index, operation⟩ := call
  cases operation with
  | clone =>
      refine ⟨?_, ?_⟩
      · intro other member
        rcases List.mem_append.mp member with earlier | new
        · exact before.handles other earlier
        · exact List.mem_singleton.mp new
      · rw [addedSinceClear_clone]
        exact before.entries
  | addEntry entry =>
      refine ⟨before.handles, ?_⟩
      rw [addedSinceClear_addEntry, List.foldl_append, ← before.entries]
      rfl
  | clear =>
      refine ⟨before.handles, ?_⟩
      rw [addedSinceClear_clear]
      rfl

end Calls

section Runs

variable {maxSize : Nat} {fileSender : Bool} {trace : List (SharedLog × LogCall)} {log : SharedLog}

/-- The calls of a run. -/
def callsOf (trace : List (SharedLog × LogCall)) : List LogCall := trace.map Prod.snd

theorem SharedLog.after_of_run (run : sharedLog.Run (SharedLog.new maxSize fileSender) trace log) :
    log.After ⟨maxSize, fileSender⟩ (callsOf trace) := by
  refine run.history (fun trace log => log.After ⟨maxSize, fileSender⟩ (callsOf trace)) ?_ ?_
  · exact ⟨fun handle member => List.mem_singleton.mp member, rfl⟩
  · intro trace state call next _ before taken
    rw [callsOf, List.map_append]
    exact before.step taken

/-- Every handle has the size of the first one and reads the last `maxSize` entries
since the last `clear`. -/
theorem handle_reads_last_added (positive : 1 ≤ maxSize)
    (run : sharedLog.Run (SharedLog.new maxSize fileSender) trace log)
    {handle : LogHandle} (held : handle ∈ log.handles) :
    let added := addedSinceClear (callsOf trace)
    let buffer := handle.buffer log.store
    buffer.maxSize = maxSize ∧
      buffer.getEntries = added.rtake (min maxSize added.length) ∧
      ∀ count, buffer.getLatest count = buffer.getEntries.rtake (min count buffer.len) := by
  intro added buffer
  have after := SharedLog.after_of_run run
  refine ⟨congrArg LogHandle.maxSize (after.handles handle held), ?_, buffer.getLatest_eq_rtake⟩
  calc buffer.getEntries
      = added.foldl (enqueue maxSize) [] := after.entries
    _ = added.rtake maxSize := by rw [foldl_enqueue, max_eq_right positive]
    _ = added.rtake (min maxSize added.length) := (rtake_min_length added maxSize).symm

end Runs

/-- Three entries through a buffer of two, from two handles, and one before a `clear`. -/
def clonedCalls : List LogCall :=
  [⟨0, .addEntry ⟨1, .info, "server", "up"⟩⟩, ⟨0, .clone⟩, ⟨1, .clear⟩,
    ⟨1, .addEntry ⟨2, .info, "server", "a"⟩⟩, ⟨0, .addEntry ⟨3, .warn, "server", "b"⟩⟩,
    ⟨1, .addEntry ⟨4, .info, "server", "c"⟩⟩]

theorem handle_reads_last_added_cloned :
    ∃ log, sharedLog.play (SharedLog.new 2 true) clonedCalls = some log ∧
      (LogHandle.buffer ⟨2, true⟩ log.store).getEntries.map LogEntry.message = ["b", "c"] ∧
      ((LogHandle.buffer ⟨2, true⟩ log.store).getLatest 1).map LogEntry.message = ["c"] := by
  obtain ⟨log, played⟩ := Option.isSome_iff_exists.mp (show
    (sharedLog.play (SharedLog.new 2 true) clonedCalls).isSome = true by decide +kernel)
  have handles : log.handles = [⟨2, true⟩, ⟨2, true⟩] := by
    have known : (sharedLog.play (SharedLog.new 2 true) clonedCalls).map SharedLog.handles =
        some [⟨2, true⟩, ⟨2, true⟩] := by decide +kernel
    simpa [played] using known
  have added : addedSinceClear (callsOf (sharedLog.trace (SharedLog.new 2 true) clonedCalls)) =
      [⟨2, .info, "server", "a"⟩, ⟨3, .warn, "server", "b"⟩, ⟨4, .info, "server", "c"⟩] := by
    decide +kernel
  obtain ⟨_, entries, latest⟩ := handle_reads_last_added (by decide)
    (Machine.run_of_play played) (show ⟨2, true⟩ ∈ log.handles by simp [handles])
  rw [added] at entries
  refine ⟨log, played, ?_, ?_⟩
  · rw [entries]
    rfl
  · rw [latest, LogBuffer.len, ← LogBuffer.getEntries, entries]
    rfl

end Npt.Shared
