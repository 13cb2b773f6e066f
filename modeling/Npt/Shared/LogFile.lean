import Mathlib.Data.List.Perm.Basic
import Npt.Core.PrefixCode
import Npt.Core.Utf8
import Npt.Shared.SharedLog

/-!
Contract: the log file (`LogBuffer::new_with_file` and its writer task in
`shared/src/log_buffer.rs`).

The task opens the file for appending and then writes a line for each entry it
receives. A failed write leaves the beginning of its line behind, and the task
goes on. Where the file does not open, the task returns and the file stays.
`add_entry` sends its entry to the task before it locks the queue, so that two calls
may reach the file in one order and the queue in the other.

Owns: the lines, the task beside the calls through the clones, what the queue and
the file hold after any run, and when the entries can be read back from the file.

Does not own: the clock and its format, or the directory of the file. The
clones live as long as the process, and nobody else writes the file.
-/

namespace Npt.Shared

open Npt.Core

/-! ## The task -/

/-- A level as it is displayed. -/
def Level.name : Level → String
  | .error => "ERROR"
  | .warn => "WARN"
  | .info => "INFO"
  | .debug => "DEBUG"
  | .trace => "TRACE"

/-- The line of an entry. `stamp` formats an instant with `%Y-%m-%d %H:%M:%S%.3f`. -/
def LogEntry.line (stamp : Nat → String) (entry : LogEntry) : String :=
  "[" ++ stamp entry.timestamp ++ "] [" ++ entry.level.name ++ "] [" ++ entry.target ++ "] " ++
    entry.message ++ "\n"

inductive WriterPhase where
  | opening
  | writing
  | returned
deriving DecidableEq, Repr

/-- A call of `add_entry` that has sent its entry and not yet had the lock. -/
structure Adding where
  handle : Nat
  entry : LogEntry
deriving DecidableEq, Repr

/-- The clones of a buffer with the calls of `add_entry` under way, and the writer task. -/
structure LogProcess where
  log : SharedLog
  adding : List Adding := []
  phase : WriterPhase := .opening
  /-- The number of entries that the task has received. -/
  received : Nat := 0
  file : List UInt8
deriving DecidableEq, Repr

inductive LogProcessLabel where
  | clone (handle : Nat)
  | clear (handle : Nat)
  /-- `add_entry` through a handle, up to its lock. -/
  | send (handle : Nat) (entry : LogEntry)
  /-- One of the calls under way has the lock. -/
  | push (index : Nat)
  | opened
  | openFailed
  /-- The next entry is received, and its line written, or as many bytes of it before
  the write fails. -/
  | write (failure : Option Nat)
deriving DecidableEq, Repr

/-- What a write leaves in the file, unless it cannot fail so late. -/
def writeAll (line : List UInt8) : Option Nat → Option (List UInt8)
  | none => some line
  | some bytes => if bytes < line.length then some (line.take bytes) else none

namespace LogProcess

variable (stamp : Nat → String)

def step (process : LogProcess) : LogProcessLabel → Option LogProcess
  | .clone handle =>
      (process.log.step ⟨handle, .clone⟩).map (fun log => { process with log := log })
  | .clear handle =>
      (process.log.step ⟨handle, .clear⟩).map (fun log => { process with log := log })
  | .send handle entry =>
      process.log.handles[handle]?.map (fun buffer => { process with
        log := { process.log with store := buffer.send entry process.log.store }
        adding := process.adding ++ [⟨handle, entry⟩] })
  | .push index =>
      process.adding[index]?.bind (fun call =>
        process.log.handles[call.handle]?.map (fun buffer => { process with
          log := { process.log with store := buffer.push call.entry process.log.store }
          adding := process.adding.eraseIdx index }))
  | .opened => if process.phase = .opening then some { process with phase := .writing } else none
  | .openFailed =>
      if process.phase = .opening then some { process with phase := .returned } else none
  | .write failure =>
      if process.phase = .writing then
        process.log.store.sent[process.received]?.bind (fun entry =>
          (writeAll (utf8 (entry.line stamp)) failure).map (fun written => { process with
            received := process.received + 1
            file := process.file ++ written }))
      else none

/-- `new_with_file`, on a file with some contents. -/
def new (maxSize : Nat) (existing : List UInt8) : LogProcess where
  log := .new maxSize true
  file := existing

end LogProcess

def logProcess (stamp : Nat → String) : Machine LogProcess LogProcessLabel :=
  ⟨LogProcess.step stamp⟩

/-! ## The queue and the file after a run -/

/-- The call that a step has the lock for. -/
def LogProcess.locked (process : LogProcess) : LogProcessLabel → Option LogCall
  | .clone handle => some ⟨handle, .clone⟩
  | .clear handle => some ⟨handle, .clear⟩
  | .push index => process.adding[index]?.map (fun call => ⟨call.handle, .addEntry call.entry⟩)
  | .send _ _ | .opened | .openFailed | .write _ => none

def LogProcessLabel.entrySent : LogProcessLabel → Option LogEntry
  | .send _ entry => some entry
  | _ => none

def LogProcessLabel.writeEnded : LogProcessLabel → Option (Option Nat)
  | .write failure => some failure
  | _ => none

/-- The calls of a run through the clones, in the order in which they had the lock. -/
def callsIn (trace : List (LogProcess × LogProcessLabel)) : List LogCall :=
  trace.filterMap (fun entry => entry.1.locked entry.2)

/-- The entries sent to the task, in the order of the channel. -/
def sentIn (trace : List (LogProcess × LogProcessLabel)) : List LogEntry :=
  trace.filterMap (fun entry => entry.2.entrySent)

/-- How the writes of a run ended. -/
def writesIn (trace : List (LogProcess × LogProcessLabel)) : List (Option Nat) :=
  trace.filterMap (fun entry => entry.2.writeEnded)

/-- What a write leaves in the file. -/
def writtenOf (stamp : Nat → String) (entry : LogEntry) (failure : Option Nat) : List UInt8 :=
  match failure with
  | none => utf8 (entry.line stamp)
  | some bytes => (utf8 (entry.line stamp)).take bytes

/-- The queue is that of a shared log whose calls are made when they have the lock, and the
file has a line for each entry that was received, in the order of the channel. The entries
sent are those of the calls that have had the lock and of those under way. -/
structure Logged (stamp : Nat → String) (maxSize : Nat) (existing : List UInt8)
    (trace : List (LogProcess × LogProcessLabel)) (process : LogProcess) : Prop where
  queue : ∃ own log, sharedLog.Run (SharedLog.new maxSize true) own log ∧
    callsOf own = callsIn trace ∧ log.handles = process.log.handles ∧
    log.store.entries = process.log.store.entries
  sent : process.log.store.sent = sentIn trace
  pushed : (sentIn trace).Perm (addedBy (callsIn trace) ++ process.adding.map Adding.entry)
  received : process.received = (writesIn trace).length
  enough : (writesIn trace).length ≤ (sentIn trace).length
  file : process.file = existing ++
    (List.zipWith (writtenOf stamp) (sentIn trace) (writesIn trace)).flatten

section Runs

variable {stamp : Nat → String} {maxSize : Nat} {existing : List UInt8}
  {trace : List (LogProcess × LogProcessLabel)} {process next : LogProcess}
  {label : LogProcessLabel}

theorem writeAll_eq {entry : LogEntry} {failure : Option Nat} {written : List UInt8}
    (done : writeAll (utf8 (entry.line stamp)) failure = some written) :
    written = writtenOf stamp entry failure := by
  cases failure with
  | none => exact (Option.some.inj done).symm
  | some bytes =>
      simp only [writeAll] at done
      split at done
      · exact (Option.some.inj done).symm
      · simp at done

theorem zipWith_append_left {Left Right Image : Type} (image : Left → Right → Image)
    {lefts : List Left} {rights : List Right} (enough : rights.length ≤ lefts.length)
    (more : List Left) :
    List.zipWith image (lefts ++ more) rights = List.zipWith image lefts rights := by
  induction lefts generalizing rights with
  | nil => simp [List.length_eq_zero_iff.mp (Nat.le_zero.mp enough)]
  | cons left lefts inductionHypothesis =>
      cases rights with
      | nil => rfl
      | cons right rights =>
          simp [inductionHypothesis (Nat.le_of_succ_le_succ enough)]

theorem zipWith_snoc {Left Right Image : Type} (image : Left → Right → Image) {lefts : List Left}
    {rights : List Right} {left : Left} (next : lefts[rights.length]? = some left) (right : Right) :
    List.zipWith image lefts (rights ++ [right]) =
      List.zipWith image lefts rights ++ [image left right] := by
  induction rights generalizing lefts with
  | nil =>
      cases lefts with
      | nil => simp at next
      | cons first lefts =>
          obtain rfl : first = left := by simpa using next
          simp
  | cons other rights inductionHypothesis =>
      cases lefts with
      | nil => simp at next
      | cons first lefts => simp [inductionHypothesis (by simpa using next)]

section Snoc

variable (trace : List (LogProcess × LogProcessLabel)) (process : LogProcess)
  (label : LogProcessLabel)

@[simp] theorem callsIn_snoc :
    callsIn (trace ++ [(process, label)]) = callsIn trace ++ (process.locked label).toList := by
  cases locked : process.locked label <;> simp [callsIn, locked]

@[simp] theorem sentIn_snoc :
    sentIn (trace ++ [(process, label)]) = sentIn trace ++ label.entrySent.toList := by
  cases sent : label.entrySent <;> simp [sentIn, sent]

@[simp] theorem writesIn_snoc :
    writesIn (trace ++ [(process, label)]) = writesIn trace ++ label.writeEnded.toList := by
  cases ended : label.writeEnded <;> simp [writesIn, ended]

end Snoc

/-- Every handle of the process has the sender. -/
theorem Logged.handles (logged : Logged stamp maxSize existing trace process) :
    ∀ handle ∈ process.log.handles, handle = ⟨maxSize, true⟩ := by
  obtain ⟨own, log, run, -, handles, -⟩ := logged.queue
  rw [← handles]
  exact (SharedLog.after_of_run run).handles

/-- A call that has the lock is one of the shared log. -/
theorem Logged.queue_step (before : Logged stamp maxSize existing trace process)
    {call : LogCall} {handle : LogHandle} {after : SharedLog}
    (held : process.log.handles[call.handle]? = some handle)
    (locked : process.locked label = some call)
    (handles : after.handles = (process.log.perform call.operation handle).handles)
    (entries : after.store.entries = (process.log.perform call.operation handle).store.entries) :
    ∃ own log, sharedLog.Run (SharedLog.new maxSize true) own log ∧
      callsOf own = callsIn (trace ++ [(process, label)]) ∧ log.handles = after.handles ∧
      log.store.entries = after.store.entries := by
  obtain ⟨own, log, run, calls, sameHandles, sameEntries⟩ := before.queue
  have taken : sharedLog.step log call = some (log.perform call.operation handle) := by
    simp [sharedLog, SharedLog.step, sameHandles, held]
  refine ⟨_, _, run.snoc taken, ?_, ?_, ?_⟩
  · rw [callsIn_snoc, locked, ← calls]
    simp [callsOf]
  · rw [handles]
    cases call.operation <;> simp [SharedLog.perform, sameHandles]
  · rw [entries]
    cases call.operation <;>
      simp [SharedLog.perform, LogHandle.addEntry, LogHandle.push, LogHandle.send, LogHandle.clear,
        LogHandle.buffer, sameEntries]

/-- A step that neither has the lock nor sends, receives or writes. -/
theorem Logged.of_same (before : Logged stamp maxSize existing trace process)
    (log : next.log = process.log) (adding : next.adding = process.adding)
    (received : next.received = process.received) (file : next.file = process.file)
    (unlocked : process.locked label = none) (unsent : label.entrySent = none)
    (unwritten : label.writeEnded = none) :
    Logged stamp maxSize existing (trace ++ [(process, label)]) next := by
  refine ⟨?_, ?_, ?_, ?_, ?_, ?_⟩ <;>
    simp only [callsIn_snoc, sentIn_snoc, writesIn_snoc, unlocked, unsent, unwritten,
      Option.toList_none, List.append_nil, log, adding, received, file]
  · exact before.queue
  · exact before.sent
  · exact before.pushed
  · exact before.received
  · exact before.enough
  · exact before.file

theorem Logged.step (before : Logged stamp maxSize existing trace process)
    (taken : (logProcess stamp).step process label = some next) :
    Logged stamp maxSize existing (trace ++ [(process, label)]) next := by
  cases label with
  | clone handle | clear handle =>
      obtain ⟨log, called, rfl⟩ := Option.map_eq_some_iff.mp taken
      obtain ⟨buffer, held, rfl⟩ := Option.map_eq_some_iff.mp called
      refine ⟨before.queue_step held rfl rfl rfl, ?_, ?_, ?_, ?_, ?_⟩ <;>
        simp only [callsIn_snoc, sentIn_snoc, writesIn_snoc, addedBy_concat, LogProcess.locked,
          LogProcessLabel.entrySent, LogProcessLabel.writeEnded, LogOperation.added,
          Option.toList_none, Option.toList_some, List.append_nil]
      · exact before.sent
      · exact before.pushed
      · exact before.received
      · exact before.enough
      · exact before.file
  | send handle entry =>
      obtain ⟨buffer, held, rfl⟩ := Option.map_eq_some_iff.mp taken
      obtain rfl := before.handles buffer (List.mem_of_getElem? held)
      refine ⟨?_, ?_, ?_, ?_, ?_, ?_⟩ <;>
        simp only [callsIn_snoc, sentIn_snoc, writesIn_snoc, LogProcess.locked,
          LogProcessLabel.entrySent, LogProcessLabel.writeEnded, Option.toList_none,
          Option.toList_some, List.append_nil]
      · exact before.queue
      · simp [LogHandle.send, before.sent]
      · rw [List.map_append, ← List.append_assoc]
        exact before.pushed.append_right _
      · exact before.received
      · rw [List.length_append]
        exact before.enough.trans (Nat.le_add_right _ _)
      · rw [zipWith_append_left _ before.enough]
        exact before.file
  | push index =>
      obtain ⟨call, found, rest⟩ := Option.bind_eq_some_iff.mp taken
      obtain ⟨buffer, held, rfl⟩ := Option.map_eq_some_iff.mp rest
      have locked : process.locked (.push index) = some ⟨call.handle, .addEntry call.entry⟩ := by
        simp [LogProcess.locked, found]
      refine ⟨before.queue_step held locked rfl rfl, ?_, ?_, ?_, ?_, ?_⟩ <;>
        simp only [callsIn_snoc, sentIn_snoc, writesIn_snoc, locked, addedBy_concat,
          LogProcessLabel.entrySent, LogProcessLabel.writeEnded, LogOperation.added,
          Option.toList_none, Option.toList_some, List.append_nil]
      · exact before.sent
      · -- The call leaves those under way for those that have had the lock.
        obtain ⟨inside, rfl⟩ := List.getElem?_eq_some_iff.mp found
        have erased := (List.getElem_cons_eraseIdx_perm inside).symm.map Adding.entry
        refine before.pushed.trans ((erased.append_left _).trans ?_)
        rw [List.map_cons, List.append_assoc]
        exact .refl _
      · exact before.received
      · exact before.enough
      · exact before.file
  | opened | openFailed =>
      simp only [logProcess, LogProcess.step] at taken
      split at taken
      · obtain rfl := Option.some.inj taken
        exact before.of_same rfl rfl rfl rfl rfl rfl rfl
      · simp at taken
  | write failure =>
      simp only [logProcess, LogProcess.step] at taken
      split at taken
      · obtain ⟨entry, received, rest⟩ := Option.bind_eq_some_iff.mp taken
        obtain ⟨written, done, rfl⟩ := Option.map_eq_some_iff.mp rest
        rw [before.sent, before.received] at received
        refine ⟨?_, ?_, ?_, ?_, ?_, ?_⟩ <;>
          simp only [callsIn_snoc, sentIn_snoc, writesIn_snoc, LogProcess.locked,
            LogProcessLabel.entrySent, LogProcessLabel.writeEnded, Option.toList_none,
            Option.toList_some, List.append_nil]
        · exact before.queue
        · exact before.sent
        · exact before.pushed
        · rw [List.length_append, ← before.received]
          rfl
        · rw [List.length_append]
          exact (List.getElem?_eq_some_iff.mp received).1
        · rw [zipWith_snoc _ received, List.flatten_append, ← List.append_assoc, ← before.file,
            ← writeAll_eq done]
          simp
      · simp at taken

theorem logged_of_run (run : (logProcess stamp).Run (.new maxSize existing) trace process) :
    Logged stamp maxSize existing trace process := by
  refine run.history (Logged stamp maxSize existing) ?_ (fun _ _ _ _ _ before taken =>
    before.step taken)
  exact ⟨⟨[], _, .nil, rfl, rfl, rfl⟩, rfl, .nil, rfl, Nat.le_refl _,
    (List.append_nil existing).symm⟩

/-- The lines of the entries whose writes have not failed. -/
theorem flatten_zipWith_writtenOf {entries : List LogEntry} {writes : List (Option Nat)}
    (unfailed : ∀ failure ∈ writes, failure = none) :
    (List.zipWith (writtenOf stamp) entries writes).flatten =
      (entries.take writes.length).flatMap (fun entry => utf8 (entry.line stamp)) := by
  induction entries generalizing writes with
  | nil => simp
  | cons entry entries inductionHypothesis =>
      cases writes with
      | nil => rfl
      | cons failure writes =>
          obtain rfl := unfailed failure (by simp)
          have rest := inductionHypothesis
            (fun other member => unfailed other (List.mem_cons_of_mem _ member))
          simp [writtenOf, rest]

/-- The label is a step of the task, and no failure. -/
def IsProgress (label : LogProcessLabel) : Prop := label = .opened ∨ label = .write none

/-- Once the file is open, the task can write all that was sent. -/
theorem exists_drained (writing : process.phase = .writing) :
    ∃ last, (logProcess stamp).ReachableBy IsProgress process last ∧ last.log = process.log ∧
      last.file = process.file ++ (process.log.store.sent.drop process.received).flatMap
        (fun entry => utf8 (entry.line stamp)) := by
  generalize pending : process.log.store.sent.drop process.received = entries
  induction entries generalizing process with
  | nil => exact ⟨process, .refl process, rfl, by simp⟩
  | cons entry entries inductionHypothesis =>
      have next : process.log.store.sent[process.received]? = some entry := by
        rw [← List.head?_drop, pending, List.head?_cons]
      let after : LogProcess := { process with
        received := process.received + 1
        file := process.file ++ utf8 (entry.line stamp) }
      have taken : (logProcess stamp).step process (.write none) = some after := by
        simp [logProcess, LogProcess.step, writing, next, writeAll, after]
      have rest : after.log.store.sent.drop after.received = entries := by
        show process.log.store.sent.drop (process.received + 1) = entries
        rw [← List.tail_drop, pending, List.tail_cons]
      obtain ⟨last, later, log, file⟩ := @inductionHypothesis after writing rest
      refine ⟨last, .trans (.single taken (Or.inr rfl)) later, log, ?_⟩
      rw [file, List.flatMap_cons, ← List.append_assoc]

/-- For every order of calls, task steps and failing writes, with other steps between the
two halves of an `add_entry`: the queue is what the calls make of it in the order in which
they have the lock; the file is what it was before and, for each entry received, in the
order of the channel, its line or the beginning of it where the write failed; neither
eviction nor `clear` takes an entry from it. Both orders are of the same entries, but for
those whose call has not had the lock. Unless the file did not open, the task can still
write a line for each entry it has not received. -/
theorem log_file_exact (run : (logProcess stamp).Run (.new maxSize existing) trace process) :
    (∀ handle ∈ process.log.handles, handle = ⟨maxSize, true⟩) ∧
      process.log.store.entries = (addedSinceClear (callsIn trace)).foldl (enqueue maxSize) [] ∧
      (sentIn trace).Perm (addedBy (callsIn trace) ++ process.adding.map Adding.entry) ∧
      (writesIn trace).length ≤ (sentIn trace).length ∧
      process.file = existing ++
        (List.zipWith (writtenOf stamp) (sentIn trace) (writesIn trace)).flatten ∧
      (process.phase ≠ .returned → ∃ last,
        (logProcess stamp).ReachableBy IsProgress process last ∧ last.log = process.log ∧
          last.file = process.file ++ ((sentIn trace).drop (writesIn trace).length).flatMap
            (fun entry => utf8 (entry.line stamp))) := by
  have logged := logged_of_run run
  refine ⟨logged.handles, ?_, logged.pushed, logged.enough, logged.file, fun there => ?_⟩
  · obtain ⟨own, log, ownRun, calls, -, entries⟩ := logged.queue
    rw [← entries, ← calls]
    exact (SharedLog.after_of_run ownRun).entries
  · rw [← logged.sent, ← logged.received]
    cases phase : process.phase with
    | writing => exact exists_drained phase
    | opening =>
        have taken : (logProcess stamp).step process .opened =
            some { process with phase := .writing } := by
          simp [logProcess, LogProcess.step, phase]
        obtain ⟨last, later, log, file⟩ :=
          @exists_drained stamp { process with phase := .writing } rfl
        exact ⟨last, .trans (.single taken (Or.inl rfl)) later, log, file⟩
    | returned => exact absurd phase there

end Runs

/-- Two entries through two clones, the second of which has the lock first, a `clear`
between them, and a write that fails. -/
def cloneLabels : List LogProcessLabel :=
  [.clone 0, .send 1 ⟨0, .warn, "a", "b"⟩, .send 0 ⟨0, .info, "c", "d"⟩, .opened, .push 1,
    .clear 0, .write (some 3), .push 0]

def shortStamp (_ : Nat) : String := "0"

/-- The queue has the entry that the file has first, what is cleared stays in the file, and
the last line can still be written. -/
theorem log_file_exact_cloned :
    ∃ process, (logProcess shortStamp).play (.new 2 []) cloneLabels = some process ∧
      process.log.store.entries = [⟨0, .warn, "a", "b"⟩] ∧
      process.file = (utf8 "[0] [WARN] [a] b\n").take 3 ∧
      ∃ last, (logProcess shortStamp).ReachableBy IsProgress process last ∧
        last.file = (utf8 "[0] [WARN] [a] b\n").take 3 ++ utf8 "[0] [INFO] [c] d\n" := by
  obtain ⟨process, played, facts⟩ := Option.map_eq_some_iff.mp (show
    ((logProcess shortStamp).play (.new 2 []) cloneLabels).map
      (fun process => (process.file, process.phase)) =
        some ((utf8 "[0] [WARN] [a] b\n").take 3, .writing) by decide +kernel)
  obtain ⟨file, phase⟩ := Prod.mk.inj facts
  obtain ⟨_, entries, _, _, _, drains⟩ := log_file_exact (Machine.run_of_play played)
  obtain ⟨last, reached, _, more⟩ := drains (by rw [phase]; decide)
  refine ⟨process, played, ?_, file, last, reached, ?_⟩
  · rw [entries]
    decide +kernel
  · rw [more, file]
    decide +kernel

/-! ## Reading the file back -/

/-- The entry has neither a line break in its texts nor a bracket in its target. -/
structure LogEntry.OneLine (entry : LogEntry) : Prop where
  message : '\n' ∉ entry.message.toList
  targetLine : '\n' ∉ entry.target.toList
  target : ']' ∉ entry.target.toList

/-- What a line shows of its entry. -/
def LogEntry.shown (stamp : Nat → String) (entry : LogEntry) : String × Level × String × String :=
  (stamp entry.timestamp, entry.level, entry.target, entry.message)

section Reading

variable {stamp : Nat → String}

theorem Level.name_injective : Function.Injective Level.name := by
  intro left right same
  cases left <;> cases right <;> first | rfl | simp [Level.name] at same

theorem Level.name_plain (level : Level) : ']' ∉ level.name.toList ∧ '\n' ∉ level.name.toList := by
  cases level <;> decide

theorem utf8_injective : Function.Injective utf8 := by
  intro left right same
  rw [utf8, utf8, Utf8.toList_eq, Utf8.toList_eq, Array.toList_inj] at same
  exact String.toByteArray_inj.mp (ByteArray.ext same)

theorem LogEntry.toList_line (entry : LogEntry) :
    (entry.line stamp).toList = '[' :: ((stamp entry.timestamp).toList ++ ']' :: ' ' :: '[' ::
      (entry.level.name.toList ++ ']' :: ' ' :: '[' :: (entry.target.toList ++ ']' :: ' ' ::
        (entry.message.toList ++ ['\n'])))) := by
  simp [LogEntry.line]

/-- A line says what its entry is. -/
theorem shown_eq_of_line {left right : LogEntry} (stamps : ∀ now, ']' ∉ (stamp now).toList)
    (leftTarget : ']' ∉ left.target.toList) (rightTarget : ']' ∉ right.target.toList)
    (same : left.line stamp = right.line stamp) : left.shown stamp = right.shown stamp := by
  have texts := congrArg String.toList same
  rw [LogEntry.toList_line, LogEntry.toList_line, List.cons.injEq] at texts
  obtain ⟨stampSame, texts⟩ := eq_of_append_mark (stamps _) (stamps _) texts.2
  obtain ⟨level, texts⟩ := eq_of_append_mark (Level.name_plain _).1 (Level.name_plain _).1
    (List.cons.inj (List.cons.inj texts).2).2
  obtain ⟨target, texts⟩ := eq_of_append_mark leftTarget rightTarget
    (List.cons.inj (List.cons.inj texts).2).2
  have message := List.append_cancel_right (List.cons.inj texts).2
  rw [String.toList_inj] at stampSame level target message
  rw [LogEntry.shown, LogEntry.shown, stampSame, Level.name_injective level, target, message]

/-- The line of an entry on one line ends at its first line break. -/
theorem line_mem_markedWords {entry : LogEntry} (stamps : ∀ now, '\n' ∉ (stamp now).toList)
    (oneLine : entry.OneLine) : utf8 (entry.line stamp) ∈ markedWords (UInt8.ofNat '\n'.toNat) := by
  let front := "[" ++ stamp entry.timestamp ++ "] [" ++ entry.level.name ++ "] [" ++
    entry.target ++ "] " ++ entry.message
  have line : entry.line stamp = front ++ "\n" := rfl
  refine ⟨utf8 front, ?_, ?_⟩
  · rw [line, Utf8.utf8_append, show utf8 "\n" = [UInt8.ofNat '\n'.toNat] by decide +kernel]
  · rw [Utf8.mem_utf8_iff (by decide)]
    simp [front, stamps, (Level.name_plain _).2, oneLine.message, oneLine.targetLine]

/-- Entries on one line each are read back from their lines. -/
theorem shown_eq_of_lines {lefts rights : List LogEntry}
    (stamps : ∀ now, ']' ∉ (stamp now).toList ∧ '\n' ∉ (stamp now).toList)
    (leftLines : ∀ entry ∈ lefts, entry.OneLine) (rightLines : ∀ entry ∈ rights, entry.OneLine)
    (same : lefts.flatMap (fun entry => utf8 (entry.line stamp)) =
      rights.flatMap (fun entry => utf8 (entry.line stamp))) :
    lefts.map (LogEntry.shown stamp) = rights.map (LogEntry.shown stamp) := by
  have marked {entries : List LogEntry} (lines : ∀ entry ∈ entries, entry.OneLine) :
      ∀ word ∈ entries.map (fun entry => utf8 (entry.line stamp)),
        word ∈ markedWords (UInt8.ofNat '\n'.toNat) := by
    intro word member
    obtain ⟨entry, inside, rfl⟩ := List.mem_map.mp member
    exact line_mem_markedWords (fun now => (stamps now).2) (lines entry inside)
  have words := (prefixCode_markedWords _).flatten_injective (nil_notMem_markedWords _)
    (marked leftLines) (marked rightLines) same
  induction lefts generalizing rights with
  | nil =>
      obtain rfl : rights = [] := by simpa using words.symm
      rfl
  | cons left lefts inductionHypothesis =>
      cases rights with
      | nil => simp at words
      | cons right rights =>
          obtain ⟨first, others⟩ := List.cons.inj words
          rw [List.map_cons, List.map_cons,
            shown_eq_of_line (fun now => (stamps now).1) (leftLines left (by simp)).target
              (rightLines right (by simp)).target (utf8_injective first),
            @inductionHypothesis rights (fun entry member => leftLines entry (by simp [member]))
              (fun entry member => rightLines entry (by simp [member]))
              (by rw [List.flatMap_def, others, List.flatMap_def]) others]

/-- The entries that have reached the file. -/
def entriesWritten (trace : List (LogProcess × LogProcessLabel)) : List LogEntry :=
  (sentIn trace).take (writesIn trace).length

/-- Two runs whose writes succeed, of entries on one line each, that leave the same file
have written entries of the same time stamps, levels, targets and messages, in the same
order. -/
theorem log_file_readable {maxSize otherSize : Nat} {existing : List UInt8}
    {trace otherTrace : List (LogProcess × LogProcessLabel)} {process other : LogProcess}
    (stamps : ∀ now, ']' ∉ (stamp now).toList ∧ '\n' ∉ (stamp now).toList)
    (run : (logProcess stamp).Run (.new maxSize existing) trace process)
    (otherRun : (logProcess stamp).Run (.new otherSize existing) otherTrace other)
    (unfailed : ∀ failure ∈ writesIn trace ++ writesIn otherTrace, failure = none)
    (oneLine : ∀ entry ∈ entriesWritten trace ++ entriesWritten otherTrace, entry.OneLine)
    (same : process.file = other.file) :
    (entriesWritten trace).map (LogEntry.shown stamp) =
      (entriesWritten otherTrace).map (LogEntry.shown stamp) := by
  have file := (logged_of_run run).file
  have otherFile := (logged_of_run otherRun).file
  rw [flatten_zipWith_writtenOf fun failure member =>
    unfailed failure (List.mem_append_left _ member)] at file
  rw [flatten_zipWith_writtenOf fun failure member =>
    unfailed failure (List.mem_append_right _ member)] at otherFile
  refine shown_eq_of_lines stamps
    (fun entry member => oneLine entry (List.mem_append_left _ member))
    (fun entry member => oneLine entry (List.mem_append_right _ member)) ?_
  exact List.append_cancel_left (file.symm.trans (same.trans otherFile))

end Reading

/-- Two entries through one handle, each written at once. -/
def inTurn : List LogProcessLabel :=
  [.opened, .send 0 ⟨1, .warn, "a", "b"⟩, .push 0, .write none, .send 0 ⟨2, .info, "c", "d"⟩,
    .push 0, .write none]

/-- The same through two handles, at other instants, before the file is open. -/
def together : List LogProcessLabel :=
  [.clone 0, .send 1 ⟨3, .warn, "a", "b"⟩, .send 0 ⟨3, .info, "c", "d"⟩, .push 1, .push 0, .opened,
    .write none, .write none]

theorem log_file_readable_inTurn :
    ∃ left right, (logProcess shortStamp).play (.new 1 []) inTurn = some left ∧
      (logProcess shortStamp).play (.new 2 []) together = some right ∧
      left.file = right.file ∧
      (entriesWritten ((logProcess shortStamp).trace (.new 1 []) inTurn)).length = 2 ∧
      (entriesWritten ((logProcess shortStamp).trace (.new 1 []) inTurn)).map
          (LogEntry.shown shortStamp) =
        (entriesWritten ((logProcess shortStamp).trace (.new 2 []) together)).map
          (LogEntry.shown shortStamp) := by
  have stamps (now : Nat) :
      ']' ∉ (shortStamp now).toList ∧ '\n' ∉ (shortStamp now).toList := by
    unfold shortStamp
    decide
  obtain ⟨left, leftPlayed, leftFile⟩ := Option.map_eq_some_iff.mp (show
    ((logProcess shortStamp).play (.new 1 []) inTurn).map LogProcess.file =
      some (utf8 "[0] [WARN] [a] b\n[0] [INFO] [c] d\n") by decide +kernel)
  obtain ⟨right, rightPlayed, rightFile⟩ := Option.map_eq_some_iff.mp (show
    ((logProcess shortStamp).play (.new 2 []) together).map LogProcess.file =
      some (utf8 "[0] [WARN] [a] b\n[0] [INFO] [c] d\n") by decide +kernel)
  have same := leftFile.trans rightFile.symm
  have written : entriesWritten ((logProcess shortStamp).trace (.new 1 []) inTurn) ++
      entriesWritten ((logProcess shortStamp).trace (.new 2 []) together) =
        [⟨1, .warn, "a", "b"⟩, ⟨2, .info, "c", "d"⟩, ⟨3, .warn, "a", "b"⟩, ⟨3, .info, "c", "d"⟩] := by
    decide +kernel
  refine ⟨left, right, leftPlayed, rightPlayed, same, by decide +kernel, ?_⟩
  refine log_file_readable stamps (Machine.run_of_play leftPlayed)
    (Machine.run_of_play rightPlayed) (by decide +kernel) ?_ same
  rw [written]
  simp only [List.forall_mem_cons, List.not_mem_nil, false_implies, implies_true, and_true]
  exact ⟨⟨by decide, by decide, by decide⟩, ⟨by decide, by decide, by decide⟩,
    ⟨by decide, by decide, by decide⟩, by decide, by decide, by decide⟩

end Npt.Shared
