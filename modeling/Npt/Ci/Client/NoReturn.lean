import Npt.Ci.Client.DirectPath
import Npt.Ci.Client.UdpFlow

/-!
Contract: which flows a run over an echoing path counts as one-way dead.

On the path every connection is accepted and what is sent comes back: for TCP
the bytes, in any pieces, and the close after all of them; for UDP the
datagrams, in any order, before the reader gives up. `flows_no_return` should
then be zero. A flow is still counted when it never sent anything: its writer
was past the deadline at its first loop test, or its reader gave up before a
send went through. A TCP flow is also counted when its frames are longer than
its own reader takes.

Owns: the echoing paths and the exact condition for `flows_no_return = 0`.

Does not own: how the counted flows weigh in the verdict.
-/

namespace Npt.Ci.Client

open Npt.Core
open Npt.Ci.Protocol
open Npt.Ci.Server

section AnyProgram

variable {Task Label : Type} {program : FlowProgram Task Label} {config : RunConfig}
  {trace : List (RunState Task × RunLabel Label)} {state : RunState Task}

/-- No flow is counted when none of the connected flows is silent. -/
theorem flowsNoReturn_eq_zero_iff
    (run : (runMachine program config).Run (initialRun program config) trace state)
    {metrics : PortMetrics} (result : state.result = some metrics) {silent : Nat → Prop}
    (settled : ∀ index flow, state.flows[index]? = some flow →
      flow.conn.connected = true ∧ (flow.conn.bytesRecv = 0 ↔ silent index)) :
    metrics.flowsNoReturn = 0 ↔ ∀ index < config.flowCount, ¬silent index := by
  obtain ⟨series, rfl⟩ := (finished_of_run run).metrics metrics (main_of_result result)
  rw [← flows_length run]
  simp only [finalize, RunState.conns, List.countP_map, List.countP_eq_zero]
  constructor
  · intro heard index below silent
    have present : state.flows[index]? = some state.flows[index] := List.getElem?_eq_getElem below
    obtain ⟨connected, unreceived⟩ := settled index _ present
    exact heard _ (List.getElem_mem below) (by simp [connected, unreceived.mpr silent])
  · intro heard flow member counted
    obtain ⟨index, present⟩ := List.getElem?_of_mem member
    have none : flow.conn.bytesRecv = 0 := by simpa using (Bool.and_eq_true_iff.mp counted).2
    exact heard index (List.getElem?_eq_some_iff.mp present).1
      ((settled index flow present).2.mp none)

end AnyProgram

/-! ## Late steps -/

section LateSteps

variable {Task Label Env Act : Type}

/-- A step of the flow under a label in `marks`, past the deadline, when nothing
has been sent. -/
def LateStep (marks : Label → Prop) (config : RunConfig) (index : Nat)
    (entry : (RunState Task × List Env) × (RunLabel Label ⊕ (Nat × Act))) : Prop :=
  ∃ label flow, entry.2 = .inl (.flow index label) ∧ marks label ∧
    entry.1.1.flows[index]? = some flow ∧ flow.conn.bytesSent = 0 ∧
    config.deadline ≤ entry.1.1.now

/-- The flow took such a step in the run. -/
def Late (marks : Label → Prop) (config : RunConfig)
    (trace : List ((RunState Task × List Env) × (RunLabel Label ⊕ (Nat × Act))))
    (index : Nat) : Prop :=
  ∃ entry ∈ trace, LateStep marks config index entry

variable {marks : Label → Prop} {config : RunConfig} {index : Nat}
  {trace : List ((RunState Task × List Env) × (RunLabel Label ⊕ (Nat × Act)))}
  {joint : RunState Task × List Env}

theorem late_snoc {entry : (RunState Task × List Env) × (RunLabel Label ⊕ (Nat × Act))} :
    Late marks config (trace ++ [entry]) index ↔
      Late marks config trace index ∨ LateStep marks config index entry := by
  simp [Late, or_and_right, exists_or]

/-- A step of anyone else does not make a flow late. -/
theorem late_other {entry : (RunState Task × List Env) × (RunLabel Label ⊕ (Nat × Act))}
    (foreign : ∀ label, entry.2 ≠ .inl (.flow index label)) :
    Late marks config (trace ++ [entry]) index ↔ Late marks config trace index := by
  rw [late_snoc, or_iff_left]
  rintro ⟨label, _, same, _⟩
  exact foreign label same

theorem late_own {label : Label} {flow : Flow Task}
    (present : joint.1.flows[index]? = some flow) :
    Late marks config (trace ++ [(joint, .inl (.flow index label))]) index ↔
      Late marks config trace index ∨
        marks label ∧ flow.conn.bytesSent = 0 ∧ config.deadline ≤ joint.1.now := by
  rw [late_snoc]
  refine or_congr_right ⟨?_, ?_⟩
  · rintro ⟨found, again, same, marked, there, unsent, late⟩
    obtain rfl := Option.some.inj (there.symm.trans present)
    obtain ⟨_, rfl⟩ := RunLabel.flow.inj (Sum.inl.inj same)
    exact ⟨marked, unsent, late⟩
  · rintro ⟨marked, unsent, late⟩
    exact ⟨label, flow, rfl, marked, present, unsent, late⟩

/-- The flow's step under any other label does not make it late. -/
theorem late_unmarked {label : Label} {flow : Flow Task} (unmarked : ¬marks label)
    (present : joint.1.flows[index]? = some flow) :
    Late marks config (trace ++ [(joint, .inl (.flow index label))]) index ↔
      Late marks config trace index := by
  rw [late_own present, or_iff_left (fun late => unmarked late.1)]

/-- The count of a run whose flows are silent exactly when they are late, or all
of them when `deaf`. -/
theorem no_return_iff {program : FlowProgram Task Label} {path : FlowPath Task Label Env Act}
    (run : (pathMachine program path config).Run (initialPath program path config) trace joint)
    {metrics : PortMetrics} (result : joint.1.result = some metrics) {deaf : Prop}
    (settled : ∀ (index : Nat) flow, joint.1.flows[index]? = some flow →
      flow.conn.connected = true ∧
        (flow.conn.bytesRecv = 0 ↔ deaf ∨ Late marks config trace index)) :
    metrics.flowsNoReturn = 0 ↔
      ¬deaf ∧ ∀ entry ∈ trace, ∀ index, ¬LateStep marks config index entry := by
  rw [flowsNoReturn_eq_zero_iff (run_of_path run) result settled]
  have some : 0 < config.flowCount := Nat.lt_of_lt_of_le Nat.one_pos (Nat.le_max_right _ _)
  constructor
  · intro heard
    refine ⟨fun silent => heard 0 some (Or.inl silent), fun entry member index late => ?_⟩
    refine heard index ?_ (Or.inr ⟨entry, member, late⟩)
    obtain ⟨_, _, _, _, present, _⟩ := late
    obtain ⟨_, _, before⟩ := run.before member
    rw [← flows_length (run_of_path before)]
    exact (List.getElem?_eq_some_iff.mp present).1
  · rintro ⟨hearing, onTime⟩ index _ (silent | ⟨entry, member, late⟩)
    · exact hearing silent
    · exact onTime entry member index late

end LateSteps

/-- The end of a flow's ramp sleep. -/
def wakeTime (config : RunConfig) (index : Nat) : Nat :=
  stagger config.params.rampMs index config.flowCount

namespace TcpFlow

/-! ## The TCP path -/

/-- How the echoing path answers a step of a connected flow; `owed` is what was
sent and has not come back. -/
def answerLoop (owed : List UInt8) (stream : Stream) : Label → Option (List UInt8)
  | .writerSend count => some (owed ++ stream.writer.unsent.take count)
  | .peerSend bytes => if bytes <+: owed then some (owed.drop bytes.length) else none
  | .peerClose => if stream.writer = .stopped ∧ owed = [] then some owed else none
  | .peerReset _ _ => none
  | _ => some owed

/-- A path that accepts every connection and returns what it is sent. -/
def loopback : FlowPath Task Label (List UInt8) Empty where
  start := []
  answer := fun owed task label _ =>
    match task, label with
    | .streaming stream, label => answerLoop owed stream label
    | .connecting _, .connectError _ | .connecting _, .connectTimeout => none
    | _, _ => some owed
  act := fun _ act => nomatch act

/-! ## The first frame -/

/-- The length field of the flow's frames is one that the reader takes. -/
def Readable (config : RunConfig) : Prop :=
  max config.params.payloadBytes 1 % 2 ^ 32 ≤ maxPayload

section FirstFrame

variable {config : RunConfig} {bytes more rest : List UInt8} {frame : Frame}

/-- Wherever a readable frame is cut, reading it waits. -/
theorem read_first_ne_error (readable : frame.payload.length % 2 ^ 32 ≤ maxPayload)
    (front : bytes ++ more = frame.encode ++ rest) {error : IoError} :
    Frame.read ⟨bytes, .live⟩ ≠ .error error := by
  intro read
  have longer : Frame.read ⟨bytes ++ more, .live⟩ = .error error := read_error_append read
  rw [front, Frame.read_encode_eq, if_neg (Nat.not_lt.mpr readable),
    ByteStream.readExact_of_le] at longer
  · simp at longer
  · have inside := Nat.mod_le frame.payload.length (2 ^ 32)
    rw [List.length_append]
    omega

/-- A readable frame that has arrived is read as some frame. -/
theorem read_first_some (readable : frame.payload.length % 2 ^ 32 ≤ maxPayload)
    (ending : Ending IoError) :
    ∃ found left, Frame.read ⟨frame.encode ++ rest, ending⟩ = .ok (some found) left := by
  rw [Frame.read_encode_eq, if_neg (Nat.not_lt.mpr readable), ByteStream.readExact_of_le]
  · exact ⟨_, _, rfl⟩
  · have inside := Nat.mod_le frame.payload.length (2 ^ 32)
    rw [List.length_append]
    omega

/-- An unreadable frame is never read, whatever of it has arrived. -/
theorem read_first_unreadable (unreadable : maxPayload < frame.payload.length % 2 ^ 32)
    (front : bytes ++ more = frame.encode ++ rest) {ending : Ending IoError} {found : Frame}
    {left : ByteStream IoError} : Frame.read ⟨bytes, ending⟩ ≠ .ok (some found) left := by
  intro read
  obtain ⟨split, _, fits⟩ := Frame.read_some read
  have whole := Frame.read_encode found fits (left.bytes ++ more) ending
  rw [← List.append_assoc, ← split, front, Frame.read_encode_eq, if_pos unreadable] at whole
  simp at whole

end FirstFrame

/-! ## Echoed streams -/

/-- The flow has begun its first frame. -/
def Started (sent : Nat) (stream : Stream) : Prop :=
  0 < sent ∨ ∃ frame unsent, stream.writer = .writing frame unsent

/-- A connected flow on the echoing path, with what it counts as sent and
received. -/
structure Echoing (config : RunConfig) (sent received : Nat) (stream : Stream)
    (owed : List UInt8) : Prop where
  whole : stream.reset = none
  intact : ∀ error, stream.rx.ending ≠ .failed error
  closed : stream.rx.ending = .eof → stream.writer = .stopped ∧ owed = []
  untouched : ¬Started sent stream → stream.rx.bytes = [] ∧ owed = [] ∧ received = 0
  quit : ¬Started sent stream → stream.reader = .stopped → stream.writer = .stopped
  first : Started sent stream → received = 0 → stream.reader = .reading →
    ∃ (frame : Frame) (rest : List UInt8), frame.payload.length = max config.params.payloadBytes 1 ∧
      stream.rx.bytes ++ (owed ++ stream.writer.unsent) = frame.encode ++ rest
  listening : Readable config → Started sent stream → received = 0 → stream.reader = .reading
  deaf : ¬Readable config → received = 0

/-- The test of the writer's loop. -/
def Tested (label : Label) : Prop := ∃ nowMicros, label = .writerCheck nowMicros

section Steps

variable {config : RunConfig} {now id sent received : Nat} {stream after : Stream}
  {owed answered : List UInt8} {label : Label} {event : FlowEvent} {task : Task}

theorem echoing_start (config : RunConfig) (room : Nat) :
    Echoing config 0 0 { room := room } [] where
  whole := rfl
  intact := by simp
  closed := by simp
  untouched := by simp
  quit := by simp
  first := by simp [Started]
  listening := by simp
  deaf := by simp

/-- A step that leaves the reader's side and what was counted. -/
theorem Echoing.rewrite (echoing : Echoing config sent received stream owed) {writer : Writer}
    {room : Nat} {seq : UInt64}
    (started : Started sent { stream with writer := writer } ↔ Started sent stream)
    (moved : answered ++ writer.unsent = owed ++ stream.writer.unsent)
    (untouched : ¬Started sent stream → answered = [])
    (stopped : stream.writer = .stopped → writer = .stopped ∧ answered = owed) :
    Echoing config sent received { stream with writer := writer, room := room, seq := seq }
      answered where
  whole := echoing.whole
  intact := echoing.intact
  closed := fun ended => by
    obtain ⟨before, nothing⟩ := echoing.closed ended
    obtain ⟨now, same⟩ := stopped before
    exact ⟨now, same.trans nothing⟩
  untouched := fun idle => by
    have before := fun begun => idle (started.mpr begun)
    exact ⟨(echoing.untouched before).1, untouched before, (echoing.untouched before).2.2⟩
  quit := fun idle gone =>
    (stopped (echoing.quit (fun begun => idle (started.mpr begun)) gone)).1
  first := fun begun none reading => by
    rw [moved]
    exact echoing.first (started.mp begun) none reading
  listening := fun readable begun none => echoing.listening readable (started.mp begun) none
  deaf := echoing.deaf

/-- A reader that stops on a flow that never started saw the close. -/
theorem Echoing.stopped_of_ended (echoing : Echoing config sent received stream owed)
    (past : ∀ frame rest, Frame.read stream.rx ≠ .ok (some frame) rest)
    (decided : Frame.read stream.rx ≠ .pending) (idle : ¬Started sent stream) :
    stream.writer = .stopped := by
  refine (echoing.closed (eof_of_read echoing.intact past decided fun live error read => ?_)).1
  have unread := (echoing.untouched idle).1
  have shape : stream.rx = ⟨[], .live⟩ := by rw [← unread, ← live]
  rw [shape] at read
  simp [Frame.read, ByteStream.readExact, headerLen] at read

/-- A reader that stops on a started flow with readable frames has read one. -/
theorem Echoing.answered_of_ended (echoing : Echoing config sent received stream owed)
    (reading : stream.reader = .reading)
    (past : ∀ frame rest, Frame.read stream.rx ≠ .ok (some frame) rest)
    (decided : Frame.read stream.rx ≠ .pending) (readable : Readable config) :
    ¬(Started sent stream ∧ received = 0) := by
  rintro ⟨begun, none⟩
  obtain ⟨frame, rest, size, split⟩ := echoing.first begun none reading
  have fits : frame.payload.length % 2 ^ 32 ≤ maxPayload := by
    rw [size]
    exact readable
  have eof := eof_of_read echoing.intact past decided (fun live error read => by
    have shape : stream.rx = ⟨stream.rx.bytes, .live⟩ := by rw [← live]
    rw [shape] at read
    exact read_first_ne_error fits split read)
  obtain ⟨stopped, nothing⟩ := echoing.closed eof
  rw [nothing, stopped, Writer.unsent, List.append_nil, List.append_nil] at split
  · obtain ⟨found, left, read⟩ :
        ∃ found left, Frame.read ⟨frame.encode ++ rest, stream.rx.ending⟩ = .ok (some found) left :=
      read_first_some fits _
    rw [← split] at read
    exact past found left read
  · simp

/-- The writer begins a frame of the configured size. -/
theorem Echoing.begin (echoing : Echoing config sent received stream owed)
    (checking : stream.writer = .checking) {frame : Frame}
    (size : frame.payload.length = max config.params.payloadBytes 1) :
    Echoing config sent received { stream with writer := .writing frame frame.encode } owed := by
  have begun : Started sent { stream with writer := .writing frame frame.encode } :=
    Or.inr ⟨_, _, rfl⟩
  refine
    { whole := echoing.whole
      intact := echoing.intact
      closed := fun ended => absurd (echoing.closed ended).1 (by simp [checking])
      untouched := fun idle => absurd begun idle
      quit := fun idle => absurd begun idle
      first := fun _ none reading => ?_
      listening := fun readable _ none => ?_
      deaf := echoing.deaf }
  · by_cases earlier : Started sent stream
    · obtain ⟨first, rest, same, split⟩ := echoing.first earlier none reading
      refine ⟨first, rest ++ frame.encode, same, ?_⟩
      simp only [checking, Writer.unsent, List.append_nil] at split
      simp only [Writer.unsent]
      rw [← List.append_assoc, split, List.append_assoc]
    · obtain ⟨unread, nothing, _⟩ := echoing.untouched earlier
      exact ⟨frame, [], size, by simp [unread, nothing, Writer.unsent]⟩
  · by_cases earlier : Started sent stream
    · exact echoing.listening readable earlier none
    · cases reader : stream.reader with
      | reading => rfl
      | stopped => exact absurd (echoing.quit earlier reader) (by simp [checking])

/-- The writer's frame is counted once all of it is on the path. -/
theorem Echoing.frameSent (echoing : Echoing config sent received stream owed) {frame : Frame}
    (writing : stream.writer = .writing frame []) {writer : Writer} {seq : UInt64}
    (empty : writer.unsent = []) :
    Echoing config (sent + frameLen frame) received { stream with writer := writer, seq := seq }
      owed := by
  have before : Started sent stream := Or.inr ⟨_, _, writing⟩
  have begun : Started (sent + frameLen frame) { stream with writer := writer, seq := seq } := by
    refine Or.inl ?_
    simp only [frameLen, headerLen]
    omega
  exact
    { whole := echoing.whole
      intact := echoing.intact
      closed := fun ended => absurd (echoing.closed ended).1 (by simp [writing])
      untouched := fun idle => absurd begun idle
      quit := fun idle => absurd begun idle
      first := fun _ none reading => by
        obtain ⟨first, rest, size, split⟩ := echoing.first before none reading
        rw [writing] at split
        exact ⟨first, rest, size, by rw [empty]; exact split⟩
      listening := fun readable _ none => echoing.listening readable before none
      deaf := echoing.deaf }

/-- The reader takes a frame. -/
theorem Echoing.frameRead (echoing : Echoing config sent received stream owed)
    (reading : stream.reader = .reading) {frame : Frame} {rest : ByteStream IoError}
    (read : Frame.read stream.rx = .ok (some frame) rest) :
    Echoing config sent (received + frameLen frame) { stream with rx := rest } owed := by
  obtain ⟨split, sameEnding, _⟩ := Frame.read_some read
  have begun : Started sent stream := by
    by_contra idle
    have positive := frame.encode_length_pos
    rw [(echoing.untouched idle).1] at split
    simp [(List.append_eq_nil_iff.mp split.symm).1] at positive
  have counted : received + frameLen frame ≠ 0 := by
    simp [frameLen, headerLen]
  exact
    { whole := echoing.whole
      intact := by simpa [sameEnding] using echoing.intact
      closed := by simpa [sameEnding] using echoing.closed
      untouched := fun idle => absurd begun idle
      quit := fun idle => absurd begun idle
      first := fun _ none => absurd none counted
      listening := fun _ _ none => absurd none counted
      deaf := fun unreadable => by
        obtain ⟨first, tail, size, front⟩ := echoing.first begun (echoing.deaf unreadable) reading
        have long : maxPayload < first.payload.length % 2 ^ 32 := by
          rw [size]
          exact Nat.not_le.mp unreadable
        exact absurd read (read_first_unreadable long front) }

/-- The reader stops; what it has not read may be lost with it. -/
theorem Echoing.readerEnded (echoing : Echoing config sent received stream owed)
    (reading : stream.reader = .reading)
    (past : ∀ frame rest, Frame.read stream.rx ≠ .ok (some frame) rest)
    (decided : Frame.read stream.rx ≠ .pending) {rx : ByteStream IoError}
    (left : rx = stream.rx ∨ rx = ⟨[], stream.rx.ending⟩) :
    Echoing config sent received { stream with reader := .stopped, rx := rx } owed := by
  have sameEnding : rx.ending = stream.rx.ending := by
    rcases left with rfl | rfl <;> rfl
  exact
    { whole := echoing.whole
      intact := by simpa [sameEnding] using echoing.intact
      closed := by simpa [sameEnding] using echoing.closed
      untouched := fun idle => by
        obtain ⟨unread, rest⟩ := echoing.untouched idle
        rcases left with rfl | rfl
        · exact ⟨unread, rest⟩
        · exact ⟨rfl, rest⟩
      quit := fun idle _ => echoing.stopped_of_ended past decided idle
      first := by simp
      listening := fun readable begun none =>
        absurd ⟨begun, none⟩ (echoing.answered_of_ended reading past decided readable)
      deaf := echoing.deaf }

/-- Some of what is owed comes back. -/
theorem Echoing.arrived {bytes rest : List UInt8}
    (echoing : Echoing config sent received stream (bytes ++ rest)) :
    Echoing config sent received { stream with rx := ⟨stream.rx.bytes ++ bytes, .live⟩ } rest where
  whole := echoing.whole
  intact := by simp
  closed := by simp
  untouched := fun idle => by
    obtain ⟨unread, nothing, none⟩ := echoing.untouched idle
    obtain ⟨rfl, rfl⟩ := List.append_eq_nil_iff.mp nothing
    exact ⟨by simp [unread], rfl, none⟩
  quit := echoing.quit
  first := fun begun none reading => by
    obtain ⟨first, tail, size, split⟩ := echoing.first begun none reading
    exact ⟨first, tail, size, by simpa using split⟩
  listening := echoing.listening
  deaf := echoing.deaf

/-- The path closes once nothing is owed any more. -/
theorem Echoing.ended (echoing : Echoing config sent received stream owed)
    (past : stream.writer = .stopped ∧ owed = []) :
    Echoing config sent received { stream with rx := ⟨stream.rx.bytes, .eof⟩ } owed where
  whole := echoing.whole
  intact := by simp
  closed := fun _ => past
  untouched := echoing.untouched
  quit := echoing.quit
  first := echoing.first
  listening := echoing.listening
  deaf := echoing.deaf

/-- What one step of an echoed flow leaves. -/
theorem echoing_step (echoing : Echoing config sent received stream owed)
    (move : Move config now id stream label event task)
    (answer : answerLoop owed stream label = some answered) :
    ∀ after, task = .streaming after →
      Echoing config (sent + event.bytesOut) (received + event.bytesIn) after answered := by
  intro after same
  cases move with
  | @start nowMicros checking early =>
      obtain rfl := Option.some.inj answer
      obtain rfl := Task.streaming.inj same
      exact echoing.begin checking (by simp [nextFrame])
  | stop checking late =>
      obtain rfl := Option.some.inj answer
      obtain rfl := Task.streaming.inj same
      refine echoing.rewrite ?_ ?_ ?_ ?_
      · simp [Started, checking]
      · simp [checking, Writer.unsent]
      · exact fun idle => (echoing.untouched idle).2.1
      · simp [checking]
  | @send frame unsent count writing whole positive inRoom inFrame =>
      obtain rfl := Option.some.inj answer
      obtain rfl := Task.streaming.inj same
      have begun : Started sent stream := Or.inr ⟨frame, unsent, writing⟩
      refine echoing.rewrite ?_ ?_ ?_ ?_
      · exact ⟨fun _ => begun, fun _ => Or.inr ⟨_, _, rfl⟩⟩
      · simp [writing, Writer.unsent]
      · exact fun idle => absurd begun idle
      · simp [writing]
  | @sent frame writing writer after =>
      obtain rfl := Option.some.inj answer
      obtain rfl := Task.streaming.inj same
      refine echoing.frameSent writing ?_
      rcases after with rfl | ⟨wake, rfl⟩ <;> rfl
  | writeFailed writing reset => simp [echoing.whole] at reset
  | paced pacing reached =>
      obtain rfl := Option.some.inj answer
      obtain rfl := Task.streaming.inj same
      refine echoing.rewrite ?_ ?_ ?_ ?_
      · simp [Started, pacing]
      · simp [pacing, Writer.unsent]
      · exact fun idle => (echoing.untouched idle).2.1
      · simp [pacing]
  | @frame nowMicros frame rest reading read =>
      obtain rfl := Option.some.inj answer
      obtain rfl := Task.streaming.inj same
      exact echoing.frameRead reading read
  | @ended nowMicros message rx reading past decided left =>
      obtain rfl := Option.some.inj answer
      obtain rfl := Task.streaming.inj same
      exact echoing.readerEnded reading past decided (left.imp_right And.left)
  | joined => simp at same
  | @delivered bytes live =>
      simp only [answerLoop] at answer
      split at answer
      · rename_i front
        obtain rfl := Option.some.inj answer
        obtain rfl := Task.streaming.inj same
        obtain ⟨rest, rfl⟩ := front
        rw [List.drop_left]
        exact echoing.arrived
      · simp at answer
  | closed live =>
      simp only [answerLoop] at answer
      split at answer
      · rename_i past
        obtain rfl := Option.some.inj answer
        obtain rfl := Task.streaming.inj same
        exact echoing.ended past
      · simp at answer
  | cut whole => simp [answerLoop] at answer
  | drained =>
      obtain rfl := Option.some.inj answer
      obtain rfl := Task.streaming.inj same
      exact echoing.rewrite Iff.rfl rfl (fun idle => (echoing.untouched idle).2.1)
        (fun stopped => ⟨stopped, rfl⟩)

/-- A flow starts before the deadline only. -/
theorem started_step (move : Move config now id stream label event (.streaming after))
    (begun : Started (sent + event.bytesOut) after) : Started sent stream ∨ now < config.deadline := by
  cases move with
  | start checking early => exact Or.inr early
  | stop checking | paced checking | writeFailed checking =>
      refine Or.inl (Or.inl ?_)
      simpa [Started, FlowEvent.bytesOut] using begun
  | send writing | sent writing => exact Or.inl (Or.inr ⟨_, _, writing⟩)
  | frame | ended | delivered | closed | cut | drained => exact Or.inl begun

/-- A flow that has sent nothing stops its writer at the late loop test. -/
theorem stopped_step (move : Move config now id stream label event (.streaming after))
    (whole : stream.reset = none) :
    (after.writer = .stopped ∧ sent + event.bytesOut = 0) ↔
      (stream.writer = .stopped ∧ sent = 0) ∨
        Tested label ∧ sent = 0 ∧ config.deadline ≤ now := by
  cases move with
  | start checking early => simp [Tested, checking, Nat.not_le.mpr early]
  | stop checking late => simp [Tested, checking, late, FlowEvent.bytesOut]
  | send writing | writeFailed writing reset => simp_all [Tested]
  | sent writing after =>
      rcases after with rfl | ⟨wake, rfl⟩ <;> simp [Tested, writing]
  | paced pacing => simp [Tested, pacing]
  | frame | ended | delivered | closed | cut | drained => simp [Tested, FlowEvent.bytesOut]

end Steps

/-! ## TCP runs -/

/-- A run over the echoing path. -/
def looped (config : RunConfig) :
    Machine (RunState Task × List (List UInt8)) (RunLabel Label ⊕ (Nat × Empty)) :=
  pathMachine (tcpFlow config) loopback config

def startLooped (config : RunConfig) : RunState Task × List (List UInt8) :=
  initialPath (tcpFlow config) loopback config

/-- A flow of a run over the echoing path. -/
structure Answered (config : RunConfig) (late : Prop) (index now : Nat) (flow : Flow Task)
    (owed : List UInt8) : Prop where
  waiting : flow.task.stream? = none → flow.task ≠ .returned →
    ¬late ∧ flow.conn.bytesSent = 0 ∧ flow.conn.bytesRecv = 0 ∧ owed = []
  ramping : ∀ wake, flow.task = .ramping wake → wake = wakeTime config index
  woken : (∀ wake, flow.task ≠ .ramping wake) → wakeTime config index ≤ now
  connected : ∀ stream, flow.task = .streaming stream → flow.conn.connected = true
  echoing : ∀ stream, flow.task = .streaming stream →
    Echoing config flow.conn.bytesSent flow.conn.bytesRecv stream owed
  begun : ∀ stream, flow.task = .streaming stream → Started flow.conn.bytesSent stream →
    wakeTime config index < config.deadline
  missed : ∀ stream, flow.task = .streaming stream →
    (late ↔ stream.writer = .stopped ∧ flow.conn.bytesSent = 0)
  returned : flow.task = .returned → flow.conn.connected = true ∧
    (flow.conn.bytesRecv = 0 ↔ ¬Readable config ∨ late) ∧
    (config.deadline ≤ wakeTime config index → late)

section Runs

variable {config : RunConfig}
  {trace : List ((RunState Task × List (List UInt8)) × (RunLabel Label ⊕ (Nat × Empty)))}
  {joint : RunState Task × List (List UInt8)}

/-- What the join of a flow's two halves leaves. -/
theorem Answered.joined {late : Prop} {index now : Nat} {conn : ConnState} {stream : Stream}
    {owed : List UInt8} (answered : Answered config late index now ⟨conn, .streaming stream⟩ owed)
    (readerStopped : stream.reader = .stopped) (writerStopped : stream.writer = .stopped) :
    (conn.bytesRecv = 0 ↔ ¬Readable config ∨ late) ∧
      (config.deadline ≤ wakeTime config index → late) := by
  have echoing := answered.echoing stream rfl
  have missed := answered.missed stream rfl
  have started : Started conn.bytesSent stream ↔ 0 < conn.bytesSent := by
    simp [Started, writerStopped]
  refine ⟨⟨fun none => ?_, ?_⟩, fun tooLate => ?_⟩
  · by_cases readable : Readable config
    · refine Or.inr (missed.mpr ⟨writerStopped, ?_⟩)
      by_contra sent
      have reading := echoing.listening readable (started.mpr (Nat.pos_of_ne_zero sent)) none
      simp [readerStopped] at reading
    · exact Or.inl readable
  · rintro (unreadable | late)
    · exact echoing.deaf unreadable
    · refine (echoing.untouched ?_).2.2
      rw [started, (missed.mp late).2]
      exact Nat.lt_irrefl 0
  · refine missed.mpr ⟨writerStopped, ?_⟩
    by_contra sent
    have early := answered.begun stream rfl (started.mpr (Nat.pos_of_ne_zero sent))
    omega

section Steps

variable {late later : Prop} {index now id : Nat} {run : PortRun} {conn : ConnState}
  {owed after : List UInt8} {label : Label} {event : FlowEvent} {task : Task}

private theorem Answered.start : Answered config False index 0
    ⟨{ id := index }, .ramping (wakeTime config index)⟩ [] where
  waiting _ _ := ⟨not_false, rfl, rfl, rfl⟩
  ramping wake same := (Task.ramping.inj same).symm
  woken awake := absurd rfl (awake _)
  connected := by simp
  echoing := by simp
  begun := by simp
  missed := by simp
  returned := by simp

private theorem Answered.wake {wake : Nat}
    (answered : Answered config late index now ⟨conn, .ramping wake⟩ owed) (reached : wake ≤ now) :
    Answered config late index now ⟨conn, .connecting now⟩ owed where
  waiting _ _ := answered.waiting rfl (by simp)
  ramping := by simp
  woken _ := (answered.ramping wake rfl) ▸ reached
  connected := by simp
  echoing := by simp
  begun := by simp
  missed := by simp
  returned := by simp

private theorem Answered.connect {since room : Nat}
    (answered : Answered config late index now ⟨conn, .connecting since⟩ owed) :
    Answered config late index now
      ⟨(FlowEvent.connected.apply now config.deadline run conn).2, .streaming { room := room }⟩
      owed := by
  obtain ⟨onTime, unsent, unreceived, rfl⟩ := answered.waiting rfl (by simp)
  refine
    { waiting := by simp [Task.stream?]
      ramping := by simp
      woken := fun _ => answered.woken (by simp)
      connected := fun _ _ => rfl
      echoing := fun stream same => ?_
      begun := fun stream same begun => ?_
      missed := fun stream same => ?_
      returned := by simp }
  · obtain rfl := Task.streaming.inj same
    rw [FlowEvent.apply_bytesSent, FlowEvent.apply_bytesRecv]
    show Echoing config (conn.bytesSent + 0) (conn.bytesRecv + 0) _ _
    rw [show conn.bytesSent = 0 from unsent, show conn.bytesRecv = 0 from unreceived]
    exact echoing_start config room
  · obtain rfl := Task.streaming.inj same
    rw [FlowEvent.apply_bytesSent, show conn.bytesSent = 0 from unsent] at begun
    simp [Started, FlowEvent.bytesOut] at begun
  · obtain rfl := Task.streaming.inj same
    simp [onTime]

/-- A step of a connected flow. -/
private theorem Answered.stream {stream : Stream}
    (answered : Answered config late index now ⟨conn, .streaming stream⟩ owed)
    (move : Move config now id stream label event task)
    (answer : loopback.answer owed (.streaming stream) label task = some after)
    (lateOwn : later ↔ late ∨ Tested label ∧ conn.bytesSent = 0 ∧ config.deadline ≤ now) :
    Answered config later index now
      ⟨(event.apply now config.deadline run conn).2, task⟩ after := by
  have echoing := answered.echoing stream rfl
  refine
    { waiting := fun none unfinished => ?_
      ramping := fun wake same => ?_
      woken := fun _ => answered.woken (by simp)
      connected := fun after same => ?_
      echoing := fun after same => ?_
      begun := fun after same begun => ?_
      missed := fun after same => ?_
      returned := fun past => ?_ }
  · cases move <;> simp [Task.stream?] at none unfinished
  · cases move <;> simp at same
  · rw [FlowEvent.apply_connected, answered.connected stream rfl, Bool.true_or]
  · rw [FlowEvent.apply_bytesSent, FlowEvent.apply_bytesRecv]
    exact echoing_step echoing move answer after same
  · obtain rfl : task = .streaming after := same
    rw [FlowEvent.apply_bytesSent] at begun
    rcases started_step move begun with earlier | early
    · exact answered.begun stream rfl earlier
    · exact lt_of_le_of_lt (answered.woken (by simp)) early
  · obtain rfl : task = .streaming after := same
    rw [FlowEvent.apply_bytesSent, stopped_step move echoing.whole, lateOwn,
      answered.missed stream rfl]
  · obtain rfl : task = .returned := past
    cases move with
    | joined readerStopped writerStopped =>
        have same : later ↔ late := by simp [lateOwn, Tested]
        rw [same]
        exact ⟨answered.connected stream rfl, answered.joined readerStopped writerStopped⟩

end Steps

theorem answered_of_run (run : (looped config).Run (startLooped config) trace joint) :
    ∀ (index : Nat) (flow : Flow Task) (owed : List UInt8), joint.1.flows[index]? = some flow →
      joint.2[index]? = some owed →
      Answered config (Late Tested config trace index) index joint.1.now flow owed := by
  refine path_history (fun trace index now flow owed =>
    Answered config (Late Tested config trace index) index now flow owed) ?_ ?_ ?_ ?_ ?_ ?_ run
  · intro index
    have onTime : ¬Late Tested config
      ([] : List ((RunState Task × List (List UInt8)) × (RunLabel Label ⊕ (Nat × Empty)))) index := by
      simp [Late]
    rw [iff_false_intro onTime]
    exact Answered.start
  · intro trace joint index label flow event task owed answered _ present _ holds own answer
    obtain ⟨conn, before⟩ := flow
    cases taskMove_of_step own with
    | woke reached =>
        obtain rfl := Option.some.inj answer
        rw [late_unmarked (by simp [Tested]) present]
        exact holds.wake reached
    | connected =>
        obtain rfl := Option.some.inj answer
        rw [late_unmarked (by simp [Tested]) present]
        exact holds.connect
    | refused =>
        cases label <;> simp [tcpFlow, step, loopback] at own answer
    | streamed move => exact holds.stream move answer (late_own present)
  · intro trace entry index now flow owed act
    exact act.elim
  · intro trace index now seen run flow owed holds
    rw [visitFlow_conn_eq]
    exact ⟨holds.waiting, holds.ramping, holds.woken, holds.connected, holds.echoing, holds.begun,
      holds.missed, holds.returned⟩
  · intro trace entry index now flow owed foreign holds
    simp only [late_other foreign]
    exact holds
  · intro trace index now ms flow owed holds
    exact { holds with woken := fun awake => Nat.le_add_right_of_le (holds.woken awake) }

/-- What a finished run says of each of its flows. -/
theorem settled_of_run (run : (looped config).Run (startLooped config) trace joint)
    {metrics : PortMetrics} (result : joint.1.result = some metrics) (index : Nat)
    (flow : Flow Task) (present : joint.1.flows[index]? = some flow) :
    flow.conn.connected = true ∧
      (flow.conn.bytesRecv = 0 ↔ ¬Readable config ∨ Late Tested config trace index) ∧
      (config.deadline ≤ wakeTime config index → Late Tested config trace index) := by
  obtain ⟨owed, there⟩ := path_of_flow run present
  have past := main_returned_of_run (run_of_path run) (main_of_result result) flow
    (List.mem_of_getElem? present)
  exact (answered_of_run run index flow owed present there).returned (of_decide_eq_true past)

/-- A run over the echoing path counts no flow as one-way dead exactly when the
reader takes its frames and no writer starts late. -/
theorem tcp_no_return_iff (run : (looped config).Run (startLooped config) trace joint)
    {metrics : PortMetrics} (result : joint.1.result = some metrics) :
    metrics.flowsNoReturn = 0 ↔
      Readable config ∧ ∀ entry ∈ trace, ∀ index, ¬LateStep Tested config index entry := by
  have settled := settled_of_run run result
  rw [no_return_iff run result
    (fun index flow present => ⟨(settled index flow present).1, (settled index flow present).2.1⟩),
    not_not]

/-- A flow whose ramp ends at the deadline or later is counted. -/
theorem tcp_no_return_of_ramp (run : (looped config).Run (startLooped config) trace joint)
    {metrics : PortMetrics} (result : joint.1.result = some metrics) {index : Nat}
    (below : index < config.flowCount) (tooLate : config.deadline ≤ wakeTime config index) :
    metrics.flowsNoReturn ≠ 0 := by
  intro none
  rw [← flows_length (run_of_path run)] at below
  obtain ⟨entry, member, late⟩ :=
    (settled_of_run run result index _ (List.getElem?_eq_getElem below)).2.2 tooLate
  exact ((tcp_no_return_iff run result).mp none).2 entry member index late

end Runs

end TcpFlow

end Npt.Ci.Client
