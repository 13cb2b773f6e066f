import Npt.Ci.Client.EchoedStalls

/-!
Contract: pacing against the stall limit, on a path that echoes at once.

Between two sends a TCP writer sleeps for the time its frame takes at
`send_rate_bps`, and a UDP writer for the rest of `udp_interval_ms`. A sleep
longer than the stall limit is recorded as a stall although nothing is
outstanding. A flow whose writer waits for nothing but its sleeps is never recorded
where a sleep and the lateness of the writer stay within the limit. The clock counts
whole milliseconds, so that a sleep that ends between two of them is late.

Owns: the writers' timers, the pause and the lateness that bound them, and the law
of false stalls for both protocols.

Does not own: a writer that the kernel keeps waiting.
-/

namespace Npt.Ci.Client

open Npt.Core

/-! ## Timers -/

/-- What a flow's writer waits for. -/
inductive Timer where
  /-- The connection: nothing has been sent. -/
  | unset
  /-- Its turn to run, or the network. -/
  | ready
  | resting (wake : Nat)
  /-- Nothing: it has left its loop. -/
  | done
deriving DecidableEq, Repr

/-- Of the `ms` by which the clock moves, those that find the writer past its time. -/
def Timer.overrun (now ms : Nat) : Timer → Nat
  | .unset | .done => 0
  | .ready => ms
  | .resting wake => now + ms - max now wake

/-- The next send, with the lateness up to now, is at most `pause` after the last one, or
past the deadline. -/
def Timer.Within (late pause deadline now : Nat) (last : Option Nat) : Timer → Prop
  | .unset => last = none
  | .ready => ∀ time, last = some time → now ≤ time + pause + late
  | .resting wake => ∀ time, last = some time → max now wake ≤ time + pause + late
  | .done => ∀ time, last = some time → deadline ≤ time + pause + late

section Timer

variable {late pause deadline now : Nat} {last : Option Nat} {timer : Timer}

theorem Timer.Within.elapse (within : timer.Within late pause deadline now last) (ms : Nat) :
    timer.Within (late + timer.overrun now ms) pause deadline (now + ms) last := by
  cases timer with
  | unset | done => exact within
  | ready =>
      intro time sent
      exact (Nat.add_le_add_right (within time sent) ms).trans (Nat.le_of_eq (Nat.add_assoc ..))
  | resting wake =>
      intro time sent
      have bound := within time sent
      simp only [Timer.overrun]
      omega

theorem Timer.Within.woken {wake : Nat}
    (within : (Timer.resting wake).Within late pause deadline now last) :
    Timer.ready.Within late pause deadline now last :=
  fun time sent => (Nat.le_max_left _ _).trans (within time sent)

theorem Timer.Within.bound (within : timer.Within late pause deadline now last) {time : Nat}
    (sent : last = some time) : min now deadline ≤ time + pause + late := by
  cases timer with
  | unset => simp [Timer.Within, sent] at within
  | ready => exact (Nat.min_le_left _ _).trans (within time sent)
  | resting wake => exact (Nat.min_le_left _ _).trans (within.woken time sent)
  | done => exact (Nat.min_le_right _ _).trans (within time sent)

/-- A send that completes now is within every pause. -/
theorem Timer.within_sent : Timer.ready.Within late pause deadline now (some now) := by
  rintro _ ⟨⟩
  exact (Nat.le_add_right _ _).trans (Nat.le_add_right _ _)

/-- A writer that leaves its loop at the deadline. -/
theorem Timer.Within.stop (within : timer.Within late pause deadline now last)
    (past : deadline ≤ now) : Timer.done.Within late pause deadline now last := by
  intro time sent
  have bound := within.bound sent
  rwa [Nat.min_eq_right past] at bound

end Timer

/-! ## Prompt runs -/

/-- The timer of a protocol's writer, the sends that the network refuses, and
the longest sleep between two sends. -/
structure Pacing (Task Label : Type) where
  timer : Task → Timer
  refuses : Label → Bool
  pauseMs : Nat

section Machine

variable {Task Label : Type} {program : FlowProgram Task Label} {config : RunConfig}
  {traffic : Traffic Task Label} {pacing : Pacing Task Label} {index late : Nat}
  {steps : List (RunState Task × RunLabel Label)} {state : RunState Task}

def Pacing.accepts (pacing : Pacing Task Label) : RunLabel Label → Bool
  | .flow _ label => !pacing.refuses label
  | _ => true

/-- What a step adds to the lateness of the writer of flow `index`. -/
def Pacing.overrun (pacing : Pacing Task Label) (index : Nat)
    (entry : RunState Task × RunLabel Label) : Nat :=
  match entry.2 with
  | .elapse ms =>
      (entry.1.flows[index]?).elim 0 fun flow =>
        (pacing.timer flow.task).overrun entry.1.now ms
  | _ => 0

/-- By how much the writer of flow `index` has been late since its last send: after its
timers, and in the send under way. -/
def lateMs (traffic : Traffic Task Label) (pacing : Pacing Task Label) (index : Nat)
    (steps : List (RunState Task × RunLabel Label)) : Nat :=
  steps.foldl (fun late entry =>
    if (observe traffic.sent index entry).isSome then 0 else late + pacing.overrun index entry) 0

/-- No send is refused, and between two sends no writer is late by more than `late`. -/
structure Prompt (traffic : Traffic Task Label) (pacing : Pacing Task Label) (late : Nat)
    (steps : List (RunState Task × RunLabel Label)) : Prop where
  accepted : ∀ entry ∈ steps, pacing.accepts entry.2 = true
  late : ∀ position, (inside : position < steps.length) →
    ∀ index < steps[position].1.flows.length,
      lateMs traffic pacing index (steps.take position) ≤ late

theorem lateMs_snoc (steps : List (RunState Task × RunLabel Label))
    (entry : RunState Task × RunLabel Label) :
    lateMs traffic pacing index (steps ++ [entry]) =
      if (observe traffic.sent index entry).isSome then 0
      else lateMs traffic pacing index steps + pacing.overrun index entry := by
  simp [lateMs, List.foldl_append]

/-- A step of another task is no send, and makes no writer late. -/
theorem lateMs_snoc_foreign {entry : RunState Task × RunLabel Label}
    (foreign : ∀ label, entry.2 ≠ .flow index label) (still : ∀ ms, entry.2 ≠ .elapse ms) :
    lateMs traffic pacing index (steps ++ [entry]) = lateMs traffic pacing index steps := by
  have overrun : pacing.overrun index entry = 0 := by
    unfold Pacing.overrun
    split
    · rename_i ms clock
      exact absurd clock (still ms)
    · rfl
  rw [lateMs_snoc, observe_foreign foreign, overrun]
  rfl

/-- `paced late now last task` holds of a task whose last send was at `last` and whose
writer has been late by `late` since. -/
structure Paces (program : FlowProgram Task Label) (config : RunConfig)
    (traffic : Traffic Task Label) (pacing : Pacing Task Label)
    (paced : Nat → Nat → Option Nat → Task → Prop) : Prop where
  within : ∀ late now last task, paced late now last task →
    (pacing.timer task).Within late pacing.pauseMs config.deadline now last
  start : ∀ wake, paced 0 0 none (program.start wake)
  clock : ∀ late now ms last task, paced late now last task →
    paced (late + (pacing.timer task).overrun now ms) (now + ms) last task
  step : ∀ late now id last task label event next,
    program.step now id task label = some (event, next) → pacing.refuses label = false →
    (∀ message, event = .broken message → config.deadline ≤ now) → paced late now last task →
    paced (if (traffic.sent task label).isSome then 0 else late) now
      (if (traffic.sent task label).isSome then some now else last) next

theorem paced_of_run {paced : Nat → Nat → Option Nat → Task → Prop}
    (paces : Paces program config traffic pacing paced)
    (run : (runMachine program config).Run (initialRun program config) steps state)
    (accepted : ∀ entry ∈ steps, pacing.accepts entry.2 = true) :
    ∀ (index : Nat) flow, state.flows[index]? = some flow → flow.conn.disconnected = false →
      paced (lateMs traffic pacing index steps) state.now (lastMs traffic.sent index steps)
        flow.task := by
  intro index flow present unbroken
  refine flow_timed_history (fun steps index now flow =>
    (∀ entry ∈ steps, pacing.accepts entry.2 = true) → flow.conn.disconnected = false →
      paced (lateMs traffic pacing index steps) now (lastMs traffic.sent index steps) flow.task)
    ?_ ?_ ?_ ?_ ?_ run index flow present accepted unbroken
  · exact fun _ wake _ _ => paces.start wake
  · intro steps state index label flow event task before present running holds taken accepted unbroken
    have here := accepted _ (List.mem_append_right _ (List.mem_singleton_self _))
    have whole : flow.conn.disconnected = false := by
      by_contra flagged
      rw [event.apply_disconnected_of_disconnected _ _ _ _ (by simpa using flagged)] at unbroken
      simp at unbroken
    have past : ∀ message, event = .broken message → config.deadline ≤ state.now := by
      rintro message rfl
      by_contra early
      rw [FlowEvent.apply_broken _ _ _ _ _ running (Nat.not_le.mp early)] at unbroken
      simp at unbroken
    have earlier := holds (fun entry member => accepted entry (List.mem_append_left _ member)) whole
    rw [lastMs_snoc, lateMs_snoc, observe_own traffic.sent label present]
    exact paces.step _ _ _ _ _ _ _ _ taken (by simpa [Pacing.accepts] using here) past earlier
  · intro steps index now seen run flow holds accepted unbroken
    rw [visitFlow_conn_eq] at unbroken
    exact holds accepted unbroken
  · intro steps entry index now flow foreign still holds accepted unbroken
    rw [lastMs_snoc, observe_foreign foreign, lateMs_snoc_foreign foreign still]
    exact holds (fun entry member => accepted entry (List.mem_append_left _ member)) unbroken
  · intro steps state index ms flow before present holds accepted unbroken
    have earlier := holds (fun entry member => accepted entry (List.mem_append_left _ member))
      unbroken
    have overrun : pacing.overrun index (state, (.elapse ms : RunLabel Label)) =
        (pacing.timer flow.task).overrun state.now ms := by
      simp [Pacing.overrun, present]
    rw [lastMs_snoc, lateMs_snoc, observe_foreign (by simp), overrun]
    exact paces.clock _ _ ms _ _ earlier

/-- A prompt writer with a short enough pause keeps sending. -/
theorem keepsSending_of_prompt {paced : Nat → Nat → Option Nat → Task → Prop}
    (paces : Paces program config traffic pacing paced)
    (run : (runMachine program config).Run (initialRun program config) steps state)
    (prompt : Prompt traffic pacing late steps)
    (short : pacing.pauseMs + late ≤ config.stallMs) : KeepsSending config traffic steps := by
  rintro before entry after index seen conn last rfl ⟨due, task, _, visiting, present⟩ unbroken sent
  obtain ⟨_, earlier, _, _⟩ := run.split rfl
  obtain ⟨past, early⟩ := tick_of_visiting earlier _ _ _ visiting
  have paced := paced_of_run paces earlier
    (fun entry member => prompt.accepted entry (List.mem_append_left _ member)) index _ present
    unbroken
  have bound := (paces.within _ _ _ _ paced).bound sent
  have slack : lateMs traffic pacing index before ≤ late := by
    have here := prompt.late before.length (by simp) index
      (by simpa using (List.getElem?_eq_some_iff.mp present).1)
    simpa using here
  calc seen ≤ min entry.1.now config.deadline := Nat.le_min.mpr ⟨past, Nat.le_of_lt early⟩
    _ ≤ last + pacing.pauseMs + lateMs traffic pacing index before := bound
    _ ≤ last + pacing.pauseMs + late := Nat.add_le_add_left slack _
    _ = last + (pacing.pauseMs + late) := Nat.add_assoc _ _ _
    _ ≤ last + config.stallMs := Nat.add_le_add_left short last

end Machine

/-! ## The two writers -/

namespace TcpFlow

open Npt.Ci.Protocol

def Writer.timer : Writer → Timer
  | .checking | .writing _ _ => .ready
  | .pacing wake => .resting wake
  | .stopped => .done

def Task.timer : Task → Timer
  | .ramping _ | .connecting _ => .unset
  | .streaming stream => stream.writer.timer
  | .returned => .done

/-- Every frame of a flow has the same length, and so the same pacing sleep. -/
def pacing (config : RunConfig) : Pacing Task Label where
  timer := Task.timer
  refuses _ := false
  pauseMs := paceMs config.params.sendRateBps (headerLen + max config.params.payloadBytes 1)

/-- A task whose last send was at `last`. A frame that the kernel has taken whole was the
last to be sent, and the time since is lateness. -/
structure Paced (config : RunConfig) (late now : Nat) (last : Option Nat) (task : Task) : Prop where
  timer : task.timer.Within late (pacing config).pauseMs config.deadline now last
  frame : ∀ stream frame unsent, task = .streaming stream →
    stream.writer = .writing frame unsent →
    frame.payload.length = max config.params.payloadBytes 1 ∧
      (unsent = [] → ∀ time, last = some time → now ≤ time + late)

/-- A step that leaves the writer as it is. -/
private theorem Paced.keep {config : RunConfig} {late now : Nat} {last : Option Nat}
    {stream after : Stream} (paced : Paced config late now last (.streaming stream))
    (same : after.writer = stream.writer) : Paced config late now last (.streaming after) where
  timer := by
    simp only [Task.timer, same]
    exact paced.timer
  frame := by
    rintro _ frame unsent ⟨⟩ writing
    exact paced.frame stream frame unsent rfl (same ▸ writing)

/-- The kernel takes a piece of a frame, which is sent when the piece is the last. -/
private theorem Paced.takePiece {config : RunConfig} {late now room count : Nat} {last : Option Nat}
    {stream : Stream} {frame : Frame} {unsent : List UInt8}
    (paced : Paced config late now last (.streaming stream))
    (writing : stream.writer = .writing frame unsent) (inFrame : count ≤ unsent.length) :
    Paced config
      (if (traffic.sent (.streaming stream) (.writerSend count)).isSome then 0 else late) now
      (if (traffic.sent (.streaming stream) (.writerSend count)).isSome then some now else last)
      (.streaming { stream with room := room, writer := .writing frame (unsent.drop count) }) := by
  obtain ⟨length, _⟩ := paced.frame stream frame unsent rfl writing
  have soon := paced.timer
  simp only [Task.timer, Writer.timer, writing] at soon
  have shown : traffic.sent (.streaming stream) (.writerSend count) =
      if count = unsent.length then some frame.seq else none := by
    simp [traffic, sentSeq, writing]
  rw [shown]
  split
  · refine ⟨Timer.within_sent, ?_⟩
    rintro _ _ _ ⟨⟩ ⟨⟩
    exact ⟨length, fun _ _ same => Nat.le_of_eq (Option.some.inj same)⟩
  · rename_i part
    refine ⟨soon, ?_⟩
    rintro _ _ _ ⟨⟩ ⟨⟩
    refine ⟨length, fun empty => ?_⟩
    have taken := List.drop_eq_nil_iff.mp empty
    exact absurd (Nat.le_antisymm inFrame taken) part

/-- A frame is sent, and the writer sleeps for what the frame takes at its rate. -/
private theorem Paced.sleep {config : RunConfig} {late now wake : Nat} {last : Option Nat}
    {stream : Stream} {frame : Frame} {seq : UInt64}
    (paced : Paced config late now last (.streaming stream))
    (writing : stream.writer = .writing frame [])
    (slept : wake = now + paceMs config.params.sendRateBps (frameLen frame)) :
    Paced config late now last (.streaming { stream with seq := seq, writer := .pacing wake }) := by
  obtain ⟨length, soon⟩ := paced.frame stream frame [] rfl writing
  rw [frameLen, length] at slept
  refine ⟨fun time sent => ?_, by rintro _ _ _ ⟨⟩ ⟨⟩⟩
  have soon := soon rfl time sent
  simp only [pacing]
  omega

theorem paces (config : RunConfig) :
    Paces (tcpFlow config) config traffic (pacing config) (Paced config) where
  within late now last task paced := paced.timer
  start wake := ⟨rfl, by simp [tcpFlow]⟩
  clock late now ms last task paced := by
    refine ⟨paced.timer.elapse ms, ?_⟩
    rintro stream frame unsent rfl writing
    obtain ⟨length, soon⟩ := paced.frame stream frame unsent rfl writing
    refine ⟨length, fun empty time sent => ?_⟩
    have overrun : ((pacing config).timer (.streaming stream)).overrun now ms = ms := by
      simp [pacing, Task.timer, Writer.timer, writing, Timer.overrun]
    rw [overrun, ← Nat.add_assoc]
    exact Nat.add_le_add_right (soon empty time sent) ms
  step := by
    intro late now id last task label event next taken _ broken paced
    cases taskMove_of_step taken with
    | woke => exact ⟨paced.timer, by simp⟩
    | connected =>
        have unset : last = none := paced.timer
        refine ⟨?_, by rintro _ _ _ ⟨⟩ ⟨⟩⟩
        simp [unset, traffic, sentSeq, Task.timer, Writer.timer, Timer.Within]
    | @refused since _ _ =>
        have unset : last = none := paced.timer
        have unsent : traffic.sent (.connecting since) label = none := by cases label <;> rfl
        refine ⟨?_, by simp⟩
        simp [unset, unsent, Task.timer, Timer.Within]
    | @streamed stream _ _ _ move =>
        cases move with
        | start checking early =>
            have soon := paced.timer
            simp only [Task.timer, Writer.timer, checking] at soon
            refine ⟨soon, ?_⟩
            rintro _ frame unsent ⟨⟩ ⟨⟩
            -- A frame that nothing was taken of is not empty.
            simp [nextFrame, Frame.encode]
        | stop checking late =>
            exact ⟨paced.timer.stop late, by rintro _ _ _ ⟨⟩ ⟨⟩⟩
        | send writing whole positive inRoom inFrame => exact paced.takePiece writing inFrame
        | @sent frame writing writer after =>
            rcases after with rfl | ⟨wake, rfl⟩
            · have soon := paced.timer
              simp only [Task.timer, Writer.timer, writing] at soon
              exact ⟨soon, by rintro _ _ _ ⟨⟩ ⟨⟩⟩
            · exact paced.sleep writing (wake_of_writerDone writing taken rfl)
        | writeFailed writing reset =>
            exact ⟨paced.timer.stop (broken _ rfl), by rintro _ _ _ ⟨⟩ ⟨⟩⟩
        | @paced wake pacing reached =>
            have rested := paced.timer
            simp only [Task.timer, Writer.timer, pacing] at rested
            exact ⟨rested.woken, by rintro _ _ _ ⟨⟩ ⟨⟩⟩
        | frame | delivered | closed | cut | drained => exact paced.keep rfl
        | ended reading past decided left => exact paced.keep rfl
        | joined readerStopped writerStopped =>
            have done := paced.timer
            simp only [Task.timer, Writer.timer, writerStopped] at done
            exact ⟨done, by simp⟩

theorem tallies (config : RunConfig) : Tallies (tcpFlow config) traffic := by
  intro now id task label event next taken
  cases taskMove_of_step taken with
  | woke | connected => rfl
  | @refused since => cases label <;> rfl
  | streamed move =>
      cases move with
      | frame reading read => simp [traffic, countedFrame, read, FlowEvent.receives]
      | ended reading past => simp [traffic, countedFrame, FlowEvent.receives]
      | _ => rfl

end TcpFlow

namespace UdpFlow

open Npt.Ci.Protocol

def Writer.timer : Writer → Timer
  | .checking due | .ticking due => .resting due
  | .sending _ _ => .ready
  | .stopped => .done

def Task.timer : Task → Timer
  | .ramping _ | .opening => .unset
  | .streaming socket => socket.writer.timer
  | .returned => .done

def pacing (config : RunConfig) : Pacing Task Label where
  timer := Task.timer
  refuses
    | .sendError _ => true
    | _ => false
  pauseMs := intervalMs config

/-- A task whose last send was at `last`. A datagram is sent no earlier than it is due, and
the next one is due an interval after this one was. -/
structure Paced (config : RunConfig) (late now : Nat) (last : Option Nat) (task : Task) : Prop where
  timer : task.timer.Within late (pacing config).pauseMs config.deadline now last
  datagram : ∀ socket due datagram, task = .streaming socket →
    socket.writer = .sending due datagram → due ≤ now ∧ (decodeUdp datagram).isSome = true

/-- A step that leaves the writer as it is. -/
private theorem Paced.keep {config : RunConfig} {late now : Nat} {last : Option Nat}
    {socket after : Socket} (paced : Paced config late now last (.streaming socket))
    (same : after.writer = socket.writer) : Paced config late now last (.streaming after) where
  timer := by
    simp only [Task.timer, same]
    exact paced.timer
  datagram := by
    rintro _ due datagram ⟨⟩ sending
    exact paced.datagram socket due datagram rfl (same ▸ sending)

theorem paces (config : RunConfig) :
    Paces (udpFlow config) config traffic (pacing config) (Paced config) where
  within late now last task paced := paced.timer
  start wake := ⟨rfl, by simp [udpFlow]⟩
  clock late now ms last task paced := by
    refine ⟨paced.timer.elapse ms, ?_⟩
    rintro socket due datagram rfl sending
    obtain ⟨reached, whole⟩ := paced.datagram socket due datagram rfl sending
    exact ⟨reached.trans (Nat.le_add_right _ _), whole⟩
  step := by
    intro late now id last task label event next taken accepted _ paced
    cases taskMove_of_step taken with
    | woke => exact ⟨paced.timer, by simp⟩
    | opened =>
        have unset : last = none := paced.timer
        refine ⟨?_, by rintro _ _ _ ⟨⟩ ⟨⟩⟩
        simp [unset, traffic, sentSeq, Task.timer, Writer.timer, Timer.Within]
    | refused =>
        have unset : last = none := paced.timer
        have unsent : traffic.sent .opening label = none := by cases label <;> rfl
        refine ⟨?_, by simp⟩
        simp [unset, unsent, Task.timer, Timer.Within]
    | @moved socket _ _ _ move =>
        have timer := paced.timer
        cases move with
        | start checking early =>
            simp only [Task.timer, Writer.timer, checking] at timer
            exact ⟨timer, by rintro _ _ _ ⟨⟩ ⟨⟩⟩
        | stop checking late => exact ⟨timer.stop late, by rintro _ _ _ ⟨⟩ ⟨⟩⟩
        | @tick due nowMicros ticking reached =>
            simp only [Task.timer, Writer.timer, ticking] at timer
            refine ⟨timer.woken, ?_⟩
            rintro _ _ _ ⟨⟩ ⟨⟩
            exact ⟨reached, by simp [nextDatagram, decodeUdp_encodeUdp]⟩
        | @sent due datagram sending =>
            obtain ⟨reached, whole⟩ := paced.datagram socket due datagram rfl sending
            have shown : (traffic.sent (.streaming socket) .sendOk).isSome = true := by
              simpa [traffic, sentSeq, sending] using whole
            rw [if_pos shown, if_pos shown]
            refine ⟨?_, by rintro _ _ _ ⟨⟩ ⟨⟩⟩
            rintro _ ⟨⟩
            simp only [pacing]
            omega
        | unsent => simp [pacing] at accepted
        | joined readerStopped writerStopped =>
            simp only [Task.timer, Writer.timer, writerStopped] at timer
            exact ⟨timer, by simp⟩
        | received | ignored | readerFailed | readerDone | again | delivered =>
            exact paced.keep rfl

theorem tallies (config : RunConfig) : Tallies (udpFlow config) traffic := by
  intro now id task label event next taken
  cases taskMove_of_step taken with
  | woke | opened => rfl
  | refused => cases label <;> rfl
  | moved move =>
      cases move with
      | received receiving arrived valid =>
          simp [traffic, countedSeq, seqOf, arrived, valid, FlowEvent.receives]
      | ignored receiving arrived invalid =>
          simp [traffic, countedSeq, seqOf, arrived, invalid, FlowEvent.receives]
      | _ => rfl

end UdpFlow

/-! ## False stalls -/

section FalseStall

variable {Task Label : Type}

/-- The stalls of a run are pauses of senders, and a run whose senders do not pause for
longer than the stall limit has none. Writers that wait for nothing but their pacing do
not, if their lateness leaves room for the pause. -/
structure OnlyPauses (config : RunConfig) (traffic : Traffic Task Label)
    (pacing : Pacing Task Label) (steps : List (RunState Task × RunLabel Label))
    (stalls : List StallEvent) : Prop where
  pause : ∀ event ∈ stalls, Pause config traffic steps event
  sending : KeepsSending config traffic steps → stalls = []
  prompt : ∀ late, Prompt traffic pacing late steps →
    pacing.pauseMs + late ≤ config.stallMs → stalls = []

private theorem onlyPauses_of_run {program : FlowProgram Task Label} {config : RunConfig}
    {traffic : Traffic Task Label} {pacing : Pacing Task Label}
    {steps : List (RunState Task × RunLabel Label)} {state : RunState Task} {phase : Task → Phase}
    {paced : Nat → Nat → Option Nat → Task → Prop} (phased : Phased program phase)
    (tallies : Tallies program traffic) (paces : Paces program config traffic pacing paced)
    (run : (runMachine program config).Run (initialRun program config) steps state)
    (echoed : EchoedAtOnce traffic steps) :
    OnlyPauses config traffic pacing steps state.run.stalls where
  pause := pause_of_stall phased tallies run echoed
  sending := no_stall_of_keepsSending phased tallies run echoed
  prompt _ prompt short :=
    no_stall_of_keepsSending phased tallies run echoed
      (keepsSending_of_prompt paces run prompt short)

end FalseStall

/-- On a path that echoes at once, a stall event is a pause of its flow's sender. -/
theorem only_pauses_stall (config : RunConfig) :
    (∀ steps state, (TcpFlow.runTcp config).Run (TcpFlow.startTcp config) steps state →
      EchoedAtOnce TcpFlow.traffic steps →
      OnlyPauses config TcpFlow.traffic (TcpFlow.pacing config) steps state.run.stalls) ∧
      ∀ steps state, (UdpFlow.runUdp config).Run (UdpFlow.startUdp config) steps state →
        EchoedAtOnce UdpFlow.traffic steps →
        OnlyPauses config UdpFlow.traffic (UdpFlow.pacing config) steps state.run.stalls := by
  constructor
  · intro steps state run echoed
    exact onlyPauses_of_run (TcpFlow.phased config) (TcpFlow.tallies config) (TcpFlow.paces config)
      run echoed
  · intro steps state run echoed
    exact onlyPauses_of_run (UdpFlow.phased config) (UdpFlow.tallies config) (UdpFlow.paces config)
      run echoed

/-! ### Senders within the stall limit and beyond it -/

/-- Both writers pause for 625 ms, and a second is the stall limit: the runs below find
them 375 ms late. -/
def steadySender : RunConfig where
  endpoint := "127.0.0.1:9"
  params :=
    { connectionsPerPort := 1
      durationSecs := 3
      payloadBytes := 1
      rampMs := 0
      sendRateBps := 40
      udpIntervalMs := 625 }
  stallSecs := 1

/-- The same limit with writers that pause for two seconds and a half. -/
def slowSender : RunConfig where
  endpoint := "127.0.0.1:9"
  params :=
    { connectionsPerPort := 1
      durationSecs := 3
      payloadBytes := 1
      rampMs := 0
      sendRateBps := 10
      udpIntervalMs := 2500 }
  stallSecs := 1

/-- Passes of the watchdog over one flow, a quarter of a second apart. -/
def passes (Label : Type) (count : Nat) : List (RunLabel Label) :=
  (List.replicate count [.watchdogTick, .watchdogVisit, .watchdogVisit, .elapse 250]).flatten

/-- A frame is sent, and comes back before anything else happens. -/
def echoedFrame (seq : UInt64) : List (RunLabel TcpFlow.Label) :=
  [.flow 0 (.writerCheck 7), .flow 0 (.writerSend 25), .flow 0 .writerDone,
    .flow 0 (.peerSend (Protocol.Frame.mk seq 7 [0xA5]).encode), .flow 0 (.read 9)]

/-- A datagram is sent, and comes back before anything else happens. -/
def echoedDatagram (seq : UInt64) : List (RunLabel UdpFlow.Label) :=
  [.flow 0 .writerCheck, .flow 0 (.writerTick 7), .flow 0 .sendOk,
    .flow 0 (.deliver (Protocol.encodeUdp seq 7 [0xA5])), .flow 0 (.recv 9)]

def steadyTcp : List (RunLabel TcpFlow.Label) :=
  [.flow 0 .wake, .flow 0 (.connectOk 100)] ++ echoedFrame 0 ++ passes _ 4 ++
    [.watchdogTick, .watchdogVisit, .flow 0 .writerWake] ++ echoedFrame 1

def steadyUdp : List (RunLabel UdpFlow.Label) :=
  [.flow 0 .wake, .flow 0 .opened] ++ echoedDatagram 0 ++ passes _ 4 ++
    [.watchdogTick, .watchdogVisit] ++ echoedDatagram 1

def slowTcp : List (RunLabel TcpFlow.Label) :=
  [.flow 0 .wake, .flow 0 (.connectOk 100)] ++ echoedFrame 0 ++ passes _ 5 ++ [.watchdogTick]

def slowUdp : List (RunLabel UdpFlow.Label) :=
  [.flow 0 .wake, .flow 0 .opened] ++ echoedDatagram 0 ++ passes _ 5 ++ [.watchdogTick]

theorem only_pauses_stall_senders :
    (∃ steps state, (TcpFlow.runTcp steadySender).Run (TcpFlow.startTcp steadySender) steps state ∧
        state.now = 1000 ∧ state.run.stalls = []) ∧
      (∃ steps state, (UdpFlow.runUdp steadySender).Run (UdpFlow.startUdp steadySender) steps state ∧
        state.now = 1000 ∧ state.run.stalls = []) ∧
      ∃ steps state event, (TcpFlow.runTcp slowSender).Run (TcpFlow.startTcp slowSender) steps state ∧
        event ∈ state.run.stalls ∧ Pause slowSender TcpFlow.traffic steps event := by
  refine ⟨?_, ?_, ?_⟩
  · obtain ⟨state, played, now⟩ := Option.map_eq_some_iff.mp (show
      ((TcpFlow.runTcp steadySender).play (TcpFlow.startTcp steadySender) steadyTcp).map
        RunState.now = some 1000 by decide +kernel)
    have run := Machine.run_of_play played
    have pauses := (only_pauses_stall steadySender).1 _ _ run (by decide +kernel)
    exact ⟨_, state, run, now,
      pauses.prompt 375 ⟨by decide +kernel, by decide +kernel⟩ (by decide +kernel)⟩
  · obtain ⟨state, played, now⟩ := Option.map_eq_some_iff.mp (show
      ((UdpFlow.runUdp steadySender).play (UdpFlow.startUdp steadySender) steadyUdp).map
        RunState.now = some 1000 by decide +kernel)
    have run := Machine.run_of_play played
    have pauses := (only_pauses_stall steadySender).2 _ _ run (by decide +kernel)
    exact ⟨_, state, run, now,
      pauses.prompt 375 ⟨by decide +kernel, by decide +kernel⟩ (by decide +kernel)⟩
  · obtain ⟨state, played, stalls⟩ := Option.map_eq_some_iff.mp (show
      ((TcpFlow.runTcp slowSender).play (TcpFlow.startTcp slowSender)
        (slowTcp ++ [.watchdogVisit])).map (fun state => state.run.stalls) =
          some [⟨0, 5 / 4, 1250⟩] by decide +kernel)
    have run := Machine.run_of_play played
    have pauses := (only_pauses_stall slowSender).1 _ _ run (by decide +kernel)
    have recorded : ⟨0, 5 / 4, 1250⟩ ∈ state.run.stalls := by simp [stalls]
    exact ⟨_, state, _, run, recorded, pauses.pause _ recorded⟩

/-- Both writers pause, everything they sent has come back, and the watchdog
records a stall. -/
theorem stall_with_nothing_outstanding :
    (∃ steps state next,
        (TcpFlow.runTcp slowSender).Run (TcpFlow.startTcp slowSender) steps state ∧
          (TcpFlow.runTcp slowSender).step state .watchdogVisit = some next ∧
          EchoedAtOnce TcpFlow.traffic (steps ++ [(state, .watchdogVisit)]) ∧
          observed TcpFlow.traffic.sent 0 steps = [0] ∧
          observed TcpFlow.traffic.counted 0 steps = [0] ∧
          state.run.stalls = [] ∧ next.run.stalls = [⟨0, 5 / 4, 1250⟩]) ∧
      ∃ steps state next,
        (UdpFlow.runUdp slowSender).Run (UdpFlow.startUdp slowSender) steps state ∧
          (UdpFlow.runUdp slowSender).step state .watchdogVisit = some next ∧
          EchoedAtOnce UdpFlow.traffic (steps ++ [(state, .watchdogVisit)]) ∧
          observed UdpFlow.traffic.sent 0 steps = [0] ∧
          observed UdpFlow.traffic.counted 0 steps = [0] ∧
          state.run.stalls = [] ∧ next.run.stalls = [⟨0, 5 / 4, 1250⟩] := by
  constructor
  · refine ⟨(TcpFlow.runTcp slowSender).trace (TcpFlow.startTcp slowSender) slowTcp,
      ((TcpFlow.runTcp slowSender).play (TcpFlow.startTcp slowSender) slowTcp).get
        (by decide +kernel), _,
      Machine.run_of_play (Option.some_get _).symm, (Option.some_get (by decide +kernel)).symm,
      by decide +kernel, by decide +kernel, by decide +kernel, by decide +kernel, by decide +kernel⟩
  · refine ⟨(UdpFlow.runUdp slowSender).trace (UdpFlow.startUdp slowSender) slowUdp,
      ((UdpFlow.runUdp slowSender).play (UdpFlow.startUdp slowSender) slowUdp).get
        (by decide +kernel), _,
      Machine.run_of_play (Option.some_get _).symm, (Option.some_get (by decide +kernel)).symm,
      by decide +kernel, by decide +kernel, by decide +kernel, by decide +kernel, by decide +kernel⟩

end Npt.Ci.Client
