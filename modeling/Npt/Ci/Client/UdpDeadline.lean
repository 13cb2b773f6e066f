import Npt.Ci.Client.Finishing
import Npt.Ci.Client.UdpReader

/-!
Owns: how many calls of `recv` the reader of a UDP flow makes past the deadline.
Only a call that times out looks at the clock, so the reader goes on for as long
as every call is handed a datagram; a run whose readers have all ended can return.
-/

namespace Npt.Ci.Client.UdpFlow

open Npt.Core
open Npt.Ci.Protocol

/-- The calls of `recv` that return past the deadline. -/
def lateCalls (config : RunConfig) (steps : List (Nat × Label)) : Nat :=
  lateCount config (fun label => label.takes || label.unfilled) steps

/-- Past the deadline the loop makes at most `bound` further iterations, and has
ended with the last of them. -/
def EndsWithin (config : RunConfig) (bound : Nat) (steps : List (Nat × Label)) (task : Task) :
    Prop :=
  lateCalls config steps ≤ bound ∧ (lateCalls config steps = bound → Ended task)

variable {config : RunConfig} {steps : List (Nat × Label)} {now : Nat} {task : Task}

theorem lateCalls_eq : lateCalls config steps =
    lateCount config Label.takes steps + lateCount config Label.unfilled steps := by
  induction steps with
  | nil => rfl
  | cons step rest inductionHypothesis =>
      have kinds : ¬(step.2.takes = true ∧ step.2.unfilled = true) := by
        cases step.2 <;> simp [Label.takes, Label.unfilled]
      simp only [lateCalls, lateCount, List.countP_cons] at inductionHypothesis ⊢
      rw [inductionHypothesis]
      by_cases late : config.deadline ≤ step.1
      · cases takes : step.2.takes <;> cases unfilled : step.2.unfilled <;>
          simp_all <;> omega
      · simp [late]

/-- A reader that has not ended was handed a datagram by every late call; one
that has ended was handed one by every late call but the last. -/
theorem endsWithin_iff (ending : Ending config steps now task) {bound : Nat} (positive : 0 < bound) :
    EndsWithin config bound steps task ↔ lateCount config Label.takes steps < bound := by
  rw [EndsWithin, lateCalls_eq]
  by_cases ends : Ended task
  · rcases ending.ended ends with one | ⟨none, untaken⟩
    · rw [one]
      exact ⟨fun within => by omega, fun fewer => ⟨by omega, fun _ => ends⟩⟩
    · rw [none, untaken]
      exact ⟨fun _ => positive, fun _ => ⟨by omega, fun _ => ends⟩⟩
  · rw [(ending.running ends).2, Nat.add_zero]
    constructor
    · rintro ⟨within, reached⟩
      exact lt_of_le_of_ne within fun full => ends (reached full)
    · exact fun fewer => ⟨fewer.le, fun full => absurd full (Nat.ne_of_lt fewer)⟩

/-! ## When every reader has ended -/

/-- A step of the run that is not the network's. -/
def own : RunLabel Label → Prop
  | .flow _ (.deliver _) => False
  | _ => True

/-- A bound on the steps that the writer takes to its end past the deadline. -/
def Writer.remaining : Writer → Nat
  | .ticking _ => 3
  | .sending _ _ => 2
  | .checking _ => 1
  | .stopped => 0

/-- The same for a task whose reader has ended. -/
def Task.remaining : Task → Nat
  | .streaming socket => socket.writer.remaining + 1
  | _ => 0

/-- A reader that has ended does not begin again. -/
theorem ended_of_step {id : Nat} {next : Task} {label : Label} {event : FlowEvent}
    (ended : Ended task) (taken : step config now id task label = some (event, next)) :
    Ended next := by
  cases taskMove_of_step taken with
  | woke | opened | refused => exact ended.elim
  | moved move =>
      cases move with
      | received receiving | ignored receiving | readerFailed receiving | readerDone receiving
      | again receiving => exact absurd (ended.symm.trans receiving) (by simp)
      | joined => trivial
      | _ => exact ended

/-- Behind its reader a flow has only its writer to wait for. -/
theorem closer_of_ended (now id : Nat) (ended : Ended task) (unfinished : task ≠ .returned) :
    ∃ ms label, (∀ index, own (.flow index label)) ∧
      Closer Task.remaining task.remaining (step config (now + ms) id task label) := by
  cases task with
  | ramping | opening => exact ended.elim
  | returned => exact absurd rfl unfinished
  | streaming socket =>
      cases writer : socket.writer with
      | checking due =>
          refine ⟨config.deadline, .writerCheck, fun _ => trivial, ?_⟩
          simp [Closer, step, socketStep, writer, Task.remaining, Writer.remaining]
      | ticking due =>
          refine ⟨due, .writerTick 0, fun _ => trivial, ?_⟩
          simp [Closer, step, socketStep, writer, Task.remaining, Writer.remaining]
      | sending due datagram =>
          refine ⟨0, .sendOk, fun _ => trivial, ?_⟩
          simp [Closer, step, socketStep, writer, Task.remaining, Writer.remaining]
      | stopped =>
          have stopped : socket.reader = .stopped := ended
          refine ⟨0, .join, fun _ => trivial, ?_⟩
          simp [Closer, step, socketStep, writer, stopped, Task.remaining]

/-- A run whose readers have all ended finishes by steps that are not the network's. -/
theorem finishes (config : RunConfig) :
    Finishes (udpFlow config) config own (fun state => ∀ flow ∈ state.flows, Ended flow.task)
      Task.remaining where
  collects label collected := by
    cases label with
    | flow => simp [RunLabel.collects] at collected
    | _ => trivial
  join := trivial
  kept := by
    intro state next label ended _ taken
    cases taken with
    | clock | watchdogStop | watchdogStart | visitDone | sample | join | finalize => exact ended
    | @flow index label flow event task present taken =>
        intro other member
        rcases List.mem_or_eq_of_mem_set member with old | rfl
        · exact ended other old
        · exact ended_of_step (ended flow (List.mem_of_getElem? present)) taken
    | @visit now due index flow visiting present =>
        intro other member
        rcases List.mem_or_eq_of_mem_set member with old | rfl
        · exact ended other old
        · exact ended flow (List.mem_of_getElem? present)
  closer ended member unfinished :=
    closer_of_ended _ _ (ended _ member) (of_decide_eq_false unfinished)

/-! ## The end of a reader -/

/-- The reader of a flow ends within a number of iterations past the deadline
exactly if fewer calls than that are handed a datagram there; and where every reader
has ended, the run can return by steps of its own. -/
theorem reader_ends_iff (config : RunConfig) {trace : List (RunState Task × RunLabel Label)}
    {state : RunState Task} (run : (runUdp config).Run (startUdp config) trace state)
    {index : Nat} {flow : Flow Task} (present : state.flows[index]? = some flow) {bound : Nat}
    (positive : 0 < bound) :
    (EndsWithin config bound (ownSteps index trace) flow.task ↔
      lateCount config Label.takes (ownSteps index trace) < bound) ∧
    ((∀ flow ∈ state.flows, Ended flow.task) → ∃ final metrics,
      (runUdp config).ReachableBy own state final ∧ final.main = .returned metrics) :=
  ⟨endsWithin_iff (ending_of_run run index flow present) positive,
    fun ended => (finishes config).completes run ended⟩

theorem reader_ends_iff_echoedOnTime :
    ∃ trace state flow, (runUdp oneSecond).Run (startUdp oneSecond) trace state ∧
      state.flows[0]? = some flow ∧ EndsWithin oneSecond 1 (ownSteps 0 trace) flow.task := by
  obtain ⟨flow, found, -⟩ := Option.map_eq_some_iff.mp (show
    (((runUdp oneSecond).play (startUdp oneSecond) echoedOnTime).bind
      (fun state => state.flows[0]?)).map (fun flow => flow.conn.udpRecv) = some 1 by
    decide +kernel)
  obtain ⟨state, played, present⟩ := Option.bind_eq_some_iff.mp found
  have run := Machine.run_of_play played
  exact ⟨_, state, flow, run, present,
    (reader_ends_iff oneSecond run present (by decide)).1.mpr (by decide +kernel)⟩

/-! ## Traffic that does not stop -/

/-- The reader of flow `0` is inside a call of `recv`, past the deadline. -/
structure Lingering (config : RunConfig) (state : RunState Task) : Prop where
  past : config.deadline ≤ state.now
  opened : ∃ conn socket since, state.flows[0]? = some ⟨conn, .streaming socket⟩ ∧
    socket.reader = .receiving since ∧ socket.queue = []

/-- A step of the flow's task is a step of the run. -/
theorem flow_step {state : RunState Task} {index : Nat} {conn : ConnState} {task next : Task}
    {label : Label} {event : FlowEvent} (present : state.flows[index]? = some ⟨conn, task⟩)
    (own : step config state.now conn.id task label = some (event, next)) :
    ∃ after, (runUdp config).step state (.flow index label) = some after ∧
      after.now = state.now ∧ ∃ changed, after.flows[index]? = some ⟨changed, next⟩ :=
  have taken : Taken (udpFlow config) config state (.flow index label) _ := .flow present own
  ⟨_, step_of_taken taken, rfl, _, getElem?_set_self_of_some present _⟩

/-- A waiting datagram, valid or not, lets the loop go on. -/
theorem step_recv {id since : Nat} {socket : Socket} {datagram : List UInt8}
    {rest : List (List UInt8)} (receiving : socket.reader = .receiving since)
    (waiting : socket.queue = datagram :: rest) (nowMicros : UInt64) :
    ∃ event, step config now id (.streaming socket) (.recv nowMicros) =
      some (event, .streaming { socket with queue := rest, reader := .receiving now }) := by
  simp only [step, socketStep, receiving, waiting]
  split
  · exact ⟨_, rfl⟩
  · exact ⟨_, rfl⟩

/-- Another datagram, half a second later, and the reader is where it was. -/
theorem Lingering.again {state : RunState Task} (lingering : Lingering config state)
    (datagram : List UInt8) :
    ∃ trace next, (runUdp config).Run state trace next ∧ Lingering config next ∧
      lateCalls config (ownSteps 0 trace) = 1 := by
  obtain ⟨past, conn, socket, since, present, receiving, empty⟩ := lingering
  obtain ⟨arrived, delivery, sameTime, changed, there⟩ := @flow_step config state 0 conn
    (.streaming socket) _ (.deliver datagram) _ present rfl
  obtain ⟨event, own⟩ := @step_recv config (state.now + 500) changed.id since
    { socket with queue := socket.queue ++ [datagram] } datagram [] receiving (by simp [empty]) 0
  let later : RunState Task := { arrived with now := arrived.now + 500 }
  have clock : (runUdp config).step arrived (.elapse 500) = some later := rfl
  have time : later.now = state.now + 500 := congrArg (· + 500) sameTime
  rw [← time] at own
  obtain ⟨next, taken, sameAfter, counted, here⟩ := @flow_step config later 0 _ _ _ _ _ there own
  refine ⟨_, next, ((Machine.Run.single delivery).snoc clock).snoc taken, ⟨?_, ?_⟩, ?_⟩
  · rw [sameAfter, time]
    exact past.trans (Nat.le_add_right _ _)
  · exact ⟨counted, _, later.now, here, rfl, rfl⟩
  · have late : config.deadline ≤ later.now := time ▸ past.trans (Nat.le_add_right _ _)
    simp [ownSteps, lateCalls, lateCount, Label.takes, Label.unfilled, late]

theorem ownSteps_append (index : Nat) (earlier later : List (RunState Task × RunLabel Label)) :
    ownSteps index (earlier ++ later) = ownSteps index earlier ++ ownSteps index later :=
  List.filterMap_append ..

theorem lateCalls_append (earlier later : List (Nat × Label)) :
    lateCalls config (earlier ++ later) = lateCalls config earlier + lateCalls config later :=
  List.countP_append ..

/-- Past the deadline the reader of a lingering flow can be kept in its loop for
any number of iterations. -/
theorem Lingering.unbounded {state : RunState Task} (lingering : Lingering config state)
    (bound : Nat) :
    ∃ trace next, (runUdp config).Run state trace next ∧ Lingering config next ∧
      lateCalls config (ownSteps 0 trace) = bound := by
  induction bound with
  | zero => exact ⟨[], state, .nil, lingering, rfl⟩
  | succ bound inductionHypothesis =>
      obtain ⟨trace, middle, run, still, calls⟩ := inductionHypothesis
      obtain ⟨more, next, further, again, one⟩ := still.again (encodeUdp 0 7 [0xA5])
      refine ⟨trace ++ more, next, run.append further, again, ?_⟩
      rw [ownSteps_append, lateCalls_append, calls, one]

def openUntilDeadline : List (RunLabel Label) := [.flow 0 .wake, .flow 0 .opened, .elapse 1000]

/-- A flow whose socket is open at the deadline. -/
def openAtDeadline : RunState Task :=
  ((runUdp oneSecond).play (startUdp oneSecond) openUntilDeadline).get (by decide +kernel)

/-- No number of iterations bounds the reader's loop past the deadline, and the
run has not returned. -/
theorem reader_outlives_every_bound :
    ∃ config, ∀ bound, ∃ trace state, (runUdp config).Run (startUdp config) trace state ∧
      bound < lateCalls config (ownSteps 0 trace) ∧ state.result = none := by
  have lingering : Lingering oneSecond openAtDeadline :=
    { past := by decide +kernel
      opened := ⟨{ id := 0, connected := true },
        { reader := .receiving 0, writer := .checking 0 }, 0, by decide +kernel, rfl, rfl⟩ }
  refine ⟨oneSecond, fun bound => ?_⟩
  obtain ⟨trace, state, run, still, calls⟩ := lingering.unbounded (bound + 1)
  have opening : (runUdp oneSecond).Run (startUdp oneSecond)
      ((runUdp oneSecond).trace (startUdp oneSecond) openUntilDeadline) openAtDeadline :=
    Machine.run_of_play (Option.some_get _).symm
  have whole := opening.append run
  refine ⟨_, state, whole, ?_, ?_⟩
  · rw [ownSteps_append, lateCalls_append, calls]
    omega
  · cases result : state.result with
    | none => rfl
    | some metrics =>
        obtain ⟨conn, socket, since, present, -⟩ := still.opened
        have done := main_returned_of_run whole (main_of_result result) _
          (List.mem_of_getElem? present)
        simp [udpFlow] at done

end Npt.Ci.Client.UdpFlow
