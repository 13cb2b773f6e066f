import Npt.Ci.Client.State
import Npt.Core.IndexedFamily
import Npt.Core.TransitionSystem

/-!
Contract: the body that `run_tcp` and `run_udp` share (`ci/src/client.rs`).

A run is the flow tasks, the stall watchdog, the throughput sampler and the
task that joins the flows and finalizes. One step is the code of one task
between two points where it waits, but for the sampler, whose reads of the flows'
counters are steps apart; time advances in its own steps, in milliseconds since the
run's base instant. What a flow task does is a `FlowProgram`; the two protocols
differ only in it and in their name.

Owns: the machine, the exhaustive list of its steps (`Taken`), and the rule
that lifts a per-flow invariant to every reachable state.

Does not own: either flow program, or any property of the collected metrics.
-/

namespace Npt.Ci.Client

open Npt.Core
open Npt.Ci.Config

/-! ## The tasks of a run -/

/-- The code of one flow task. `step` is given the time and the flow's id and
returns the shared-state block that runs with the step. -/
structure FlowProgram (Task Label : Type) where
  protocol : String
  /-- The task of a flow whose ramp sleep ends at the given time. -/
  start : Nat → Task
  step : (now id : Nat) → Task → Label → Option (FlowEvent × Task)
  returned : Task → Bool
  returned_final : ∀ now id task label, returned task = true → step now id task label = none

structure RunConfig where
  endpoint : String
  params : TestParams
  stallSecs : Nat
deriving DecidableEq, Repr

/-- The deadline, in milliseconds since the base instant. -/
def RunConfig.deadline (config : RunConfig) : Nat := config.params.durationSecs * 1000

/-- `stall_secs * 1000` in `u64`. -/
def RunConfig.stallMs (config : RunConfig) : Nat := config.stallSecs * 1000 % 2 ^ 64

/-- The number of flows. -/
def RunConfig.flowCount (config : RunConfig) : Nat := max config.params.connectionsPerPort 1

structure Flow (Task : Type) where
  conn : ConnState
  task : Task
deriving DecidableEq, Repr

/-- The watchdog between ticks, or part way through a tick's pass over the
flows with the time it read at the tick. -/
inductive Watchdog where
  | waiting (due : Nat)
  | visiting (now due index : Nat)
  | stopped
deriving DecidableEq, Repr

/-- The variables of the sampler's loop. -/
structure SampleLoop where
  t : Nat := 1
  prevDown : Nat := 0
  prevUp : Nat := 0
  series : List ThroughputSample := []
deriving DecidableEq, Repr

/-- The sampler between ticks, part way through one of a round's two sums with the number
of flows whose counter it has read, or after its sample and before its look at the
wind-down flag. -/
inductive Sampler where
  | waiting (loop : SampleLoop)
  | summingDown (loop : SampleLoop) (down index : Nat)
  | summingUp (loop : SampleLoop) (down up index : Nat)
  | pushed (loop : SampleLoop)
  | finished (series : List ThroughputSample)
deriving DecidableEq, Repr

/-- The task that called `run_tcp` or `run_udp`. -/
inductive MainTask where
  | joining
  | collecting
  | returned (metrics : PortMetrics)
deriving DecidableEq, Repr

structure RunState (Task : Type) where
  now : Nat
  run : PortRun
  flows : List (Flow Task)
  watchdog : Watchdog
  sampler : Sampler
  main : MainTask
deriving DecidableEq, Repr

inductive SamplerLabel where
  | tick
  /-- The next counter of a sum, or the end of the sum. -/
  | load
  | check
deriving DecidableEq, Repr

inductive RunLabel (Label : Type) where
  | elapse (ms : Nat)
  | flow (index : Nat) (label : Label)
  | watchdogTick
  | watchdogVisit
  | sampler (label : SamplerLabel)
  | join
  | finalize
deriving DecidableEq, Repr

/-- A whole round of the sampler. -/
def sampleRound (Label : Type) (flows : Nat) : List (RunLabel Label) :=
  .sampler .tick :: List.replicate (2 * (flows + 1)) (.sampler .load) ++ [.sampler .check]

/-- `stagger`. -/
def stagger (rampMs id n : Nat) : Nat :=
  if rampMs = 0 ∨ n ≤ 1 then 0 else rampMs * id % 2 ^ 64 / n

/-- The watchdog's test of one flow, with the time it read at its tick. -/
def visitFlow (stallMs now : Nat) (run : PortRun) (conn : ConnState) : PortRun × ConnState :=
  if conn.connected = false ∨ conn.disconnected = true ∨ conn.firstRecv = false then (run, conn)
  else
    let gap := now - conn.lastRecvMs
    if stallMs < gap then
      if conn.inStall then (run, conn)
      else
        ({ run with stalls := run.stalls ++ [⟨conn.id, (now : Rat) / 1000, gap⟩] },
          { conn with inStall := true })
    else (run, conn)

/-- The sample of a round that has both sums. -/
def SampleLoop.push (loop : SampleLoop) (down up : Nat) : SampleLoop where
  t := loop.t
  prevDown := down
  prevUp := up
  series := loop.series ++
    [{ tSecs := loop.t
       downKbps := ((down - loop.prevDown : Nat) : Rat) * 8 / 1000
       upKbps := ((up - loop.prevUp : Nat) : Rat) * 8 / 1000 }]

namespace Sampler

def tick (now : Nat) : Sampler → Option Sampler
  | .waiting loop => if loop.t * 1000 ≤ now then some (.summingDown loop 0 0) else none
  | _ => none

def load (conns : List ConnState) : Sampler → Option Sampler
  | .summingDown loop down index =>
      match conns[index]? with
      | some conn => some (.summingDown loop (down + conn.bytesRecv) (index + 1))
      | none => some (.summingUp loop down 0 0)
  | .summingUp loop down up index =>
      match conns[index]? with
      | some conn => some (.summingUp loop down (up + conn.bytesSent) (index + 1))
      | none => some (.pushed (loop.push down up))
  | _ => none

def check (durationSecs : Nat) (windingDown : Bool) : Sampler → Option Sampler
  | .pushed loop =>
      if windingDown = true ∨ durationSecs ≤ loop.t then some (.finished loop.series)
      else some (.waiting { loop with t := loop.t + 1 })
  | _ => none

end Sampler

namespace RunState

variable {Task : Type}

def conns (state : RunState Task) : List ConnState := state.flows.map Flow.conn

/-- What `run_tcp` or `run_udp` returned. -/
def result (state : RunState Task) : Option PortMetrics :=
  match state.main with
  | .returned metrics => some metrics
  | _ => none

/-- Replace the shared state and one flow. -/
def replace (state : RunState Task) (index : Nat) (run : PortRun) (flow : Flow Task) :
    RunState Task :=
  { state with run := run, flows := state.flows.set index flow }

end RunState

section Machine

variable {Task Label : Type} (program : FlowProgram Task Label) (config : RunConfig)

def initialRun : RunState Task :=
  { now := 0
    run := {}
    flows := (List.range config.flowCount).map fun id =>
      { conn := { id := id }
        task := program.start (stagger config.params.rampMs id config.flowCount) }
    watchdog := .waiting 0
    sampler :=
      if config.params.durationSecs = 0 then .finished [] else .waiting {}
    main := .joining }

/-- A step of the sampler. -/
def samplerStep (state : RunState Task) : SamplerLabel → Option Sampler
  | .tick => state.sampler.tick state.now
  | .load => state.sampler.load state.conns
  | .check => state.sampler.check config.params.durationSecs state.run.windingDown

def runStep (state : RunState Task) : RunLabel Label → Option (RunState Task)
  | .elapse ms => some { state with now := state.now + ms }
  | .flow index label =>
      match state.flows[index]? with
      | none => none
      | some flow =>
          match program.step state.now flow.conn.id flow.task label with
          | none => none
          | some (event, task) =>
              let shared := event.apply state.now config.deadline state.run flow.conn
              some (state.replace index shared.1 ⟨shared.2, task⟩)
  | .watchdogTick =>
      match state.watchdog with
      | .waiting due =>
          if due ≤ state.now then
            if config.deadline ≤ state.now ∨ state.run.windingDown = true then
              some { state with watchdog := .stopped }
            else some { state with watchdog := .visiting state.now due 0 }
          else none
      | _ => none
  | .watchdogVisit =>
      match state.watchdog with
      | .visiting now due index =>
          match state.flows[index]? with
          | none => some { state with watchdog := .waiting (due + 250) }
          | some flow =>
              let seen := visitFlow config.stallMs now state.run flow.conn
              some { state.replace index seen.1 ⟨seen.2, flow.task⟩ with
                watchdog := .visiting now due (index + 1) }
      | _ => none
  | .sampler label =>
      (samplerStep config state label).map (fun sampler => { state with sampler := sampler })
  | .join =>
      if state.main = .joining ∧ state.flows.all (fun flow => program.returned flow.task) then
        some { state with run := { state.run with windingDown := true }, main := .collecting }
      else none
  | .finalize =>
      match state.main, state.sampler with
      | .collecting, .finished series =>
          some { state with
            watchdog := .stopped
            main := .returned (finalize program.protocol config.endpoint
              config.params.durationSecs state.run state.conns series) }
      | _, _ => none

def runMachine : Machine (RunState Task) (RunLabel Label) := ⟨runStep program config⟩

/-! ## What a step can do -/

/-- Every step of a run. -/
inductive Taken (state : RunState Task) : RunLabel Label → RunState Task → Prop where
  | clock (ms : Nat) : Taken state (.elapse ms) { state with now := state.now + ms }
  | flow {index : Nat} {label : Label} {flow : Flow Task} {event : FlowEvent} {task : Task}
      (present : state.flows[index]? = some flow)
      (own : program.step state.now flow.conn.id flow.task label = some (event, task)) :
      Taken state (.flow index label)
        (state.replace index (event.apply state.now config.deadline state.run flow.conn).1
          ⟨(event.apply state.now config.deadline state.run flow.conn).2, task⟩)
  | watchdogStop {due : Nat} (waiting : state.watchdog = .waiting due) (reached : due ≤ state.now)
      (past : config.deadline ≤ state.now ∨ state.run.windingDown = true) :
      Taken state .watchdogTick { state with watchdog := .stopped }
  | watchdogStart {due : Nat} (waiting : state.watchdog = .waiting due) (reached : due ≤ state.now)
      (early : state.now < config.deadline) (running : state.run.windingDown = false) :
      Taken state .watchdogTick { state with watchdog := .visiting state.now due 0 }
  | visitDone {now due index : Nat} (visiting : state.watchdog = .visiting now due index)
      (absent : state.flows[index]? = none) :
      Taken state .watchdogVisit { state with watchdog := .waiting (due + 250) }
  | visit {now due index : Nat} {flow : Flow Task}
      (visiting : state.watchdog = .visiting now due index)
      (present : state.flows[index]? = some flow) :
      Taken state .watchdogVisit
        { state.replace index (visitFlow config.stallMs now state.run flow.conn).1
            ⟨(visitFlow config.stallMs now state.run flow.conn).2, flow.task⟩ with
          watchdog := .visiting now due (index + 1) }
  | sample {label : SamplerLabel} {sampler : Sampler}
      (stepped : samplerStep config state label = some sampler) :
      Taken state (.sampler label) { state with sampler := sampler }
  | join (joining : state.main = .joining)
      (returned : ∀ flow ∈ state.flows, program.returned flow.task = true) :
      Taken state .join
        { state with run := { state.run with windingDown := true }, main := .collecting }
  | finalize {series : List ThroughputSample} (collecting : state.main = .collecting)
      (sampled : state.sampler = .finished series) :
      Taken state .finalize
        { state with
          watchdog := .stopped
          main := .returned (finalize program.protocol config.endpoint
            config.params.durationSecs state.run state.conns series) }

variable {program config}

theorem main_of_result {state : RunState Task} {metrics : PortMetrics}
    (result : state.result = some metrics) : state.main = .returned metrics := by
  unfold RunState.result at result
  split at result
  · rename_i found returned
    rw [returned, Option.some.inj result]
  · simp at result

theorem mem_initialRun_flows {flow : Flow Task}
    (member : flow ∈ (initialRun program config).flows) :
    ∃ id wake, flow = ⟨{ id := id }, program.start wake⟩ := by
  simp only [initialRun, List.mem_map] at member
  obtain ⟨id, _, rfl⟩ := member
  exact ⟨id, _, rfl⟩

theorem taken_of_step {state next : RunState Task} {label : RunLabel Label}
    (step : (runMachine program config).step state label = some next) :
    Taken program config state label next := by
  change runStep program config state label = some next at step
  cases label with
  | elapse ms =>
      obtain rfl := Option.some.inj step
      exact .clock ms
  | flow index label =>
      cases present : state.flows[index]? with
      | none => simp [runStep, present] at step
      | some flow =>
          cases own : program.step state.now flow.conn.id flow.task label with
          | none => simp [runStep, present, own] at step
          | some result =>
              obtain ⟨event, task⟩ := result
              simp only [runStep, present, own, Option.some.injEq] at step
              obtain rfl := step
              exact .flow present own
  | watchdogTick =>
      cases waiting : state.watchdog with
      | waiting due =>
          simp only [runStep, waiting] at step
          split at step
          · rename_i reached
            split at step
            · rename_i past
              obtain rfl := Option.some.inj step
              exact .watchdogStop waiting reached past
            · rename_i early
              obtain rfl := Option.some.inj step
              simp only [not_or, Nat.not_le, Bool.not_eq_true] at early
              exact .watchdogStart waiting reached early.1 early.2
          · simp at step
      | visiting now due index => simp [runStep, waiting] at step
      | stopped => simp [runStep, waiting] at step
  | watchdogVisit =>
      cases visiting : state.watchdog with
      | waiting due => simp [runStep, visiting] at step
      | visiting now due index =>
          cases present : state.flows[index]? with
          | none =>
              simp only [runStep, visiting, present, Option.some.injEq] at step
              obtain rfl := step
              exact .visitDone visiting present
          | some flow =>
              simp only [runStep, visiting, present, Option.some.injEq] at step
              obtain rfl := step
              exact .visit visiting present
      | stopped => simp [runStep, visiting] at step
  | sampler label =>
      obtain ⟨sampler, stepped, rfl⟩ := Option.map_eq_some_iff.mp step
      exact .sample stepped
  | join =>
      simp only [runStep] at step
      split at step
      · rename_i ready
        obtain rfl := Option.some.inj step
        exact .join ready.1 (fun flow member => by simpa using List.all_eq_true.mp ready.2 flow member)
      · simp at step
  | finalize =>
      cases collecting : state.main with
      | joining => simp [runStep, collecting] at step
      | collecting =>
          simp only [runStep, collecting] at step
          split at step
          · rename_i series _ sampled
            obtain rfl := Option.some.inj step
            exact .finalize collecting sampled
          · simp at step
      | returned metrics => simp [runStep, collecting] at step

theorem step_of_taken {state next : RunState Task} {label : RunLabel Label}
    (taken : Taken program config state label next) :
    (runMachine program config).step state label = some next := by
  change runStep program config state label = some next
  cases taken with
  | clock ms => rfl
  | flow present own => simp only [runStep, present, own]
  | watchdogStop waiting reached past => simp only [runStep, waiting, reached, past, if_true]
  | watchdogStart waiting reached early running =>
      simp [runStep, waiting, reached, Nat.not_le.mpr early, running]
  | visitDone visiting absent => simp only [runStep, visiting, absent]
  | visit visiting present => simp only [runStep, visiting, present]
  | sample stepped => simp only [runStep, stepped, Option.map_some]
  | join joining returned =>
      have all : (state.flows.all fun flow => program.returned flow.task) = true :=
        List.all_eq_true.mpr returned
      simp only [runStep, joining, all, and_self, if_true]
  | finalize collecting sampled => simp only [runStep, collecting, sampled]

/-! ## The watchdog's visit -/

/-- What the watchdog looks for at a tick that read `now`: an active flow whose
last frame is more than `stallMs` old. -/
def silent (stallMs now : Nat) (conn : ConnState) : Bool :=
  conn.connected && !conn.disconnected && conn.firstRecv &&
    decide (stallMs < now - conn.lastRecvMs)

/-- A visit records a stall exactly for a silent flow outside a stall episode. -/
theorem visitFlow_eq (stallMs now : Nat) (run : PortRun) (conn : ConnState) :
    visitFlow stallMs now run conn =
      if silent stallMs now conn = true ∧ conn.inStall = false then
        ({ run with
            stalls := run.stalls ++ [⟨conn.id, (now : Rat) / 1000, now - conn.lastRecvMs⟩] },
          { conn with inStall := true })
      else (run, conn) := by
  unfold visitFlow silent
  cases conn.connected <;> cases conn.disconnected <;> cases conn.firstRecv <;>
    cases conn.inStall <;> by_cases gap : stallMs < now - conn.lastRecvMs <;> simp [gap]

@[simp] theorem visitFlow_windingDown (stallMs now : Nat) (run : PortRun) (conn : ConnState) :
    (visitFlow stallMs now run conn).1.windingDown = run.windingDown := by
  rw [visitFlow_eq]
  split <;> rfl

/-- A visit changes nothing of a flow but its stall flag. -/
theorem visitFlow_conn (stallMs now : Nat) (run : PortRun) (conn : ConnState) :
    (visitFlow stallMs now run conn).2 = conn ∨
      (visitFlow stallMs now run conn).2 = { conn with inStall := true } := by
  rw [visitFlow_eq]
  split
  · exact Or.inr rfl
  · exact Or.inl rfl

/-- A visit leaves every field of a flow but its stall flag. -/
theorem visitFlow_conn_eq (stallMs now : Nat) (run : PortRun) (conn : ConnState) :
    (visitFlow stallMs now run conn).2 =
      { conn with inStall := (visitFlow stallMs now run conn).2.inStall } := by
  rcases visitFlow_conn stallMs now run conn with same | stalled
  · rw [same]
  · rw [stalled]

/-! ## Winding down -/

/-- The wind-down flag is set only after every flow task has returned. -/
structure WindDown (program : FlowProgram Task Label) (state : RunState Task) : Prop where
  returned : state.run.windingDown = true →
    ∀ flow ∈ state.flows, program.returned flow.task = true
  joined : state.main ≠ .joining → state.run.windingDown = true

theorem windDown_initial : WindDown program (initialRun program config) where
  returned := by simp [initialRun]
  joined := by simp [initialRun]

/-- A flow that takes a step runs before the wind-down. -/
theorem WindDown.running {state : RunState Task} (windDown : WindDown program state) {index id : Nat}
    {flow : Flow Task} {label : Label} {result : FlowEvent × Task}
    (present : state.flows[index]? = some flow)
    (own : program.step state.now id flow.task label = some result) :
    state.run.windingDown = false := by
  cases winding : state.run.windingDown with
  | false => rfl
  | true =>
      have final := windDown.returned winding flow (List.mem_of_getElem? present)
      rw [program.returned_final _ _ _ _ final] at own
      simp at own

theorem windDown_step {state next : RunState Task} {label : RunLabel Label}
    (windDown : WindDown program state)
    (step : (runMachine program config).step state label = some next) :
    WindDown program next := by
  cases taken_of_step step with
  | clock | sample | visitDone | watchdogStop | watchdogStart =>
      exact ⟨windDown.returned, windDown.joined⟩
  | flow present own =>
      have running := windDown.running present own
      constructor
      · intro winding
        simp [RunState.replace, running] at winding
      · intro joined
        have winding := windDown.joined joined
        simp [running] at winding
  | @visit now due index flow visiting present =>
      constructor
      · intro winding other member
        have winding : state.run.windingDown = true := by
          simpa [RunState.replace] using winding
        rcases List.mem_or_eq_of_mem_set member with old | rfl
        · exact windDown.returned winding other old
        · exact windDown.returned winding flow (List.mem_of_getElem? present)
      · intro joined
        simpa [RunState.replace] using windDown.joined joined
  | join joining returned => exact ⟨fun _ => returned, fun _ => rfl⟩
  | finalize collecting sampled =>
      refine ⟨windDown.returned, fun _ => windDown.joined ?_⟩
      simp [collecting]

theorem windDown_of_run {trace : List (RunState Task × RunLabel Label)} {state : RunState Task}
    (run : (runMachine program config).Run (initialRun program config) trace state) :
    WindDown program state :=
  run.invariant (WindDown program) windDown_initial (fun _ _ _ windDown => windDown_step windDown)

/-! ## Invariants of one flow -/

/-- The history rule for one flow: what the flow's own steps, the watchdog's
visits, the clock and the steps of everyone else keep of a flow and the trace so
far holds of every flow after every run. -/
theorem flow_timed_history
    (property : List (RunState Task × RunLabel Label) → Nat → Nat → Flow Task → Prop)
    (initial : ∀ index wake, property [] index 0 ⟨{ id := index }, program.start wake⟩)
    (own : ∀ trace (state : RunState Task) index label flow event task,
      (runMachine program config).Run (initialRun program config) trace state →
      state.flows[index]? = some flow → state.run.windingDown = false →
      property trace index state.now flow →
      program.step state.now flow.conn.id flow.task label = some (event, task) →
      property (trace ++ [(state, .flow index label)]) index state.now
        ⟨(event.apply state.now config.deadline state.run flow.conn).2, task⟩)
    (visited : ∀ trace index now seen run flow, property trace index now flow →
      property trace index now ⟨(visitFlow config.stallMs seen run flow.conn).2, flow.task⟩)
    (other : ∀ trace entry index now flow, (∀ label, entry.2 ≠ .flow index label) →
      (∀ ms, entry.2 ≠ .elapse ms) →
      property trace index now flow → property (trace ++ [entry]) index now flow)
    (clock : ∀ trace (state : RunState Task) index ms flow,
      (runMachine program config).Run (initialRun program config) trace state →
      state.flows[index]? = some flow → property trace index state.now flow →
      property (trace ++ [(state, .elapse ms)]) index (state.now + ms) flow)
    {trace : List (RunState Task × RunLabel Label)} {state : RunState Task}
    (run : (runMachine program config).Run (initialRun program config) trace state) :
    ∀ index flow, state.flows[index]? = some flow → property trace index state.now flow := by
  refine run.history (fun trace state =>
    ∀ index flow, state.flows[index]? = some flow → property trace index state.now flow) ?_ ?_
  · intro index flow present
    simp only [initialRun, List.getElem?_map, Option.map_eq_some_iff] at present
    obtain ⟨id, found, rfl⟩ := present
    obtain ⟨_, rfl⟩ := List.getElem?_eq_some_iff.mp found
    simpa [initialRun] using initial index _
  · intro trace state label next before holds step
    cases taken_of_step step with
    | clock ms =>
        intro index flow present
        exact clock trace state index ms flow before present (holds index flow present)
    | @flow index label flow event task present taken =>
        have running := (windDown_of_run before).running present taken
        refine forall_getElem?_set (fun position rest distinct found => ?_)
          (own trace state index label flow event task before present running
            (holds index flow present) taken)
        refine other _ _ _ _ _ ?_ (by simp) (holds position rest found)
        intro stepLabel same
        obtain ⟨rfl, _⟩ := RunLabel.flow.inj same
        exact distinct rfl
    | @visit now due index flow visiting present =>
        refine forall_getElem?_set (fun position rest _ found => ?_) ?_
        · exact other _ _ _ _ _ (by simp) (by simp) (holds position rest found)
        · exact visited _ _ _ _ _ _ (other _ _ _ _ _ (by simp) (by simp) (holds index flow present))
    | watchdogStop | watchdogStart | visitDone | sample | join | finalize =>
        intro index flow present
        exact other _ _ _ _ _ (by simp) (by simp) (holds index flow present)

/-- The history rule for what does not depend on how far a clock step goes. -/
theorem flow_history
    (property : List (RunState Task × RunLabel Label) → Nat → Nat → Flow Task → Prop)
    (initial : ∀ index wake, property [] index 0 ⟨{ id := index }, program.start wake⟩)
    (own : ∀ trace (state : RunState Task) index label flow event task,
      (runMachine program config).Run (initialRun program config) trace state →
      state.flows[index]? = some flow → state.run.windingDown = false →
      property trace index state.now flow →
      program.step state.now flow.conn.id flow.task label = some (event, task) →
      property (trace ++ [(state, .flow index label)]) index state.now
        ⟨(event.apply state.now config.deadline state.run flow.conn).2, task⟩)
    (visited : ∀ trace index now seen run flow, property trace index now flow →
      property trace index now ⟨(visitFlow config.stallMs seen run flow.conn).2, flow.task⟩)
    (other : ∀ trace entry index now flow, (∀ label, entry.2 ≠ .flow index label) →
      property trace index now flow → property (trace ++ [entry]) index now flow)
    (clock : ∀ trace index now ms flow, property trace index now flow →
      property trace index (now + ms) flow)
    {trace : List (RunState Task × RunLabel Label)} {state : RunState Task}
    (run : (runMachine program config).Run (initialRun program config) trace state) :
    ∀ index flow, state.flows[index]? = some flow → property trace index state.now flow := by
  refine flow_timed_history property initial own visited ?_ ?_ run
  · exact fun trace entry index now flow foreign _ => other trace entry index now flow foreign
  · intro trace state index ms flow _ _ holds
    exact clock _ _ _ _ _ (other _ _ _ _ _ (by simp) holds)

/-- The invariant rule for one flow, with no history. -/
theorem flow_invariant (property : Nat → Nat → Flow Task → Prop)
    (initial : ∀ index wake, property index 0 ⟨{ id := index }, program.start wake⟩)
    (own : ∀ index now run flow label event task, run.windingDown = false →
      property index now flow →
      program.step now flow.conn.id flow.task label = some (event, task) →
      property index now ⟨(event.apply now config.deadline run flow.conn).2, task⟩)
    (visited : ∀ index now seen run flow, property index now flow →
      property index now ⟨(visitFlow config.stallMs seen run flow.conn).2, flow.task⟩)
    (clock : ∀ index now ms flow, property index now flow → property index (now + ms) flow)
    {trace : List (RunState Task × RunLabel Label)} {state : RunState Task}
    (run : (runMachine program config).Run (initialRun program config) trace state) :
    ∀ index flow, state.flows[index]? = some flow → property index state.now flow :=
  flow_history (fun _ => property) initial
    (fun _ state index label flow event task _ _ running holds taken =>
      own index state.now state.run flow label event task running holds taken)
    (fun _ index now seen run flow holds => visited index now seen run flow holds)
    (fun _ _ _ _ _ _ holds => holds)
    (fun _ index now ms flow holds => clock index now ms flow holds) run

/-- What one step does to the flow at `index`. -/
inductive FlowChange (program : FlowProgram Task Label) (config : RunConfig)
    (state : RunState Task) (index : Nat) (flow : Flow Task) :
    RunLabel Label → Flow Task → Prop where
  | same {label : RunLabel Label} : FlowChange program config state index flow label flow
  | own {label : Label} {event : FlowEvent} {task : Task}
      (taken : program.step state.now flow.conn.id flow.task label = some (event, task)) :
      FlowChange program config state index flow (.flow index label)
        ⟨(event.apply state.now config.deadline state.run flow.conn).2, task⟩
  | visited {seen due : Nat} (visiting : state.watchdog = .visiting seen due index) :
      FlowChange program config state index flow .watchdogVisit
        ⟨(visitFlow config.stallMs seen state.run flow.conn).2, flow.task⟩

theorem flowChange_of_step {state next : RunState Task} {label : RunLabel Label} {index : Nat}
    {flow : Flow Task} (present : state.flows[index]? = some flow)
    (step : (runMachine program config).step state label = some next) :
    ∃ changed, next.flows[index]? = some changed ∧
      FlowChange program config state index flow label changed := by
  cases taken_of_step step with
  | @flow position label other event task there taken =>
      by_cases here : index = position
      · subst here
        obtain rfl : other = flow := Option.some.inj (there.symm.trans present)
        exact ⟨_, getElem?_set_self_of_some present _, .own taken⟩
      · exact ⟨flow, by rw [← present]; exact List.getElem?_set_ne (Ne.symm here), .same⟩
  | @visit seen due position other visiting there =>
      by_cases here : index = position
      · subst here
        obtain rfl : other = flow := Option.some.inj (there.symm.trans present)
        exact ⟨_, getElem?_set_self_of_some present _, .visited visiting⟩
      · exact ⟨flow, by rw [← present]; exact List.getElem?_set_ne (Ne.symm here), .same⟩
  | _ => exact ⟨flow, present, .same⟩

/-- A broken flow stays broken. -/
theorem FlowChange.disconnected {state : RunState Task} {index : Nat} {flow changed : Flow Task}
    {label : RunLabel Label} (change : FlowChange program config state index flow label changed)
    (flagged : flow.conn.disconnected = true) : changed.conn.disconnected = true := by
  cases change with
  | same => exact flagged
  | own => exact FlowEvent.apply_disconnected_of_disconnected _ _ _ _ _ flagged
  | visited =>
      rw [visitFlow_conn_eq]
      exact flagged

theorem flows_length {trace : List (RunState Task × RunLabel Label)} {state : RunState Task}
    (run : (runMachine program config).Run (initialRun program config) trace state) :
    state.flows.length = config.flowCount := by
  refine run.invariant (fun state => state.flows.length = config.flowCount) ?_ ?_
  · simp [initialRun]
  · intro state label next same step
    cases taken_of_step step with
    | flow | visit => simpa [RunState.replace] using same
    | _ => exact same

/-! ## The final metrics -/

/-- A returned run shows the metrics of its state, which no longer moves. -/
structure Finished (program : FlowProgram Task Label) (config : RunConfig)
    (state : RunState Task) : Prop where
  watchdog : ∀ metrics, state.main = .returned metrics → state.watchdog = .stopped
  metrics : ∀ metrics, state.main = .returned metrics → ∃ series,
    metrics = finalize program.protocol config.endpoint config.params.durationSecs
      state.run state.conns series

theorem finished_of_run {trace : List (RunState Task × RunLabel Label)} {state : RunState Task}
    (run : (runMachine program config).Run (initialRun program config) trace state) :
    Finished program config state := by
  refine run.history (fun _ state => Finished program config state) ?_ ?_
  · constructor <;> simp [initialRun]
  · intro trace state label next before finished step
    have windDown := windDown_of_run before
    cases taken_of_step step with
    | clock ms | sample stepped => exact ⟨finished.watchdog, finished.metrics⟩
    | flow present own =>
        have running := windDown.running present own
        have joining : state.main = .joining := by
          by_contra joined
          simp [windDown.joined joined] at running
        constructor <;> simp [RunState.replace, joining]
    | watchdogStop waiting reached past => exact ⟨fun _ _ => rfl, finished.metrics⟩
    | watchdogStart waiting reached early running =>
        have joining : ∀ metrics, state.main ≠ .returned metrics := by
          intro metrics returned
          simp [finished.watchdog metrics returned] at waiting
        constructor <;> intro metrics returned <;> exact absurd returned (joining metrics)
    | visitDone visiting absent =>
        have joining : ∀ metrics, state.main ≠ .returned metrics := by
          intro metrics returned
          simp [finished.watchdog metrics returned] at visiting
        constructor <;> intro metrics returned <;> exact absurd returned (joining metrics)
    | visit visiting present =>
        have joining : ∀ metrics, state.main ≠ .returned metrics := by
          intro metrics returned
          simp [finished.watchdog metrics returned] at visiting
        constructor <;> intro metrics returned <;> exact absurd returned (joining metrics)
    | join joining returned => constructor <;> simp
    | @finalize series collecting sampled =>
        refine ⟨fun _ _ => rfl, ?_⟩
        intro metrics returned
        obtain rfl := MainTask.returned.inj returned
        exact ⟨series, rfl⟩

theorem main_returned_of_run {trace : List (RunState Task × RunLabel Label)}
    {state : RunState Task}
    (run : (runMachine program config).Run (initialRun program config) trace state)
    {metrics : PortMetrics} (returned : state.main = .returned metrics) :
    ∀ flow ∈ state.flows, program.returned flow.task = true := by
  have windDown := windDown_of_run run
  exact windDown.returned (windDown.joined (by simp [returned]))

end Machine

end Npt.Ci.Client
