import Npt.Ci.Client.Run

/-!
Contract: how a run comes to its end (`run_tcp` and `run_udp` in `ci/src/client.rs`).

Once the flows are joined, the sampler ends with the first round that finds the run
winding down, and the metrics are made. Before that every flow has to return.

Owns: the steps behind the joined flows, and the rule that a run can finish by the
steps of a kind where each flow comes nearer to its return by them.

Does not own: which flows can return.
-/

namespace Npt.Ci.Client

open Npt.Core
open Npt.Ci.Config

section Finishing

variable {Task Label : Type} {program : FlowProgram Task Label} {config : RunConfig}

/-! ## Behind the joined flows -/

/-- A step of the sampler or the clock, or the last step of the task that joins. -/
def RunLabel.collects : RunLabel Label → Bool
  | .elapse _ | .sampler _ | .finalize => true
  | _ => false

/-- Such steps lead from one state to another. -/
abbrev Collects (program : FlowProgram Task Label) (config : RunConfig)
    (state later : RunState Task) : Prop :=
  (runMachine program config).ReachableBy (fun label => label.collects = true) state later

theorem collects_of_sampler {state : RunState Task} (label : SamplerLabel) {sampler : Sampler}
    (stepped : samplerStep config state label = some sampler) :
    Collects program config state { state with sampler := sampler } :=
  .single (step_of_taken (.sample stepped)) rfl

/-- The sampler reads the rest of the second sum. -/
theorem collects_up (state : RunState Task) (loop : SampleLoop) (down up index : Nat) :
    ∃ after, Collects program config { state with sampler := .summingUp loop down up index }
      { state with sampler := .pushed after } := by
  induction left : state.conns.length - index generalizing up index with
  | zero =>
      have absent : state.conns[index]? = none :=
        List.getElem?_eq_none (Nat.sub_eq_zero_iff_le.mp left)
      refine ⟨loop.push down up, collects_of_sampler .load ?_⟩
      show Sampler.load state.conns (.summingUp loop down up index) = _
      simp [Sampler.load, absent]
  | succ left inductionHypothesis =>
      obtain ⟨conn, present⟩ : ∃ conn, state.conns[index]? = some conn :=
        ⟨_, List.getElem?_eq_getElem (by omega)⟩
      obtain ⟨after, rest⟩ :=
        inductionHypothesis (up + conn.bytesSent) (index + 1) (by omega)
      refine ⟨after, .trans (collects_of_sampler .load ?_) rest⟩
      show Sampler.load state.conns (.summingUp loop down up index) = _
      simp [Sampler.load, present]

/-- The sampler reads the rest of both sums. -/
theorem collects_down (state : RunState Task) (loop : SampleLoop) (down index : Nat) :
    ∃ after, Collects program config { state with sampler := .summingDown loop down index }
      { state with sampler := .pushed after } := by
  induction left : state.conns.length - index generalizing down index with
  | zero =>
      have absent : state.conns[index]? = none :=
        List.getElem?_eq_none (Nat.sub_eq_zero_iff_le.mp left)
      obtain ⟨after, rest⟩ := collects_up state loop down 0 0
      refine ⟨after, .trans (collects_of_sampler .load ?_) rest⟩
      show Sampler.load state.conns (.summingDown loop down index) = _
      simp [Sampler.load, absent]
  | succ left inductionHypothesis =>
      obtain ⟨conn, present⟩ : ∃ conn, state.conns[index]? = some conn :=
        ⟨_, List.getElem?_eq_getElem (by omega)⟩
      obtain ⟨after, rest⟩ :=
        inductionHypothesis (down + conn.bytesRecv) (index + 1) (by omega)
      refine ⟨after, .trans (collects_of_sampler .load ?_) rest⟩
      show Sampler.load state.conns (.summingDown loop down index) = _
      simp [Sampler.load, present]

/-- The sampler's loop ends with the first round that finds the run winding down. -/
theorem collects_pushed {state : RunState Task} {loop : SampleLoop}
    (pushed : state.sampler = .pushed loop) (winding : state.run.windingDown = true) :
    Collects program config state { state with sampler := .finished loop.series } := by
  refine collects_of_sampler .check ?_
  simp [samplerStep, Sampler.check, pushed, winding]

/-- A run that winds down has its series in the end. -/
theorem collects_series (state : RunState Task) (winding : state.run.windingDown = true) :
    ∃ ms series, Collects program config state
      { state with now := state.now + ms, sampler := .finished series } := by
  have pushed (state : RunState Task) (winding : state.run.windingDown = true)
      (loop : SampleLoop) : Collects program config { state with sampler := .pushed loop }
        { state with sampler := .finished loop.series } := by
    have here : ({ state with sampler := .pushed loop } : RunState Task).sampler = .pushed loop :=
      rfl
    exact collects_pushed here winding
  cases sampler : state.sampler with
  | waiting loop =>
      let later : RunState Task := { state with now := state.now + loop.t * 1000 }
      have reached : samplerStep config later .tick = some (.summingDown loop 0 0) := by
        simp [samplerStep, Sampler.tick, later, sampler]
      obtain ⟨after, rest⟩ := collects_down later loop 0 0
      exact ⟨_, _, .trans (.single (step_of_taken (.clock (loop.t * 1000))) rfl)
        (.trans (collects_of_sampler .tick reached) (rest.trans (pushed later winding after)))⟩
  | summingDown loop down index =>
      obtain ⟨after, rest⟩ := @collects_down Task Label program config state loop down index
      rw [← sampler] at rest
      exact ⟨0, _, rest.trans (pushed state winding after)⟩
  | summingUp loop down up index =>
      obtain ⟨after, rest⟩ := @collects_up Task Label program config state loop down up index
      rw [← sampler] at rest
      exact ⟨0, _, rest.trans (pushed state winding after)⟩
  | pushed loop => exact ⟨0, _, collects_pushed sampler winding⟩
  | finished series =>
      refine ⟨0, series, ?_⟩
      rw [← sampler]
      exact .refl state

/-- A run that has joined its flows can return. -/
theorem collects_metrics {state : RunState Task} (collecting : state.main = .collecting)
    (winding : state.run.windingDown = true) :
    ∃ final metrics, Collects program config state final ∧ final.main = .returned metrics := by
  obtain ⟨ms, series, collects⟩ := collects_series state winding
  exact ⟨_, _, collects.trans (.single (step_of_taken (.finalize collecting rfl)) rfl), rfl⟩

/-! ## Bringing every flow to its end -/

/-- The step can be taken, and leaves less than `bound` to do. -/
def Closer (remaining : Task → Nat) (bound : Nat) (taken : Option (FlowEvent × Task)) : Prop :=
  ∃ result, taken = some result ∧ remaining result.2 < bound

/-- Steps of a kind bring every flow nearer to its return, in states of a kind that they
do not leave. -/
structure Finishes (program : FlowProgram Task Label) (config : RunConfig)
    (allowed : RunLabel Label → Prop) (free : RunState Task → Prop) (remaining : Task → Nat) :
    Prop where
  collects : ∀ label : RunLabel Label, label.collects = true → allowed label
  join : allowed .join
  kept : ∀ {state next : RunState Task} {label : RunLabel Label}, free state → allowed label →
    Taken program config state label next → free next
  closer : ∀ {state : RunState Task} {flow : Flow Task}, free state → flow ∈ state.flows →
    program.returned flow.task = false →
    ∃ ms label, (∀ index, allowed (.flow index label)) ∧
      Closer remaining (remaining flow.task)
        (program.step (state.now + ms) flow.conn.id flow.task label)

namespace Finishes

variable {allowed : RunLabel Label → Prop} {free : RunState Task → Prop} {remaining : Task → Nat}
  {state : RunState Task}

theorem kept_by (finishes : Finishes program config allowed free remaining)
    {next : RunState Task} (here : free state)
    (reached : (runMachine program config).ReachableBy allowed state next) : free next :=
  reached.invariant free here
    (fun _ _ _ here permitted step => finishes.kept here permitted (taken_of_step step))

/-- One flow comes nearer to its return, and the others stay where they are. -/
theorem closer_flow (finishes : Finishes program config allowed free remaining)
    (here : free state) {flow : Flow Task} (member : flow ∈ state.flows)
    (unfinished : program.returned flow.task = false) :
    ∃ next, (runMachine program config).ReachableBy allowed state next ∧
      total (fun flow : Flow Task => remaining flow.task) next.flows <
        total (fun flow : Flow Task => remaining flow.task) state.flows ∧
      next.main = state.main := by
  obtain ⟨index, present⟩ := List.getElem?_of_mem member
  obtain ⟨ms, label, permitted, ⟨event, task⟩, taken, closer⟩ :=
    finishes.closer here member unfinished
  let waited : RunState Task := { state with now := state.now + ms }
  let after := (event.apply waited.now config.deadline waited.run flow.conn)
  have waits : Taken program config state (.elapse ms) waited := .clock ms
  have stepped : Taken program config waited (.flow index label)
      (waited.replace index after.1 ⟨after.2, task⟩) := .flow present taken
  refine ⟨_, .trans (.single (step_of_taken waits) (finishes.collects _ rfl))
    (.single (step_of_taken stepped) (permitted index)), ?_, rfl⟩
  have moved := total_set (fun flow : Flow Task => remaining flow.task) present ⟨after.2, task⟩
  have flows : (waited.replace index after.1 ⟨after.2, task⟩).flows =
      state.flows.set index ⟨after.2, task⟩ := rfl
  rw [flows]
  simp only at moved closer
  omega

theorem all_return (finishes : Finishes program config allowed free remaining)
    (here : free state) :
    ∃ final, (runMachine program config).ReachableBy allowed state final ∧
      final.main = state.main ∧ ∀ flow ∈ final.flows, program.returned flow.task = true := by
  induction bound : total (fun flow : Flow Task => remaining flow.task) state.flows
    using Nat.strongRecOn generalizing state with
  | ind size inductionHypothesis =>
      by_cases done : ∀ flow ∈ state.flows, program.returned flow.task = true
      · exact ⟨state, .refl state, rfl, done⟩
      · push Not at done
        obtain ⟨flow, member, unfinished⟩ := done
        obtain ⟨next, reached, closer, sameMain⟩ :=
          finishes.closer_flow here member (Bool.eq_false_of_not_eq_true unfinished)
        obtain ⟨final, onwards, laterMain, returned⟩ := inductionHypothesis _ (bound ▸ closer)
          (finishes.kept_by here reached) rfl
        exact ⟨final, reached.trans onwards, laterMain.trans sameMain, returned⟩

/-- A run that has joined its flows can return. -/
theorem finalizes (finishes : Finishes program config allowed free remaining)
    (collecting : state.main = .collecting) (winding : state.run.windingDown = true) :
    ∃ final metrics, (runMachine program config).ReachableBy allowed state final ∧
      final.main = .returned metrics := by
  obtain ⟨final, metrics, ⟨trace, run, collects⟩, returned⟩ :=
    @collects_metrics Task Label program config state collecting winding
  exact ⟨final, metrics, ⟨trace, run, fun entry member =>
    finishes.collects _ (collects entry member)⟩, returned⟩

/-- So the whole run can come to its end. -/
theorem completes (finishes : Finishes program config allowed free remaining)
    {trace : List (RunState Task × RunLabel Label)}
    (run : (runMachine program config).Run (initialRun program config) trace state)
    (here : free state) :
    ∃ final metrics, (runMachine program config).ReachableBy allowed state final ∧
      final.main = .returned metrics := by
  obtain ⟨joined, reached, sameMain, returned⟩ := finishes.all_return here
  have windDown : WindDown program joined := by
    obtain ⟨onwards, later, -⟩ := reached
    exact windDown_of_run (run.append later)
  cases main : joined.main with
  | joining =>
      let collecting : RunState Task :=
        { joined with run := { joined.run with windingDown := true }, main := .collecting }
      have join : Taken program config joined .join collecting := .join main returned
      obtain ⟨final, metrics, finish, finished⟩ := @finalizes _ _ _ _ _ _ _ collecting finishes
        rfl rfl
      exact ⟨final, metrics,
        reached.trans (.trans (.single (step_of_taken join) finishes.join) finish), finished⟩
  | collecting =>
      obtain ⟨final, metrics, finish, finished⟩ :=
        finishes.finalizes main (windDown.joined (by simp [main]))
      exact ⟨final, metrics, reached.trans finish, finished⟩
  | returned metrics => exact ⟨joined, metrics, reached, main⟩

end Finishes

end Finishing

end Npt.Ci.Client
