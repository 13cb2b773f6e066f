import Npt.Ci.Client.Run
import Npt.Core.Coupled

/-!
Contract: runs of the probe over a path that is part of the model.

A `FlowPath` is what lies between one flow and its echo: it sees every step of
the flow's task, refuses what it does not do (a reset, a close too early), and
may act by itself. Every flow of a run has its own path.

Owns: the coupling of a run with its paths, and the history rule for one flow
with its path.

Does not own: any particular path.
-/

namespace Npt.Ci.Client

open Npt.Core

/-- The path of one flow. `answer` is given a step of the flow's task: the task
before it, its label, and the task after it. -/
structure FlowPath (Task Label Env Act : Type) where
  start : Env
  answer : Env → Task → Label → Task → Option Env
  act : Env → Act → Option Env

section Path

variable {Task Label Env Act : Type} (program : FlowProgram Task Label)
  (path : FlowPath Task Label Env Act) (config : RunConfig)

/-- One path for each flow. -/
def FlowPath.environment : Environment (RunState Task) (RunLabel Label) (List Env) (Nat × Act) where
  answer := fun envs state label =>
    match label with
    | .flow index label =>
        match state.flows[index]?, envs[index]? with
        | some flow, some env =>
            match program.step state.now flow.conn.id flow.task label with
            | some (_, task) => (path.answer env flow.task label task).map (envs.set index ·)
            | none => none
        | _, _ => none
    | _ => some envs
  act := fun envs act =>
    match envs[act.1]? with
    | some env => (path.act env act.2).map (envs.set act.1 ·)
    | none => none

/-- A run whose flows each have a path. -/
def pathMachine : Machine (RunState Task × List Env) (RunLabel Label ⊕ (Nat × Act)) :=
  (runMachine program config).coupled (path.environment program)

def initialPath : RunState Task × List Env :=
  (initialRun program config, List.replicate config.flowCount path.start)

variable {program path config}
  {trace : List ((RunState Task × List Env) × (RunLabel Label ⊕ (Nat × Act)))}
  {joint : RunState Task × List Env}

/-- A run over paths is a run. -/
theorem run_of_path (run : (pathMachine program path config).Run (initialPath program path config)
    trace joint) :
    (runMachine program config).Run (initialRun program config) (Machine.ownSteps trace) joint.1 :=
  Machine.Run.own run

/-- The history rule for one flow and its path. -/
theorem path_history
    (property : List ((RunState Task × List Env) × (RunLabel Label ⊕ (Nat × Act))) →
      Nat → Nat → Flow Task → Env → Prop)
    (initial : ∀ index, property [] index 0
      ⟨{ id := index }, program.start (stagger config.params.rampMs index config.flowCount)⟩
      path.start)
    (own : ∀ trace (joint : RunState Task × List Env) index label flow event task env answered,
      (pathMachine program path config).Run (initialPath program path config) trace joint →
      joint.1.flows[index]? = some flow → joint.1.run.windingDown = false →
      property trace index joint.1.now flow env →
      program.step joint.1.now flow.conn.id flow.task label = some (event, task) →
      path.answer env flow.task label task = some answered →
      property (trace ++ [(joint, .inl (.flow index label))]) index joint.1.now
        ⟨(event.apply joint.1.now config.deadline joint.1.run flow.conn).2, task⟩ answered)
    (acted : ∀ trace entry index now flow env act after, path.act env act = some after →
      property trace index now flow env → property (trace ++ [entry]) index now flow after)
    (visited : ∀ trace index now seen run flow env, property trace index now flow env →
      property trace index now ⟨(visitFlow config.stallMs seen run flow.conn).2, flow.task⟩ env)
    (other : ∀ trace entry index now flow env, (∀ label, entry.2 ≠ .inl (.flow index label)) →
      property trace index now flow env → property (trace ++ [entry]) index now flow env)
    (clock : ∀ trace index now ms flow env, property trace index now flow env →
      property trace index (now + ms) flow env)
    (run : (pathMachine program path config).Run (initialPath program path config) trace joint) :
    ∀ index flow env, joint.1.flows[index]? = some flow → joint.2[index]? = some env →
      property trace index joint.1.now flow env := by
  refine run.history (fun trace joint => ∀ index flow env, joint.1.flows[index]? = some flow →
    joint.2[index]? = some env → property trace index joint.1.now flow env) ?_ ?_
  · intro index flow env present there
    obtain ⟨_, rfl⟩ := List.getElem?_eq_some_iff.mp there
    simp only [initialPath, initialRun, List.getElem?_map, Option.map_eq_some_iff] at present
    obtain ⟨id, found, rfl⟩ := present
    obtain ⟨_, rfl⟩ := List.getElem?_eq_some_iff.mp found
    simpa [initialPath, initialRun] using initial index
  · intro trace joint label next before holds step
    cases Machine.coupledStep_of_step step with
    | @alone act acted done =>
        intro position flow env present there
        simp only [FlowPath.environment] at done
        split at done
        · rename_i old found
          obtain ⟨after, moved, rfl⟩ := Option.map_eq_some_iff.mp done
          rcases getElem?_set_cases there with ⟨rfl, rfl⟩ | ⟨_, same⟩
          · exact acted _ _ _ _ _ _ _ _ moved (holds _ flow old present found)
          · exact other _ _ _ _ _ _ (by simp) (holds position flow env present same)
        · simp at done
    | @both runLabel next answered taken answer =>
        intro position flow env present there
        cases taken_of_step taken with
        | @flow index label mine event task found own' =>
            have running := (windDown_of_run (run_of_path before)).running found own'
            simp only [FlowPath.environment] at answer
            split at answer
            · rename_i again old foundAgain oldFound
              obtain rfl : again = mine := Option.some.inj (foundAgain.symm.trans found)
              rw [own'] at answer
              obtain ⟨after, moved, rfl⟩ := Option.map_eq_some_iff.mp answer
              rcases getElem?_set_cases present with ⟨rfl, rfl⟩ | ⟨different, same⟩
              · obtain ⟨_, rfl⟩ | ⟨impossible, _⟩ := getElem?_set_cases there
                · exact own trace joint position label again event task old env before found
                    running (holds position again old found oldFound) own' moved
                · exact absurd rfl impossible
              · obtain ⟨impossible, _⟩ | ⟨_, sameEnv⟩ := getElem?_set_cases there
                · exact absurd impossible different
                · refine other _ _ _ _ _ _ (fun stepLabel sameStep => ?_)
                    (holds position flow env same sameEnv)
                  obtain ⟨rfl, _⟩ := RunLabel.flow.inj (Sum.inl.inj sameStep)
                  exact different rfl
            · simp at answer
        | clock ms =>
            obtain rfl := Option.some.inj answer
            exact clock _ _ _ _ _ _ (other _ _ _ _ _ _ (by simp)
              (holds position flow env present there))
        | @visit seen due index mine visiting found =>
            obtain rfl := Option.some.inj answer
            rcases getElem?_set_cases present with ⟨rfl, rfl⟩ | ⟨different, same⟩
            · exact visited _ _ _ _ _ _ _ (other _ _ _ _ _ _ (by simp)
                (holds position mine env found there))
            · exact other _ _ _ _ _ _ (by simp) (holds position flow env same there)
        | watchdogStop | watchdogStart | visitDone | sample | join | finalize =>
            obtain rfl := Option.some.inj answer
            exact other _ _ _ _ _ _ (by simp) (holds position flow env present there)

/-- Every flow has its path. -/
theorem path_of_flow
    (run : (pathMachine program path config).Run (initialPath program path config) trace joint)
    {index : Nat} {flow : Flow Task} (present : joint.1.flows[index]? = some flow) :
    ∃ env, joint.2[index]? = some env := by
  have size : joint.2.length = config.flowCount := by
    refine run.invariant (fun joint => joint.2.length = config.flowCount) ?_ ?_
    · simp [initialPath]
    · intro joint label next same step
      cases Machine.coupledStep_of_step step with
      | both _ answer =>
          simp only [FlowPath.environment] at answer
          split at answer
          · split at answer
            · split at answer
              · obtain ⟨_, _, rfl⟩ := Option.map_eq_some_iff.mp answer
                simpa using same
              · simp at answer
            · simp at answer
          · obtain rfl := Option.some.inj answer
            exact same
      | alone done =>
          simp only [FlowPath.environment] at done
          split at done
          · obtain ⟨_, _, rfl⟩ := Option.map_eq_some_iff.mp done
            simpa using same
          · simp at done
  have bound := (List.getElem?_eq_some_iff.mp present).1
  rw [flows_length (run_of_path run), ← size] at bound
  exact ⟨_, List.getElem?_eq_getElem bound⟩

end Path

end Npt.Ci.Client
