import Npt.Core.TransitionSystem

/-!
Contract: a machine coupled with its environment.

The environment has a state of its own. It answers every step of the machine,
by refusing it or by moving along, and may act by itself in between. Every run
of the coupled system is a run of the machine, so what holds of all runs of the
machine holds in the environment too.

Owns: coupled systems, the projection of their runs, and the rule that lifts a
joint invariant.

Does not own: any particular environment.
-/

namespace Npt.Core

/-- How an environment answers the steps of a machine, and what it does by
itself. -/
structure Environment (State Label Env Act : Type) where
  answer : Env → State → Label → Option Env
  act : Env → Act → Option Env

namespace Machine

variable {State Label Env Act : Type} (machine : Machine State Label)
  (environment : Environment State Label Env Act)

def coupled : Machine (State × Env) (Label ⊕ Act) where
  step := fun joint label =>
    match label with
    | .inl label =>
        match machine.step joint.1 label, environment.answer joint.2 joint.1 label with
        | some next, some answered => some (next, answered)
        | _, _ => none
    | .inr act => (environment.act joint.2 act).map (joint.1, ·)

/-- The machine's own steps of a coupled run. -/
def ownSteps (trace : List ((State × Env) × (Label ⊕ Act))) : List (State × Label) :=
  trace.filterMap (fun entry => entry.2.getLeft?.map (entry.1.1, ·))

section OwnSteps

variable (trace : List ((State × Env) × (Label ⊕ Act))) (joint : State × Env)

@[simp] theorem ownSteps_nil : ownSteps ([] : List ((State × Env) × (Label ⊕ Act))) = [] := rfl

@[simp] theorem ownSteps_snoc_inl (label : Label) :
    ownSteps (trace ++ [(joint, .inl label)]) = ownSteps trace ++ [(joint.1, label)] := by
  rw [ownSteps, List.filterMap_append]
  rfl

@[simp] theorem ownSteps_snoc_inr (act : Act) :
    ownSteps (trace ++ [(joint, .inr act)]) = ownSteps trace := by
  rw [ownSteps, List.filterMap_append]
  exact List.append_nil _

end OwnSteps

variable {machine environment}

/-- What a step of the coupled system is. -/
inductive CoupledStep (machine : Machine State Label)
    (environment : Environment State Label Env Act) (joint : State × Env) :
    Label ⊕ Act → State × Env → Prop where
  | both {label : Label} {next : State} {answered : Env}
      (taken : machine.step joint.1 label = some next)
      (answer : environment.answer joint.2 joint.1 label = some answered) :
      CoupledStep machine environment joint (.inl label) (next, answered)
  | alone {act : Act} {acted : Env} (done : environment.act joint.2 act = some acted) :
      CoupledStep machine environment joint (.inr act) (joint.1, acted)

theorem coupledStep_of_step {joint next : State × Env} {label : Label ⊕ Act}
    (step : (machine.coupled environment).step joint label = some next) :
    CoupledStep machine environment joint label next := by
  cases label with
  | inl label =>
      simp only [coupled] at step
      split at step
      · rename_i after answered taken answer
        obtain rfl := Option.some.inj step
        exact .both taken answer
      · simp at step
  | inr act =>
      obtain ⟨acted, done, rfl⟩ := Option.map_eq_some_iff.mp step
      exact .alone done

/-- A coupled run is a run of the machine. -/
theorem Run.own {start last : State × Env} {trace : List ((State × Env) × (Label ⊕ Act))}
    (run : (machine.coupled environment).Run start trace last) :
    machine.Run start.1 (ownSteps trace) last.1 := by
  induction run with
  | nil => exact .nil
  | snoc _ step inductionHypothesis =>
      cases coupledStep_of_step step with
      | both taken _ =>
          rw [ownSteps_snoc_inl]
          exact .snoc inductionHypothesis taken
      | alone _ =>
          rw [ownSteps_snoc_inr]
          exact inductionHypothesis

end Machine

end Npt.Core
