import Mathlib.Logic.Relation
import Mathlib.Data.List.Basic

/-!
Contract: labelled transition systems and their runs.

A `Machine` steps from a state under a label; labels carry every choice that
the environment or the scheduler makes, so a step is a partial function. A
`Run` records each step with the state it left, which is what a statement about
"every step of every run" speaks of.

Owns: runs and their composition, the invariant rules (plain, under a step
condition, and over the recorded history), the projection of a run onto one
component, and the executable `play` that turns a list of labels into a run.

Does not own: any particular machine, fairness, or infinite runs.
-/

namespace Npt.Core

/-- A transition system whose labels resolve all nondeterminism. -/
structure Machine (State Label : Type) where
  step : State → Label → Option State

namespace Machine

variable {State Label : Type} (machine : Machine State Label)

/-- A finite run: the steps in order, each with the state it was taken in. -/
inductive Run (start : State) : List (State × Label) → State → Prop where
  | nil : Run start [] start
  | snoc {trace : List (State × Label)} {state next : State} {label : Label}
      (before : Run start trace state)
      (taken : machine.step state label = some next) :
      Run start (trace ++ [(state, label)]) next

/-- Some run leads from `start` to `state`. -/
def Reachable (start state : State) : Prop :=
  ∃ trace, machine.Run start trace state

/-- Some run leads from `start` to `state` with all its labels in `allowed`. -/
def ReachableBy (allowed : Label → Prop) (start state : State) : Prop :=
  ∃ trace, machine.Run start trace state ∧ ∀ entry ∈ trace, allowed entry.2

/-- Execute a list of labels. -/
def play : State → List Label → Option State
  | state, [] => some state
  | state, label :: rest =>
      match machine.step state label with
      | some next => play next rest
      | none => none

/-- The steps that executing a list of labels records. -/
def trace : State → List Label → List (State × Label)
  | _, [] => []
  | state, label :: rest =>
      match machine.step state label with
      | some next => (state, label) :: trace next rest
      | none => []

variable {machine}

theorem Run.single {state next : State} {label : Label}
    (taken : machine.step state label = some next) :
    machine.Run state [(state, label)] next :=
  Run.snoc Run.nil taken

theorem Run.append {first second third : State} {left right : List (State × Label)}
    (before : machine.Run first left second) (after : machine.Run second right third) :
    machine.Run first (left ++ right) third := by
  induction after with
  | nil => simpa using before
  | snoc _ taken inductionHypothesis =>
      rw [← List.append_assoc]
      exact Run.snoc inductionHypothesis taken

theorem Run.cons {state next last : State} {label : Label} {trace : List (State × Label)}
    (taken : machine.step state label = some next) (after : machine.Run next trace last) :
    machine.Run state ((state, label) :: trace) last :=
  Run.append (Run.single taken) after

/-- A run splits at every recorded step. -/
theorem Run.split {start last : State} {trace before after : List (State × Label)}
    {entry : State × Label} (run : machine.Run start trace last)
    (shape : trace = before ++ entry :: after) :
    ∃ next, machine.Run start before entry.1 ∧
      machine.step entry.1 entry.2 = some next ∧ machine.Run next after last := by
  induction run generalizing after with
  | nil => simp at shape
  | @snoc trace state next label earlier taken inductionHypothesis =>
      rcases List.eq_nil_or_concat after with rfl | ⟨middle, final, rfl⟩
      · obtain ⟨sameTrace, sameEntry⟩ := List.append_inj' shape rfl
        obtain rfl := List.singleton_inj.mp sameEntry
        subst sameTrace
        exact ⟨next, earlier, taken, Run.nil⟩
      · have regrouped :
            trace ++ [(state, label)] = (before ++ entry :: middle) ++ [final] := by
          simpa using shape
        obtain ⟨sameTrace, sameEntry⟩ := List.append_inj' regrouped rfl
        obtain rfl := List.singleton_inj.mp sameEntry
        obtain ⟨following, start', here, rest⟩ := inductionHypothesis sameTrace
        refine ⟨following, start', here, ?_⟩
        rw [List.concat_eq_append]
        exact Run.snoc rest taken

theorem Run.mem_step {start last : State} {trace : List (State × Label)}
    (run : machine.Run start trace last) {entry : State × Label} (member : entry ∈ trace) :
    ∃ before next, machine.Run start before entry.1 ∧
      machine.step entry.1 entry.2 = some next := by
  obtain ⟨before, after, shape⟩ := List.append_of_mem member
  obtain ⟨next, earlier, taken, _⟩ := run.split shape
  exact ⟨before, next, earlier, taken⟩

/-- The run that leads to a recorded step is a prefix. -/
theorem Run.before {start last : State} {trace : List (State × Label)}
    (run : machine.Run start trace last) {entry : State × Label} (member : entry ∈ trace) :
    ∃ before, before ⊆ trace ∧ machine.Run start before entry.1 := by
  obtain ⟨before, after, shape⟩ := List.append_of_mem member
  obtain ⟨_, earlier, _, _⟩ := run.split shape
  exact ⟨before, by simp [shape], earlier⟩

/-- The history rule: a property of trace and state that holds at the start and
is kept by every step holds after every run. -/
theorem Run.history {start last : State} {trace : List (State × Label)}
    (run : machine.Run start trace last)
    (invariant : List (State × Label) → State → Prop)
    (initial : invariant [] start)
    (preserved : ∀ trace state label next, machine.Run start trace state →
      invariant trace state → machine.step state label = some next →
      invariant (trace ++ [(state, label)]) next) :
    invariant trace last := by
  induction run with
  | nil => exact initial
  | snoc before taken inductionHypothesis =>
      exact preserved _ _ _ _ before inductionHypothesis taken

/-- The invariant rule under a condition that every step of the run meets. -/
theorem Run.invariant_under {start last : State} {trace : List (State × Label)}
    (run : machine.Run start trace last)
    (condition : State → Label → Prop) (invariant : State → Prop)
    (met : ∀ entry ∈ trace, condition entry.1 entry.2)
    (initial : invariant start)
    (preserved : ∀ state label next, invariant state → condition state label →
      machine.step state label = some next → invariant next) :
    invariant last := by
  induction run with
  | nil => exact initial
  | @snoc trace state next label before taken inductionHypothesis =>
      have here := met (state, label) (by simp)
      have earlier := inductionHypothesis (fun entry member => met entry (by simp [member]))
      exact preserved state label next earlier here taken

/-- The invariant rule. -/
theorem Run.invariant {start last : State} {trace : List (State × Label)}
    (run : machine.Run start trace last) (invariant : State → Prop)
    (initial : invariant start)
    (preserved : ∀ state label next, invariant state →
      machine.step state label = some next → invariant next) :
    invariant last :=
  run.invariant_under (fun _ _ => True) invariant (fun _ _ => trivial) initial
    (fun state label next holds _ taken => preserved state label next holds taken)

/-- States of a rank that every step lowers: no run is longer than the rank of
its start. -/
theorem Run.ranked {start last : State} {trace : List (State × Label)} {first : Nat}
    (rank : Nat → State → Prop) (initial : rank first start)
    (lowers : ∀ here state label next, rank here state → machine.step state label = some next →
      ∃ lower < here, rank lower next)
    (run : machine.Run start trace last) :
    ∃ final, final + trace.length ≤ first ∧ rank final last := by
  induction run with
  | nil => exact ⟨first, Nat.le_refl _, initial⟩
  | snoc _ taken inductionHypothesis =>
      obtain ⟨here, bound, ranked⟩ := inductionHypothesis
      obtain ⟨lower, less, after⟩ := lowers here _ _ _ ranked taken
      refine ⟨lower, ?_, after⟩
      rw [List.length_append, List.length_singleton]
      omega

/-- Where every step lowers a rank, and one can be taken until it is done, some
run is done. -/
theorem exists_run_of_rank {invariant done : State → Prop} (rank : State → Nat)
    (live : ∀ state, invariant state → ¬done state →
      ∃ label next, machine.step state label = some next)
    (lowers : ∀ state label next, invariant state → machine.step state label = some next →
      invariant next ∧ rank next < rank state)
    {start : State} (initial : invariant start) :
    ∃ trace last, machine.Run start trace last ∧ done last := by
  induction size : rank start using Nat.strongRecOn generalizing start with
  | ind size inductionHypothesis =>
      by_cases here : done start
      · exact ⟨[], start, Run.nil, here⟩
      · obtain ⟨label, next, taken⟩ := live start initial here
        obtain ⟨kept, less⟩ := lowers start label next initial taken
        obtain ⟨trace, last, rest, finished⟩ :=
          inductionHypothesis (rank next) (size ▸ less) kept rfl
        exact ⟨_, last, Run.cons taken rest, finished⟩

/-- The projection rule: a component that only its own moves change goes through a
run as through its own moves alone. -/
theorem Run.project {start last : State} {trace : List (State × Label)} {Local Move : Type}
    (run : machine.Run start trace last) (view : State → Option Local)
    (own : Label → Option Move) (advance : Local → Move → Option Local)
    (foreign : ∀ state label next here, view state = some here → own label = none →
      machine.step state label = some next → view next = some here)
    (moved : ∀ state label next here move, view state = some here → own label = some move →
      machine.step state label = some next → view next = advance here move ∧
        (advance here move).isSome)
    {first : Local} (initial : view start = some first) :
    ∃ final, view last = some final ∧
      (trace.filterMap (fun entry => own entry.2)).foldlM advance first = some final := by
  induction run with
  | nil => exact ⟨first, initial, rfl⟩
  | @snoc trace state next label _ taken inductionHypothesis =>
      obtain ⟨here, seen, folded⟩ := inductionHypothesis
      rw [List.filterMap_append, List.foldlM_append, folded]
      cases mine : own label with
      | none => exact ⟨here, foreign state label next here seen mine taken, by simp [mine]⟩
      | some move =>
          obtain ⟨viewed, defined⟩ := moved state label next here move seen mine taken
          obtain ⟨after, advanced⟩ := Option.isSome_iff_exists.mp defined
          exact ⟨after, viewed.trans advanced, by simp [mine, advanced]⟩

theorem Reachable.invariant {start state : State} (reachable : machine.Reachable start state)
    (invariant : State → Prop) (initial : invariant start)
    (preserved : ∀ state label next, invariant state →
      machine.step state label = some next → invariant next) :
    invariant state := by
  obtain ⟨_, run⟩ := reachable
  exact run.invariant invariant initial preserved

section Allowed

variable {allowed : Label → Prop}

theorem ReachableBy.refl (state : State) : machine.ReachableBy allowed state state :=
  ⟨[], Run.nil, by simp⟩

theorem ReachableBy.single {state next : State} {label : Label}
    (taken : machine.step state label = some next) (permitted : allowed label) :
    machine.ReachableBy allowed state next :=
  ⟨_, Run.single taken, by simpa using permitted⟩

theorem ReachableBy.trans {first second third : State}
    (before : machine.ReachableBy allowed first second)
    (after : machine.ReachableBy allowed second third) :
    machine.ReachableBy allowed first third := by
  obtain ⟨left, runLeft, allowedLeft⟩ := before
  obtain ⟨right, runRight, allowedRight⟩ := after
  refine ⟨left ++ right, runLeft.append runRight, ?_⟩
  intro entry member
  rcases List.mem_append.mp member with inLeft | inRight
  · exact allowedLeft entry inLeft
  · exact allowedRight entry inRight

/-- The invariant rule for the runs whose labels are all `allowed`. -/
theorem ReachableBy.invariant {start state : State}
    (reachable : machine.ReachableBy allowed start state) (invariant : State → Prop)
    (initial : invariant start)
    (preserved : ∀ state label next, invariant state → allowed label →
      machine.step state label = some next → invariant next) :
    invariant state := by
  obtain ⟨_, run, permitted⟩ := reachable
  exact run.invariant_under (fun _ label => allowed label) invariant permitted initial preserved

end Allowed

/-- Executing labels is a run. -/
theorem run_of_play {start last : State} {labels : List Label}
    (played : machine.play start labels = some last) :
    machine.Run start (machine.trace start labels) last := by
  induction labels generalizing start with
  | nil =>
      obtain rfl := Option.some.inj played
      exact Run.nil
  | cons label rest inductionHypothesis =>
      cases taken : machine.step start label with
      | none => simp [play, taken] at played
      | some next =>
          simp only [play, taken] at played
          simp only [trace, taken]
          exact Run.cons taken (inductionHypothesis played)

/-- The labels of the recorded steps are among those executed. -/
theorem label_mem_of_trace {start : State} {labels : List Label} {entry : State × Label}
    (member : entry ∈ machine.trace start labels) : entry.2 ∈ labels := by
  induction labels generalizing start with
  | nil => simp [trace] at member
  | cons label rest inductionHypothesis =>
      rw [trace] at member
      split at member
      · rcases List.mem_cons.mp member with rfl | later
        · exact List.mem_cons_self
        · exact List.mem_cons_of_mem label (inductionHypothesis later)
      · simp at member

theorem reachable_of_play {start last : State} {labels : List Label}
    (played : machine.play start labels = some last) : machine.Reachable start last :=
  ⟨_, run_of_play played⟩

end Machine

end Npt.Core
