import Mathlib.Data.List.Flatten
import Mathlib.Data.List.Perm.Basic
import Npt.Core.IndexedFamily
import Npt.Core.TransitionSystem

/-!
Contract: interleavings of finitely many tasks on a shared state.

Each task is a list of actions that are carried out in order; a step takes the
first pending action of one task. An action is total and may depend on a stamp
that the environment chooses, such as the time. Whatever only one task touches
is, after any run, the fold of what that task has done; what has been done by
all is the tasks' actions up to their order.

Owns: the pool machine, the local rule and the rule for what was executed.

Does not own: which observations are local.
-/

namespace Npt.Core

/-- What is left of every task, and the state they share. -/
structure Pool (Action State : Type) where
  pending : List (List Action)
  state : State

namespace Pool

variable {Stamp Action State : Type}

/-- Nothing is left to do. -/
def Finished (pool : Pool Action State) : Prop := ∀ rest ∈ pool.pending, rest = []

def machine (effect : Stamp → Action → State → State) :
    Machine (Pool Action State) (Nat × Stamp) where
  step := fun pool label =>
    match pool.pending[label.1]? with
    | some (action :: rest) =>
        some ⟨pool.pending.set label.1 rest, effect label.2 action pool.state⟩
    | _ => none

variable {effect : Stamp → Action → State → State} {tasks : List (List Action)} {start : State}
  {trace : List (Pool Action State × (Nat × Stamp))} {pool next : Pool Action State}

/-- Every step carries out the first pending action of a task. -/
theorem exists_of_step {label : Nat × Stamp} (step : (machine effect).step pool label = some next) :
    ∃ action rest, pool.pending[label.1]? = some (action :: rest) ∧
      next = ⟨pool.pending.set label.1 rest, effect label.2 action pool.state⟩ := by
  simp only [machine] at step
  split at step
  · rename_i action rest here
    exact ⟨action, rest, here, (Option.some.inj step).symm⟩
  · simp at step

/-- What is pending is the rest of a task. -/
theorem pending_of_run (run : (machine effect).Run ⟨tasks, start⟩ trace pool) :
    ∀ (index : Nat) (rest : List Action), pool.pending[index]? = some rest →
      ∃ done, tasks[index]? = some (done ++ rest) := by
  refine run.invariant (fun pool => ∀ (index : Nat) (rest : List Action),
    pool.pending[index]? = some rest → ∃ done, tasks[index]? = some (done ++ rest)) ?_ ?_
  · intro index rest present
    exact ⟨[], present⟩
  · intro pool label next holds step index rest present
    obtain ⟨action, tail, here, rfl⟩ := exists_of_step step
    rcases getElem?_set_cases present with ⟨rfl, rfl⟩ | ⟨_, same⟩
    · obtain ⟨done, whole⟩ := holds _ _ here
      exact ⟨done ++ [action], by simpa using whole⟩
    · exact holds index rest same

/-- An observation that one task alone changes is the fold of what it has done. -/
theorem local_of_run {Seen : Type} (see : State → Seen) (fold : Seen → Action → Seen)
    {index : Nat} {task : List Action} (mine : tasks[index]? = some task)
    (own : ∀ stamp state, ∀ action ∈ task, see (effect stamp action state) = fold (see state) action)
    (other : ∀ stamp state position others, tasks[position]? = some others → position ≠ index →
      ∀ action ∈ others, see (effect stamp action state) = see state)
    (run : (machine effect).Run ⟨tasks, start⟩ trace pool) :
    ∃ done rest, pool.pending[index]? = some rest ∧ task = done ++ rest ∧
      see pool.state = done.foldl fold (see start) := by
  induction run with
  | nil => exact ⟨[], task, mine, rfl, rfl⟩
  | @snoc trace pool next label before taken inductionHypothesis =>
      obtain ⟨done, rest, pending, split, seen⟩ := inductionHypothesis
      obtain ⟨action, tail, here, rfl⟩ := exists_of_step taken
      by_cases same : label.1 = index
      · rw [same] at here ⊢
        obtain rfl := Option.some.inj (pending.symm.trans here)
        refine ⟨done ++ [action], tail, getElem?_set_self_of_some pending tail, ?_, ?_⟩
        · rw [split, List.append_assoc, List.singleton_append]
        · rw [own _ _ action (by simp [split]), seen, List.foldl_concat]
      · refine ⟨done, rest, ?_, split, ?_⟩
        · rw [← pending]
          exact List.getElem?_set_ne same
        · obtain ⟨earlier, whole⟩ := pending_of_run before _ _ here
          rw [← seen]
          exact other _ _ _ _ whole same action (by simp)

/-- What no task changes. -/
theorem untouched_of_run {Seen : Type} (see : State → Seen)
    (kept : ∀ stamp state, ∀ task ∈ tasks, ∀ action ∈ task,
      see (effect stamp action state) = see state)
    (run : (machine effect).Run ⟨tasks, start⟩ trace pool) : see pool.state = see start := by
  induction run with
  | nil => rfl
  | @snoc trace pool next label before taken inductionHypothesis =>
      obtain ⟨action, tail, here, rfl⟩ := exists_of_step taken
      obtain ⟨done, whole⟩ := pending_of_run before _ _ here
      rw [← inductionHypothesis]
      exact kept _ _ _ (List.mem_of_getElem? whole) action (by simp)

/-- Taking the first action of a task takes it from all that is pending. -/
theorem flatten_set_perm {family : List (List Action)} {index : Nat} {action : Action}
    {rest : List Action} (here : family[index]? = some (action :: rest)) :
    (action :: (family.set index rest).flatten).Perm family.flatten := by
  induction family generalizing index with
  | nil => simp at here
  | cons head tail inductionHypothesis =>
      cases index with
      | zero =>
          obtain rfl : head = action :: rest := by simpa using here
          simp
      | succ index =>
          have moved := inductionHypothesis (show tail[index]? = some _ by simpa using here)
          simp only [List.set_cons_succ, List.flatten_cons]
          exact List.perm_middle.symm.trans (moved.append_left head)

/-- What has been carried out, in order, with what it says of the state. -/
theorem executed_of_run (property : List Action → State → Prop) (initial : property [] start)
    (step : ∀ executed before (pool : Pool Action State) (index : Nat) stamp action rest,
      (machine effect).Run ⟨tasks, start⟩ before pool →
      pool.pending[index]? = some (action :: rest) → property executed pool.state →
      property (executed ++ [action]) (effect stamp action pool.state))
    (run : (machine effect).Run ⟨tasks, start⟩ trace pool) :
    ∃ executed, (executed ++ pool.pending.flatten).Perm tasks.flatten ∧
      property executed pool.state := by
  induction run with
  | nil => exact ⟨[], .refl _, initial⟩
  | @snoc trace pool next label before taken inductionHypothesis =>
      obtain ⟨executed, perm, holds⟩ := inductionHypothesis
      obtain ⟨action, rest, here, rfl⟩ := exists_of_step taken
      refine ⟨executed ++ [action], ?_, step _ _ _ _ _ _ _ before here holds⟩
      rw [List.append_assoc]
      exact ((flatten_set_perm here).append_left executed).trans perm

theorem Finished.flatten (finished : pool.Finished) : pool.pending.flatten = [] :=
  List.flatten_eq_nil_iff.mpr finished

end Pool

end Npt.Core
