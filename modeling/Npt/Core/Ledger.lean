import Mathlib.Algebra.BigOperators.Group.List.Basic
import Mathlib.Data.Nat.ModEq
import Npt.Core.TransitionSystem

/-!
Contract: ledgers of leased resources over runs.

The steps of a machine take, return or lose units of a resource, and between
steps some units are held. A `LeaseLedger` says how one step moves them; the
run rules add the steps up. A shared counter that only sees units taken and
returned therefore shows what is held plus what was lost, in the arithmetic of
its own width.

Owns: tallies over a run, the balance of a run, and the counter rule.

Does not own: what the resource is, or who holds it.
-/

namespace Npt.Core.Machine

variable {State Label : Type} {machine : Machine State Label}

/-- The sum over the steps of a run. -/
def tally (count : State → Label → Nat) (steps : List (State × Label)) : Nat :=
  (steps.map (fun entry => count entry.1 entry.2)).sum

section Tally

variable (count : State → Label → Nat)

@[simp] theorem tally_nil : tally count ([] : List (State × Label)) = 0 := rfl

@[simp] theorem tally_snoc (steps : List (State × Label)) (state : State) (label : Label) :
    tally count (steps ++ [(state, label)]) = tally count steps + count state label := by
  simp [tally]

theorem tally_append (earlier later : List (State × Label)) :
    tally count (earlier ++ later) = tally count earlier + tally count later := by
  simp [tally]

theorem tally_eq_zero_iff {steps : List (State × Label)} :
    tally count steps = 0 ↔ ∀ entry ∈ steps, count entry.1 entry.2 = 0 := by
  rw [tally, List.sum_eq_zero_iff_forall_eq_nat, List.forall_mem_map]

theorem tally_le {count larger : State → Label → Nat} {steps : List (State × Label)}
    (le : ∀ entry ∈ steps, count entry.1 entry.2 ≤ larger entry.1 entry.2) :
    tally count steps ≤ tally larger steps := by
  induction steps with
  | nil => exact Nat.le_refl _
  | cons entry steps inductionHypothesis =>
      have here := le entry (by simp)
      have rest := inductionHypothesis (fun entry member => le entry (by simp [member]))
      simp only [tally, List.map_cons, List.sum_cons] at rest ⊢
      omega

theorem tally_add (other : State → Label → Nat) (steps : List (State × Label)) :
    tally count steps + tally other steps =
      tally (fun state label => count state label + other state label) steps := by
  rw [tally, tally, tally, ← List.sum_map_add]

theorem exists_of_tally_pos {steps : List (State × Label)} (positive : 0 < tally count steps) :
    ∃ entry ∈ steps, 0 < count entry.1 entry.2 := by
  by_contra none
  push Not at none
  refine positive.ne' ((tally_eq_zero_iff count).mpr (fun entry member => ?_))
  exact Nat.le_zero.mp (none entry member)

theorem tally_pos_of_mem {entry : State × Label} {steps : List (State × Label)}
    (member : entry ∈ steps) (positive : 0 < count entry.1 entry.2) : 0 < tally count steps := by
  refine Nat.pos_of_ne_zero (fun zero => ?_)
  have none := (tally_eq_zero_iff count).mp zero entry member
  omega

end Tally

/-- What each step takes, returns and loses of one resource. -/
structure LeaseLedger (machine : Machine State Label) where
  taken : State → Label → Nat
  returned : State → Label → Nat
  lost : State → Label → Nat
  held : State → Nat
  balance : ∀ state label next, machine.step state label = some next →
    taken state label + held state = returned state label + held next + lost state label

namespace LeaseLedger

variable (ledger : LeaseLedger machine) {start last : State} {trace : List (State × Label)}

/-- Every unit taken was returned, is held, or was lost. -/
theorem balance_run (run : machine.Run start trace last) (empty : ledger.held start = 0) :
    tally ledger.taken trace =
      tally ledger.returned trace + ledger.held last + tally ledger.lost trace := by
  induction run with
  | nil => simp [empty]
  | @snoc trace state next label before taken inductionHypothesis =>
      have moved := ledger.balance state label next taken
      simp only [tally_snoc]
      omega

/-- A counter of the units out, in arithmetic modulo `modulus`. -/
theorem counter_run (run : machine.Run start trace last) (empty : ledger.held start = 0)
    (counter : State → Nat) (modulus : Nat) (zero : counter start = 0)
    (counts : ∀ before state label next, machine.Run start before state →
      machine.step state label = some next →
      (counter next + ledger.returned state label) % modulus =
        (counter state + ledger.taken state label) % modulus) :
    counter last % modulus = (ledger.held last + tally ledger.lost trace) % modulus := by
  induction run with
  | nil => simp [zero, empty]
  | @snoc trace state next label before taken inductionHypothesis =>
      have moved := ledger.balance state label next taken
      have counted := counts trace state label next before taken
      have out : (counter next + ledger.returned state label) % modulus =
          (ledger.held next + tally ledger.lost (trace ++ [(state, label)]) +
            ledger.returned state label) % modulus := by
        rw [counted, Nat.add_mod, inductionHypothesis, ← Nat.add_mod, tally_snoc]
        congr 1
        omega
      exact Nat.ModEq.add_right_cancel' _ out

end LeaseLedger

end Npt.Core.Machine
