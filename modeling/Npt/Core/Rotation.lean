import Mathlib.Data.Int.CardIntervalMod
import Mathlib.Data.List.Nodup

/-!
Contract: choosing from a list in rotation.

Consecutive indices, each taken modulo the length of the list, choose every
member equally often up to one, from whatever index they start.

Owns: the choices of a window of indices and how often each member is among
them.

Does not own: where the indices come from.
-/

namespace Npt.Core

/-- The choices of `length` consecutive indices from `start`. -/
def rotation {α : Type} (members : List α) (start length : Nat) : List (Option α) :=
  (List.range length).map (fun offset => members[(start + offset) % members.length]?)

namespace Rotation

variable {α : Type} {members : List α} {start length position other : Nat}

@[simp] theorem rotation_zero : rotation members start 0 = [] := rfl

theorem rotation_succ (members : List α) (start length : Nat) :
    rotation members start (length + 1) =
      rotation members start length ++ [members[(start + length) % members.length]?] := by
  simp [rotation, List.range_succ]

/-- Every choice is a member. -/
theorem mem_rotation (nonempty : members ≠ []) {choice : Option α}
    (member : choice ∈ rotation members start length) : ∃ chosen ∈ members, choice = some chosen := by
  obtain ⟨offset, _, rfl⟩ := List.mem_map.mp member
  have inRange : (start + offset) % members.length < members.length :=
    Nat.mod_lt _ (List.length_pos_iff.mpr nonempty)
  exact ⟨_, List.getElem_mem inRange, List.getElem?_eq_getElem inRange⟩

variable [DecidableEq α]

/-- A member is chosen once for each index that falls on its position. -/
theorem count_rotation (distinct : members.Nodup) (inRange : position < members.length)
    (start length : Nat) :
    Nat.count (· ≡ position [MOD members.length]) start +
        (rotation members start length).count (some members[position]) =
      Nat.count (· ≡ position [MOD members.length]) (start + length) := by
  induction length with
  | zero => simp
  | succ length inductionHypothesis =>
      have falls : members[(start + length) % members.length]? = some members[position] ↔
          start + length ≡ position [MOD members.length] := by
        have below : (start + length) % members.length < members.length :=
          Nat.mod_lt _ (by omega)
        rw [List.getElem?_eq_getElem below, Option.some.injEq, distinct.getElem_inj_iff,
          Nat.ModEq, Nat.mod_eq_of_lt inRange]
      rw [rotation_succ, List.count_append, ← Nat.add_assoc, inductionHypothesis,
        ← Nat.add_assoc, Nat.count_succ, List.count_singleton]
      simp only [beq_iff_eq, falls]

/-- How often a member is chosen, in closed form. -/
theorem count_rotation_add (distinct : members.Nodup) (inRange : position < members.length)
    (start length : Nat) :
    start / members.length + (if position < start % members.length then 1 else 0) +
        (rotation members start length).count (some members[position]) =
      (start + length) / members.length +
        (if position < (start + length) % members.length then 1 else 0) := by
  have positive : 0 < members.length := by omega
  have counted := count_rotation distinct inRange start length
  rwa [Nat.count_modEq_card _ positive, Nat.count_modEq_card _ positive,
    Nat.mod_eq_of_lt inRange] at counted

/-- No member is chosen more than once more often than another. -/
theorem count_le_succ (distinct : members.Nodup) (here : position < members.length)
    (there : other < members.length) :
    (rotation members start length).count (some members[position]) ≤
      (rotation members start length).count (some members[other]) + 1 := by
  have first := count_rotation_add distinct here start length
  have second := count_rotation_add distinct there start length
  split at first <;> split at first <;> split at second <;> split at second <;> omega

/-- Whole rounds choose every member once each. -/
theorem count_rounds (distinct : members.Nodup) (inRange : position < members.length)
    (rounds : Nat) :
    (rotation members start (members.length * rounds)).count (some members[position]) = rounds := by
  have positive : 0 < members.length := by omega
  have counted := count_rotation_add distinct inRange start (members.length * rounds)
  rw [Nat.add_mul_div_left _ _ positive, Nat.add_mul_mod_self_left] at counted
  omega

end Rotation

end Npt.Core
