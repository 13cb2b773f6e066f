import Mathlib.Data.List.Basic

/-!
Contract: two-threshold switches over a history of outcomes.

A switch is on at first. It goes off when the outcomes end in a given number of
failures in a row, and comes on again when they end in a given number of
successes in a row. Histories list the newest outcome first.

Owns: the trailing run of a history, the switch as a function of the history,
and the bounds that the switch puts on its runs.

Does not own: how an implementation counts.
-/

namespace Npt.Core.Hysteresis

/-- How many of the newest outcomes in a row are `outcome`. -/
def trailing (outcome : Bool) : List Bool → Nat
  | [] => 0
  | newest :: earlier => if newest = outcome then trailing outcome earlier + 1 else 0

/-- The switch after a history, for `down` failures and `up` successes in a row. -/
def isOn (down up : Nat) : List Bool → Bool
  | [] => true
  | newest :: earlier =>
      if isOn down up earlier then decide (trailing false (newest :: earlier) ≠ down)
      else decide (trailing true (newest :: earlier) = up)

section Trailing

variable (outcome : Bool) (earlier : List Bool)

@[simp] theorem trailing_nil : trailing outcome [] = 0 := rfl

@[simp] theorem trailing_cons_self :
    trailing outcome (outcome :: earlier) = trailing outcome earlier + 1 := by
  simp [trailing]

theorem trailing_cons_ne {newest : Bool} (other : newest ≠ outcome) :
    trailing outcome (newest :: earlier) = 0 := by
  simp [trailing, other]

/-- A history ends in failures or in successes. -/
theorem trailing_eq_zero_or (history : List Bool) :
    trailing false history = 0 ∨ trailing true history = 0 := by
  cases history with
  | nil => exact Or.inl rfl
  | cons newest earlier => cases newest <;> simp [trailing]

end Trailing

section Switch

variable {down up : Nat} (downPos : 0 < down) (upPos : 0 < up)

include downPos upPos in
/-- While the switch is in one position, the run that would turn it is short. -/
theorem trailing_lt (history : List Bool) :
    (isOn down up history = true → trailing false history < down) ∧
      (isOn down up history = false → trailing true history < up) := by
  induction history with
  | nil => simpa [isOn] using downPos
  | cons newest earlier inductionHypothesis =>
      obtain ⟨whileOn, whileOff⟩ := inductionHypothesis
      cases before : isOn down up earlier with
      | true =>
          have short := whileOn before
          cases newest <;> simp [isOn, before, trailing] <;> omega
      | false =>
          have short := whileOff before
          cases newest <;> simp [isOn, before, trailing] <;> omega

include downPos in
theorem isOn_success (earlier : List Bool) :
    isOn down up (true :: earlier) =
      (isOn down up earlier || decide (trailing true earlier + 1 = up)) := by
  cases before : isOn down up earlier with
  | true =>
      have reached : 0 ≠ down := by omega
      simp [isOn, before, trailing, reached]
  | false => simp [isOn, before, trailing]

include upPos in
theorem isOn_failure (earlier : List Bool) :
    isOn down up (false :: earlier) =
      (isOn down up earlier && decide (trailing false earlier + 1 ≠ down)) := by
  cases before : isOn down up earlier with
  | true => simp [isOn, before, trailing]
  | false =>
      have reached : 0 ≠ up := by omega
      simp [isOn, before, trailing, reached]

end Switch

end Npt.Core.Hysteresis
