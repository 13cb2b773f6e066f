import Mathlib.Logic.Function.Iterate

/-!
Contract: a window on a list of lines that is scrolled up from its end.

A window shows `visible` of `total` lines. At scroll 0 it shows the last ones, and
each press moves it up by one line as long as the scroll is under a limit. The
limit is not the window's own, so the two need not meet at the first line.

Owns: the scroll after any number of presses and the lines that come into view.

Does not own: what the lines are.
-/

namespace Npt.Core

/-- The first line of the window. -/
def windowStart (visible total scroll : Nat) : Nat := total - visible - min scroll (total - visible)

/-- A line is in the window. -/
def InWindow (visible total scroll line : Nat) : Prop :=
  windowStart visible total scroll ≤ line ∧ line < windowStart visible total scroll + visible

/-- One press. -/
def scrollDown (limit scroll : Nat) : Nat := if scroll < limit then scroll + 1 else scroll

variable {visible total limit scroll line : Nat}

theorem iterate_scrollDown (presses : Nat) :
    (scrollDown limit)^[presses] scroll = max scroll (min (scroll + presses) limit) := by
  induction presses with
  | zero =>
      rw [Function.iterate_zero_apply]
      omega
  | succ presses inductionHypothesis =>
      rw [Function.iterate_succ_apply', inductionHypothesis, scrollDown]
      split <;> omega

/-- A state whose every press scrolls by one line is scrolled by as many as pressed. -/
theorem iterate_press {State : Type} {press : State → State} (kept : State → Prop)
    (scrollOf : State → Nat) (limit : Nat)
    (each : ∀ state, kept state →
      kept (press state) ∧ scrollOf (press state) = scrollDown limit (scrollOf state))
    {state : State} (start : kept state) (presses : Nat) :
    kept (press^[presses] state) ∧
      scrollOf (press^[presses] state) = (scrollDown limit)^[presses] (scrollOf state) := by
  induction presses with
  | zero => exact ⟨start, rfl⟩
  | succ presses inductionHypothesis =>
      obtain ⟨still, scrolled⟩ := inductionHypothesis
      rw [Function.iterate_succ_apply', Function.iterate_succ_apply', ← scrolled]
      exact each _ still

/-- More scroll, an earlier window. -/
theorem windowStart_anti {low high : Nat} (le : low ≤ high) :
    windowStart visible total high ≤ windowStart visible total low := by
  unfold windowStart
  omega

/-- Presses bring into view everything from the first window's end up to the top of
the last window. -/
theorem exists_inWindow_iff (some : 0 < visible) :
    (∃ presses, InWindow visible total ((scrollDown limit)^[presses] scroll) line) ↔
      windowStart visible total (max scroll limit) ≤ line ∧
        line < windowStart visible total scroll + visible := by
  constructor
  · rintro ⟨presses, above, below⟩
    rw [iterate_scrollDown] at above below
    refine ⟨Nat.le_trans (windowStart_anti (by omega)) above, Nat.lt_of_lt_of_le below ?_⟩
    exact Nat.add_le_add_right (windowStart_anti (Nat.le_max_left _ _)) visible
  · rintro ⟨above, below⟩
    by_cases here : windowStart visible total scroll ≤ line
    · exact ⟨0, here, below⟩
    · -- The press after which the line is the top one.
      refine ⟨total - visible - line - scroll, ?_⟩
      rw [iterate_scrollDown, InWindow]
      unfold windowStart at above here ⊢
      omega

end Npt.Core
