import Mathlib.Order.Lattice
import Mathlib.Order.Defs.LinearOrder
import Mathlib.Data.List.Basic

/-!
Contract: line plots of a history.

A plot has a series of points for each quantity of its history. The horizontal
axis reaches from the first to the last time, the vertical one from zero to the
largest value on a scale, or to one where that is more.

Owns: plots, their axes, and when all points lie between the bounds.

Does not own: titles, labels or how points are drawn.
-/

namespace Npt.Core

variable {Value Item : Type}

structure Plot (Value : Type) where
  series : List (List (Value × Value))
  xBounds : Value × Value
  yBounds : Value × Value
deriving DecidableEq, Repr

section Axes

variable [LinearOrder Value] [Zero Value] [One Value]

/-- The upper end of a vertical axis: the largest of the values, of zero and of one. -/
def axisMax (values : List Value) : Value := max (values.foldl max 0) 1

/-- The ends of a horizontal axis, with defaults where there are no times. -/
def axisRange (times : List Value) : Value × Value :=
  (times.head?.getD 0, times.getLast?.getD 1)

omit [Zero Value] [One Value] in
theorem le_foldl_max (values : List Value) (first : Value) :
    first ≤ values.foldl max first ∧ ∀ value ∈ values, value ≤ values.foldl max first := by
  induction values generalizing first with
  | nil => simp
  | cons head tail inductionHypothesis =>
      obtain ⟨above, covers⟩ := inductionHypothesis (max first head)
      refine ⟨(le_max_left first head).trans above, fun value member => ?_⟩
      rcases List.mem_cons.mp member with rfl | later
      · exact (le_max_right first value).trans above
      · exact covers value later

theorem le_axisMax {values : List Value} {value : Value} (member : value ∈ values) :
    value ≤ axisMax values :=
  ((le_foldl_max values 0).2 value member).trans (le_max_left _ _)

theorem between_axisRange {times : List Value} (sorted : times.Pairwise (· ≤ ·)) {time : Value}
    (member : time ∈ times) : (axisRange times).1 ≤ time ∧ time ≤ (axisRange times).2 := by
  obtain ⟨before, after, rfl⟩ := List.append_of_mem member
  obtain ⟨_, rest, across⟩ := List.pairwise_append.mp sorted
  constructor
  · cases before with
    | nil => exact le_rfl
    | cons first before => exact across first (by simp) time (by simp)
  · rcases List.eq_nil_or_concat' after with rfl | ⟨middle, last, rfl⟩
    · simp [axisRange]
    · have ends : (before ++ time :: (middle ++ [last])).getLast? = some last := by
        rw [← List.cons_append, ← List.append_assoc, List.getLast?_concat]
      rw [axisRange, ends]
      exact (List.pairwise_cons.mp rest).1 last (by simp)

end Axes

/-- Every point lies between the bounds. -/
def Plot.Fits [LE Value] (plot : Plot Value) : Prop :=
  ∀ points ∈ plot.series, ∀ point ∈ points,
    plot.xBounds.1 ≤ point.1 ∧ point.1 ≤ plot.xBounds.2 ∧
      plot.yBounds.1 ≤ point.2 ∧ point.2 ≤ plot.yBounds.2

section History

variable [LinearOrder Value] [Zero Value] [One Value] (time : Item → Value)
  (quantities : List (Item → Value)) (scale : Item → Value) (history : List Item)

/-- The plot of a history. -/
def plotOf : Plot Value where
  series := quantities.map (fun quantity => history.map (fun item => (time item, quantity item)))
  xBounds := axisRange (history.map time)
  yBounds := (0, axisMax (history.map scale))

variable {time quantities scale history}

/-- A history in order of its times fits its plot, where no quantity is negative or beyond
the scale. -/
theorem plotOf_fits (ordered : history.Pairwise (fun earlier later => time earlier ≤ time later))
    (scaled : ∀ quantity ∈ quantities, ∀ item ∈ history,
      0 ≤ quantity item ∧ quantity item ≤ scale item) :
    (plotOf time quantities scale history).Fits := by
  intro points series point member
  obtain ⟨quantity, listed, rfl⟩ := List.mem_map.mp series
  obtain ⟨item, inside, rfl⟩ := List.mem_map.mp member
  have times := between_axisRange (List.pairwise_map.mpr ordered) (List.mem_map_of_mem inside)
  obtain ⟨above, below⟩ := scaled quantity listed item inside
  exact ⟨times.1, times.2, above, below.trans (le_axisMax (List.mem_map_of_mem inside))⟩

end History

end Npt.Core
