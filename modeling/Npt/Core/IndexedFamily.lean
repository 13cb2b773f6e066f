import Mathlib.Algebra.BigOperators.Group.List.Basic
import Mathlib.Data.List.GetD

/-!
Contract: families of components updated one at a time.

A system of concurrent components is a list of local states; a step replaces
the entry at one index. The laws here say how a total over the family moves
under such a step, so that a shared counter that each step adjusts by the
component's own change of weight stays equal to the total.

Owns: the weighted total, the count, membership and quantifiers under
`List.set`.

Does not own: the components or the counters themselves.
-/

namespace Npt.Core

universe u v

variable {Component : Type u}

/-- The total weight of a family. -/
def total {Weight : Type v} [AddCommMonoid Weight] (weight : Component → Weight)
    (family : List Component) : Weight :=
  (family.map weight).sum

section Total

variable {Weight : Type v} [AddCommMonoid Weight] (weight : Component → Weight)

@[simp] theorem total_cons (head : Component) (tail : List Component) :
    total weight (head :: tail) = weight head + total weight tail := by
  simp [total]

/-- Replacing one component trades its old weight for its new one. -/
theorem total_set {family : List Component} {index : Nat} {old : Component}
    (present : family[index]? = some old) (new : Component) :
    total weight (family.set index new) + weight old = total weight family + weight new := by
  induction family generalizing index with
  | nil => simp at present
  | cons head tail inductionHypothesis =>
      cases index with
      | zero =>
          obtain rfl : head = old := by simpa using present
          simp only [List.set_cons_zero, total_cons]
          rw [add_comm (weight new), add_assoc, add_comm (weight new), ← add_assoc,
            add_comm (total weight tail)]
      | succ index =>
          have moved := inductionHypothesis (show tail[index]? = some old by simpa using present)
          simp only [List.set_cons_succ, total_cons]
          rw [add_assoc, moved, add_assoc]

end Total

/-- How a count moves when one component is replaced. -/
theorem countP_set_add (selects : Component → Bool) {family : List Component} {index : Nat}
    {old : Component} (present : family[index]? = some old) (new : Component) :
    (family.set index new).countP selects + (selects old).toNat =
      family.countP selects + (selects new).toNat := by
  induction family generalizing index with
  | nil => simp at present
  | cons head tail inductionHypothesis =>
      cases index with
      | zero =>
          obtain rfl : head = old := by simpa using present
          simp only [List.set_cons_zero, List.countP_cons]
          cases selects head <;> cases selects new <;> simp
      | succ index =>
          have moved := inductionHypothesis (show tail[index]? = some old by simpa using present)
          simp only [List.set_cons_succ, List.countP_cons]
          omega

/-- A property of every component survives a step that keeps it at the index it
replaces. -/
theorem forall_getElem?_set {property : Nat → Component → Prop} {family : List Component}
    {index : Nat} {new : Component}
    (others : ∀ position component, position ≠ index →
      family[position]? = some component → property position component)
    (here : property index new) :
    ∀ position component, (family.set index new)[position]? = some component →
      property position component := by
  intro position component found
  by_cases same : position = index
  · subst same
    rw [List.getElem?_set] at found
    simp only [↓reduceIte] at found
    split at found
    · obtain rfl := Option.some.inj found
      exact here
    · simp at found
  · rw [List.getElem?_set_ne (Ne.symm same)] at found
    exact others position component same found

theorem getElem?_set_self_of_some {family : List Component} {index : Nat} {old : Component}
    (present : family[index]? = some old) (new : Component) :
    (family.set index new)[index]? = some new := by
  have below : index < family.length := (List.getElem?_eq_some_iff.mp present).1
  simp [below]

/-- A component of a family after one was replaced. -/
theorem getElem?_set_cases {family : List Component} {index position : Nat} {new found : Component}
    (present : (family.set index new)[position]? = some found) :
    (position = index ∧ found = new) ∨ (position ≠ index ∧ family[position]? = some found) := by
  let outcome (position : Nat) (found : Component) : Prop :=
    (position = index ∧ found = new) ∨ (position ≠ index ∧ family[position]? = some found)
  have each : ∀ position found, (family.set index new)[position]? = some found →
      outcome position found := forall_getElem?_set
    (fun position component different there => Or.inr ⟨different, there⟩) (Or.inl ⟨rfl, rfl⟩)
  exact each position found present

/-- A component of a family that has grown by one. -/
theorem getElem?_snoc_cases {family : List Component} {index : Nat} {new found : Component}
    (present : (family ++ [new])[index]? = some found) :
    family[index]? = some found ∨ index = family.length ∧ found = new := by
  rcases Nat.lt_trichotomy index family.length with inside | last | beyond
  · rw [List.getElem?_append_left inside] at present
    exact Or.inl present
  · subst last
    exact Or.inr ⟨rfl, by simpa using present.symm⟩
  · rw [List.getElem?_eq_none (by simp; omega)] at present
    simp at present

end Npt.Core
