import Npt.Core.TransitionSystem

/-!
Contract: an observer that looks at a machine from time to time.

A look changes what the observer holds and leaves the machine alone, so the
machine's part of every run is a run of the machine, and what the observer
holds is decided by what it has seen.

Owns: observed machines, the looks of a run, and the order of what they saw.

Does not own: any particular observer.
-/

namespace Npt.Core

/-- What a look at a state, with an input of its own, makes of a view. -/
structure Observer (State Input View : Type) where
  look : State → Input → View → Option View

namespace Machine

variable {State Label Input View : Type} (machine : Machine State Label)
  (observer : Observer State Input View)

def observed : Machine (State × View) (Label ⊕ Input) where
  step := fun joint label =>
    match label with
    | .inl label => (machine.step joint.1 label).map (·, joint.2)
    | .inr input => (observer.look joint.1 input joint.2).map (joint.1, ·)

/-- What the observer saw in a run, and the inputs of its looks. -/
def looks (trace : List ((State × View) × (Label ⊕ Input))) : List (State × Input) :=
  trace.filterMap (fun entry => entry.2.getRight?.map (entry.1.1, ·))

section Looks

variable (trace : List ((State × View) × (Label ⊕ Input))) (joint : State × View)

@[simp] theorem looks_snoc_inl (label : Label) :
    looks (trace ++ [(joint, .inl label)]) = looks trace := by
  rw [looks, List.filterMap_append]
  exact List.append_nil _

@[simp] theorem looks_snoc_inr (input : Input) :
    looks (trace ++ [(joint, .inr input)]) = looks trace ++ [(joint.1, input)] := by
  rw [looks, List.filterMap_append]
  rfl

end Looks

variable {machine observer}

/-- The rule for views: an invariant of what was seen and what is held, kept by every look
at a state that the machine can be in. -/
theorem Run.looked {start last : State × View} {trace : List ((State × View) × (Label ⊕ Input))}
    (run : (machine.observed observer).Run start trace last)
    (reached : State → Prop) (invariant : List (State × Input) → View → Prop)
    (first : reached start.1)
    (moves : ∀ state label next, reached state → machine.step state label = some next →
      reached next)
    (initial : invariant [] start.2)
    (kept : ∀ seen state input view next, reached state → invariant seen view →
      observer.look state input view = some next → invariant (seen ++ [(state, input)]) next) :
    reached last.1 ∧ invariant (looks trace) last.2 := by
  refine run.history (fun trace joint => reached joint.1 ∧ invariant (looks trace) joint.2)
    ⟨first, initial⟩ ?_
  rintro trace joint label next _ ⟨here, holds⟩ taken
  cases label with
  | inl label =>
      obtain ⟨state, stepped, rfl⟩ := Option.map_eq_some_iff.mp taken
      rw [looks_snoc_inl]
      exact ⟨moves _ _ _ here stepped, holds⟩
  | inr input =>
      obtain ⟨view, looked, rfl⟩ := Option.map_eq_some_iff.mp taken
      rw [looks_snoc_inr]
      exact ⟨here, kept _ _ _ _ _ here holds looked⟩

/-- What is seen later is later, for an order that every step of the machine follows. -/
theorem Run.looks_ordered {start last : State × View}
    {trace : List ((State × View) × (Label ⊕ Input))}
    (run : (machine.observed observer).Run start trace last) (later : State → State → Prop)
    [IsPreorder State later]
    (follows : ∀ state label next, machine.step state label = some next → later state next) :
    (looks trace).Pairwise (fun earlier after => later earlier.1 after.1) ∧
      ∀ seen ∈ looks trace, later start.1 seen.1 ∧ later seen.1 last.1 := by
  have whole : later start.1 last.1 ∧
      (looks trace).Pairwise (fun earlier after => later earlier.1 after.1) ∧
      ∀ seen ∈ looks trace, later start.1 seen.1 ∧ later seen.1 last.1 := by
    refine run.history (fun trace joint => later start.1 joint.1 ∧
      (looks trace).Pairwise (fun earlier after => later earlier.1 after.1) ∧
      ∀ seen ∈ looks trace, later start.1 seen.1 ∧ later seen.1 joint.1)
      ⟨refl_of later _, by simp [looks], by simp [looks]⟩ ?_
    rintro trace joint label next _ ⟨since, ordered, between⟩ taken
    cases label with
    | inl label =>
        obtain ⟨state, stepped, rfl⟩ := Option.map_eq_some_iff.mp taken
        have further := follows _ _ _ stepped
        rw [looks_snoc_inl]
        exact ⟨trans_of later since further, ordered, fun seen member =>
          ⟨(between seen member).1, trans_of later (between seen member).2 further⟩⟩
    | inr input =>
        obtain ⟨view, _, rfl⟩ := Option.map_eq_some_iff.mp taken
        rw [looks_snoc_inr]
        refine ⟨since, ?_, ?_⟩
        · rw [List.pairwise_append]
          refine ⟨ordered, List.pairwise_singleton _ _, ?_⟩
          intro seen member now here
          obtain rfl := List.mem_singleton.mp here
          exact (between seen member).2
        · intro seen member
          rcases List.mem_append.mp member with earlier | now
          · exact between seen earlier
          · obtain rfl := List.mem_singleton.mp now
            exact ⟨since, refl_of later _⟩
  exact whole.2

end Machine

end Npt.Core
