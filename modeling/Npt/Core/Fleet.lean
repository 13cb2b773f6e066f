import Mathlib.Data.UInt
import Npt.Core.IndexedFamily
import Npt.Core.TransitionSystem

/-!
Contract: fleets of components that come into being one after another, each with
a state of its own, and act in any order on what they share.

A new member joins at the end; a step moves one member, or is an act of the
surroundings. What a member does may depend on what is shared and change it.

Owns: the machine of a fleet, the moves of a member within a run, the rule for
what a run keeps of every member, and the rule for shared counters that each
move adjusts by the member's own change of weight.

Does not own: what members are, or how many there may be.
-/

namespace Npt.Core

/-! ## Totals in machine words -/

section Words

variable {Component : Type}

/-- A count is a total of ones. -/
theorem total_toNat (selects : Component → Bool) (family : List Component) :
    total (fun component => (selects component).toNat) family = family.countP selects := by
  induction family with
  | nil => rfl
  | cons head tail inductionHypothesis =>
      rw [total_cons, inductionHypothesis, List.countP_cons, Nat.add_comm]
      cases selects head <;> rfl

/-- A total of words is the word of the total. -/
theorem total_ofNat (weight : Component → Nat) (family : List Component) :
    total (fun component => UInt64.ofNat (weight component)) family =
      UInt64.ofNat (total weight family) := by
  induction family with
  | nil => rfl
  | cons head tail inductionHypothesis =>
      rw [total_cons, total_cons, inductionHypothesis, UInt64.ofNat_add]

end Words

/-! ## Fleets -/

/-- The members in the order in which they joined, and what they share. -/
structure Fleet (Member Shared : Type) where
  members : List Member := []
  shared : Shared

inductive FleetLabel (Seed Move Act : Type) where
  | join (seed : Seed)
  | move (index : Nat) (move : Move)
  | act (act : Act)
deriving DecidableEq, Repr

/-- What joining, moving and acting do. -/
structure Crew (Member Shared Seed Move Act : Type) where
  join : Shared → Seed → Option (Member × Shared)
  advance : Member → Shared → Move → Option (Member × Shared)
  act : Shared → Act → Option Shared

namespace Crew

variable {Member Shared Seed Move Act : Type} (crew : Crew Member Shared Seed Move Act)

def machine : Machine (Fleet Member Shared) (FleetLabel Seed Move Act) where
  step := fun fleet label =>
    match label with
    | .join seed =>
        (crew.join fleet.shared seed).map (fun joined =>
          ⟨fleet.members ++ [joined.1], joined.2⟩)
    | .move index move =>
        (fleet.members[index]?).bind (fun member =>
          (crew.advance member fleet.shared move).map (fun moved =>
            ⟨fleet.members.set index moved.1, moved.2⟩))
    | .act act => (crew.act fleet.shared act).map (fun shared => ⟨fleet.members, shared⟩)

abbrev Trace (Member Shared Seed Move Act : Type) :=
  List (Fleet Member Shared × FleetLabel Seed Move Act)

/-- The move that a label makes of one member. -/
def moveOf (index : Nat) : FleetLabel Seed Move Act → Option Move
  | .move other move => if other = index then some move else none
  | .join _ | .act _ => none

/-- The moves of one member. -/
def moves (index : Nat) (trace : Trace Member Shared Seed Move Act) : List Move :=
  trace.filterMap (fun entry => moveOf index entry.2)

/-- The acts of the surroundings, each with what was shared before it. -/
def acts (trace : Trace Member Shared Seed Move Act) : List (Shared × Act) :=
  trace.filterMap (fun entry =>
    match entry.2 with
    | .act act => some (entry.1.shared, act)
    | .join _ | .move _ _ => none)

section Snoc

variable (trace : Trace Member Shared Seed Move Act) (fleet : Fleet Member Shared)

@[simp] theorem moves_nil (index : Nat) :
    moves index ([] : Trace Member Shared Seed Move Act) = [] := rfl

@[simp] theorem moves_snoc_join (index : Nat) (seed : Seed) :
    moves index (trace ++ [(fleet, .join seed)]) = moves index trace := by
  simp [moves, moveOf]

@[simp] theorem moves_snoc_act (index : Nat) (act : Act) :
    moves index (trace ++ [(fleet, .act act)]) = moves index trace := by
  simp [moves, moveOf]

@[simp] theorem moves_snoc_self (index : Nat) (move : Move) :
    moves index (trace ++ [(fleet, .move index move)]) = moves index trace ++ [move] := by
  simp [moves, moveOf]

theorem moves_snoc_other {index other : Nat} (different : other ≠ index) (move : Move) :
    moves index (trace ++ [(fleet, .move other move)]) = moves index trace := by
  simp [moves, moveOf, different]

@[simp] theorem acts_snoc_join (seed : Seed) :
    acts (trace ++ [(fleet, .join seed)]) = acts trace := by
  simp [acts]

@[simp] theorem acts_snoc_move (index : Nat) (move : Move) :
    acts (trace ++ [(fleet, .move index move)]) = acts trace := by
  simp [acts]

@[simp] theorem acts_snoc_act (act : Act) :
    acts (trace ++ [(fleet, .act act)]) = acts trace ++ [(fleet.shared, act)] := by
  simp [acts]

end Snoc

/-- What a step of a fleet is. -/
inductive FleetStep (fleet : Fleet Member Shared) :
    FleetLabel Seed Move Act → Fleet Member Shared → Prop where
  | joined {seed : Seed} {member : Member} {shared : Shared}
      (done : crew.join fleet.shared seed = some (member, shared)) :
      FleetStep fleet (.join seed) ⟨fleet.members ++ [member], shared⟩
  | moved {index : Nat} {move : Move} {member after : Member} {shared : Shared}
      (present : fleet.members[index]? = some member)
      (done : crew.advance member fleet.shared move = some (after, shared)) :
      FleetStep fleet (.move index move) ⟨fleet.members.set index after, shared⟩
  | acted {act : Act} {shared : Shared} (done : crew.act fleet.shared act = some shared) :
      FleetStep fleet (.act act) ⟨fleet.members, shared⟩

variable {crew} {fleet next start : Fleet Member Shared} {label : FleetLabel Seed Move Act}
  {trace : Trace Member Shared Seed Move Act}

theorem fleetStep_of_step (taken : crew.machine.step fleet label = some next) :
    FleetStep crew fleet label next := by
  cases label with
  | join seed =>
      obtain ⟨⟨member, shared⟩, done, rfl⟩ := Option.map_eq_some_iff.mp taken
      exact .joined done
  | move index move =>
      obtain ⟨member, present, rest⟩ := Option.bind_eq_some_iff.mp taken
      obtain ⟨⟨after, shared⟩, done, rfl⟩ := Option.map_eq_some_iff.mp rest
      exact .moved present done
  | act act =>
      obtain ⟨shared, done, rfl⟩ := Option.map_eq_some_iff.mp taken
      exact .acted done

theorem step_move {index : Nat} {move : Move} {member after : Member} {shared : Shared}
    (present : fleet.members[index]? = some member)
    (done : crew.advance member fleet.shared move = some (after, shared)) :
    crew.machine.step fleet (.move index move) =
      some ⟨fleet.members.set index after, shared⟩ := by
  simp [machine, present, done]

/-! ## What a run keeps of every member -/

/-- A member has not moved before it joins. -/
theorem moves_of_length_le (run : crew.machine.Run start trace fleet) {index : Nat}
    (absent : fleet.members.length ≤ index) : moves index trace = [] := by
  induction run with
  | nil => rfl
  | @snoc trace fleet next label _ taken inductionHypothesis =>
      cases fleetStep_of_step taken with
      | joined done =>
          rw [moves_snoc_join]
          exact inductionHypothesis (by simp at absent; omega)
      | @moved other move member after shared present done =>
          have inside : other < fleet.members.length := (List.getElem?_eq_some_iff.mp present).1
          rw [moves_snoc_other _ _ (by simp at absent; omega)]
          exact inductionHypothesis (by simpa using absent)
      | acted done =>
          rw [moves_snoc_act]
          exact inductionHypothesis absent

/-- The member rule: a property of what a member has done, of its state and of what
is shared holds of every member if joining brings it about, the member's own moves
keep it, and so does every step that is not its own. -/
theorem member_of_run (property : List Move → Member → Shared → Prop)
    (empty : start.members = [])
    (joined : ∀ trace fleet seed member shared, crew.machine.Run start trace fleet →
      crew.join fleet.shared seed = some (member, shared) → property [] member shared)
    (moved : ∀ own member shared move after changed, property own member shared →
      crew.advance member shared move = some (after, changed) →
        property (own ++ [move]) after changed)
    (foreign : ∀ trace fleet label next own index member, crew.machine.Run start trace fleet →
      FleetStep crew fleet label next → fleet.members[index]? = some member →
        (∀ move, label ≠ .move index move) → property own member fleet.shared →
          property own member next.shared)
    (run : crew.machine.Run start trace fleet) :
    ∀ (index : Nat) member, fleet.members[index]? = some member →
      property (moves index trace) member fleet.shared := by
  induction run with
  | nil => simp [empty]
  | @snoc trace fleet next label before taken inductionHypothesis =>
      intro index member present
      have step := fleetStep_of_step taken
      cases step with
      | joined done =>
          rw [moves_snoc_join]
          rcases getElem?_snoc_cases present with earlier | ⟨rfl, rfl⟩
          · exact foreign _ _ _ _ _ _ _ before (.joined done) earlier (by simp)
              (inductionHypothesis _ _ earlier)
          · rw [moves_of_length_le before (Nat.le_refl _)]
            exact joined _ _ _ _ _ before done
      | moved here done =>
          rcases getElem?_set_cases present with ⟨rfl, rfl⟩ | ⟨different, earlier⟩
          · rw [moves_snoc_self]
            exact moved _ _ _ _ _ _ (inductionHypothesis _ _ here) done
          · rw [moves_snoc_other _ _ (Ne.symm different)]
            exact foreign _ _ _ _ _ _ _ before (.moved here done) earlier
              (fun _ same => different (FleetLabel.move.inj same).1.symm)
              (inductionHypothesis _ _ earlier)
      | acted done =>
          rw [moves_snoc_act]
          exact foreign _ _ _ _ _ _ _ before (.acted done) present (by simp)
            (inductionHypothesis _ _ present)

/-- The member rule for what does not speak of what is shared. -/
theorem local_of_run (property : List Move → Member → Prop) (empty : start.members = [])
    (joined : ∀ shared seed member changed, crew.join shared seed = some (member, changed) →
      property [] member)
    (moved : ∀ own member shared move after changed, property own member →
      crew.advance member shared move = some (after, changed) → property (own ++ [move]) after)
    (run : crew.machine.Run start trace fleet) :
    ∀ (index : Nat) member, fleet.members[index]? = some member →
      property (moves index trace) member :=
  member_of_run (fun own member _ => property own member) empty
    (fun _ _ _ _ _ _ done => joined _ _ _ _ done)
    (fun _ _ _ _ _ _ holds done => moved _ _ _ _ _ _ holds done)
    (fun _ _ _ _ _ _ _ _ _ _ _ holds => holds) run

/-! ## Shared counters -/

/-- The counter rule: a shared counter that a member raises by its weight when it
joins, and by its change of weight when it moves, is the total weight of the members
and what the surroundings add. -/
theorem counter_of_run {Weight : Type} [AddCancelCommMonoid Weight] (counter : Shared → Weight)
    (weight : Member → Weight) (extra : Shared × Act → Weight) (empty : start.members = [])
    (joined : ∀ trace fleet seed member changed, crew.machine.Run start trace fleet →
      crew.join fleet.shared seed = some (member, changed) →
        counter changed = counter fleet.shared + weight member)
    (moved : ∀ trace fleet member move after changed, crew.machine.Run start trace fleet →
      member ∈ fleet.members → crew.advance member fleet.shared move = some (after, changed) →
        counter changed + weight member = counter fleet.shared + weight after)
    (acted : ∀ trace fleet act changed, crew.machine.Run start trace fleet →
      crew.act fleet.shared act = some changed →
        counter changed = counter fleet.shared + extra (fleet.shared, act))
    (run : crew.machine.Run start trace fleet) :
    counter fleet.shared =
      counter start.shared + total weight fleet.members + ((acts trace).map extra).sum := by
  induction run with
  | nil => simp [empty, total, acts]
  | @snoc trace fleet next label before taken inductionHypothesis =>
      cases fleetStep_of_step taken with
      | joined done =>
          rw [joined _ _ _ _ _ before done, inductionHypothesis, acts_snoc_join]
          simp only [total, List.map_append, List.sum_append, List.map_cons, List.map_nil,
            List.sum_cons, List.sum_nil, add_zero]
          ac_rfl
      | @moved index move member after shared present done =>
          have changed := moved _ _ _ _ _ _ before (List.mem_of_getElem? present) done
          have traded := total_set weight present after
          rw [acts_snoc_move]
          refine add_right_cancel (b := weight member) ?_
          rw [changed, inductionHypothesis]
          calc counter start.shared + total weight fleet.members + ((acts trace).map extra).sum +
                weight after
              = counter start.shared + (total weight fleet.members + weight after) +
                  ((acts trace).map extra).sum := by ac_rfl
            _ = counter start.shared + (total weight (fleet.members.set index after) +
                  weight member) + ((acts trace).map extra).sum := by rw [traded]
            _ = _ := by ac_rfl
      | acted done =>
          rw [acted _ _ _ _ before done, inductionHypothesis, acts_snoc_act, List.map_append,
            List.sum_append, List.map_singleton, List.sum_singleton]
          ac_rfl

/-! ## Bringing every member to its end -/

/-- Members that each can move on by allowed moves, nearer to their end each time, can
all be brought to it, whatever they do to what is shared. -/
theorem exists_finished (allowed : Move → Prop) (ready done : Member → Prop) (rank : Member → Nat)
    (live : ∀ member shared, ready member → ¬done member → ∃ move after changed, allowed move ∧
      crew.advance member shared move = some (after, changed) ∧ ready after ∧
        rank after < rank member)
    (all : ∀ member ∈ fleet.members, ready member) :
    ∃ last, crew.machine.ReachableBy (fun label => ∃ index move, label = .move index move ∧
        allowed move) fleet last ∧
      last.members.length = fleet.members.length ∧ ∀ member ∈ last.members, done member := by
  induction size : total rank fleet.members using Nat.strongRecOn generalizing fleet with
  | ind size inductionHypothesis =>
      by_cases finished : ∀ member ∈ fleet.members, done member
      · exact ⟨fleet, .refl fleet, rfl, finished⟩
      · push Not at finished
        obtain ⟨member, inside, unfinished⟩ := finished
        obtain ⟨index, present⟩ := List.mem_iff_getElem?.mp inside
        obtain ⟨move, after, changed, permitted, advanced, stillReady, nearer⟩ :=
          live member fleet.shared (all member inside) unfinished
        have traded := total_set rank present after
        have less : total rank (fleet.members.set index after) < total rank fleet.members := by
          omega
        have kept : ∀ other ∈ fleet.members.set index after, ready other := by
          intro other found
          rcases List.mem_or_eq_of_mem_set found with earlier | rfl
          · exact all other earlier
          · exact stillReady
        obtain ⟨last, later, sameLength, ended⟩ :=
          @inductionHypothesis _ (size ▸ less) ⟨fleet.members.set index after, changed⟩ kept rfl
        refine ⟨last, .trans (.single (step_move present advanced) ⟨index, move, rfl, permitted⟩)
          later, ?_, ended⟩
        rw [sameLength, List.length_set]

end Crew

end Npt.Core
