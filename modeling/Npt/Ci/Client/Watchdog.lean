import Npt.Ci.Client.Run

/-!
Owns: what the stall watchdog records. A flow inside a stall episode has a stall
event, a silence that a visit saw is never lost, and every stall event comes
from a visit to a silent flow.

Does not own: when the watchdog visits a flow.
-/

namespace Npt.Ci.Client

open Npt.Core

/-- A stall of flow `index` is recorded. -/
def Stalled (run : PortRun) (index : Nat) : Prop :=
  ∃ event ∈ run.stalls, event.connId = index

section Machine

variable {Task Label : Type} {program : FlowProgram Task Label} {config : RunConfig}
  {trace : List (RunState Task × RunLabel Label)} {state : RunState Task}

/-- In this step the watchdog, in the pass of a tick that read `seen`, looks at
flow `index` and finds `conn`. -/
def Visited (entry : RunState Task × RunLabel Label) (index seen : Nat) (conn : ConnState) : Prop :=
  ∃ due task, entry.2 = .watchdogVisit ∧ entry.1.watchdog = .visiting seen due index ∧
    entry.1.flows[index]? = some ⟨conn, task⟩

theorem conn_id_of_run
    (run : (runMachine program config).Run (initialRun program config) trace state) :
    ∀ (index : Nat) flow, state.flows[index]? = some flow → flow.conn.id = index := by
  refine flow_invariant (fun index _ flow => flow.conn.id = index) ?_ ?_ ?_ ?_ run
  · exact fun _ _ => rfl
  · intro index now run flow label event task _ same _
    rw [event.apply_id]
    exact same
  · intro index now seen run flow same
    rw [visitFlow_conn_eq]
    exact same
  · exact fun _ _ _ _ same => same

/-- Flows in a stall episode, and flows once seen silent, have a stall event. -/
structure StallsRecorded (config : RunConfig) (trace : List (RunState Task × RunLabel Label))
    (state : RunState Task) : Prop where
  episode : ∀ (index : Nat) flow, state.flows[index]? = some flow → flow.conn.inStall = true →
    Stalled state.run index
  seen : ∀ entry ∈ trace, ∀ index seen conn, Visited entry index seen conn →
    silent config.stallMs seen conn = true → Stalled state.run index

private theorem stalled_visitFlow {stallMs seen index : Nat} {run : PortRun} (conn : ConnState)
    (stalled : Stalled run index) : Stalled (visitFlow stallMs seen run conn).1 index := by
  rw [visitFlow_eq]
  split
  · obtain ⟨event, member, same⟩ := stalled
    exact ⟨event, List.mem_append_left _ member, same⟩
  · exact stalled

/-- A recorded stall stays recorded. -/
theorem stalled_step {next : RunState Task} {label : RunLabel Label} {index : Nat}
    (step : (runMachine program config).step state label = some next)
    (stalled : Stalled state.run index) : Stalled next.run index := by
  cases taken_of_step step with
  | @flow _ _ flow event task present own =>
      unfold Stalled
      rw [RunState.replace, event.apply_stalls]
      exact stalled
  | @visit _ _ _ flow visiting present => exact stalled_visitFlow flow.conn stalled
  | _ => exact stalled

theorem stalled_run {final : RunState Task} {index : Nat}
    (run : (runMachine program config).Run state trace final)
    (stalled : Stalled state.run index) : Stalled final.run index :=
  run.invariant (fun state => Stalled state.run index) stalled
    (fun _ _ _ stalled step => stalled_step step stalled)

/-- A visit leaves a stall event of every flow that is silent or in an episode. -/
private theorem stalled_of_visitFlow {stallMs seen index : Nat} {run : PortRun} {conn : ConnState}
    (own : conn.id = index) (episode : conn.inStall = true → Stalled run index)
    (found : silent stallMs seen conn = true ∨
      (visitFlow stallMs seen run conn).2.inStall = true) :
    Stalled (visitFlow stallMs seen run conn).1 index := by
  rw [visitFlow_eq] at found ⊢
  split at found
  · rename_i fresh
    rw [if_pos fresh]
    exact ⟨_, List.mem_append_right _ (List.mem_singleton_self _), own⟩
  · rename_i stale
    rw [if_neg stale]
    cases inStall : conn.inStall with
    | true => exact episode inStall
    | false =>
        rw [inStall] at found
        simp only [Bool.false_eq_true, or_false] at found
        exact absurd ⟨found, inStall⟩ stale

theorem stallsRecorded_of_run
    (run : (runMachine program config).Run (initialRun program config) trace state) :
    StallsRecorded config trace state := by
  refine run.history (fun trace state => StallsRecorded config trace state) ?_ ?_
  · refine ⟨?_, by simp⟩
    intro index flow present inStall
    obtain ⟨id, wake, rfl⟩ := mem_initialRun_flows (List.mem_of_getElem? present)
    simp at inStall
  · intro trace state label next before recorded step
    -- The silences seen before this step stay recorded; a visit adds one.
    have seen (here : ∀ index seen conn, Visited (state, label) index seen conn →
        silent config.stallMs seen conn = true → Stalled next.run index) :
        ∀ entry ∈ trace ++ [(state, label)], ∀ index seen conn, Visited entry index seen conn →
          silent config.stallMs seen conn = true → Stalled next.run index := by
      intro entry member index seen conn visited found
      rcases List.mem_append.mp member with old | new
      · exact stalled_step step (recorded.seen entry old index seen conn visited found)
      · obtain rfl := List.mem_singleton.mp new
        exact here index seen conn visited found
    cases taken_of_step step with
    | clock | watchdogStop | watchdogStart | sample | join | finalize =>
        refine ⟨recorded.episode, seen ?_⟩
        rintro index seen conn ⟨_, _, visit, _⟩
        simp at visit
    | @visitDone now due index visiting absent =>
        refine ⟨recorded.episode, seen ?_⟩
        rintro index seen conn ⟨_, _, _, same, present⟩
        obtain ⟨_, _, rfl⟩ := Watchdog.visiting.inj (visiting.symm.trans same)
        exact absurd present (by simp [absent])
    | @flow index label flow event task present own =>
        constructor
        · refine forall_getElem?_set (fun position other _ found inStall => ?_) (fun inStall => ?_)
          · exact stalled_step step (recorded.episode position other found inStall)
          · cases received : event.receives with
            | true =>
                rw [(event.apply_received _ _ _ _ received).2.1] at inStall
                simp at inStall
            | false =>
                rw [(event.apply_unreceived _ _ _ _ received).2.2] at inStall
                exact stalled_step step (recorded.episode index flow present inStall)
        · refine seen ?_
          rintro position seen conn ⟨_, _, visit, _⟩
          simp at visit
    | @visit now due index flow visiting present =>
        have own := conn_id_of_run before index flow present
        constructor
        · refine forall_getElem?_set (fun position other _ found inStall => ?_) (fun inStall => ?_)
          · exact stalled_step step (recorded.episode position other found inStall)
          · exact stalled_of_visitFlow own (recorded.episode index flow present) (Or.inr inStall)
        · refine seen ?_
          rintro position seen conn ⟨_, task, _, same, there⟩ found
          obtain ⟨rfl, _, rfl⟩ := Watchdog.visiting.inj (visiting.symm.trans same)
          obtain rfl : flow = ⟨conn, task⟩ := Option.some.inj (present.symm.trans there)
          exact stalled_of_visitFlow own (recorded.episode index _ present) (Or.inl found)

/-- A tick's pass keeps the time of its tick, which came before the deadline. -/
theorem tick_of_visiting
    (run : (runMachine program config).Run (initialRun program config) trace state) :
    ∀ seen due index, state.watchdog = .visiting seen due index →
      seen ≤ state.now ∧ seen < config.deadline := by
  refine run.invariant (fun state => ∀ seen due index, state.watchdog = .visiting seen due index →
    seen ≤ state.now ∧ seen < config.deadline) (by simp [initialRun]) ?_
  intro state label next bounds step seen due index visiting
  cases taken_of_step step with
  | clock ms =>
      obtain ⟨past, early⟩ := bounds seen due index visiting
      exact ⟨Nat.le_add_right_of_le past, early⟩
  | flow | sample | join => exact bounds seen due index visiting
  | watchdogStart _ _ early _ =>
      obtain ⟨rfl, _, _⟩ := Watchdog.visiting.inj visiting
      exact ⟨Nat.le_refl _, early⟩
  | visit earlier present =>
      obtain ⟨rfl, rfl, _⟩ := Watchdog.visiting.inj visiting
      exact bounds _ _ _ earlier
  | watchdogStop | visitDone | finalize => simp at visiting

/-- Every stall event was recorded by a visit to a silent flow. -/
theorem visit_of_stall
    (run : (runMachine program config).Run (initialRun program config) trace state) :
    ∀ event ∈ state.run.stalls, ∃ before entry after seen conn,
      trace = before ++ entry :: after ∧ Visited entry event.connId seen conn ∧
        silent config.stallMs seen conn = true ∧
        event = ⟨conn.id, (seen : Rat) / 1000, seen - conn.lastRecvMs⟩ := by
  refine run.history (fun trace state => ∀ event ∈ state.run.stalls,
    ∃ before entry after seen conn,
      trace = before ++ entry :: after ∧ Visited entry event.connId seen conn ∧
        silent config.stallMs seen conn = true ∧
        event = ⟨conn.id, (seen : Rat) / 1000, seen - conn.lastRecvMs⟩) (by simp [initialRun]) ?_
  intro trace state label next earlier holds step event recorded
  have old (member : event ∈ state.run.stalls) : ∃ before entry after seen conn,
      trace ++ [(state, label)] = before ++ entry :: after ∧ Visited entry event.connId seen conn ∧
        silent config.stallMs seen conn = true ∧
        event = ⟨conn.id, (seen : Rat) / 1000, seen - conn.lastRecvMs⟩ := by
    obtain ⟨before, entry, after, seen, conn, rfl, found⟩ := holds event member
    exact ⟨before, entry, after ++ [(state, label)], seen, conn, by simp, found⟩
  cases taken_of_step step with
  | @flow index label flow change task present taken =>
      rw [RunState.replace, change.apply_stalls] at recorded
      exact old recorded
  | @visit now due index flow visiting present =>
      have own := conn_id_of_run earlier index flow present
      rw [RunState.replace, visitFlow_eq] at recorded
      split at recorded
      · rename_i fresh
        rcases List.mem_append.mp recorded with member | here
        · exact old member
        · obtain rfl := List.mem_singleton.mp here
          refine ⟨trace, _, [], now, flow.conn, rfl, ?_, fresh.1, rfl⟩
          exact ⟨due, flow.task, rfl, own ▸ visiting, own ▸ present⟩
      · exact old recorded
  | clock | watchdogStop | watchdogStart | visitDone | sample | join | finalize => exact old recorded

end Machine

end Npt.Ci.Client
