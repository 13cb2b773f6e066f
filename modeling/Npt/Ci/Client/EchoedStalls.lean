import Npt.Ci.Client.Attribution
import Npt.Ci.Client.Watchdog

/-!
Contract: stalls on a path that echoes every frame at once.

The watchdog times the silence of the reader, which on such a path is the
silence of the writer. What it records there is a pause of the sender, measured
from the flow's last send; a flow that keeps sending is never recorded.

Owns: the times of a flow's last send and last count, the echo condition, and
the pauses that stall events stand for.

Does not own: how long a writer pauses.
-/

namespace Npt.Ci.Client

open Npt.Core

section Last

variable {Task Label Value : Type}

/-- The time at which flow `index` last showed something. -/
def lastMs (view : Task → Label → Option Value) (index : Nat)
    (steps : List (RunState Task × RunLabel Label)) : Option Nat :=
  (steps.filter fun entry => (observe view index entry).isSome).getLast?.map fun entry =>
    entry.1.now

variable {view : Task → Label → Option Value} {index : Nat}

theorem lastMs_snoc (steps : List (RunState Task × RunLabel Label))
    (entry : RunState Task × RunLabel Label) :
    lastMs view index (steps ++ [entry]) =
      if (observe view index entry).isSome then some entry.1.now else lastMs view index steps := by
  unfold lastMs
  rw [List.filter_append]
  split
  · rename_i shown
    simp [shown]
  · rename_i silent
    simp [silent]

end Last

/-! ## Echoes -/

/-- A step of a flow or of the network on it. -/
def RunLabel.ofFlow {Label : Type} : RunLabel Label → Bool
  | .flow _ _ => true
  | _ => false

section Machine

variable {Task Label : Type} {program : FlowProgram Task Label} {config : RunConfig}
  {traffic : Traffic Task Label} {steps : List (RunState Task × RunLabel Label)}
  {state : RunState Task}

/-- Whenever time passes, or the watchdog, the sampler or the task that joins the
flows takes a step, every frame that a flow has sent has come back and been read. -/
def EchoedAtOnce (traffic : Traffic Task Label) (steps : List (RunState Task × RunLabel Label)) :
    Prop :=
  ∀ position, (inside : position < steps.length) → steps[position].2.ofFlow = false →
    ∀ index < steps[position].1.flows.length,
      (observed traffic.counted index (steps.take position)).Perm
        (observed traffic.sent index (steps.take position))

instance : Decidable (EchoedAtOnce traffic steps) :=
  inferInstanceAs (Decidable (∀ position, (inside : position < steps.length) → _))

theorem EchoedAtOnce.front {rest : List (RunState Task × RunLabel Label)}
    (echoed : EchoedAtOnce traffic (steps ++ rest)) : EchoedAtOnce traffic steps := by
  intro position inside other index present
  have within : position < (steps ++ rest).length := by
    rw [List.length_append]
    omega
  have here := echoed position within
  simp only [List.getElem_append_left inside, List.take_append_of_le_length (Nat.le_of_lt inside)]
    at here
  exact here other index present

theorem EchoedAtOnce.last {entry : RunState Task × RunLabel Label}
    (echoed : EchoedAtOnce traffic (steps ++ [entry])) (other : entry.2.ofFlow = false)
    {index : Nat} (present : index < entry.1.flows.length) :
    (observed traffic.counted index steps).Perm (observed traffic.sent index steps) := by
  have here := echoed steps.length (by simp)
  simp only [List.getElem_concat_length, List.take_left'] at here
  exact here other index present

/-- Since another task's last step, when the flow had sent and counted `base`
frames, the clock has stood at `now`. -/
structure Level (traffic : Traffic Task Label) (index now : Nat)
    (steps : List (RunState Task × RunLabel Label)) (base : Nat) (old : Option Nat) : Prop where
  counted : base ≤ (observed traffic.counted index steps).length
  sent : base ≤ (observed traffic.sent index steps).length
  lastCounted : lastMs traffic.counted index steps =
    if (observed traffic.counted index steps).length = base then old else some now
  lastSent : lastMs traffic.sent index steps =
    if (observed traffic.sent index steps).length = base then old else some now

theorem Level.same_last {index now base : Nat} {old : Option Nat}
    (level : Level traffic index now steps base old)
    (echoed : (observed traffic.counted index steps).Perm (observed traffic.sent index steps)) :
    lastMs traffic.counted index steps = lastMs traffic.sent index steps := by
  rw [level.lastCounted, level.lastSent, echoed.length_eq]

/-- What one view shows in a step, against its count and its last time. -/
private theorem last_step {view : Task → Label → Option UInt64} {index base : Nat}
    {old : Option Nat} (label : RunLabel Label)
    (below : base ≤ (observed view index steps).length)
    (last : lastMs view index steps =
      if (observed view index steps).length = base then old else some state.now) :
    base ≤ (observed view index (steps ++ [(state, label)])).length ∧
      lastMs view index (steps ++ [(state, label)]) =
        if (observed view index (steps ++ [(state, label)])).length = base then old
        else some state.now := by
  rw [observed_snoc, List.length_append, lastMs_snoc]
  cases shown : observe view index (state, label) with
  | none => simpa using ⟨below, last⟩
  | some seq =>
      have more : (observed view index steps).length + 1 ≠ base := by omega
      refine ⟨Nat.le_add_right_of_le below, ?_⟩
      simp [more]

theorem level_of_run
    (run : (runMachine program config).Run (initialRun program config) steps state)
    (echoed : EchoedAtOnce traffic steps) {index : Nat} (present : index < state.flows.length) :
    ∃ base old, Level traffic index state.now steps base old := by
  rw [flows_length run] at present
  refine run.history (fun steps state => EchoedAtOnce traffic steps →
    ∃ base old, Level traffic index state.now steps base old) ?_ ?_ echoed
  · exact fun _ => ⟨0, none, ⟨Nat.le_refl _, Nat.le_refl _, rfl, rfl⟩⟩
  · intro steps state label next before holds step echoed
    obtain ⟨base, old, level⟩ := holds echoed.front
    -- A step of another task finds the two numbers equal and starts a new level.
    have settled (other : label.ofFlow = false) :
        Level traffic index next.now (steps ++ [(state, label)])
          (observed traffic.counted index steps).length (lastMs traffic.counted index steps) := by
      have inside : index < state.flows.length := by rwa [flows_length before]
      have same := echoed.last other inside
      have foreign : ∀ own, label ≠ .flow index own := by
        rintro own rfl
        simp [RunLabel.ofFlow] at other
      have unshown (view : Task → Label → Option UInt64) :
          observe view index (state, label) = none := observe_foreign foreign
      constructor
      · simp [observed_snoc, unshown]
      · simp [observed_snoc, unshown, same.length_eq]
      · simp [observed_snoc, lastMs_snoc, unshown]
      · simp [observed_snoc, lastMs_snoc, unshown, same.length_eq, level.same_last same]
    cases taken_of_step step with
    | clock | watchdogStop | watchdogStart | visitDone | visit | sample | join | finalize =>
        exact ⟨_, _, settled rfl⟩
    | flow =>
        obtain ⟨counted, lastCounted⟩ := last_step (.flow _ _) level.counted level.lastCounted
        obtain ⟨sent, lastSent⟩ := last_step (.flow _ _) level.sent level.lastSent
        exact ⟨base, old, counted, sent, lastCounted, lastSent⟩

/-! ## Receptions -/

/-- A protocol counts a frame exactly in the steps that record a reception. -/
def Tallies (program : FlowProgram Task Label) (traffic : Traffic Task Label) : Prop :=
  ∀ now id task label event next, program.step now id task label = some (event, next) →
    (traffic.counted task label).isSome = event.receives

theorem lastRecvMs_of_run {phase : Task → Phase} (phased : Phased program phase)
    (tallies : Tallies program traffic)
    (run : (runMachine program config).Run (initialRun program config) steps state) :
    ∀ (index : Nat) flow, state.flows[index]? = some flow → flow.conn.firstRecv = true →
      lastMs traffic.counted index steps = some flow.conn.lastRecvMs := by
  refine flow_history (fun steps index _ flow => flow.conn.firstRecv = true →
    lastMs traffic.counted index steps = some flow.conn.lastRecvMs) ?_ ?_ ?_ ?_ ?_ run
  · simp
  · intro steps state index label flow event task before present running holds taken first
    have counts := tallies _ _ _ _ _ _ taken
    rw [lastMs_snoc, observe_own traffic.counted label present, counts]
    cases received : event.receives with
    | true => rw [if_pos rfl, (event.apply_received _ _ _ _ received).2.2]
    | false =>
        rw [(event.apply_unreceived _ _ _ _ received).2.1] at first
        have flags := flagsMatch_of_run phased before index flow present
        have once : event ≠ .connected := by
          rintro rfl
          have move := phased.step _ _ _ _ _ _ taken
          generalize waiting : phase flow.task = now, after : phase task = later at move
          cases move with
          | connected =>
              have connected := flags.received first
              rw [flags.waiting waiting] at connected
              simp at connected
          | streamed once => exact once rfl
        rw [event.apply_lastRecvMs _ _ _ _ received once]
        simpa using holds first
  · intro steps index now seen run flow holds first
    rw [visitFlow_conn_eq] at first ⊢
    exact holds first
  · intro steps entry index now flow foreign holds first
    rw [lastMs_snoc, observe_foreign foreign]
    simpa using holds first
  · exact fun _ _ _ _ _ holds => holds

/-! ## Pauses -/

/-- The visit that recorded `event` found an unbroken flow whose last send was
more than the stall limit ago, and the event's gap is the time since that send. -/
def Pause (config : RunConfig) (traffic : Traffic Task Label)
    (steps : List (RunState Task × RunLabel Label)) (event : StallEvent) : Prop :=
  ∃ before entry after seen conn last,
    steps = before ++ entry :: after ∧ Visited entry event.connId seen conn ∧
      conn.disconnected = false ∧ lastMs traffic.sent event.connId before = some last ∧
      event.atSecs = (seen : Rat) / 1000 ∧ event.gapMs = seen - last ∧
      config.stallMs < event.gapMs

/-- An unbroken flow that a visit finds has sent within the stall limit of the
visit's tick, if it has sent at all. -/
def KeepsSending (config : RunConfig) (traffic : Traffic Task Label)
    (steps : List (RunState Task × RunLabel Label)) : Prop :=
  ∀ before entry after index seen conn last,
    steps = before ++ entry :: after → Visited entry index seen conn →
      conn.disconnected = false → lastMs traffic.sent index before = some last →
      seen ≤ last + config.stallMs

/-- At a visit the reader's last reception is as old as the writer's last send. -/
theorem lastSent_of_visit {phase : Task → Phase} (phased : Phased program phase)
    (tallies : Tallies program traffic) {entry : RunState Task × RunLabel Label}
    {rest : List (RunState Task × RunLabel Label)} {index seen : Nat} {conn : ConnState}
    (run : (runMachine program config).Run (initialRun program config) steps entry.1)
    (echoed : EchoedAtOnce traffic (steps ++ entry :: rest)) (visited : Visited entry index seen conn)
    (first : conn.firstRecv = true) :
    lastMs traffic.sent index steps = some conn.lastRecvMs := by
  obtain ⟨due, task, visit, _, present⟩ := visited
  obtain ⟨inside, _⟩ := List.getElem?_eq_some_iff.mp present
  obtain ⟨base, old, level⟩ := level_of_run run echoed.front inside
  have upTo : EchoedAtOnce traffic (steps ++ [entry]) := by
    refine EchoedAtOnce.front (?_ : EchoedAtOnce traffic ((steps ++ [entry]) ++ rest))
    rwa [List.append_assoc, List.singleton_append]
  have same := upTo.last (by rw [visit]; rfl) inside
  rw [← level.same_last same]
  exact lastRecvMs_of_run phased tallies run index _ present first

theorem pause_of_stall {phase : Task → Phase} (phased : Phased program phase)
    (tallies : Tallies program traffic)
    (run : (runMachine program config).Run (initialRun program config) steps state)
    (echoed : EchoedAtOnce traffic steps) :
    ∀ event ∈ state.run.stalls, Pause config traffic steps event := by
  intro event recorded
  obtain ⟨before, entry, after, seen, conn, shape, visited, found, recordedAs⟩ :=
    visit_of_stall run event recorded
  obtain ⟨_, earlier, _, _⟩ := run.split shape
  simp only [silent, Bool.and_eq_true, Bool.not_eq_true', decide_eq_true_eq] at found
  obtain ⟨⟨⟨_, unbroken⟩, first⟩, gap⟩ := found
  have sent := lastSent_of_visit phased tallies earlier (shape ▸ echoed) visited first
  refine ⟨before, entry, after, seen, conn, conn.lastRecvMs, shape, visited, unbroken, sent, ?_⟩
  rw [recordedAs]
  exact ⟨rfl, rfl, gap⟩

theorem no_stall_of_keepsSending {phase : Task → Phase} (phased : Phased program phase)
    (tallies : Tallies program traffic)
    (run : (runMachine program config).Run (initialRun program config) steps state)
    (echoed : EchoedAtOnce traffic steps) (sending : KeepsSending config traffic steps) :
    state.run.stalls = [] := by
  refine List.eq_nil_iff_forall_not_mem.mpr (fun event recorded => ?_)
  obtain ⟨before, entry, after, seen, conn, last, shape, visited, unbroken, sent, _, gap, long⟩ :=
    pause_of_stall phased tallies run echoed event recorded
  have recent := sending _ _ _ _ _ _ _ shape visited unbroken sent
  omega

end Machine

end Npt.Ci.Client
