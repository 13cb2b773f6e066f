import Npt.Ci.Client.Phases
import Npt.Ci.Client.Watchdog
import Npt.Ci.Detect

/-!
Owns: the detection of silent flows. With a watchdog that ticks on time, a
silence of an active flow that is long enough holds a tick that records a
stall, and a flow that never receives is counted at the end of the run.

Does not own: silences before a flow's first frame, which the watchdog skips.
-/

namespace Npt.Ci.Client

open Npt.Core
open Npt.Ci.Config
open Npt.Ci.Detect

section Machine

variable {Task Label : Type} {program : FlowProgram Task Label} {config : RunConfig}
  {trace : List (RunState Task × RunLabel Label)} {state : RunState Task}

/-- The event that flow `index` has in a step. -/
def flowEvent (program : FlowProgram Task Label) (entry : RunState Task × RunLabel Label)
    (index : Nat) : Option FlowEvent :=
  match entry.2 with
  | .flow position label =>
      if position = index then
        entry.1.flows[index]?.bind fun flow =>
          (program.step entry.1.now flow.conn.id flow.task label).map Prod.fst
      else none
  | _ => none

theorem flowEvent_own {index : Nat} {flow : Flow Task} {label : Label} {event : FlowEvent}
    {task : Task} (present : state.flows[index]? = some flow)
    (taken : program.step state.now flow.conn.id flow.task label = some (event, task)) :
    flowEvent program (state, .flow index label) index = some event := by
  simp [flowEvent, present, taken]

theorem flowEvent_foreign {entry : RunState Task × RunLabel Label} {index : Nat}
    (foreign : ∀ label, entry.2 ≠ .flow index label) : flowEvent program entry index = none := by
  unfold flowEvent
  split
  · rename_i position label same
    rw [if_neg]
    rintro rfl
    exact foreign label same
  · rfl

/-- In this step flow `index` counts a returned frame or datagram. -/
def Receives (program : FlowProgram Task Label) (entry : RunState Task × RunLabel Label)
    (index : Nat) : Prop :=
  ∃ event, flowEvent program entry index = some event ∧ event.receives = true

instance (entry : RunState Task × RunLabel Label) (index : Nat) :
    Decidable (Receives program entry index) :=
  decidable_of_iff ((flowEvent program entry index).any FlowEvent.receives = true)
    (Option.any_eq_true _ _)

/-! ## Receptions and a flow's flags -/

theorem firstRecv_of_receives
    (run : (runMachine program config).Run (initialRun program config) trace state) :
    ∀ (index : Nat) flow, state.flows[index]? = some flow →
      (∃ entry ∈ trace, Receives program entry index) → flow.conn.firstRecv = true := by
  refine flow_history (fun trace index _ flow =>
    (∃ entry ∈ trace, Receives program entry index) → flow.conn.firstRecv = true) ?_ ?_ ?_ ?_ ?_ run
  · simp
  · rintro trace state index label flow event task _ present _ holds taken ⟨entry, member, receives⟩
    cases received : event.receives with
    | true => exact (event.apply_received _ _ _ _ received).1
    | false =>
        rw [(event.apply_unreceived _ _ _ _ received).2.1]
        rcases List.mem_append.mp member with old | here
        · exact holds ⟨entry, old, receives⟩
        · obtain rfl := List.mem_singleton.mp here
          obtain ⟨other, shown, counted⟩ := receives
          obtain rfl := Option.some.inj ((flowEvent_own present taken).symm.trans shown)
          simp [received] at counted
  · intro trace index now seen run flow holds receives
    rw [visitFlow_conn_eq]
    exact holds receives
  · rintro trace entry index now flow foreign holds ⟨found, member, receives⟩
    rcases List.mem_append.mp member with old | here
    · exact holds ⟨found, old, receives⟩
    · obtain rfl := List.mem_singleton.mp here
      obtain ⟨_, shown, _⟩ := receives
      simp [flowEvent_foreign foreign] at shown
  · exact fun _ _ _ _ _ holds => holds

theorem bytesRecv_eq_zero_of_silence
    (run : (runMachine program config).Run (initialRun program config) trace state) :
    ∀ (index : Nat) flow, state.flows[index]? = some flow →
      (∀ entry ∈ trace, ¬Receives program entry index) → flow.conn.bytesRecv = 0 := by
  refine flow_history (fun trace index _ flow =>
    (∀ entry ∈ trace, ¬Receives program entry index) → flow.conn.bytesRecv = 0) ?_ ?_ ?_ ?_ ?_ run
  · exact fun _ _ _ => rfl
  · intro trace state index label flow event task _ present _ holds taken silence
    cases received : event.receives with
    | true =>
        have counted := silence _ (List.mem_append_right _ (List.mem_singleton_self _))
        exact absurd ⟨event, flowEvent_own present taken, received⟩ counted
    | false =>
        rw [(event.apply_unreceived _ _ _ _ received).1]
        exact holds (fun entry member => silence entry (List.mem_append_left _ member))
  · intro trace index now seen run flow holds silence
    rw [visitFlow_conn_eq]
    exact holds silence
  · intro trace entry index now flow _ holds silence
    exact holds (fun found member => silence found (List.mem_append_left _ member))
  · exact fun _ _ _ _ _ holds => holds

/-! ## A punctual watchdog -/

/-- The clock does not pass a due tick and stands still during a tick's pass. -/
def Punctual (state : RunState Task) : RunLabel Label → Prop
  | .elapse ms =>
      match state.watchdog with
      | .waiting due => state.now + ms ≤ due
      | .visiting _ _ _ => False
      | .stopped => True
  | _ => True

instance (state : RunState Task) : (label : RunLabel Label) → Decidable (Punctual state label)
  | .elapse ms =>
      match watchdog : state.watchdog with
      | .waiting due => decidable_of_iff (state.now + ms ≤ due) (by simp [Punctual, watchdog])
      | .visiting _ _ _ => isFalse (by simp [Punctual, watchdog])
      | .stopped => isTrue (by simp [Punctual, watchdog])
  | .flow _ _ | .watchdogTick | .watchdogVisit | .sampler _ | .join | .finalize => isTrue trivial

theorem Punctual.elapse {ms : Nat}
    (punctual : Punctual state (.elapse ms : RunLabel Label)) :
    (∀ due, state.watchdog = .waiting due → state.now + ms ≤ due) ∧
      ∀ seen due index, state.watchdog ≠ .visiting seen due index := by
  unfold Punctual at punctual
  constructor
  · intro due waiting
    simpa only [waiting] using punctual
  · intro seen due index visiting
    simp [visiting] at punctual

/-- The watchdog waits for a tick at most 250 ms away, or is at the tick. -/
structure OnTime (state : RunState Task) : Prop where
  waiting : ∀ due, state.watchdog = .waiting due → state.now ≤ due ∧ due ≤ state.now + 250
  visiting : ∀ seen due index, state.watchdog = .visiting seen due index →
    seen = state.now ∧ due = state.now

theorem onTime_initial : OnTime (initialRun program config) where
  waiting due same := by
    obtain rfl := Watchdog.waiting.inj same
    exact ⟨Nat.le_refl _, Nat.zero_le _⟩
  visiting _ _ _ same := by simp [initialRun] at same

theorem onTime_step {next : RunState Task} {label : RunLabel Label} (onTime : OnTime state)
    (punctual : Punctual state label)
    (step : (runMachine program config).step state label = some next) : OnTime next := by
  cases taken_of_step step with
  | clock ms =>
      obtain ⟨inTime, idle⟩ := punctual.elapse
      refine ⟨fun due same => ⟨inTime due same, ?_⟩,
        fun seen due index same => absurd same (idle seen due index)⟩
      have near := (onTime.waiting due same).2
      simp only
      omega
  | flow | sample | join => exact ⟨onTime.waiting, onTime.visiting⟩
  | watchdogStop | finalize => exact ⟨by simp, by simp⟩
  | watchdogStart waiting reached early running =>
      refine ⟨by simp, fun seen due index same => ?_⟩
      obtain ⟨rfl, rfl, _⟩ := Watchdog.visiting.inj same
      exact ⟨rfl, Nat.le_antisymm reached (onTime.waiting _ waiting).1⟩
  | visitDone visiting absent =>
      refine ⟨fun due same => ?_, by simp⟩
      obtain rfl := Watchdog.waiting.inj same
      obtain ⟨_, rfl⟩ := onTime.visiting _ _ _ visiting
      exact ⟨Nat.le_add_right _ _, Nat.le_refl _⟩
  | visit visiting present =>
      refine ⟨by simp, fun seen due index same => ?_⟩
      obtain ⟨rfl, rfl, _⟩ := Watchdog.visiting.inj same
      exact onTime.visiting _ _ _ visiting

theorem onTime_run {start : RunState Task}
    (run : (runMachine program config).Run start trace state)
    (punctual : ∀ entry ∈ trace, Punctual entry.1 entry.2) (onTime : OnTime start) :
    OnTime state :=
  run.invariant_under Punctual OnTime punctual onTime
    (fun _ _ _ onTime punctual step => onTime_step onTime punctual step)

/-- The time of the next tick whose pass looks at flow `index`. -/
def nextVisit (index : Nat) : Watchdog → Option Nat
  | .waiting due => some due
  | .visiting seen due position => if position ≤ index then some seen else some (due + 250)
  | .stopped => none

theorem now_le_nextVisit (onTime : OnTime state) {index tick : Nat}
    (next : nextVisit index state.watchdog = some tick) : state.now ≤ tick := by
  cases watchdog : state.watchdog with
  | waiting due =>
      obtain rfl : due = tick := by simpa [nextVisit, watchdog] using next
      exact (onTime.waiting _ watchdog).1
  | visiting seen due position =>
      obtain ⟨rfl, rfl⟩ := onTime.visiting _ _ _ watchdog
      simp only [nextVisit, watchdog] at next
      split at next
      · exact le_of_eq (Option.some.inj next)
      · exact Nat.le_of_add_right_le (le_of_eq (Option.some.inj next))
  | stopped => simp [nextVisit, watchdog] at next

theorem nextVisit_le (onTime : OnTime state) (index : Nat) (live : state.watchdog ≠ .stopped) :
    ∃ tick, nextVisit index state.watchdog = some tick ∧ tick ≤ state.now + 250 := by
  cases watchdog : state.watchdog with
  | waiting due => exact ⟨due, rfl, (onTime.waiting _ watchdog).2⟩
  | visiting seen due position =>
      obtain ⟨rfl, rfl⟩ := onTime.visiting _ _ _ watchdog
      simp only [nextVisit]
      split
      · exact ⟨_, rfl, Nat.le_add_right _ _⟩
      · exact ⟨_, rfl, Nat.le_refl _⟩
  | stopped => exact absurd watchdog live

/-! ## A silent interval -/

/-- The watchdog is stopped only once the run winds down or the deadline has passed. -/
theorem stopped_of_run
    (run : (runMachine program config).Run (initialRun program config) trace state)
    (stopped : state.watchdog = .stopped) :
    config.deadline ≤ state.now ∨ state.run.windingDown = true := by
  refine run.history (fun _ state => state.watchdog = .stopped →
    config.deadline ≤ state.now ∨ state.run.windingDown = true) (by simp [initialRun]) ?_ stopped
  intro trace state label next before holds step stopped
  cases taken_of_step step with
  | clock ms => exact (holds stopped).imp (fun past => Nat.le_add_right_of_le past) id
  | flow | sample => simpa [RunState.replace] using holds stopped
  | watchdogStop waiting reached past => exact past
  | watchdogStart | visitDone | visit => simp at stopped
  | join => exact Or.inr rfl
  | finalize collecting sampled =>
      exact Or.inr ((windDown_of_run before).joined (by simp [collecting]))

/-- The watchdog watches as long as some flow is connected and unbroken. -/
theorem watchdog_live (probe : Probe config program)
    (run : (runMachine program config).Run (initialRun program config) trace state) {index : Nat}
    {flow : Flow Task} (present : state.flows[index]? = some flow)
    (connected : flow.conn.connected = true) (unbroken : flow.conn.disconnected = false)
    (early : state.now < config.deadline) : state.watchdog ≠ .stopped := by
  intro stopped
  rcases stopped_of_run run stopped with past | winding
  · exact absurd past (Nat.not_le.mpr early)
  · have returned := (windDown_of_run run).returned winding flow (List.mem_of_getElem? present)
    have past := probe.lasting run present returned connected unbroken
    exact absurd past (Nat.not_le.mpr early)

/-- What holds of flow `index` through a silence that began at `since`: unless
the flow breaks, a stall is recorded or the tick that will record it is due. -/
structure Watched (config : RunConfig) (index since : Nat) (state : RunState Task) : Prop where
  onTime : OnTime state
  flow : ∃ flow, state.flows[index]? = some flow ∧ flow.conn.connected = true ∧
    flow.conn.firstRecv = true ∧ flow.conn.lastRecvMs ≤ since
  outcome : Stalled state.run index ∨
    (∃ flow, state.flows[index]? = some flow ∧ flow.conn.disconnected = true) ∨
    ∃ tick, nextVisit index state.watchdog = some tick ∧ tick ≤ since + config.stallMs + 250

private theorem watched_flow {since index : Nat} {next : RunState Task} {label : RunLabel Label}
    (probe : Probe config program)
    (run : (runMachine program config).Run (initialRun program config) trace state)
    (silence : ¬Receives program (state, label) index)
    (step : (runMachine program config).step state label = some next)
    (watched : ∃ flow, state.flows[index]? = some flow ∧ flow.conn.connected = true ∧
      flow.conn.firstRecv = true ∧ flow.conn.lastRecvMs ≤ since) :
    ∃ flow, next.flows[index]? = some flow ∧ flow.conn.connected = true ∧
      flow.conn.firstRecv = true ∧ flow.conn.lastRecvMs ≤ since := by
  obtain ⟨flow, present, connected, received, recent⟩ := watched
  obtain ⟨changed, there, change⟩ := flowChange_of_step present step
  refine ⟨changed, there, ?_⟩
  cases change with
  | same => exact ⟨connected, received, recent⟩
  | @own label event task taken =>
      have unreceived : event.receives = false := by
        by_contra counted
        exact silence ⟨event, flowEvent_own present taken, by simpa using counted⟩
      obtain ⟨phase, phased⟩ := probe.phased
      have flags := flagsMatch_of_run phased run index flow present
      have once : event ≠ .connected := by
        rintro rfl
        have move := phased.step _ _ _ _ _ _ taken
        generalize before : phase flow.task = first, after : phase task = second at move
        cases move with
        | connected => simp [flags.waiting before] at connected
        | streamed once => exact once rfl
      refine ⟨?_, ?_, ?_⟩
      · simp [event.apply_connected, connected]
      · exact (event.apply_unreceived _ _ _ _ unreceived).2.1.trans received
      · rw [event.apply_lastRecvMs _ _ _ _ unreceived once]
        exact recent
  | visited visiting =>
      rw [visitFlow_conn_eq]
      exact ⟨connected, received, recent⟩

private theorem watched_outcome {since index : Nat} {next : RunState Task} {label : RunLabel Label}
    (probe : Probe config program)
    (run : (runMachine program config).Run (initialRun program config) trace state)
    (bound : since + config.stallMs + 250 < config.deadline)
    (onTime : OnTime next) (watched : Watched config index since state)
    (later : ∃ flow, next.flows[index]? = some flow ∧ flow.conn.connected = true ∧
      flow.conn.firstRecv = true ∧ flow.conn.lastRecvMs ≤ since)
    (step : (runMachine program config).step state label = some next) :
    Stalled next.run index ∨
      (∃ flow, next.flows[index]? = some flow ∧ flow.conn.disconnected = true) ∨
      ∃ tick, nextVisit index next.watchdog = some tick ∧ tick ≤ since + config.stallMs + 250 := by
  obtain ⟨before, ⟨flow, present, connected, received, recent⟩, outcome⟩ := watched
  obtain ⟨changed, there, laterConnected, _, _⟩ := later
  rcases outcome with stalled | ⟨other, found, broken⟩ | ⟨tick, due, inTime⟩
  · exact Or.inl (stalled_step step stalled)
  · obtain ⟨after, shown, change⟩ := flowChange_of_step found step
    exact Or.inr (Or.inl ⟨after, shown, change.disconnected broken⟩)
  · by_cases broken : changed.conn.disconnected = true
    · exact Or.inr (Or.inl ⟨changed, there, broken⟩)
    have early := now_le_nextVisit before due
    -- Before the deadline an unbroken flow keeps the watchdog alive.
    have live (sameTime : next.now = state.now) : next.watchdog ≠ .stopped :=
      watchdog_live probe (run.snoc step) there laterConnected (by simpa using broken) (by omega)
    cases taken_of_step step with
    | clock | flow | sample | join => exact Or.inr (Or.inr ⟨tick, due, inTime⟩)
    | watchdogStop | finalize => exact absurd rfl (live rfl)
    | watchdogStart waiting reached =>
        obtain rfl := Option.some.inj ((congrArg (nextVisit index) waiting).symm.trans due)
        exact Or.inr (Or.inr ⟨state.now, by simp [nextVisit], early.trans inTime⟩)
    | @visitDone seen next position visiting absent =>
        have beyond : ¬position ≤ index := by
          intro reached
          have inside := (List.getElem?_eq_some_iff.mp present).1
          have outside := List.getElem?_eq_none_iff.mp absent
          omega
        rw [visiting] at due
        simp only [nextVisit, beyond, ↓reduceIte, Option.some.injEq] at due
        exact Or.inr (Or.inr ⟨_, rfl, due ▸ inTime⟩)
    | @visit seen due' position other visiting at' =>
        obtain ⟨rfl, rfl⟩ := before.visiting _ _ _ visiting
        rw [visiting] at due
        by_cases here : position = index
        · subst here
          obtain rfl : other = flow := Option.some.inj (at'.symm.trans present)
          by_cases found : silent config.stallMs state.now other.conn = true
          · refine Or.inl ((stallsRecorded_of_run (run.snoc step)).seen _
              (List.mem_append_right _ (List.mem_singleton_self _)) position _ other.conn ?_ found)
            exact ⟨_, other.task, rfl, visiting, present⟩
          · obtain ⟨same, shown, change⟩ := flowChange_of_step present step
            obtain rfl := Option.some.inj (there.symm.trans shown)
            have unbroken : other.conn.disconnected = false := by
              by_contra flagged
              exact broken (change.disconnected (by simpa using flagged))
            simp only [silent, connected, unbroken, received, Bool.not_false, Bool.and_self,
              Bool.true_and, decide_eq_true_eq, Nat.not_lt] at found
            refine Or.inr (Or.inr ⟨state.now + 250, by simp [nextVisit], ?_⟩)
            omega
        · have same : (position + 1 ≤ index) = (position ≤ index) := by
            rw [eq_iff_iff]
            omega
          refine Or.inr (Or.inr ⟨tick, ?_, inTime⟩)
          simpa only [nextVisit, same] using due

theorem watched_run {since index : Nat} {first : RunState Task}
    {before during : List (RunState Task × RunLabel Label)} (probe : Probe config program)
    (start : (runMachine program config).Run (initialRun program config) before first)
    (interval : (runMachine program config).Run first during state)
    (punctual : ∀ entry ∈ during, Punctual entry.1 entry.2)
    (silence : ∀ entry ∈ during, ¬Receives program entry index)
    (bound : since + config.stallMs + 250 < config.deadline)
    (watched : Watched config index since first) : Watched config index since state := by
  refine interval.history (fun trace state =>
    (∀ entry ∈ trace, Punctual entry.1 entry.2 ∧ ¬Receives program entry index) →
      Watched config index since state) (fun _ => watched) ?_
    (fun entry member => ⟨punctual entry member, silence entry member⟩)
  intro trace state label next earlier holds step conditions
  have here := conditions _ (List.mem_append_right _ (List.mem_singleton_self _))
  have old := holds (fun entry member => conditions entry (List.mem_append_left _ member))
  have run := start.append earlier
  have onTime := onTime_step old.onTime here.1 step
  have flow := watched_flow probe run here.2 step old.flow
  exact ⟨onTime, flow, watched_outcome probe run bound onTime old flow step⟩

/-- Flow `index` is connected and unbroken and receives nothing from `first` to
`last`, for longer than the stall limit and one watchdog period, before the
deadline, under a punctual watchdog. -/
structure SilentInterval (program : FlowProgram Task Label) (config : RunConfig) (index : Nat)
    (before during : List (RunState Task × RunLabel Label)) (first last : RunState Task) : Prop where
  start : (runMachine program config).Run (initialRun program config) before first
  interval : (runMachine program config).Run first during last
  punctual : ∀ entry ∈ before ++ during, Punctual entry.1 entry.2
  connected : ∃ flow, first.flows[index]? = some flow ∧ flow.conn.connected = true
  unbroken : ∀ flow, last.flows[index]? = some flow → flow.conn.disconnected = false
  silence : ∀ entry ∈ during, ¬Receives program entry index
  long : first.now + config.stallSecs * 1000 + 250 < last.now
  early : last.now ≤ config.deadline

theorem stallMs_le (config : RunConfig) : config.stallMs ≤ config.stallSecs * 1000 :=
  Nat.mod_le _ _

theorem lastRecvMs_le_now
    (run : (runMachine program config).Run (initialRun program config) trace state) :
    ∀ (index : Nat) flow, state.flows[index]? = some flow → flow.conn.lastRecvMs ≤ state.now := by
  refine flow_invariant (fun _ now flow => flow.conn.lastRecvMs ≤ now) ?_ ?_ ?_ ?_ run
  · exact fun _ _ => Nat.le_refl _
  · intro index now run flow label event task _ recent _
    by_cases moved : event.receives = true ∨ event = .connected
    · rcases moved with received | rfl
      · exact le_of_eq (event.apply_received _ _ _ _ received).2.2
      · exact Nat.le_refl _
    · simp only [not_or, Bool.not_eq_true] at moved
      rw [event.apply_lastRecvMs _ _ _ _ moved.1 moved.2]
      exact recent
  · intro index now seen run flow recent
    rw [visitFlow_conn_eq]
    exact recent
  · exact fun _ _ _ _ recent => Nat.le_add_right_of_le recent

/-- A connected flow stays connected. -/
theorem connected_run {final : RunState Task} {index : Nat}
    (run : (runMachine program config).Run state trace final)
    (connected : ∃ flow, state.flows[index]? = some flow ∧ flow.conn.connected = true) :
    ∃ flow, final.flows[index]? = some flow ∧ flow.conn.connected = true := by
  refine run.invariant (fun state => ∃ flow, state.flows[index]? = some flow ∧
    flow.conn.connected = true) connected ?_
  rintro middle label next ⟨flow, present, connected⟩ step
  obtain ⟨changed, there, change⟩ := flowChange_of_step present step
  refine ⟨changed, there, ?_⟩
  cases change with
  | same => exact connected
  | own => rw [FlowEvent.apply_connected, connected, Bool.true_or]
  | visited =>
      rw [visitFlow_conn_eq]
      exact connected

/-- A silence of an active flow records a stall. -/
theorem stalled_of_silentInterval {index : Nat} {first last : RunState Task}
    {before during : List (RunState Task × RunLabel Label)} (probe : Probe config program)
    (silent : SilentInterval program config index before during first last)
    (active : ∃ entry ∈ before, Receives program entry index) : Stalled last.run index := by
  obtain ⟨flow, present, connected⟩ := silent.connected
  have limit := stallMs_le config
  have long := silent.long
  have early := silent.early
  have onTime : OnTime first :=
    onTime_run silent.start (fun entry member => silent.punctual entry (by simp [member]))
      onTime_initial
  have bound : first.now + config.stallMs + 250 < config.deadline := by omega
  have watched : Watched config index first.now first := by
    refine ⟨onTime, ⟨flow, present, connected, ?_, ?_⟩, ?_⟩
    · exact firstRecv_of_receives silent.start index flow present active
    · exact lastRecvMs_le_now silent.start index flow present
    · by_cases broken : flow.conn.disconnected = true
      · exact Or.inr (Or.inl ⟨flow, present, broken⟩)
      · have live := watchdog_live probe silent.start present connected (by simpa using broken)
          (by omega)
        obtain ⟨tick, due, near⟩ := nextVisit_le onTime index live
        exact Or.inr (Or.inr ⟨tick, due, by omega⟩)
  have after := watched_run probe silent.start silent.interval
    (fun entry member => silent.punctual entry (by simp [member])) silent.silence bound watched
  rcases after.outcome with stalled | ⟨flow, found, broken⟩ | ⟨tick, due, inTime⟩
  · exact stalled
  · rw [silent.unbroken flow found] at broken
    simp at broken
  · have passed := now_le_nextVisit after.onTime due
    omega

/-- A silence within the test window is reported, as a stall when the flow had
received before and as a flow without return traffic when it never receives. -/
theorem no_undetected_silence (probe : Probe config program) {index : Nat}
    {before during after : List (RunState Task × RunLabel Label)} {first last final : RunState Task}
    {metrics : PortMetrics} (silent : SilentInterval program config index before during first last)
    (rest : (runMachine program config).Run last after final)
    (returned : final.main = .returned metrics) (detect : DetectParams) (portId : Int)
    (failOnStall : detect.failOnStall = true) (failOnNoReturn : detect.failOnNoReturn = true) :
    ((∃ entry ∈ before, Receives program entry index) →
        (∃ event ∈ metrics.stalls, event.connId = index) ∧
          (evaluate metrics detect portId).verdict ≠ .pass) ∧
      ((∀ entry ∈ before ++ during ++ after, ¬Receives program entry index) →
        (∃ flow, final.flows[index]? = some flow ∧ flow.conn.connected = true ∧
            flow.conn.bytesRecv = 0) ∧
          0 < metrics.flowsNoReturn ∧ (evaluate metrics detect portId).verdict ≠ .pass) := by
  have run := (silent.start.append silent.interval).append rest
  obtain ⟨series, rfl⟩ := (finished_of_run run).metrics metrics returned
  constructor
  · intro active
    obtain ⟨event, recorded, own⟩ := stalled_run rest (stalled_of_silentInterval probe silent active)
    refine ⟨⟨event, recorded, own⟩, fun passed => ?_⟩
    have none : final.run.stalls = [] := ((evaluate_pass_iff _ _ _).mp passed).stalls failOnStall
    rw [none] at recorded
    simp at recorded
  · intro silence
    obtain ⟨flow, present, connected⟩ := connected_run (silent.interval.append rest) silent.connected
    have bytes := bytesRecv_eq_zero_of_silence run index flow present silence
    have counted : 0 < (finalize program.protocol config.endpoint config.params.durationSecs
        final.run final.conns series).flowsNoReturn := by
      refine List.countP_pos_iff.mpr ⟨flow.conn, ?_, ?_⟩
      · exact List.mem_map_of_mem (List.mem_of_getElem? present)
      · simp [connected, bytes]
    refine ⟨⟨flow, present, connected, bytes⟩, counted, fun passed => ?_⟩
    have none := ((evaluate_pass_iff _ _ _).mp passed).returns failOnNoReturn
    omega

end Machine

namespace TcpFlow

open Npt.Ci.Protocol

/-- One pass of the watchdog over all flows, and the wait for the next tick. -/
def watchdogRound (config : RunConfig) : List (RunLabel Label) :=
  .watchdogTick :: List.replicate (config.flowCount + 1) .watchdogVisit ++ [.elapse 250]

/-! ### One flow that falls silent and one that never speaks -/

def spokenAndMute : RunConfig where
  endpoint := "127.0.0.1:9"
  params := { connectionsPerPort := 2, durationSecs := 2, payloadBytes := 1, rampMs := 0 }
  stallSecs := 1

namespace SpokenAndMute

def before : List (RunLabel Label) :=
  [.flow 0 .wake, .flow 1 .wake, .flow 0 (.connectOk 100), .flow 1 (.connectOk 100),
    .flow 0 (.peerSend (Frame.mk 0 7 []).encode), .flow 0 (.read 9)]

def first : RunState Task := stateAfter spokenAndMute (startTcp spokenAndMute) before

def during : List (RunLabel Label) := (List.replicate 6 (watchdogRound spokenAndMute)).flatten

def last : RunState Task := stateAfter spokenAndMute first during

def after : List (RunLabel Label) :=
  (List.replicate 2 (watchdogRound spokenAndMute)).flatten ++
    [.flow 0 (.writerCheck 9), .flow 0 .peerClose, .flow 0 (.read 9), .flow 0 .join,
      .flow 1 (.writerCheck 9), .flow 1 .peerClose, .flow 1 (.read 9), .flow 1 .join,
      .join] ++
    sampleRound _ 2 ++ [.finalize]

end SpokenAndMute

open SpokenAndMute in
theorem no_undetected_silence_spokenAndMute :
    ∃ final metrics, (runTcp spokenAndMute).play last after = some final ∧
      final.main = .returned metrics ∧ (∃ event ∈ metrics.stalls, event.connId = 0) ∧
      0 < metrics.flowsNoReturn ∧ (evaluate metrics {} 1).verdict ≠ .pass := by
  have silent (index : Nat) (own : index = 0 ∨ index = 1) :
      SilentInterval (tcpFlow spokenAndMute) spokenAndMute index
        ((runTcp spokenAndMute).trace (startTcp spokenAndMute) before)
        ((runTcp spokenAndMute).trace first during) first last :=
    { start := Machine.run_of_play (by decide +kernel)
      interval := Machine.run_of_play (by decide +kernel)
      punctual := by decide +kernel
      connected := by
        rcases own with rfl | rfl <;> exact (Option.any_eq_true _ _).mp (by decide +kernel)
      unbroken := by
        intro flow present
        have whole : ∀ flow ∈ last.flows, flow.conn.disconnected = false := by decide +kernel
        exact whole flow (List.mem_of_getElem? present)
      silence := by rcases own with rfl | rfl <;> decide +kernel
      long := by decide +kernel
      early := by decide +kernel }
  obtain ⟨metrics, returned⟩ := Option.isSome_iff_exists.mp (show
    (((runTcp spokenAndMute).play last after).bind RunState.result).isSome = true by decide +kernel)
  obtain ⟨final, played, result⟩ := Option.bind_eq_some_iff.mp returned
  have rest := Machine.run_of_play played
  have main := main_of_result result
  have spoken := (no_undetected_silence .tcp (silent 0 (Or.inl rfl)) rest main {} 1 rfl rfl).1
    (by decide +kernel)
  have mute := (no_undetected_silence .tcp (silent 1 (Or.inr rfl)) rest main {} 1 rfl rfl).2
    (by decide +kernel)
  exact ⟨final, metrics, played, main, spoken.1, mute.2⟩

/-! ### A flow that is silent only before its first frame -/

def lateFirstFrame : RunConfig where
  endpoint := "127.0.0.1:9"
  params :=
    { connectionsPerPort := 1
      durationSecs := 2
      payloadBytes := 1
      rampMs := 0
      sendRateBps := 25 }
  stallSecs := 1

namespace LateFirstFrame

def before : List (RunLabel Label) := [.flow 0 .wake, .flow 0 (.connectOk 100)]

def first : RunState Task := stateAfter lateFirstFrame (startTcp lateFirstFrame) before

def during : List (RunLabel Label) :=
  [.flow 0 (.writerCheck 7), .flow 0 (.writerSend 25), .flow 0 .writerDone] ++
    (List.replicate 6 (watchdogRound lateFirstFrame)).flatten

def last : RunState Task := stateAfter lateFirstFrame first during

def after : List (RunLabel Label) :=
  [.flow 0 (.peerSend (Frame.mk 0 7 [0xA5]).encode), .flow 0 (.read 9)] ++
    (List.replicate 2 (watchdogRound lateFirstFrame)).flatten ++
    [.flow 0 .writerWake, .flow 0 (.writerCheck 9), .flow 0 .peerClose, .flow 0 (.read 9),
      .flow 0 .join, .join] ++
    sampleRound _ 1 ++ [.finalize]

end LateFirstFrame

open LateFirstFrame in
/-- The watchdog skips a flow until its first frame, so a silence that its first
frame ends is reported by nothing. -/
theorem silence_before_first_frame_passes :
    ∃ before during after first last final metrics,
      SilentInterval (tcpFlow lateFirstFrame) lateFirstFrame 0 before during first last ∧
        (runTcp lateFirstFrame).Run last after final ∧ final.main = .returned metrics ∧
        metrics.stalls = [] ∧ metrics.flowsNoReturn = 0 ∧
        (evaluate metrics {} 1).verdict = .pass := by
  have silent : SilentInterval (tcpFlow lateFirstFrame) lateFirstFrame 0
      ((runTcp lateFirstFrame).trace (startTcp lateFirstFrame) before)
      ((runTcp lateFirstFrame).trace first during) first last :=
    { start := Machine.run_of_play (by decide +kernel)
      interval := Machine.run_of_play (by decide +kernel)
      punctual := by decide +kernel
      connected := (Option.any_eq_true _ _).mp (by decide +kernel)
      unbroken := by
        intro flow present
        have whole : ∀ flow ∈ last.flows, flow.conn.disconnected = false := by decide +kernel
        exact whole flow (List.mem_of_getElem? present)
      silence := by decide +kernel
      long := by decide +kernel
      early := by decide +kernel }
  obtain ⟨metrics, found, shown⟩ := Option.map_eq_some_iff.mp (show
    (((runTcp lateFirstFrame).play last after).bind RunState.result).map
      (fun metrics => (metrics.stalls, metrics.flowsNoReturn, (evaluate metrics {} 1).verdict)) =
        some ([], 0, .pass) by decide +kernel)
  obtain ⟨final, played, result⟩ := Option.bind_eq_some_iff.mp found
  simp only [Prod.mk.injEq] at shown
  exact ⟨_, _, _, first, last, final, metrics, silent, Machine.run_of_play played,
    main_of_result result, shown⟩

end TcpFlow

end Npt.Ci.Client
