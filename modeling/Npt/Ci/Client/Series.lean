import Mathlib.Tactic.Positivity
import Mathlib.Tactic.Ring
import Npt.Ci.Client.PassSoundness
import Npt.Core.RunningSum

/-!
Contract: the throughput series of a run (`spawn_throughput_sampler` and
`finalize` in `ci/src/client.rs`).

The sampler ticks once a second, sums the flows' counters one by one and looks at the
wind-down flag afterwards. Each of its samples has the bytes that its sums have more
than those of the sample before, as kilobits; what is counted after a flow's counter
was read for the last time is in no sample.

Owns: what the samples of a returned run add up to, beside its byte counts and
its averages.

Does not own: what the flows count, or when the ticks come.
-/

namespace Npt.Ci.Client

open Npt.Core
open Npt.Ci.Config

/-- The two ways of the traffic. -/
inductive Way where
  | down
  | up
deriving DecidableEq, Repr

namespace Way

def counter : Way → ConnState → Nat
  | .down => ConnState.bytesRecv
  | .up => ConnState.bytesSent

def kbps : Way → ThroughputSample → Rat
  | .down => ThroughputSample.downKbps
  | .up => ThroughputSample.upKbps

def average : Way → PortMetrics → Rat
  | .down => PortMetrics.avgDownKbps
  | .up => PortMetrics.avgUpKbps

def bytes : Way → PortMetrics → Nat
  | .down => PortMetrics.bytesRecv
  | .up => PortMetrics.bytesSent

def pick {Value : Type} (down up : Value) : Way → Value
  | .down => down
  | .up => up

end Way

/-- Bytes as kilobits. -/
def kilobits (bytes : Nat) : Rat := (bytes : Rat) * 8 / 1000

theorem kilobits_add (left right : Nat) :
    kilobits (left + right) = kilobits left + kilobits right := by
  unfold kilobits
  push_cast
  ring

theorem kilobits_le {left right : Nat} (le : left ≤ right) : kilobits left ≤ kilobits right := by
  unfold kilobits
  gcongr

theorem kilobits_nonneg (bytes : Nat) : 0 ≤ kilobits bytes := by
  unfold kilobits
  positivity

section Runs

variable {Task Label : Type} {program : FlowProgram Task Label} {config : RunConfig}
  {state next : RunState Task} {label : RunLabel Label}

/-- What each flow has counted. -/
def counters (way : Way) (state : RunState Task) : List Nat := state.conns.map way.counter

/-- The bytes that the flows have counted. -/
def counted (way : Way) (state : RunState Task) : Nat := (counters way state).sum

/-- The samples are those of the first seconds, and none is negative. -/
structure Numbered (series : List ThroughputSample) : Prop where
  seconds : series.map ThroughputSample.tSecs = List.range' 1 series.length
  nonneg : ∀ sample ∈ series, ∀ way : Way, 0 ≤ way.kbps sample

/-- The sums of the last round. -/
def SampleLoop.previous (loop : SampleLoop) (way : Way) : Nat :=
  way.pick loop.prevDown loop.prevUp

/-- The samples up to now add up to the sums of the last round. -/
structure Collected (loop : SampleLoop) : Prop where
  numbered : Numbered loop.series
  sums : ∀ way : Way, (loop.series.map way.kbps).sum = kilobits (loop.previous way)

/-- The loop has a sample to add. -/
structure Going (config : RunConfig) (loop : SampleLoop) : Prop where
  collected : Collected loop
  second : loop.t = loop.series.length + 1
  room : loop.series.length < config.params.durationSecs

/-- Where the sampler is. `least` is what had been counted when its last round began: no
sum that it ends with is less, and none is more than what is counted now. -/
inductive Accounted (config : RunConfig) (state : RunState Task) (least : Way → Nat) :
    Sampler → Prop where
  | waiting {loop : SampleLoop} (going : Going config loop)
      (held : ∀ way, least way ≤ loop.previous way)
      (behind : ∀ way, loop.previous way ≤ counted way state) :
      Accounted config state least (.waiting loop)
  | summingDown {loop : SampleLoop} {down index : Nat} (going : Going config loop)
      (before : ∀ way, loop.previous way ≤ least way)
      (reading : Reading (least .down) (counters .down state) down index)
      (ahead : least .up ≤ counted .up state) :
      Accounted config state least (.summingDown loop down index)
  | summingUp {loop : SampleLoop} {down up index : Nat} (going : Going config loop)
      (before : ∀ way, loop.previous way ≤ least way)
      (read : least .down ≤ down ∧ down ≤ counted .down state)
      (reading : Reading (least .up) (counters .up state) up index) :
      Accounted config state least (.summingUp loop down up index)
  | pushed {loop : SampleLoop} (collected : Collected loop) (second : loop.t = loop.series.length)
      (room : loop.series.length ≤ config.params.durationSecs)
      (held : ∀ way, least way ≤ loop.previous way)
      (behind : ∀ way, loop.previous way ≤ counted way state) :
      Accounted config state least (.pushed loop)
  | finished {series : List ThroughputSample} (numbered : Numbered series)
      (room : series.length ≤ config.params.durationSecs)
      (total : ∀ way : Way, ∃ bytes, (series.map way.kbps).sum = kilobits bytes ∧
        least way ≤ bytes ∧ bytes ≤ counted way state) :
      Accounted config state least (.finished series)

theorem collected_start : Collected {} where
  numbered := ⟨rfl, by simp⟩
  sums way := by cases way <;> simp [SampleLoop.previous, Way.pick, kilobits]

theorem accounted_initial : Accounted config (initialRun program config) (fun _ => 0)
    (initialRun program config).sampler := by
  simp only [initialRun]
  split
  · exact .finished ⟨rfl, by simp⟩ (Nat.zero_le _)
      (fun way => ⟨0, by simp [kilobits], Nat.le_refl _, Nat.zero_le _⟩)
  · rename_i some
    refine .waiting ⟨collected_start, rfl, Nat.pos_of_ne_zero some⟩ (fun _ => Nat.zero_le _) ?_
    intro way
    cases way <;> exact Nat.zero_le _

theorem counted_le {after : RunState Task} {way : Way}
    (grows : Grows (counters way state) (counters way after)) :
    counted way state ≤ counted way after :=
  List.Forall₂.sum_le_sum grows

/-- Counters that grow keep the account. -/
theorem Accounted.grow {least : Way → Nat} {after : RunState Task} {sampler : Sampler}
    (accounted : Accounted config state least sampler)
    (grows : ∀ way, Grows (counters way state) (counters way after)) :
    Accounted config after least sampler := by
  have more (way : Way) := counted_le (grows way)
  cases accounted with
  | waiting going held behind => exact .waiting going held (fun way => (behind way).trans (more way))
  | summingDown going before reading ahead =>
      exact .summingDown going before (reading.grow (grows .down)) (ahead.trans (more .up))
  | summingUp going before read reading =>
      exact .summingUp going before ⟨read.1, read.2.trans (more .down)⟩
        (reading.grow (grows .up))
  | pushed collected second room held behind =>
      exact .pushed collected second room held (fun way => (behind way).trans (more way))
  | finished numbered room total =>
      refine .finished numbered room (fun way => ?_)
      obtain ⟨bytes, sum, held, behind⟩ := total way
      exact ⟨bytes, sum, held, behind.trans (more way)⟩

/-- A sample has what its sums have more than those before. -/
theorem Going.push {loop : SampleLoop} (going : Going config loop) {down up : Nat}
    (more : ∀ way : Way, loop.previous way ≤ way.pick down up) : Collected (loop.push down up) where
  numbered := by
    refine ⟨?_, fun other member way => ?_⟩
    · simp only [SampleLoop.push, List.map_append, List.length_append, List.map_singleton,
        List.length_singleton, going.collected.numbered.seconds, List.range'_concat, going.second]
      simp [Nat.add_comm]
    · rcases List.mem_append.mp member with earlier | new
      · exact going.collected.numbered.nonneg other earlier way
      · obtain rfl := List.mem_singleton.mp new
        cases way <;> exact kilobits_nonneg _
  sums way := by
    have whole : kilobits (loop.previous way) + kilobits (way.pick down up - loop.previous way) =
        kilobits (way.pick down up) := by
      rw [← kilobits_add, Nat.add_sub_of_le (more way)]
    have last : (loop.push down up).previous way = way.pick down up := by cases way <;> rfl
    rw [last, ← whole, ← going.collected.sums way]
    cases way <;>
      simp [SampleLoop.push, SampleLoop.previous, Way.pick, Way.kbps, kilobits]

/-- A step of the sampler keeps the account; a round that begins has all that is counted
before it. -/
theorem Accounted.sampled {least : Way → Nat} {label : SamplerLabel} {sampler : Sampler}
    (accounted : Accounted config state least state.sampler)
    (stepped : samplerStep config state label = some sampler) :
    ∃ later : Way → Nat, (∀ way, least way ≤ later way) ∧
      (label = .tick → ∀ way, counted way state ≤ later way) ∧
      Accounted config state later sampler := by
  cases label with
  | tick =>
      simp only [samplerStep, Sampler.tick] at stepped
      generalize state.sampler = current at accounted stepped
      cases accounted with
      | @waiting loop going held behind =>
          simp only at stepped
          split at stepped
          · obtain rfl := Option.some.inj stepped
            exact ⟨fun way => counted way state, fun way => (held way).trans (behind way),
              fun _ _ => Nat.le_refl _,
              .summingDown going behind (Reading.start _) (Nat.le_refl _)⟩
          · simp at stepped
      | _ => simp at stepped
  | load =>
      refine ⟨least, fun _ => Nat.le_refl _, by simp, ?_⟩
      simp only [samplerStep, Sampler.load] at stepped
      generalize state.sampler = current at accounted stepped
      cases accounted with
      | @summingDown loop down index going before reading ahead =>
          simp only at stepped
          split at stepped
          · rename_i conn present
            obtain rfl := Option.some.inj stepped
            exact .summingDown going before (reading.load (by simp [counters, present, Way.counter]))
              ahead
          · rename_i absent
            obtain rfl := Option.some.inj stepped
            have read := reading.done (by simp [counters, absent])
            exact .summingUp going before read ⟨by simpa [counted] using ahead, by simp⟩
      | @summingUp loop down up index going before read reading =>
          simp only at stepped
          split at stepped
          · rename_i conn present
            obtain rfl := Option.some.inj stepped
            exact .summingUp going before read
              (reading.load (by simp [counters, present, Way.counter]))
          · rename_i absent
            obtain rfl := Option.some.inj stepped
            have also := reading.done (by simp [counters, absent])
            have bounds : ∀ way : Way, least way ≤ way.pick down up ∧
                way.pick down up ≤ counted way state := by
              intro way
              cases way
              · exact read
              · exact also
            have longer : (loop.push down up).series.length = loop.series.length + 1 := by
              simp [SampleLoop.push]
            have collected := going.push
              (fun way => (before way).trans (bounds way).1)
            refine .pushed collected ?_ (longer ▸ going.room) ?_ ?_
            · rw [longer]
              exact going.second
            · intro way
              cases way <;> exact (bounds _).1
            · intro way
              cases way <;> exact (bounds _).2
      | _ => simp at stepped
  | check =>
      refine ⟨least, fun _ => Nat.le_refl _, by simp, ?_⟩
      simp only [samplerStep, Sampler.check] at stepped
      generalize state.sampler = current at accounted stepped
      cases accounted with
      | @pushed loop collected second room held behind =>
          simp only at stepped
          split at stepped
          · obtain rfl := Option.some.inj stepped
            exact .finished collected.numbered room
              (fun way => ⟨loop.previous way, collected.sums way, held way, behind way⟩)
          · rename_i goesOn
            rw [not_or, Nat.not_le] at goesOn
            obtain rfl := Option.some.inj stepped
            refine .waiting ⟨⟨collected.numbered, collected.sums⟩, ?_, ?_⟩ held behind
            · simp [second]
            · simpa [second] using goesOn.2
      | _ => simp at stepped

theorem counters_replace (way : Way) (index : Nat) (run : PortRun) (new : Flow Task) :
    counters way (state.replace index run new) =
      (counters way state).set index (way.counter new.conn) := by
  simp [counters, RunState.conns, RunState.replace, List.map_set]

/-- Replacing a flow by one whose counter is no less. -/
theorem grows_replace (way : Way) {index : Nat} {old : Flow Task}
    (present : state.flows[index]? = some old) (run : PortRun) {new : Flow Task}
    (more : way.counter old.conn ≤ way.counter new.conn) :
    Grows (counters way state) (counters way (state.replace index run new)) := by
  have there : (counters way state)[index]? = some (way.counter old.conn) := by
    simp [counters, RunState.conns, present]
  rw [counters_replace]
  exact grows_set there more

/-- No step makes a counter fall, and none raises one once the run winds down. -/
theorem grows_of_step (windDown : WindDown program state)
    (step : (runMachine program config).step state label = some next) (way : Way) :
    Grows (counters way state) (counters way next) ∧
      (state.run.windingDown = true →
        next.run.windingDown = true ∧ counted way next = counted way state) := by
  cases taken_of_step step with
  | clock | watchdogStop | watchdogStart | visitDone | sample | finalize =>
      exact ⟨.refl _, fun ended => ⟨ended, rfl⟩⟩
  | join => exact ⟨.refl _, fun _ => ⟨rfl, rfl⟩⟩
  | @flow index label flow event task present own =>
      have going := windDown.running present own
      refine ⟨grows_replace way present _ ?_, fun ended => by simp [going] at ended⟩
      cases way with
      | down =>
          rw [Way.counter, FlowEvent.apply_bytesRecv]
          exact Nat.le_add_right _ _
      | up =>
          rw [Way.counter, FlowEvent.apply_bytesSent]
          exact Nat.le_add_right _ _
  | @visit now due index flow visiting present =>
      have kept : way.counter (visitFlow config.stallMs now state.run flow.conn).2 =
          way.counter flow.conn := by
        rw [visitFlow_conn_eq]
        cases way <;> rfl
      have same : counters way (state.replace index
          (visitFlow config.stallMs now state.run flow.conn).1
          ⟨(visitFlow config.stallMs now state.run flow.conn).2, flow.task⟩) =
            counters way state := by
        have there : (counters way state)[index]? = some (way.counter flow.conn) := by
          simp [counters, RunState.conns, present]
        obtain ⟨inside, here⟩ := List.getElem?_eq_some_iff.mp there
        rw [counters_replace, kept, ← here, List.set_getElem_self]
      refine ⟨?_, fun ended => ⟨(visitFlow_windingDown _ _ _ _).trans ended, ?_⟩⟩
      · exact same ▸ Grows.refl _
      · exact congrArg List.sum same

/-- A run has its account, with what had been counted at every tick of the sampler; and
what is counted does not change once the run winds down. -/
structure Sampled (config : RunConfig) (trace : List (RunState Task × RunLabel Label))
    (state : RunState Task) : Prop where
  account : ∃ least : Way → Nat, Accounted config state least state.sampler ∧
    ∀ entry ∈ trace, entry.2 = .sampler .tick → ∀ way, counted way entry.1 ≤ least way
  wound : ∀ entry ∈ trace, entry.1.run.windingDown = true → state.run.windingDown = true ∧
    ∀ way, counted way state = counted way entry.1

theorem sampled_of_step {trace : List (RunState Task × RunLabel Label)}
    (windDown : WindDown program state) (sampled : Sampled config trace state)
    (step : (runMachine program config).step state label = some next) :
    Sampled config (trace ++ [(state, label)]) next := by
  have grows := grows_of_step windDown step
  obtain ⟨least, accounted, ticks⟩ := sampled.account
  constructor
  · -- Only a step of the sampler's own changes where it is.
    have kept (same : next.sampler = state.sampler) (other : label ≠ .sampler .tick) :
        ∃ least : Way → Nat, Accounted config next least next.sampler ∧
          ∀ entry ∈ trace ++ [(state, label)], entry.2 = .sampler .tick →
            ∀ way, counted way entry.1 ≤ least way := by
      refine ⟨least, same ▸ accounted.grow (fun way => (grows way).1), ?_⟩
      intro entry member ticked
      rcases List.mem_append.mp member with earlier | last
      · exact ticks entry earlier ticked
      · obtain rfl := List.mem_singleton.mp last
        exact absurd ticked other
    cases taken_of_step step with
    | @sample label sampler stepped =>
        obtain ⟨later, more, whole, accounted⟩ := accounted.sampled stepped
        refine ⟨later, accounted.grow (fun way => (grows way).1), ?_⟩
        intro entry member ticked way
        rcases List.mem_append.mp member with earlier | last
        · exact (ticks entry earlier ticked way).trans (more way)
        · obtain rfl := List.mem_singleton.mp last
          exact whole (RunLabel.sampler.inj ticked) way
    | clock | watchdogStop | watchdogStart | visitDone | join | finalize | flow | visit =>
        exact kept rfl (by simp)
  · intro entry member winding
    rcases List.mem_append.mp member with earlier | last
    · obtain ⟨ended, same⟩ := sampled.wound entry earlier winding
      exact ⟨((grows .down).2 ended).1, fun way => ((grows way).2 ended).2.trans (same way)⟩
    · obtain rfl := List.mem_singleton.mp last
      exact ⟨((grows .down).2 winding).1, fun way => ((grows way).2 winding).2⟩

theorem sampled_of_run {trace : List (RunState Task × RunLabel Label)}
    (run : (runMachine program config).Run (initialRun program config) trace state) :
    Sampled config trace state := by
  refine run.history (Sampled config) ?_ (fun trace state label next before sampled step =>
    sampled_of_step (windDown_of_run before) sampled step)
  exact ⟨⟨_, accounted_initial, by simp⟩, by simp⟩

/-- A returned run has the series that its sampler ended with. -/
def SeriesReturned (state : RunState Task) : Prop :=
  ∀ metrics, state.main = .returned metrics → ∃ series, state.sampler = .finished series ∧
    metrics.throughputSeries = series

theorem seriesReturned_of_step (returned : SeriesReturned state)
    (step : (runMachine program config).step state label = some next) : SeriesReturned next := by
  cases taken_of_step step with
  | finalize collecting sampled =>
      intro metrics shown
      obtain rfl := MainTask.returned.inj shown
      exact ⟨_, sampled, rfl⟩
  | join joining => exact fun metrics shown => by simp at shown
  | @sample label sampler stepped =>
      intro metrics shown
      obtain ⟨series, sampled, _⟩ := returned metrics shown
      cases label <;>
        simp [samplerStep, Sampler.tick, Sampler.load, Sampler.check, sampled] at stepped
  | clock | watchdogStop | watchdogStart | visitDone => exact returned
  | flow | visit => exact returned

/-- In every run that returns, of either protocol: the samples are those of the first
seconds, at most as many as the run was to last; they add up to no more kilobits than
were counted, which are the average over the duration; to no less than had been counted
when a round of the sampler began; and to all of them where the run was winding down by
then. -/
theorem series_accounts_for_bytes {trace : List (RunState Task × RunLabel Label)}
    {metrics : PortMetrics}
    (run : (runMachine program config).Run (initialRun program config) trace state)
    (result : state.result = some metrics) :
    metrics.throughputSeries.length ≤ config.params.durationSecs ∧
      metrics.throughputSeries.map ThroughputSample.tSecs =
        List.range' 1 metrics.throughputSeries.length ∧
      (∀ sample ∈ metrics.throughputSeries, 0 ≤ sample.downKbps ∧ 0 ≤ sample.upKbps) ∧
      ∀ way : Way,
        way.average metrics * (max config.params.durationSecs 1 : Nat) =
            kilobits (way.bytes metrics) ∧
          (metrics.throughputSeries.map way.kbps).sum ≤ kilobits (way.bytes metrics) ∧
          ∀ entry ∈ trace, entry.2 = .sampler .tick →
            kilobits (counted way entry.1) ≤ (metrics.throughputSeries.map way.kbps).sum ∧
            (entry.1.run.windingDown = true →
              (metrics.throughputSeries.map way.kbps).sum = kilobits (way.bytes metrics)) := by
  have main := main_of_result result
  have sampledRun := sampled_of_run run
  have returned : SeriesReturned state :=
    run.invariant SeriesReturned (fun metrics shown => by cases shown)
      (fun _ _ _ returned step => seriesReturned_of_step returned step)
  obtain ⟨series, sampled, shown⟩ := returned metrics main
  obtain ⟨other, made⟩ := (finished_of_run run).metrics metrics main
  have bytes (way : Way) : way.bytes metrics = counted way state := by
    rw [made]
    cases way <;> rfl
  have average (way : Way) : way.average metrics * (max config.params.durationSecs 1 : Nat) =
      kilobits (counted way state) := by
    have positive : ((max config.params.durationSecs 1 : Nat) : Rat) ≠ 0 := by positivity
    rw [made]
    cases way <;> exact div_mul_cancel₀ _ positive
  obtain ⟨least, accounted, ticks⟩ := sampledRun.account
  rw [sampled] at accounted
  cases accounted with
  | finished numbered room total =>
      rw [shown]
      refine ⟨room, numbered.seconds, fun sample member =>
        ⟨numbered.nonneg sample member .down, numbered.nonneg sample member .up⟩, fun way => ?_⟩
      obtain ⟨read, sum, held, behind⟩ := total way
      rw [bytes, sum]
      refine ⟨average way, kilobits_le behind, fun entry member ticked => ?_⟩
      have floor := (ticks entry member ticked way).trans held
      refine ⟨kilobits_le floor, fun winding => ?_⟩
      rw [← (sampledRun.wound entry member winding).2 way] at floor
      rw [Nat.le_antisymm behind floor]

end Runs

/-- The bytes of one frame, there and back, are in the one sample of the run, whose round
began when the run was winding down. -/
theorem series_accounts_for_bytes_echoed :
    ∃ state metrics, (TcpFlow.runTcp TcpFlow.echoed).play (TcpFlow.startTcp TcpFlow.echoed)
        TcpFlow.echoedLabels = some state ∧ state.result = some metrics ∧
      metrics.throughputSeries = [⟨1, 1 / 5, 1 / 5⟩] ∧
      (metrics.throughputSeries.map ThroughputSample.downKbps).sum =
        kilobits metrics.bytesRecv := by
  obtain ⟨metrics, found, series⟩ := Option.map_eq_some_iff.mp (show
    (((TcpFlow.runTcp TcpFlow.echoed).play (TcpFlow.startTcp TcpFlow.echoed)
      TcpFlow.echoedLabels).bind RunState.result).map PortMetrics.throughputSeries =
        some [⟨1, 1 / 5, 1 / 5⟩] by decide +kernel)
  obtain ⟨state, played, result⟩ := Option.bind_eq_some_iff.mp found
  obtain ⟨entry, member, ticked, winding⟩ : ∃ entry ∈
      (TcpFlow.runTcp TcpFlow.echoed).trace (TcpFlow.startTcp TcpFlow.echoed)
        TcpFlow.echoedLabels,
      entry.2 = .sampler .tick ∧ entry.1.run.windingDown = true := by
    decide +kernel
  have sums := (series_accounts_for_bytes (Machine.run_of_play played) result).2.2.2 .down
  exact ⟨state, metrics, played, result, series, (sums.2.2 entry member ticked).2 winding⟩

end Npt.Ci.Client
