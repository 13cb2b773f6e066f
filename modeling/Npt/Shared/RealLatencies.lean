import Mathlib.Data.Finset.Max
import Npt.Shared.BandTotals
import Npt.Shared.Percentiles

/-!
Contract: the latency band of a report against the latencies that were recorded.

A latency passes through the mean of its connection, the mean over connections, the
sample history and the band. Two of these stages can leave the range of the recorded
latencies: a sample without any latency is 0, and the mean of a connection cuts off
the sum of its latencies, not each of them, at whole milliseconds.

Owns: runs of the collector with any ids, what they record and sample, and when the
TCP band lies within the recorded latencies.

Does not own: the samplers or the report.
-/

namespace Npt.Shared

open Npt.Core
open Npt.Core.Machine

/-! ## Runs with any ids -/

/-- A step of the collector, whatever ids are in use. -/
def CollectorState.act (state : CollectorState) : CollectorLabel → CollectorState
  | .elapse nanos => { state with now := state.now + nanos }
  | .operation operation =>
      { state with
        collector := { state.collector with
          toMetricsCollector := operation.apply state.now state.collector.toMetricsCollector } }
  | .sampleThroughput => { state with collector := state.collector.sampleThroughput state.now }
  | .sampleLatency => { state with collector := state.collector.sampleLatency state.now }
  | .sampleErrors => { state with collector := state.collector.sampleErrors state.now }

def observing : Machine CollectorState CollectorLabel where
  step state label := some (state.act label)

/-- Runs with fresh ids are among them. -/
theorem observing_of_collecting {start state : CollectorState}
    {trace : List (CollectorState × CollectorLabel)} (run : collecting.Run start trace state) :
    observing.Run start trace state := by
  induction run with
  | nil => exact .nil
  | @snoc trace state next label _ taken inductionHypothesis =>
      refine .snoc inductionHypothesis (congrArg some ?_)
      cases label with
      | operation operation =>
          simp only [collecting, CollectorState.step] at taken
          split at taken
          · exact Option.some.inj taken
          · cases taken
      | _ => exact Option.some.inj taken

abbrev CollectorTrace := List (CollectorState × CollectorLabel)

/-- The latencies that a step records on the connections of a protocol. -/
def latenciesAt (protocol : ConnectionType) (state : CollectorState) : CollectorLabel → List Nat
  | .operation (.record id (.recordLatency latency)) =>
      if (state.collector.connections.get? id).any (·.connectionType = protocol) then [latency]
      else []
  | _ => []

def recordedLatencies (protocol : ConnectionType) (trace : CollectorTrace) : List Nat :=
  trace.flatMap (fun entry => latenciesAt protocol entry.1 entry.2)

/-- The sample that a step pushes. -/
def samplesAt (state : CollectorState) : CollectorLabel → List LatencySample
  | .sampleLatency =>
      [⟨state.now, state.collector.latencyMean .tcp, state.collector.latencyMean .udp⟩]
  | _ => []

/-- What the records and the history hold after a run. -/
structure Remembers (trace : CollectorTrace) (state : CollectorState) : Prop where
  latencies : ∀ connection ∈ state.collector.connections.records,
    ∀ latency ∈ connection.latencies,
      latency ∈ recordedLatencies connection.connectionType trace
  history : state.collector.latencyHistory =
    trace.flatMap (fun entry => samplesAt entry.1 entry.2)

section Runs

variable {start : Nat} {trace : CollectorTrace} {state : CollectorState} {label : CollectorLabel}

theorem mem_recordedLatencies_snoc {protocol : ConnectionType} {latency : Nat}
    (earlier : latency ∈ recordedLatencies protocol trace) :
    latency ∈ recordedLatencies protocol (trace ++ [(state, label)]) := by
  rw [recordedLatencies, List.flatMap_append]
  exact List.mem_append_left _ earlier

/-- An operation leaves in the records only what was recorded. -/
theorem latencies_apply (remembers : Remembers trace state) (operation : Operation) :
    ∀ connection ∈
        (operation.apply state.now state.collector.toMetricsCollector).connections.records,
      ∀ latency ∈ connection.latencies,
        latency ∈ recordedLatencies connection.connectionType
          (trace ++ [(state, .operation operation)]) := by
  intro connection member latency inside
  have effect := operation.effect_apply state.now state.collector.toMetricsCollector
  generalize (operation.apply state.now state.collector.toMetricsCollector).connections = records
    at effect member
  have kept : ∀ old ∈ state.collector.connections.records, latency ∈ old.latencies →
      latency ∈ recordedLatencies old.connectionType (trace ++ [(state, .operation operation)]) :=
    fun old present here => mem_recordedLatencies_snoc (remembers.latencies old present latency here)
  cases effect with
  | @opens operation new opened =>
      rcases Table.mem_insert _ member with rfl | ⟨present, -⟩
      · -- A new record has no latencies.
        cases operation <;> simp [Operation.opened] at opened <;> subst opened <;> simp at inside
      · exact kept connection present inside
  | counts => exact kept connection member inside
  | @writes id call =>
      rcases Table.mem_modify _ _ member with ⟨old, present, same, rfl⟩ | ⟨present, -⟩
      · rw [call.change_connectionType]
        cases call with
        | recordLatency recorded =>
            rcases List.mem_append.mp inside with earlier | now
            · exact kept old present earlier
            · obtain rfl := List.mem_singleton.mp now
              have found := Table.get?_of_mem _ present
              rw [same] at found
              rw [recordedLatencies, List.flatMap_append]
              refine List.mem_append_right _ ?_
              simp [latenciesAt, found]
        | _ => exact kept old present inside
      · exact kept connection present inside

/-- One step remembers. -/
theorem Remembers.act (remembers : Remembers trace state) (label : CollectorLabel) :
    Remembers (trace ++ [(state, label)]) (state.act label) := by
  have kept : ∀ connection ∈ state.collector.connections.records,
      ∀ latency ∈ connection.latencies,
        latency ∈ recordedLatencies connection.connectionType (trace ++ [(state, label)]) :=
    fun connection member latency inside =>
      mem_recordedLatencies_snoc (remembers.latencies connection member latency inside)
  constructor
  · cases label with
    | operation operation => exact latencies_apply remembers operation
    | sampleThroughput =>
        simp only [CollectorState.act, SampledCollector.sampleThroughput]
        split
        · exact kept
        · exact kept
    | elapse | sampleLatency | sampleErrors => exact kept
  · rw [List.flatMap_append, ← remembers.history]
    cases label with
    | sampleThroughput =>
        simp only [CollectorState.act, SampledCollector.sampleThroughput]
        split <;> simp [samplesAt]
    | sampleLatency => simp [CollectorState.act, SampledCollector.sampleLatency, samplesAt]
    | elapse | operation | sampleErrors =>
        simp [CollectorState.act, SampledCollector.sampleErrors, samplesAt]

theorem remembers_of_run (run : observing.Run (startCollecting start) trace state) :
    Remembers trace state := by
  refine run.history Remembers ⟨?_, rfl⟩ ?_
  · intro connection member
    cases member
  · intro trace state label next _ remembers taken
    obtain rfl := Option.some.inj taken
    exact remembers.act label

end Runs

/-! ## Means in whole milliseconds -/

/-- `as_millis`. -/
def wholeMs (latency : Nat) : Nat := latency / 10 ^ 6

/-- The largest latency. -/
def longestMs (latencies : List Nat) : Nat := (latencies.map wholeMs).foldr max 0

theorem wholeMs_le_longestMs {latencies : List Nat} {latency : Nat} (member : latency ∈ latencies) :
    wholeMs latency ≤ longestMs latencies := by
  induction latencies with
  | nil => cases member
  | cons head latencies inductionHypothesis =>
      simp only [longestMs, List.map_cons, List.foldr_cons]
      rcases List.mem_cons.mp member with rfl | later
      · exact Nat.le_max_left _ _
      · exact (inductionHypothesis later).trans (Nat.le_max_right _ _)

theorem exists_longestMs {latencies : List Nat} (nonempty : latencies ≠ []) :
    ∃ latency ∈ latencies, wholeMs latency = longestMs latencies := by
  induction latencies with
  | nil => exact absurd rfl nonempty
  | cons head latencies inductionHypothesis =>
      simp only [longestMs, List.map_cons, List.foldr_cons]
      by_cases empty : latencies = []
      · exact ⟨head, List.mem_cons_self, by simp [empty]⟩
      · obtain ⟨latency, member, longest⟩ := inductionHypothesis empty
        rcases Nat.le_total (longestMs latencies) (wholeMs head) with le | le
        · exact ⟨head, List.mem_cons_self, (Nat.max_eq_left le).symm⟩
        · exact ⟨latency, List.mem_cons_of_mem head member, longest.trans (Nat.max_eq_right le).symm⟩

namespace ConnectionMetrics

variable (connection : ConnectionMetrics)

/-- What `sample_latency` computes for a connection. -/
def meanMs : Rat :=
  (connection.latencies.sum / 10 ^ 6 : Nat) / (connection.latencies.length : Rat)

/-- The whole milliseconds that the fractions of the latencies add up to. -/
def carriedMs : Nat := (connection.latencies.map (· % 10 ^ 6)).sum / 10 ^ 6

/-- By how much the latencies stay under a bound, together. -/
def shortfallMs (bound : Nat) : Nat :=
  (connection.latencies.map (fun latency => bound - wholeMs latency)).sum

end ConnectionMetrics

theorem sum_div_eq (latencies : List Nat) :
    latencies.sum / 10 ^ 6 =
      (latencies.map wholeMs).sum + (latencies.map (· % 10 ^ 6)).sum / 10 ^ 6 := by
  have split : latencies.sum =
      10 ^ 6 * (latencies.map wholeMs).sum + (latencies.map (· % 10 ^ 6)).sum := by
    induction latencies with
    | nil => rfl
    | cons head latencies inductionHypothesis =>
        simp only [List.sum_cons, List.map_cons, inductionHypothesis, wholeMs]
        omega
  rw [split, Nat.mul_add_div (by norm_num)]

theorem sum_shortfall (latencies : List Nat) {bound : Nat}
    (each : ∀ latency ∈ latencies, wholeMs latency ≤ bound) :
    (latencies.map (fun latency => bound - wholeMs latency)).sum + (latencies.map wholeMs).sum =
      latencies.length * bound := by
  induction latencies with
  | nil => simp
  | cons head latencies inductionHypothesis =>
      have here := each head List.mem_cons_self
      have rest := inductionHypothesis
        (fun latency member => each latency (List.mem_cons_of_mem head member))
      simp only [List.map_cons, List.sum_cons, List.length_cons, Nat.add_mul]
      omega

section Means

variable {connection : ConnectionMetrics} {bound : Nat}

/-- The mean of a connection exceeds a bound by what it carries less what its latencies
fall short. -/
theorem meanMs_add_shortfall (measured : connection.latencies ≠ [])
    (each : ∀ latency ∈ connection.latencies, wholeMs latency ≤ bound) :
    connection.meanMs + (connection.shortfallMs bound : Rat) / connection.latencies.length =
      bound + (connection.carriedMs : Rat) / connection.latencies.length := by
  have positive : (0 : Rat) < connection.latencies.length :=
    Nat.cast_pos.mpr (List.length_pos_iff.mpr measured)
  have total : ((connection.shortfallMs bound + (connection.latencies.map wholeMs).sum : Nat) :
      Rat) = (connection.latencies.length * bound : Nat) :=
    congrArg Nat.cast (sum_shortfall connection.latencies each)
  push_cast at total
  rw [ConnectionMetrics.meanMs, sum_div_eq, ← ConnectionMetrics.carriedMs]
  push_cast
  field_simp
  linarith

theorem le_meanMs (measured : connection.latencies ≠ [])
    (each : ∀ latency ∈ connection.latencies, bound ≤ wholeMs latency) :
    (bound : Rat) ≤ connection.meanMs := by
  have positive : (0 : Rat) < connection.latencies.length :=
    Nat.cast_pos.mpr (List.length_pos_iff.mpr measured)
  have total : connection.latencies.length * bound ≤ connection.latencies.sum / 10 ^ 6 := by
    have sum : connection.latencies.length * bound ≤ (connection.latencies.map wholeMs).sum := by
      rw [← List.length_map wholeMs]
      refine List.card_nsmul_le_sum _ _ (fun value member => ?_)
      obtain ⟨latency, inside, rfl⟩ := List.mem_map.mp member
      exact each latency inside
    rw [sum_div_eq]
    omega
  rw [ConnectionMetrics.meanMs, le_div_iff₀ positive, mul_comm]
  exact_mod_cast total

end Means

/-- The connections of a protocol that have a latency. -/
def MetricsCollector.measured (metrics : MetricsCollector) (protocol : ConnectionType) :
    List ConnectionMetrics :=
  metrics.connections.records.filter
    (fun connection => connection.connectionType = protocol ∧ connection.latencies ≠ [])

/-- The fractions of a protocol's latencies carry no more, on the average over its
connections, than the latencies fall short of a bound. -/
def MetricsCollector.CarriesWithin (metrics : MetricsCollector) (protocol : ConnectionType)
    (bound : Nat) : Prop :=
  ((metrics.measured protocol).map (fun connection =>
      (connection.carriedMs : Rat) / connection.latencies.length)).sum ≤
    ((metrics.measured protocol).map (fun connection =>
      (connection.shortfallMs bound : Rat) / connection.latencies.length)).sum

section Sample

variable {metrics : MetricsCollector} {protocol : ConnectionType} {bound : Nat}

theorem latencyMean_of_measured (some : metrics.measured protocol ≠ []) :
    metrics.latencyMean protocol =
      ((metrics.measured protocol).map ConnectionMetrics.meanMs).sum /
        ((metrics.measured protocol).map ConnectionMetrics.meanMs).length :=
  if_neg (List.map_eq_nil_iff.not.mpr some)

theorem latencyMean_of_unmeasured (none : metrics.measured protocol = []) :
    metrics.latencyMean protocol = 0 :=
  if_pos (List.map_eq_nil_iff.mpr none)

theorem latencies_ne_nil_of_measured {connection : ConnectionMetrics}
    (member : connection ∈ metrics.measured protocol) : connection.latencies ≠ [] := by
  have filtered := (List.mem_filter.mp member).2
  rw [decide_eq_true_eq] at filtered
  exact filtered.2

/-- A mean over connections exceeds no bound of the latencies exactly when it carries
within the bound. -/
theorem latencyMean_le_iff (some : metrics.measured protocol ≠ [])
    (each : ∀ connection ∈ metrics.measured protocol, ∀ latency ∈ connection.latencies,
      wholeMs latency ≤ bound) :
    metrics.latencyMean protocol ≤ bound ↔ metrics.CarriesWithin protocol bound := by
  have positive : (0 : Rat) < (metrics.measured protocol).length :=
    Nat.cast_pos.mpr (List.length_pos_iff.mpr some)
  have terms : ∀ connection ∈ metrics.measured protocol,
      connection.meanMs + (connection.shortfallMs bound : Rat) / connection.latencies.length =
        bound + (connection.carriedMs : Rat) / connection.latencies.length :=
    fun connection member =>
      meanMs_add_shortfall (latencies_ne_nil_of_measured member) (each connection member)
  have sums := congrArg List.sum (List.map_congr_left terms)
  rw [List.sum_map_add, List.sum_map_add, List.map_const', List.sum_replicate, nsmul_eq_mul] at sums
  rw [latencyMean_of_measured some, List.length_map, div_le_iff₀ positive,
    MetricsCollector.CarriesWithin]
  constructor <;> intro le <;> linarith

/-- A mean over connections is over every lower bound of the latencies. -/
theorem le_latencyMean (some : metrics.measured protocol ≠ [])
    (each : ∀ connection ∈ metrics.measured protocol, ∀ latency ∈ connection.latencies,
      bound ≤ wholeMs latency) :
    (bound : Rat) ≤ metrics.latencyMean protocol := by
  rw [latencyMean_of_measured some]
  refine le_sum_div_length (List.map_eq_nil_iff.not.mpr some) (fun value member => ?_)
  obtain ⟨connection, inside, rfl⟩ := List.mem_map.mp member
  exact le_meanMs (latencies_ne_nil_of_measured inside) (each connection inside)

end Sample

/-! ## The band -/

/-- A value in milliseconds lies between two of the latencies. -/
def Within (latencies : List Nat) (value : Rat) : Prop :=
  (∃ latency ∈ latencies, (wholeMs latency : Rat) ≤ value) ∧
    ∃ latency ∈ latencies, value ≤ wholeMs latency

theorem Within.of_between {latencies : List Nat} {low high value : Rat}
    (lowWithin : Within latencies low) (highWithin : Within latencies high) (above : low ≤ value)
    (below : value ≤ high) : Within latencies value := by
  obtain ⟨shorter, shorterMember, shorterLe⟩ := lowWithin.1
  obtain ⟨longer, longerMember, leLonger⟩ := highWithin.2
  exact ⟨⟨shorter, shorterMember, shorterLe.trans above⟩, longer, longerMember,
    below.trans leLonger⟩

def LatencyBand.fields (band : LatencyBand) : List Rat :=
  [band.minMs, band.p50Ms, band.p95Ms, band.p99Ms, band.maxMs, band.avgMs]

/-- Every field of a band lies between two of the latencies exactly when every value
does. -/
theorem fields_within_iff {latencies : List Nat} {values : List Rat} (nonempty : values ≠ []) :
    (∀ field ∈ (TestReport.latencyBandStats values).fields, Within latencies field) ↔
      ∀ value ∈ values, Within latencies value := by
  obtain ⟨minMember, maxMember⟩ := latencyBandStats_ends_mem nonempty
  have ordered := latencyBandStats_ordered nonempty
  constructor
  · intro fields value member
    obtain ⟨above, below⟩ := latencyBandStats_bounds nonempty member
    exact (fields _ (by simp [LatencyBand.fields])).of_between
      (fields _ (by simp [LatencyBand.fields])) above below
  · intro each field member
    have between : (TestReport.latencyBandStats values).minMs ≤ field ∧
        field ≤ (TestReport.latencyBandStats values).maxMs := by
      have first := ordered.min_le_p50
      have second := ordered.p50_le_p95
      have third := ordered.p95_le_p99
      have fourth := ordered.p99_le_max
      have average := ordered.min_le_avg
      have average' := ordered.avg_le_max
      simp only [LatencyBand.fields, List.mem_cons, List.not_mem_nil, or_false] at member
      rcases member with rfl | rfl | rfl | rfl | rfl | rfl <;> constructor <;> linarith
    exact (each _ minMember).of_between (each _ maxMember) between.1 between.2

/-- Zero lies between latencies when one of them is under a millisecond. -/
theorem within_zero_iff {latencies : List Nat} (nonempty : latencies ≠ []) :
    Within latencies 0 ↔ ∃ latency ∈ latencies, wholeMs latency = 0 := by
  obtain ⟨first, member⟩ := List.exists_mem_of_ne_nil latencies nonempty
  constructor
  · rintro ⟨⟨latency, inside, le⟩, -⟩
    exact ⟨latency, inside, Nat.le_zero.mp (by exact_mod_cast le)⟩
  · rintro ⟨latency, inside, zero⟩
    exact ⟨⟨latency, inside, by simp [zero]⟩, first, member, Nat.cast_nonneg _⟩

/-- What the recorded TCP latencies must be like for a sample of the state to lie among
them. -/
def CollectorState.SamplesWithin (latencies : List Nat) (state : CollectorState) : Prop :=
  (state.collector.measured .tcp = [] → ∃ latency ∈ latencies, wholeMs latency = 0) ∧
    state.collector.CarriesWithin .tcp (longestMs latencies)

theorem latencyMean_within_iff {latencies : List Nat} (nonempty : latencies ≠ [])
    {state : CollectorState}
    (held : ∀ connection ∈ state.collector.measured .tcp, ∀ latency ∈ connection.latencies,
      latency ∈ latencies) :
    Within latencies (state.collector.latencyMean .tcp) ↔ state.SamplesWithin latencies := by
  by_cases none : state.collector.measured .tcp = []
  · rw [latencyMean_of_unmeasured none, within_zero_iff nonempty]
    simp [CollectorState.SamplesWithin, MetricsCollector.CarriesWithin, none]
  · have bounded := latencyMean_le_iff none (fun connection member latency inside =>
      wholeMs_le_longestMs (held connection member latency inside))
    constructor
    · rintro ⟨-, longer, member, le⟩
      refine ⟨fun empty => absurd empty none, bounded.mp (le.trans ?_)⟩
      exact_mod_cast wholeMs_le_longestMs member
    · rintro ⟨-, carries⟩
      obtain ⟨longest, longestMember, longestSame⟩ := exists_longestMs nonempty
      obtain ⟨shortest, shortestMember, least⟩ :=
        latencies.toFinset.exists_min_image wholeMs (by simpa using nonempty)
      rw [List.mem_toFinset] at shortestMember
      refine ⟨⟨shortest, shortestMember, ?_⟩, longest, longestMember, ?_⟩
      · exact le_latencyMean none (fun connection member latency inside =>
          least latency (List.mem_toFinset.mpr (held connection member latency inside)))
      · rw [longestSame]
        exact bounded.mpr carries

section Reports

variable {start : Nat} {trace : CollectorTrace} {state : CollectorState}

/-- The latencies that a state of a run holds were recorded in the run. -/
theorem recorded_of_measured (run : observing.Run (startCollecting start) trace state)
    {entry : CollectorState × CollectorLabel} (member : entry ∈ trace) :
    ∀ connection ∈ entry.1.collector.measured .tcp, ∀ latency ∈ connection.latencies,
      latency ∈ recordedLatencies .tcp trace := by
  intro connection measured latency inside
  obtain ⟨before, part, earlier⟩ := run.before member
  obtain ⟨present, shape⟩ := List.mem_filter.mp measured
  rw [decide_eq_true_eq] at shape
  have recorded := (remembers_of_run earlier).latencies connection present latency inside
  rw [shape.1] at recorded
  obtain ⟨step, here, records⟩ := List.mem_flatMap.mp recorded
  exact List.mem_flatMap.mpr ⟨step, part here, records⟩

/-- A value of the history is the mean of a state in which a sample was taken. -/
theorem mem_history_iff (run : observing.Run (startCollecting start) trace state) {value : Rat} :
    value ∈ state.collector.latencyHistory.map LatencySample.tcpLatencyMs ↔
      ∃ entry ∈ trace, entry.2 = .sampleLatency ∧
        value = entry.1.collector.latencyMean .tcp := by
  rw [(remembers_of_run run).history]
  constructor
  · intro member
    obtain ⟨sample, pushed, rfl⟩ := List.mem_map.mp member
    obtain ⟨⟨earlier, label⟩, inside, here⟩ := List.mem_flatMap.mp pushed
    cases label <;> simp [samplesAt] at here
    subst here
    exact ⟨_, inside, rfl, rfl⟩
  · rintro ⟨⟨earlier, label⟩, inside, rfl, rfl⟩
    have pushed : ⟨earlier.now, earlier.collector.latencyMean .tcp,
        earlier.collector.latencyMean .udp⟩ ∈ samplesAt earlier .sampleLatency :=
      List.mem_singleton_self _
    exact List.mem_map.mpr ⟨_, List.mem_flatMap.mpr ⟨_, inside, pushed⟩, rfl⟩

/-- Without a sample the band is zero. -/
theorem fields_of_unsampled (run : observing.Run (startCollecting start) trace state)
    (includeRawData : Bool) (unsampled : ¬∃ entry ∈ trace, entry.2 = .sampleLatency) :
    (state.report includeRawData).latency.tcp.fields = [0, 0, 0, 0, 0, 0] := by
  have none : state.collector.latencyHistory.map LatencySample.tcpLatencyMs = [] := by
    rw [List.eq_nil_iff_forall_not_mem]
    intro value member
    obtain ⟨entry, inside, pushes, -⟩ := (mem_history_iff run).mp member
    exact unsampled ⟨entry, inside, pushes⟩
  show (TestReport.latencyBandStats _).fields = _
  rw [none]
  rfl

/-- When every field of the TCP band lies between recorded TCP latencies: each sample
was taken in a state whose latencies allow it, and some sample was taken unless a
latency is under a millisecond. -/
theorem latencies_real_iff (run : observing.Run (startCollecting start) trace state)
    (includeRawData : Bool) (nonempty : recordedLatencies .tcp trace ≠ []) :
    (∀ field ∈ (state.report includeRawData).latency.tcp.fields,
        Within (recordedLatencies .tcp trace) field) ↔
      ((∃ entry ∈ trace, entry.2 = .sampleLatency) ∨
          ∃ latency ∈ recordedLatencies .tcp trace, wholeMs latency = 0) ∧
        ∀ entry ∈ trace, entry.2 = .sampleLatency →
          entry.1.SamplesWithin (recordedLatencies .tcp trace) := by
  by_cases sampled : ∃ entry ∈ trace, entry.2 = .sampleLatency
  · obtain ⟨entry, member, pushes⟩ := sampled
    have some : state.collector.latencyHistory.map LatencySample.tcpLatencyMs ≠ [] :=
      List.ne_nil_of_mem ((mem_history_iff run).mpr ⟨entry, member, pushes, rfl⟩)
    rw [and_iff_right (Or.inl ⟨entry, member, pushes⟩)]
    refine (fields_within_iff some).trans ?_
    constructor
    · intro each other inside taken
      exact (latencyMean_within_iff nonempty (recorded_of_measured run inside)).mp
        (each _ ((mem_history_iff run).mpr ⟨other, inside, taken, rfl⟩))
    · intro each value here
      obtain ⟨other, inside, taken, rfl⟩ := (mem_history_iff run).mp here
      exact (latencyMean_within_iff nonempty (recorded_of_measured run inside)).mpr
        (each other inside taken)
  · rw [fields_of_unsampled run includeRawData sampled, or_iff_right sampled,
      ← within_zero_iff nonempty,
      and_iff_left (fun entry inside pushes => absurd ⟨entry, inside, pushes⟩ sampled)]
    simp

end Reports

instance (metrics : MetricsCollector) (protocol : ConnectionType) (bound : Nat) :
    Decidable (metrics.CarriesWithin protocol bound) :=
  inferInstanceAs (Decidable (_ ≤ _))

instance (latencies : List Nat) (state : CollectorState) :
    Decidable (state.SamplesWithin latencies) :=
  inferInstanceAs (Decidable (_ ∧ _))

/-- A latency of five milliseconds, then a sample. -/
def steadyLabels : List CollectorLabel :=
  [.operation (.startConnection ⟨1⟩ .tcp), .operation (.record ⟨1⟩ (.recordLatency 5000000)),
    .elapse 1000000000, .sampleLatency]

theorem latencies_real_iff_steady :
    ∃ trace state, observing.Run (startCollecting 0) trace state ∧
      recordedLatencies .tcp trace = [5000000] ∧
      ∀ field ∈ (state.report false).latency.tcp.fields,
        Within (recordedLatencies .tcp trace) field := by
  obtain ⟨state, played⟩ := Option.isSome_iff_exists.mp (show
    (observing.play (startCollecting 0) steadyLabels).isSome by decide +kernel)
  have recorded : recordedLatencies .tcp (observing.trace (startCollecting 0) steadyLabels) =
      [5000000] := by decide +kernel
  refine ⟨_, state, run_of_play played, recorded, (latencies_real_iff (run_of_play played) false
    (by rw [recorded]; exact List.cons_ne_nil _ _)).mpr ⟨Or.inl ?_, ?_⟩⟩
  · decide +kernel
  · rw [recorded]
    decide +kernel

/-- A sample before the first latency. -/
def earlyLabels : List CollectorLabel :=
  [.operation (.startConnection ⟨1⟩ .tcp), .sampleLatency,
    .operation (.record ⟨1⟩ (.recordLatency 5000000)), .elapse 1000000000, .sampleLatency]

/-- The smallest latency of the report is 0 ms where the only one took 5 ms. -/
theorem early_sample_reports_zero :
    ∃ trace state, observing.Run (startCollecting 0) trace state ∧
      recordedLatencies .tcp trace = [5000000] ∧
      (state.report false).latency.tcp.minMs = 0 ∧
      ¬Within (recordedLatencies .tcp trace) (state.report false).latency.tcp.minMs := by
  obtain ⟨state, played, history⟩ := Option.map_eq_some_iff.mp (show
    (observing.play (startCollecting 0) earlyLabels).map (fun state =>
      state.collector.latencyHistory.map LatencySample.tcpLatencyMs) = some [0, 5] by
        decide +kernel)
  have least : (state.report false).latency.tcp.minMs = 0 := by
    change (TestReport.latencyBandStats (state.collector.latencyHistory.map
      LatencySample.tcpLatencyMs)).minMs = 0
    rw [history]
    obtain ⟨member, -⟩ := latencyBandStats_ends_mem (List.cons_ne_nil (0 : Rat) [5])
    obtain ⟨below, -⟩ := latencyBandStats_bounds (List.cons_ne_nil (0 : Rat) [5])
      (List.mem_cons_self (a := (0 : Rat)))
    rcases List.mem_pair.mp member with zero | five
    · exact zero
    · rw [five] at below
      exact absurd below (by norm_num)
  have recorded : recordedLatencies .tcp (observing.trace (startCollecting 0) earlyLabels) =
      [5000000] := by decide +kernel
  refine ⟨_, state, run_of_play played, recorded, least, ?_⟩
  rw [least, recorded, within_zero_iff (List.cons_ne_nil _ _)]
  decide

end Npt.Shared
