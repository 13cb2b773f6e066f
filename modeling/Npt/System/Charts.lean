import Npt.Core.BoundedQueue
import Npt.Core.Observer
import Npt.Core.Plot
import Npt.Core.Throttle
import Npt.Shared.Sampling
import Npt.System.LogPanels

/-!
Contract: what both dashboards draw (`client/src/tui.rs` and `server/src/tui.rs`).

A dashboard reads the latest samples of the collector from time to time, keeps
the last points, and draws them in charts beside its gauges. Instants are
nanoseconds; `f64` values are exact rationals.

Owns: the points, gauges and charts, the order of time over runs of the
collector, and that no sample has a negative value.

Does not own: the loops that read the keys, colours, markers, axis labels, and
the header and the footer.
-/

namespace Npt.Shared

/-! ## What the dashboards read -/

namespace SampledCollector

variable (collector : SampledCollector)

/-- `get_latest_throughput`. The attempt without waiting that precedes it on the client
finds the same sample, or none. -/
def getLatestThroughput : Option ThroughputSample := collector.throughputHistory.getLast?

def getLatestLatency : Option LatencySample := collector.latencyHistory.getLast?

def getLatestErrors : Option ErrorSample := collector.errorHistory.getLast?

end SampledCollector

namespace MetricsCollector

variable (metrics : MetricsCollector)

/-- The open connections with an activity of a kind. -/
def activeTasks (kind : UserActivity → Bool) : Nat :=
  metrics.connections.records.countP
    (fun connection => connection.endTime.isNone && connection.userActivity.any kind)

def getActiveWebBrowsingTasks : Nat :=
  metrics.activeTasks (fun activity => match activity with
    | .webBrowsing _ _ => true
    | _ => false)

def getActiveFileDownloadTasks : Nat :=
  metrics.activeTasks (fun activity => match activity with
    | .fileDownload _ _ => true
    | _ => false)

def getActiveFileUploadTasks : Nat :=
  metrics.activeTasks (fun activity => match activity with
    | .fileUpload _ _ => true
    | _ => false)

def getActiveQuicWebBrowsingTasks : Nat :=
  metrics.activeTasks (fun activity => match activity with
    | .quicWebBrowsing _ _ _ => true
    | _ => false)

end MetricsCollector

end Npt.Shared

namespace Npt.System

open Npt.Core
open Npt.Shared

/-! ## Points -/

/-- `MAX_HISTORY_SIZE`. -/
@[irreducible] def maxHistorySize : Nat := 120

/-- `as_secs_f64`. -/
def seconds (nanos : Nat) : Rat := nanos / 10 ^ 9

def megabytes (bps : UInt64) : Rat := bps.toNat / 1000000

/-- An entry of `throughput_history`: a time in seconds, and megabytes a second. -/
structure ThroughputPoint where
  time : Rat
  tcpUpload : Rat
  tcpDownload : Rat
  udp : Rat
  quicUpload : Rat
  quicDownload : Rat
deriving DecidableEq, Repr

namespace ThroughputPoint

def ofSample (elapsed : Rat) (throughput : ThroughputSample) : ThroughputPoint where
  time := elapsed
  tcpUpload := megabytes throughput.bps.tcpUpload
  tcpDownload := megabytes throughput.bps.tcpDownload
  udp := megabytes (throughput.bps.udpUpload + throughput.bps.udpDownload)
  quicUpload := megabytes throughput.bps.quicUpload
  quicDownload := megabytes throughput.bps.quicDownload

/-- `upload + download + udp + quic_up + quic_down`. -/
def total (point : ThroughputPoint) : Rat :=
  point.tcpUpload + point.tcpDownload + point.udp + point.quicUpload + point.quicDownload

def quantities : List (ThroughputPoint → Rat) :=
  [tcpUpload, tcpDownload, udp, quicUpload, quicDownload]

end ThroughputPoint

def latencyPoint (elapsed : Rat) (latency : LatencySample) : Rat × Rat :=
  (elapsed, latency.tcpLatencyMs)

def ErrorSample.count (errors : ErrorSample) : UInt64 :=
  errors.tcpErrors + errors.udpErrors + errors.quicErrors

def errorPoint (elapsed : Rat) (errors : ErrorSample) : Rat × Rat :=
  (elapsed, (ErrorSample.count errors).toNat)

/-! ## Looks -/

/-- A key that came within the wait, and the entries of the shared log buffer. -/
structure Polled where
  key : Option KeyCode := none
  entries : List LogEntry := []
deriving DecidableEq, Repr

/-! ## Gauges -/

structure Gauge where
  title : String
  percent : UInt16
deriving DecidableEq, Repr

/-- A gauge whose percent is beyond 100 is a panic. -/
def Gauge.Shows (gauge : Gauge) : Prop := gauge.percent ≤ 100

/-- `f64 as u16`, for a value that is not negative. -/
def asU16 (value : Rat) : UInt16 := UInt16.ofNat (min ⌊value⌋₊ (2 ^ 16 - 1))

/-- `min(count * 100 / full, 100) as u16`. -/
def countPercent (full count : Nat) : UInt16 := UInt16.ofNat (min (count * 100 / full) 100)

def throughputPercent (latest : Option ThroughputSample) : UInt16 :=
  let currentMb : Rat :=
    match latest with
    | some tp =>
        megabytes (tp.bps.tcpUpload + tp.bps.tcpDownload + tp.bps.udpUpload +
          tp.bps.udpDownload + tp.bps.quicUpload + tp.bps.quicDownload)
    | none => 0
  min (asU16 currentMb) 100

/-- The count wraps at 65536 before it is cut off. -/
def errorPercent (latest : Option ErrorSample) : UInt16 :=
  let errorCount :=
    match latest with
    | some errors => ErrorSample.count errors
    | none => 0
  min errorCount.toUInt16 100

theorem countPercent_le (full count : Nat) : countPercent full count ≤ 100 := by
  rw [countPercent, UInt16.le_iff_toNat_le, UInt16.toNat_ofNat', Nat.mod_eq_of_lt (by omega)]
  exact Nat.min_le_right _ _

theorem min_hundred_le (value : UInt16) : min value 100 ≤ 100 := by
  show (if value ≤ 100 then value else 100) ≤ 100
  split
  · assumption
  · exact UInt16.le_refl 100

theorem throughputPercent_le (latest : Option ThroughputSample) : throughputPercent latest ≤ 100 :=
  min_hundred_le _

theorem errorPercent_le (latest : Option ErrorSample) : errorPercent latest ≤ 100 :=
  min_hundred_le _

/-! ## Charts -/

inductive ChartBody where
  | text (message : String)
  | plot (names : List String) (plot : Plot Rat)
deriving DecidableEq, Repr

structure Chart where
  title : String
  body : ChartBody
deriving DecidableEq, Repr

inductive SparklineBody where
  | text (message : String)
  | data (values : List Nat)
deriving DecidableEq, Repr

structure Sparkline where
  title : String
  body : SparklineBody
deriving DecidableEq, Repr

/-- Every point of the chart lies between its bounds. -/
def Chart.Fits (chart : Chart) : Prop :=
  match chart.body with
  | .text _ => True
  | .plot _ plot => plot.Fits

/-- The chart of a history, with a text where there is none. -/
def historyChart {Item : Type} (emptyTitle emptyText title : String) (names : List String)
    (time : Item → Rat) (quantities : List (Item → Rat)) (scale : Item → Rat)
    (history : List Item) : Chart :=
  if history.isEmpty then ⟨emptyTitle, .text emptyText⟩
  else ⟨title, .plot names (plotOf time quantities scale history)⟩

theorem historyChart_fits {Item : Type} {emptyTitle emptyText title : String}
    {names : List String} {time : Item → Rat} {quantities : List (Item → Rat)}
    {scale : Item → Rat} {history : List Item}
    (ordered : history.Pairwise (fun earlier later => time earlier ≤ time later))
    (scaled : ∀ quantity ∈ quantities, ∀ item ∈ history,
      0 ≤ quantity item ∧ quantity item ≤ scale item) :
    (historyChart emptyTitle emptyText title names time quantities scale history).Fits := by
  unfold historyChart
  split
  · trivial
  · exact plotOf_fits ordered scaled

/-! ## Samples over time -/

/-- No sample of the collector has a negative value. -/
def Sound (state : CollectorState) : Prop :=
  ∀ sample ∈ state.collector.latencyHistory, 0 ≤ sample.tcpLatencyMs

theorem latencyMean_nonneg (metrics : MetricsCollector) (protocol : ConnectionType) :
    0 ≤ metrics.latencyMean protocol := by
  unfold MetricsCollector.latencyMean
  dsimp only
  split
  · exact le_rfl
  · refine div_nonneg (List.sum_nonneg ?_) (Nat.cast_nonneg _)
    intro mean member
    obtain ⟨connection, _, rfl⟩ := List.mem_map.mp member
    exact div_nonneg (Nat.cast_nonneg _) (Nat.cast_nonneg _)

theorem sound_of_step {state next : CollectorState} {label : CollectorLabel} (sound : Sound state)
    (taken : collecting.step state label = some next) : Sound next := by
  cases label with
  | operation operation =>
      simp only [collecting, CollectorState.step] at taken
      split at taken
      · obtain rfl := Option.some.inj taken
        exact sound
      · simp at taken
  | elapse nanos | sampleErrors =>
      obtain rfl := Option.some.inj taken
      exact sound
  | sampleThroughput =>
      obtain rfl := Option.some.inj taken
      intro sample member
      refine sound sample ?_
      simp only [SampledCollector.sampleThroughput] at member
      split at member <;> exact member
  | sampleLatency =>
      obtain rfl := Option.some.inj taken
      intro sample member
      rcases List.mem_append.mp member with earlier | new
      · exact sound sample earlier
      · obtain rfl := List.mem_singleton.mp new
        exact latencyMean_nonneg _ _

theorem sound_of_reachable {birth : Nat} {state : CollectorState}
    (reachable : collecting.Reachable (startCollecting birth) state) : Sound state :=
  reachable.invariant Sound (fun sample member => by cases member)
    (fun _ _ _ sound taken => sound_of_step sound taken)

/-- The clock does not run backwards. -/
def NotLater (earlier later : CollectorState) : Prop := earlier.now ≤ later.now

instance : IsPreorder CollectorState NotLater where
  refl _ := Nat.le_refl _
  trans _ _ _ := Nat.le_trans

theorem notLater_of_step (state : CollectorState) (label : CollectorLabel) (next : CollectorState)
    (taken : collecting.step state label = some next) : NotLater state next := by
  cases label with
  | operation operation =>
      simp only [collecting, CollectorState.step] at taken
      split at taken
      · obtain rfl := Option.some.inj taken
        exact Nat.le_refl _
      · simp at taken
  | elapse nanos =>
      obtain rfl := Option.some.inj taken
      exact Nat.le_add_right _ _
  | sampleErrors | sampleThroughput | sampleLatency =>
      obtain rfl := Option.some.inj taken
      exact Nat.le_refl _

/-! ## Histories -/

section Histories

variable (begun : Nat) (updates : List CollectorState)

/-- The point that an update adds, from the time since the start. -/
def pointAt {Sample Point : Type} (latest : SampledCollector → Option Sample)
    (point : Rat → Sample → Point) (begun : Nat) (world : CollectorState) : Option Point :=
  (latest world.collector).map (point (seconds (world.now - begun)))

/-- The last points that the updates have added. -/
def historyOf {Sample Point : Type} (latest : SampledCollector → Option Sample)
    (point : Rat → Sample → Point) : List Point :=
  (updates.filterMap (pointAt latest point begun)).rtake maxHistorySize

def throughputHistoryOf : List ThroughputPoint :=
  historyOf begun updates SampledCollector.getLatestThroughput ThroughputPoint.ofSample

def latencyHistoryOf : List (Rat × Rat) :=
  historyOf begun updates SampledCollector.getLatestLatency latencyPoint

def errorHistoryOf : List (Rat × Rat) :=
  historyOf begun updates SampledCollector.getLatestErrors errorPoint


variable {begun updates} {Sample Point : Type} {latest : SampledCollector → Option Sample}
  {point : Rat → Sample → Point}

theorem historyOf_nil (begun : Nat) : historyOf begun [] latest point = [] := by
  rw [historyOf, List.filterMap_nil, List.rtake_nil]

/-- An update adds at most one point, and the oldest goes. -/
theorem historyOf_snoc (world : CollectorState) :
    historyOf begun (updates ++ [world]) latest point =
      trim maxHistorySize (historyOf begun updates latest point ++
        (pointAt latest point begun world).toList) := by
  rw [historyOf, historyOf, trim_rtake_append, List.filterMap_append]
  cases added : pointAt latest point begun world <;> simp [added]

theorem exists_of_mem_historyOf {item : Point}
    (member : item ∈ historyOf begun updates latest point) :
    ∃ world ∈ updates, ∃ sample, latest world.collector = some sample ∧
      item = point (seconds (world.now - begun)) sample := by
  have inside := List.mem_of_mem_drop member
  obtain ⟨world, listed, added⟩ := List.mem_filterMap.mp inside
  obtain ⟨sample, read, rfl⟩ := Option.map_eq_some_iff.mp added
  exact ⟨world, listed, sample, read, rfl⟩

theorem seconds_le {left right : Nat} (le : left ≤ right) : seconds left ≤ seconds right := by
  unfold seconds
  gcongr

/-- The points are in the order of the updates. -/
theorem historyOf_ordered {time : Point → Rat} (timeOf : ∀ elapsed sample,
      time (point elapsed sample) = elapsed) (ordered : updates.Pairwise NotLater) :
    (historyOf begun updates latest point).Pairwise
      (fun earlier later => time earlier ≤ time later) := by
  refine List.Pairwise.sublist (List.drop_sublist _ _) ?_
  rw [List.pairwise_filterMap]
  refine ordered.imp (fun {earlier later} before first added second follows => ?_)
  obtain ⟨_, _, rfl⟩ := Option.map_eq_some_iff.mp added
  obtain ⟨_, _, rfl⟩ := Option.map_eq_some_iff.mp follows
  rw [timeOf, timeOf]
  exact seconds_le (Nat.sub_le_sub_right before begun)

end Histories

/-! ## Charts of histories -/

section Fits

variable {begun : Nat} {updates : List CollectorState}

theorem megabytes_nonneg (bps : UInt64) : 0 ≤ megabytes bps :=
  div_nonneg (Nat.cast_nonneg _) (by norm_num)

theorem throughput_scaled (history : List ThroughputPoint)
    (sampled : ∀ item ∈ history, ∃ elapsed sample, item = .ofSample elapsed sample) :
    ∀ quantity ∈ ThroughputPoint.quantities, ∀ item ∈ history,
      0 ≤ quantity item ∧ quantity item ≤ item.total := by
  intro quantity listed item member
  obtain ⟨elapsed, sample, rfl⟩ := sampled item member
  have tcpUpload := megabytes_nonneg sample.bps.tcpUpload
  have tcpDownload := megabytes_nonneg sample.bps.tcpDownload
  have udp := megabytes_nonneg (sample.bps.udpUpload + sample.bps.udpDownload)
  have quicUpload := megabytes_nonneg sample.bps.quicUpload
  have quicDownload := megabytes_nonneg sample.bps.quicDownload
  simp only [ThroughputPoint.quantities, List.mem_cons, List.not_mem_nil, or_false] at listed
  rcases listed with rfl | rfl | rfl | rfl | rfl <;>
    (simp only [ThroughputPoint.total, ThroughputPoint.ofSample]; constructor <;> linarith)

variable {emptyTitle emptyText title : String} {names : List String}

theorem throughputChart_fits (ordered : updates.Pairwise NotLater) :
    (historyChart emptyTitle emptyText title names ThroughputPoint.time
      ThroughputPoint.quantities ThroughputPoint.total (throughputHistoryOf begun updates)).Fits := by
  have inOrder : (throughputHistoryOf begun updates).Pairwise
      (fun earlier later => earlier.time ≤ later.time) :=
    historyOf_ordered (fun _ _ => rfl) ordered
  refine historyChart_fits ?_ ?_
  · exact inOrder
  · refine throughput_scaled _ (fun item member => ?_)
    obtain ⟨world, _, sample, _, made⟩ := exists_of_mem_historyOf member
    exact ⟨_, sample, made⟩

theorem latencyChart_fits (ordered : updates.Pairwise NotLater)
    (sound : ∀ world ∈ updates, Sound world) :
    (historyChart emptyTitle emptyText title names Prod.fst [Prod.snd] Prod.snd
      (latencyHistoryOf begun updates)).Fits := by
  have inOrder : (latencyHistoryOf begun updates).Pairwise
      (fun earlier later => earlier.1 ≤ later.1) :=
    historyOf_ordered (fun _ _ => rfl) ordered
  refine historyChart_fits ?_ ?_
  · exact inOrder
  · intro quantity listed item member
    obtain rfl := List.mem_singleton.mp listed
    obtain ⟨world, inside, sample, read, rfl⟩ := exists_of_mem_historyOf member
    exact ⟨sound world inside sample (List.mem_of_getLast? read), le_rfl⟩

theorem errorChart_fits (ordered : updates.Pairwise NotLater) :
    (historyChart emptyTitle emptyText title names Prod.fst [Prod.snd] Prod.snd
      (errorHistoryOf begun updates)).Fits := by
  have inOrder : (errorHistoryOf begun updates).Pairwise
      (fun earlier later => earlier.1 ≤ later.1) :=
    historyOf_ordered (fun _ _ => rfl) ordered
  refine historyChart_fits ?_ ?_
  · exact inOrder
  · intro quantity listed item member
    obtain rfl := List.mem_singleton.mp listed
    obtain ⟨world, _, sample, _, rfl⟩ := exists_of_mem_historyOf member
    exact ⟨Nat.cast_nonneg _, le_rfl⟩

/-- The plot of points alone. -/
theorem plotOf_pairs (history : List (Rat × Rat)) :
    plotOf Prod.fst [Prod.snd] Prod.snd history =
      { series := [history], xBounds := axisRange (history.map Prod.fst),
        yBounds := (0, axisMax (history.map Prod.snd)) } := by
  simp [plotOf]

end Fits

end Npt.System
