import Npt.System.Charts

/-!
Contract: the client's dashboard over the collector (`client/src/tui.rs`).

The loop waits for a key for a short time, updates its histories when an
interval has passed, and draws when something has changed. The charts are drawn
from datasets that an update caches, their axes in part from the histories.

Owns: the update with its cache, the loop as an observer of the collector, that
the cached datasets are those of the histories, and what is on the screen.

Does not own: the collector, or how the terminal shows a frame. A look of the
loop takes no time but for its wait.
-/

namespace Npt.System

open Npt.Core
open Npt.Shared

structure CachedChartData where
  tcpUploadData : List (Rat × Rat)
  tcpDownloadData : List (Rat × Rat)
  udpData : List (Rat × Rat)
  quicUploadData : List (Rat × Rat)
  quicDownloadData : List (Rat × Rat)
  latencyData : List (Rat × Rat)
  errorData : List (Rat × Rat)
  connectionData : List Nat
  lastUpdate : Nat
deriving DecidableEq, Repr

/-- `ClientTui` with its histories. -/
structure ClientDashboard extends ClientTui where
  throughputHistory : List ThroughputPoint := []
  latencyHistory : List (Rat × Rat) := []
  errorHistory : List (Rat × Rat) := []
  startTime : Nat
  cachedDatasets : Option CachedChartData := none
  lastMetricsUpdate : Nat
deriving DecidableEq, Repr

/-- What the client draws between its header and its footer. -/
structure ClientFrame where
  gauges : List Gauge
  throughput : Chart
  connections : Sparkline
  latency : Chart
  errors : Chart
  logs : Option LogPanel
deriving DecidableEq, Repr

namespace ClientDashboard

/-- `ClientTui::new`. -/
def new (now : Nat) (logBuffer : LogBuffer) : ClientDashboard where
  logBuffer := logBuffer
  startTime := now
  lastMetricsUpdate := now

/-! ## The update -/

def getOrUpdateCachedDatasets (metrics : SampledCollector) (now : Nat) (tui : ClientDashboard) :
    ClientDashboard :=
  let shouldUpdate := tui.cachedDatasets.isNone ||
    tui.cachedDatasets.all (fun cache => decide (2000 * 10 ^ 6 < now - cache.lastUpdate))
  if shouldUpdate then
    { tui with
      cachedDatasets := some {
        tcpUploadData := tui.throughputHistory.map (fun point => (point.time, point.tcpUpload))
        tcpDownloadData := tui.throughputHistory.map (fun point => (point.time, point.tcpDownload))
        udpData := tui.throughputHistory.map (fun point => (point.time, point.udp))
        quicUploadData := tui.throughputHistory.map (fun point => (point.time, point.quicUpload))
        quicDownloadData :=
          tui.throughputHistory.map (fun point => (point.time, point.quicDownload))
        latencyData := tui.latencyHistory
        errorData := tui.errorHistory
        connectionData := (List.range tui.throughputHistory.length).map (fun _ =>
          metrics.getActiveTcpConnections + metrics.getActiveUdpConnections +
            metrics.getActiveQuicConnections)
        lastUpdate := now } }
  else tui

def updateMetrics (metrics : SampledCollector) (now : Nat) (tui : ClientDashboard) :
    ClientDashboard :=
  let elapsed := seconds (now - tui.startTime)
  let throughput := metrics.getLatestThroughput
  let latency := metrics.getLatestLatency
  let errors := metrics.getLatestErrors
  let throughputHistory :=
    tui.throughputHistory ++ (throughput.map (ThroughputPoint.ofSample elapsed)).toList
  let latencyHistory := tui.latencyHistory ++ (latency.map (latencyPoint elapsed)).toList
  let errorHistory := tui.errorHistory ++ (errors.map (errorPoint elapsed)).toList
  let dataChanged := throughput.isSome || latency.isSome || errors.isSome ||
    decide (maxHistorySize < throughputHistory.length) ||
    decide (maxHistorySize < latencyHistory.length) ||
    decide (maxHistorySize < errorHistory.length)
  let trimmed := { tui with
    throughputHistory := trim maxHistorySize throughputHistory
    latencyHistory := trim maxHistorySize latencyHistory
    errorHistory := trim maxHistorySize errorHistory }
  if dataChanged then
    { trimmed with
      cachedDatasets := none
      lastMetricsUpdate := now }.getOrUpdateCachedDatasets metrics now
  else trimmed

/-! ## Rendering -/

def throughputTitle : String := "Throughput (MB) | •TCP ▀UDP ▄QUIC"

def throughputNames : List String :=
  ["TCP Upload", "TCP Download", "UDP", "QUIC Upload", "QUIC Download"]

/-- `render_connection_stats`. -/
def renderConnectionStats (metrics : SampledCollector) : List Gauge :=
  [⟨"TCP网页浏览 •", countPercent 50 metrics.getActiveWebBrowsingTasks⟩,
    ⟨"QUIC网页浏览 ▄", countPercent 50 metrics.getActiveQuicWebBrowsingTasks⟩,
    ⟨"文件下载 ▀", countPercent 50 metrics.getActiveFileDownloadTasks⟩,
    ⟨"文件上传 ▀", countPercent 50 metrics.getActiveFileUploadTasks⟩,
    ⟨"Current Throughput", throughputPercent metrics.getLatestThroughput⟩,
    ⟨"Total Errors", errorPercent metrics.getLatestErrors⟩]

variable (tui : ClientDashboard)

def renderThroughputChart : Chart :=
  if tui.throughputHistory.isEmpty then
    ⟨"Throughput (MB)", .text "No throughput data available"⟩
  else
    match tui.cachedDatasets with
    | none => ⟨"Throughput (MB)", .text "Loading chart data..."⟩
    | some data =>
        ⟨throughputTitle, .plot throughputNames {
          series := [data.tcpUploadData, data.tcpDownloadData, data.udpData, data.quicUploadData,
            data.quicDownloadData]
          xBounds := axisRange (tui.throughputHistory.map ThroughputPoint.time)
          yBounds := (0, axisMax (tui.throughputHistory.map ThroughputPoint.total)) }⟩

def renderLatencyChart : Chart :=
  if tui.latencyHistory.isEmpty then ⟨"Latency (ms)", .text "No latency data available"⟩
  else
    match tui.cachedDatasets with
    | none => ⟨"Latency (ms)", .text "Loading latency data..."⟩
    | some data =>
        ⟨"Latency (ms)", .plot ["Latency"] {
          series := [data.latencyData]
          xBounds := axisRange (data.latencyData.map Prod.fst)
          yBounds := (0, axisMax (data.latencyData.map Prod.snd)) }⟩

def renderErrorChart : Chart :=
  if tui.errorHistory.isEmpty then ⟨"Errors", .text "No error data available"⟩
  else
    match tui.cachedDatasets with
    | none => ⟨"Errors", .text "Loading error data..."⟩
    | some data =>
        ⟨"Cumulative Errors", .plot ["Errors"] {
          series := [data.errorData]
          xBounds := axisRange (data.errorData.map Prod.fst)
          yBounds := (0, axisMax (data.errorData.map Prod.snd)) }⟩

def renderConnectionSparkline (metrics : SampledCollector) : Sparkline :=
  match tui.cachedDatasets with
  | none => ⟨"Connection History", .text "Loading connection data..."⟩
  | some data =>
      if data.connectionData.isEmpty then ⟨"Connection History", .text "No connection data"⟩
      else
        ⟨s!"Connections | TCP:{metrics.getActiveTcpConnections} UDP:{metrics.getActiveUdpConnections} QUIC:{metrics.getActiveQuicConnections}",
          .data data.connectionData⟩

/-- `render_ui_immutable`. -/
def renderUi (timeText : Nat → String) (metrics : SampledCollector) : ClientFrame where
  gauges := renderConnectionStats metrics
  throughput := tui.renderThroughputChart
  connections := tui.renderConnectionSparkline metrics
  latency := tui.renderLatencyChart
  errors := tui.renderErrorChart
  logs := if tui.showLogs then some (tui.renderLogs timeText) else none

end ClientDashboard

/-! ## The loop -/

/-- `ClientTui::run` with its local variables. -/
structure ClientLoop where
  tui : ClientDashboard
  lastRender : Nat
  lastMetricsUpdate : Nat
  /-- The frame drawn last. -/
  screen : Option ClientFrame := none
deriving DecidableEq, Repr

namespace ClientLoop

def new (now : Nat) (logBuffer : LogBuffer) : ClientLoop where
  tui := .new now logBuffer
  lastRender := now
  lastMetricsUpdate := now

/-- The key of a look is handled. -/
def poll (polled : Polled) (tui : ClientDashboard) : ClientDashboard :=
  let shared := { tui with logBuffer.entries := polled.entries }
  match polled.key with
  | some key => { shared with toClientTui := shared.toClientTui.handleKey key }
  | none => shared

/-- `metrics_update_rate`. -/
@[irreducible] def metricsUpdateRate : Nat := 100 * 10 ^ 6

@[irreducible] def renderRate : Nat := 1000 * 10 ^ 6

/-- The metrics are updated when the interval has passed. -/
def update (world : CollectorState) (loop : ClientLoop) : ClientLoop :=
  if metricsUpdateRate ≤ world.now - loop.lastMetricsUpdate then
    { loop with
      tui := { loop.tui.updateMetrics world.collector world.now with forceRender := true }
      lastMetricsUpdate := world.now }
  else loop

/-- A frame is drawn. -/
def render (timeText : Nat → String) (world : CollectorState) (loop : ClientLoop) : ClientLoop :=
  if loop.tui.forceRender ∨ renderRate ≤ world.now - loop.lastRender then
    { loop with
      screen := some (loop.tui.renderUi timeText world.collector)
      lastRender := world.now
      tui := { loop.tui with forceRender := false } }
  else loop

/-- One round of the loop, from the end of its wait. -/
def look (timeText : Nat → String) (world : CollectorState) (polled : Polled)
    (loop : ClientLoop) : Option ClientLoop :=
  if loop.tui.shouldQuit then none
  else
    let polling := { loop with tui := poll polled loop.tui }
    if polling.tui.shouldQuit then some polling
    else some ((polling.update world).render timeText world)

end ClientLoop

/-- The client's loop as an observer. -/
def clientObserver (timeText : Nat → String) : Observer CollectorState Polled ClientLoop :=
  ⟨ClientLoop.look timeText⟩

/-! ## The histories -/

/-- The looks that do not end the loop. -/
def goesOn (seen : CollectorState × Polled) : Bool :=
  seen.2.key.all (fun key => key ≠ .char 'q' && key ≠ .esc)

/-- The looks of the loop at which the metrics are updated. -/
def clientUpdates (begun : Nat) (seen : List (CollectorState × Polled)) : List CollectorState :=
  (throttled ClientLoop.metricsUpdateRate (fun look => look.1.now) begun
    (seen.filter goesOn)).map Prod.fst

/-! ## The cache -/

namespace ClientDashboard

/-- The cached datasets are those of the histories, and there are some once there is a
point. The connections of the last update stand for all of its points. -/
structure Coherent (tui : ClientDashboard) : Prop where
  empty : tui.cachedDatasets = none →
    tui.throughputHistory = [] ∧ tui.latencyHistory = [] ∧ tui.errorHistory = []
  filled : ∀ data, tui.cachedDatasets = some data →
    [data.tcpUploadData, data.tcpDownloadData, data.udpData, data.quicUploadData,
        data.quicDownloadData] = ThroughputPoint.quantities.map (fun quantity =>
          tui.throughputHistory.map (fun point => (point.time, quantity point))) ∧
      data.latencyData = tui.latencyHistory ∧ data.errorData = tui.errorHistory ∧
      ∃ connections, data.connectionData =
        List.replicate tui.throughputHistory.length connections

/-- The fields that the charts are drawn from. -/
structure SameCharts (tui other : ClientDashboard) : Prop where
  throughput : other.throughputHistory = tui.throughputHistory
  latency : other.latencyHistory = tui.latencyHistory
  errors : other.errorHistory = tui.errorHistory
  cached : other.cachedDatasets = tui.cachedDatasets
  start : other.startTime = tui.startTime

variable {tui other : ClientDashboard} {metrics : SampledCollector} {now : Nat}

theorem Coherent.congr (coherent : tui.Coherent) (same : SameCharts tui other) :
    other.Coherent := by
  constructor
  · rw [same.cached, same.throughput, same.latency, same.errors]
    exact coherent.empty
  · rw [same.cached, same.throughput, same.latency, same.errors]
    exact coherent.filled

/-- What an update leaves. -/
structure Updated (metrics : SampledCollector) (now : Nat) (tui next : ClientDashboard) :
    Prop where
  throughput : next.throughputHistory = trim maxHistorySize (tui.throughputHistory ++
    (metrics.getLatestThroughput.map
      (ThroughputPoint.ofSample (seconds (now - tui.startTime)))).toList)
  latency : next.latencyHistory = trim maxHistorySize (tui.latencyHistory ++
    (metrics.getLatestLatency.map (latencyPoint (seconds (now - tui.startTime)))).toList)
  errors : next.errorHistory = trim maxHistorySize (tui.errorHistory ++
    (metrics.getLatestErrors.map (errorPoint (seconds (now - tui.startTime)))).toList)
  start : next.startTime = tui.startTime
  quit : next.shouldQuit = tui.shouldQuit

theorem updated_updateMetrics : Updated metrics now tui (tui.updateMetrics metrics now) := by
  unfold updateMetrics
  dsimp only
  split
  · unfold getOrUpdateCachedDatasets
    exact ⟨rfl, rfl, rfl, rfl, rfl⟩
  · exact ⟨rfl, rfl, rfl, rfl, rfl⟩

theorem coherent_refilled (none : tui.cachedDatasets = none) :
    (tui.getOrUpdateCachedDatasets metrics now).Coherent := by
  unfold getOrUpdateCachedDatasets
  simp only [none, Option.isNone_none, Bool.true_or, if_true]
  refine ⟨by simp, ?_⟩
  rintro data filled
  obtain rfl := Option.some.inj filled
  refine ⟨rfl, rfl, rfl, metrics.getActiveTcpConnections + metrics.getActiveUdpConnections +
    metrics.getActiveQuicConnections, ?_⟩
  simp [List.map_const']

/-- The update keeps the cache coherent, whether it refills it or not. -/
theorem coherent_updateMetrics (coherent : tui.Coherent) :
    (tui.updateMetrics metrics now).Coherent := by
  unfold updateMetrics
  dsimp only
  split
  · exact coherent_refilled rfl
  · rename_i unchanged
    simp only [Bool.or_eq_true, decide_eq_true_eq, not_or, Bool.not_eq_true,
      Option.isSome_eq_false_iff, Option.isNone_iff_eq_none] at unchanged
    obtain ⟨⟨⟨⟨⟨throughput, latency⟩, errors⟩, short⟩, shortLatency⟩, shortErrors⟩ := unchanged
    refine coherent.congr ⟨?_, ?_, ?_, rfl, rfl⟩ <;>
      simp_all [trim]

/-! ## The charts of coherent histories -/

/-- The chart that the histories give without a cache. -/
def plainThroughputChart (history : List ThroughputPoint) : Chart :=
  historyChart "Throughput (MB)" "No throughput data available" throughputTitle throughputNames
    ThroughputPoint.time ThroughputPoint.quantities ThroughputPoint.total history

def plainLatencyChart (history : List (Rat × Rat)) : Chart :=
  historyChart "Latency (ms)" "No latency data available" "Latency (ms)" ["Latency"]
    Prod.fst [Prod.snd] Prod.snd history

def plainErrorChart (history : List (Rat × Rat)) : Chart :=
  historyChart "Errors" "No error data available" "Cumulative Errors" ["Errors"]
    Prod.fst [Prod.snd] Prod.snd history

section Coherent

variable (coherent : tui.Coherent)

include coherent

theorem renderThroughputChart_eq :
    tui.renderThroughputChart = plainThroughputChart tui.throughputHistory := by
  unfold renderThroughputChart plainThroughputChart historyChart
  split
  · rfl
  · rename_i some
    cases cached : tui.cachedDatasets with
    | none => simp [(coherent.empty cached).1] at some
    | some data =>
        have columns := (coherent.filled data cached).1
        simp only [columns]
        rfl

theorem renderLatencyChart_eq :
    tui.renderLatencyChart = plainLatencyChart tui.latencyHistory := by
  unfold renderLatencyChart plainLatencyChart historyChart
  split
  · rfl
  · rename_i some
    cases cached : tui.cachedDatasets with
    | none => simp [(coherent.empty cached).2.1] at some
    | some data =>
        have column := (coherent.filled data cached).2.1
        simp only [column, plotOf_pairs]

theorem renderErrorChart_eq : tui.renderErrorChart = plainErrorChart tui.errorHistory := by
  unfold renderErrorChart plainErrorChart historyChart
  split
  · rfl
  · rename_i some
    cases cached : tui.cachedDatasets with
    | none => simp [(coherent.empty cached).2.2] at some
    | some data =>
        have column := (coherent.filled data cached).2.2.1
        simp only [column, plotOf_pairs]

end Coherent

/-- The charts of a frame are those of the histories, and its gauges can be drawn. -/
structure Shows (tui : ClientDashboard) (frame : ClientFrame) : Prop where
  throughput : frame.throughput = plainThroughputChart tui.throughputHistory
  latency : frame.latency = plainLatencyChart tui.latencyHistory
  errors : frame.errors = plainErrorChart tui.errorHistory
  gauges : ∀ gauge ∈ frame.gauges, gauge.Shows

theorem shows_renderUi (coherent : tui.Coherent) (timeText : Nat → String) :
    tui.Shows (tui.renderUi timeText metrics) := by
  refine ⟨renderThroughputChart_eq coherent, renderLatencyChart_eq coherent,
    renderErrorChart_eq coherent, ?_⟩
  intro gauge member
  simp only [renderUi, renderConnectionStats, List.mem_cons, List.not_mem_nil, or_false] at member
  rcases member with rfl | rfl | rfl | rfl | rfl | rfl
  · exact countPercent_le _ _
  · exact countPercent_le _ _
  · exact countPercent_le _ _
  · exact countPercent_le _ _
  · exact throughputPercent_le _
  · exact errorPercent_le _

theorem Shows.congr {frame : ClientFrame} (shown : tui.Shows frame) (same : SameCharts tui other) :
    other.Shows frame :=
  ⟨same.throughput ▸ shown.throughput, same.latency ▸ shown.latency,
    same.errors ▸ shown.errors, shown.gauges⟩

end ClientDashboard

/-! ## The loop keeps its screen up to date -/

namespace ClientLoop

open ClientDashboard

variable {begun : Nat} {seen : List (CollectorState × Polled)} {loop next : ClientLoop}
  {world : CollectorState} {polled : Polled} {timeText : Nat → String} {tui : ClientDashboard}

theorem sameCharts_poll : SameCharts tui (poll polled tui) := by
  unfold poll
  dsimp only
  split <;> exact ⟨rfl, rfl, rfl, rfl, rfl⟩

theorem shouldQuit_handleKey (tui : ClientTui) (key : KeyCode) :
    (tui.handleKey key).shouldQuit = (tui.shouldQuit || !(key ≠ .char 'q' && key ≠ .esc)) := by
  unfold ClientTui.handleKey
  split
  · simp
  · simp
  · simp
  · simp
  · split <;> simp
  · dsimp only
    split
    · split <;> simp
    · simp
  · rename_i c notQ notL notUpper
    simp [show c ≠ 'q' from notQ]
  · simp

theorem shouldQuit_poll :
    (poll polled tui).shouldQuit = (tui.shouldQuit || !goesOn (world, polled)) := by
  unfold poll goesOn
  cases pressed : polled.key with
  | none => simp
  | some key =>
      simp only [Option.all_some]
      exact shouldQuit_handleKey _ key

/-- The loop after some looks: its histories are those of the updates, and its cache is
theirs. -/
structure Current (begun : Nat) (seen : List (CollectorState × Polled)) (loop : ClientLoop) :
    Prop where
  started : loop.tui.startTime = begun
  last : loop.lastMetricsUpdate =
    lastPassed metricsUpdateRate (fun look => look.1.now) begun (seen.filter goesOn)
  throughput : loop.tui.throughputHistory = throughputHistoryOf begun (clientUpdates begun seen)
  latency : loop.tui.latencyHistory = latencyHistoryOf begun (clientUpdates begun seen)
  errors : loop.tui.errorHistory = errorHistoryOf begun (clientUpdates begun seen)
  coherent : loop.tui.Coherent
  sound : ∀ look ∈ seen, Sound look.1

/-- The screen shows the histories. -/
structure Kept (begun : Nat) (seen : List (CollectorState × Polled)) (loop : ClientLoop) : Prop
    extends Current begun seen loop where
  screen : ∀ frame, loop.screen = some frame → loop.tui.Shows frame

theorem clientUpdates_snoc (goes : goesOn (world, polled) = true) :
    clientUpdates begun (seen ++ [(world, polled)]) = clientUpdates begun seen ++
      if metricsUpdateRate ≤ world.now -
          lastPassed metricsUpdateRate (fun look => look.1.now) begun (seen.filter goesOn) then
        [world]
      else [] := by
  unfold clientUpdates
  rw [List.filter_append, List.filter_singleton, goes, cond_true, throttled_snoc, List.map_append]
  split <;> rfl

theorem clientUpdates_quit (quits : goesOn (world, polled) = false) :
    clientUpdates begun (seen ++ [(world, polled)]) = clientUpdates begun seen := by
  unfold clientUpdates
  rw [List.filter_append, List.filter_singleton, quits, cond_false, List.append_nil]

/-- Drawing brings the screen up to date, and is left out only where it is. -/
theorem kept_render (current : Current begun seen loop)
    (screen : loop.tui.forceRender = false →
      ∀ frame, loop.screen = some frame → loop.tui.Shows frame) :
    Kept begun seen (loop.render timeText world) := by
  unfold render
  split
  · have same : SameCharts loop.tui { loop.tui with forceRender := false } :=
      ⟨rfl, rfl, rfl, rfl, rfl⟩
    refine ⟨⟨current.started, current.last, current.throughput, current.latency, current.errors,
      current.coherent.congr same, current.sound⟩, ?_⟩
    intro frame drawn
    obtain rfl := Option.some.inj drawn
    exact (shows_renderUi current.coherent timeText).congr same
  · rename_i idle
    rw [not_or, Bool.not_eq_true] at idle
    exact ⟨current, screen idle.1⟩

/-- A look that ends the loop. -/
theorem current_quit (current : Current begun seen loop) (here : Sound world)
    (same : SameCharts loop.tui tui) (quits : goesOn (world, polled) = false) :
    Current begun (seen ++ [(world, polled)]) { loop with tui := tui } := by
  have updates := @clientUpdates_quit begun seen world polled quits
  refine ⟨same.start.trans current.started, ?_, ?_, ?_, ?_, current.coherent.congr same, ?_⟩
  · rw [List.filter_append, List.filter_singleton, quits, cond_false, List.append_nil]
    exact current.last
  · rw [updates]
    exact same.throughput.trans current.throughput
  · rw [updates]
    exact same.latency.trans current.latency
  · rw [updates]
    exact same.errors.trans current.errors
  · intro look member
    rcases List.mem_append.mp member with earlier | now
    · exact current.sound look earlier
    · obtain rfl := List.mem_singleton.mp now
      exact here

/-- A look that goes on updates the metrics when the interval has passed. -/
theorem current_update (current : Current begun seen loop) (here : Sound world)
    (same : SameCharts loop.tui tui) (goes : goesOn (world, polled) = true) :
    Current begun (seen ++ [(world, polled)]) (update world { loop with tui := tui }) := by
  have updates := @clientUpdates_snoc begun seen world polled goes
  have sound : ∀ look ∈ seen ++ [(world, polled)], Sound look.1 := by
    intro look member
    rcases List.mem_append.mp member with earlier | now
    · exact current.sound look earlier
    · obtain rfl := List.mem_singleton.mp now
      exact here
  have passed : lastPassed metricsUpdateRate (fun look => look.1.now) begun
      ((seen ++ [(world, polled)]).filter goesOn) =
        if metricsUpdateRate ≤ world.now - loop.lastMetricsUpdate then world.now
        else loop.lastMetricsUpdate := by
    rw [List.filter_append, List.filter_singleton, goes, cond_true, lastPassed_snoc, current.last]
  rw [← current.last] at updates
  have started := same.start.trans current.started
  unfold update
  dsimp only
  split
  · rename_i due
    rw [if_pos due] at updates passed
    have updated := @updated_updateMetrics tui world.collector world.now
    have throughput := updated.throughput
    have latency := updated.latency
    have errors := updated.errors
    rw [started, same.throughput, current.throughput] at throughput
    rw [started, same.latency, current.latency] at latency
    rw [started, same.errors, current.errors] at errors
    refine ⟨updated.start.trans started, passed.symm, ?_, ?_, ?_,
      (coherent_updateMetrics (current.coherent.congr same)).congr ⟨rfl, rfl, rfl, rfl, rfl⟩,
      sound⟩
    · rw [updates, throughputHistoryOf, historyOf_snoc]
      exact throughput
    · rw [updates, latencyHistoryOf, historyOf_snoc]
      exact latency
    · rw [updates, errorHistoryOf, historyOf_snoc]
      exact errors
  · rename_i early
    rw [if_neg early, List.append_nil] at updates
    rw [if_neg early] at passed
    refine ⟨started, passed.symm, ?_, ?_, ?_, current.coherent.congr same, sound⟩
    · rw [updates]
      exact same.throughput.trans current.throughput
    · rw [updates]
      exact same.latency.trans current.latency
    · rw [updates]
      exact same.errors.trans current.errors

theorem kept_of_look (kept : Kept begun seen loop) (here : Sound world)
    (looked : look timeText world polled loop = some next) :
    Kept begun (seen ++ [(world, polled)]) next := by
  have same : SameCharts loop.tui (poll polled loop.tui) := sameCharts_poll
  unfold look at looked
  split at looked
  · simp at looked
  · rename_i running
    have quitting := @shouldQuit_poll world polled loop.tui
    rw [Bool.not_eq_true] at running
    rw [running, Bool.false_or] at quitting
    simp only at looked
    split at looked
    · rename_i quits
      obtain rfl := Option.some.inj looked
      have ends : goesOn (world, polled) = false := by
        rw [quits] at quitting
        simpa using quitting.symm
      exact ⟨current_quit kept.toCurrent here same ends, fun frame drawn =>
        (kept.screen frame drawn).congr same⟩
    · rename_i stays
      obtain rfl := Option.some.inj looked
      have goes : goesOn (world, polled) = true := by
        rw [Bool.not_eq_true] at stays
        rw [stays] at quitting
        simpa using quitting.symm
      refine kept_render (current_update kept.toCurrent here same goes) ?_
      -- Without a render the update was not due either, and the screen is as before.
      unfold update
      split
      · exact fun forced => absurd forced (by simp)
      · exact fun _ frame drawn => (kept.screen frame drawn).congr same

theorem kept_new (begun : Nat) (logBuffer : LogBuffer) : Kept begun [] (new begun logBuffer) := by
  refine ⟨⟨rfl, rfl, (historyOf_nil begun).symm, (historyOf_nil begun).symm,
    (historyOf_nil begun).symm, ⟨fun _ => ⟨rfl, rfl, rfl⟩, ?_⟩, by simp⟩, ?_⟩
  · rintro data filled
    cases filled
  · rintro frame drawn
    cases drawn

/-- In every run the histories are the last points of the updates, at most 120, and the
screen shows what those histories give, cached or not: the charts have all their points
between their bounds, and no gauge is beyond its end. -/
theorem client_dashboard_exact {birth : Nat} {start : CollectorState} {logBuffer : LogBuffer}
    {trace : List ((CollectorState × ClientLoop) × (CollectorLabel ⊕ Polled))}
    {last : CollectorState × ClientLoop}
    (began : collecting.Reachable (startCollecting birth) start)
    (run : (collecting.observed (clientObserver timeText)).Run
      (start, .new start.now logBuffer) trace last) :
    (last.2.tui.throughputHistory =
        throughputHistoryOf start.now (clientUpdates start.now (Machine.looks trace)) ∧
      last.2.tui.latencyHistory =
        latencyHistoryOf start.now (clientUpdates start.now (Machine.looks trace)) ∧
      last.2.tui.errorHistory =
        errorHistoryOf start.now (clientUpdates start.now (Machine.looks trace))) ∧
    ∀ frame, last.2.screen = some frame →
      (frame.throughput = plainThroughputChart last.2.tui.throughputHistory ∧
        frame.latency = plainLatencyChart last.2.tui.latencyHistory ∧
        frame.errors = plainErrorChart last.2.tui.errorHistory) ∧
      (frame.throughput.Fits ∧ frame.latency.Fits ∧ frame.errors.Fits) ∧
      ∀ gauge ∈ frame.gauges, gauge.percent ≤ 100 := by
  have kept := (run.looked Sound (fun seen loop => Kept start.now seen loop)
    (sound_of_reachable began) (fun _ _ _ sound taken => sound_of_step sound taken)
    (kept_new start.now logBuffer)
    (fun _ _ _ _ _ here before looked => kept_of_look before here looked)).2
  have ordered := (run.looks_ordered NotLater notLater_of_step).1
  have passing := (throttled_sublist metricsUpdateRate (fun look => look.1.now) start.now
    ((Machine.looks trace).filter goesOn)).trans List.filter_sublist
  have updates : (clientUpdates start.now (Machine.looks trace)).Pairwise NotLater :=
    List.pairwise_map.mpr (ordered.sublist passing)
  have sound : ∀ world ∈ clientUpdates start.now (Machine.looks trace), Sound world := by
    intro world member
    obtain ⟨look, inside, rfl⟩ := List.mem_map.mp member
    exact kept.sound look (passing.subset inside)
  refine ⟨⟨kept.throughput, kept.latency, kept.errors⟩, fun frame drawn => ?_⟩
  have shown := kept.screen frame drawn
  refine ⟨⟨shown.throughput, shown.latency, shown.errors⟩, ⟨?_, ?_, ?_⟩, shown.gauges⟩
  · rw [shown.throughput, kept.throughput]
    exact throughputChart_fits updates
  · rw [shown.latency, kept.latency]
    exact latencyChart_fits updates sound
  · rw [shown.errors, kept.errors]
    exact errorChart_fits updates

/-- An update after the first samples. -/
def firstUpdate : List (CollectorLabel ⊕ Polled) :=
  [.inl (.elapse (100 * 10 ^ 6)), .inl .sampleThroughput, .inl .sampleErrors, .inr {}]

theorem client_dashboard_exact_firstUpdate :
    ∃ last frame, (collecting.observed (clientObserver fun _ => "")).play
        (startCollecting 0, .new 0 { maxSize := 1 }) firstUpdate = some last ∧
      last.2.tui.errorHistory = [(1 / 10, 0)] ∧ last.2.screen = some frame ∧
      frame.errors.Fits := by
  obtain ⟨last, played, facts⟩ := Option.map_eq_some_iff.mp (show
    ((collecting.observed (clientObserver fun _ => "")).play
        (startCollecting 0, .new 0 { maxSize := 1 }) firstUpdate).map
          (fun last => (last.2.tui.errorHistory, last.2.screen.isSome)) =
        some ([(1 / 10, 0)], true) by decide +kernel)
  obtain ⟨history, some⟩ := Prod.mk.inj facts
  obtain ⟨frame, drawn⟩ := Option.isSome_iff_exists.mp some
  obtain ⟨_, shown⟩ := client_dashboard_exact ⟨[], .nil⟩ (Machine.run_of_play played)
  exact ⟨last, frame, played, history, drawn, (shown frame drawn).2.1.2.2⟩

end ClientLoop

end Npt.System
