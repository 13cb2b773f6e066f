import Npt.System.Charts

/-!
Contract: the server's dashboard over the collector (`server/src/tui.rs`).

The loop draws, waits for a key until its tick, and updates its histories once
the tick has come. Its charts are drawn from the histories themselves.

Owns: the update, the loop as an observer of the collector, and what is on the
screen.

Does not own: the collector, or how the terminal shows a frame. A look of the
loop is from the end of one wait to the beginning of the next.
-/

namespace Npt.System

open Npt.Core
open Npt.Shared

/-- An entry of `connection_history`. -/
structure ConnectionPoint where
  time : Rat
  tcp : Rat
  udp : Rat
  quic : Rat
deriving DecidableEq, Repr

namespace ConnectionPoint

def ofMetrics (elapsed : Rat) (metrics : SampledCollector) : ConnectionPoint where
  time := elapsed
  tcp := metrics.getActiveTcpConnections
  udp := metrics.getActiveUdpConnections
  quic := metrics.getActiveQuicConnections

def total (point : ConnectionPoint) : Rat := point.tcp + point.udp + point.quic

end ConnectionPoint

/-- `ServerTui` with its histories. -/
structure ServerDashboard extends ServerTui where
  throughputHistory : List ThroughputPoint := []
  latencyHistory : List (Rat × Rat) := []
  errorHistory : List (Rat × Rat) := []
  connectionHistory : List ConnectionPoint := []
  startTime : Nat
deriving DecidableEq, Repr

/-- What the server draws between its header and its footer. -/
structure ServerFrame where
  gauges : List Gauge
  connections : Chart
  throughput : Sparkline
  latency : Chart
  errors : Chart
  logs : Option LogPanel
deriving DecidableEq, Repr

namespace ServerDashboard

/-- `ServerTui::new`. -/
def new (now : Nat) (logBuffer : LogBuffer) : ServerDashboard where
  logBuffer := logBuffer
  startTime := now

def updateMetrics (metrics : SampledCollector) (now : Nat) (tui : ServerDashboard) :
    ServerDashboard :=
  let elapsed := seconds (now - tui.startTime)
  let throughputHistory := tui.throughputHistory ++
    (metrics.getLatestThroughput.map (ThroughputPoint.ofSample elapsed)).toList
  let latencyHistory := tui.latencyHistory ++
    (metrics.getLatestLatency.map (latencyPoint elapsed)).toList
  let errorHistory := tui.errorHistory ++
    (metrics.getLatestErrors.map (errorPoint elapsed)).toList
  let connectionHistory := tui.connectionHistory ++ [ConnectionPoint.ofMetrics elapsed metrics]
  { tui with
    throughputHistory := trim maxHistorySize throughputHistory
    latencyHistory := trim maxHistorySize latencyHistory
    errorHistory := trim maxHistorySize errorHistory
    connectionHistory := trim maxHistorySize connectionHistory }

/-! ## Rendering -/

def renderServerStats (metrics : SampledCollector) : List Gauge :=
  [⟨"TCP Connections", countPercent 500 metrics.getActiveTcpConnections⟩,
    ⟨"UDP Sessions", countPercent 500 metrics.getActiveUdpConnections⟩,
    ⟨"QUIC Connections", countPercent 500 metrics.getActiveQuicConnections⟩,
    ⟨"Throughput", throughputPercent metrics.getLatestThroughput⟩,
    ⟨"Total Errors", errorPercent metrics.getLatestErrors⟩]

variable (tui : ServerDashboard)

def renderConnectionChart : Chart :=
  if tui.connectionHistory.isEmpty then
    ⟨"Active Connections", .text "No connection data available"⟩
  else
    let tcpData := tui.connectionHistory.map (fun point => (point.time, point.tcp))
    let udpData := tui.connectionHistory.map (fun point => (point.time, point.udp))
    let quicData := tui.connectionHistory.map (fun point => (point.time, point.quic))
    ⟨"Active Connections", .plot ["TCP", "UDP", "QUIC"] {
      series := [tcpData, udpData, quicData]
      xBounds := axisRange (tui.connectionHistory.map ConnectionPoint.time)
      yBounds := (0, axisMax (tui.connectionHistory.map ConnectionPoint.total)) }⟩

def renderThroughputSparkline : Sparkline :=
  let throughputData := tui.throughputHistory.map (fun point => (asU64 (point.total * 10)).toNat)
  if throughputData.isEmpty then ⟨"Throughput History", .text "No throughput data"⟩
  else ⟨"Throughput History (x0.1 MB)", .data throughputData⟩

def renderLatencyChart : Chart :=
  if tui.latencyHistory.isEmpty then
    ⟨"Response Latency (ms)", .text "No latency data available"⟩
  else
    ⟨"Response Latency (ms)", .plot ["Latency"] {
      series := [tui.latencyHistory]
      xBounds := axisRange (tui.latencyHistory.map Prod.fst)
      yBounds := (0, axisMax (tui.latencyHistory.map Prod.snd)) }⟩

def renderErrorChart : Chart :=
  if tui.errorHistory.isEmpty then ⟨"Cumulative Errors", .text "No error data available"⟩
  else
    ⟨"Cumulative Errors", .plot ["Errors"] {
      series := [tui.errorHistory]
      xBounds := axisRange (tui.errorHistory.map Prod.fst)
      yBounds := (0, axisMax (tui.errorHistory.map Prod.snd)) }⟩

def renderUi (timeText : Nat → String) (metrics : SampledCollector) : ServerFrame where
  gauges := renderServerStats metrics
  connections := tui.renderConnectionChart
  throughput := tui.renderThroughputSparkline
  latency := tui.renderLatencyChart
  errors := tui.renderErrorChart
  logs := if tui.showLogs then some (tui.renderLogs timeText) else none

end ServerDashboard

/-! ## The loop -/

/-- `ServerTui::run` with its local variable. -/
structure ServerLoop where
  tui : ServerDashboard
  lastTick : Nat
  /-- The frame drawn last. -/
  screen : ServerFrame
deriving DecidableEq, Repr

namespace ServerLoop

/-- The loop at its first wait. -/
def new (timeText : Nat → String) (world : CollectorState) (logBuffer : LogBuffer) :
    ServerLoop where
  tui := .new world.now logBuffer
  lastTick := world.now
  screen := (ServerDashboard.new world.now logBuffer).renderUi timeText world.collector

@[irreducible] def tickRate : Nat := 250 * 10 ^ 6

/-- The key of a look is handled. -/
def poll (polled : Polled) (tui : ServerDashboard) : ServerDashboard :=
  let shared := { tui with logBuffer.entries := polled.entries }
  match polled.key with
  | some key => { shared with toServerTui := shared.toServerTui.handleKey key }
  | none => shared

def tick (world : CollectorState) (loop : ServerLoop) : ServerLoop :=
  if tickRate ≤ world.now - loop.lastTick then
    { loop with
      tui := loop.tui.updateMetrics world.collector world.now
      lastTick := world.now }
  else loop

def look (timeText : Nat → String) (world : CollectorState) (polled : Polled)
    (loop : ServerLoop) : Option ServerLoop :=
  if loop.tui.shouldQuit then none
  else
    let ticked := tick world { loop with tui := poll polled loop.tui }
    if ticked.tui.shouldQuit then some ticked
    else some { ticked with screen := ticked.tui.renderUi timeText world.collector }

end ServerLoop

/-- The server's loop as an observer. -/
def serverObserver (timeText : Nat → String) : Observer CollectorState Polled ServerLoop :=
  ⟨ServerLoop.look timeText⟩

/-! ## The histories -/

/-- The looks at which the metrics are updated. -/
def serverUpdates (begun : Nat) (seen : List (CollectorState × Polled)) : List CollectorState :=
  (throttled ServerLoop.tickRate (fun look => look.1.now) begun seen).map Prod.fst

/-- Every update adds a point. -/
def connectionHistoryOf (begun : Nat) (updates : List CollectorState) : List ConnectionPoint :=
  historyOf begun updates some ConnectionPoint.ofMetrics

/-! ## The screen is a rendering of the histories -/

section Charts

variable {begun : Nat} {updates : List CollectorState} {tui : ServerDashboard}

theorem connectionChart_fits (ordered : updates.Pairwise NotLater)
    (history : tui.connectionHistory = connectionHistoryOf begun updates) :
    tui.renderConnectionChart.Fits := by
  have chart : tui.renderConnectionChart = historyChart "Active Connections"
      "No connection data available" "Active Connections" ["TCP", "UDP", "QUIC"]
      ConnectionPoint.time [ConnectionPoint.tcp, ConnectionPoint.udp, ConnectionPoint.quic]
      ConnectionPoint.total tui.connectionHistory := rfl
  rw [chart, history]
  have inOrder : (connectionHistoryOf begun updates).Pairwise
      (fun earlier later => earlier.time ≤ later.time) :=
    historyOf_ordered (fun _ _ => rfl) ordered
  refine historyChart_fits ?_ ?_
  · exact inOrder
  · intro quantity listed item member
    obtain ⟨world, _, metrics, _, rfl⟩ := exists_of_mem_historyOf member
    have tcp : (0 : Rat) ≤ metrics.getActiveTcpConnections := Nat.cast_nonneg _
    have udp : (0 : Rat) ≤ metrics.getActiveUdpConnections := Nat.cast_nonneg _
    have quic : (0 : Rat) ≤ metrics.getActiveQuicConnections := Nat.cast_nonneg _
    simp only [List.mem_cons, List.not_mem_nil, or_false] at listed
    rcases listed with rfl | rfl | rfl <;>
      (simp only [ConnectionPoint.total, ConnectionPoint.ofMetrics]; constructor <;> linarith)

theorem latencyChart_fits_of_history (ordered : updates.Pairwise NotLater)
    (sound : ∀ world ∈ updates, Sound world)
    (history : tui.latencyHistory = latencyHistoryOf begun updates) :
    tui.renderLatencyChart.Fits := by
  have chart : tui.renderLatencyChart = historyChart "Response Latency (ms)"
      "No latency data available" "Response Latency (ms)" ["Latency"] Prod.fst [Prod.snd]
      Prod.snd tui.latencyHistory := by
    rw [historyChart, plotOf_pairs]
    rfl
  rw [chart, history]
  exact latencyChart_fits ordered sound

theorem errorChart_fits_of_history (ordered : updates.Pairwise NotLater)
    (history : tui.errorHistory = errorHistoryOf begun updates) :
    tui.renderErrorChart.Fits := by
  have chart : tui.renderErrorChart = historyChart "Cumulative Errors" "No error data available"
      "Cumulative Errors" ["Errors"] Prod.fst [Prod.snd] Prod.snd tui.errorHistory := by
    rw [historyChart, plotOf_pairs]
    rfl
  rw [chart, history]
  exact errorChart_fits ordered

theorem renderServerStats_shows (metrics : SampledCollector) :
    ∀ gauge ∈ ServerDashboard.renderServerStats metrics, gauge.Shows := by
  intro gauge member
  simp only [ServerDashboard.renderServerStats, List.mem_cons, List.not_mem_nil, or_false] at member
  rcases member with rfl | rfl | rfl | rfl | rfl
  · exact countPercent_le _ _
  · exact countPercent_le _ _
  · exact countPercent_le _ _
  · exact throughputPercent_le _
  · exact errorPercent_le _

end Charts

namespace ServerLoop

variable {begun : Nat} {seen : List (CollectorState × Polled)} {loop next : ServerLoop}
  {world : CollectorState} {polled : Polled} {timeText : Nat → String} {tui : ServerDashboard}

/-- The histories are those of the updates. -/
structure Current (begun : Nat) (seen : List (CollectorState × Polled)) (loop : ServerLoop) :
    Prop where
  started : loop.tui.startTime = begun
  last : loop.lastTick = lastPassed tickRate (fun look => look.1.now) begun seen
  throughput : loop.tui.throughputHistory = throughputHistoryOf begun (serverUpdates begun seen)
  latency : loop.tui.latencyHistory = latencyHistoryOf begun (serverUpdates begun seen)
  errors : loop.tui.errorHistory = errorHistoryOf begun (serverUpdates begun seen)
  connections : loop.tui.connectionHistory =
    connectionHistoryOf begun (serverUpdates begun seen)
  sound : ∀ look ∈ seen, Sound look.1

/-- As long as the loop goes on, the screen is a rendering of it. -/
structure Kept (timeText : Nat → String) (begun : Nat) (seen : List (CollectorState × Polled))
    (loop : ServerLoop) : Prop extends Current begun seen loop where
  screen : loop.tui.shouldQuit = false →
    ∃ metrics, loop.screen = loop.tui.renderUi timeText metrics

theorem serverUpdates_snoc :
    serverUpdates begun (seen ++ [(world, polled)]) = serverUpdates begun seen ++
      if tickRate ≤ world.now - lastPassed tickRate (fun look => look.1.now) begun seen then
        [world]
      else [] := by
  unfold serverUpdates
  rw [throttled_snoc, List.map_append]
  split <;> rfl

/-- The fields that an update changes. -/
structure SameHistories (tui other : ServerDashboard) : Prop where
  throughput : other.throughputHistory = tui.throughputHistory
  latency : other.latencyHistory = tui.latencyHistory
  errors : other.errorHistory = tui.errorHistory
  connections : other.connectionHistory = tui.connectionHistory
  start : other.startTime = tui.startTime

theorem sameHistories_poll : SameHistories tui (poll polled tui) := by
  unfold poll
  dsimp only
  split <;> exact ⟨rfl, rfl, rfl, rfl, rfl⟩

/-- A look updates the metrics when the tick has come. -/
theorem current_tick (current : Current begun seen loop) (here : Sound world)
    (same : SameHistories loop.tui tui) :
    Current begun (seen ++ [(world, polled)]) (tick world { loop with tui := tui }) := by
  have updates := @serverUpdates_snoc begun seen world polled
  have sound : ∀ look ∈ seen ++ [(world, polled)], Sound look.1 := by
    intro look member
    rcases List.mem_append.mp member with earlier | now
    · exact current.sound look earlier
    · obtain rfl := List.mem_singleton.mp now
      exact here
  have passed : lastPassed tickRate (fun look => look.1.now) begun (seen ++ [(world, polled)]) =
      if tickRate ≤ world.now - loop.lastTick then world.now else loop.lastTick := by
    rw [lastPassed_snoc, current.last]
  rw [← current.last] at updates
  have started := same.start.trans current.started
  have throughput := same.throughput.trans current.throughput
  have latency := same.latency.trans current.latency
  have errors := same.errors.trans current.errors
  have connections := same.connections.trans current.connections
  unfold tick
  dsimp only
  split
  · rename_i due
    rw [if_pos due] at updates passed
    refine ⟨started, passed.symm, ?_, ?_, ?_, ?_, sound⟩
    · rw [updates, throughputHistoryOf, historyOf_snoc, ← throughputHistoryOf, ← throughput,
        ← started]
      rfl
    · rw [updates, latencyHistoryOf, historyOf_snoc, ← latencyHistoryOf, ← latency, ← started]
      rfl
    · rw [updates, errorHistoryOf, historyOf_snoc, ← errorHistoryOf, ← errors, ← started]
      rfl
    · rw [updates, connectionHistoryOf, historyOf_snoc, ← connectionHistoryOf, ← connections,
        ← started]
      rfl
  · rename_i early
    rw [if_neg early, List.append_nil] at updates
    rw [if_neg early] at passed
    refine ⟨started, passed.symm, ?_, ?_, ?_, ?_, sound⟩
    · rw [updates]
      exact throughput
    · rw [updates]
      exact latency
    · rw [updates]
      exact errors
    · rw [updates]
      exact connections

theorem kept_of_look (kept : Kept timeText begun seen loop) (here : Sound world)
    (looked : look timeText world polled loop = some next) :
    Kept timeText begun (seen ++ [(world, polled)]) next := by
  have current := @current_tick begun seen loop world polled _ kept.toCurrent here
    (@sameHistories_poll polled loop.tui)
  unfold look at looked
  split at looked
  · simp at looked
  · dsimp only at looked
    split at looked
    · rename_i quits
      obtain rfl := Option.some.inj looked
      exact ⟨current, fun running => by simp [running] at quits⟩
    · obtain rfl := Option.some.inj looked
      exact ⟨⟨current.started, current.last, current.throughput, current.latency, current.errors,
        current.connections, current.sound⟩, fun _ => ⟨_, rfl⟩⟩

theorem kept_new (world : CollectorState) (logBuffer : LogBuffer) :
    Kept timeText world.now [] (new timeText world logBuffer) :=
  ⟨⟨rfl, rfl, (historyOf_nil _).symm, (historyOf_nil _).symm, (historyOf_nil _).symm,
    (historyOf_nil _).symm, by simp⟩, fun _ => ⟨_, rfl⟩⟩

/-- In every run the histories are the last points of the updates, at most 120. As long as
the loop goes on, the screen is a rendering of them, with all points of its charts between
their bounds and no gauge beyond its end. -/
theorem server_dashboard_exact {birth : Nat} {start : CollectorState} {logBuffer : LogBuffer}
    {trace : List ((CollectorState × ServerLoop) × (CollectorLabel ⊕ Polled))}
    {last : CollectorState × ServerLoop}
    (began : collecting.Reachable (startCollecting birth) start)
    (run : (collecting.observed (serverObserver timeText)).Run
      (start, .new timeText start logBuffer) trace last) :
    (last.2.tui.throughputHistory =
        throughputHistoryOf start.now (serverUpdates start.now (Machine.looks trace)) ∧
      last.2.tui.latencyHistory =
        latencyHistoryOf start.now (serverUpdates start.now (Machine.looks trace)) ∧
      last.2.tui.errorHistory =
        errorHistoryOf start.now (serverUpdates start.now (Machine.looks trace)) ∧
      last.2.tui.connectionHistory =
        connectionHistoryOf start.now (serverUpdates start.now (Machine.looks trace))) ∧
    (last.2.tui.shouldQuit = false →
      (∃ metrics, last.2.screen = last.2.tui.renderUi timeText metrics) ∧
        (last.2.screen.connections.Fits ∧ last.2.screen.latency.Fits ∧
          last.2.screen.errors.Fits) ∧
        ∀ gauge ∈ last.2.screen.gauges, gauge.percent ≤ 100) := by
  have kept := (run.looked Sound (fun seen loop => Kept timeText start.now seen loop)
    (sound_of_reachable began) (fun _ _ _ sound taken => sound_of_step sound taken)
    (kept_new start logBuffer)
    (fun _ _ _ _ _ here before looked => kept_of_look before here looked)).2
  have ordered := (run.looks_ordered NotLater notLater_of_step).1
  have passing := throttled_sublist tickRate (fun look => look.1.now) start.now
    (Machine.looks trace)
  have updates : (serverUpdates start.now (Machine.looks trace)).Pairwise NotLater :=
    List.pairwise_map.mpr (ordered.sublist passing)
  have sound : ∀ world ∈ serverUpdates start.now (Machine.looks trace), Sound world := by
    intro world member
    obtain ⟨look, inside, rfl⟩ := List.mem_map.mp member
    exact kept.sound look (passing.subset inside)
  refine ⟨⟨kept.throughput, kept.latency, kept.errors, kept.connections⟩, fun running => ?_⟩
  obtain ⟨metrics, drawn⟩ := kept.screen running
  refine ⟨⟨metrics, drawn⟩, ?_, ?_⟩
  · rw [drawn]
    exact ⟨connectionChart_fits updates kept.connections,
      latencyChart_fits_of_history updates sound kept.latency,
      errorChart_fits_of_history updates kept.errors⟩
  · rw [drawn]
    exact renderServerStats_shows metrics

/-- A tick after the first samples. -/
def firstTick : List (CollectorLabel ⊕ Polled) :=
  [.inl (.elapse (250 * 10 ^ 6)), .inl .sampleThroughput, .inl .sampleErrors, .inr {}]

theorem server_dashboard_exact_firstTick :
    ∃ last, (collecting.observed (serverObserver fun _ => "")).play
        (startCollecting 0, .new (fun _ => "") (startCollecting 0) { maxSize := 1 }) firstTick =
          some last ∧
      last.2.tui.connectionHistory = [⟨1 / 4, 0, 0, 0⟩] ∧ last.2.screen.errors.Fits := by
  obtain ⟨last, played, facts⟩ := Option.map_eq_some_iff.mp (show
    ((collecting.observed (serverObserver fun _ => "")).play
        (startCollecting 0, .new (fun _ => "") (startCollecting 0) { maxSize := 1 }) firstTick).map
          (fun last => (last.2.tui.connectionHistory, last.2.tui.shouldQuit)) =
        some ([⟨1 / 4, 0, 0, 0⟩], false) by decide +kernel)
  obtain ⟨history, running⟩ := Prod.mk.inj facts
  obtain ⟨_, shown⟩ := server_dashboard_exact ⟨[], .nil⟩ (Machine.run_of_play played)
  exact ⟨last, played, history, (shown running).2.1.2.2⟩

end ServerLoop

end Npt.System
