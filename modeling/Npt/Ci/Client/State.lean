import Mathlib.Algebra.Order.Ring.Rat
import Mathlib.Data.List.Sort
import Npt.Ci.Config

/-!
Contract: the probe client's shared state (`ci/src/client.rs`).

Every flow owns a `ConnState` that its reader and writer update and the stall
watchdog inspects; all flows share one `PortRun`. A flow task touches the two
only through the blocks listed as `FlowEvent`; `FlowEvent.apply` is the effect
of each block.

Owns: the state and metrics structures, the flow events, `finalize` and
`rttSummary`.

Does not own: when a flow emits an event (the flow programs), the watchdog and
the sampler. Counters are naturals: no run counts to `2 ^ 64`. `f64` values are
exact rationals.
-/

namespace Npt.Ci.Client

open Npt.Ci.Config

def rttSampleCap : Nat := 50000

/-- The length at which `PortRun::note_error` stops collecting. -/
def errorCap : Nat := 200

/-! ## Metrics -/

structure StallEvent where
  connId : Nat
  atSecs : Rat
  gapMs : Nat
deriving DecidableEq, Repr

structure ThroughputSample where
  tSecs : Nat
  downKbps : Rat
  upKbps : Rat
deriving DecidableEq, Repr

structure RttSummary where
  samples : Nat := 0
  p50Ms : Rat := 0
  p95Ms : Rat := 0
  p99Ms : Rat := 0
  maxMs : Rat := 0
deriving DecidableEq, Repr

structure PortMetrics where
  protocol : String
  endpoint : String
  durationSecs : Nat
  connectionsAttempted : Nat
  connected : Nat
  connectFailed : Nat
  midstreamDisconnects : Nat
  flowsNoReturn : Nat
  stalls : List StallEvent
  bytesSent : Nat
  bytesRecv : Nat
  avgDownKbps : Rat
  avgUpKbps : Rat
  udpSent : Nat
  udpRecv : Nat
  rtt : RttSummary
  throughputSeries : List ThroughputSample
  errors : List String
deriving DecidableEq, Repr

/-! ## Shared state -/

/-- Per-flow state, inspected by the stall watchdog. -/
structure ConnState where
  id : Nat
  connected : Bool := false
  firstRecv : Bool := false
  lastRecvMs : Nat := 0
  bytesSent : Nat := 0
  bytesRecv : Nat := 0
  udpSent : Nat := 0
  udpRecv : Nat := 0
  disconnected : Bool := false
  inStall : Bool := false
deriving DecidableEq, Repr

/-- The state shared by all flows of a run. The run's base instant is time `0`. -/
structure PortRun where
  windingDown : Bool := false
  connectFailed : Nat := 0
  midstreamDisconnects : Nat := 0
  rttUs : List Nat := []
  stalls : List StallEvent := []
  errors : List String := []
deriving DecidableEq, Repr

def PortRun.recordRtt (run : PortRun) (rttUs : Nat) : PortRun :=
  if run.rttUs.length < rttSampleCap then { run with rttUs := run.rttUs ++ [rttUs] } else run

def PortRun.noteError (run : PortRun) (message : String) : PortRun :=
  if run.errors.length < errorCap then { run with errors := run.errors ++ [message] } else run

/-! ## Flow events -/

/-- The blocks of `tcp_flow` and `udp_flow` that touch shared state. Nothing in
a block waits for the network or a timer. -/
inductive FlowEvent where
  /-- No shared state is touched. -/
  | quiet
  | connectFailed (message : String)
  | connected
  | frameSent (bytes : Nat)
  | datagramSent (bytes : Nat)
  | sendFailed (message : String)
  | frameReceived (bytes rttUs : Nat)
  | datagramReceived (bytes rttUs : Nat)
  /-- The reader or the writer saw the connection end or fail. -/
  | broken (message : String)
deriving DecidableEq, Repr

/-- A frame or a datagram came back, at time `now`. -/
def ConnState.received (conn : ConnState) (now bytes : Nat) : ConnState :=
  { conn with
    bytesRecv := conn.bytesRecv + bytes
    lastRecvMs := now
    firstRecv := true
    inStall := false }

/-- The check shared by the write error, the end of stream and the read error:
before the deadline the break is counted, once for each flow. -/
def noteBroken (now deadline : Nat) (message : String) (run : PortRun) (conn : ConnState) :
    PortRun × ConnState :=
  if run.windingDown = false ∧ now < deadline then
    let counted :=
      if conn.disconnected then run
      else { run with midstreamDisconnects := run.midstreamDisconnects + 1 }
    (counted.noteError message, { conn with disconnected := true })
  else (run, conn)

/-- The effect of a flow's block at time `now`. -/
def FlowEvent.apply (now deadline : Nat) (run : PortRun) (conn : ConnState) :
    FlowEvent → PortRun × ConnState
  | .quiet => (run, conn)
  | .connectFailed message =>
      (({ run with connectFailed := run.connectFailed + 1 } : PortRun).noteError message, conn)
  | .connected => (run, { conn with connected := true, lastRecvMs := now })
  | .frameSent bytes => (run, { conn with bytesSent := conn.bytesSent + bytes })
  | .datagramSent bytes =>
      (run, { conn with bytesSent := conn.bytesSent + bytes, udpSent := conn.udpSent + 1 })
  | .sendFailed message => (run.noteError message, conn)
  | .frameReceived bytes rttUs => (run.recordRtt rttUs, conn.received now bytes)
  | .datagramReceived bytes rttUs =>
      (run.recordRtt rttUs, { conn.received now bytes with udpRecv := conn.udpRecv + 1 })
  | .broken message => noteBroken now deadline message run conn

/-- The events that count a returned frame or datagram. -/
def FlowEvent.receives : FlowEvent → Bool
  | .frameReceived _ _ | .datagramReceived _ _ => true
  | _ => false

/-- The events that count a sent frame or datagram. -/
def FlowEvent.sends : FlowEvent → Bool
  | .frameSent _ | .datagramSent _ => true
  | _ => false

/-- The bytes that an event counts as sent. -/
def FlowEvent.bytesOut : FlowEvent → Nat
  | .frameSent bytes | .datagramSent bytes => bytes
  | _ => 0

/-- The bytes that an event counts as received. -/
def FlowEvent.bytesIn : FlowEvent → Nat
  | .frameReceived bytes _ | .datagramReceived bytes _ => bytes
  | _ => 0

/-- The failures an event reports. -/
def FlowEvent.refusals : FlowEvent → Nat
  | .connectFailed _ => 1
  | _ => 0

/-! ### What an event leaves alone -/

section Frames

variable (run : PortRun)

@[simp] theorem PortRun.recordRtt_windingDown (rttUs : Nat) :
    (run.recordRtt rttUs).windingDown = run.windingDown := by
  unfold PortRun.recordRtt; split <;> rfl

@[simp] theorem PortRun.recordRtt_connectFailed (rttUs : Nat) :
    (run.recordRtt rttUs).connectFailed = run.connectFailed := by
  unfold PortRun.recordRtt; split <;> rfl

@[simp] theorem PortRun.recordRtt_midstreamDisconnects (rttUs : Nat) :
    (run.recordRtt rttUs).midstreamDisconnects = run.midstreamDisconnects := by
  unfold PortRun.recordRtt; split <;> rfl

@[simp] theorem PortRun.recordRtt_stalls (rttUs : Nat) :
    (run.recordRtt rttUs).stalls = run.stalls := by
  unfold PortRun.recordRtt; split <;> rfl

@[simp] theorem PortRun.noteError_windingDown (message : String) :
    (run.noteError message).windingDown = run.windingDown := by
  unfold PortRun.noteError; split <;> rfl

@[simp] theorem PortRun.noteError_connectFailed (message : String) :
    (run.noteError message).connectFailed = run.connectFailed := by
  unfold PortRun.noteError; split <;> rfl

@[simp] theorem PortRun.noteError_midstreamDisconnects (message : String) :
    (run.noteError message).midstreamDisconnects = run.midstreamDisconnects := by
  unfold PortRun.noteError; split <;> rfl

@[simp] theorem PortRun.noteError_stalls (message : String) :
    (run.noteError message).stalls = run.stalls := by
  unfold PortRun.noteError; split <;> rfl

end Frames

section Apply

variable (now deadline : Nat) (run : PortRun) (conn : ConnState) (event : FlowEvent)

@[simp] theorem noteBroken_windingDown (message : String) :
    (noteBroken now deadline message run conn).1.windingDown = run.windingDown := by
  unfold noteBroken
  split
  · simp only [PortRun.noteError_windingDown]
    split <;> rfl
  · rfl

@[simp] theorem FlowEvent.apply_windingDown :
    (event.apply now deadline run conn).1.windingDown = run.windingDown := by
  cases event <;> simp [FlowEvent.apply]

@[simp] theorem noteBroken_stalls (message : String) :
    (noteBroken now deadline message run conn).1.stalls = run.stalls := by
  unfold noteBroken
  split
  · simp only [PortRun.noteError_stalls]
    split <;> rfl
  · rfl

@[simp] theorem FlowEvent.apply_stalls :
    (event.apply now deadline run conn).1.stalls = run.stalls := by
  cases event <;> simp [FlowEvent.apply]

/-- A break changes nothing of a flow but its `disconnected` flag. -/
theorem noteBroken_conn (message : String) :
    (noteBroken now deadline message run conn).2 = conn ∨
      (noteBroken now deadline message run conn).2 = { conn with disconnected := true } := by
  unfold noteBroken
  split
  · exact Or.inr rfl
  · exact Or.inl rfl

@[simp] theorem FlowEvent.apply_id : (event.apply now deadline run conn).2.id = conn.id := by
  cases event with
  | broken message =>
      rcases noteBroken_conn now deadline run conn message with same | flagged
      · simp [FlowEvent.apply, same]
      · simp [FlowEvent.apply, flagged]
  | _ => rfl

/-- Only a connection sets `connected`, and nothing clears it. -/
theorem FlowEvent.apply_connected :
    (event.apply now deadline run conn).2.connected =
      (conn.connected || decide (event = .connected)) := by
  cases event with
  | broken message =>
      rcases noteBroken_conn now deadline run conn message with same | flagged
      · simp [FlowEvent.apply, same]
      · simp [FlowEvent.apply, flagged]
  | _ => simp [FlowEvent.apply, ConnState.received]

/-- What the watchdog and the final count read moves only with a reception. -/
theorem FlowEvent.apply_unreceived (unreceived : event.receives = false) :
    (event.apply now deadline run conn).2.bytesRecv = conn.bytesRecv ∧
      (event.apply now deadline run conn).2.firstRecv = conn.firstRecv ∧
      (event.apply now deadline run conn).2.inStall = conn.inStall := by
  cases event with
  | broken message =>
      rcases noteBroken_conn now deadline run conn message with same | flagged
      · simp [FlowEvent.apply, same]
      · simp [FlowEvent.apply, flagged]
  | frameReceived | datagramReceived => simp [FlowEvent.receives] at unreceived
  | _ => exact ⟨rfl, rfl, rfl⟩

theorem FlowEvent.apply_lastRecvMs (unreceived : event.receives = false)
    (connected : event ≠ .connected) :
    (event.apply now deadline run conn).2.lastRecvMs = conn.lastRecvMs := by
  cases event with
  | broken message =>
      rcases noteBroken_conn now deadline run conn message with same | flagged
      · simp [FlowEvent.apply, same]
      · simp [FlowEvent.apply, flagged]
  | frameReceived | datagramReceived => simp [FlowEvent.receives] at unreceived
  | connected => exact absurd rfl connected
  | _ => rfl

theorem FlowEvent.apply_received (received : event.receives = true) :
    (event.apply now deadline run conn).2.firstRecv = true ∧
      (event.apply now deadline run conn).2.inStall = false ∧
      (event.apply now deadline run conn).2.lastRecvMs = now := by
  cases event with
  | frameReceived | datagramReceived => exact ⟨rfl, rfl, rfl⟩
  | _ => simp [FlowEvent.receives] at received

theorem FlowEvent.apply_unsent (unsent : event.sends = false) :
    (event.apply now deadline run conn).2.bytesSent = conn.bytesSent := by
  cases event with
  | broken message =>
      rcases noteBroken_conn now deadline run conn message with same | flagged
      · simp [FlowEvent.apply, same]
      · simp [FlowEvent.apply, flagged]
  | frameSent | datagramSent => simp [FlowEvent.sends] at unsent
  | _ => rfl

theorem FlowEvent.apply_bytesSent :
    (event.apply now deadline run conn).2.bytesSent = conn.bytesSent + event.bytesOut := by
  cases event with
  | frameSent | datagramSent => rfl
  | broken message => exact FlowEvent.apply_unsent _ _ _ _ _ rfl
  | _ => rfl

theorem FlowEvent.apply_bytesRecv :
    (event.apply now deadline run conn).2.bytesRecv = conn.bytesRecv + event.bytesIn := by
  cases event with
  | frameReceived | datagramReceived => rfl
  | broken message => exact (FlowEvent.apply_unreceived _ _ _ _ _ rfl).1
  | _ => rfl

/-- A break before the deadline flags its flow. -/
theorem FlowEvent.apply_broken (message : String) (running : run.windingDown = false)
    (early : now < deadline) :
    ((FlowEvent.broken message).apply now deadline run conn).2.disconnected = true := by
  simp [FlowEvent.apply, noteBroken, running, early]

theorem FlowEvent.apply_disconnected_of_disconnected (flagged : conn.disconnected = true) :
    (event.apply now deadline run conn).2.disconnected = true := by
  cases event with
  | broken message =>
      rcases noteBroken_conn now deadline run conn message with same | set
      · simp [FlowEvent.apply, same, flagged]
      · simp [FlowEvent.apply, set]
  | _ => simpa [FlowEvent.apply, ConnState.received] using flagged

/-- The break counter moves with the flow's flag. -/
theorem FlowEvent.apply_midstream :
    (event.apply now deadline run conn).1.midstreamDisconnects + conn.disconnected.toNat =
      run.midstreamDisconnects + (event.apply now deadline run conn).2.disconnected.toNat := by
  cases event with
  | broken message =>
      simp only [FlowEvent.apply, noteBroken]
      split
      · cases flag : conn.disconnected <;> simp
      · rfl
  | _ => simp [FlowEvent.apply, ConnState.received]

/-- The failure counter moves exactly on a reported connection failure. -/
theorem FlowEvent.apply_connectFailed :
    (event.apply now deadline run conn).1.connectFailed =
      run.connectFailed + event.refusals := by
  cases event with
  | broken message =>
      simp only [FlowEvent.apply, noteBroken]
      split
      · simp only [PortRun.noteError_connectFailed]
        split <;> rfl
      · rfl
  | _ => simp [FlowEvent.apply, FlowEvent.refusals]

end Apply

/-! ## The final metrics -/

/-- The index of quantile `q` among `size` sorted samples: the nearest integer
to `(size - 1) * q`, halves away from zero. -/
def quantileIndex (size : Nat) (q : Rat) : Nat :=
  (((size : Rat) - 1) * q + 1 / 2).floor.toNat

/-- `rtt_summary`: samples are microseconds, results milliseconds. -/
def rttSummary (samplesUs : List Nat) : RttSummary :=
  if samplesUs = [] then {}
  else
    let sorted := samplesUs.mergeSort (· ≤ ·)
    let pick (q : Rat) : Rat := (sorted.getD (quantileIndex sorted.length q) 0 : Rat) / 1000
    { samples := sorted.length
      p50Ms := pick (50 / 100)
      p95Ms := pick (95 / 100)
      p99Ms := pick (99 / 100)
      maxMs := (sorted.getD (sorted.length - 1) 0 : Rat) / 1000 }

/-- `finalize`, over the flows' states at the end of the run. -/
def finalize (protocol endpoint : String) (durationSecs : Nat) (run : PortRun)
    (conns : List ConnState) (series : List ThroughputSample) : PortMetrics :=
  let bytesSent := (conns.map ConnState.bytesSent).sum
  let bytesRecv := (conns.map ConnState.bytesRecv).sum
  let dur : Rat := ((max durationSecs 1 : Nat) : Rat)
  { protocol := protocol
    endpoint := endpoint
    durationSecs := durationSecs
    connectionsAttempted := conns.length
    connected := conns.countP (fun conn => conn.connected)
    connectFailed := run.connectFailed
    midstreamDisconnects := run.midstreamDisconnects
    flowsNoReturn := conns.countP (fun conn => conn.connected && conn.bytesRecv == 0)
    stalls := run.stalls
    bytesSent := bytesSent
    bytesRecv := bytesRecv
    avgDownKbps := (bytesRecv : Rat) * 8 / 1000 / dur
    avgUpKbps := (bytesSent : Rat) * 8 / 1000 / dur
    udpSent := (conns.map ConnState.udpSent).sum
    udpRecv := (conns.map ConnState.udpRecv).sum
    rtt := rttSummary run.rttUs
    throughputSeries := series
    errors := run.errors }

end Npt.Ci.Client
