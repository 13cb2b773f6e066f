import Npt.Ci.Detect

/-!
Contract: `evaluate` is monotone in the metrics and in the parameters.

Worse metrics and stricter parameters only add to what `evaluate` holds against a
port. What passes is `Clean`, so both directions say that `Clean` is handed down:
from a worse run to a better one, and from tight parameters to loose ones.

Owns: the two orders and the verdict's monotonicity over them.

Does not own: the rules.
-/

namespace Npt.Ci.Detect

open Npt.Ci.Client
open Npt.Ci.Config

/-- The second metrics are at least as bad as the first. -/
structure AtLeastAsBad (first second : PortMetrics) : Prop where
  connectionsAttempted : second.connectionsAttempted = first.connectionsAttempted
  connected : second.connected ≤ first.connected
  bytesSent : second.bytesSent ≤ first.bytesSent
  connectFailed : first.connectFailed ≤ second.connectFailed
  stalls : first.stalls.length ≤ second.stalls.length
  midstreamDisconnects : first.midstreamDisconnects ≤ second.midstreamDisconnects
  flowsNoReturn : first.flowsNoReturn ≤ second.flowsNoReturn
  avgDownKbps : second.avgDownKbps ≤ first.avgDownKbps
  p95Ms : first.rtt.p95Ms ≤ second.rtt.p95Ms

/-- The second parameters are at least as strict as the first. A threshold that is
not positive is disabled, and any value may enable it. -/
structure Tightens (loose tight : DetectParams) : Prop where
  failOnStall : loose.failOnStall = true → tight.failOnStall = true
  failOnMidstreamDisconnect :
    loose.failOnMidstreamDisconnect = true → tight.failOnMidstreamDisconnect = true
  failOnNoReturn : loose.failOnNoReturn = true → tight.failOnNoReturn = true
  maxConnectFailRatio : tight.maxConnectFailRatio ≤ loose.maxConnectFailRatio
  minThroughputKbps :
    0 < loose.minThroughputKbps → loose.minThroughputKbps ≤ tight.minThroughputKbps
  maxRttP95Ms :
    0 < loose.maxRttP95Ms → 0 < tight.maxRttP95Ms ∧ tight.maxRttP95Ms ≤ loose.maxRttP95Ms

theorem failRatio_mono {first second : PortMetrics} (worse : AtLeastAsBad first second) :
    failRatio first ≤ failRatio second := by
  unfold failRatio
  rw [worse.connectionsAttempted]
  have more := worse.connectFailed
  gcongr

/-- A run that is no worse than a clean one is clean. -/
theorem Clean.of_worse {first second : PortMetrics} {d : DetectParams}
    (worse : AtLeastAsBad first second) (clean : Clean second d) : Clean first d where
  connected := lt_of_lt_of_le clean.connected worse.connected
  stalls enabled := by
    have fewer := worse.stalls
    rw [clean.stalls enabled, List.length_nil, Nat.le_zero] at fewer
    exact List.eq_nil_of_length_eq_zero fewer
  disconnects enabled := by
    have fewer := worse.midstreamDisconnects
    rw [clean.disconnects enabled] at fewer
    exact Nat.le_zero.mp fewer
  sent := lt_of_lt_of_le clean.sent worse.bytesSent
  returns enabled := by
    have fewer := worse.flowsNoReturn
    rw [clean.returns enabled] at fewer
    exact Nat.le_zero.mp fewer
  ratio := (failRatio_mono worse).trans clean.ratio
  throughput enabled := (clean.throughput enabled).trans worse.avgDownKbps
  rtt enabled := worse.p95Ms.trans (clean.rtt enabled)

/-- What is clean under tight parameters is clean under loose ones. -/
theorem Clean.of_tighter {m : PortMetrics} {loose tight : DetectParams}
    (tightens : Tightens loose tight) (clean : Clean m tight) : Clean m loose where
  connected := clean.connected
  stalls enabled := clean.stalls (tightens.failOnStall enabled)
  disconnects enabled := clean.disconnects (tightens.failOnMidstreamDisconnect enabled)
  sent := clean.sent
  returns enabled := clean.returns (tightens.failOnNoReturn enabled)
  ratio := clean.ratio.trans tightens.maxConnectFailRatio
  throughput enabled := by
    have floor := tightens.minThroughputKbps enabled
    exact floor.trans (clean.throughput (lt_of_lt_of_le enabled floor))
  rtt enabled := by
    obtain ⟨still, ceiling⟩ := tightens.maxRttP95Ms enabled
    exact (clean.rtt still).trans ceiling

/-- Worse metrics and tighter parameters never turn a failure into a pass. -/
theorem evaluate_monotone :
    (∀ (d : DetectParams) (portId : Int) (first second : PortMetrics),
      AtLeastAsBad first second → (evaluate first d portId).verdict = .fail →
        (evaluate second d portId).verdict = .fail) ∧
    (∀ (m : PortMetrics) (portId : Int) (loose tight : DetectParams),
      Tightens loose tight → (evaluate m loose portId).verdict = .fail →
        (evaluate m tight portId).verdict = .fail) := by
  constructor
  · intro d portId first second worse failed
    rw [evaluate_fail_iff] at failed ⊢
    exact fun clean => failed (clean.of_worse worse)
  · intro m portId loose tight tightens failed
    rw [evaluate_fail_iff] at failed ⊢
    exact fun clean => failed (clean.of_tighter tightens)

/-- A port over which everything came back. -/
def steadyPort : PortMetrics where
  protocol := "tcp"
  endpoint := "127.0.0.1:9000"
  durationSecs := 10
  connectionsAttempted := 4
  connected := 4
  connectFailed := 0
  midstreamDisconnects := 0
  flowsNoReturn := 0
  stalls := []
  bytesSent := 1000
  bytesRecv := 1000
  avgDownKbps := 4 / 5
  avgUpKbps := 4 / 5
  udpSent := 0
  udpRecv := 0
  rtt := {}
  throughputSeries := []
  errors := []

/-- A floor above the throughput fails the port, and fails it still when half of its
flows do not connect and under a higher floor. -/
theorem evaluate_monotone_floor :
    (evaluate { steadyPort with connected := 2, connectFailed := 2 }
        { minThroughputKbps := 1 } 7).verdict = .fail ∧
      (evaluate steadyPort { minThroughputKbps := 2 } 7).verdict = .fail := by
  have failed : (evaluate steadyPort { minThroughputKbps := 1 } 7).verdict = .fail := by
    decide +kernel
  constructor
  · refine evaluate_monotone.1 _ _ steadyPort _ ?_ failed
    constructor <;> decide +kernel
  · refine evaluate_monotone.2 _ _ { minThroughputKbps := 1 } _ ?_ failed
    constructor <;> decide +kernel

end Npt.Ci.Detect
