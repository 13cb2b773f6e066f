import Mathlib.Algebra.Order.Floor.Ring
import Mathlib.Data.List.Infix
import Mathlib.Data.Rat.Floor
import Npt.Ci.Client.State

/-!
Contract: the verdict over a port's metrics (`ci/src/detect.rs`).

Owns: `evaluate` with every reason it pushes, and `evaluate_pass_iff`, which says
which metrics pass.

Does not own: the metrics. `f64` values are exact rationals.
-/

namespace Npt.Ci.Detect

open Npt.Ci.Client
open Npt.Ci.Config

inductive Verdict where
  | pass
  | fail
  | skipped
deriving DecidableEq, Repr

structure PortVerdict where
  portId : Int
  verdict : Verdict
  reasons : List String
deriving DecidableEq, Repr

/-- The nearest integer, ties to even. -/
def roundHalfEven (value : Rat) : Int :=
  let below := value.floor
  let rest := value - below
  if rest < 1 / 2 then below
  else if 1 / 2 < rest then below + 1
  else if below % 2 = 0 then below
  else below + 1

/-- The `{:.1}` format. -/
def tenths (value : Rat) : String :=
  let sign := if value < 0 then "-" else ""
  let digits := (roundHalfEven (|value| * 10)).toNat
  s!"{sign}{digits / 10}.{digits % 10}"

/-- One conditional `reasons.push`. -/
def rule (fires : Prop) [Decidable fires] (reason : String) : List String :=
  if fires then [reason] else []

@[simp] theorem rule_eq_nil {fires : Prop} [Decidable fires] {reason : String} :
    rule fires reason = [] ↔ ¬fires := by
  simp [rule]

section Rules

variable (m : PortMetrics) (d : DetectParams)

def worstGap : Nat := (m.stalls.map StallEvent.gapMs).foldl max 0

def failRatio : Rat := (m.connectFailed : Rat) / ((max m.connectionsAttempted 1 : Nat) : Rat)

/-- The error shown when nothing was sent. -/
def sendHint : String :=
  ((m.errors.find? (fun error => decide ("send".toList <:+: error.toList))).or
    m.errors.head?).getD "no bytes left the client"

def stallReasons : List String :=
  rule (d.failOnStall = true ∧ m.stalls ≠ [])
    s!"{m.stalls.length} stall event(s) (断流), worst gap {worstGap m} ms"

def disconnectReasons : List String :=
  rule (d.failOnMidstreamDisconnect = true ∧ 0 < m.midstreamDisconnects)
    s!"{m.midstreamDisconnects} mid-stream disconnect(s) before test end"

def returnReasons : List String :=
  if 0 < m.connected ∧ m.bytesSent = 0 then
    [s!"client sent 0 bytes — all sends failed ({sendHint m}); " ++
      "check payload_bytes vs MTU / UDP datagram limit"]
  else
    rule (d.failOnNoReturn = true ∧ 0 < m.flowsNoReturn)
      s!"{m.flowsNoReturn} flow(s) got zero return traffic (one-way dead / 单通)"

def ratioReasons : List String :=
  rule (d.maxConnectFailRatio < failRatio m)
    (s!"connect-fail ratio {tenths (failRatio m * 100)}% exceeds limit " ++
      s!"{tenths (d.maxConnectFailRatio * 100)}%")

def throughputReasons : List String :=
  rule (0 < d.minThroughputKbps ∧ m.avgDownKbps < d.minThroughputKbps)
    (s!"avg download {tenths m.avgDownKbps} kbit/s below floor " ++
      s!"{tenths d.minThroughputKbps} kbit/s")

def rttReasons : List String :=
  rule (0 < d.maxRttP95Ms ∧ d.maxRttP95Ms < m.rtt.p95Ms)
    s!"p95 RTT {tenths m.rtt.p95Ms} ms exceeds limit {tenths d.maxRttP95Ms} ms"

/-- What `evaluate` pushes once some flow connected, in its order. -/
def reasons : List String :=
  stallReasons m d ++ disconnectReasons m d ++ returnReasons m d ++ ratioReasons m d ++
    throughputReasons m d ++ rttReasons m d

/-- `evaluate`. -/
def evaluate (portId : Int) : PortVerdict :=
  if m.connected = 0 then
    { portId := portId
      verdict := .fail
      reasons := [s!"no connection succeeded ({m.connectFailed}/{m.connectionsAttempted} " ++
        "attempts failed)"] }
  else
    { portId := portId
      verdict := if reasons m d = [] then .pass else .fail
      reasons := reasons m d }

/-! ## What passes -/

/-- No rule of `evaluate` fires. -/
structure Clean : Prop where
  connected : 0 < m.connected
  stalls : d.failOnStall = true → m.stalls = []
  disconnects : d.failOnMidstreamDisconnect = true → m.midstreamDisconnects = 0
  sent : 0 < m.bytesSent
  returns : d.failOnNoReturn = true → m.flowsNoReturn = 0
  ratio : failRatio m ≤ d.maxConnectFailRatio
  throughput : 0 < d.minThroughputKbps → d.minThroughputKbps ≤ m.avgDownKbps
  rtt : 0 < d.maxRttP95Ms → m.rtt.p95Ms ≤ d.maxRttP95Ms

theorem returnReasons_eq_nil (connected : 0 < m.connected) :
    returnReasons m d = [] ↔ 0 < m.bytesSent ∧ (d.failOnNoReturn = true → m.flowsNoReturn = 0) := by
  unfold returnReasons
  by_cases sent : m.bytesSent = 0
  · simp [connected, sent]
  · have positive : 0 < m.bytesSent := Nat.pos_of_ne_zero sent
    simp [sent, positive]

theorem reasons_eq_nil_iff (connected : 0 < m.connected) : reasons m d = [] ↔ Clean m d := by
  simp only [reasons, List.append_eq_nil_iff, returnReasons_eq_nil m d connected, stallReasons,
    disconnectReasons, ratioReasons, throughputReasons, rttReasons, rule_eq_nil]
  constructor
  · rintro ⟨⟨⟨⟨⟨stalls, disconnects⟩, sent, returns⟩, ratio⟩, throughput⟩, rtt⟩
    exact
      { connected := connected
        stalls := by simpa using stalls
        disconnects := by simpa using disconnects
        sent := sent
        returns := returns
        ratio := not_lt.mp ratio
        throughput := by simpa using throughput
        rtt := by simpa using rtt }
  · intro clean
    refine ⟨⟨⟨⟨⟨?_, ?_⟩, clean.sent, clean.returns⟩, not_lt.mpr clean.ratio⟩, ?_⟩, ?_⟩
    · simpa using clean.stalls
    · simpa using clean.disconnects
    · simpa using clean.throughput
    · simpa using clean.rtt

theorem evaluate_pass_iff (portId : Int) :
    (evaluate m d portId).verdict = .pass ↔ Clean m d := by
  unfold evaluate
  by_cases zero : m.connected = 0
  · rw [if_pos zero]
    constructor
    · intro passed
      simp at passed
    · intro clean
      exact absurd zero (Nat.ne_of_gt clean.connected)
  · rw [if_neg zero, ← reasons_eq_nil_iff m d (Nat.pos_of_ne_zero zero)]
    by_cases silent : reasons m d = []
    · simp [silent]
    · simp [silent]

/-- `evaluate` passes or fails. -/
theorem evaluate_fail_iff (portId : Int) : (evaluate m d portId).verdict = .fail ↔ ¬Clean m d := by
  rw [← evaluate_pass_iff m d portId]
  unfold evaluate
  split
  · simp
  · by_cases silent : reasons m d = [] <;> simp [silent]

end Rules

end Npt.Ci.Detect
