import Mathlib.Tactic.FieldSimp
import Npt.Core.OrderStatistics
import Npt.Shared.Report

/-!
Contract: the averages of a report against its test duration.

The summary measures the test from the first start to the last end. The performance
section divides by the longest ended connection, in whole seconds, so its averages
are averages over the test only when that connection spans the test.

Owns: both durations and when they agree.

Does not own: the other sections.
-/

namespace Npt.Shared

open Npt.Core

def seconds (nanos : Nat) : Rat := (nanos : Rat) / 10 ^ 9

/-- The averages of a report, times its test duration, are its totals. -/
structure TestReport.AveragesOverTest (report : TestReport) : Prop where
  throughput : ∃ mbps, report.performance.avgThroughputMbps = some mbps ∧
    mbps * seconds report.summary.testDuration * 1000000 =
      8 * ((report.summary.totalBytesSent.toNat + report.summary.totalBytesReceived.toNat : Nat) :
        Rat)
  connections : report.performance.connectionsPerSecond * seconds report.summary.testDuration =
    report.summary.totalConnections

/-- The connection starts first, ends last and lasts whole seconds. -/
structure ConnectionMetrics.Spans (connection : ConnectionMetrics)
    (connections : List ConnectionMetrics) (finish : Nat) : Prop where
  ended : connection.endTime = some finish
  first : ∀ other ∈ connections, connection.startTime ≤ other.startTime
  last : ∀ other ∈ connections, ∀ otherFinish, other.endTime = some otherFinish →
    otherFinish ≤ finish
  whole : 10 ^ 9 ∣ finish - connection.startTime

/-- The test is as long as the performance section takes it to be: a connection spans
it, or no connection has ended and the first has lasted one second. -/
def SpannedTest (later : Nat) (connections : List ConnectionMetrics) : Prop :=
  (∃ connection ∈ connections, ∃ finish, connection.Spans connections finish) ∨
    (∀ connection ∈ connections, connection.endTime = none) ∧
      ∃ connection ∈ connections, (∀ other ∈ connections, connection.startTime ≤ other.startTime) ∧
        later = connection.startTime + 10 ^ 9

/-- The report's two byte totals, each of them a sum modulo 2^64, add up to a `u64`. -/
def BytesFit (connections : List ConnectionMetrics) : Prop :=
  (connections.map ConnectionMetrics.bytesSent).sum.toNat +
    (connections.map ConnectionMetrics.bytesReceived).sum.toNat < 2 ^ 64

section Durations

variable {connections : List ConnectionMetrics} {now later : Nat}

/-- The whole seconds of a connection that has an end. -/
def ConnectionMetrics.wholeSeconds (connection : ConnectionMetrics) : Option Int :=
  connection.endTime.map (fun finish => ((finish : Int) - connection.startTime).tdiv (10 ^ 9))

theorem ConnectionMetrics.wholeSeconds_of_ended {connection : ConnectionMetrics} {finish : Nat}
    (ended : connection.endTime = some finish) :
    connection.wholeSeconds = some (((finish : Int) - connection.startTime).tdiv (10 ^ 9)) := by
  rw [wholeSeconds, ended]
  rfl

/-- Whole seconds of a length of time do not exceed it. -/
theorem tdiv_mul_le {nanos : Int} (positive : 0 < nanos.tdiv (10 ^ 9)) :
    nanos.tdiv (10 ^ 9) * 10 ^ 9 ≤ nanos := by
  have nonnegative : 0 ≤ nanos := by
    by_contra negative
    have bound := Int.tdiv_le_tdiv (by norm_num : (0 : Int) < 10 ^ 9) (not_le.mp negative).le
    rw [Int.zero_tdiv] at bound
    omega
  rw [Int.tdiv_eq_ediv_of_nonneg nonnegative]
  exact Int.ediv_mul_le nanos (by norm_num)

/-- The summary's duration of a test whose first start is known. -/
theorem testDuration_eq {first : ConnectionMetrics} (member : first ∈ connections)
    (earliest : ∀ other ∈ connections, first.startTime ≤ other.startTime) {finish : Nat}
    (latest : (connections.filterMap ConnectionMetrics.endTime).max?.getD later = finish) :
    (TestReport.calculateSummary now later connections).testDuration =
      finish - first.startTime := by
  have start : (connections.map ConnectionMetrics.startTime).min? = some first.startTime := by
    rw [List.min?_eq_some_iff]
    refine ⟨List.mem_map_of_mem member, fun other present => ?_⟩
    obtain ⟨connection, inside, rfl⟩ := List.mem_map.mp present
    exact earliest connection inside
  simp only [TestReport.calculateSummary, start, latest, Option.getD_some]

theorem exists_first (nonempty : connections ≠ []) :
    ∃ first ∈ connections, ∀ other ∈ connections, first.startTime ≤ other.startTime := by
  obtain ⟨start, isMin⟩ := Option.isSome_iff_exists.mp (List.isSome_min?_of_ne_nil
    (List.map_eq_nil_iff.not.mpr nonempty : connections.map ConnectionMetrics.startTime ≠ []))
  obtain ⟨present, least⟩ := List.min?_eq_some_iff.mp isMin
  obtain ⟨first, member, rfl⟩ := List.mem_map.mp present
  exact ⟨first, member, fun other inside => least _ (List.mem_map_of_mem inside)⟩

/-- Both durations without an ended connection. -/
theorem durations_of_open (later : Nat) (none : ∀ connection ∈ connections, connection.endTime = none) :
    TestReport.totalDuration connections = 1 ∧
      (connections.filterMap ConnectionMetrics.endTime).max?.getD later = later := by
  have noEnds : connections.filterMap ConnectionMetrics.endTime = [] := by
    simpa [List.filterMap_eq_nil_iff] using none
  have noDurations : connections.filterMap ConnectionMetrics.wholeSeconds = [] := by
    rw [List.filterMap_eq_nil_iff]
    intro connection member
    simp [ConnectionMetrics.wholeSeconds, none connection member]
  constructor
  · show (connections.filterMap ConnectionMetrics.wholeSeconds).max?.getD 1 = 1
    rw [noDurations]
    rfl
  · rw [noEnds]
    rfl

/-- The duration of the performance section is one of the whole seconds, and no other
is longer. -/
theorem exists_longest (some : ∃ connection ∈ connections, connection.endTime.isSome = true) :
    ∃ longest ∈ connections, ∃ finish, longest.endTime = .some finish ∧
      TestReport.totalDuration connections =
        ((finish : Int) - longest.startTime).tdiv (10 ^ 9) ∧
      ∀ other ∈ connections, ∀ otherFinish, other.endTime = .some otherFinish →
        ((otherFinish : Int) - other.startTime).tdiv (10 ^ 9) ≤
          TestReport.totalDuration connections := by
  obtain ⟨ended, member, has⟩ := some
  obtain ⟨last, endTime⟩ := Option.isSome_iff_exists.mp has
  obtain ⟨longest, longMember, duration, lasts, same, bound⟩ :=
    exists_max_filterMap ConnectionMetrics.wholeSeconds 1 ⟨ended, member, by
      rw [ended.wholeSeconds_of_ended endTime]
      rfl⟩
  obtain ⟨finish, finishes⟩ : ∃ finish, longest.endTime = .some finish := by
    cases closes : longest.endTime with
    | none => simp [ConnectionMetrics.wholeSeconds, closes] at lasts
    | some finish => exact ⟨finish, rfl⟩
  have total : TestReport.totalDuration connections = duration := same
  rw [longest.wholeSeconds_of_ended finishes, Option.some.injEq] at lasts
  refine ⟨longest, longMember, finish, finishes, total.trans lasts.symm, ?_⟩
  intro other inside otherFinish closes
  rw [total]
  exact bound other inside _ (other.wholeSeconds_of_ended closes)

/-- Without an ended connection the averages divide by one second. -/
theorem totalDuration_eq_iff_of_open {first : ConnectionMetrics} (firstMember : first ∈ connections)
    (earliest : ∀ other ∈ connections, first.startTime ≤ other.startTime)
    (none : ∀ connection ∈ connections, connection.endTime = none)
    (positive : 0 < (TestReport.calculateSummary now later connections).testDuration) :
    ((TestReport.calculateSummary now later connections).testDuration : Int) =
        TestReport.totalDuration connections * 10 ^ 9 ↔
      SpannedTest later connections := by
  obtain ⟨one, latest⟩ := durations_of_open later none
  rw [testDuration_eq firstMember earliest latest] at positive ⊢
  rw [one]
  constructor
  · intro same
    exact Or.inr ⟨none, first, firstMember, earliest, by omega⟩
  · rintro (⟨connection, member, finish, spans⟩ | ⟨-, connection, member, least, same⟩)
    · have ended := spans.ended
      rw [none connection member] at ended
      cases ended
    · have start := Nat.le_antisymm (earliest connection member) (least first firstMember)
      omega

/-- With one they divide by the longest. -/
theorem totalDuration_eq_iff_of_ended {first : ConnectionMetrics}
    (firstMember : first ∈ connections)
    (earliest : ∀ other ∈ connections, first.startTime ≤ other.startTime)
    (some : ∃ connection ∈ connections, connection.endTime.isSome = true)
    (positive : 0 < (TestReport.calculateSummary now later connections).testDuration) :
    ((TestReport.calculateSummary now later connections).testDuration : Int) =
        TestReport.totalDuration connections * 10 ^ 9 ↔
      SpannedTest later connections := by
  obtain ⟨last, lastMember, finish, ends, latest, last'⟩ :=
    exists_max_filterMap ConnectionMetrics.endTime later some
  obtain ⟨longest, longMember, longFinish, longEnds, total, bound⟩ := exists_longest some
  rw [testDuration_eq firstMember earliest latest] at positive ⊢
  have start := earliest longest longMember
  have stop := last' longest longMember longFinish longEnds
  constructor
  · intro equal
    have within : TestReport.totalDuration connections * 10 ^ 9 ≤
        (longFinish : Int) - longest.startTime := by
      rw [total]
      exact tdiv_mul_le (by omega)
    -- No connection is longer than the test, so this one starts and ends with it.
    obtain rfl : longFinish = finish := by omega
    have startSame : longest.startTime = first.startTime := by omega
    refine Or.inl ⟨longest, longMember, longFinish, longEnds, ?_, last', ?_⟩
    · rw [startSame]
      exact earliest
    · rw [startSame]
      omega
  · rintro (⟨connection, member, connectionFinish, spans⟩ | ⟨no, -⟩)
    · have first' := Nat.le_antisymm (spans.first first firstMember) (earliest connection member)
      obtain rfl := Nat.le_antisymm (last' connection member _ spans.ended)
        (spans.last last lastMember finish ends)
      obtain ⟨count, length⟩ := spans.whole
      have most := bound connection member _ spans.ended
      have span : (connectionFinish : Int) - first.startTime = 10 ^ 9 * count := by omega
      have least := Int.tdiv_le_tdiv (by norm_num : (0 : Int) < 10 ^ 9)
        (show (longFinish : Int) - longest.startTime ≤ connectionFinish - first.startTime by
          omega)
      rw [first', span, Int.mul_tdiv_cancel_left _ (by norm_num)] at most
      rw [← total, span, Int.mul_tdiv_cancel_left _ (by norm_num)] at least
      omega
    · obtain ⟨connection, member, has⟩ := some
      rw [no connection member] at has
      cases has

/-- The averages divide by the duration of the test exactly when it is spanned. -/
theorem totalDuration_eq_iff (nonempty : connections ≠ [])
    (positive : 0 < (TestReport.calculateSummary now later connections).testDuration) :
    ((TestReport.calculateSummary now later connections).testDuration : Int) =
        TestReport.totalDuration connections * 10 ^ 9 ↔
      SpannedTest later connections := by
  obtain ⟨first, firstMember, earliest⟩ := exists_first nonempty
  by_cases none : ∀ connection ∈ connections, connection.endTime = none
  · exact totalDuration_eq_iff_of_open firstMember earliest none positive
  · push Not at none
    exact totalDuration_eq_iff_of_ended firstMember earliest
      (by simpa [Option.isSome_iff_ne_none] using none) positive

/-- The bytes that the performance section adds up. -/
def totalBytes (connections : List ConnectionMetrics) : UInt64 :=
  (connections.map (fun connection => connection.bytesSent + connection.bytesReceived)).sum

/-- They are the bytes of the summary when these fit. -/
theorem totalBytes_eq_iff (connections : List ConnectionMetrics) :
    (totalBytes connections).toNat = (connections.map ConnectionMetrics.bytesSent).sum.toNat +
      (connections.map ConnectionMetrics.bytesReceived).sum.toNat ↔ BytesFit connections := by
  rw [BytesFit]
  constructor
  · intro same
    rw [← same]
    exact UInt64.toNat_lt _
  · intro fits
    rw [totalBytes, List.sum_map_add, UInt64.toNat_add, Nat.mod_eq_of_lt fits]

/-- A count divided by a duration is a rate over the test exactly when the durations are
one. -/
theorem rate_eq_iff (duration : Rat) {count length : Rat} (some : 0 < count) (positive : 0 < length) :
    (if 0 < duration then count / duration else 0) * (length / 10 ^ 9) = count ↔
      length = duration * 10 ^ 9 := by
  by_cases here : 0 < duration
  · rw [if_pos here, div_mul_div_comm, div_eq_iff (by positivity), mul_right_inj' some.ne']
  · rw [if_neg here, zero_mul]
    constructor
    · intro none
      exact absurd none some.ne
    · intro same
      linarith

/-- When a report's averages are averages over its test: no connections, or bytes that
fit and a test as long as the performance section takes it to be. -/
theorem averages_over_test_iff (now later : Nat) (connections : List ConnectionMetrics)
    (throughputSamples : List ThroughputSample) (latencySamples : List LatencySample)
    (errorSamples : List ErrorSample) (includeRawData : Bool)
    (positive : 0 < (TestReport.generate now later connections throughputSamples latencySamples
      errorSamples includeRawData).summary.testDuration) :
    (TestReport.generate now later connections throughputSamples latencySamples errorSamples
        includeRawData).AveragesOverTest ↔
      connections = [] ∨ BytesFit connections ∧ SpannedTest later connections := by
  by_cases empty : connections = []
  · subst empty
    refine iff_of_true ⟨⟨0, ?_, ?_⟩, ?_⟩ (Or.inl rfl)
    · simp [TestReport.generate, TestReport.calculatePerformance, TestReport.totalDuration]
    · simp [TestReport.generate, TestReport.calculateSummary]
    · simp [TestReport.generate, TestReport.calculatePerformance, TestReport.calculateSummary]
  · have count : (0 : Rat) < connections.length := Nat.cast_pos.mpr (List.length_pos_iff.mpr empty)
    change 0 < (TestReport.calculateSummary now later connections).testDuration at positive
    rw [← totalBytes_eq_iff, ← totalDuration_eq_iff empty positive, or_iff_right empty]
    have length : (0 : Rat) <
        ((TestReport.calculateSummary now later connections).testDuration : Rat) :=
      Nat.cast_pos.mpr positive
    have rates := rate_eq_iff (TestReport.totalDuration connections) count length
    have nonzero (same : ((TestReport.calculateSummary now later connections).testDuration : Rat) =
        TestReport.totalDuration connections * 10 ^ 9) :
        (TestReport.totalDuration connections : Rat) ≠ 0 := by
      rintro zero
      rw [zero, zero_mul] at same
      exact length.ne' same
    have bytes (nonzero : (TestReport.totalDuration connections : Rat) ≠ 0) :
        (TestReport.calculatePerformance connections throughputSamples).avgThroughputMbps =
          some (((totalBytes connections).toNat : Rat) * 8 /
            (TestReport.totalDuration connections * 1000000)) :=
      if_neg nonzero
    -- The rate of connections fixes the duration, and the rate of bytes then the bytes.
    constructor
    · rintro ⟨⟨mbps, average, throughput⟩, rate⟩
      have same := rates.mp rate
      rw [show (TestReport.generate now later connections throughputSamples latencySamples
        errorSamples includeRawData).performance.avgThroughputMbps = _ from bytes (nonzero same),
        Option.some.injEq] at average
      refine ⟨?_, by exact_mod_cast same⟩
      change _ * (((TestReport.calculateSummary now later connections).testDuration : Rat) / _) * _
        = _ at throughput
      rw [← average, same] at throughput
      have duration := nonzero same
      field_simp at throughput
      exact_mod_cast throughput
    · rintro ⟨fits, spanned⟩
      have same : ((TestReport.calculateSummary now later connections).testDuration : Rat) =
          TestReport.totalDuration connections * 10 ^ 9 := by exact_mod_cast spanned
      refine ⟨⟨_, bytes (nonzero same), ?_⟩, rates.mpr same⟩
      change _ * (((TestReport.calculateSummary now later connections).testDuration : Rat) / _) * _
        = 8 * (((connections.map ConnectionMetrics.bytesSent).sum.toNat +
          (connections.map ConnectionMetrics.bytesReceived).sum.toNat : Nat) : Rat)
      have duration := nonzero same
      rw [← fits, same]
      field_simp

end Durations

/-- A connection that sent a megabyte. -/
def sender (id : Nat) (start finish : Nat) : ConnectionMetrics where
  id := ⟨BitVec.ofNat 128 id⟩
  connectionType := .tcp
  startTime := start
  endTime := some finish
  bytesSent := 1000000

/-- Two seconds, and a shorter connection inside them. -/
theorem averages_over_test_iff_nested :
    (TestReport.generate 0 0 [sender 1 0 2000000000, sender 2 500000000 900000000] [] [] []
      false).AveragesOverTest := by
  refine (averages_over_test_iff 0 0 _ [] [] [] false (by decide +kernel)).mpr
    (Or.inr ⟨by unfold BytesFit; decide, Or.inl ⟨_, List.mem_cons_self, 2000000000, ?_⟩⟩)
  exact
    { ended := rfl
      first := by decide
      last := by decide
      whole := by decide }

/-- Two seconds made of two connections of one second each. -/
theorem averages_of_consecutive_connections :
    0 < (TestReport.generate 0 0 [sender 1 0 1000000000, sender 2 1000000000 2000000000] [] [] []
        false).summary.testDuration ∧
      ¬(TestReport.generate 0 0 [sender 1 0 1000000000, sender 2 1000000000 2000000000] [] [] []
        false).AveragesOverTest := by
  refine ⟨by decide +kernel, fun averages => ?_⟩
  exact absurd averages.connections (by decide +kernel)

end Npt.Shared
