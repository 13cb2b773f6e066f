import Mathlib.Algebra.Order.Group.Multiset
import Npt.Core.Latest
import Npt.Core.Ledger
import Npt.Core.TableSum
import Npt.Shared.Conservation
import Npt.Shared.Report

/-!
Contract: the errors of a report against the errors of a run
(`record_error_with_detail` in `shared/src/metrics.rs` and `calculate_error_stats` in
`shared/src/report.rs`).

An error with its details goes to the record of its connection and then, after the
record's lock is free again, to the collector's own list. A call is one step here, so the
two are compared between calls. The report is made of the records, in the order in which
the map lists them.

Owns: that the two agree over a run, and what the report says of each error.

Does not own: the error samples, or the files that a report is exported to.
-/

namespace Npt.Shared

open Npt.Core
open Npt.Core.Machine

/-- The errors that a call counts. -/
def ConnectionCall.errors : ConnectionCall → Nat
  | .recordError => 1
  | .recordErrorWithDetail .. => 1
  | _ => 0

/-- The errors that a step counts. -/
def countedErrors (state : CollectorState) : CollectorLabel → Nat
  | .operation (.record id call) => if state.collector.Registered id then call.errors else 0
  | _ => 0

/-- The details that a step keeps. -/
def keptDetails (entry : CollectorState × CollectorLabel) : List ErrorDetail :=
  match entry.2 with
  | .operation (.record id call) =>
      if entry.1.collector.Registered id then call.details entry.1.now id else []
  | _ => []

/-! ## What one step does to the errors -/

section Steps

variable (now : Nat) (id : Uuid) (call : ConnectionCall) (connection : ConnectionMetrics)

theorem errors_change :
    (call.change now id connection).errors = connection.errors + UInt64.ofNat call.errors := by
  cases call with
  | recordError | recordErrorWithDetail => rfl
  | _ => exact (UInt64.add_zero _).symm

theorem errorDetails_change :
    (call.change now id connection).errorDetails =
      connection.errorDetails ++ call.details now id := by
  cases call with
  | recordErrorWithDetail => rfl
  | _ => exact (List.append_nil _).symm

end Steps

/-- The records' errors and their details, however the records are listed. -/
def MetricsCollector.errorSum (metrics : MetricsCollector) : UInt64 :=
  (metrics.connections.records.map ConnectionMetrics.errors).sum

def MetricsCollector.detailSum (metrics : MetricsCollector) : Multiset ErrorDetail :=
  (metrics.connections.records.map fun connection =>
    (connection.errorDetails : Multiset ErrorDetail)).sum

/-- What a step does to the errors and the clock. -/
structure ErrorMove (state : CollectorState) (label : CollectorLabel) (next : CollectorState) :
    Prop where
  listed : next.collector.errorDetails =
    state.collector.errorDetails ++ keptDetails (state, label)
  counted : next.collector.errorSum =
    state.collector.errorSum + UInt64.ofNat (countedErrors state label)
  kept : next.collector.detailSum = state.collector.detailSum + keptDetails (state, label)
  clock : state.now ≤ next.now

section Operations

variable (now : Nat) (metrics : MetricsCollector)

theorem sums_insert {connection : ConnectionMetrics} (absent : ¬metrics.Registered connection.id)
    (errors : connection.errors = 0) (details : connection.errorDetails = []) :
    (metrics.insert connection).errorSum = metrics.errorSum ∧
      (metrics.insert connection).detailSum = metrics.detailSum := by
  have vacant : metrics.connections.get? connection.id = none :=
    Option.not_isSome_iff_eq_none.mp absent
  constructor
  · rw [MetricsCollector.errorSum, MetricsCollector.insert, Table.sum_insert _ _ vacant, errors]
    exact UInt64.add_zero _
  · rw [MetricsCollector.detailSum, MetricsCollector.insert, Table.sum_insert _ _ vacant, details]
    exact add_zero _

theorem sums_apply (id : Uuid) (call : ConnectionCall) :
    (call.apply now metrics id).errorSum =
        metrics.errorSum + UInt64.ofNat (if metrics.Registered id then call.errors else 0) ∧
      (call.apply now metrics id).detailSum =
        metrics.detailSum + (if metrics.Registered id then call.details now id else [] :
          List ErrorDetail) := by
  rw [MetricsCollector.errorSum, MetricsCollector.detailSum, call.connections_apply]
  cases found : metrics.connections.get? id with
  | none =>
      have absent : ¬metrics.Registered id := by simp [MetricsCollector.Registered, found]
      rw [Table.modify_of_absent _ found, if_neg absent, if_neg absent]
      exact ⟨(UInt64.add_zero _).symm, (add_zero _).symm⟩
  | some old =>
      have present : metrics.Registered id := by simp [MetricsCollector.Registered, found]
      rw [if_pos present, if_pos present]
      constructor
      · have moved := metrics.connections.sum_modify ConnectionMetrics.errors found
          (call.change now id) (call.change_id now id)
        rw [errors_change, ← add_assoc, add_right_comm] at moved
        exact add_right_cancel moved
      · have moved := metrics.connections.sum_modify (fun connection : ConnectionMetrics =>
          (connection.errorDetails : Multiset ErrorDetail)) found
          (call.change now id) (call.change_id now id)
        rw [errorDetails_change, ← Multiset.coe_add, ← add_assoc, add_right_comm] at moved
        exact add_right_cancel moved

end Operations

theorem errorMove_of_step {state next : CollectorState} {label : CollectorLabel}
    (step : collecting.step state label = some next) : ErrorMove state label next := by
  change state.step label = some next at step
  have still (sampled : SampledCollector)
      (same : sampled.toMetricsCollector = state.collector.toMetricsCollector)
      (quiet : keptDetails (state, label) = []) (none : countedErrors state label = 0) :
      ErrorMove state label { state with collector := sampled } := by
    refine ⟨?_, ?_, ?_, Nat.le_refl _⟩
    · simp [same, quiet]
    · simp [same, none]
    · simp [same, quiet]
  cases label with
  | elapse nanos =>
      obtain rfl := Option.some.inj step
      exact ⟨by simp [keptDetails], by simp [countedErrors], by simp [keptDetails],
        Nat.le_add_right _ _⟩
  | sampleLatency | sampleErrors =>
      obtain rfl := Option.some.inj step
      exact still _ rfl rfl rfl
  | sampleThroughput =>
      obtain rfl := Option.some.inj step
      refine still _ ?_ rfl rfl
      unfold SampledCollector.sampleThroughput
      split <;> rfl
  | operation operation =>
      simp only [CollectorState.step] at step
      split at step
      · rename_i fresh
        obtain rfl := Option.some.inj step
        cases operation with
        | startConnection | startConnectionWithActivity =>
            have absent := fresh _ rfl
            obtain ⟨errors, details⟩ := sums_insert state.collector.toMetricsCollector absent rfl rfl
            exact ⟨(List.append_nil _).symm, errors.trans (UInt64.add_zero _).symm,
              details.trans (add_zero _).symm, Nat.le_refl _⟩
        | record id call =>
            obtain ⟨errors, details⟩ := sums_apply state.now state.collector.toMetricsCollector id call
            exact ⟨call.errorDetails_apply _ _ _, errors, details, Nat.le_refl _⟩
        | incrementActiveUsers =>
            exact ⟨(List.append_nil _).symm, (UInt64.add_zero _).symm, (add_zero _).symm,
              Nat.le_refl _⟩
        | decrementActiveUsers =>
            simp only [Operation.apply, MetricsCollector.decrementActiveUsers]
            split <;>
              exact ⟨(List.append_nil _).symm, (UInt64.add_zero _).symm, (add_zero _).symm,
                Nat.le_refl _⟩
      · cases step

/-! ## Over a run -/

/-- The details that a run keeps, in the order in which they came. -/
def detailsOf (trace : List (CollectorState × CollectorLabel)) : List ErrorDetail :=
  trace.flatMap keptDetails

/-- What the collector holds of a run's errors. -/
structure ErrorsHeld (trace : List (CollectorState × CollectorLabel)) (state : CollectorState) :
    Prop where
  listed : state.collector.errorDetails = detailsOf trace
  counted : state.collector.errorSum = UInt64.ofNat (tally countedErrors trace)
  kept : state.collector.detailSum = detailsOf trace
  ordered : ((detailsOf trace).map ErrorDetail.timestamp).Pairwise (· ≤ ·)
  past : ∀ detail ∈ detailsOf trace, detail.timestamp ≤ state.now

variable {start : Nat} {trace : List (CollectorState × CollectorLabel)} {state : CollectorState}

theorem timestamp_of_mem_keptDetails {label : CollectorLabel} {detail : ErrorDetail}
    (member : detail ∈ keptDetails (state, label)) : detail.timestamp = state.now := by
  unfold keptDetails at member
  split at member
  · rename_i id call same
    split at member
    · cases call with
      | recordErrorWithDetail errorType message context =>
          rw [ConnectionCall.details, List.mem_singleton] at member
          rw [member]
      | _ => cases member
    · cases member
  · cases member

theorem errorsHeld_of_run (run : collecting.Run (startCollecting start) trace state) :
    ErrorsHeld trace state := by
  refine run.history ErrorsHeld ⟨rfl, rfl, rfl, List.Pairwise.nil, by simp [detailsOf]⟩ ?_
  intro trace state label next before held step
  have move := errorMove_of_step step
  have more : detailsOf (trace ++ [(state, label)]) =
      detailsOf trace ++ keptDetails (state, label) := by
    simp [detailsOf]
  have now {detail : ErrorDetail} (member : detail ∈ keptDetails (state, label)) :
      detail.timestamp = state.now := timestamp_of_mem_keptDetails member
  refine ⟨?_, ?_, ?_, ?_, ?_⟩
  · rw [more, move.listed, held.listed]
  · rw [tally_snoc, move.counted, held.counted, UInt64.ofNat_add]
  · rw [more, move.kept, held.kept, Multiset.coe_add]
  · rw [more, List.map_append, List.pairwise_append]
    refine ⟨held.ordered, ?_, ?_⟩
    · rw [List.pairwise_map]
      exact List.pairwise_of_forall_mem_list fun left leftIn right rightIn =>
        (now leftIn).le.trans (now rightIn).ge
    · intro early earlyIn late lateIn
      obtain ⟨detail, member, rfl⟩ := List.mem_map.mp earlyIn
      obtain ⟨other, otherMember, rfl⟩ := List.mem_map.mp lateIn
      exact (held.past detail member).trans (now otherMember).ge
  · intro detail member
    rw [more, List.mem_append] at member
    refine le_trans ?_ move.clock
    rcases member with earlier | new
    · exact held.past detail earlier
    · exact (now new).le

/-! ## The report -/

theorem debug_injective {left right : ErrorType} (same : left.debug = right.debug) :
    left = right := by
  revert same
  cases left <;> cases right <;> decide

/-- Counting a name adds one to its own count. -/
theorem lookup_countError (counts : List (String × UInt64)) (name other : String) :
    ((TestReport.countError counts name).lookup other).getD 0 =
      (counts.lookup other).getD 0 + if other = name then 1 else 0 := by
  induction counts with
  | nil =>
      by_cases same : other = name
      · simp [TestReport.countError, same]
      · simp [TestReport.countError, List.lookup_cons, beq_false_of_ne same, same]
  | cons entry rest inductionHypothesis =>
      obtain ⟨counted, count⟩ := entry
      rw [TestReport.countError]
      by_cases here : other = counted
      · subst here
        by_cases same : other = name
        · simp [same]
        · simp [same]
      · by_cases same : counted = name
        · subst same
          simp [List.lookup_cons, beq_false_of_ne here, here]
        · simpa [List.lookup_cons, same, beq_false_of_ne here] using inductionHypothesis

theorem lookup_foldl_countError (names : List String) (counts : List (String × UInt64))
    (name : String) :
    ((names.foldl TestReport.countError counts).lookup name).getD 0 =
      (counts.lookup name).getD 0 + UInt64.ofNat (names.count name) := by
  induction names generalizing counts with
  | nil => exact (UInt64.add_zero _).symm
  | cons first rest inductionHypothesis =>
      rw [List.foldl_cons, inductionHypothesis, lookup_countError, List.count_cons, add_assoc]
      by_cases same : name = first
      · rw [if_pos same, if_pos (beq_iff_eq.mpr same.symm), UInt64.ofNat_add, add_comm 1]
        rfl
      · rw [if_neg same, if_neg (fun equal => same (beq_iff_eq.mp equal).symm), add_zero]
        exact congrArg _ (UInt64.zero_add _)

/-- However the map lists its connections, their records hold the details of the run. -/
theorem perm_detailsOf (held : ErrorsHeld trace state) {connections : List ConnectionMetrics}
    (listed : connections.Perm state.collector.connections.records) :
    (connections.flatMap ConnectionMetrics.errorDetails).Perm (detailsOf trace) := by
  have sums (connections : List ConnectionMetrics) :
      ((connections.flatMap ConnectionMetrics.errorDetails : List ErrorDetail) :
        Multiset ErrorDetail) = (connections.map fun connection =>
          (connection.errorDetails : Multiset ErrorDetail)).sum := by
    induction connections with
    | nil => rfl
    | cons connection rest inductionHypothesis =>
        rw [List.flatMap_cons, ← Multiset.coe_add, inductionHypothesis, List.map_cons,
          List.sum_cons]
  refine Multiset.coe_eq_coe.mp ?_
  rw [sums, (listed.map _).sum_eq]
  exact held.kept

/-- A type's name comes as often as the type. -/
theorem count_debug (details : List ErrorDetail) (errorType : ErrorType) :
    (details.map (·.errorType.debug)).count errorType.debug =
      details.countP (·.errorType = errorType) := by
  rw [List.count, List.countP_map]
  refine List.countP_congr fun detail _ => ?_
  simp only [Function.comp_apply, beq_iff_eq, decide_eq_true_eq]
  exact ⟨debug_injective, congrArg _⟩

/-- Two connections with an error each. -/
def twoErrors : List CollectorLabel :=
  [.operation (.startConnection ⟨1⟩ .tcp), .operation (.startConnection ⟨2⟩ .quic), .elapse 5,
    .operation (.record ⟨1⟩ (.recordErrorWithDetail .networkTimeout "first" none)), .elapse 5,
    .operation (.record ⟨2⟩ (.recordErrorWithDetail .networkTimeout "second" none))]

end Npt.Shared
