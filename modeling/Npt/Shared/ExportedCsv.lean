import Mathlib.Data.List.Nodup
import Npt.Core.Decimal
import Npt.Shared.Export
import Npt.Shared.ReportedErrors

/-!
Contract: the CSV files of a run (`export_csv` in `shared/src/report.rs`).

Owns: what a reader of the two files finds: the metrics of the report, each type of the
errors that the run recorded with their number, and the last of these errors.

Does not own: how the report comes to its metrics.
-/

namespace Npt.Shared

open Npt.Core
open Npt.Core.Machine

/-! ## Metrics as rows -/

theorem mark_digit {c : Char} (digit : c.isDigit = true) : Csv.mark c = .other := by
  have different (d : Char) (letter : d.isDigit = false) : c ≠ d := by
    rintro rfl
    simp [letter] at digit
  simp [Csv.mark, different '"' rfl, different ',' rfl, different '\r' rfl, different '\n' rfl]

/-- The name and the value of a metric need no quotes. -/
def PlainMetric (metric : String × String) : Prop :=
  (∀ c ∈ metric.1.toList, Csv.mark c = .other) ∧ ∀ c ∈ metric.2.toList, Csv.mark c = .other

def metricFields (metric : String × String) : Csv.Record := [metric.1.toList, metric.2.toList]

theorem plain_number (number : Nat) : ∀ c ∈ (toString number).toList, Csv.mark c = .other := by
  intro c printed
  have digits : (toString number).toList = Nat.toDigits 10 number := Nat.toList_repr
  rw [digits] at printed
  exact mark_digit (Nat.isDigit_of_mem_toDigits (by decide) (by decide) printed)

theorem plain_float {text : String} (float : FloatText text) :
    ∀ c ∈ text.toList, Csv.mark c = .other :=
  plain_of_subset float (by decide)

theorem plainMetric {name value : String}
    (plainName : name.toList.all (fun c => Csv.mark c = .other) = true)
    (plainValue : ∀ c ∈ value.toList, Csv.mark c = .other) : PlainMetric (name, value) :=
  ⟨Csv.plain_of_all plainName, plainValue⟩

theorem plain_csvMetrics (texts : ReportTexts) (report : TestReport) :
    ∀ metric ∈ csvMetrics texts report, PlainMetric metric := by
  have floats (value : Option Rat) := plain_float (texts.floats value)
  simp only [csvMetrics, List.forall_mem_cons, List.not_mem_nil, false_implies, implies_true,
    and_true]
  exact ⟨plainMetric (by decide) (plain_number _), plainMetric (by decide) (plain_number _),
    plainMetric (by decide) (plain_number _), plainMetric (by decide) (floats _),
    plainMetric (by decide) (floats _), plainMetric (by decide) (floats _),
    plainMetric (by decide) (floats _), plainMetric (by decide) (floats _)⟩

theorem plain_typeMetric (errorType : ErrorType) (count : UInt64) :
    PlainMetric (typeMetric (errorType.debug, count)) := by
  refine ⟨?_, plain_number _⟩
  rw [typeMetric, String.toList_append, List.forall_mem_append]
  exact ⟨Csv.plain_of_all (by decide), plain_debug errorType⟩

/-- Reading lines of plain metrics gives the metrics back. -/
theorem read_csvLines {metrics : List (String × String)}
    (plain : ∀ metric ∈ metrics, PlainMetric metric) :
    Csv.read (metrics.flatMap fun metric => (csvLine metric).toList) =
      some (metrics.map metricFields) := by
  have rows : ∃ rows : List Csv.Row,
      rows.flatMap Csv.Row.write = metrics.flatMap (fun metric => (csvLine metric).toList) ∧
        rows.map Csv.Row.texts = metrics.map metricFields := by
    induction metrics with
    | nil => exact ⟨[], rfl, rfl⟩
    | cons metric metrics inductionHypothesis =>
        rw [List.forall_mem_cons] at plain
        obtain ⟨rows, written, read⟩ := inductionHypothesis plain.2
        refine ⟨⟨.bare _ plain.1.1, [.bare _ plain.1.2]⟩ :: rows, ?_, ?_⟩
        · rw [List.flatMap_cons, List.flatMap_cons, written]
          have comma : ",".toList = [','] := rfl
          have ended : "\n".toList = ['\n'] := rfl
          simp [csvLine, Csv.Row.write, Csv.Field.write, comma, ended]
        · rw [List.map_cons, read]
          rfl
  obtain ⟨rows, written, read⟩ := rows
  rw [← written, Csv.read_write, read]

theorem csv_reads_back (texts : ReportTexts) (report : TestReport)
    {errorTypes : List (String × UInt64)}
    (plain : ∀ entry ∈ errorTypes, PlainMetric (typeMetric entry)) :
    Csv.read (csvContent texts report errorTypes).toList =
      some ((("metric", "value") :: csvMetrics texts report ++ errorTypes.map typeMetric).map
        metricFields) := by
  rw [← read_csvLines]
  · rw [csvContent, toList_foldl_append, toList_foldl_append, List.flatMap_append,
      List.flatMap_cons, List.flatMap_map]
    rfl
  · rw [List.forall_mem_append, List.forall_mem_cons]
    refine ⟨⟨⟨Csv.plain_of_all (by decide), Csv.plain_of_all (by decide)⟩,
      plain_csvMetrics texts report⟩, ?_⟩
    rwa [List.forall_mem_map]

/-! ## Error types -/

theorem keys_countError (counts : List (String × UInt64)) (name : String) :
    (TestReport.countError counts name).map Prod.fst =
      if name ∈ counts.map Prod.fst then counts.map Prod.fst else counts.map Prod.fst ++ [name] := by
  induction counts with
  | nil => rfl
  | cons entry rest inductionHypothesis =>
      obtain ⟨counted, count⟩ := entry
      rw [TestReport.countError]
      by_cases same : counted = name
      · simp [same]
      · simp only [if_neg same, List.map_cons, inductionHypothesis, List.mem_cons, Ne.symm same,
          false_or]
        split <;> rfl

theorem keys_foldl_countError (names : List String) (counts : List (String × UInt64))
    (distinct : (counts.map Prod.fst).Nodup) :
    ((names.foldl TestReport.countError counts).map Prod.fst).Nodup ∧
      ∀ name, name ∈ (names.foldl TestReport.countError counts).map Prod.fst ↔
        name ∈ counts.map Prod.fst ∨ name ∈ names := by
  induction names generalizing counts with
  | nil => exact ⟨distinct, by simp⟩
  | cons first rest inductionHypothesis =>
      have keys := keys_countError counts first
      have next : ((TestReport.countError counts first).map Prod.fst).Nodup := by
        rw [keys]
        split
        · exact distinct
        · rename_i fresh
          exact List.nodup_append.mpr ⟨distinct, by simp, by
            rintro other member last here rfl
            exact fresh (List.mem_singleton.mp here ▸ member)⟩
      obtain ⟨unique, members⟩ := inductionHypothesis _ next
      refine ⟨unique, fun name => (members name).trans ?_⟩
      rw [keys, List.mem_cons]
      split
      · rename_i known
        constructor
        · rintro (earlier | later)
          · exact Or.inl earlier
          · exact Or.inr (Or.inr later)
        · rintro (earlier | rfl | later)
          · exact Or.inl earlier
          · exact Or.inl known
          · exact Or.inr later
      · simp [or_assoc]

theorem lookup_of_mem {counts : List (String × UInt64)} (distinct : (counts.map Prod.fst).Nodup)
    {entry : String × UInt64} (member : entry ∈ counts) :
    counts.lookup entry.1 = some entry.2 := by
  induction counts with
  | nil => cases member
  | cons first rest inductionHypothesis =>
      obtain ⟨counted, count⟩ := first
      rw [List.map_cons, List.nodup_cons] at distinct
      rcases List.mem_cons.mp member with rfl | later
      · exact List.lookup_cons_self
      · have other : entry.1 ≠ counted := by
          intro same
          exact distinct.1 (List.mem_map.mpr ⟨entry, later, same⟩)
        rw [List.lookup_cons, beq_false_of_ne other]
        exact inductionHypothesis distinct.2 later

def ErrorType.all : List ErrorType :=
  [.connectionFailed, .networkTimeout, .serializationError, .messageTooLarge,
    .unexpectedDisconnection, .protocolError, .ioError, .other]

theorem ErrorType.mem_all (errorType : ErrorType) : errorType ∈ ErrorType.all := by
  cases errorType <;> decide

/-- The types that come up among errors, each with their number. -/
def typeCounts (details : List ErrorDetail) : List (String × UInt64) :=
  (ErrorType.all.filter fun errorType => details.any (·.errorType = errorType)).map
    fun errorType => (errorType.debug, UInt64.ofNat (details.countP (·.errorType = errorType)))

theorem perm_typeCounts (details : List ErrorDetail) :
    ((details.map (·.errorType.debug)).foldl TestReport.countError []).Perm (typeCounts details) := by
  obtain ⟨distinct, members⟩ :=
    keys_foldl_countError (details.map (·.errorType.debug)) [] List.nodup_nil
  have value (errorType : ErrorType) :=
    lookup_foldl_countError (details.map (·.errorType.debug)) [] errorType.debug
  generalize (details.map (·.errorType.debug)).foldl TestReport.countError [] = counts at *
  have types : (typeCounts details).Nodup := by
    refine List.Nodup.map_on ?_ ((show ErrorType.all.Nodup by decide).filter _)
    intro left _ right _ same
    exact debug_injective (Prod.mk.inj same).1
  have counted {entry : String × UInt64} (member : entry ∈ counts) {errorType : ErrorType}
      (same : entry.1 = errorType.debug) :
      entry = (errorType.debug, UInt64.ofNat (details.countP (·.errorType = errorType))) := by
    have found := lookup_of_mem distinct member
    have number := value errorType
    rw [← same, found, same, count_debug] at number
    exact Prod.ext same (number.trans (UInt64.zero_add _))
  refine (List.perm_ext_iff_of_nodup distinct.of_map types).mpr fun entry => ?_
  rw [typeCounts, List.mem_map]
  constructor
  · intro member
    have named := (members entry.1).mp (List.mem_map_of_mem member)
    obtain ⟨detail, inside, same⟩ := List.mem_map.mp (named.resolve_left (by simp))
    refine ⟨detail.errorType, List.mem_filter.mpr ⟨detail.errorType.mem_all, ?_⟩,
      (counted member same.symm).symm⟩
    exact List.any_eq_true.mpr ⟨detail, inside, decide_eq_true rfl⟩
  · rintro ⟨errorType, comes, rfl⟩
    obtain ⟨detail, inside, same⟩ := List.any_eq_true.mp (List.mem_filter.mp comes).2
    have named : errorType.debug ∈ counts.map Prod.fst := by
      refine (members _).mpr (Or.inr (List.mem_map.mpr ⟨detail, inside, ?_⟩))
      rw [of_decide_eq_true same]
    obtain ⟨entry, member, name⟩ := List.mem_map.mp named
    exact counted member name ▸ member

theorem typeCounts_congr {details others : List ErrorDetail} (same : details.Perm others) :
    typeCounts details = typeCounts others := by
  simp only [typeCounts, same.any_eq, same.countP_eq]

/-! ## The files of a run -/

/-- What a reader of the two CSV files finds of a run. -/
structure ReadBack (texts : ReportTexts) (report : TestReport) (details : List ErrorDetail)
    (metricsFile errorsFile : String) : Prop where
  /-- The metrics of the report, and every type that came up with its number. -/
  metrics : ∃ types : List (String × UInt64), types.Perm (typeCounts details) ∧
    Csv.read metricsFile.toList =
      some ((("metric", "value") :: csvMetrics texts report ++ types.map typeMetric).map
        metricFields)
  /-- At most ten of the errors, with the last times of the run. -/
  errors : ∃ shown : List ErrorDetail, shown.Subperm details ∧
    shown.map ErrorDetail.timestamp = (details.map ErrorDetail.timestamp).reverse.take 10 ∧
    Csv.read errorsFile.toList =
      some ((["timestamp", "error_type", "connection_id", "message", "context"] ::
        shown.map (errorValues texts.timestamp texts.uuid)).map (List.map String.toList))

section Run

variable {start : Nat} {trace : List (CollectorState × CollectorLabel)} {state : CollectorState}
  {connections : List ConnectionMetrics} {errorTypes : List (String × UInt64)}

/-- In every run of the collector, whatever order the maps list their entries in: an
export of the report to CSV ends with the first file that cannot be written, and when it
succeeds it has written two files, which read back as the metrics of the report with
every recorded type and its number, and as the last errors of the run. -/
theorem exported_csv_exact (texts : ReportTexts)
    (run : collecting.Run (startCollecting start) trace state)
    (listed : connections.Perm state.collector.connections.records) {now later : Nat}
    {throughputSamples : List ThroughputSample} {latencySamples : List LatencySample}
    {errorSamples : List ErrorSample} {includeRawData : Bool} {report : TestReport}
    (made : report = TestReport.generate now later connections throughputSamples latencySamples
      errorSamples includeRawData)
    (ordered : errorTypes.Perm report.errors.errorTypes) (path : String) {said : List Written}
    {result : Except String Unit}
    (exported : (exportReport texts report errorTypes .csv path).Yields said result) :
    ∃ metricsFile errorsFile, ReadBack texts report (detailsOf trace) metricsFile errorsFile ∧
      ((∃ error, result = .error error ∧
          said = [⟨⟨path ++ ".csv", metricsFile⟩, .error error⟩]) ∨
        said = [⟨⟨path ++ ".csv", metricsFile⟩, .ok ()⟩,
          ⟨⟨path ++ "_errors.csv", errorsFile⟩, result⟩]) := by
  subst made
  have held := errorsHeld_of_run run
  have all := perm_detailsOf held listed
  have types := ordered.trans (perm_typeCounts (connections.flatMap ConnectionMetrics.errorDetails))
  rw [typeCounts_congr all] at types
  have plain : ∀ entry ∈ errorTypes, PlainMetric (typeMetric entry) := by
    intro entry member
    obtain ⟨errorType, -, rfl⟩ := List.mem_map.mp (types.mem_iff.mp member)
    exact plain_typeMetric errorType _
  refine ⟨_, _, ⟨⟨errorTypes, types, csv_reads_back texts _ plain⟩,
    ⟨latest ErrorDetail.timestamp 10 (connections.flatMap ConnectionMetrics.errorDetails),
      subperm_latest.trans all.subperm, map_latest all held.ordered,
      read_errorsCsv texts.dates texts.ids _⟩⟩, ?_⟩
  obtain ⟨reply, later, rfl, goesOn⟩ := Dialogue.yields_ask_iff.mp exported
  cases reply with
  | error error =>
      obtain ⟨rfl, rfl⟩ := Dialogue.yields_done_iff.mp goesOn
      exact Or.inl ⟨error, rfl, rfl⟩
  | ok written =>
      obtain ⟨reply, last, rfl, ends⟩ := Dialogue.yields_ask_iff.mp goesOn
      obtain ⟨rfl, rfl⟩ := Dialogue.yields_done_iff.mp ends
      exact Or.inr rfl

end Run

def plainTexts : ReportTexts where
  timestamp _ := "1970-01-01 00:00:00"
  dates _ := subset_of_all (by decide)
  uuid _ := "00000000-0000-0000-0000-000000000000"
  ids _ := subset_of_all (by decide)
  float _ := "0.5"
  floats _ := subset_of_all (by decide)
  fixed _ _ := "0.50"
  fixeds _ _ := subset_of_all (by decide)
  duration _ := "10ns"
  durations _ := subset_of_all (by decide)
  json _ := .error "unsupported"

/-- Both files of a run with two errors. -/
theorem exported_csv_exact_twoErrors :
    ∃ state, collecting.play (startCollecting 0) twoErrors = some state ∧
      let report := TestReport.generate 20 20 state.collector.connections.records [] [] [] false
      ∃ said result metricsFile errorsFile,
        (exportReport plainTexts report report.errors.errorTypes .csv "report").Yields said result ∧
        ReadBack plainTexts report (detailsOf (collecting.trace (startCollecting 0) twoErrors))
          metricsFile errorsFile ∧
        said.map (·.request.path) = ["report.csv", "report_errors.csv"] := by
  obtain ⟨state, played⟩ := Option.isSome_iff_exists.mp (show
    (collecting.play (startCollecting 0) twoErrors).isSome = true by decide +kernel)
  let report := TestReport.generate 20 20 state.collector.connections.records [] [] [] false
  have exported := Dialogue.yields_talk (fun _ _ => .ok ()) []
    (exportReport plainTexts report report.errors.errorTypes .csv "report")
  obtain ⟨metricsFile, errorsFile, read, written⟩ := exported_csv_exact plainTexts
    (run_of_play played) (List.Perm.refl _) rfl (List.Perm.refl _) "report" exported
  refine ⟨state, played, _, _, metricsFile, errorsFile, exported, read, ?_⟩
  rcases written with ⟨error, failed, -⟩ | both
  · cases failed
  · rw [both]
    rfl

end Npt.Shared
