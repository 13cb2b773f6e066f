import Npt.Core.Dialogue
import Npt.Shared.ErrorExport

/-!
Contract: the files that a report is exported to (`TestReport::export`, `export_csv` and
`export_html` in `shared/src/report.rs`).

A map of error types has no order of its own, so an export is given the order in which
the map lists its entries. What formats a number, an instant or a duration is given too,
with the characters that its texts are made of.

Owns: which files an export writes, and with what texts.

Does not own: the text of a JSON document, or what a reader makes of the files.
-/

namespace Npt.Shared

open Npt.Core

/-! ## Texts of values -/

/-- What the text of an `f64` is made of. -/
def FloatText (text : String) : Prop := text.toList ⊆ "0123456789.-infNa".toList

/-- What the text of a `Duration` is made of. -/
def DurationText (text : String) : Prop := text.toList ⊆ "0123456789.nµms".toList

/-- What formats the values of a report. -/
structure ReportTexts where
  /-- `format("%Y-%m-%d %H:%M:%S")`. -/
  timestamp : Nat → String
  dates : ∀ instant, DateText (timestamp instant)
  uuid : Uuid → String
  ids : ∀ id, UuidText (uuid id)
  /-- `{}` of an `f64`; `none` is a quotient by zero. -/
  float : Option Rat → String
  floats : ∀ value, FloatText (float value)
  /-- `{:.places$}`. -/
  fixed : (places : Nat) → Option Rat → String
  fixeds : ∀ places value, FloatText (fixed places value)
  /-- `{:?}` of a `Duration`. -/
  duration : Nat → String
  durations : ∀ nanos, DurationText (duration nanos)
  /-- `serde_json::to_string_pretty`. -/
  json : TestReport → Except String String

/-! ## The files -/

inductive OutputFormat where
  | json
  | csv
  | html
deriving DecidableEq, Repr

/-- A text that is written to a file in place of what it held. -/
structure FileWrite where
  path : String
  text : String
deriving DecidableEq, Repr

abbrev FileTalk := Dialogue FileWrite (fun _ => Except String Unit)

abbrev Written := Exchange FileWrite (fun _ => Except String Unit)

section Exports

variable (texts : ReportTexts) (report : TestReport) (errorTypes : List (String × UInt64))

/-- The metrics of the CSV file. -/
def csvMetrics : List (String × String) :=
  [("total_connections", toString report.summary.totalConnections),
    ("successful_connections", toString report.summary.successfulConnections),
    ("failed_connections", toString report.summary.failedConnections),
    ("avg_throughput_mbps", texts.float report.performance.avgThroughputMbps),
    ("peak_throughput_mbps", texts.float (some report.performance.peakThroughputMbps)),
    ("avg_latency_ms", texts.float (some report.performance.avgLatencyMs)),
    ("p95_latency_ms", texts.float (some report.performance.p95LatencyMs)),
    ("error_rate", texts.float (some report.errors.errorRate))]

def csvLine (metric : String × String) : String := metric.1 ++ "," ++ metric.2 ++ "\n"

def typeMetric (entry : String × UInt64) : String × String :=
  ("error_type_" ++ entry.1, toString entry.2.toNat)

/-- `csv_content`. -/
def csvContent : String :=
  errorTypes.foldl (fun csv entry => csv ++ csvLine (typeMetric entry))
    ((csvMetrics texts report).foldl (fun csv metric => csv ++ csvLine metric) "metric,value\n")

def exportCsv (path : String) : FileTalk (Except String Unit) :=
  .ask ⟨path ++ ".csv", csvContent texts report errorTypes⟩ fun
    | .error error => .done (.error error)
    | .ok () =>
        .ask ⟨path ++ "_errors.csv",
          errorsCsv texts.timestamp texts.uuid report.errors.mostRecentErrors⟩ .done

/-- The page before its summary. -/
def pageStart : String :=
  "<!DOCTYPE html>
<html>
<head>
    <title>Network Proxy Test Report</title>
    <style>
        body \x7b font-family: Arial, sans-serif; margin: 40px; \x7d
        .summary \x7b background-color: #f0f0f0; padding: 20px; border-radius: 5px; \x7d
        .metric \x7b margin: 10px 0; \x7d
        .section \x7b margin: 30px 0; \x7d
        table \x7b border-collapse: collapse; width: 100%; margin-top: 15px; \x7d
        th, td \x7b border: 1px solid #ddd; padding: 8px; text-align: left; \x7d
        th \x7b background-color: #f2f2f2; \x7d
        .error-message \x7b max-width: 300px; word-wrap: break-word; \x7d
    </style>
</head>
<body>
    <h1>Network Proxy Test Report</h1>
    
    <div class=\"section\">
        <h2>Test Summary</h2>
        <div class=\"summary\">
"

def summaryMetrics : List (String × String) :=
  [("Test Duration", texts.duration report.summary.testDuration),
    ("Total Connections", toString report.summary.totalConnections),
    ("Successful Connections", toString report.summary.successfulConnections),
    ("Failed Connections", toString report.summary.failedConnections),
    ("Total Bytes Sent", toString report.summary.totalBytesSent.toNat),
    ("Total Bytes Received", toString report.summary.totalBytesReceived.toNat)]

def summaryLine (metric : String × String) : String :=
  "            <div class=\"metric\">" ++ metric.1 ++ ": " ++ metric.2 ++ "</div>\n"

/-- From the summary to the performance. -/
def performanceStart : String :=
  "        </div>
    </div>

    <div class=\"section\">
        <h2>Performance Metrics</h2>
        <table>
            <tr><th>Metric</th><th>Value</th></tr>
"

def performanceMetrics : List (String × String) :=
  [("Average Throughput (Mbps)", texts.fixed 2 report.performance.avgThroughputMbps),
    ("Peak Throughput (Mbps)", texts.fixed 2 (some report.performance.peakThroughputMbps)),
    ("Average Latency (ms)", texts.fixed 2 (some report.performance.avgLatencyMs)),
    ("P95 Latency (ms)", texts.fixed 2 (some report.performance.p95LatencyMs)),
    ("P99 Latency (ms)", texts.fixed 2 (some report.performance.p99LatencyMs)),
    ("Error Rate", texts.fixed 4 (some report.errors.errorRate))]

def performanceLine (metric : String × String) : String :=
  "            <tr><td>" ++ metric.1 ++ "</td><td>" ++ metric.2 ++ "</td></tr>\n"

/-- From the performance to the error types. -/
def typesStart : String :=
  "        </table>
    </div>

    <div class=\"section\">
        <h2>Error Analysis</h2>
        <h3>Error Type Distribution</h3>
        <table>
            <tr><th>Error Type</th><th>Count</th></tr>
            "

def errorTypeRow (entry : String × UInt64) : String :=
  "<tr><td>" ++ entry.1 ++ "</td><td>" ++ toString entry.2.toNat ++ "</td></tr>\n"

/-- `error_types_html`. -/
def errorTypesHtml : String :=
  errorTypes.foldl (fun html entry => html ++ errorTypeRow entry) ""

/-- From the error types to the recent errors. -/
def recentStart : String :=
  "
        </table>
        
        <h3>Most Recent Errors</h3>
        <table>
            <tr><th>Timestamp</th><th>Type</th><th class=\"error-message\">Message</th><th>Context</th></tr>
            "

def pageEnd : String := "\n        </table>\n    </div>\n</body>\n</html>"

/-- `html_content`. -/
def htmlContent : String :=
  (summaryMetrics texts report).foldl (fun html metric => html ++ summaryLine metric) pageStart ++
    (performanceMetrics texts report).foldl (fun html metric => html ++ performanceLine metric)
      performanceStart ++
    typesStart ++ errorTypesHtml errorTypes ++
    recentStart ++ recentErrorsHtml texts.timestamp report.errors.mostRecentErrors ++ pageEnd

def exportHtml (path : String) : FileTalk (Except String Unit) :=
  .ask ⟨path ++ ".html", htmlContent texts report errorTypes⟩ .done

/-- `TestReport::export`. -/
def exportReport (format : OutputFormat) (path : String) : FileTalk (Except String Unit) :=
  match format with
  | .json =>
      match texts.json report with
      | .error error => .done (.error error)
      | .ok json => .ask ⟨path ++ ".json", json⟩ .done
  | .csv => exportCsv texts report errorTypes path
  | .html => exportHtml texts report errorTypes path

end Exports

end Npt.Shared
