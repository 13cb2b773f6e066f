import Npt.Core.Template
import Npt.Shared.ExportedCsv

/-!
Contract: the HTML page of a report (`export_html` in `shared/src/report.rs`).

The page is a template with values inserted into it, some of which are texts that an
error brought along.

Owns: the page as sealed literals and inserted texts, and when it has the markup of the
template alone.

Does not own: what the values are.
-/

namespace Npt.Shared

open Npt.Core

/-! ## The page in parts -/

/-- A literal without a text behind it. -/
def literalPart (literal : String) : Markup.Part := ⟨literal.toList, []⟩

def insertedPart (literal text : String) : Markup.Part := ⟨literal.toList, text.toList⟩

def summaryParts (metric : String × String) : List Markup.Part :=
  [insertedPart "            <div class=\"metric\">" metric.1, insertedPart ": " metric.2,
    literalPart "</div>\n"]

def performanceParts (metric : String × String) : List Markup.Part :=
  [insertedPart "            <tr><td>" metric.1, insertedPart "</td><td>" metric.2,
    literalPart "</td></tr>\n"]

def typeParts (entry : String × UInt64) : List Markup.Part :=
  [insertedPart "<tr><td>" entry.1, insertedPart "</td><td>" (toString entry.2.toNat),
    literalPart "</td></tr>\n"]

def errorParts (timestampText : Nat → String) (error : ErrorDetail) : List Markup.Part :=
  [insertedPart "<tr><td>" (timestampText error.timestamp),
    insertedPart "</td><td>" error.errorType.debug, insertedPart "</td><td>" error.message,
    insertedPart "</td><td>" (error.context.getD "N/A"), literalPart "</td></tr>\n"]

section Page

variable (texts : ReportTexts) (report : TestReport) (errorTypes : List (String × UInt64))

def pageParts : List Markup.Part :=
  literalPart pageStart :: (summaryMetrics texts report).flatMap summaryParts ++
    literalPart performanceStart :: (performanceMetrics texts report).flatMap performanceParts ++
    literalPart typesStart :: errorTypes.flatMap typeParts ++
    literalPart recentStart ::
      report.errors.mostRecentErrors.flatMap (errorParts texts.timestamp) ++
    [literalPart pageEnd]

theorem page_append (left right : List Markup.Part) :
    Markup.page (left ++ right) = Markup.page left ++ Markup.page right :=
  List.flatMap_append

theorem page_flatMap {Item : Type} (items : List Item) (parts : Item → List Markup.Part) :
    Markup.page (items.flatMap parts) = items.flatMap fun item => Markup.page (parts item) :=
  List.flatMap_assoc

theorem page_literal (literal : String) (rest : List Markup.Part) :
    Markup.page (literalPart literal :: rest) = literal.toList ++ Markup.page rest := by
  simp [Markup.page, literalPart]

theorem page_summaryParts (metric : String × String) :
    Markup.page (summaryParts metric) = (summaryLine metric).toList := by
  delta summaryLine
  simp only [Markup.page, summaryParts, insertedPart, literalPart, String.toList_append,
    List.flatMap_cons, List.flatMap_nil, List.append_assoc, List.append_nil]

theorem page_performanceParts (metric : String × String) :
    Markup.page (performanceParts metric) = (performanceLine metric).toList := by
  delta performanceLine
  simp only [Markup.page, performanceParts, insertedPart, literalPart, String.toList_append,
    List.flatMap_cons, List.flatMap_nil, List.append_assoc, List.append_nil]

theorem page_typeParts (entry : String × UInt64) :
    Markup.page (typeParts entry) = (errorTypeRow entry).toList := by
  delta errorTypeRow
  simp only [Markup.page, typeParts, insertedPart, literalPart, String.toList_append,
    List.flatMap_cons, List.flatMap_nil, List.append_assoc, List.append_nil]

theorem page_errorParts (timestampText : Nat → String) (error : ErrorDetail) :
    Markup.page (errorParts timestampText error) = (recentErrorRow timestampText error).toList := by
  delta recentErrorRow
  simp only [Markup.page, errorParts, insertedPart, literalPart, String.toList_append,
    List.flatMap_cons, List.flatMap_nil, List.append_assoc, List.append_nil]

theorem toList_htmlContent :
    (htmlContent texts report errorTypes).toList =
      Markup.page (pageParts texts report errorTypes) := by
  have nothing : Markup.page [] = [] := rfl
  simp only [pageParts, page_append, page_literal, page_flatMap, page_summaryParts,
    page_performanceParts, page_typeParts, page_errorParts, nothing, List.append_nil]
  simp only [htmlContent, errorTypesHtml, recentErrorsHtml, String.toList_append,
    toList_foldl_append, String.toList_empty, List.nil_append, List.append_assoc]

end Page

/-! ## Its markup -/

def cellTags : List String := ["<tr>", "<td>", "</td>", "<td>", "</td>", "</tr>"]

/-- The markup of the template, with the rows of so many error types and errors. -/
def pageTags (types errors : Nat) : List String :=
  ["<!DOCTYPE html>", "<html>", "<head>", "<title>", "</title>", "<style>", "</style>", "</head>",
      "<body>", "<h1>", "</h1>", "<div class=\"section\">", "<h2>", "</h2>",
      "<div class=\"summary\">"] ++
    (List.replicate 6 ["<div class=\"metric\">", "</div>"]).flatten ++
    ["</div>", "</div>", "<div class=\"section\">", "<h2>", "</h2>", "<table>", "<tr>", "<th>",
      "</th>", "<th>", "</th>", "</tr>"] ++
    (List.replicate 6 cellTags).flatten ++
    ["</table>", "</div>", "<div class=\"section\">", "<h2>", "</h2>", "<h3>", "</h3>", "<table>",
      "<tr>", "<th>", "</th>", "<th>", "</th>", "</tr>"] ++
    (List.replicate types cellTags).flatten ++
    ["</table>", "<h3>", "</h3>", "<table>", "<tr>", "<th>", "</th>", "<th>", "</th>",
      "<th class=\"error-message\">", "</th>", "<th>", "</th>", "</tr>"] ++
    (List.replicate errors rowTags).flatten ++ ["</table>", "</div>", "</body>", "</html>"]

/-- A sealed literal and its markup. -/
structure Tags (literal : String) (tags : List String) : Prop where
  whole : Markup.Sealed literal.toList
  tagged : Markup.markup literal.toList = tags.map String.toList

/-- The characters of a literal decide. -/
theorem tags_of_chars {literal : String} {chars : List Char} {tags : List String}
    (same : literal = String.ofList chars)
    (whole : (chars.head?.any (fun c => !Markup.opens c) && Markup.closes .text chars &&
      decide (Markup.markup chars = tags.map String.toList)) = true) : Tags literal tags := by
  simp only [Bool.and_eq_true, decide_eq_true_eq] at whole
  subst same
  rw [← String.toList_ofList (l := chars)] at whole
  exact ⟨⟨whole.1.1, whole.1.2⟩, whole.2⟩

/-- Parts of sealed literals, and the markup that these have. -/
structure Tagged (parts : List Markup.Part) (tags : List String) : Prop where
  whole : ∀ part ∈ parts, Markup.Sealed part.literal
  tagged : parts.flatMap (fun part => Markup.markup part.literal) = tags.map String.toList

section Tagging

variable {parts others : List Markup.Part} {tags more : List String} {literal : String}

theorem tagged_nil : Tagged [] [] := ⟨by simp, rfl⟩

theorem Tags.cons (fact : Tags literal tags) (text : List Char) (rest : Tagged parts more) :
    Tagged (⟨literal.toList, text⟩ :: parts) (tags ++ more) := by
  refine ⟨List.forall_mem_cons.mpr ⟨fact.whole, rest.whole⟩, ?_⟩
  rw [List.flatMap_cons, rest.tagged, fact.tagged, List.map_append]

theorem Tagged.append (first : Tagged parts tags) (second : Tagged others more) :
    Tagged (parts ++ others) (tags ++ more) := by
  refine ⟨List.forall_mem_append.mpr ⟨first.whole, second.whole⟩, ?_⟩
  rw [List.flatMap_append, first.tagged, second.tagged, List.map_append]

theorem Tagged.each {Item : Type} {partsOf : Item → List Markup.Part}
    (each : ∀ item, Tagged (partsOf item) tags) (items : List Item) :
    Tagged (items.flatMap partsOf) (List.replicate items.length tags).flatten := by
  induction items with
  | nil => exact tagged_nil
  | cons item items inductionHypothesis => exact (each item).append inductionHypothesis

end Tagging

theorem tags_rowStart : Tags "<tr><td>" ["<tr>", "<td>"] :=
  tags_of_chars rfl (by decide)

theorem tags_performanceRow : Tags "            <tr><td>" ["<tr>", "<td>"] :=
  tags_of_chars rfl (by decide)

theorem tags_nextCell : Tags "</td><td>" ["</td>", "<td>"] :=
  tags_of_chars rfl (by decide)

theorem tags_rowEnd : Tags "</td></tr>\n" ["</td>", "</tr>"] :=
  tags_of_chars rfl (by decide)

theorem tags_metricStart : Tags "            <div class=\"metric\">" ["<div class=\"metric\">"] :=
  tags_of_chars rfl (by decide)

theorem tags_colon : Tags ": " [] :=
  tags_of_chars rfl (by decide)

theorem tags_metricEnd : Tags "</div>\n" ["</div>"] :=
  tags_of_chars rfl (by decide)

-- The literals are long for the elaborator's recursion.
set_option maxRecDepth 8000 in
theorem tags_pageStart : Tags pageStart
    ["<!DOCTYPE html>", "<html>", "<head>", "<title>", "</title>", "<style>", "</style>", "</head>",
      "<body>", "<h1>", "</h1>", "<div class=\"section\">", "<h2>", "</h2>",
      "<div class=\"summary\">"] :=
  tags_of_chars rfl (by decide +kernel)

set_option maxRecDepth 8000 in
theorem tags_performanceStart : Tags performanceStart
    ["</div>", "</div>", "<div class=\"section\">", "<h2>", "</h2>", "<table>", "<tr>", "<th>",
      "</th>", "<th>", "</th>", "</tr>"] :=
  tags_of_chars rfl (by decide +kernel)

set_option maxRecDepth 8000 in
theorem tags_typesStart : Tags typesStart
    ["</table>", "</div>", "<div class=\"section\">", "<h2>", "</h2>", "<h3>", "</h3>", "<table>",
      "<tr>", "<th>", "</th>", "<th>", "</th>", "</tr>"] :=
  tags_of_chars rfl (by decide +kernel)

set_option maxRecDepth 8000 in
theorem tags_recentStart : Tags recentStart
    ["</table>", "<h3>", "</h3>", "<table>", "<tr>", "<th>", "</th>", "<th>", "</th>",
      "<th class=\"error-message\">", "</th>", "<th>", "</th>", "</tr>"] :=
  tags_of_chars rfl (by decide +kernel)

theorem tags_pageEnd : Tags pageEnd ["</table>", "</div>", "</body>", "</html>"] :=
  tags_of_chars rfl (by decide +kernel)

theorem tagged_summaryParts (metric : String × String) :
    Tagged (summaryParts metric) ["<div class=\"metric\">", "</div>"] :=
  tags_metricStart.cons _ (tags_colon.cons _ (tags_metricEnd.cons _ tagged_nil))

theorem tagged_performanceParts (metric : String × String) :
    Tagged (performanceParts metric) cellTags :=
  tags_performanceRow.cons _ (tags_nextCell.cons _ (tags_rowEnd.cons _ tagged_nil))

theorem tagged_typeParts (entry : String × UInt64) : Tagged (typeParts entry) cellTags :=
  tags_rowStart.cons _ (tags_nextCell.cons _ (tags_rowEnd.cons _ tagged_nil))

theorem tagged_errorParts (timestampText : Nat → String) (error : ErrorDetail) :
    Tagged (errorParts timestampText error) rowTags :=
  tags_rowStart.cons _ (tags_nextCell.cons _ (tags_nextCell.cons _ (tags_nextCell.cons _
    (tags_rowEnd.cons _ tagged_nil))))

theorem tagged_pageParts (texts : ReportTexts) (report : TestReport)
    (errorTypes : List (String × UInt64)) :
    Tagged (pageParts texts report errorTypes)
      (pageTags errorTypes.length report.errors.mostRecentErrors.length) := by
  have summary : Tagged _ (List.replicate 6 _).flatten :=
    Tagged.each tagged_summaryParts (summaryMetrics texts report)
  have performance : Tagged _ (List.replicate 6 _).flatten :=
    Tagged.each tagged_performanceParts (performanceMetrics texts report)
  have types := Tagged.each tagged_typeParts errorTypes
  have errors := Tagged.each (tagged_errorParts texts.timestamp) report.errors.mostRecentErrors
  have page := ((((tags_pageStart.cons [] summary).append
    (tags_performanceStart.cons [] performance)).append
    (tags_typesStart.cons [] types)).append
    (tags_recentStart.cons [] errors)).append (tags_pageEnd.cons [] tagged_nil)
  simpa only [pageTags, pageParts, literalPart, List.append_assoc, List.append_nil] using page

/-! ## Its texts -/

theorem inert_of_subset {text alphabet : String} (within : text.toList ⊆ alphabet.toList)
    (absent : '<' ∉ alphabet.toList) : Markup.Inert text.toList :=
  fun _ _ inside => absent (within (inside.subset List.mem_cons_self))

theorem inert_number (number : Nat) : Markup.Inert (toString number).toList := by
  intro c _ inside
  have printed : '<' ∈ (toString number).toList := inside.subset List.mem_cons_self
  have digits : (toString number).toList = Nat.toDigits 10 number := Nat.toList_repr
  exact notMem_toDigits (by decide) number (digits ▸ printed)

theorem inert_nil : Markup.Inert [] := inert_of_all rfl

section Texts

variable (texts : ReportTexts) (report : TestReport)

theorem inert_summaryMetrics : ∀ metric ∈ summaryMetrics texts report,
    Markup.Inert metric.1.toList ∧ Markup.Inert metric.2.toList := by
  have duration (nanos : Nat) : Markup.Inert (texts.duration nanos).toList :=
    inert_of_subset (texts.durations nanos) (by decide)
  simp only [summaryMetrics, List.forall_mem_cons, List.not_mem_nil, false_implies, implies_true,
    and_true]
  exact ⟨⟨inert_of_all (by decide), duration _⟩, ⟨inert_of_all (by decide), inert_number _⟩,
    ⟨inert_of_all (by decide), inert_number _⟩, ⟨inert_of_all (by decide), inert_number _⟩,
    ⟨inert_of_all (by decide), inert_number _⟩, ⟨inert_of_all (by decide), inert_number _⟩⟩

theorem inert_performanceMetrics : ∀ metric ∈ performanceMetrics texts report,
    Markup.Inert metric.1.toList ∧ Markup.Inert metric.2.toList := by
  have fixed (places : Nat) (value : Option Rat) : Markup.Inert (texts.fixed places value).toList :=
    inert_of_subset (texts.fixeds places value) (by decide)
  simp only [performanceMetrics, List.forall_mem_cons, List.not_mem_nil, false_implies,
    implies_true, and_true]
  exact ⟨⟨inert_of_all (by decide), fixed _ _⟩, ⟨inert_of_all (by decide), fixed _ _⟩,
    ⟨inert_of_all (by decide), fixed _ _⟩, ⟨inert_of_all (by decide), fixed _ _⟩,
    ⟨inert_of_all (by decide), fixed _ _⟩, ⟨inert_of_all (by decide), fixed _ _⟩⟩

/-- Where the names of the types open nothing, only the errors' own texts can. -/
theorem inert_pageParts_iff {errorTypes : List (String × UInt64)}
    (names : ∀ entry ∈ errorTypes, Markup.Inert entry.1.toList) :
    (∀ part ∈ pageParts texts report errorTypes, Markup.Inert part.text) ↔
      ∀ error ∈ report.errors.mostRecentErrors, error.Inert := by
  have summary := inert_summaryMetrics texts report
  have performance := inert_performanceMetrics texts report
  simp only [pageParts, List.forall_mem_append, List.forall_mem_cons, List.forall_mem_flatMap,
    summaryParts, performanceParts, typeParts, errorParts, literalPart, insertedPart, inert_nil,
    inert_number, inert_timestamp texts.dates, inert_debug, List.not_mem_nil, false_implies,
    implies_true, and_true, true_and]
  exact ⟨fun all => all.2, fun errors => ⟨⟨⟨summary, performance⟩, names⟩, errors⟩⟩

end Texts

/-- Whatever order the map lists its types in, an export of a report to HTML writes one
page, and the page has the markup of its template, with a row for each type and each
recent error, exactly when no text of a recent error opens markup. -/
theorem exported_page_shown_iff (texts : ReportTexts) {now later : Nat}
    {connections : List ConnectionMetrics} {throughputSamples : List ThroughputSample}
    {latencySamples : List LatencySample} {errorSamples : List ErrorSample} {includeRawData : Bool}
    {report : TestReport} (made : report = TestReport.generate now later connections
      throughputSamples latencySamples errorSamples includeRawData)
    {errorTypes : List (String × UInt64)} (ordered : errorTypes.Perm report.errors.errorTypes)
    (path : String) {said : List Written} {result : Except String Unit}
    (exported : (exportReport texts report errorTypes .html path).Yields said result) :
    ∃ page, said = [⟨⟨path ++ ".html", page⟩, result⟩] ∧
      (Markup.markup page.toList =
          (pageTags errorTypes.length report.errors.mostRecentErrors.length).map String.toList ↔
        ∀ error ∈ report.errors.mostRecentErrors, error.Inert) := by
  have types : errorTypes.Perm
      (typeCounts (connections.flatMap ConnectionMetrics.errorDetails)) := by
    rw [made] at ordered
    exact ordered.trans (perm_typeCounts _)
  have names : ∀ entry ∈ errorTypes, Markup.Inert entry.1.toList := by
    intro entry member
    obtain ⟨errorType, -, rfl⟩ := List.mem_map.mp (types.mem_iff.mp member)
    exact inert_debug errorType
  have page := tagged_pageParts texts report errorTypes
  obtain ⟨reply, last, rfl, ends⟩ := Dialogue.yields_ask_iff.mp exported
  obtain ⟨rfl, rfl⟩ := Dialogue.yields_done_iff.mp ends
  refine ⟨_, rfl, ?_⟩
  rw [toList_htmlContent, ← page.tagged, ← inert_pageParts_iff texts report names]
  exact Markup.markup_page_iff page.whole

/-- A connection with one error. -/
def comparedConnection : ConnectionMetrics where
  id := ⟨1⟩
  connectionType := .tcp
  startTime := 0
  errors := 1
  errorDetails := [reportedError "1 < 2"]

/-- A `<` before a space brings no markup of its own. -/
theorem exported_page_shown_iff_comparison :
    let report := TestReport.generate 0 0 [comparedConnection] [] [] [] false
    ∃ said result page,
      (exportReport plainTexts report report.errors.errorTypes .html "report").Yields said result ∧
        said = [⟨⟨"report.html", page⟩, result⟩] ∧
        Markup.markup page.toList = (pageTags 1 1).map String.toList := by
  intro report
  have exported := Dialogue.yields_talk (fun _ _ => .ok ()) []
    (exportReport plainTexts report report.errors.errorTypes .html "report")
  obtain ⟨page, written, shown⟩ := exported_page_shown_iff plainTexts rfl (List.Perm.refl _)
    "report" exported
  have recent : report.errors.mostRecentErrors = [reportedError "1 < 2"] := by
    change ([reportedError "1 < 2"].mergeSort _).take 10 = _
    rw [List.mergeSort_singleton]
    rfl
  rw [recent] at shown
  refine ⟨_, _, page, exported, written, shown.mpr ?_⟩
  rw [List.forall_mem_singleton]
  exact ⟨Markup.openings_eq_zero_iff.mp (by decide), Markup.openings_eq_zero_iff.mp (by decide)⟩

end Npt.Shared
