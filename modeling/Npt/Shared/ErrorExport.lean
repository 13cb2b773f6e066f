import Npt.Core.Csv
import Npt.Core.Markup
import Npt.Shared.Report

/-!
Contract: the most recent errors of a report in the exported CSV and HTML (`export_csv`
and `export_html` in `shared/src/report.rs`).

The CSV quotes message and context and doubles their quotes, so a reader gives them
back whatever they hold. The HTML inserts both as they are, so they are shown as text
only when they open no markup.

Owns: the rows of both exports, and what a reader and a tokenizer make of them.

Does not own: the other parts of the exported files.
-/

namespace Npt.Shared

open Npt.Core

/-- `str::replace` of a character. -/
def replaceChar (text : String) (old : Char) (new : String) : String :=
  String.ofList (text.toList.flatMap (fun c => if c = old then new.toList else [c]))

/-- What a formatted timestamp is made of. -/
def DateText (text : String) : Prop := text.toList ⊆ "0123456789-+: ".toList

/-- What an identifier's text is made of. -/
def UuidText (text : String) : Prop := text.toList ⊆ "0123456789abcdef-".toList

theorem subset_of_all {text alphabet : String}
    (all : text.toList.all (fun c => alphabet.toList.contains c) = true) :
    text.toList ⊆ alphabet.toList :=
  fun c member => List.elem_iff.mp (List.all_eq_true.mp all c member)

section Csv

variable (timestampText : Nat → String) (uuidText : Uuid → String)

def errorCsvRow (error : ErrorDetail) : String :=
  timestampText error.timestamp ++ "," ++ error.errorType.debug ++ "," ++
    uuidText error.connectionId ++ ",\"" ++ replaceChar error.message '"' "\"\"" ++ "\",\"" ++
    replaceChar (error.context.getD "") '"' "\"\"" ++ "\"\n"

/-- The text of `{path}_errors.csv`. -/
def errorsCsv (errors : List ErrorDetail) : String :=
  errors.foldl (fun csv error => csv ++ errorCsvRow timestampText uuidText error)
    "timestamp,error_type,connection_id,message,context\n"

/-- The five values of an error. -/
def errorValues (error : ErrorDetail) : List String :=
  [timestampText error.timestamp, error.errorType.debug, uuidText error.connectionId,
    error.message, error.context.getD ""]

variable {timestampText uuidText}

theorem toList_foldl_append {Item : Type} (text : Item → String) (items : List Item)
    (start : String) :
    (items.foldl (fun all item => all ++ text item) start).toList =
      start.toList ++ items.flatMap (fun item => (text item).toList) := by
  induction items generalizing start with
  | nil => simp
  | cons item items inductionHypothesis =>
      rw [List.foldl_cons, inductionHypothesis, String.toList_append, List.append_assoc,
        List.flatMap_cons]

theorem plain_of_subset {text alphabet : String} (within : text.toList ⊆ alphabet.toList)
    (plain : alphabet.toList.all (fun c => Csv.mark c = .other) = true) :
    ∀ c ∈ text.toList, Csv.mark c = .other :=
  fun c member => Csv.plain_of_all plain c (within member)

theorem plain_debug (errorType : ErrorType) :
    ∀ c ∈ errorType.debug.toList, Csv.mark c = .other :=
  Csv.plain_of_all (by cases errorType <;> decide)

theorem replaceChar_quote (text : String) :
    (replaceChar text '"' "\"\"").toList = text.toList.flatMap Csv.doubled := by
  rw [replaceChar, String.toList_ofList]
  refine List.flatMap_congr (fun c _ => ?_)
  rw [Csv.doubled]
  split
  · rename_i quote
    rw [quote]
    rfl
  · rfl

/-- The header and the errors as the rows of a table. -/
def headerRow : Csv.Row where
  first := .bare "timestamp".toList (Csv.plain_of_all (by decide))
  others :=
    [.bare "error_type".toList (Csv.plain_of_all (by decide)),
      .bare "connection_id".toList (Csv.plain_of_all (by decide)),
      .bare "message".toList (Csv.plain_of_all (by decide)),
      .bare "context".toList (Csv.plain_of_all (by decide))]

def errorRow (dates : ∀ instant, DateText (timestampText instant))
    (ids : ∀ id, UuidText (uuidText id)) (error : ErrorDetail) : Csv.Row where
  first := .bare (timestampText error.timestamp).toList
    (plain_of_subset (dates error.timestamp) (by decide))
  others :=
    [.bare error.errorType.debug.toList (plain_debug error.errorType),
      .bare (uuidText error.connectionId).toList
        (plain_of_subset (ids error.connectionId) (by decide)),
      .quoted error.message.toList, .quoted (error.context.getD "").toList]

theorem errorCsvRow_eq (dates : ∀ instant, DateText (timestampText instant))
    (ids : ∀ id, UuidText (uuidText id)) (error : ErrorDetail) :
    (errorCsvRow timestampText uuidText error).toList = (errorRow dates ids error).write := by
  have comma : ",".toList = [','] := rfl
  have opened : ",\"".toList = [',', '"'] := rfl
  have between : "\",\"".toList = ['"', ',', '"'] := rfl
  have closed : "\"\n".toList = ['"', '\n'] := rfl
  simp only [errorCsvRow, errorRow, Csv.Row.write, Csv.Field.write, String.toList_append,
    replaceChar_quote, comma, opened, between, closed, List.flatMap_cons, List.flatMap_nil,
    List.append_assoc, List.cons_append, List.nil_append]

theorem header_eq :
    "timestamp,error_type,connection_id,message,context\n".toList = headerRow.write := by
  decide +kernel

theorem read_errorsCsv (dates : ∀ instant, DateText (timestampText instant))
    (ids : ∀ id, UuidText (uuidText id)) (errors : List ErrorDetail) :
    Csv.read (errorsCsv timestampText uuidText errors).toList =
      some ((["timestamp", "error_type", "connection_id", "message", "context"] ::
        errors.map (errorValues timestampText uuidText)).map (List.map String.toList)) := by
  have rows : (errorsCsv timestampText uuidText errors).toList =
      (headerRow :: errors.map (errorRow dates ids)).flatMap Csv.Row.write := by
    rw [errorsCsv, toList_foldl_append, header_eq, List.flatMap_cons, List.flatMap_map]
    exact congrArg _ (List.flatMap_congr (fun error _ => errorCsvRow_eq dates ids error))
  rw [rows, Csv.read_write, List.map_cons, List.map_cons, List.map_map, List.map_map]
  rfl

/-- Reading the exported CSV gives back the header and one row of five values for each
error. -/
theorem errors_csv_reads_back (dates : ∀ instant, DateText (timestampText instant))
    (ids : ∀ id, UuidText (uuidText id)) (errors : List ErrorDetail) :
    Csv.read (errorsCsv timestampText uuidText errors).toList =
      some ((["timestamp", "error_type", "connection_id", "message", "context"] ::
        errors.map (errorValues timestampText uuidText)).map (List.map String.toList)) :=
  read_errorsCsv dates ids errors

/-- An error of a message, without context. -/
def reportedError (message : String) : ErrorDetail where
  errorType := .protocolError
  message := message
  timestamp := 0
  connectionId := ⟨0⟩
  context := none

/-- Quotes, a comma and line breaks in a message, and an empty message. -/
theorem errors_csv_reads_back_quotes :
    Csv.read (errorsCsv (fun _ => "1970-01-01 00:00:00")
        (fun _ => "00000000-0000-0000-0000-000000000000")
        [reportedError "\"a\",\r\n\"\"", reportedError ""]).toList =
      some ((["timestamp", "error_type", "connection_id", "message", "context"] ::
        [reportedError "\"a\",\r\n\"\"", reportedError ""].map
          (errorValues (fun _ => "1970-01-01 00:00:00")
            (fun _ => "00000000-0000-0000-0000-000000000000"))).map (List.map String.toList)) :=
  errors_csv_reads_back (fun _ => subset_of_all (by decide)) (fun _ => subset_of_all (by decide))
    [reportedError "\"a\",\r\n\"\"", reportedError ""]

end Csv

section Html

variable (timestampText : Nat → String)

def recentErrorRow (error : ErrorDetail) : String :=
  "<tr><td>" ++ timestampText error.timestamp ++ "</td><td>" ++ error.errorType.debug ++
    "</td><td>" ++ error.message ++ "</td><td>" ++ error.context.getD "N/A" ++ "</td></tr>\n"

/-- `recent_errors_html`. -/
def recentErrorsHtml (errors : List ErrorDetail) : String :=
  errors.foldl (fun html error => html ++ recentErrorRow timestampText error) ""

/-- The markup of one row of four cells. -/
def rowTags : List String :=
  ["<tr>", "<td>", "</td>", "<td>", "</td>", "<td>", "</td>", "<td>", "</td>", "</tr>"]

variable {timestampText}

theorem inert_of_all {text : List Char} (all : text.all (fun c => !decide (c = '<')) = true) :
    Markup.Inert text := by
  intro c _ inside
  have member : '<' ∈ text := inside.subset List.mem_cons_self
  simpa using List.all_eq_true.mp all _ member

theorem inert_timestamp (dates : ∀ instant, DateText (timestampText instant)) (instant : Nat) :
    Markup.Inert (timestampText instant).toList := by
  intro c _ inside
  have member : '<' ∈ "0123456789-+: ".toList := dates instant (inside.subset List.mem_cons_self)
  exact absurd member (by decide)

theorem inert_debug (errorType : ErrorType) : Markup.Inert errorType.debug.toList :=
  inert_of_all (by cases errorType <;> decide)

/-- The two texts of an error open no markup. -/
def ErrorDetail.Inert (error : ErrorDetail) : Prop :=
  Markup.Inert error.message.toList ∧ Markup.Inert (error.context.getD "N/A").toList

/-- The text of a row, cell by cell. -/
theorem toList_recentErrorRow (error : ErrorDetail) (rest : List Char) :
    (recentErrorRow timestampText error).toList ++ rest =
      "<tr><td>".toList ++ ((timestampText error.timestamp).toList ++
        '<' :: ("/td><td>".toList ++ (error.errorType.debug.toList ++
          '<' :: ("/td><td>".toList ++ (error.message.toList ++
            '<' :: ("/td><td>".toList ++ ((error.context.getD "N/A").toList ++
              '<' :: ("/td></tr>\n".toList ++ rest)))))))) := by
  have cell : "</td><td>".toList = '<' :: "/td><td>".toList := rfl
  have row : "</td></tr>\n".toList = '<' :: "/td></tr>\n".toList := rfl
  delta recentErrorRow
  simp only [String.toList_append, cell, row, List.append_assoc, List.cons_append]

/-- A row of inert texts has the markup of its template. -/
theorem markup_row (dates : ∀ instant, DateText (timestampText instant)) {error : ErrorDetail}
    (inert : error.Inert) (rest : List Char) :
    Markup.markup ((recentErrorRow timestampText error).toList ++ rest) =
      rowTags.map String.toList ++ Markup.markup rest := by
  have opening : ∀ after, Markup.markup ("<tr><td>".toList ++ after) =
      "<tr>".toList :: "<td>".toList :: Markup.markup after := fun _ => rfl
  have between : ∀ after, Markup.markup ('<' :: ("/td><td>".toList ++ after)) =
      "</td>".toList :: "<td>".toList :: Markup.markup after := fun _ => rfl
  have closing : Markup.markup ('<' :: ("/td></tr>\n".toList ++ rest)) =
      "</td>".toList :: "</tr>".toList :: Markup.markup rest := rfl
  rw [toList_recentErrorRow, opening,
    Markup.markup_append_lessThan (inert_timestamp dates error.timestamp), between,
    Markup.markup_append_lessThan (inert_debug error.errorType), between,
    Markup.markup_append_lessThan inert.1, between, Markup.markup_append_lessThan inert.2, closing]
  rfl

/-- The openings of a row: those of its template and of its texts. -/
theorem openings_row (dates : ∀ instant, DateText (timestampText instant)) (error : ErrorDetail)
    (rest : List Char) :
    Markup.openings ((recentErrorRow timestampText error).toList ++ rest) =
      10 + Markup.openings error.message.toList +
        Markup.openings (error.context.getD "N/A").toList + Markup.openings rest := by
  have close : ∀ after, Markup.openings ('>' :: after) = Markup.openings after :=
    Markup.openings_cons (by decide)
  have opening : ∀ after, Markup.openings ("<tr><td>".toList ++ after) =
      Markup.openings after + 2 := fun after => congrArg (· + 2) (close after)
  have between : ∀ after, Markup.openings ('<' :: ("/td><td>".toList ++ after)) =
      Markup.openings after + 2 := fun after => congrArg (· + 2) (close after)
  have closing : Markup.openings ('<' :: ("/td></tr>\n".toList ++ rest)) =
      Markup.openings rest + 2 := congrArg (· + 2) (Markup.openings_cons (by decide) rest)
  have shut : Markup.opens '<' = false := by decide
  rw [toList_recentErrorRow, opening, Markup.openings_append _ shut, between,
    Markup.openings_append _ shut, between, Markup.openings_append _ shut, between,
    Markup.openings_append _ shut, closing,
    Markup.openings_eq_zero_iff.mpr (inert_timestamp dates error.timestamp),
    Markup.openings_eq_zero_iff.mpr (inert_debug error.errorType)]
  omega

theorem openings_rows (dates : ∀ instant, DateText (timestampText instant))
    (errors : List ErrorDetail) :
    Markup.openings (errors.flatMap (fun error => (recentErrorRow timestampText error).toList)) =
      10 * errors.length + (errors.map (fun error => Markup.openings error.message.toList +
        Markup.openings (error.context.getD "N/A").toList)).sum := by
  induction errors with
  | nil => rfl
  | cons error errors inductionHypothesis =>
      rw [List.flatMap_cons, openings_row dates, inductionHypothesis, List.length_cons,
        List.map_cons, List.sum_cons]
      omega

/-- The pieces of a row's template hold one opening each. -/
theorem sum_openings_rowTags (errors : List ErrorDetail) :
    ((errors.flatMap (fun _ => rowTags.map String.toList)).map Markup.openings).sum =
      10 * errors.length := by
  have one : ((rowTags.map String.toList).map Markup.openings).sum = 10 := by decide
  induction errors with
  | nil => rfl
  | cons error errors inductionHypothesis =>
      rw [List.flatMap_cons, List.map_append, List.sum_append, inductionHypothesis, one,
        List.length_cons]
      omega

theorem toList_recentErrorsHtml (errors : List ErrorDetail) :
    (recentErrorsHtml timestampText errors).toList =
      errors.flatMap (fun error => (recentErrorRow timestampText error).toList) := by
  rw [recentErrorsHtml, toList_foldl_append, String.toList_empty, List.nil_append]

/-- Where the markup is that of the template, the texts have no openings. -/
theorem openings_of_markup_eq (dates : ∀ instant, DateText (timestampText instant))
    {errors : List ErrorDetail}
    (same : Markup.markup (recentErrorsHtml timestampText errors).toList =
      errors.flatMap (fun _ => rowTags.map String.toList)) :
    (errors.map (fun error => Markup.openings error.message.toList +
      Markup.openings (error.context.getD "N/A").toList)).sum = 0 := by
  have counted := Markup.sum_openings_markup (recentErrorsHtml timestampText errors).toList
  rw [same, sum_openings_rowTags, toList_recentErrorsHtml, openings_rows dates] at counted
  omega

/-- The rows hold one row of four cells for each error, and no other markup, exactly
when no message and no context opens markup. -/
theorem recent_errors_shown_iff (dates : ∀ instant, DateText (timestampText instant))
    (errors : List ErrorDetail) :
    Markup.markup (recentErrorsHtml timestampText errors).toList =
        errors.flatMap (fun _ => rowTags.map String.toList) ↔
      ∀ error ∈ errors, error.Inert := by
  constructor
  · intro same error member
    have none := List.sum_eq_zero_iff_forall_eq_nat.mp (openings_of_markup_eq dates same) _
      (List.mem_map_of_mem member)
    exact ⟨Markup.openings_eq_zero_iff.mp (Nat.eq_zero_of_add_eq_zero_right none),
      Markup.openings_eq_zero_iff.mp (Nat.eq_zero_of_add_eq_zero_left none)⟩
  · intro inert
    rw [toList_recentErrorsHtml]
    induction errors with
    | nil => rfl
    | cons error errors inductionHypothesis =>
        rw [List.flatMap_cons, List.flatMap_cons, markup_row dates (inert error List.mem_cons_self),
          inductionHypothesis (fun other member => inert other (List.mem_cons_of_mem error member))]

/-- A `<` before a space is text. -/
theorem recent_errors_shown_iff_comparison :
    Markup.markup (recentErrorsHtml (fun _ => "1970-01-01 00:00:00")
        [reportedError "1 < 2", reportedError "<>"]).toList =
      [reportedError "1 < 2", reportedError "<>"].flatMap (fun _ => rowTags.map String.toList) := by
  refine (recent_errors_shown_iff (fun _ => subset_of_all (by decide)) _).mpr ?_
  have inert : ∀ text : String, Markup.openings text.toList = 0 → Markup.Inert text.toList :=
    fun _ => Markup.openings_eq_zero_iff.mp
  simp only [List.forall_mem_cons, List.not_mem_nil, false_implies, implies_true, and_true]
  exact ⟨⟨inert _ (by decide), inert _ (by decide)⟩, inert _ (by decide), inert _ (by decide)⟩

/-- A message of one tag brings markup of its own. -/
theorem message_brings_markup :
    Markup.markup (recentErrorsHtml (fun _ => "1970-01-01 00:00:00")
        [reportedError "<b>"]).toList ≠
      [reportedError "<b>"].flatMap (fun _ => rowTags.map String.toList) := by
  intro same
  have none := openings_of_markup_eq (fun _ => subset_of_all (by decide)) same
  exact absurd none (by decide)

end Html

end Npt.Shared
