import Mathlib.Data.List.Basic

/-!
Contract: comma-separated values as RFC 4180 has them.

A field is bare, without commas, quotes or line breaks, or it is quoted, with every
quote inside doubled. A record ends at a line break, which may be a line feed alone; the
last one may also end with the text.

Owns: the reader of a text, the fields a writer may write, and that reading a written
text gives its records back.

Does not own: any particular table.
-/

namespace Npt.Core.Csv

/-- What a character is to the reader. -/
inductive Mark where
  | quote
  | comma
  | carriageReturn
  | lineFeed
  | other
deriving DecidableEq, Repr

def mark (c : Char) : Mark :=
  if c = '"' then .quote
  else if c = ',' then .comma
  else if c = '\r' then .carriageReturn
  else if c = '\n' then .lineFeed
  else .other

/-- Where in a record the reader is: before a field, in a bare or a quoted one, behind a
quote that may have closed it, or behind a carriage return. -/
inductive Place where
  | start
  | bare
  | quoted
  | closed
  | returned
deriving DecidableEq, Repr

abbrev Record := List (List Char)

/-- The record that the end of the text ends, if any. -/
def finish : Place → Record → List Char → Option (List Record)
  | .quoted, _, _ => none
  | .returned, _, _ => none
  -- A line break ended the last record.
  | .start, [], _ => some []
  | _, record, field => some [record ++ [field]]

/-- The records of a text, given the fields and the part of a field already read. -/
def readFrom : Place → Record → List Char → List Char → Option (List Record)
  | place, record, field, [] => finish place record field
  | .start, record, field, c :: rest =>
      match mark c with
      | .quote => readFrom .quoted record field rest
      | .comma => readFrom .start (record ++ [field]) [] rest
      | .carriageReturn => readFrom .returned record field rest
      | .lineFeed => (readFrom .start [] [] rest).map (List.cons (record ++ [field]))
      | .other => readFrom .bare record (field ++ [c]) rest
  | .bare, record, field, c :: rest =>
      match mark c with
      | .quote => none
      | .comma => readFrom .start (record ++ [field]) [] rest
      | .carriageReturn => readFrom .returned record field rest
      | .lineFeed => (readFrom .start [] [] rest).map (List.cons (record ++ [field]))
      | .other => readFrom .bare record (field ++ [c]) rest
  | .quoted, record, field, c :: rest =>
      match mark c with
      | .quote => readFrom .closed record field rest
      | _ => readFrom .quoted record (field ++ [c]) rest
  | .closed, record, field, c :: rest =>
      match mark c with
      | .quote => readFrom .quoted record (field ++ [c]) rest
      | .comma => readFrom .start (record ++ [field]) [] rest
      | .carriageReturn => readFrom .returned record field rest
      | .lineFeed => (readFrom .start [] [] rest).map (List.cons (record ++ [field]))
      | .other => none
  | .returned, record, field, c :: rest =>
      match mark c with
      | .lineFeed => (readFrom .start [] [] rest).map (List.cons (record ++ [field]))
      | _ => none

def read (text : List Char) : Option (List Record) := readFrom .start [] [] text

/-! ## Writing -/

def doubled (c : Char) : List Char := if c = '"' then [c, c] else [c]

inductive Field where
  | bare (text : List Char) (plain : ∀ c ∈ text, mark c = .other)
  | quoted (text : List Char)

namespace Field

def text : Field → List Char
  | bare text _ => text
  | quoted text => text

def write : Field → List Char
  | bare text _ => text
  | quoted text => '"' :: text.flatMap doubled ++ ['"']

end Field

/-- A record has at least one field. -/
structure Row where
  first : Field
  others : List Field

namespace Row

def texts (row : Row) : Record := row.first.text :: row.others.map Field.text

def write (row : Row) : List Char :=
  row.first.write ++ row.others.flatMap (fun field => ',' :: field.write) ++ ['\n']

end Row

/-! ## Reading what is written -/

theorem plain_of_all {text : List Char} (all : text.all (fun c => mark c = .other) = true) :
    ∀ c ∈ text, mark c = .other := by
  intro c member
  simpa using List.all_eq_true.mp all c member

theorem mark_ne_quote {c : Char} (different : c ≠ '"') : mark c ≠ .quote := by
  rw [mark, if_neg different]
  split_ifs <;> exact Mark.noConfusion

theorem read_bare (record : Record) {text : List Char} (plain : ∀ c ∈ text, mark c = .other)
    (field rest : List Char) :
    readFrom .bare record field (text ++ rest) = readFrom .bare record (field ++ text) rest := by
  induction text generalizing field with
  | nil => simp
  | cons c text inductionHypothesis =>
      have first := plain c List.mem_cons_self
      rw [List.cons_append, readFrom, first,
        inductionHypothesis (fun other member => plain other (List.mem_cons_of_mem c member)),
        List.append_assoc, List.singleton_append]

/-- Inside quotes a doubled quote is one, and every other character itself. -/
theorem read_quoted (record : Record) (text field rest : List Char) :
    readFrom .quoted record field (text.flatMap doubled ++ rest) =
      readFrom .quoted record (field ++ text) rest := by
  induction text generalizing field with
  | nil => simp
  | cons c text inductionHypothesis =>
      rw [List.flatMap_cons, List.append_assoc, List.append_cons field c text,
        ← inductionHypothesis]
      by_cases quote : c = '"'
      · subst quote
        rfl
      · rw [doubled, if_neg quote, List.singleton_append, readFrom]
        cases here : mark c with
        | quote => exact absurd here (mark_ne_quote quote)
        | _ => rfl

/-- The places where a separator ends a field. -/
def Place.Ends (place : Place) : Prop := place = .start ∨ place = .bare ∨ place = .closed

theorem read_comma {place : Place} (ends : place.Ends) (record : Record) (field rest : List Char) :
    readFrom place record field (',' :: rest) = readFrom .start (record ++ [field]) [] rest := by
  rcases ends with rfl | rfl | rfl <;> rfl

theorem read_lineFeed {place : Place} (ends : place.Ends) (record : Record)
    (field rest : List Char) :
    readFrom place record field ('\n' :: rest) =
      (read rest).map (List.cons (record ++ [field])) := by
  rcases ends with rfl | rfl | rfl <;> rfl

/-- A written field is read up to a place where it may end. -/
theorem read_field (record : Record) (field : Field) (rest : List Char) :
    ∃ place : Place, place.Ends ∧
      readFrom .start record [] (field.write ++ rest) = readFrom place record field.text rest := by
  cases field with
  | bare text plain =>
      cases text with
      | nil => exact ⟨.start, Or.inl rfl, rfl⟩
      | cons c text =>
          refine ⟨.bare, Or.inr (Or.inl rfl), ?_⟩
          have first := plain c List.mem_cons_self
          rw [Field.write, Field.text, List.cons_append, readFrom, first]
          exact read_bare record (fun other member => plain other (List.mem_cons_of_mem c member))
            [c] rest
  | quoted text =>
      refine ⟨.closed, Or.inr (Or.inr rfl), ?_⟩
      rw [Field.write, List.append_assoc, List.cons_append]
      show readFrom .quoted record [] (text.flatMap doubled ++ '"' :: rest) = _
      rw [read_quoted]
      rfl

theorem read_others (others : List Field) {place : Place} (ends : place.Ends) (record : Record)
    (field rest : List Char) :
    readFrom place record field
        (others.flatMap (fun field => ',' :: field.write) ++ '\n' :: rest) =
      (read rest).map (List.cons (record ++ [field] ++ others.map Field.text)) := by
  induction others generalizing place record field with
  | nil => simpa using read_lineFeed ends record field rest
  | cons next others inductionHypothesis =>
      rw [List.flatMap_cons, List.append_assoc, List.cons_append, read_comma ends]
      obtain ⟨place, ends, same⟩ := read_field (record ++ [field]) next
        (others.flatMap (fun field => ',' :: field.write) ++ '\n' :: rest)
      rw [same, inductionHypothesis ends, List.map_cons, List.append_assoc _ [next.text],
        List.singleton_append]

theorem read_row (row : Row) (rest : List Char) :
    read (row.write ++ rest) = (read rest).map (List.cons row.texts) := by
  rw [Row.write, List.append_assoc, List.append_assoc, List.singleton_append, read]
  obtain ⟨place, ends, same⟩ := read_field [] row.first
    (row.others.flatMap (fun field => ',' :: field.write) ++ '\n' :: rest)
  rw [same, read_others row.others ends]
  rfl

/-- Every written table is read back. -/
theorem read_write (rows : List Row) :
    read (rows.flatMap Row.write) = some (rows.map Row.texts) := by
  induction rows with
  | nil => rfl
  | cons row rows inductionHypothesis =>
      rw [List.flatMap_cons, read_row, inductionHypothesis, Option.map_some, List.map_cons]

end Npt.Core.Csv
