import Npt.Core.Utf8
import Npt.Shared.SharedLog

/-!
Contract: the formatter that brings tracing events into the log
(`shared/src/log_buffer.rs`).

The message of an event reaches the visitor as a text, or as format arguments
through their debug output. The visitor takes the quotation marks off a debug
output, and cannot tell a quoted text from one that has such marks itself.

Owns: the visitor, the formatter, and which messages come through unchanged.

Does not own: the subscriber and its writer, or the clock.
-/

namespace Npt.Shared

open Npt.Core

/-! ## Events -/

/-- A value as a visitor gets it: through `record_str`, or through `record_debug`
with what `{:?}` makes of it. -/
inductive FieldValue where
  | str (text : String)
  | debug (output : String)
deriving DecidableEq, Repr

def FieldValue.text : FieldValue → String
  | .str text => text
  | .debug output => output

structure EventField where
  name : String
  value : FieldValue
deriving DecidableEq, Repr

/-- An event with its metadata, its fields in the order they are recorded in. -/
structure Event where
  level : Level
  target : String
  fields : List EventField
deriving DecidableEq, Repr

/-- The values recorded under the name `message`. -/
def messagesOf (fields : List EventField) : List FieldValue :=
  (fields.filter (fun field => field.name = "message")).map EventField.value

/-- The message of an event, which is the last one if there are several. -/
def Event.message (event : Event) : Option FieldValue := (messagesOf event.fields).getLast?

/-! ## The visitor -/

structure MessageVisitor where
  message : String := ""
deriving DecidableEq, Repr

namespace MessageVisitor

/-- The quotes of a debug format removed. A slice out of range is a panic and gives
no text. -/
def unquote (message : String) : Option String :=
  if message.startsWith '"' && message.endsWith '"' then
    Utf8.slice message 1 (message.utf8ByteSize - 1)
  else some message

def recordDebug (visitor : MessageVisitor) (name : String) (output : String) :
    Option MessageVisitor :=
  if name = "message" then (unquote output).map MessageVisitor.mk else some visitor

def recordStr (visitor : MessageVisitor) (name : String) (value : String) : MessageVisitor :=
  if name = "message" then ⟨value⟩ else visitor

def record (visitor : MessageVisitor) (field : EventField) : Option MessageVisitor :=
  match field.value with
  | .str value => some (visitor.recordStr field.name value)
  | .debug output => visitor.recordDebug field.name output

end MessageVisitor

/-- `event.record(&mut visitor)`. -/
def recordAll (fields : List EventField) : Option MessageVisitor :=
  fields.foldlM MessageVisitor.record {}

/-! ## The formatter -/

structure TuiLogFormatter where
  buffer : LogHandle
  suppressWriterOutput : Bool := false
deriving DecidableEq, Repr

namespace TuiLogFormatter

def new (buffer : LogHandle) : TuiLogFormatter where
  buffer := buffer

def newWithSuppression (buffer : LogHandle) (suppressWriterOutput : Bool) : TuiLogFormatter where
  buffer := buffer
  suppressWriterOutput := suppressWriterOutput

/-- `format_event` at an instant: the log it leaves and what it has the writer
write, or nothing where it panics. -/
def formatEvent (formatter : TuiLogFormatter) (store : LogStore) (now : Nat) (event : Event) :
    Option (LogStore × Option String) := do
  let visitor ← recordAll event.fields
  let message := visitor.message
  let entry : LogEntry :=
    { timestamp := now, level := event.level, target := event.target, message := message }
  let store := formatter.buffer.addEntry entry store
  return (store, if !formatter.suppressWriterOutput then some (message ++ "\n") else none)

end TuiLogFormatter

/-! ## What becomes of a message -/

namespace FieldValue

/-- A debug output that starts and ends with a quotation mark. -/
def quoted : FieldValue → Bool
  | .str _ => false
  | .debug output => output.startsWith '"' && output.endsWith '"'

/-- What the visitor makes of a message. -/
def stored : FieldValue → Option String
  | .str text => some text
  | .debug output => MessageVisitor.unquote output

theorem record_message (visitor : MessageVisitor) {field : EventField}
    (named : field.name = "message") :
    visitor.record field = field.value.stored.map MessageVisitor.mk := by
  obtain ⟨name, value⟩ := field
  obtain rfl : name = "message" := named
  cases value <;> rfl

theorem record_other (visitor : MessageVisitor) {field : EventField}
    (other : field.name ≠ "message") : visitor.record field = some visitor := by
  obtain ⟨name, value⟩ := field
  cases value with
  | str text => exact congrArg some (if_neg other)
  | debug output => exact if_neg other

theorem stored_of_unquoted {value : FieldValue} (unquoted : value.quoted = false) :
    value.stored = some value.text := by
  cases value with
  | str text => rfl
  | debug output =>
      rw [quoted] at unquoted
      rw [stored, MessageVisitor.unquote, unquoted, if_neg Bool.false_ne_true, text]

/-- One quotation mark is both ends, and the slice between them is inverted. -/
theorem stored_mark : stored (.debug (String.singleton '"')) = none := by
  have starts : (String.singleton '"').startsWith '"' = true :=
    String.startsWith_char_iff_exists_append.mpr ⟨"", rfl⟩
  have ends : (String.singleton '"').endsWith '"' = true :=
    String.endsWith_char_iff_exists_append.mpr ⟨"", rfl⟩
  rw [stored, MessageVisitor.unquote, starts, ends]
  exact Utf8.slice_of_lt (by decide) _

theorem stored_enclosed (inside : String) :
    stored (.debug (String.singleton '"' ++ inside ++ String.singleton '"')) = some inside := by
  have starts : (String.singleton '"' ++ inside ++ String.singleton '"').startsWith '"' = true :=
    String.startsWith_char_iff_exists_append.mpr
      ⟨inside ++ String.singleton '"', String.append_assoc⟩
  have ends : (String.singleton '"' ++ inside ++ String.singleton '"').endsWith '"' = true :=
    String.endsWith_char_iff_exists_append.mpr ⟨String.singleton '"' ++ inside, rfl⟩
  rw [stored, MessageVisitor.unquote, starts, ends]
  exact Utf8.slice_enclosed '"' inside

/-- A quoted output is a single mark, or loses the marks around what it says. -/
theorem quoted_cases {value : FieldValue} (quoted : value.quoted = true) :
    value = .debug "\"" ∨
      ∃ inside, value.text = "\"" ++ inside ++ "\"" ∧ value.stored = some inside := by
  cases value with
  | str text => cases quoted
  | debug output =>
      obtain ⟨starts, ends⟩ := (Bool.and_eq_true _ _).mp quoted
      rcases Utf8.eq_singleton_or_enclosed starts ends with rfl | ⟨inside, rfl⟩
      · exact Or.inl rfl
      · exact Or.inr ⟨inside, rfl, stored_enclosed inside⟩

theorem stored_eq_text_iff (value : FieldValue) :
    value.stored = some value.text ↔ value.quoted = false := by
  constructor
  · intro kept
    by_contra marked
    rcases quoted_cases (Bool.not_eq_false _ ▸ marked) with rfl | ⟨inside, text, stripped⟩
    · cases stored_mark.symm.trans kept
    · -- What is inside is shorter than the text.
      have same : inside = "\"" ++ inside ++ "\"" := by
        rw [← text]
        exact Option.some.inj (stripped.symm.trans kept)
      have lengths := congrArg String.length same
      simp only [String.length_append] at lengths
      have mark : "\"".length = 1 := rfl
      omega
  · exact stored_of_unquoted

theorem stored_isSome_iff (value : FieldValue) :
    value.stored.isSome = true ↔ value ≠ .debug "\"" := by
  constructor
  · rintro some rfl
    rw [show stored (.debug "\"") = none from stored_mark] at some
    cases some
  · intro other
    cases marked : value.quoted with
    | false => rw [stored_of_unquoted marked, Option.isSome_some]
    | true =>
        rcases quoted_cases marked with mark | ⟨inside, _, stripped⟩
        · exact absurd mark other
        · rw [stripped, Option.isSome_some]

end FieldValue

section Visiting

variable {fields : List EventField} {field : EventField} {visitor : MessageVisitor}

@[simp] theorem recordAll_concat (fields : List EventField) (field : EventField) :
    recordAll (fields ++ [field]) =
      (recordAll fields).bind (fun visitor => visitor.record field) := by
  simp [recordAll, List.foldlM_append]

theorem messagesOf_message (fields : List EventField) (named : field.name = "message") :
    messagesOf (fields ++ [field]) = messagesOf fields ++ [field.value] := by
  simp [messagesOf, named]

theorem messagesOf_other (fields : List EventField) (other : field.name ≠ "message") :
    messagesOf (fields ++ [field]) = messagesOf fields := by
  simp [messagesOf, other]

/-- The visitor panics at a message that is a single quotation mark, and at no other. -/
theorem recordAll_isSome_iff (fields : List EventField) :
    (recordAll fields).isSome = true ↔ ∀ value ∈ messagesOf fields, value ≠ .debug "\"" := by
  induction fields using List.reverseRecOn with
  | nil => exact iff_of_true rfl (by simp [messagesOf])
  | append_singleton fields field inductionHypothesis =>
      rw [recordAll_concat]
      by_cases named : field.name = "message"
      · rw [messagesOf_message _ named, List.forall_mem_append, List.forall_mem_singleton,
          ← inductionHypothesis, ← FieldValue.stored_isSome_iff]
        cases recordAll fields <;> simp [FieldValue.record_message _ named]
      · rw [messagesOf_other _ named, ← inductionHypothesis]
        cases recordAll fields <;> simp [FieldValue.record_other _ named]

/-- The visitor holds what the last message was stored as. -/
theorem stored_of_recordAll (recorded : recordAll fields = some visitor) {value : FieldValue}
    (last : (messagesOf fields).getLast? = some value) : value.stored = some visitor.message := by
  induction fields using List.reverseRecOn generalizing visitor with
  | nil => cases last
  | append_singleton fields field inductionHypothesis =>
      rw [recordAll_concat] at recorded
      obtain ⟨earlier, before, here⟩ := Option.bind_eq_some_iff.mp recorded
      by_cases named : field.name = "message"
      · rw [messagesOf_message _ named, List.getLast?_concat] at last
        obtain rfl := Option.some.inj last
        rw [FieldValue.record_message _ named] at here
        obtain ⟨text, stored, rfl⟩ := Option.map_eq_some_iff.mp here
        exact stored
      · rw [messagesOf_other _ named] at last
        rw [FieldValue.record_other _ named] at here
        obtain rfl := Option.some.inj here
        exact inductionHypothesis before last

end Visiting

/-! ## Which messages come through -/

section Formatting

variable {formatter : TuiLogFormatter} {store : LogStore} {now : Nat} {event : Event}

/-- The entry of an event whose message is a text. -/
def Event.entry (event : Event) (now : Nat) (message : String) : LogEntry :=
  { timestamp := now, level := event.level, target := event.target, message := message }

/-- Formatting does not panic, and the newest entry it leaves has the event's own
message. -/
def KeepsMessage (formatter : TuiLogFormatter) (store : LogStore) (now : Nat) (event : Event) :
    Prop :=
  ∃ next written, formatter.formatEvent store now event = some (next, written) ∧
    ∀ value, event.message = some value →
      (formatter.buffer.buffer next).getLatest 1 = [event.entry now value.text]

/-- Formatting adds one entry through the formatter's handle, unless the visitor
panics. -/
theorem formatEvent_eq :
    formatter.formatEvent store now event =
      (recordAll event.fields).map (fun visitor =>
        (formatter.buffer.addEntry (event.entry now visitor.message) store,
          if !formatter.suppressWriterOutput then some (visitor.message ++ "\n") else none)) := by
  cases recorded : recordAll event.fields with
  | none => simp [TuiLogFormatter.formatEvent, recorded]
  | some visitor => simp [TuiLogFormatter.formatEvent, recorded, Event.entry]

/-- Formatting is one call of `add_entry` through the formatter's clone. -/
theorem step_of_formatEvent {log : SharedLog} {index : Nat} {next : LogStore}
    {written : Option String} (held : log.handles[index]? = some formatter.buffer)
    (formatted : formatter.formatEvent log.store now event = some (next, written)) :
    ∃ message, sharedLog.step log ⟨index, .addEntry (event.entry now message)⟩ =
      some { log with store := next } := by
  rw [formatEvent_eq] at formatted
  obtain ⟨visitor, _, outcome⟩ := Option.map_eq_some_iff.mp formatted
  obtain ⟨rfl, _⟩ := Prod.mk.inj outcome
  refine ⟨visitor.message, ?_⟩
  simp [sharedLog, SharedLog.step, held, SharedLog.perform]

/-- A message comes through unless the visitor panics or takes quotation marks for
those of a debug format. -/
theorem keepsMessage_iff (formatter : TuiLogFormatter) (store : LogStore) (now : Nat)
    (event : Event) :
    KeepsMessage formatter store now event ↔
      (∀ value ∈ messagesOf event.fields, value ≠ .debug "\"") ∧
        ∀ value, event.message = some value → value.quoted = false := by
  rw [← recordAll_isSome_iff, KeepsMessage, formatEvent_eq]
  constructor
  · rintro ⟨next, written, formatted, kept⟩
    obtain ⟨visitor, recorded, outcome⟩ := Option.map_eq_some_iff.mp formatted
    obtain ⟨rfl, _⟩ := Prod.mk.inj outcome
    refine ⟨by rw [recorded, Option.isSome_some], fun value last => ?_⟩
    have newest := kept value last
    rw [LogHandle.buffer_addEntry, LogBuffer.getLatest_one_addEntry] at newest
    have same : visitor.message = value.text :=
      congrArg LogEntry.message (List.singleton_inj.mp newest)
    rw [← FieldValue.stored_eq_text_iff, stored_of_recordAll recorded last, same]
  · rintro ⟨visited, unquoted⟩
    obtain ⟨visitor, recorded⟩ := Option.isSome_iff_exists.mp visited
    refine ⟨_, _, by rw [recorded, Option.map_some], fun value last => ?_⟩
    have stored := stored_of_recordAll recorded last
    rw [FieldValue.stored_of_unquoted (unquoted value last)] at stored
    rw [LogHandle.buffer_addEntry, LogBuffer.getLatest_one_addEntry, Option.some.inj stored]

end Formatting

/-- An event that says what its format arguments say. -/
def argumentsEvent (text : String) : Event where
  level := .info
  target := "client"
  fields := [⟨"message", .debug text⟩]

theorem recordAll_argumentsEvent (text : String) :
    recordAll (argumentsEvent text).fields =
      (FieldValue.stored (.debug text)).map MessageVisitor.mk := by
  calc recordAll (argumentsEvent text).fields
      = (recordAll []).bind (fun visitor => visitor.record ⟨"message", .debug text⟩) :=
        recordAll_concat [] _
    _ = (FieldValue.stored (.debug text)).map MessageVisitor.mk :=
        @FieldValue.record_message {} ⟨"message", .debug text⟩ rfl

/-- A lone quotation mark panics, and a text in quotation marks loses them. -/
theorem marks_not_kept :
    ¬KeepsMessage (.newWithSuppression ⟨1000, false⟩ true) {} 0 (argumentsEvent "\"") ∧
      ¬KeepsMessage (.newWithSuppression ⟨1000, false⟩ true) {} 0 (argumentsEvent "\"a\"") := by
  constructor
  · rintro ⟨next, written, formatted, _⟩
    have panicked : FieldValue.stored (.debug "\"") = none := FieldValue.stored_mark
    rw [formatEvent_eq, recordAll_argumentsEvent, panicked] at formatted
    cases formatted
  · rintro ⟨next, written, formatted, kept⟩
    have stripped : FieldValue.stored (.debug "\"a\"") = some "a" :=
      FieldValue.stored_enclosed "a"
    rw [formatEvent_eq, recordAll_argumentsEvent, stripped] at formatted
    obtain ⟨rfl, _⟩ := Prod.mk.inj (Option.some.inj formatted)
    have newest := kept (.debug "\"a\"") rfl
    exact absurd newest (by decide)

end Npt.Shared
