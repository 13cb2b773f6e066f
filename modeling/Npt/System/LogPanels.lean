import Mathlib.Algebra.Group.Nat.Defs
import Npt.Core.ScrollWindow
import Npt.Shared.LogBuffer

/-!
Contract: the log panels of the two dashboards (`client/src/tui.rs` and
`server/src/tui.rs`).

A key press changes the state of a dashboard, and rendering turns the state into a
panel of at most 8 lines. The key handler stops 10 lines from the first one, the
panel shows 8, so two lines are out of reach.

Owns: both key handlers, both panels, and which entries the Down key brings into
view.

Does not own: the charts or the terminal.
-/

namespace Npt.System

open Npt.Core
open Npt.Shared

/-- The keys that the dashboards tell apart. -/
inductive KeyCode where
  | char (c : Char)
  | esc
  | up
  | down
  | other
deriving DecidableEq, Repr

structure LogLine where
  time : String
  symbol : String
  color : Nat × Nat × Nat
  message : String
deriving DecidableEq, Repr

structure LogPanel where
  title : String
  lines : List LogLine
deriving DecidableEq, Repr

/-- The line of an entry. `timeText` formats an instant with `%H:%M:%S`. -/
def logLine (timeText : Nat → String) (entry : LogEntry) : LogLine where
  time := timeText entry.timestamp ++ " "
  symbol := entry.levelSymbol ++ " "
  color := entry.levelColor
  message := entry.message

/-! ## The client -/

/-- `ClientTui`, with the local `force_render` of its loop. -/
structure ClientTui where
  logBuffer : LogBuffer
  shouldQuit : Bool := false
  showLogs : Bool := false
  logScroll : Nat := 0
  forceRender : Bool := true
deriving DecidableEq, Repr

namespace ClientTui

/-- The key handling of `ClientTui::run`. -/
def handleKey (tui : ClientTui) (key : KeyCode) : ClientTui :=
  match key with
  | .char 'q' | .esc => { tui with shouldQuit := true }
  | .char 'l' | .char 'L' =>
      { tui with showLogs := !tui.showLogs, logScroll := 0, forceRender := true }
  | .up =>
      if tui.showLogs ∧ 0 < tui.logScroll then
        { tui with logScroll := tui.logScroll - 1, forceRender := true }
      else tui
  | .down =>
      if tui.showLogs then
        let logCount := tui.logBuffer.len
        if tui.logScroll < logCount - 10 then
          { tui with logScroll := tui.logScroll + 1, forceRender := true }
        else tui
      else tui
  | .char _ | .other => tui

/-- The number of log lines to show. -/
def visibleLogs : Nat := 8

def startIndex (tui : ClientTui) : Nat :=
  let totalLogs := tui.logBuffer.getEntries.length
  if visibleLogs < totalLogs then
    let maxScroll := totalLogs - visibleLogs
    let scroll := min tui.logScroll maxScroll
    totalLogs - visibleLogs - scroll
  else 0

def renderLogs (timeText : Nat → String) (tui : ClientTui) : LogPanel :=
  let logEntries := tui.logBuffer.getEntries
  let totalLogs := logEntries.length
  let displayedLogs :=
    ((logEntries.drop tui.startIndex).take visibleLogs).map (logLine timeText)
  { title :=
      if visibleLogs < totalLogs then
        s!"Logs ({tui.startIndex + min displayedLogs.length visibleLogs}/{totalLogs}) - ↑↓ to scroll"
      else s!"Logs ({totalLogs})"
    lines := displayedLogs }

end ClientTui

/-! ## The server -/

structure ServerTui where
  logBuffer : LogBuffer
  shouldQuit : Bool := false
  showLogs : Bool := false
  logScroll : Nat := 0
deriving DecidableEq, Repr

namespace ServerTui

/-- The key handling of `ServerTui::run`. -/
def handleKey (tui : ServerTui) (key : KeyCode) : ServerTui :=
  match key with
  | .char 'q' | .esc => { tui with shouldQuit := true }
  | .char 'l' | .char 'L' => { tui with showLogs := !tui.showLogs, logScroll := 0 }
  | .up =>
      if tui.showLogs ∧ 0 < tui.logScroll then { tui with logScroll := tui.logScroll - 1 } else tui
  | .down =>
      if tui.showLogs then
        let logCount := tui.logBuffer.len
        if tui.logScroll < logCount - 10 then { tui with logScroll := tui.logScroll + 1 } else tui
      else tui
  | .char _ | .other => tui

/-- The number of log lines to show. -/
def visibleLogs : Nat := 8

def startIndex (tui : ServerTui) : Nat :=
  let totalLogs := tui.logBuffer.getEntries.length
  if visibleLogs < totalLogs then
    let maxScroll := totalLogs - visibleLogs
    let scroll := min tui.logScroll maxScroll
    totalLogs - visibleLogs - scroll
  else 0

def renderLogs (timeText : Nat → String) (tui : ServerTui) : LogPanel :=
  let logEntries := tui.logBuffer.getEntries
  let totalLogs := logEntries.length
  let displayedLogs :=
    ((logEntries.drop tui.startIndex).take visibleLogs).map (logLine timeText)
  { title :=
      if visibleLogs < totalLogs then
        s!"Logs ({tui.startIndex + min displayedLogs.length visibleLogs}/{totalLogs}) - ↑↓ to scroll"
      else s!"Logs ({totalLogs})"
    lines := displayedLogs }

end ServerTui

/-! ## Entries in view -/

/-- Some line of the panel, whose first line stands for entry `start`, is the line of
entry `index`. -/
def LogPanel.Shows (timeText : Nat → String) (entries : List LogEntry) (start : Nat)
    (panel : LogPanel) (index : Nat) : Prop :=
  ∃ row entry, start + row = index ∧ entries[index]? = some entry ∧
    panel.lines[row]? = some (logLine timeText entry)

/-- The lines of a panel are those of its window. -/
theorem shows_iff {timeText : Nat → String} {entries : List LogEntry} {start visible : Nat}
    {panel : LogPanel}
    (lines : panel.lines = ((entries.drop start).take visible).map (logLine timeText))
    {index : Nat} (inside : index < entries.length) :
    panel.Shows timeText entries start index ↔ start ≤ index ∧ index < start + visible := by
  constructor
  · rintro ⟨row, entry, rfl, -, shown⟩
    have bound := (List.getElem?_eq_some_iff.mp shown).1
    rw [lines, List.length_map, List.length_take] at bound
    omega
  · rintro ⟨above, below⟩
    refine ⟨index - start, entries[index], by omega, List.getElem?_eq_getElem inside, ?_⟩
    rw [lines, List.getElem?_map, List.getElem?_take_of_lt (by omega), List.getElem?_drop,
      Nat.add_sub_of_le above, List.getElem?_eq_getElem inside]
    rfl

theorem startIndex_eq (total scroll : Nat) :
    (if 8 < total then total - 8 - min scroll (total - 8) else 0) = windowStart 8 total scroll := by
  unfold windowStart
  split <;> omega

/-- The entries from the first of them that the panel can be scrolled to, up to the
last in view. -/
def WithinReach (total scroll index : Nat) : Prop :=
  windowStart 8 total (max scroll (total - 10)) ≤ index ∧ index < windowStart 8 total scroll + 8

/-- From the bottom all but the first two entries are, or fewer where there are fewer
than 10. -/
theorem withinReach_zero_iff {total index : Nat} (inside : index < total) :
    WithinReach total 0 index ↔ min 2 (total - 8) ≤ index := by
  unfold WithinReach windowStart
  omega

/-- What pressing a key brings into view, for a dashboard that scrolls by one line with
every press and shows 8 lines from where its scroll puts it. -/
theorem exists_shows_iff {State : Type} {press : State → State} (timeText : Nat → String)
    {entries : List LogEntry} (kept : State → Prop) (scrollOf startOf : State → Nat)
    (panelOf : State → LogPanel)
    (each : ∀ state, kept state → kept (press state) ∧
      scrollOf (press state) = scrollDown (entries.length - 10) (scrollOf state))
    (starts : ∀ state, kept state →
      startOf state = windowStart 8 entries.length (scrollOf state))
    (lines : ∀ state, kept state →
      (panelOf state).lines = ((entries.drop (startOf state)).take 8).map (logLine timeText))
    {state : State} (initial : kept state) {index : Nat} (inside : index < entries.length) :
    (∃ presses, (panelOf (press^[presses] state)).Shows timeText entries
        (startOf (press^[presses] state)) index) ↔
      WithinReach entries.length (scrollOf state) index := by
  rw [WithinReach, ← exists_inWindow_iff (by decide)]
  refine exists_congr (fun presses => ?_)
  obtain ⟨still, scrolled⟩ := iterate_press kept scrollOf (entries.length - 10) each initial presses
  rw [shows_iff (lines _ still) inside, starts _ still, scrolled]
  rfl

namespace ClientTui

variable {tui : ClientTui}

/-- An entry is in view after some presses of the Down key. -/
def Reaches (timeText : Nat → String) (tui : ClientTui) (index : Nat) : Prop :=
  ∃ presses, LogPanel.Shows timeText tui.logBuffer.getEntries
    ((·.handleKey .down)^[presses] tui).startIndex
    (((·.handleKey .down)^[presses] tui).renderLogs timeText) index

theorem handleKey_down (shown : tui.showLogs = true) :
    ((tui.handleKey .down).logBuffer = tui.logBuffer ∧ (tui.handleKey .down).showLogs = true) ∧
      (tui.handleKey .down).logScroll =
        scrollDown (tui.logBuffer.len - 10) tui.logScroll := by
  simp only [handleKey, shown, if_true, scrollDown]
  by_cases room : tui.logScroll < tui.logBuffer.len - 10
  · rw [if_pos room, if_pos room]
    exact ⟨⟨rfl, rfl⟩, rfl⟩
  · rw [if_neg room, if_neg room]
    exact ⟨⟨rfl, shown⟩, rfl⟩

theorem reaches_iff (timeText : Nat → String) (shown : tui.showLogs = true) {index : Nat}
    (inside : index < tui.logBuffer.getEntries.length) :
    tui.Reaches timeText index ↔
      WithinReach tui.logBuffer.getEntries.length tui.logScroll index := by
  refine exists_shows_iff timeText
    (fun other : ClientTui => other.logBuffer = tui.logBuffer ∧ other.showLogs = true)
    logScroll startIndex (renderLogs timeText) ?_ ?_ ?_ ⟨rfl, shown⟩ inside
  · intro other kept
    have pressed := handleKey_down kept.2
    rw [kept.1] at pressed
    exact pressed
  · intro other kept
    rw [startIndex, kept.1, visibleLogs, startIndex_eq]
  · intro other kept
    rw [renderLogs, kept.1, visibleLogs]

/-- The key that opens the panel leaves it at the bottom. -/
theorem reaches_open_iff (timeText : Nat → String) (hidden : tui.showLogs = false) {index : Nat}
    (inside : index < tui.logBuffer.getEntries.length) :
    (tui.handleKey (.char 'l')).Reaches timeText index ↔
      min 2 (tui.logBuffer.getEntries.length - 8) ≤ index := by
  have shown : (tui.handleKey (.char 'l')).showLogs = true := by simp [handleKey, hidden]
  rw [reaches_iff timeText shown inside]
  exact withinReach_zero_iff inside

end ClientTui

namespace ServerTui

variable {tui : ServerTui}

/-- An entry is in view after some presses of the Down key. -/
def Reaches (timeText : Nat → String) (tui : ServerTui) (index : Nat) : Prop :=
  ∃ presses, LogPanel.Shows timeText tui.logBuffer.getEntries
    ((·.handleKey .down)^[presses] tui).startIndex
    (((·.handleKey .down)^[presses] tui).renderLogs timeText) index

theorem handleKey_down (shown : tui.showLogs = true) :
    ((tui.handleKey .down).logBuffer = tui.logBuffer ∧ (tui.handleKey .down).showLogs = true) ∧
      (tui.handleKey .down).logScroll =
        scrollDown (tui.logBuffer.len - 10) tui.logScroll := by
  simp only [handleKey, shown, if_true, scrollDown]
  by_cases room : tui.logScroll < tui.logBuffer.len - 10
  · rw [if_pos room, if_pos room]
    exact ⟨⟨rfl, rfl⟩, rfl⟩
  · rw [if_neg room, if_neg room]
    exact ⟨⟨rfl, shown⟩, rfl⟩

theorem reaches_iff (timeText : Nat → String) (shown : tui.showLogs = true) {index : Nat}
    (inside : index < tui.logBuffer.getEntries.length) :
    tui.Reaches timeText index ↔
      WithinReach tui.logBuffer.getEntries.length tui.logScroll index := by
  refine exists_shows_iff timeText
    (fun other : ServerTui => other.logBuffer = tui.logBuffer ∧ other.showLogs = true)
    logScroll startIndex (renderLogs timeText) ?_ ?_ ?_ ⟨rfl, shown⟩ inside
  · intro other kept
    have pressed := handleKey_down kept.2
    rw [kept.1] at pressed
    exact pressed
  · intro other kept
    rw [startIndex, kept.1, visibleLogs, startIndex_eq]
  · intro other kept
    rw [renderLogs, kept.1, visibleLogs]

/-- The key that opens the panel leaves it at the bottom. -/
theorem reaches_open_iff (timeText : Nat → String) (hidden : tui.showLogs = false) {index : Nat}
    (inside : index < tui.logBuffer.getEntries.length) :
    (tui.handleKey (.char 'l')).Reaches timeText index ↔
      min 2 (tui.logBuffer.getEntries.length - 8) ≤ index := by
  have shown : (tui.handleKey (.char 'l')).showLogs = true := by simp [handleKey, hidden]
  rw [reaches_iff timeText shown inside]
  exact withinReach_zero_iff inside

end ServerTui

/-- Which entries the Down key reaches, in either dashboard: those within reach of the
panel, which after opening it are all but the first two. -/
theorem reaches_iff_within (timeText : Nat → String) :
    (∀ (tui : ClientTui) (index : Nat), tui.showLogs = true →
        index < tui.logBuffer.getEntries.length →
        (tui.Reaches timeText index ↔
          WithinReach tui.logBuffer.getEntries.length tui.logScroll index)) ∧
      (∀ (tui : ServerTui) (index : Nat), tui.showLogs = true →
        index < tui.logBuffer.getEntries.length →
        (tui.Reaches timeText index ↔
          WithinReach tui.logBuffer.getEntries.length tui.logScroll index)) ∧
      (∀ (tui : ClientTui) (index : Nat), tui.showLogs = false →
        index < tui.logBuffer.getEntries.length →
        ((tui.handleKey (.char 'l')).Reaches timeText index ↔
          min 2 (tui.logBuffer.getEntries.length - 8) ≤ index)) ∧
      (∀ (tui : ServerTui) (index : Nat), tui.showLogs = false →
        index < tui.logBuffer.getEntries.length →
        ((tui.handleKey (.char 'l')).Reaches timeText index ↔
          min 2 (tui.logBuffer.getEntries.length - 8) ≤ index)) :=
  ⟨fun _ _ shown inside => ClientTui.reaches_iff timeText shown inside,
    fun _ _ shown inside => ServerTui.reaches_iff timeText shown inside,
    fun _ _ hidden inside => ClientTui.reaches_open_iff timeText hidden inside,
    fun _ _ hidden inside => ServerTui.reaches_open_iff timeText hidden inside⟩

/-- A buffer of nine entries. -/
def nineEntries : LogBuffer where
  entries := (List.range 9).map (fun second => ⟨second * 10 ^ 9, .info, "client", "tick"⟩)
  maxSize := 1000

/-- The second of nine entries can be scrolled to. -/
theorem reaches_iff_within_second :
    (ClientTui.handleKey { logBuffer := nineEntries } (.char 'l')).Reaches (fun _ => "00:00:00") 1 ∧
      (ServerTui.handleKey { logBuffer := nineEntries } (.char 'l')).Reaches
        (fun _ => "00:00:00") 1 := by
  obtain ⟨-, -, client, server⟩ := reaches_iff_within (fun _ => "00:00:00")
  exact ⟨(client _ 1 rfl (by decide)).mpr (by decide), (server _ 1 rfl (by decide)).mpr (by decide)⟩

/-- The first of nine cannot. -/
theorem first_out_of_reach :
    ¬(ClientTui.handleKey { logBuffer := nineEntries } (.char 'l')).Reaches
        (fun _ => "00:00:00") 0 ∧
      ¬(ServerTui.handleKey { logBuffer := nineEntries } (.char 'l')).Reaches
        (fun _ => "00:00:00") 0 := by
  constructor
  · rw [@ClientTui.reaches_open_iff { logBuffer := nineEntries } _ rfl 0 (by decide)]
    decide
  · rw [@ServerTui.reaches_open_iff { logBuffer := nineEntries } _ rfl 0 (by decide)]
    decide

end Npt.System
