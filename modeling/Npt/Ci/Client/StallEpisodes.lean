import Mathlib.Data.List.TakeWhile
import Npt.Ci.Client.Run

/-!
Contract: the stall events of one flow against its history.

A history lists the steps that the watchdog's record of a connected flow
depends on, in the order they were taken: receptions, breaks and watchdog
ticks. `episodes` reads the stall episodes off the history alone; `watch` runs
the code's blocks over it.

Owns: the intervals without a reception, the episodes, and the theorem that the
recorded stall events are exactly the episodes, each recorded at its own tick.

Does not own: ticks that pass while another task runs. Here the time a tick
read and its look at the flow are one step.
-/

namespace Npt.Ci.Client

/-! ## Histories -/

/-- A step of a connected flow that the watchdog's record depends on. -/
inductive WatchEvent where
  | frameReceived (bytes rttUs : Nat)
  | datagramReceived (bytes rttUs : Nat)
  /-- The reader or the writer saw the connection end or fail. -/
  | broken (message : String)
  /-- The watchdog's tick, with its look at the flow. -/
  | tick
deriving DecidableEq, Repr

def WatchEvent.receives : WatchEvent → Bool
  | .frameReceived _ _ | .datagramReceived _ _ => true
  | _ => false

/-- Steps with the times they were taken at. -/
abbrev History := List (Nat × WatchEvent)

/-- The effect of one step at time `now`. From the deadline on, and once the run
winds down, the watchdog's loop has ended. -/
def WatchEvent.apply (config : RunConfig) (now : Nat) (run : PortRun) (conn : ConnState) :
    WatchEvent → PortRun × ConnState
  | .frameReceived bytes rttUs =>
      (FlowEvent.frameReceived bytes rttUs).apply now config.deadline run conn
  | .datagramReceived bytes rttUs =>
      (FlowEvent.datagramReceived bytes rttUs).apply now config.deadline run conn
  | .broken message => (FlowEvent.broken message).apply now config.deadline run conn
  | .tick =>
      if config.deadline ≤ now ∨ run.windingDown = true then (run, conn)
      else visitFlow config.stallMs now run conn

/-- The blocks of a history, one after the other. -/
def watch (config : RunConfig) (run : PortRun) (conn : ConnState) :
    History → PortRun × ConnState
  | [] => (run, conn)
  | (now, event) :: rest =>
      watch config (event.apply config now run conn).1 (event.apply config now run conn).2 rest

/-- A fresh flow's history from the moment it connected. -/
def watchConnected (config : RunConfig) (id connectedAt : Nat) (history : History) :
    PortRun × ConnState :=
  let connected := FlowEvent.connected.apply connectedAt config.deadline {} { id := id }
  watch config connected.1 connected.2 history

/-! ## Episodes -/

/-- A break that the flow notices as one: it comes before the deadline. -/
def disconnects (deadline : Nat) : Nat × WatchEvent → Bool
  | (now, .broken _) => decide (now < deadline)
  | _ => false

/-- The steps before the flow is disconnected. -/
def beforeDisconnect (config : RunConfig) (history : History) : History :=
  history.takeWhile fun entry => !disconnects config.deadline entry

/-- A reception and the steps up to the next one. -/
structure Interval where
  /-- The number of steps before the reception. -/
  position : Nat
  received : Nat
  opening : WatchEvent
  quiet : History
deriving DecidableEq, Repr

def Interval.steps (interval : Interval) : History :=
  (interval.received, interval.opening) :: interval.quiet

/-- The maximal reception-free intervals after the first reception. -/
def intervals (position : Nat) : History → List Interval
  | [] => []
  | (now, event) :: rest =>
      if event.receives then
        ⟨position, now, event, rest.takeWhile fun entry => !entry.2.receives⟩ ::
          intervals (position + 1) rest
      else intervals (position + 1) rest

/-- The tick after `position` steps, at time `seen`, is the first to see a gap
above the threshold since the reception at time `received`. -/
structure Episode where
  position : Nat
  received : Nat
  seen : Nat
deriving DecidableEq, Repr

def Episode.event (id : Nat) (episode : Episode) : StallEvent :=
  { connId := id
    atSecs := (episode.seen : Rat) / 1000
    gapMs := episode.seen - episode.received }

/-- A tick, before the deadline, that sees a gap above the threshold. -/
def late (config : RunConfig) (received : Nat) : Nat × WatchEvent → Bool
  | (seen, .tick) => decide (seen < config.deadline) && decide (config.stallMs < seen - received)
  | _ => false

/-- The first late step among steps that begin at `position`. -/
def firstLate (config : RunConfig) (received position : Nat) : History → Option Episode
  | [] => none
  | entry :: rest =>
      if late config received entry then some ⟨position, received, entry.1⟩
      else firstLate config received (position + 1) rest

def Interval.episode (config : RunConfig) (interval : Interval) : Option Episode :=
  firstLate config interval.received (interval.position + 1) interval.quiet

/-- The stall episodes of a history, in order: one for each interval in which a
tick sees a gap above the threshold. -/
def episodes (config : RunConfig) (history : History) : List Episode :=
  (intervals 0 (beforeDisconnect config history)).filterMap (Interval.episode config)

/-! ## The steps -/

section Steps

variable {config : RunConfig} {now : Nat} {run : PortRun} {conn : ConnState}

theorem WatchEvent.apply_windingDown (event : WatchEvent) :
    (event.apply config now run conn).1.windingDown = run.windingDown := by
  cases event with
  | tick =>
      simp only [WatchEvent.apply]
      split
      · rfl
      · exact visitFlow_windingDown ..
  | frameReceived | datagramReceived | broken => exact FlowEvent.apply_windingDown ..

/-- A reception opens an interval. -/
theorem WatchEvent.apply_received {event : WatchEvent} (received : event.receives = true) :
    (event.apply config now run conn).1.stalls = run.stalls ∧
      ∃ bytesRecv udpRecv, (event.apply config now run conn).2 =
        { conn with
          bytesRecv := bytesRecv
          udpRecv := udpRecv
          lastRecvMs := now
          firstRecv := true
          inStall := false } := by
  cases event with
  | frameReceived bytes rttUs =>
      exact ⟨FlowEvent.apply_stalls .., conn.bytesRecv + bytes, conn.udpRecv, rfl⟩
  | datagramReceived bytes rttUs =>
      exact ⟨FlowEvent.apply_stalls .., conn.bytesRecv + bytes, conn.udpRecv + 1, rfl⟩
  | broken | tick => simp [WatchEvent.receives] at received

theorem apply_broken_early (message : String) (running : run.windingDown = false)
    (early : now < config.deadline) :
    ((WatchEvent.broken message).apply config now run conn).1.stalls = run.stalls ∧
      ((WatchEvent.broken message).apply config now run conn).2.disconnected = true :=
  ⟨FlowEvent.apply_stalls .., FlowEvent.apply_broken _ _ _ _ message running early⟩

theorem apply_broken_past (message : String) (past : ¬ now < config.deadline) :
    (WatchEvent.broken message).apply config now run conn = (run, conn) := by
  simp [WatchEvent.apply, FlowEvent.apply, noteBroken, past]

/-- A tick records exactly a late step of an open interval. -/
theorem apply_tick (running : run.windingDown = false) (connected : conn.connected = true)
    (standing : conn.disconnected = false) :
    WatchEvent.tick.apply config now run conn =
      if conn.firstRecv = true ∧ conn.inStall = false ∧
          late config conn.lastRecvMs (now, .tick) = true then
        ({ run with
            stalls := run.stalls ++ [⟨conn.id, (now : Rat) / 1000, now - conn.lastRecvMs⟩] },
          { conn with inStall := true })
      else (run, conn) := by
  by_cases early : now < config.deadline
  · have awake : ¬(config.deadline ≤ now ∨ run.windingDown = true) := by simp [running, early]
    have same : (silent config.stallMs now conn = true ∧ conn.inStall = false) ↔
        (conn.firstRecv = true ∧ conn.inStall = false ∧
          late config conn.lastRecvMs (now, .tick) = true) := by
      simp only [silent, late, connected, standing, early, Bool.not_false, Bool.true_and,
        Bool.and_eq_true, decide_eq_true_eq, true_and]
      exact and_right_comm.trans and_assoc
    simp only [WatchEvent.apply, if_neg awake, visitFlow_eq, same]
  · have asleep : config.deadline ≤ now ∨ run.windingDown = true :=
      Or.inl (Nat.le_of_not_lt early)
    simp [WatchEvent.apply, late, asleep, early]

/-- A broken flow is never looked at again. -/
theorem apply_disconnected (event : WatchEvent) (flagged : conn.disconnected = true) :
    (event.apply config now run conn).1.stalls = run.stalls ∧
      (event.apply config now run conn).2.disconnected = true := by
  cases event with
  | tick =>
      simp only [WatchEvent.apply]
      split
      · exact ⟨rfl, flagged⟩
      · simp [visitFlow, flagged]
  | frameReceived | datagramReceived | broken =>
      exact ⟨FlowEvent.apply_stalls ..,
        FlowEvent.apply_disconnected_of_disconnected _ _ _ _ _ flagged⟩

end Steps

/-! ## The record of a history -/

section Record

variable {config : RunConfig}

theorem watch_disconnected {run : PortRun} {conn : ConnState} (history : History)
    (flagged : conn.disconnected = true) :
    (watch config run conn history).1.stalls = run.stalls := by
  induction history generalizing run conn with
  | nil => rfl
  | cons entry rest inductionHypothesis =>
      obtain ⟨now, event⟩ := entry
      have step := @apply_disconnected config now run conn event flagged
      exact (inductionHypothesis step.2).trans step.1

/-- The episode that the interval under way may still bring. -/
def openEpisode (config : RunConfig) (conn : ConnState) (position : Nat) (history : History) :
    Option Episode :=
  if conn.firstRecv = true ∧ conn.inStall = false then
    firstLate config conn.lastRecvMs position (history.takeWhile fun entry => !entry.2.receives)
  else none

/-- The episodes that steps from `position` on bring to a flow: the open
interval's, and those of the intervals to come. -/
def upcoming (config : RunConfig) (conn : ConnState) (position : Nat) (history : History) :
    List Episode :=
  (openEpisode config conn position history).toList ++
    (intervals position history).filterMap (Interval.episode config)

/-- A reception closes the open interval and opens the next. -/
theorem upcoming_received {conn : ConnState} {now : Nat} {event : WatchEvent} {rest : History}
    (position : Nat) (received : event.receives = true) (first : conn.firstRecv = true)
    (fresh : conn.inStall = false) (at_now : conn.lastRecvMs = now) (before : ConnState) :
    upcoming config before position ((now, event) :: rest) =
      upcoming config conn (position + 1) rest := by
  have closed : openEpisode config before position ((now, event) :: rest) = none := by
    simp [openEpisode, received, firstLate]
  have opened : openEpisode config conn (position + 1) rest =
      firstLate config now (position + 1) (rest.takeWhile fun entry => !entry.2.receives) := by
    rw [openEpisode, if_pos ⟨first, fresh⟩, at_now]
  unfold upcoming
  rw [closed, opened, intervals, if_pos received, List.filterMap_cons]
  cases found : firstLate config now (position + 1)
      (rest.takeWhile fun entry => !entry.2.receives) with
  | none => simp [Interval.episode, found]
  | some episode => simp [Interval.episode, found]

/-- A step that receives nothing and records nothing. -/
theorem upcoming_quiet {conn : ConnState} {entry : Nat × WatchEvent} {rest : History}
    (position : Nat) (quiet : entry.2.receives = false)
    (unrecorded : ¬(conn.firstRecv = true ∧ conn.inStall = false ∧
      late config conn.lastRecvMs entry = true)) :
    upcoming config conn position (entry :: rest) = upcoming config conn (position + 1) rest := by
  have same : openEpisode config conn position (entry :: rest) =
      openEpisode config conn (position + 1) rest := by
    unfold openEpisode
    split
    · rename_i isOpen
      have early : late config conn.lastRecvMs entry = false := by
        simpa [isOpen.1, isOpen.2] using unrecorded
      simp [quiet, firstLate, early]
    · rfl
  unfold upcoming
  rw [same, intervals, if_neg (by simp [quiet])]

/-- The first late tick of an open interval. -/
theorem upcoming_late {conn : ConnState} {entry : Nat × WatchEvent} {rest : History}
    (position : Nat) (quiet : entry.2.receives = false) (first : conn.firstRecv = true)
    (fresh : conn.inStall = false) (isLate : late config conn.lastRecvMs entry = true) :
    upcoming config conn position (entry :: rest) =
      ⟨position, conn.lastRecvMs, entry.1⟩ ::
        upcoming config { conn with inStall := true } (position + 1) rest := by
  have found : openEpisode config conn position (entry :: rest) =
      some ⟨position, conn.lastRecvMs, entry.1⟩ := by
    rw [openEpisode, if_pos ⟨first, fresh⟩]
    simp [quiet, firstLate, isLate]
  have spent : openEpisode config { conn with inStall := true } (position + 1) rest = none := by
    simp [openEpisode]
  unfold upcoming
  rw [found, spent, intervals, if_neg (by simp [quiet])]
  rfl

theorem beforeDisconnect_cons (entry : Nat × WatchEvent) (rest : History) :
    beforeDisconnect config (entry :: rest) =
      if disconnects config.deadline entry then [] else entry :: beforeDisconnect config rest := by
  unfold beforeDisconnect
  cases broken : disconnects config.deadline entry <;> simp [broken]

/-- The record grows by the episodes to come. The flag `in_stall` says that the
open interval has had its episode. -/
theorem watch_stalls {run : PortRun} {conn : ConnState} (history : History) (position : Nat)
    (running : run.windingDown = false) (connected : conn.connected = true)
    (standing : conn.disconnected = false) :
    (watch config run conn history).1.stalls =
      run.stalls ++
        (upcoming config conn position (beforeDisconnect config history)).map
          (Episode.event conn.id) := by
  induction history generalizing run conn position with
  | nil => simp [watch, beforeDisconnect, upcoming, intervals, openEpisode, firstLate]
  | cons entry rest inductionHypothesis =>
      obtain ⟨now, event⟩ := entry
      have down := (@WatchEvent.apply_windingDown config now run conn event).trans running
      rw [beforeDisconnect_cons]
      by_cases received : event.receives = true
      · obtain ⟨sameStalls, bytesRecv, udpRecv, opened⟩ :=
          @WatchEvent.apply_received config now run conn event received
        have going : disconnects config.deadline (now, event) = false := by
          cases event <;> first | rfl | simp [WatchEvent.receives] at received
        rw [going, if_neg (by simp), watch,
          inductionHypothesis (position + 1) down (by rw [opened]; exact connected)
            (by rw [opened]; exact standing), sameStalls,
          @upcoming_received config (event.apply config now run conn).2 now event _ position received
            (by rw [opened]) (by rw [opened]) (by rw [opened]) conn, opened]
      have quiet : event.receives = false := by simpa using received
      cases event with
      | frameReceived | datagramReceived => simp [WatchEvent.receives] at received
      | broken message =>
          by_cases early : now < config.deadline
          · have broken := @apply_broken_early config now run conn message running early
            rw [if_pos (by simp [disconnects, early]), watch, watch_disconnected rest broken.2,
              broken.1]
            simp [upcoming, intervals, openEpisode, firstLate]
          · rw [if_neg (by simp [disconnects, early]), watch, apply_broken_past message early,
              inductionHypothesis (position + 1) running connected standing,
              upcoming_quiet position quiet (by simp [late])]
      | tick =>
          rw [if_neg (by simp [disconnects]), watch, apply_tick running connected standing]
          split
          · rename_i recorded
            obtain ⟨first, fresh, isLate⟩ := recorded
            rw [upcoming_late position quiet first fresh isLate]
            refine (inductionHypothesis (position + 1) ?_ ?_ ?_).trans ?_
            · exact running
            · exact connected
            · exact standing
            · simp [Episode.event]
          · rename_i unrecorded
            rw [inductionHypothesis (position + 1) running connected standing,
              upcoming_quiet position quiet unrecorded]

/-! ## The shape of the episodes -/

theorem firstLate_spec {received position : Nat} {quiet : History} {episode : Episode}
    (found : firstLate config received position quiet = some episode) :
    episode.received = received ∧ position ≤ episode.position ∧
      quiet[episode.position - position]? = some (episode.seen, .tick) ∧
      config.stallMs < episode.seen - received := by
  induction quiet generalizing position with
  | nil => simp [firstLate] at found
  | cons entry rest inductionHypothesis =>
      rw [firstLate] at found
      split at found
      · rename_i isLate
        obtain rfl := Option.some.inj found
        obtain ⟨seen, event⟩ := entry
        cases event with
        | tick =>
            simp only [late, Bool.and_eq_true, decide_eq_true_eq] at isLate
            exact ⟨rfl, Nat.le_refl _, by simp, isLate.2⟩
        | _ => simp [late] at isLate
      · obtain ⟨same, after, there, gap⟩ := inductionHypothesis found
        refine ⟨same, by omega, ?_, gap⟩
        rw [show episode.position - position = episode.position - (position + 1) + 1 by omega]
        simpa using there

/-- A late step of a list has a first one. -/
theorem firstLate_of_late {received start : Nat} {quiet : History} {entry : Nat × WatchEvent}
    (member : entry ∈ quiet) (isLate : late config received entry = true) :
    ∃ episode, firstLate config received start quiet = some episode := by
  induction quiet generalizing start with
  | nil => simp at member
  | cons first rest inductionHypothesis =>
      rw [firstLate]
      split
      · exact ⟨_, rfl⟩
      · rename_i early
        rcases List.mem_cons.mp member with rfl | later
        · exact absurd isLate early
        · exact inductionHypothesis later

/-- The interval is a reception of the history with every step up to the next
reception or the history's end. The history begins at step `start`. -/
structure Interval.MaximalIn (interval : Interval) (start : Nat) (history : History) : Prop where
  opened : interval.opening.receives = true
  quiet : ∀ entry ∈ interval.quiet, entry.2.receives = false
  placed : ∃ before after, history = before ++ interval.steps ++ after ∧
    interval.position = start + before.length ∧ ∀ entry ∈ after.head?, entry.2.receives = true

/-- What follows the steps up to the next reception begins with it. -/
theorem takeWhile_quiet (history : History) :
    (∀ entry ∈ history.takeWhile (fun entry => !entry.2.receives), entry.2.receives = false) ∧
      ∀ entry ∈ (history.dropWhile fun entry => !entry.2.receives).head?,
        entry.2.receives = true := by
  constructor
  · intro entry member
    simpa using List.mem_takeWhile_imp member
  · intro entry first
    have stopped := List.head?_dropWhile_not (fun entry : Nat × WatchEvent => !entry.2.receives)
      history
    rw [Option.mem_def.mp first] at stopped
    simpa using stopped

theorem takeWhile_maximal {quiet after : History}
    (silence : ∀ entry ∈ quiet, entry.2.receives = false)
    (next : ∀ entry ∈ after.head?, entry.2.receives = true) :
    (quiet ++ after).takeWhile (fun entry => !entry.2.receives) = quiet := by
  rw [List.takeWhile_append_of_pos (by simpa using silence)]
  cases after with
  | nil => simp
  | cons entry rest => simp [next entry (by simp)]

/-- `intervals` lists the maximal intervals. -/
theorem mem_intervals_iff (history : History) (start : Nat) (interval : Interval) :
    interval ∈ intervals start history ↔ interval.MaximalIn start history := by
  induction history generalizing start with
  | nil =>
      simp only [intervals, List.not_mem_nil, false_iff]
      rintro ⟨-, -, before, after, shape, -⟩
      simp [Interval.steps] at shape
  | cons entry rest inductionHypothesis =>
      obtain ⟨now, event⟩ := entry
      -- An interval that opens later is one of the rest.
      have later (maximal : interval.MaximalIn (start + 1) rest) :
          interval.MaximalIn start ((now, event) :: rest) := by
        obtain ⟨opened, quiet, before, after, shape, position, next⟩ := maximal
        refine ⟨opened, quiet, (now, event) :: before, after, by simp [shape], ?_, next⟩
        rw [position, List.length_cons]
        omega
      have earlier (maximal : interval.MaximalIn start ((now, event) :: rest)) :
          (event.receives = true ∧ interval =
            ⟨start, now, event, rest.takeWhile fun entry => !entry.2.receives⟩) ∨
          interval.MaximalIn (start + 1) rest := by
        obtain ⟨opened, quiet, before, after, shape, position, next⟩ := maximal
        cases before with
        | nil =>
            simp only [Interval.steps, List.nil_append, List.cons_append, List.cons.injEq,
              Prod.mk.injEq] at shape
            obtain ⟨⟨rfl, rfl⟩, rfl⟩ := shape
            rw [takeWhile_maximal quiet next]
            refine Or.inl ⟨opened, ?_⟩
            obtain rfl : interval.position = start := position
            rfl
        | cons first before =>
            obtain ⟨-, shape⟩ := List.cons.inj shape
            refine Or.inr ⟨opened, quiet, before, after, shape, ?_, next⟩
            rw [position, List.length_cons]
            omega
      rw [intervals]
      split
      · rename_i received
        rw [List.mem_cons, inductionHypothesis]
        constructor
        · rintro (rfl | maximal)
          · have cut := takeWhile_quiet rest
            refine ⟨received, cut.1, [], _, ?_, rfl, cut.2⟩
            simp [Interval.steps]
          · exact later maximal
        · intro maximal
          exact (earlier maximal).imp And.right id
      · rename_i quiet
        rw [inductionHypothesis]
        refine ⟨later, fun maximal => (earlier maximal).resolve_left ?_⟩
        exact fun opened => quiet opened.1

/-! ## Positions -/

theorem firstLate_take (received start : Nat) (quiet : History) (count : Nat) :
    firstLate config received start (quiet.take count) =
      (firstLate config received start quiet).filter
        (fun episode => decide (episode.position < start + count)) := by
  induction quiet generalizing start count with
  | nil => simp [firstLate]
  | cons entry rest inductionHypothesis =>
      cases count with
      | zero =>
          cases found : firstLate config received start (entry :: rest) with
          | none => simp [firstLate]
          | some episode =>
              have after := (firstLate_spec found).2.1
              simp [firstLate, Option.filter, Nat.not_lt.mpr after]
      | succ count =>
          rw [List.take_succ_cons, firstLate, firstLate]
          split
          · simp [Option.filter]
          · rw [inductionHypothesis, Nat.add_right_comm, Nat.add_assoc]

/-- An episode's tick stands in its interval, after the reception. -/
theorem position_of_episode {interval : Interval} {episode : Episode}
    (found : interval.episode config = some episode) :
    interval.position < episode.position ∧
      episode.position ≤ interval.position + interval.quiet.length := by
  obtain ⟨-, after, there, -⟩ := firstLate_spec found
  have inside := (List.getElem?_eq_some_iff.mp there).1
  omega

theorem position_of_mem_intervals {history : History} {start : Nat} {interval : Interval}
    (member : interval ∈ intervals start history) :
    start + (history.takeWhile fun entry => !entry.2.receives).length ≤ interval.position := by
  induction history generalizing start with
  | nil => simp [intervals] at member
  | cons entry rest inductionHypothesis =>
      rw [intervals] at member
      split at member
      · rename_i received
        simp only [List.takeWhile_cons, received, Bool.not_true, Bool.false_eq_true, if_false,
          List.length_nil]
        rcases List.mem_cons.mp member with rfl | later
        · exact Nat.le_refl _
        · have after := inductionHypothesis later
          omega
      · rename_i quiet
        have after := inductionHypothesis member
        simp only [List.takeWhile_cons, quiet, Bool.not_false, if_true, List.length_cons]
        omega

/-- The intervals' episodes stand in the order of the history. -/
theorem positions_increase (history : History) (start : Nat) :
    ((intervals start history).filterMap (Interval.episode config)).Pairwise
      (fun earlier later => earlier.position < later.position) := by
  induction history generalizing start with
  | nil => exact List.Pairwise.nil
  | cons entry rest inductionHypothesis =>
      rw [intervals]
      split
      · rw [List.filterMap_cons]
        split
        · exact inductionHypothesis _
        · rename_i episode found
          refine List.Pairwise.cons (fun later member => ?_) (inductionHypothesis _)
          obtain ⟨interval, there, foundLater⟩ := List.mem_filterMap.mp member
          have first := position_of_episode found
          have opened := position_of_mem_intervals there
          have second := position_of_episode foundLater
          simp only at first
          omega
      · exact inductionHypothesis _

/-- Cutting a history cuts the episodes of its intervals. -/
theorem intervals_take (history : History) (start count : Nat) :
    (intervals start (history.take count)).filterMap (Interval.episode config) =
      ((intervals start history).filterMap (Interval.episode config)).filter
        (fun episode => decide (episode.position < start + count)) := by
  induction history generalizing start count with
  | nil => simp [intervals]
  | cons entry rest inductionHypothesis =>
      cases count with
      | zero =>
          symm
          rw [List.take_zero, intervals, List.filterMap_nil, List.filter_eq_nil_iff]
          intro episode member
          obtain ⟨interval, there, found⟩ := List.mem_filterMap.mp member
          have opened := position_of_mem_intervals there
          have after := position_of_episode found
          simp only [decide_eq_true_eq]
          omega
      | succ count =>
          have bound : start + (count + 1) = start + 1 + count := by omega
          rw [List.take_succ_cons, intervals, intervals]
          split
          · have cut := @firstLate_take config entry.1 (start + 1)
              (rest.takeWhile fun entry => !entry.2.receives) count
            rw [List.take_takeWhile] at cut
            rw [List.filterMap_cons, List.filterMap_cons]
            simp only [Interval.episode, cut]
            cases firstLate config entry.1 (start + 1)
                (rest.takeWhile fun entry => !entry.2.receives) with
            | none => exact (inductionHypothesis _ _).trans (by rw [bound])
            | some episode =>
                by_cases inside : episode.position < start + 1 + count
                · simp only [Option.filter, inside, decide_true, if_true, bound,
                    List.filter_cons_of_pos, ← inductionHypothesis]
                · simp only [Option.filter, inside, decide_false, Bool.false_eq_true, if_false,
                    bound, not_false_eq_true, List.filter_cons_of_neg, ← inductionHypothesis]
          · rw [inductionHypothesis, bound]

theorem episodes_take (history : History) (count : Nat) :
    episodes config (history.take count) =
      (episodes config history).filter (fun episode => decide (episode.position < count)) := by
  have cut : beforeDisconnect config (history.take count) =
      (beforeDisconnect config history).take count := by
    rw [beforeDisconnect, beforeDisconnect, List.take_takeWhile]
  rw [episodes, cut, intervals_take, Nat.zero_add, episodes]

/-- An episode is a tick of the history, with the reception that its gap is
measured from. -/
theorem episode_in_history {history : History} {episode : Episode}
    (member : episode ∈ episodes config history) :
    history[episode.position]? = some (episode.seen, .tick) ∧
      config.stallMs < episode.seen - episode.received ∧
      ∃ position < episode.position, ∃ event, event.receives = true ∧
        history[position]? = some (episode.received, event) := by
  obtain ⟨interval, listed, found⟩ := List.mem_filterMap.mp member
  obtain ⟨opened, -, before, after, shape, position, -⟩ :=
    (mem_intervals_iff _ 0 interval).mp listed
  obtain ⟨received, later, there, gap⟩ := firstLate_spec found
  obtain ⟨rest, whole⟩ := List.takeWhile_prefix
    (fun entry => !disconnects config.deadline entry) (l := history)
  rw [beforeDisconnect] at shape
  have split : history = before ++ interval.steps ++ (after ++ rest) := by
    rw [← whole, shape]
    simp
  rw [Nat.zero_add] at position
  refine ⟨?_, received ▸ gap, interval.position, by omega, interval.opening, opened, ?_⟩
  · have inside := (List.getElem?_eq_some_iff.mp there).1
    have offset : episode.position =
        before.length + (episode.position - (interval.position + 1) + 1) := by omega
    rw [split, offset, List.append_assoc, List.getElem?_append_right (by omega)]
    simp only [Nat.add_sub_cancel_left, Interval.steps, List.cons_append,
      List.getElem?_cons_succ]
    rw [List.getElem?_append_left inside, there]
  · rw [split, List.append_assoc, List.getElem?_append_right (by omega), position]
    simp [Interval.steps, received]

end Record

/-- The stall events of a flow are its stall episodes, in order: one for each
maximal interval without a reception in which a tick sees a gap above the
threshold, recorded at the first such tick. -/
theorem stallEvents_eq_episodes (config : RunConfig) (id connectedAt : Nat) (history : History)
    (ordered : history.Pairwise fun earlier later => earlier.1 ≤ later.1) :
    (∀ count, (watchConnected config id connectedAt (history.take count)).1.stalls =
      ((episodes config history).filter (fun episode => decide (episode.position < count))).map
        (Episode.event id)) ∧
    (episodes config history).Pairwise
      (fun earlier later => earlier.position < later.position) ∧
    (∀ episode, episode ∈ episodes config history ↔
      ∃ interval : Interval, interval.MaximalIn 0 (beforeDisconnect config history) ∧
        interval.episode config = some episode) ∧
    (∀ interval : Interval,
      (∃ entry ∈ interval.quiet, late config interval.received entry = true) →
        ∃ episode, interval.episode config = some episode) ∧
    ∀ episode ∈ episodes config history,
      history[episode.position]? = some (episode.seen, .tick) ∧
        episode.received + (episode.event id).gapMs = episode.seen ∧
        config.stallMs < (episode.event id).gapMs := by
  refine ⟨fun count => ?_, positions_increase _ 0, fun episode => ?_, ?_,
    fun episode member => ?_⟩
  · rw [← episodes_take, watchConnected, watch_stalls _ 0 rfl rfl rfl]
    simp [FlowEvent.apply, upcoming, openEpisode, episodes]
  · simp only [episodes, List.mem_filterMap, mem_intervals_iff]
  · rintro interval ⟨entry, member, isLate⟩
    exact firstLate_of_late member isLate
  · obtain ⟨there, gap, position, before, event, -, opened⟩ := episode_in_history member
    have times := List.pairwise_iff_getElem.mp ordered position episode.position
      (List.getElem?_eq_some_iff.mp opened).1 (List.getElem?_eq_some_iff.mp there).1 before
    rw [(List.getElem?_eq_some_iff.mp opened).2, (List.getElem?_eq_some_iff.mp there).2] at times
    exact ⟨there, Nat.add_sub_cancel' times, gap⟩

/-- Two silences of one flow, the second cut short by the disconnection. -/
def twoSilences : History :=
  [(100, .frameReceived 1048 20), (1250, .tick), (1500, .tick), (1600, .frameReceived 1048 20),
    (2750, .tick), (2800, .broken "reset"), (4000, .tick)]

/-- One second of silence allowed, in a run of ten seconds. -/
def oneSecondStalls : RunConfig :=
  { endpoint := "127.0.0.1:7000"
    params := { durationSecs := 10 }
    stallSecs := 1 }

theorem twoSilences_stalls :
    (watchConnected oneSecondStalls 0 50 twoSilences).1.stalls =
      [⟨0, 1250 / 1000, 1150⟩, ⟨0, 2750 / 1000, 1150⟩] := by
  have recorded := (stallEvents_eq_episodes oneSecondStalls 0 50 twoSilences (by decide)).1 7
  have listed : episodes oneSecondStalls twoSilences = [⟨1, 100, 1250⟩, ⟨4, 1600, 2750⟩] := by
    decide
  rw [listed] at recorded
  exact recorded

end Npt.Ci.Client
