import Npt.Ci.Client.UdpFlow

/-!
Contract: the reader of a UDP flow over whole runs. The steps of one flow, each
with its time, say which datagrams arrived at its socket and which the reader
took; what it counted and how it ended follow from them.

Owns: the accounting of taken datagrams, exactly when a datagram that arrived
before the deadline is lost, and how many calls the reader makes past it.

Does not own: what arrives, or when the scheduler lets the reader run.
-/

namespace Npt.Ci.Client.UdpFlow

open Npt.Core
open Npt.Ci.Protocol

/-! ## The steps of one flow -/

/-- The steps of flow `index`, with the times they were taken at. -/
def ownSteps (index : Nat) (trace : List (RunState Task × RunLabel Label)) :
    List (Nat × Label) :=
  trace.filterMap fun entry =>
    match entry.2 with
    | .flow position label => if position = index then some (entry.1.now, label) else none
    | _ => none

/-- The datagram that a step puts into the socket. -/
def arrival : Nat × Label → Option (Nat × List UInt8)
  | (now, .deliver datagram) => some (now, datagram)
  | _ => none

/-- What arrived at the socket, in order. -/
def arrivals (steps : List (Nat × Label)) : List (Nat × List UInt8) := steps.filterMap arrival

/-- A call of `recv` that returned a datagram. -/
def Label.takes : Label → Bool
  | .recv _ => true
  | _ => false

/-- A call of `recv` that failed. -/
def Label.fails : Label → Bool
  | .recvError _ => true
  | _ => false

/-- A call of `recv` that returned no datagram. -/
def Label.unfilled : Label → Bool
  | .recvError _ | .recvTimeout => true
  | _ => false

/-- How many datagrams the reader took. -/
def takeCount (steps : List (Nat × Label)) : Nat := steps.countP fun step => step.2.takes

/-- The arrivals that the reader took, which are the first ones. -/
def taken (steps : List (Nat × Label)) : List (Nat × List UInt8) :=
  (arrivals steps).take (takeCount steps)

def unread (steps : List (Nat × Label)) : List (Nat × List UInt8) :=
  (arrivals steps).drop (takeCount steps)

/-- The datagram is one of the probe's, as far as it fits the reader's buffer. -/
def validDatagram (datagram : List UInt8) : Bool := (decodeUdp (datagram.take bufferLen)).isSome

/-- The datagrams that the reader took and counts. -/
def counted (steps : List (Nat × Label)) : List (List UInt8) :=
  ((taken steps).map Prod.snd).filter validDatagram

/-- The bytes of datagrams, as far as they fit the reader's buffer. -/
def bufferedBytes (datagrams : List (List UInt8)) : Nat :=
  (datagrams.map fun datagram => (datagram.take bufferLen).length).sum

section Steps

variable {index now : Nat} {label : Label} {steps : List (Nat × Label)}
  {trace : List (RunState Task × RunLabel Label)} {state : RunState Task}

theorem ownSteps_own :
    ownSteps index (trace ++ [(state, .flow index label)]) =
      ownSteps index trace ++ [(state.now, label)] := by
  simp [ownSteps, List.filterMap_append]

theorem ownSteps_other {entry : RunState Task × RunLabel Label}
    (foreign : ∀ label, entry.2 ≠ .flow index label) :
    ownSteps index (trace ++ [entry]) = ownSteps index trace := by
  obtain ⟨state, label⟩ := entry
  cases label with
  | flow position label =>
      have distinct : position ≠ index := by
        rintro rfl
        exact foreign label rfl
      simp [ownSteps, List.filterMap_append, distinct]
  | _ => simp [ownSteps, List.filterMap_append]

/-- A step that neither delivers nor takes a datagram. -/
theorem arrivals_still (silent : arrival (now, label) = none) :
    arrivals (steps ++ [(now, label)]) = arrivals steps := by
  simp [arrivals, List.filterMap_append, silent]

theorem takeCount_snoc :
    takeCount (steps ++ [(now, label)]) = takeCount steps + label.takes.toNat := by
  rw [takeCount, takeCount, List.countP_append, List.countP_singleton]
  cases label.takes <;> rfl

theorem arrivals_deliver (datagram : List UInt8) :
    arrivals (steps ++ [(now, .deliver datagram)]) = arrivals steps ++ [(now, datagram)] := by
  simp [arrivals, List.filterMap_append, arrival]

theorem taken_append_unread (steps : List (Nat × Label)) :
    taken steps ++ unread steps = arrivals steps :=
  List.take_append_drop _ _

end Steps

/-! ## What is counted -/

/-- What a flow has counted, and what waits in its socket. -/
structure Counting (steps : List (Nat × Label)) (flow : Flow Task) : Prop where
  inside : ∀ before, before <+: steps → takeCount before ≤ (arrivals before).length
  closed : (∀ socket, flow.task ≠ .streaming socket) → flow.task ≠ .returned →
    arrivals steps = []
  queue : ∀ socket, flow.task = .streaming socket → socket.queue = (unread steps).map Prod.snd
  packets : flow.conn.udpRecv = (counted steps).length
  bytes : flow.conn.bytesRecv = bufferedBytes (counted steps)

section Count

variable {config : RunConfig} {now : Nat} {steps : List (Nat × Label)} {conn : ConnState}
  {task next : Task} {label : Label} {event : FlowEvent} {run : PortRun}

theorem unread_still (silent : arrival (now, label) = none) (untaken : label.takes = false) :
    arrivals (steps ++ [(now, label)]) = arrivals steps ∧
      takeCount (steps ++ [(now, label)]) = takeCount steps := by
  rw [takeCount_snoc, untaken]
  exact ⟨arrivals_still silent, rfl⟩

theorem Counting.whole {flow : Flow Task} (counting : Counting steps flow) :
    takeCount steps ≤ (arrivals steps).length :=
  counting.inside steps (List.prefix_refl steps)

theorem Counting.inside_snoc {flow : Flow Task} (counting : Counting steps flow)
    (here : takeCount (steps ++ [(now, label)]) ≤ (arrivals (steps ++ [(now, label)])).length) :
    ∀ before, before <+: steps ++ [(now, label)] →
      takeCount before ≤ (arrivals before).length := by
  intro before front
  rcases List.prefix_concat_iff.mp front with rfl | earlier
  · exact here
  · exact counting.inside before earlier

/-- A flow without a socket neither receives nor counts. -/
theorem silent_of_closed {id : Nat} (closed : ∀ socket, task ≠ .streaming socket)
    (move : step config now id task label = some (event, next)) :
    arrival (now, label) = none ∧ label.takes = false ∧ event.receives = false ∧
      (∀ socket, next = .streaming socket →
        socket.queue = [] ∧ socket.reader = .receiving now) := by
  cases task with
  | streaming socket => exact absurd rfl (closed socket)
  | returned => cases label <;> simp [step] at move
  | ramping wake =>
      cases label <;> simp only [step, reduceCtorEq] at move
      split at move
      · obtain ⟨rfl, rfl⟩ := Prod.mk.inj (Option.some.inj move)
        exact ⟨rfl, rfl, rfl, by simp⟩
      · simp at move
  | opening =>
      cases label <;> simp only [step, reduceCtorEq] at move
      case bindError error | connectError error =>
        obtain ⟨rfl, rfl⟩ := Prod.mk.inj (Option.some.inj move)
        exact ⟨rfl, rfl, rfl, by simp⟩
      case opened =>
        obtain ⟨rfl, rfl⟩ := Prod.mk.inj (Option.some.inj move)
        refine ⟨rfl, rfl, rfl, fun socket same => ?_⟩
        obtain rfl := Task.streaming.inj same
        exact ⟨rfl, rfl⟩

/-- Only a received datagram is counted. -/
theorem apply_unreceived_counts (unreceived : event.receives = false) :
    (event.apply now config.deadline run conn).2.udpRecv = conn.udpRecv ∧
      (event.apply now config.deadline run conn).2.bytesRecv = conn.bytesRecv := by
  refine ⟨?_, (event.apply_unreceived _ _ _ _ unreceived).1⟩
  cases event with
  | broken message =>
      rcases noteBroken_conn now config.deadline run conn message with same | flagged
      · simp [FlowEvent.apply, same]
      · simp [FlowEvent.apply, flagged]
  | frameReceived | datagramReceived => simp [FlowEvent.receives] at unreceived
  | _ => rfl

/-- A step that neither delivers nor takes leaves the counts. -/
theorem Counting.still (counting : Counting steps ⟨conn, task⟩)
    (silent : arrival (now, label) = none) (untaken : label.takes = false)
    (unreceived : event.receives = false)
    (closed : (∀ socket, next ≠ .streaming socket) → next ≠ .returned → arrivals steps = [])
    (queue : ∀ socket, next = .streaming socket → socket.queue = (unread steps).map Prod.snd) :
    Counting (steps ++ [(now, label)])
      ⟨(event.apply now config.deadline run conn).2, next⟩ := by
  obtain ⟨sameArrivals, sameCount⟩ := @unread_still now steps label silent untaken
  have sameTaken : taken (steps ++ [(now, label)]) = taken steps := by
    rw [taken, taken, sameArrivals, sameCount]
  have sameUnread : unread (steps ++ [(now, label)]) = unread steps := by
    rw [unread, unread, sameArrivals, sameCount]
  obtain ⟨packets, bytes⟩ := @apply_unreceived_counts config now conn event run
    unreceived
  constructor
  · refine counting.inside_snoc ?_
    rw [sameArrivals, sameCount]
    exact counting.whole
  · rw [sameArrivals]
    exact closed
  · rw [sameUnread]
    exact queue
  · rw [packets, counted, sameTaken]
    exact counting.packets
  · rw [bytes, counted, sameTaken]
    exact counting.bytes

/-- An arrival waits behind the others. -/
theorem Counting.arrived {socket : Socket} (counting : Counting steps ⟨conn, .streaming socket⟩)
    (datagram : List UInt8) :
    Counting (steps ++ [(now, .deliver datagram)])
      ⟨conn, .streaming { socket with queue := socket.queue ++ [datagram] }⟩ := by
  have inside := counting.whole
  have sameCount : takeCount (steps ++ [(now, .deliver datagram)]) = takeCount steps :=
    takeCount_snoc
  have sameTaken : taken (steps ++ [(now, .deliver datagram)]) = taken steps := by
    rw [taken, taken, sameCount, arrivals_deliver, List.take_append_of_le_length inside]
  constructor
  · refine counting.inside_snoc ?_
    rw [sameCount, arrivals_deliver, List.length_append]
    omega
  · exact fun closed => absurd rfl (closed _)
  · intro after same
    obtain rfl := Task.streaming.inj same
    rw [unread, sameCount, arrivals_deliver, List.drop_append_of_le_length inside, List.map_append]
    exact congrArg (· ++ [datagram]) (counting.queue socket rfl)
  · rw [counted, sameTaken]
    exact counting.packets
  · rw [counted, sameTaken]
    exact counting.bytes

/-- The reader takes the first datagram that waits. -/
theorem taken_snoc {nowMicros : UInt64} {datagram : List UInt8} {rest : List (List UInt8)}
    (waiting : (unread steps).map Prod.snd = datagram :: rest) :
    takeCount (steps ++ [(now, .recv nowMicros)]) ≤
        (arrivals (steps ++ [(now, .recv nowMicros)])).length ∧
      (unread (steps ++ [(now, .recv nowMicros)])).map Prod.snd = rest ∧
      (taken (steps ++ [(now, .recv nowMicros)])).map Prod.snd =
        (taken steps).map Prod.snd ++ [datagram] := by
  have next : takeCount (steps ++ [(now, .recv nowMicros)]) = takeCount steps + 1 := takeCount_snoc
  have same : arrivals (steps ++ [(now, .recv nowMicros)]) = arrivals steps := arrivals_still rfl
  obtain ⟨first, others, shape⟩ : ∃ first others, unread steps = first :: others := by
    cases found : unread steps with
    | nil => simp [found] at waiting
    | cons first others => exact ⟨first, others, rfl⟩
  rw [shape, List.map_cons, List.cons.injEq] at waiting
  have inside : takeCount steps < (arrivals steps).length := by
    have some := congrArg List.length shape
    rw [unread, List.length_drop, List.length_cons] at some
    omega
  have here : (arrivals steps)[takeCount steps]? = some first := by
    have front := congrArg List.head? shape
    rwa [unread, List.head?_drop, List.head?_cons] at front
  refine ⟨by rw [next, same]; exact inside, ?_, ?_⟩
  · rw [unread, next, same, ← List.drop_drop, ← unread, shape]
    exact waiting.2
  · rw [taken, next, same, List.take_add_one, here, Option.toList_some, List.map_append,
      List.map_singleton, waiting.1, ← taken]

theorem counted_snoc {nowMicros : UInt64} {datagram : List UInt8}
    (more : (taken (steps ++ [(now, .recv nowMicros)])).map Prod.snd =
      (taken steps).map Prod.snd ++ [datagram]) :
    counted (steps ++ [(now, .recv nowMicros)]) =
      counted steps ++ if validDatagram datagram then [datagram] else [] := by
  rw [counted, counted, more, List.filter_append, List.filter_singleton]
  cases validDatagram datagram <;> rfl

theorem bufferedBytes_append (earlier later : List (List UInt8)) :
    bufferedBytes (earlier ++ later) = bufferedBytes earlier + bufferedBytes later := by
  simp [bufferedBytes]

/-- An open flow counts the valid datagrams that it takes. -/
theorem counting_move {id : Nat} {socket : Socket}
    (counting : Counting steps ⟨conn, .streaming socket⟩)
    (move : Move config now id socket label event next) :
    Counting (steps ++ [(now, label)])
      ⟨(event.apply now config.deadline run conn).2, next⟩ := by
  have waiting := counting.queue socket rfl
  have still {after : Socket} (same : after.queue = socket.queue) :
      ∀ other, Task.streaming after = .streaming other →
        other.queue = (unread steps).map Prod.snd := by
    intro other equal
    obtain rfl := Task.streaming.inj equal
    exact same.trans waiting
  cases move with
  | start | stop | tick | sent | unsent | readerFailed | readerDone | again =>
      exact counting.still rfl rfl rfl (fun closed => absurd rfl (closed _)) (still rfl)
  | joined =>
      exact counting.still rfl rfl rfl (fun _ returned => absurd rfl returned) (by simp)
  | delivered => exact counting.arrived _
  | received receiving arrived valid =>
      rw [arrived] at waiting
      obtain ⟨inside, queue, more⟩ := @taken_snoc now steps _ _ _ waiting.symm
      have counts := counted_snoc more
      rw [if_pos (by simp [validDatagram, valid])] at counts
      refine ⟨counting.inside_snoc inside, fun closed => absurd rfl (closed _),
        fun other same => ?_, ?_, ?_⟩
      · obtain rfl := Task.streaming.inj same
        exact queue.symm
      · rw [counts, List.length_append]
        exact congrArg (· + 1) counting.packets
      · rw [counts, bufferedBytes_append, ← counting.bytes]
        rfl
  | ignored receiving arrived invalid =>
      rw [arrived] at waiting
      obtain ⟨inside, queue, more⟩ := @taken_snoc now steps _ _ _ waiting.symm
      have counts := counted_snoc more
      rw [if_neg (by simp [validDatagram, invalid]), List.append_nil] at counts
      refine ⟨counting.inside_snoc inside, fun closed => absurd rfl (closed _),
        fun other same => ?_, ?_, ?_⟩
      · obtain rfl := Task.streaming.inj same
        exact queue.symm
      · rw [counts]
        exact counting.packets
      · rw [counts]
        exact counting.bytes

theorem counting_step {id : Nat} (counting : Counting steps ⟨conn, task⟩)
    (move : step config now id task label = some (event, next)) :
    Counting (steps ++ [(now, label)])
      ⟨(event.apply now config.deadline run conn).2, next⟩ := by
  by_cases opened : ∃ socket, task = .streaming socket
  · obtain ⟨socket, rfl⟩ := opened
    exact counting_move counting (move_of_socketStep move)
  · have closed : ∀ socket, task ≠ .streaming socket := fun socket same => opened ⟨socket, same⟩
    obtain ⟨silent, untaken, unreceived, empty⟩ := silent_of_closed closed move
    have none : arrivals steps = [] := by
      refine counting.closed closed fun returned => ?_
      simp only at returned
      subst returned
      cases label <;> simp [step] at move
    refine counting.still silent untaken unreceived (fun _ _ => none) (fun socket same => ?_)
    rw [(empty socket same).1, unread, none, List.drop_nil, List.map_nil]

end Count

variable {config : RunConfig} {trace : List (RunState Task × RunLabel Label)}
  {state : RunState Task}

theorem counting_of_run (run : (runUdp config).Run (startUdp config) trace state) :
    ∀ (index : Nat) flow, state.flows[index]? = some flow →
      Counting (ownSteps index trace) flow := by
  refine flow_history (fun trace index _ flow => Counting (ownSteps index trace) flow)
    ?_ ?_ ?_ ?_ ?_ run
  · intro index wake
    refine ⟨fun before front => ?_, fun _ _ => rfl, fun socket opened => ?_, rfl, rfl⟩
    · obtain rfl : before = [] := List.prefix_nil.mp front
      exact Nat.le_refl _
    · simp [udpFlow] at opened
  · intro trace state index label flow event task _ _ _ counting taken
    rw [ownSteps_own]
    exact counting_step counting taken
  · intro trace index now seen run flow counting
    rw [visitFlow_conn_eq]
    exact ⟨counting.inside, counting.closed, counting.queue, counting.packets, counting.bytes⟩
  · intro trace entry index now flow foreign counting
    rw [ownSteps_other foreign]
    exact counting
  · exact fun _ _ _ _ _ counting => counting

/-! ## How the reader ends -/

/-- The reader's loop of an open flow has ended, or the flow has. -/
def Ended : Task → Prop
  | .streaming socket => socket.reader = .stopped
  | .returned => True
  | _ => False

/-- The steps of a kind past the deadline. -/
def lateCount (config : RunConfig) (kind : Label → Bool) (steps : List (Nat × Label)) : Nat :=
  steps.countP fun step => decide (config.deadline ≤ step.1) && kind step.2

def FailureFree (steps : List (Nat × Label)) : Prop := ∀ step ∈ steps, step.2.fails = false

/-- How the reader of a flow got to where it is. -/
structure Ending (config : RunConfig) (steps : List (Nat × Label)) (now : Nat) (task : Task) :
    Prop where
  times : ∀ step ∈ steps, step.1 ≤ now
  running : ¬Ended task → FailureFree steps ∧ lateCount config Label.unfilled steps = 0
  ended : Ended task → lateCount config Label.unfilled steps = 1 ∨
    lateCount config Label.unfilled steps = 0 ∧ lateCount config Label.takes steps = 0
  drained : Ended task → FailureFree steps →
    (∀ waiting ∈ unread steps, config.deadline ≤ waiting.1) ∧
      (task ≠ .returned → config.deadline ≤ now)
  final : ∀ before time error after, steps = before ++ (time, .recvError error) :: after →
    takeCount after = 0

section End

variable {now : Nat} {steps : List (Nat × Label)} {conn : ConnState} {task next : Task}
  {label : Label} {event : FlowEvent}

theorem lateCount_snoc (kind : Label → Bool) :
    lateCount config kind (steps ++ [(now, label)]) =
      lateCount config kind steps + (decide (config.deadline ≤ now) && kind label).toNat := by
  rw [lateCount, lateCount, List.countP_append, List.countP_singleton]
  cases decide (config.deadline ≤ now) && kind label <;> rfl

theorem lateCount_early (kind : Label → Bool) (times : ∀ step ∈ steps, step.1 ≤ now)
    (early : now < config.deadline) : lateCount config kind steps = 0 := by
  rw [lateCount, List.countP_eq_zero]
  intro step member
  have before := times step member
  simp [show ¬config.deadline ≤ step.1 by omega]

theorem lateCount_takes_le : lateCount config Label.takes steps ≤ takeCount steps :=
  List.countP_mono_left fun _ _ both => (Bool.and_eq_true _ _ ▸ both).2

theorem failureFree_snoc :
    FailureFree (steps ++ [(now, label)]) ↔ FailureFree steps ∧ label.fails = false := by
  simp [FailureFree, or_imp, forall_and]

theorem times_snoc (times : ∀ step ∈ steps, step.1 ≤ now) :
    ∀ step ∈ steps ++ [(now, label)], step.1 ≤ now := by
  intro step member
  rcases List.mem_append.mp member with earlier | last
  · exact times step earlier
  · rw [List.mem_singleton.mp last]

/-- Behind a failed call nothing is taken, as long as a taking step is no such
step's successor. -/
theorem final_snoc (final : ∀ before time error after,
      steps = before ++ (time, .recvError error) :: after → takeCount after = 0)
    (untaken : label.takes = true → FailureFree steps) :
    ∀ before time error after,
      steps ++ [(now, label)] = before ++ (time, .recvError error) :: after →
        takeCount after = 0 := by
  intro before time error after shape
  rcases List.eq_nil_or_concat after with rfl | ⟨middle, last, rfl⟩
  · rfl
  · have regrouped :
        steps ++ [(now, label)] = (before ++ (time, .recvError error) :: middle) ++ [last] := by
      simpa using shape
    obtain ⟨earlier, same⟩ := List.append_inj' regrouped rfl
    obtain rfl := List.singleton_inj.mp same
    rw [List.concat_eq_append, takeCount_snoc, final before time error middle earlier]
    cases takes : label.takes with
    | false => rfl
    | true =>
        have clean := untaken takes (time, .recvError error) (by simp [earlier])
        simp [Label.fails] at clean

/-- A step that no call of `recv` ends. -/
theorem Ending.still (ending : Ending config steps now task) (filled : label.unfilled = false)
    (untaken : label.takes = false) (same : Ended next ↔ Ended task)
    (drained : Ended next → FailureFree steps →
      (∀ waiting ∈ unread (steps ++ [(now, label)]), config.deadline ≤ waiting.1) ∧
        (next ≠ .returned → config.deadline ≤ now)) :
    Ending config (steps ++ [(now, label)]) now next := by
  have unfailing : label.fails = false := by
    cases label <;> first | rfl | simp [Label.unfilled] at filled
  have count (kind : Label → Bool) (none : kind label = false) :
      lateCount config kind (steps ++ [(now, label)]) = lateCount config kind steps := by
    rw [lateCount_snoc, none, Bool.and_false]
    rfl
  refine ⟨times_snoc ending.times, fun runs => ?_, fun ends => ?_, fun ends clean => ?_,
    final_snoc ending.final (by simp [untaken])⟩
  · rw [failureFree_snoc, count _ filled]
    obtain ⟨clean, none⟩ := ending.running (mt same.mpr runs)
    exact ⟨⟨clean, unfailing⟩, none⟩
  · rw [count _ filled, count _ untaken]
    exact ending.ended (same.mp ends)
  · exact drained ends (failureFree_snoc.mp clean).1

/-- A call of `recv` that returns a datagram keeps the loop going. -/
theorem Ending.took (ending : Ending config steps now task) (runs : ¬Ended task)
    (goes : ¬Ended next) {nowMicros : UInt64} :
    Ending config (steps ++ [(now, .recv nowMicros)]) now next := by
  obtain ⟨clean, none⟩ := ending.running runs
  refine ⟨times_snoc ending.times, fun _ => ?_, fun ends => absurd ends goes,
    fun ends => absurd ends goes, final_snoc ending.final (fun _ => clean)⟩
  rw [failureFree_snoc, lateCount_snoc, none]
  simp [clean, Label.fails, Label.unfilled]

/-- A call of `recv` that returns no datagram past the deadline, or that fails,
ends the loop. -/
theorem Ending.gaveUp (ending : Ending config steps now task) (runs : ¬Ended task)
    (ends : Ended next) (unfilled : label.unfilled = true)
    (done : label.fails = true ∨ config.deadline ≤ now ∧ unread (steps ++ [(now, label)]) = []) :
    Ending config (steps ++ [(now, label)]) now next := by
  obtain ⟨clean, none⟩ := ending.running runs
  have times : ∀ step ∈ steps ++ [(now, label)], step.1 ≤ now := times_snoc ending.times
  refine ⟨times, fun goes => absurd ends goes, fun _ => ?_, fun _ allClean => ?_,
    final_snoc ending.final (fun _ => clean)⟩
  · by_cases past : config.deadline ≤ now
    · exact Or.inl (by simp [lateCount_snoc, none, past, unfilled])
    · have early := Nat.lt_of_not_le past
      exact Or.inr ⟨lateCount_early _ times early, lateCount_early _ times early⟩
  · have unfailing := (failureFree_snoc.mp allClean).2
    rcases done with fails | ⟨past, empty⟩
    · simp [fails] at unfailing
    · exact ⟨by simp [empty], fun _ => past⟩

theorem ending_move {id : Nat} {socket : Socket} (ending : Ending config steps now (.streaming socket))
    (counting : Counting steps ⟨conn, .streaming socket⟩)
    (taken : socketStep config now id socket label = some (event, next)) :
    Ending config (steps ++ [(now, label)]) now next := by
  have unreadStill (silent : arrival (now, label) = none) (untaken : label.takes = false) :
      unread (steps ++ [(now, label)]) = unread steps := by
    obtain ⟨sameArrivals, sameCount⟩ := @unread_still now steps label silent untaken
    rw [unread, unread, sameArrivals, sameCount]
  cases move_of_socketStep taken with
  | start | stop | tick | sent | unsent =>
      refine ending.still rfl rfl Iff.rfl fun ends clean => ?_
      rw [unreadStill rfl rfl]
      exact ⟨(ending.drained ends clean).1, fun _ => (ending.drained ends clean).2 (by simp)⟩
  | joined stopped =>
      refine ending.still rfl rfl (iff_of_true trivial stopped) fun _ clean => ?_
      rw [unreadStill rfl rfl]
      exact ⟨(ending.drained stopped clean).1, fun open' => absurd rfl open'⟩
  | delivered =>
      refine ending.still rfl rfl Iff.rfl fun ends clean => ?_
      have past := (ending.drained ends clean).2 (by simp)
      refine ⟨fun waiting member => ?_, fun _ => past⟩
      rw [unread, arrivals_deliver, takeCount_snoc] at member
      rw [show Label.takes (.deliver _) = false from rfl, Bool.toNat_false, Nat.add_zero,
        List.drop_append_of_le_length counting.whole] at member
      rcases List.mem_append.mp member with earlier | last
      · exact (ending.drained ends clean).1 waiting earlier
      · rw [List.mem_singleton.mp last]
        exact past
  | received receiving | ignored receiving =>
      exact ending.took (by simp [Ended, receiving]) (by simp [Ended])
  | readerFailed receiving =>
      exact ending.gaveUp (by simp [Ended, receiving]) rfl rfl (Or.inl rfl)
  | readerDone receiving past =>
      refine ending.gaveUp (by simp [Ended, receiving]) rfl rfl (Or.inr ⟨past, ?_⟩)
      rw [unreadStill rfl rfl]
      have empty := counting.queue socket rfl
      rw [queue_of_recvTimeout taken] at empty
      exact List.map_eq_nil_iff.mp empty.symm
  | again receiving early =>
      have runs : ¬Ended (.streaming socket) := by simp [Ended, receiving]
      obtain ⟨clean, none⟩ := ending.running runs
      refine ⟨times_snoc ending.times, fun _ => ?_, fun ends => ?_, fun ends => ?_,
        final_snoc ending.final (by simp [Label.takes])⟩
      · rw [failureFree_snoc, lateCount_snoc, none]
        simp [clean, Label.fails, Nat.not_le.mpr early]
      · simp [Ended] at ends
      · simp [Ended] at ends

/-- A flow without a socket makes no call. -/
theorem ending_closed {id : Nat} (ending : Ending config steps now task)
    (counting : Counting steps ⟨conn, task⟩) (closed : ∀ socket, task ≠ .streaming socket)
    (taken : step config now id task label = some (event, next)) :
    Ending config (steps ++ [(now, label)]) now next := by
  have unreturned : task ≠ .returned := by
    rintro rfl
    cases label <;> simp [step] at taken
  have none : arrivals steps = [] := counting.closed closed unreturned
  have zero : takeCount steps = 0 := by
    have inside := counting.whole
    rw [none] at inside
    exact Nat.le_zero.mp inside
  have runs : ¬Ended task := by
    cases task with
    | streaming socket => exact absurd rfl (closed socket)
    | returned => exact absurd rfl unreturned
    | ramping | opening => exact fun ends => ends
  obtain ⟨clean, unended⟩ := ending.running runs
  obtain ⟨silent, untaken, -, opened⟩ := silent_of_closed closed taken
  have filled : label.unfilled = false := by
    cases task with
    | streaming socket => exact absurd rfl (closed socket)
    | _ => cases label <;> first | rfl | simp [step] at taken
  have unfailing : label.fails = false := by
    cases label <;> first | rfl | simp [Label.unfilled] at filled
  have count (kind : Label → Bool) (unkind : kind label = false) :
      lateCount config kind (steps ++ [(now, label)]) = lateCount config kind steps := by
    rw [lateCount_snoc, unkind, Bool.and_false]
    rfl
  refine ⟨times_snoc ending.times, fun _ => ?_, fun _ => Or.inr ?_, fun ends _ => ⟨?_, ?_⟩,
    final_snoc ending.final (fun _ => clean)⟩
  · rw [failureFree_snoc, count _ filled]
    exact ⟨⟨clean, unfailing⟩, unended⟩
  · rw [count _ filled, count _ untaken]
    exact ⟨unended, Nat.le_zero.mp (zero ▸ lateCount_takes_le)⟩
  · simp [unread, arrivals_still silent, none]
  · intro alive
    cases next with
    | streaming socket => simp [Ended, (opened socket rfl).2] at ends
    | returned => exact absurd rfl alive
    | ramping | opening => exact ends.elim

end End

theorem ending_of_run (run : (runUdp config).Run (startUdp config) trace state) :
    ∀ (index : Nat) flow, state.flows[index]? = some flow →
      Ending config (ownSteps index trace) state.now flow.task := by
  refine flow_history
    (fun trace index now flow => Ending config (ownSteps index trace) now flow.task)
    ?_ ?_ ?_ ?_ ?_ run
  · intro index wake
    refine ⟨by simp [ownSteps], fun _ => ⟨by simp [FailureFree, ownSteps], rfl⟩, fun ends => ?_,
      fun ends => ?_, fun before time error after shape => ?_⟩
    · exact ends.elim
    · exact ends.elim
    · simp [ownSteps] at shape
  · intro trace state index label flow event task before present _ ending taken
    have counting := counting_of_run before index flow present
    rw [ownSteps_own]
    by_cases opened : ∃ socket, flow.task = .streaming socket
    · obtain ⟨socket, streams⟩ := opened
      obtain ⟨conn, _⟩ := flow
      subst streams
      exact ending_move ending counting taken
    · exact ending_closed ending counting (fun socket same => opened ⟨socket, same⟩) taken
  · exact fun _ _ _ _ _ _ ending => ending
  · intro trace entry index now flow foreign ending
    rw [ownSteps_other foreign]
    exact ending
  · intro trace index now ms flow ending
    refine ⟨fun step member => (ending.times step member).trans (Nat.le_add_right _ _),
      ending.running, ending.ended, fun ends clean => ?_, ending.final⟩
    obtain ⟨waiting, past⟩ := ending.drained ends clean
    exact ⟨waiting, fun alive => (past alive).trans (Nat.le_add_right _ _)⟩

/-! ## Lost datagrams -/

/-- A valid datagram that arrived before the deadline. -/
def EarlyValid (config : RunConfig) (arrived : Nat × List UInt8) : Prop :=
  arrived.1 < config.deadline ∧ validDatagram arrived.2 = true

/-- Every valid datagram that arrived before the deadline was taken. -/
def NothingLost (config : RunConfig) (steps : List (Nat × Label)) : Prop :=
  ∀ waiting ∈ unread steps, ¬EarlyValid config waiting

/-- Whenever a call of `recv` fails, no valid datagram that arrived before the
deadline waits in the socket, and none arrives before the deadline afterwards. -/
def FailuresHarmless (config : RunConfig) (steps : List (Nat × Label)) : Prop :=
  ∀ before time error after, steps = before ++ (time, .recvError error) :: after →
    (∀ waiting ∈ unread before, ¬EarlyValid config waiting) ∧
      ∀ arrived ∈ arrivals after, ¬EarlyValid config arrived

section Lost

variable {now : Nat} {steps : List (Nat × Label)} {task : Task} {conn : ConnState}

theorem arrivals_append (earlier later : List (Nat × Label)) :
    arrivals (earlier ++ later) = arrivals earlier ++ arrivals later :=
  List.filterMap_append ..

theorem takeCount_append (earlier later : List (Nat × Label)) :
    takeCount (earlier ++ later) = takeCount earlier + takeCount later :=
  List.countP_append ..

/-- Behind a failed call everything stays unread. -/
theorem unread_of_failed {before after : List (Nat × Label)} {time : Nat} {error : IoError}
    (counting : Counting steps ⟨conn, task⟩) (ending : Ending config steps now task)
    (shape : steps = before ++ (time, .recvError error) :: after) :
    unread steps = unread before ++ arrivals after := by
  have inside := counting.inside before ⟨_, shape.symm⟩
  have untaken := ending.final before time error after shape
  have failed : arrivals ((time, Label.recvError error) :: after) = arrivals after := rfl
  have count : takeCount ((time, Label.recvError error) :: after) = takeCount after := rfl
  rw [unread, shape, arrivals_append, takeCount_append, failed, count, untaken, Nat.add_zero,
    List.drop_append_of_le_length inside, ← unread]

/-- Where the reader has ended, nothing was lost exactly if its failures were
harmless. -/
theorem nothingLost_iff (counting : Counting steps ⟨conn, task⟩)
    (ending : Ending config steps now task) (ends : Ended task) :
    NothingLost config steps ↔ FailuresHarmless config steps := by
  constructor
  · intro kept before time error after shape
    rw [NothingLost, unread_of_failed counting ending shape] at kept
    exact ⟨fun waiting member => kept waiting (List.mem_append_left _ member),
      fun arrived member => kept arrived (List.mem_append_right _ member)⟩
  · intro harmless waiting member valid
    by_cases clean : FailureFree steps
    · exact absurd valid.1 (Nat.not_lt.mpr ((ending.drained ends clean).1 waiting member))
    · -- The first failed call splits the steps.
      simp only [FailureFree, not_forall, Bool.not_eq_false] at clean
      obtain ⟨⟨time, label⟩, there, fails⟩ := clean
      obtain ⟨before, after, shape⟩ := List.append_of_mem there
      cases label with
      | recvError error =>
          obtain ⟨waited, arrived⟩ := harmless before time error after shape
          rw [unread_of_failed counting ending shape] at member
          rcases List.mem_append.mp member with earlier | later
          · exact waited waiting earlier valid
          · exact arrived waiting later valid
      | _ => simp [Label.fails] at fails

end Lost

/-- A call of `recv` takes the first datagram that waits; a valid one is counted
and makes its flow heard of now. -/
theorem recv_updates {next : RunState Task} {index : Nat} {nowMicros : UInt64} {conn : ConnState}
    {socket : Socket} (present : state.flows[index]? = some ⟨conn, .streaming socket⟩)
    (taken : (runUdp config).step state (.flow index (.recv nowMicros)) = some next) :
    ∃ datagram rest after, socket.queue = datagram :: rest ∧
      next.flows[index]? = some
        ⟨if validDatagram datagram then
            { conn with
              bytesRecv := conn.bytesRecv + (datagram.take bufferLen).length
              udpRecv := conn.udpRecv + 1
              lastRecvMs := state.now
              firstRecv := true
              inStall := false }
          else conn, after⟩ := by
  cases taken_of_step taken with
  | @flow _ _ flow event task there own =>
      obtain rfl : flow = ⟨conn, .streaming socket⟩ := Option.some.inj (there.symm.trans present)
      have placed (changed : Flow Task) :
          (state.flows.set index changed)[index]? = some changed :=
        getElem?_set_self_of_some there changed
      have move : Move config state.now conn.id socket (.recv nowMicros) event task :=
        move_of_socketStep own
      cases move with
      | @received _ _ _ _ datagram rest receiving arrived valid =>
          refine ⟨datagram, rest, .streaming
            { socket with queue := rest, reader := .receiving state.now }, arrived, ?_⟩
          rw [if_pos (by simp [validDatagram, valid])]
          exact placed _
      | @ignored _ _ datagram rest receiving arrived invalid =>
          refine ⟨datagram, rest, .streaming
            { socket with queue := rest, reader := .receiving state.now }, arrived, ?_⟩
          rw [if_neg (by simp [validDatagram, invalid])]
          exact placed _

/-- The flows' counters, one flow after the other. -/
theorem conns_map_eq {counter : ConnState → Nat} {value : Nat → Nat}
    (run : (runUdp config).Run (startUdp config) trace state)
    (each : ∀ (index : Nat) flow, state.flows[index]? = some flow →
      counter flow.conn = value index) :
    state.conns.map counter = (List.range config.flowCount).map value := by
  refine List.ext_getElem? fun index => ?_
  simp only [RunState.conns, List.getElem?_map, Option.map_map]
  have count := flows_length run
  cases found : state.flows[index]? with
  | none =>
      have outside := List.getElem?_eq_none_iff.mp found
      rw [List.getElem?_eq_none (by simpa using count ▸ outside)]
      rfl
  | some flow =>
      have inside := (List.getElem?_eq_some_iff.mp found).1
      rw [List.getElem?_range (count ▸ inside)]
      exact congrArg some (each index flow found)

/-- What a returned run counted: the valid ones among the datagrams its readers
took, each once. Of a flow, every valid datagram that arrived before the
deadline was taken exactly if no failed call of `recv` left one behind. -/
theorem udp_return_counted_iff (config : RunConfig)
    {trace : List (RunState Task × RunLabel Label)} {state : RunState Task}
    {metrics : PortMetrics} (run : (runUdp config).Run (startUdp config) trace state)
    (result : state.result = some metrics) :
    metrics.udpRecv = ((List.range config.flowCount).map fun index =>
      (counted (ownSteps index trace)).length).sum ∧
    metrics.bytesRecv = ((List.range config.flowCount).map fun index =>
      bufferedBytes (counted (ownSteps index trace))).sum ∧
    (∀ entry ∈ trace, ∀ index nowMicros conn socket,
      entry.2 = .flow index (.recv nowMicros) →
      entry.1.flows[index]? = some ⟨conn, .streaming socket⟩ →
      ∃ datagram rest next after, socket.queue = datagram :: rest ∧
        (runUdp config).step entry.1 entry.2 = some next ∧
        next.flows[index]? = some
          ⟨if validDatagram datagram then
              { conn with
                bytesRecv := conn.bytesRecv + (datagram.take bufferLen).length
                udpRecv := conn.udpRecv + 1
                lastRecvMs := entry.1.now
                firstRecv := true
                inStall := false }
            else conn, after⟩) ∧
    ∀ index < config.flowCount,
      taken (ownSteps index trace) ++ unread (ownSteps index trace) =
          arrivals (ownSteps index trace) ∧
        (NothingLost config (ownSteps index trace) ↔
          FailuresHarmless config (ownSteps index trace)) := by
  have returned := main_of_result result
  obtain ⟨series, rfl⟩ := (finished_of_run run).metrics metrics returned
  have counting := counting_of_run run
  refine ⟨?_, ?_, ?_, fun index below => ⟨taken_append_unread _, ?_⟩⟩
  · exact congrArg List.sum (conns_map_eq run fun index flow present =>
      (counting index flow present).packets)
  · exact congrArg List.sum (conns_map_eq run fun index flow present =>
      (counting index flow present).bytes)
  · rintro ⟨before, label⟩ member index nowMicros conn socket rfl present
    obtain ⟨_, next, -, step⟩ := run.mem_step member
    obtain ⟨datagram, rest, after, queue, changed⟩ := recv_updates present step
    exact ⟨datagram, rest, next, after, queue, step, changed⟩
  · obtain ⟨flow, present⟩ : ∃ flow, state.flows[index]? = some flow :=
      ⟨_, List.getElem?_eq_getElem (flows_length run ▸ below)⟩
    have done := main_returned_of_run run returned flow (List.mem_of_getElem? present)
    refine nothingLost_iff (counting index flow present) (ending_of_run run index flow present) ?_
    rw [of_decide_eq_true done]
    trivial

/-! ### A refusal on the socket -/

/-- One flow of one datagram, for a second. -/
def oneSecond : RunConfig where
  endpoint := "127.0.0.1:9"
  params := { connectionsPerPort := 1, durationSecs := 1, payloadBytes := 1, rampMs := 0 }
  stallSecs := 1

def refusal : IoError := ⟨.other, "connection refused"⟩

/-- The first call of `recv` fails; then the echo arrives. -/
def refusedThenEchoed : List (RunLabel Label) :=
  [.flow 0 .wake, .flow 0 .opened, .flow 0 .writerCheck, .flow 0 (.writerTick 7), .flow 0 .sendOk,
    .flow 0 (.recvError refusal), .flow 0 (.deliver (encodeUdp 0 7 [0xA5])), .elapse 1000,
    .flow 0 .writerCheck, .flow 0 .join, .join] ++ sampleRound _ 1 ++ [.finalize]

theorem echo_after_refusal_lost :
    ∃ trace state metrics, (runUdp oneSecond).Run (startUdp oneSecond) trace state ∧
      state.result = some metrics ∧ metrics.udpRecv = 0 ∧
      unread (ownSteps 0 trace) = [(0, encodeUdp 0 7 [0xA5])] ∧
      ¬NothingLost oneSecond (ownSteps 0 trace) := by
  obtain ⟨metrics, found, zero⟩ := Option.map_eq_some_iff.mp (show
    (((runUdp oneSecond).play (startUdp oneSecond) refusedThenEchoed).bind
      RunState.result).map PortMetrics.udpRecv = some 0 by decide +kernel)
  obtain ⟨state, played, result⟩ := Option.bind_eq_some_iff.mp found
  have left : unread (ownSteps 0 ((runUdp oneSecond).trace (startUdp oneSecond)
      refusedThenEchoed)) = [(0, encodeUdp 0 7 [0xA5])] := by
    decide +kernel
  refine ⟨_, state, metrics, Machine.run_of_play played, result, zero, left, fun kept => ?_⟩
  refine kept (0, encodeUdp 0 7 [0xA5]) (by simp [left]) ⟨by decide, by decide +kernel⟩

/-- The echo is taken; then the reader runs into its timeout. -/
def echoedOnTime : List (RunLabel Label) :=
  [.flow 0 .wake, .flow 0 .opened, .flow 0 .writerCheck, .flow 0 (.writerTick 7), .flow 0 .sendOk,
    .flow 0 (.deliver (encodeUdp 0 7 [0xA5])), .flow 0 (.recv 9), .elapse 2000,
    .flow 0 .writerCheck, .flow 0 .recvTimeout, .flow 0 .join, .join] ++ sampleRound _ 1 ++ [.finalize]

theorem udp_return_counted_iff_echoedOnTime :
    ∃ trace state metrics, (runUdp oneSecond).Run (startUdp oneSecond) trace state ∧
      state.result = some metrics ∧ metrics.udpRecv = 1 ∧
      NothingLost oneSecond (ownSteps 0 trace) := by
  obtain ⟨metrics, found, one⟩ := Option.map_eq_some_iff.mp (show
    (((runUdp oneSecond).play (startUdp oneSecond) echoedOnTime).bind
      RunState.result).map PortMetrics.udpRecv = some 1 by decide +kernel)
  obtain ⟨state, played, result⟩ := Option.bind_eq_some_iff.mp found
  have run := Machine.run_of_play played
  have law := (udp_return_counted_iff oneSecond run result).2.2.2 0 (by decide)
  refine ⟨_, state, metrics, run, result, one, law.2.mpr ?_⟩
  intro before time error after shape
  have unfailing : (ownSteps 0 ((runUdp oneSecond).trace (startUdp oneSecond)
      echoedOnTime)).all (fun step => !step.2.fails) = true := by
    decide +kernel
  have here := List.all_eq_true.mp unfailing (time, .recvError error) (by simp [shape])
  simp [Label.fails] at here

end Npt.Ci.Client.UdpFlow
