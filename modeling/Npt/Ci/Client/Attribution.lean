import Npt.Ci.Client.Phases

/-!
Owns: which sequence numbers a flow sends, is delivered and counts. The reader
counts every valid frame without comparing its sequence number, so what it
counts is a prefix of what the network delivered; the counts are attributable
exactly as far as the deliveries are.

Does not own: byte counts, RTT, or what the peer does with a frame.
-/

namespace Npt.Ci.Client

open Npt.Core

section Observed

variable {Task Label Value : Type}

/-- What flow `index` shows in one step. -/
def observe (view : Task → Label → Option Value) (index : Nat)
    (entry : RunState Task × RunLabel Label) : Option Value :=
  match entry.2 with
  | .flow position label =>
      if position = index then entry.1.flows[index]?.bind fun flow => view flow.task label else none
  | _ => none

/-- What flow `index` shows in a trace, in order. -/
def observed (view : Task → Label → Option Value) (index : Nat)
    (trace : List (RunState Task × RunLabel Label)) : List Value :=
  trace.filterMap (observe view index)

variable {view : Task → Label → Option Value} {index : Nat}

theorem observe_own (view : Task → Label → Option Value) {state : RunState Task}
    {flow : Flow Task} (label : Label) (present : state.flows[index]? = some flow) :
    observe view index (state, .flow index label) = view flow.task label := by
  simp [observe, present]

theorem observe_foreign {entry : RunState Task × RunLabel Label}
    (foreign : ∀ label, entry.2 ≠ .flow index label) : observe view index entry = none := by
  unfold observe
  split
  · rename_i position label same
    rw [if_neg]
    rintro rfl
    exact foreign label same
  · rfl

theorem observed_snoc (trace : List (RunState Task × RunLabel Label))
    (entry : RunState Task × RunLabel Label) :
    observed view index (trace ++ [entry]) =
      observed view index trace ++ (observe view index entry).toList := by
  unfold observed
  rw [List.filterMap_append]
  cases shown : observe view index entry <;> simp [shown]

/-- A flow that does not exist shows nothing. -/
theorem observed_eq_nil_of_absent {program : FlowProgram Task Label} {config : RunConfig}
    {trace : List (RunState Task × RunLabel Label)} {state : RunState Task}
    (run : (runMachine program config).Run (initialRun program config) trace state)
    (absent : state.flows.length ≤ index) : observed view index trace = [] := by
  refine List.filterMap_eq_nil_iff.mpr (fun entry member => ?_)
  obtain ⟨before, _, earlier, _⟩ := run.mem_step member
  have outside : entry.1.flows[index]? = none := by
    rw [List.getElem?_eq_none_iff, flows_length earlier, ← flows_length run]
    exact absent
  unfold observe
  split
  · simp [outside]
  · rfl

end Observed

/-! ## Attribution -/

/-- The sequence numbers a protocol sends and counts in its steps, and those of
the valid frames that the network has delivered. -/
structure Traffic (Task Label : Type) where
  sent : Task → Label → Option UInt64
  counted : Task → Label → Option UInt64
  delivered : Nat → List (RunState Task × RunLabel Label) → List UInt64

section Attribution

variable {Task Label : Type}

/-- Each frame that flow `index` counts carries a number the flow sent earlier,
and none is counted twice. -/
structure Attributed (traffic : Traffic Task Label) (index : Nat)
    (steps : List (RunState Task × RunLabel Label)) : Prop where
  earlier : ∀ (position : Nat) entry, steps[position]? = some entry →
    ∀ seq ∈ observe traffic.counted index entry,
      seq ∈ observed traffic.sent index (steps.take position)
  once : (observed traffic.counted index steps).Nodup

/-- After every step, the valid frames delivered to flow `index` so far carry
distinct numbers, all of which the flow sent before the step. -/
def Echoes (traffic : Traffic Task Label) (index : Nat)
    (steps : List (RunState Task × RunLabel Label)) : Prop :=
  ∀ position < steps.length,
    (traffic.delivered index (steps.take (position + 1))).Nodup ∧
      ∀ seq ∈ traffic.delivered index (steps.take (position + 1)),
        seq ∈ observed traffic.sent index (steps.take position)

instance (traffic : Traffic Task Label) (index : Nat)
    (steps : List (RunState Task × RunLabel Label)) : Decidable (Echoes traffic index steps) :=
  -- Sequence numbers are a finite type, but only those of the list are to be tried.
  letI (position : Nat) : Decidable
      (∀ seq ∈ traffic.delivered index (steps.take (position + 1)),
        seq ∈ observed traffic.sent index (steps.take position)) := List.decidableBAll _ _
  inferInstanceAs (Decidable (∀ position < steps.length, _ ∧ _))

/-- Where a flow counts a prefix of what is delivered to it, attribution
follows from the deliveries. -/
theorem attributed_of_prefix {program : FlowProgram Task Label} {config : RunConfig}
    {traffic : Traffic Task Label} {index : Nat}
    (counts : ∀ steps state, (runMachine program config).Run (initialRun program config) steps state →
      observed traffic.counted index steps <+: traffic.delivered index steps)
    {steps : List (RunState Task × RunLabel Label)} {state : RunState Task}
    (run : (runMachine program config).Run (initialRun program config) steps state)
    (echoes : Echoes traffic index steps) : Attributed traffic index steps := by
  constructor
  · intro position entry found seq counted
    obtain ⟨inside, rfl⟩ := List.getElem?_eq_some_iff.mp found
    have shape : steps = steps.take position ++ steps[position] :: steps.drop (position + 1) := by
      rw [← List.drop_eq_getElem_cons inside, List.take_append_drop]
    obtain ⟨next, before, taken, _⟩ := run.split shape
    refine (echoes position inside).2 seq ?_
    rw [← List.take_append_getElem inside]
    refine (counts _ _ (before.snoc taken)).subset ?_
    rw [observed_snoc]
    exact List.mem_append_right _ (by simpa using counted)
  · rcases Nat.eq_zero_or_pos steps.length with empty | positive
    · rw [List.length_eq_zero_iff.mp empty]
      exact List.nodup_nil
    · have last := (echoes (steps.length - 1) (by omega)).1
      rw [Nat.sub_add_cancel positive, List.take_length] at last
      exact last.sublist (counts _ _ run).sublist

end Attribution

/-! ## TCP -/

namespace TcpFlow

open Npt.Ci.Protocol

/-- The kernel takes the last byte of a frame. -/
def sentSeq : Task → Label → Option UInt64
  | .streaming stream, .writerSend count =>
      match stream.writer with
      | .writing frame unsent => if count = unsent.length then some frame.seq else none
      | _ => none
  | _, _ => none

/-- The frame a read returns. -/
def countedFrame : Task → Label → Option Frame
  | .streaming stream, .read _ =>
      match Frame.read stream.rx with
      | .ok (some frame) _ => some frame
      | _ => none
  | _, _ => none

def deliveredBytes : Task → Label → Option (List UInt8)
  | .streaming _, .peerSend bytes => some bytes
  | _, _ => none

/-- The valid frames at the front of all the bytes delivered to flow `index`. -/
def deliveredFrames (index : Nat) (trace : List (RunState Task × RunLabel Label)) : List Frame :=
  (readFrames ⟨(observed deliveredBytes index trace).flatten, .live⟩).1

def traffic : Traffic Task Label where
  sent := sentSeq
  counted task label := (countedFrame task label).map Frame.seq
  delivered index trace := (deliveredFrames index trace).map Frame.seq

/-- The bytes a task can still read. -/
def Task.unread : Task → List UInt8
  | .streaming stream => stream.rx.bytes
  | _ => []

/-- Nothing that was delivered is lost to the task. -/
def Task.lossless : Task → Prop
  | .streaming stream => stream.rx.ending = .live
  | .returned => False
  | _ => True

/-- The delivered bytes are the counted frames, what is unread, and what was
lost with the connection. -/
structure Consumed (index : Nat) (trace : List (RunState Task × RunLabel Label)) (task : Task) :
    Prop where
  fits : ∀ frame ∈ observed countedFrame index trace, frame.payload.length ≤ maxPayload
  split : ∃ lost, (observed deliveredBytes index trace).flatten =
    (observed countedFrame index trace).flatMap Frame.encode ++ task.unread ++ lost ∧
      (task.lossless → lost = [])

variable {config : RunConfig} {trace : List (RunState Task × RunLabel Label)} {state : RunState Task}

/-- A step that neither counts nor delivers may only drop unread bytes. -/
private theorem Consumed.quiet {index : Nat} {entry : RunState Task × RunLabel Label}
    {task next : Task} (consumed : Consumed index trace task)
    (uncounted : observe countedFrame index entry = none)
    (undelivered : observe deliveredBytes index entry = none) (dropped : List UInt8)
    (unread : task.unread = next.unread ++ dropped)
    (lossless : next.lossless → task.lossless ∧ dropped = []) :
    Consumed index (trace ++ [entry]) next := by
  obtain ⟨fits, lost, shape, whole⟩ := consumed
  constructor
  · rw [observed_snoc, uncounted]
    simpa using fits
  · refine ⟨dropped ++ lost, ?_, fun intact => ?_⟩
    · rw [observed_snoc, observed_snoc, uncounted, undelivered]
      simpa [unread] using shape
    · obtain ⟨before, nothing⟩ := lossless intact
      rw [nothing, whole before]
      rfl

theorem consumed_of_run (run : (runTcp config).Run (startTcp config) trace state) :
    ∀ (index : Nat) flow, state.flows[index]? = some flow → Consumed index trace flow.task := by
  refine flow_history (fun trace index _ flow => Consumed index trace flow.task)
    ?_ ?_ ?_ ?_ ?_ run
  · intro index wake
    exact ⟨by simp [observed], [], rfl, fun _ => rfl⟩
  · intro trace state index label flow event task before present _ consumed taken
    have counts := observe_own countedFrame label present
    have delivers := observe_own deliveredBytes label present
    obtain ⟨conn, from'⟩ := flow
    cases taskMove_of_step taken with
    | woke reached => exact consumed.quiet counts delivers [] rfl (fun _ => ⟨trivial, rfl⟩)
    | connected => exact consumed.quiet counts delivers [] rfl (fun _ => ⟨trivial, rfl⟩)
    | refused =>
        refine consumed.quiet (counts.trans ?_) (delivers.trans ?_) [] rfl (fun lost => lost.elim)
        · cases label <;> rfl
        · cases label <;> rfl
    | @streamed stream _ _ _ move =>
        cases move with
        | start | stop | send | sent | writeFailed | paced | drained =>
            exact consumed.quiet counts delivers [] (List.append_nil _).symm
              (fun live => ⟨live, rfl⟩)
        | @frame nowMicros frame rest reading read =>
            obtain ⟨shape, ending, fits⟩ := Frame.read_some read
            obtain ⟨earlier, lost, split, whole⟩ := consumed
            have counted : observe countedFrame index (state, .flow index (.read nowMicros)) =
                some frame := by
              rw [counts]
              simp [countedFrame, read]
            constructor
            · rw [observed_snoc, counted]
              intro other member
              rcases List.mem_append.mp member with old | here
              · exact earlier other old
              · obtain rfl := List.mem_singleton.mp here
                exact fits
            · refine ⟨lost, ?_, fun live => whole (ending.symm.trans live)⟩
              rw [observed_snoc, observed_snoc, counted, delivers]
              simp only [deliveredBytes, Option.toList_none, List.append_nil, split, Task.unread,
                shape, Option.toList_some, List.flatMap_append, List.flatMap_cons, List.flatMap_nil,
                List.append_assoc]
        | @ended nowMicros message rx reading past decided left =>
            have uncounted : countedFrame (.streaming stream) (.read nowMicros) = none := by
              simp only [countedFrame]
            rcases left with rfl | ⟨rfl, past⟩
            · exact consumed.quiet (counts.trans uncounted) delivers [] (List.append_nil _).symm
                (fun live => ⟨live, rfl⟩)
            · exact consumed.quiet (counts.trans uncounted) delivers stream.rx.bytes rfl
                (fun live => absurd live past)
        | joined => exact consumed.quiet counts delivers stream.rx.bytes rfl (fun lost => lost.elim)
        | @delivered bytes live =>
            obtain ⟨earlier, lost, split, whole⟩ := consumed
            obtain rfl := whole live
            constructor
            · rw [observed_snoc, counts]
              simpa [countedFrame] using earlier
            · refine ⟨[], ?_, fun _ => rfl⟩
              rw [observed_snoc, observed_snoc, counts, delivers]
              simp only [countedFrame, deliveredBytes, Task.unread, Option.toList_none,
                Option.toList_some, List.append_nil, List.flatten_append, List.flatten_cons,
                List.flatten_nil] at split ⊢
              rw [split, List.append_assoc]
        | closed live =>
            exact consumed.quiet counts delivers [] (List.append_nil _).symm
              (fun open' => by simp [Task.lossless] at open')
        | @cut kept error whole =>
            exact consumed.quiet counts delivers (stream.rx.bytes.drop kept)
              (List.take_append_drop _ _).symm (fun open' => by simp [Task.lossless] at open')
  · exact fun _ _ _ _ _ _ consumed => consumed
  · intro trace entry index now flow foreign consumed
    exact consumed.quiet (observe_foreign foreign) (observe_foreign foreign) []
      (List.append_nil _).symm (fun open' => ⟨open', rfl⟩)
  · exact fun _ _ _ _ _ consumed => consumed

/-- `bytes_recv` is the length of the counted frames. -/
theorem bytesRecv_eq_counted (run : (runTcp config).Run (startTcp config) trace state) :
    ∀ (index : Nat) flow, state.flows[index]? = some flow →
      flow.conn.bytesRecv = ((observed countedFrame index trace).map frameLen).sum := by
  refine flow_history (fun trace index _ flow => flow.conn.bytesRecv =
    ((observed countedFrame index trace).map frameLen).sum) ?_ ?_ ?_ ?_ ?_ run
  · exact fun _ _ => rfl
  · intro trace state index label flow event task before present _ bytes taken
    have counts := observe_own countedFrame label present
    obtain ⟨conn, from'⟩ := flow
    have moved (received : event.receives = false)
        (uncounted : countedFrame from' label = none) :
        (event.apply state.now config.deadline state.run conn).2.bytesRecv =
          ((observed countedFrame index (trace ++ [(state, .flow index label)])).map frameLen).sum := by
      rw [(event.apply_unreceived _ _ _ _ received).1, observed_snoc, counts.trans uncounted]
      simpa using bytes
    cases taskMove_of_step taken with
    | woke | connected => exact moved rfl rfl
    | refused => exact moved rfl (by cases label <;> rfl)
    | @streamed stream _ _ _ move =>
        cases move with
        | @frame nowMicros frame rest reading read =>
            have counted : observe countedFrame index (state, .flow index (.read nowMicros)) =
                some frame := by
              rw [counts]
              simp [countedFrame, read]
            rw [observed_snoc, counted, Option.toList_some, List.map_append, List.sum_append, ← bytes]
            rfl
        | ended reading past => exact moved rfl (by simp only [countedFrame])
        | _ => exact moved rfl rfl
  · intro trace index now seen run flow bytes
    rw [visitFlow_conn_eq]
    exact bytes
  · intro trace entry index now flow foreign bytes
    rw [observed_snoc, observe_foreign foreign]
    simpa using bytes
  · exact fun _ _ _ _ _ bytes => bytes

/-- The reader counts the valid frames in the order they were delivered. -/
theorem counted_prefix_delivered (run : (runTcp config).Run (startTcp config) trace state)
    (index : Nat) :
    observed traffic.counted index trace <+: traffic.delivered index trace := by
  have asFrames : observed traffic.counted index trace =
      (observed countedFrame index trace).map Frame.seq := by
    unfold observed
    rw [List.map_filterMap]
    refine List.filterMap_congr (fun entry _ => ?_)
    unfold observe traffic
    split
    · split
      · cases entry.1.flows[index]? <;> rfl
      · rfl
    · rfl
  rw [asFrames]
  refine List.IsPrefix.map _ ?_
  by_cases inside : index < state.flows.length
  · obtain ⟨fits, lost, split, _⟩ :=
      consumed_of_run run index _ (List.getElem?_eq_getElem inside)
    rw [deliveredFrames, split, List.append_assoc, readFrames_encode _ fits]
    exact List.prefix_append _ _
  · rw [observed_eq_nil_of_absent run (Nat.not_lt.mp inside)]
    exact List.nil_prefix

end TcpFlow

/-! ## UDP -/

namespace UdpFlow

open Npt.Ci.Protocol

/-- The number of a datagram as the reader's buffer holds it. -/
def seqOf (datagram : List UInt8) : Option UInt64 :=
  (decodeUdp (datagram.take bufferLen)).map Prod.fst

def sentSeq : Task → Label → Option UInt64
  | .streaming socket, .sendOk =>
      match socket.writer with
      | .sending _ datagram => (decodeUdp datagram).map Prod.fst
      | _ => none
  | _, _ => none

def countedSeq : Task → Label → Option UInt64
  | .streaming socket, .recv _ =>
      match socket.queue with
      | datagram :: _ => seqOf datagram
      | [] => none
  | _, _ => none

def deliveredSeq : Task → Label → Option UInt64
  | .streaming _, .deliver datagram => seqOf datagram
  | _, _ => none

def traffic : Traffic Task Label where
  sent := sentSeq
  counted := countedSeq
  delivered := observed deliveredSeq

/-- The numbers of the valid datagrams a task can still receive. -/
def Task.pending : Task → List UInt64
  | .streaming socket => socket.queue.filterMap seqOf
  | _ => []

/-- A datagram the task is about to send has a number. -/
def Task.wellFormed : Task → Prop
  | .streaming socket => ∀ due datagram, socket.writer = .sending due datagram →
      (decodeUdp datagram).isSome = true
  | _ => True

/-- The flow's counters and queue against what it showed. -/
structure Ledger (index : Nat) (trace : List (RunState Task × RunLabel Label)) (flow : Flow Task) :
    Prop where
  split : ∃ lost, observed deliveredSeq index trace =
    observed countedSeq index trace ++ flow.task.pending ++ lost ∧
      (phase flow.task ≠ .returned → lost = [])
  received : flow.conn.udpRecv = (observed countedSeq index trace).length
  sent : flow.conn.udpSent = (observed sentSeq index trace).length
  wellFormed : flow.task.wellFormed

variable {config : RunConfig} {trace : List (RunState Task × RunLabel Label)} {state : RunState Task}

/-- How one step moves the ledger: what the task had pending and what arrives
is what it counts, what it still has pending, and what it drops. -/
private theorem Ledger.step {index : Nat} {entry : RunState Task × RunLabel Label}
    {flow next : Flow Task} (ledger : Ledger index trace flow) (dropped : List UInt64)
    (pending : flow.task.pending ++ (observe deliveredSeq index entry).toList =
      (observe countedSeq index entry).toList ++ next.task.pending ++ dropped)
    (arrives : observe deliveredSeq index entry ≠ none → phase flow.task ≠ .returned)
    (intact : phase next.task ≠ .returned → phase flow.task ≠ .returned ∧ dropped = [])
    (received : next.conn.udpRecv =
      flow.conn.udpRecv + (observe countedSeq index entry).toList.length)
    (sent : next.conn.udpSent = flow.conn.udpSent + (observe sentSeq index entry).toList.length)
    (wellFormed : next.task.wellFormed) : Ledger index (trace ++ [entry]) next := by
  obtain ⟨⟨lost, shape, whole⟩, receivedBefore, sentBefore, _⟩ := ledger
  refine ⟨⟨dropped ++ lost, ?_, fun live => ?_⟩, ?_, ?_, wellFormed⟩
  · have reordered : lost ++ (observe deliveredSeq index entry).toList =
        (observe deliveredSeq index entry).toList ++ lost := by
      by_cases arrived : observe deliveredSeq index entry = none
      · simp [arrived]
      · simp [whole (arrives arrived)]
    calc observed deliveredSeq index (trace ++ [entry])
        = observed countedSeq index trace ++
            (flow.task.pending ++ (observe deliveredSeq index entry).toList) ++ lost := by
          rw [observed_snoc, shape]
          simp only [List.append_assoc, reordered]
      _ = observed countedSeq index (trace ++ [entry]) ++ next.task.pending ++
            (dropped ++ lost) := by
          rw [observed_snoc, pending]
          simp only [List.append_assoc]
  · obtain ⟨before, nothing⟩ := intact live
    rw [nothing, whole before]
    rfl
  · rw [observed_snoc, List.length_append, received, receivedBefore]
  · rw [observed_snoc, List.length_append, sent, sentBefore]

/-- A step that shows nothing keeps the ledger of a task that keeps its queue. -/
private theorem Ledger.quiet {index : Nat} {entry : RunState Task × RunLabel Label}
    {flow next : Flow Task} (ledger : Ledger index trace flow)
    (uncounted : observe countedSeq index entry = none)
    (undelivered : observe deliveredSeq index entry = none)
    (unsent : observe sentSeq index entry = none)
    (counters : next.conn.udpRecv = flow.conn.udpRecv ∧ next.conn.udpSent = flow.conn.udpSent)
    (pending : next.task.pending = flow.task.pending)
    (onwards : phase next.task ≠ .returned → phase flow.task ≠ .returned)
    (wellFormed : next.task.wellFormed) : Ledger index (trace ++ [entry]) next := by
  refine ledger.step [] ?_ (fun arrives => absurd undelivered arrives)
    (fun live => ⟨onwards live, rfl⟩) ?_ ?_ wellFormed
  · simp [uncounted, undelivered, pending]
  · simp [uncounted, counters.1]
  · simp [unsent, counters.2]

theorem ledger_of_run (run : (runUdp config).Run (startUdp config) trace state) :
    ∀ (index : Nat) flow, state.flows[index]? = some flow → Ledger index trace flow := by
  refine flow_history (fun trace index _ flow => Ledger index trace flow)
    ?_ ?_ ?_ ?_ ?_ run
  · intro index wake
    exact ⟨⟨[], rfl, fun _ => rfl⟩, rfl, rfl, trivial⟩
  · intro trace state index label flow event task before present _ ledger taken
    have counts := observe_own countedSeq label present
    have delivers := observe_own deliveredSeq label present
    have sends := observe_own sentSeq label present
    obtain ⟨conn, from'⟩ := flow
    cases taskMove_of_step taken with
    | woke reached =>
        exact ledger.quiet counts delivers sends ⟨rfl, rfl⟩ rfl (by simp [phase]) trivial
    | opened =>
        exact ledger.quiet counts delivers sends ⟨rfl, rfl⟩ rfl (by simp [phase])
          (by simp [Task.wellFormed])
    | refused =>
        refine ledger.quiet (counts.trans ?_) (delivers.trans ?_) (sends.trans ?_) ⟨rfl, rfl⟩ rfl
          (by simp [phase]) trivial
        all_goals cases label <;> rfl
    | @moved socket _ _ _ move =>
        cases move with
        | start | stop =>
            exact ledger.quiet counts delivers sends ⟨rfl, rfl⟩ rfl (by simp [phase])
              (by simp [Task.wellFormed])
        | readerFailed | readerDone | again =>
            exact ledger.quiet counts delivers sends ⟨rfl, rfl⟩ rfl (by simp [phase])
              ledger.wellFormed
        | @tick due nowMicros ticking reached =>
            refine ledger.quiet counts delivers sends ⟨rfl, rfl⟩ rfl (by simp [phase]) ?_
            intro other datagram sending
            obtain ⟨rfl, rfl⟩ := Writer.sending.inj sending
            simp [nextDatagram, decodeUdp_encodeUdp]
        | unsent sending =>
            exact ledger.quiet counts delivers sends ⟨rfl, rfl⟩ rfl (by simp [phase])
              (by simp [Task.wellFormed])
        | @sent due datagram sending =>
            obtain ⟨header, decoded⟩ :=
              Option.isSome_iff_exists.mp (ledger.wellFormed due datagram sending)
            have shown : observe sentSeq index (state, .flow index .sendOk) = some header.1 := by
              rw [sends]
              simp [sentSeq, sending, decoded]
            refine ledger.step [] ?_ (fun _ => by simp [phase]) (fun _ => ⟨by simp [phase], rfl⟩)
              ?_ ?_ (by simp [Task.wellFormed])
            · rw [counts, delivers]
              exact (List.append_nil _).trans (List.append_nil _).symm
            · rw [counts]
              rfl
            · rw [shown]
              rfl
        | @received since nowMicros seq stamp datagram rest receiving arrived valid =>
            have shown : seqOf datagram = some seq := by simp [seqOf, valid]
            have counted : observe countedSeq index (state, .flow index (.recv nowMicros)) =
                some seq := by
              rw [counts]
              simp [countedSeq, arrived, shown]
            refine ledger.step [] ?_ (fun _ => by simp [phase]) (fun _ => ⟨by simp [phase], rfl⟩)
              ?_ ?_ ledger.wellFormed
            · rw [counted, delivers]
              simp [deliveredSeq, Task.pending, arrived, shown]
            · rw [counted]
              rfl
            · rw [sends]
              rfl
        | @ignored since nowMicros datagram rest receiving arrived invalid =>
            have shown : seqOf datagram = none := by simp [seqOf, invalid]
            refine ledger.quiet (counts.trans ?_) delivers sends ⟨rfl, rfl⟩ ?_ (by simp [phase])
              ledger.wellFormed
            · simp [countedSeq, arrived, shown]
            · simp [Task.pending, arrived, shown]
        | joined =>
            refine ledger.step (socket.queue.filterMap seqOf) ?_ (fun _ => by simp [phase])
              (fun live => absurd rfl live) ?_ ?_ trivial
            · rw [counts, delivers]
              exact List.append_nil _
            · rw [counts]
              rfl
            · rw [sends]
              rfl
        | @delivered datagram =>
            refine ledger.step [] ?_ (fun _ => by simp [phase]) (fun _ => ⟨by simp [phase], rfl⟩)
              ?_ ?_ ledger.wellFormed
            · rw [counts, delivers]
              cases shown : seqOf datagram <;>
                simp [countedSeq, deliveredSeq, Task.pending, List.filterMap_append, shown]
            · rw [counts]
              rfl
            · rw [sends]
              rfl
  · intro trace index now seen run flow ledger
    rw [visitFlow_conn_eq]
    exact ⟨ledger.split, ledger.received, ledger.sent, ledger.wellFormed⟩
  · intro trace entry index now flow foreign ledger
    exact ledger.quiet (observe_foreign foreign) (observe_foreign foreign) (observe_foreign foreign)
      ⟨rfl, rfl⟩ rfl id ledger.wellFormed
  · exact fun _ _ _ _ _ ledger => ledger

/-- The reader counts the valid datagrams in the order they were delivered. -/
theorem counted_prefix_delivered (run : (runUdp config).Run (startUdp config) trace state)
    (index : Nat) :
    observed traffic.counted index trace <+: traffic.delivered index trace := by
  by_cases inside : index < state.flows.length
  · obtain ⟨lost, split, _⟩ := (ledger_of_run run index _ (List.getElem?_eq_getElem inside)).split
    refine ⟨state.flows[index].task.pending ++ lost, ?_⟩
    rw [← List.append_assoc]
    exact split.symm
  · rw [observed_eq_nil_of_absent run (Nat.not_lt.mp inside)]
    exact List.nil_prefix

theorem udpRecv_le_udpSent (run : (runUdp config).Run (startUdp config) trace state) {index : Nat}
    {flow : Flow Task} (present : state.flows[index]? = some flow)
    (attributed : Attributed traffic index trace) : flow.conn.udpRecv ≤ flow.conn.udpSent := by
  have ledger := ledger_of_run run index flow present
  rw [ledger.received, ledger.sent]
  refine attributed.once.length_le_of_subset ?_
  intro seq counted
  obtain ⟨entry, member, shown⟩ := List.mem_filterMap.mp counted
  obtain ⟨position, found⟩ := List.getElem?_of_mem member
  have sent := attributed.earlier position entry found seq shown
  exact ((List.take_sublist position trace).filterMap _).subset sent

end UdpFlow

/-- What a flow counts is what the network delivers to it, so its counts are
attributable in every run whose deliveries echo the flow's own frames, each of
them once. -/
theorem echo_attribution (config : RunConfig) :
    (∀ trace state, (TcpFlow.runTcp config).Run (TcpFlow.startTcp config) trace state →
      ∀ (index : Nat) flow, state.flows[index]? = some flow →
        flow.conn.bytesRecv =
            ((observed TcpFlow.countedFrame index trace).map TcpFlow.frameLen).sum ∧
          (Echoes TcpFlow.traffic index trace → Attributed TcpFlow.traffic index trace)) ∧
      ∀ trace state, (UdpFlow.runUdp config).Run (UdpFlow.startUdp config) trace state →
        ∀ (index : Nat) flow, state.flows[index]? = some flow →
          flow.conn.udpRecv = (observed UdpFlow.countedSeq index trace).length ∧
            (Echoes UdpFlow.traffic index trace →
              Attributed UdpFlow.traffic index trace ∧ flow.conn.udpRecv ≤ flow.conn.udpSent) := by
  constructor
  · intro trace state run index flow present
    refine ⟨TcpFlow.bytesRecv_eq_counted run index flow present, fun echoes => ?_⟩
    exact attributed_of_prefix (fun _ _ run => TcpFlow.counted_prefix_delivered run index) run echoes
  · intro trace state run index flow present
    refine ⟨(UdpFlow.ledger_of_run run index flow present).received, fun echoes => ?_⟩
    have attributed := attributed_of_prefix
      (fun _ _ run => UdpFlow.counted_prefix_delivered run index) run echoes
    exact ⟨attributed, UdpFlow.udpRecv_le_udpSent run present attributed⟩

/-! ### One echo, and echoes that are not the flow's -/

def oneFlow : RunConfig where
  endpoint := "127.0.0.1:9"
  params := { connectionsPerPort := 1, durationSecs := 1, payloadBytes := 1, rampMs := 0 }
  stallSecs := 1

/-- A datagram is sent, and comes back the given number of times. -/
def echoedTimes (times : Nat) : List (RunLabel UdpFlow.Label) :=
  [.flow 0 .wake, .flow 0 .opened, .flow 0 .writerCheck, .flow 0 (.writerTick 7), .flow 0 .sendOk] ++
    (List.replicate times
      [.flow 0 (.deliver (Protocol.encodeUdp 0 7 [0xA5])), .flow 0 (.recv 9)]).flatten

theorem echo_attribution_oneEcho :
    ∃ state flow, (UdpFlow.runUdp oneFlow).play (UdpFlow.startUdp oneFlow) (echoedTimes 1) =
        some state ∧ state.flows[0]? = some flow ∧ flow.conn.udpRecv = 1 ∧
      flow.conn.udpRecv ≤ flow.conn.udpSent := by
  obtain ⟨flow, found, counted⟩ := Option.map_eq_some_iff.mp (show
    (((UdpFlow.runUdp oneFlow).play (UdpFlow.startUdp oneFlow) (echoedTimes 1)).bind
      (fun state => state.flows[0]?)).map (fun flow => flow.conn.udpRecv) = some 1 by decide +kernel)
  obtain ⟨state, played, present⟩ := Option.bind_eq_some_iff.mp found
  have attributed := ((echo_attribution oneFlow).2 _ _ (Machine.run_of_play played) 0 flow present).2
    (by decide +kernel)
  exact ⟨state, flow, played, present, counted, attributed.2⟩

/-- A frame the flow never sent, delivered on its connection. -/
def foreignFrame : List (RunLabel TcpFlow.Label) :=
  [.flow 0 .wake, .flow 0 (.connectOk 100),
    .flow 0 (.peerSend (Protocol.Frame.mk 5 7 [0xA5]).encode), .flow 0 (.read 9)]

/-- The readers count a foreign frame and a duplicated datagram. -/
theorem foreign_and_duplicate_counted :
    (∃ trace state, (TcpFlow.runTcp oneFlow).Run (TcpFlow.startTcp oneFlow) trace state ∧
        observed TcpFlow.traffic.sent 0 trace = [] ∧
        observed TcpFlow.traffic.counted 0 trace = [5] ∧
        ¬Attributed TcpFlow.traffic 0 trace) ∧
      ∃ trace state flow, (UdpFlow.runUdp oneFlow).Run (UdpFlow.startUdp oneFlow) trace state ∧
        state.flows[0]? = some flow ∧ ¬Attributed UdpFlow.traffic 0 trace ∧
        flow.conn.udpSent < flow.conn.udpRecv := by
  constructor
  · obtain ⟨state, played⟩ := Option.isSome_iff_exists.mp (show
      ((TcpFlow.runTcp oneFlow).play (TcpFlow.startTcp oneFlow) foreignFrame).isSome = true
        by decide +kernel)
    refine ⟨_, state, Machine.run_of_play played, by decide +kernel, by decide +kernel, ?_⟩
    intro attributed
    obtain ⟨entry, found, shown⟩ := Option.map_eq_some_iff.mp (show
      (((TcpFlow.runTcp oneFlow).trace (TcpFlow.startTcp oneFlow) foreignFrame)[3]?).map
        (observe TcpFlow.traffic.counted 0) = some (some 5) by decide +kernel)
    have sent := attributed.earlier 3 entry found 5 shown
    have unsent : observed TcpFlow.traffic.sent 0
        (((TcpFlow.runTcp oneFlow).trace (TcpFlow.startTcp oneFlow) foreignFrame).take 3) = [] := by
      decide +kernel
    rw [unsent] at sent
    simp at sent
  · obtain ⟨flow, found, counted⟩ := Option.map_eq_some_iff.mp (show
      (((UdpFlow.runUdp oneFlow).play (UdpFlow.startUdp oneFlow) (echoedTimes 2)).bind
        (fun state => state.flows[0]?)).map (fun flow => (flow.conn.udpSent, flow.conn.udpRecv)) =
          some (1, 2) by decide +kernel)
    obtain ⟨state, played, present⟩ := Option.bind_eq_some_iff.mp found
    obtain ⟨sent, received⟩ := Prod.mk.inj counted
    refine ⟨_, state, flow, Machine.run_of_play played, present, ?_, by omega⟩
    intro attributed
    have once := attributed.once
    have twice : observed UdpFlow.traffic.counted 0
        ((UdpFlow.runUdp oneFlow).trace (UdpFlow.startUdp oneFlow) (echoedTimes 2)) = [0, 0] := by
      decide +kernel
    rw [twice] at once
    simp at once

end Npt.Ci.Client
