import Npt.System.Agreement
import Npt.System.TransferStages

/-!
Contract: what a client that stops early leaves on the server's record.

Only the server of a download can be left with chunks to send, and it records an
error when it cannot send one of them.

Owns: what has become of a transfer after any steps, and when the server records
an error.

Does not own: how the two sides stand to each other meanwhile.
-/

namespace Npt.System

open Npt.Core
open Npt.Shared
open Npt.Client
open Npt.Server.TcpServer (Serving Stage Continuation Blamed not_blamed_of_faultless)

/-! ## The story of a transfer -/

/-- The server has refused a chunk, or will. -/
def Refuses (session : Session) : Prop :=
  session.downstream.inFlight = [] ∧
    (session.server.stage = .returned ∨
      ∃ frame expectedSize bytesReceived, session.upstream.inFlight = [frame] ∧
        messageLimit < frame.length ∧
        session.server.stage = .receivingChunk expectedSize bytesReceived)

/-- What has become of a transfer after some steps. -/
inductive Story (sessionId : Uuid) (call : TcpCall) (server : SocketAddr)
    (trace : List (StoppableSession × StopLabel)) (state : StoppableSession) : Prop where
  | waiting {exchange : Exchange} {stage : Stage} {up down : Channel Message}
      (facing : Facing call server state.session (some exchange) stage up down)
      (stands : Stands sessionId call.activity (some exchange) stage up.inFlight down.inFlight)
      (stays : ∀ entry ∈ trace, ¬Leaves entry) : Story sessionId call server trace state
  | left {stage : Stage} {up down : Channel Message}
      (facing : Facing call server state.session none stage up down)
      (stands : Stands sessionId call.activity none stage up.inFlight down.inFlight)
      (early : (∃ entry ∈ trace, LeavesEarly entry) ↔ Overruns stage down.inFlight) :
      Story sessionId call server trace state
  /-- A send of the server has failed. -/
  | cut (client : state.session.client = .returned)
      (returned : state.session.server.stage = .returned)
      (blamed : Blamed state.session.server.metrics state.session.server.connectionId)
      (ended : state.session.server.metrics.Ended state.session.server.connectionId)
      (downloads : Downloads call.activity) (early : ∃ entry ∈ trace, LeavesEarly entry) :
      Story sessionId call server trace state
  /-- The client waits for the acknowledgement of a chunk that is too long. -/
  | refused {bytes sequence size : UInt64}
      (client : state.session.client =
        clientAt call server (some (.receiveChunkAck bytes sequence size)))
      (refuses : Refuses state.session) : Story sessionId call server trace state
  | panicked {peer : SocketAddr} {id : Uuid} (client : state.session.client = .panicked peer id) :
      Story sessionId call server trace state

section Steps

variable {encodedLength : Message → Nat → Nat} {sessionId : Uuid} {call : TcpCall}
  {server : SocketAddr} {trace : List (StoppableSession × StopLabel)}
  {state : StoppableSession} {next : Session} {wait : Option Exchange} {exchange : Exchange}
  {stage : Stage} {up down : Channel Message} {label : SessionLabel} {stopLabel : StopLabel}

theorem dropped_of_facing (facing : Facing call server state.session wait stage up down) :
    state.dropped = wait.isNone := by
  rw [StoppableSession.dropped, facing.client]
  cases wait <;> rfl

/-! ### Leaving -/

theorem not_leaves_of_wait (facing : Facing call server state.session wait stage up down)
    (busy : wait ≠ some .sendClose) : ¬Leaves (state, stopLabel) := by
  rintro ⟨⟨_, _, closes⟩, _⟩
  exact busy (facing.waits_of_clientWait closes).1

theorem not_leaves_of_turn (other : label.turn ≠ .clientSends) : ¬Leaves (state, .move label) := by
  rintro ⟨_, _, same, turn⟩
  obtain rfl := StopLabel.move.inj same
  exact other turn

theorem stays_snoc (stays : ∀ entry ∈ trace, ¬Leaves entry) (here : ¬Leaves (state, stopLabel)) :
    ∀ entry ∈ trace ++ [(state, stopLabel)], ¬Leaves entry := by
  intro entry member
  rcases List.mem_append.mp member with earlier | last
  · exact stays entry earlier
  · rw [List.mem_singleton.mp last]
    exact here

theorem early_snoc (here : ¬Leaves (state, stopLabel)) :
    (∃ entry ∈ trace ++ [(state, stopLabel)], LeavesEarly entry) ↔
      ∃ entry ∈ trace, LeavesEarly entry := by
  have other : ¬LeavesEarly (state, stopLabel) := fun early => here early.1
  simp [or_and_right, exists_or, other]

/-- The client leaves once, so early exactly if it leaves early now. -/
theorem early_leaving (stays : ∀ entry ∈ trace, ¬Leaves entry)
    (facing : Facing call server state.session (some .sendClose) stage up down)
    (turn : label.turn = .clientSends) :
    (∃ entry ∈ trace ++ [(state, .move label)], LeavesEarly entry) ↔
      Overruns stage down.inFlight := by
  have leaves : Leaves (state, .move label) :=
    ⟨⟨_, _, facing.clientWait⟩, label, rfl, turn⟩
  have before : ¬∃ entry ∈ trace, LeavesEarly entry :=
    fun ⟨entry, member, early⟩ => stays entry member early.1
  have now : LeavesEarly (state, .move label) ↔ Overruns stage down.inFlight := by
    rw [LeavesEarly, facing.stage, facing.down]
    exact and_iff_right leaves
  simp only [List.mem_append, or_and_right, exists_or, List.mem_singleton, exists_eq_left]
  rw [or_iff_right before, now]

/-! ### Before the client leaves -/

/-- A chunk that is too long is refused. -/
theorem refused_of_sent {bytes sequence size : UInt64}
    (facing : Facing call server state.session (some (.sendChunk bytes sequence size))
      (.receivingChunk (fileSize call.activity) bytes) up down)
    (noneUp : up.inFlight = []) (noneDown : down.inFlight = [])
    (long : ¬encodedLength (uploadChunk sessionId sequence size.toNat) label.stamp ≤ messageLimit)
    (turn : label.turn = .clientSends)
    (taken : state.session.step encodedLength sessionId label = some next) :
    Story sessionId call server trace { state with session := next } := by
  have emptyUp : state.session.upstream.inFlight = [] := by
    rw [← facing.up] at noneUp
    exact List.map_eq_nil_iff.mp noneUp
  have emptyDown : state.session.downstream.inFlight = [] := by
    rw [← facing.down] at noneDown
    exact List.map_eq_nil_iff.mp noneDown
  have shape : next.client = clientAt call server (some (.receiveChunkAck bytes sequence size)) ∧
      next.server = state.session.server ∧ next.downstream = state.session.downstream ∧
      next.upstream = state.session.upstream.send
        ⟨uploadChunk sessionId sequence size.toNat,
          encodedLength (uploadChunk sessionId sequence size.toNat) label.stamp⟩ := by
    simp only [Session.step, turn, facing.clientWait] at taken
    obtain rfl := Option.some.inj taken
    exact ⟨rfl, rfl, rfl, rfl⟩
  obtain ⟨client, serving, downstream, upstream⟩ := shape
  have sentUp : next.upstream.inFlight = [⟨uploadChunk sessionId sequence size.toNat,
      encodedLength (uploadChunk sessionId sequence size.toNat) label.stamp⟩] := by
    rw [upstream, Channel.send, emptyUp, List.nil_append]
  exact .refused client ⟨downstream ▸ emptyDown, Or.inr
    ⟨_, _, _, sentUp, Nat.not_le.mp long, serving ▸ facing.stage⟩⟩

theorem story_clientSends (transfer : afterConnection call = .returned)
    (compact : ∀ message stamp, encodedLength message stamp ≤ 2 * message.payload.length + 1024)
    (facing : Facing call server state.session (some exchange) stage up down)
    (stands : Stands sessionId call.activity (some exchange) stage up.inFlight down.inFlight)
    (stays : ∀ entry ∈ trace, ¬Leaves entry) (turn : label.turn = .clientSends)
    (taken : state.session.step encodedLength sessionId label = some next) :
    Story sessionId call server (trace ++ [(state, .move label)])
      { state with session := next } := by
  -- Of the serialiser only the length of this message matters.
  have same : state.session.step (fun message _ => encodedLength message label.stamp) sessionId
      label = some next := by
    simp only [Session.step, turn] at taken ⊢
    exact taken
  have small : ∀ message : Message, message.payload.length ≤ 65536 →
      Fitting (fun message _ => encodedLength message label.stamp) message := fun message short =>
    fitting_of_short (fun message _ => compact message label.stamp) short
  obtain ⟨_, message, waits, sends, closing | onward⟩ := facing.clientSends_cases transfer turn same
  · obtain ⟨rfl, moved⟩ := closing
    obtain rfl := Option.some.inj waits
    obtain rfl := Option.some.inj sends
    exact .left (moved (small _ (by simp [closeMessage]))) (stands_clientClosed stands rfl)
      (early_leaving stays facing turn)
  · obtain ⟨effects, after, length, goesOn, moved⟩ := onward
    obtain rfl := Option.some.inj waits
    have quiet : ¬Leaves (state, .move label) := by
      refine not_leaves_of_wait facing (fun closing => ?_)
      obtain rfl := Option.some.inj closing
      simp [afterSend] at goesOn
    by_cases fits : encodedLength message label.stamp ≤ messageLimit
    · exact .waiting (moved (fun _ => fits)) (stands_clientSent stands sends goesOn)
        (stays_snoc stays quiet)
    · rcases short_or_chunk stands sends goesOn with
        short | ⟨bytes, sequence, size, rfl, rfl, noneUp, noneDown⟩
      · exact absurd (small message short 0) fits
      · obtain rfl := Option.some.inj sends
        exact refused_of_sent facing noneUp noneDown fits turn taken

theorem story_clientReceives
    (facing : Facing call server state.session (some exchange) stage up down)
    (stands : Stands sessionId call.activity (some exchange) stage up.inFlight down.inFlight)
    (stays : ∀ entry ∈ trace, ¬Leaves entry) (turn : label.turn = .clientReceives)
    (taken : state.move encodedLength sessionId label = some next) :
    Story sessionId call server (trace ++ [(state, .move label)])
      { state with session := next } := by
  simp only [StoppableSession.move, turn] at taken
  obtain ⟨⟨waiting, peer, _⟩, waits, taken⟩ := Option.bind_eq_some_iff.mp taken
  obtain ⟨⟨frame, rest⟩, arrived, taken⟩ := Option.bind_eq_some_iff.mp taken
  obtain ⟨⟨effects, outcome⟩, goesOn, taken⟩ := Option.bind_eq_some_iff.mp taken
  obtain rfl := Option.some.inj taken
  obtain ⟨same, shown, after, received, panics, moved⟩ :=
    facing.clientReceives_cases waits arrived goesOn
  obtain rfl := Option.some.inj same
  rw [Channel.inFlight_of_receive? shown] at stands
  cases after with
  | none => exact .panicked (panics rfl)
  | some after =>
      exact .waiting (moved rfl) (stands_clientReceived stands received)
        (stays_snoc stays (not_leaves_of_turn (by simp [turn])))

theorem story_serverReceives
    (facing : Facing call server state.session (some exchange) stage up down)
    (stands : Stands sessionId call.activity (some exchange) stage up.inFlight down.inFlight)
    (stays : ∀ entry ∈ trace, ¬Leaves entry) (turn : label.turn = .serverReceives)
    (taken : state.session.step encodedLength sessionId label = some next) :
    Story sessionId call server (trace ++ [(state, .move label)])
      { state with session := next } := by
  obtain ⟨message, rest, after, arrived, handles, moved⟩ := facing.serverReceives_cases turn taken
  rw [Channel.inFlight_of_receive? arrived] at stands
  exact .waiting moved (stands_serverReceived facing.stage stands handles).1
    (stays_snoc stays (not_leaves_of_turn (by simp [turn])))

theorem story_serverSends
    (compact : ∀ message stamp, encodedLength message stamp ≤ 2 * message.payload.length + 1024)
    (facing : Facing call server state.session (some exchange) stage up down)
    (stands : Stands sessionId call.activity (some exchange) stage up.inFlight down.inFlight)
    (stays : ∀ entry ∈ trace, ¬Leaves entry) (turn : label.turn = .serverSends)
    (taken : state.session.step encodedLength sessionId label = some next) :
    Story sessionId call server (trace ++ [(state, .move label)])
      { state with session := next } := by
  obtain ⟨reply, counted, goes, after, rfl, handles, moved⟩ := facing.serverSends_cases turn taken
  obtain ⟨onward, short, _⟩ := stands_serverSent facing.stage stands handles
  exact .waiting (moved (fitting_of_short compact short)) onward
    (stays_snoc stays (not_leaves_of_turn (by simp [turn])))

/-! ### After the client has left -/

theorem story_serverEnds
    (facing : Facing call server state.session none stage up down)
    (stands : Stands sessionId call.activity none stage up.inFlight down.inFlight)
    (early : (∃ entry ∈ trace, LeavesEarly entry) ↔ Overruns stage down.inFlight)
    (turn : label.turn = .serverReceives)
    (taken : state.move encodedLength sessionId label = some next) :
    Story sessionId call server (trace ++ [(state, .move label)])
      { state with session := next } := by
  have quiet : ¬Leaves (state, .move label) := not_leaves_of_turn (by simp [turn])
  simp only [StoppableSession.move, turn, dropped_of_facing facing] at taken
  by_cases read : state.session.upstream.inFlight = []
  · -- The end of the stream is read where the upload loop has dropped the close message.
    have empty : up.inFlight = [] := by
      rw [← facing.up, Session.upMessages, Channel.map, read, List.map_nil]
    rw [if_pos ⟨rfl, read⟩] at taken
    obtain ⟨serving, handles, rfl⟩ := Option.map_eq_some_iff.mp taken
    rw [empty] at stands
    generalize unread : down.inFlight = queued at stands early
    cases stands with
    | parted =>
        have quietly : contains (toLowercase "early eof") "eof" = true := by decide
        simp only [Serving.step, facing.stage] at handles
        have same := Option.some.inj handles
        have clean : serving.Clean :=
          same ▸ Serving.clean_disconnect label.now facing.clean.faultless quietly
        have returned : serving.stage = .returned := same ▸ Serving.stage_disconnect ..
        have done : Facing call server { state.session with server := serving } none .returned up
            down :=
          ⟨facing.client, returned, facing.up, facing.down, facing.upFits, facing.downFits, clean⟩
        refine .left done (by rw [empty]; exact .finished) ?_
        rw [early_snoc quiet, early]
        simp [Overruns]
    | finished => simp [Serving.step, facing.stage] at handles
  · rw [if_neg (by simp [read])] at taken
    obtain ⟨message, rest, after, arrived, handles, moved⟩ := facing.serverReceives_cases turn taken
    rw [Channel.inFlight_of_receive? arrived] at stands
    obtain ⟨onward, calm⟩ := stands_serverReceived facing.stage stands handles
    refine .left moved onward ?_
    have before : ¬Overruns stage down.inFlight := by
      intro overruns
      obtain ⟨reply, counted, goes, rfl⟩ := sending_of_overruns overruns
      exact stage_ne_sending handles facing.stage
    rw [early_snoc quiet, early, iff_false_intro before, iff_false_intro (calm rfl)]

theorem story_serverSpeaks
    (compact : ∀ message stamp, encodedLength message stamp ≤ 2 * message.payload.length + 1024)
    (facing : Facing call server state.session none stage up down)
    (stands : Stands sessionId call.activity none stage up.inFlight down.inFlight)
    (early : (∃ entry ∈ trace, LeavesEarly entry) ↔ Overruns stage down.inFlight)
    (turn : label.turn = .serverSends)
    (taken : state.move encodedLength sessionId label = some next) :
    Story sessionId call server (trace ++ [(state, .move label)])
      { state with session := next } := by
  have quiet : ¬Leaves (state, .move label) := not_leaves_of_turn (by simp [turn])
  simp only [StoppableSession.move, turn, dropped_of_facing facing] at taken
  by_cases read : state.session.downstream.inFlight = []
  · have empty : down.inFlight = [] := by
      rw [← facing.down, Session.downMessages, Channel.map, read, List.map_nil]
    rw [if_neg (by simp [read])] at taken
    obtain ⟨reply, counted, goes, after, rfl, handles, moved⟩ := facing.serverSends_cases turn taken
    obtain ⟨onward, short, overruns⟩ := stands_serverSent facing.stage stands handles
    refine .left (moved (fitting_of_short compact short)) onward ?_
    rw [early_snoc quiet, early, Channel.send, empty]
    exact (overruns rfl).symm
  · -- Something is unread, so nothing can be sent any more.
    have unread : down.inFlight ≠ [] := by
      rw [← facing.down, Session.downMessages, Channel.map]
      simpa using read
    rw [if_pos ⟨rfl, read⟩] at taken
    obtain ⟨serving, handles, rfl⟩ := Option.map_eq_some_iff.mp taken
    obtain ⟨⟨reply, counted, goes, sending⟩, rfl⟩ := Serving.failed_of_sendFailed handles
    have overruns := overruns_of_unread stands (facing.stage.symm.trans sending) unread
    exact .cut facing.client (Serving.stage_fail ..)
      (Serving.blamed_fail label.now facing.clean.faultless)
      (Serving.ended_fail label.now facing.clean.faultless)
      (downloads_of_overruns stands overruns) ((early_snoc quiet).mpr (early.mpr overruns))

/-! ### Otherwise -/

/-- A client whose chunk is refused waits for good. -/
theorem refuses_of_move {bytes sequence size : UInt64}
    (client : state.session.client =
      clientAt call server (some (.receiveChunkAck bytes sequence size)))
    (refuses : Refuses state.session) (taken : state.move encodedLength sessionId label = some next) :
    next.client = state.session.client ∧ Refuses next := by
  have waits : state.session.clientWait =
      some ({ call with stage := .streaming server (.receiveChunkAck bytes sequence size) }, server,
        .receiveChunkAck bytes sequence size) := by
    rw [Session.clientWait, client]
    rfl
  have stays : state.dropped = false := by
    rw [StoppableSession.dropped, client]
    rfl
  obtain ⟨empty, either⟩ := refuses
  cases turn : label.turn with
  | clientSends =>
      simp [StoppableSession.move, Session.step, turn, waits, outgoing] at taken
  | clientReceives => simp [StoppableSession.move, turn, Channel.receive?, empty] at taken
  | serverReceives =>
      rcases either with returned | ⟨frame, expectedSize, bytesReceived, here, long, stage⟩
      · simp [no_serverStep returned (Or.inl turn)] at taken
      · have arrives : state.session.upstream.receive? =
            some (frame, ⟨state.session.upstream.delivered ++ [frame], []⟩) := by
          rw [Channel.receive?, here]
        have refused : Session.serverArrival frame label.draw label.latency label.now =
            .receiveFailed s!"Message too large: {frame.length} bytes" label.now :=
          if_neg (Nat.not_le.mpr long)
        simp only [StoppableSession.move, turn, stays, Bool.false_eq_true, false_and, if_false,
          Session.step, arrives, Option.bind_eq_bind, Option.bind_some] at taken
        obtain ⟨serving, handles, taken⟩ := Option.bind_eq_some_iff.mp taken
        obtain rfl := Option.some.inj taken
        simp only [refused, Serving.step, stage] at handles
        obtain rfl := Option.some.inj handles
        exact ⟨rfl, empty, Or.inl (Serving.stage_fail ..)⟩
  | serverSends =>
      rcases either with returned | ⟨frame, expectedSize, bytesReceived, here, long, stage⟩
      · simp [no_serverStep returned (Or.inr turn)] at taken
      · simp [StoppableSession.move, Session.step, turn, stays, stage] at taken

/-- One step of a story. -/
theorem story_of_move (transfer : afterConnection call = .returned)
    (compact : ∀ message stamp, encodedLength message stamp ≤ 2 * message.payload.length + 1024)
    (story : Story sessionId call server trace state)
    (taken : state.move encodedLength sessionId label = some next) :
    Story sessionId call server (trace ++ [(state, .move label)])
      { state with session := next } := by
  cases story with
  | waiting facing stands stays =>
      have busy := dropped_of_facing facing
      cases turn : label.turn with
      | clientSends =>
          simp only [StoppableSession.move, turn] at taken
          exact story_clientSends transfer compact facing stands stays turn taken
      | clientReceives => exact story_clientReceives facing stands stays turn taken
      | serverReceives =>
          simp only [StoppableSession.move, turn, busy, Option.isNone_some, Bool.false_eq_true,
            false_and, if_false] at taken
          exact story_serverReceives facing stands stays turn taken
      | serverSends =>
          simp only [StoppableSession.move, turn, busy, Option.isNone_some, Bool.false_eq_true,
            false_and, if_false] at taken
          exact story_serverSends compact facing stands stays turn taken
  | left facing stands early =>
      have waits := facing.clientWait
      cases turn : label.turn with
      | clientSends => simp [no_clientStep waits (Or.inl turn)] at taken
      | clientReceives => simp [no_clientStep waits (Or.inr turn)] at taken
      | serverReceives => exact story_serverEnds facing stands early turn taken
      | serverSends => exact story_serverSpeaks compact facing stands early turn taken
  | cut client returned blamed ended downloads early =>
      have waits : state.session.clientWait = none := by rw [Session.clientWait, client]
      cases turn : label.turn with
      | clientSends => simp [no_clientStep waits (Or.inl turn)] at taken
      | clientReceives => simp [no_clientStep waits (Or.inr turn)] at taken
      | serverReceives => simp [no_serverStep returned (Or.inl turn)] at taken
      | serverSends => simp [no_serverStep returned (Or.inr turn)] at taken
  | refused client refuses =>
      obtain ⟨same, still⟩ := refuses_of_move client refuses taken
      exact .refused (same.trans client) still
  | panicked client =>
      have waits : state.session.clientWait = none := by rw [Session.clientWait, client]
      cases turn : label.turn with
      | clientSends => simp [no_clientStep waits (Or.inl turn)] at taken
      | clientReceives => simp [no_clientStep waits (Or.inr turn)] at taken
      | serverReceives =>
          exact .panicked ((client_of_serverStep (Or.inl turn) taken).trans client)
      | serverSends => exact .panicked ((client_of_serverStep (Or.inr turn) taken).trans client)

/-- The flag says nothing yet. -/
theorem story_of_stop (story : Story sessionId call server trace state) :
    Story sessionId call server (trace ++ [(state, .stop)]) { state with stopped := true } := by
  have quiet : ¬Leaves (state, .stop) := by
    rintro ⟨_, _, same, _⟩
    cases same
  cases story with
  | waiting facing stands stays => exact .waiting facing stands (stays_snoc stays quiet)
  | left facing stands early => exact .left facing stands ((early_snoc quiet).trans early)
  | cut client returned blamed ended downloads early =>
      exact .cut client returned blamed ended downloads ((early_snoc quiet).mpr early)
  | refused client refuses => exact .refused client refuses
  | panicked client => exact .panicked client

theorem story_of_step (transfer : afterConnection call = .returned)
    (compact : ∀ message stamp, encodedLength message stamp ≤ 2 * message.payload.length + 1024)
    (story : Story sessionId call server trace state) {after : StoppableSession}
    (taken : state.step encodedLength sessionId stopLabel = some after) :
    Story sessionId call server (trace ++ [(state, stopLabel)]) after := by
  cases stopLabel with
  | stop =>
      simp only [StoppableSession.step] at taken
      split at taken
      · cases taken
      · obtain rfl := Option.some.inj taken
        exact story_of_stop story
  | move label =>
      obtain ⟨next, moved, rfl⟩ := Option.map_eq_some_iff.mp taken
      exact story_of_move transfer compact story moved

/-- What a story says of its end. -/
theorem Story.ended (story : Story sessionId call server trace state) (finished : state.session.Over) :
    state.session.server.metrics.Ended state.session.server.connectionId ∧
      (state.session.server.metrics.errorCount state.session.server.connectionId = some 0 ↔
        ∀ entry ∈ trace, ¬LeavesEarly entry) ∧
      ((∃ entry ∈ trace, LeavesEarly entry) → Downloads call.activity) := by
  obtain ⟨returned, handled⟩ := finished
  cases story with
  | waiting facing _ _ => simp [facing.client, clientAt] at returned
  | left facing stands early =>
      refine ⟨facing.clean.ended handled, ?_, fun some => downloads_of_overruns stands (early.mp some)⟩
      rw [← MetricsCollector.faultless_iff]
      refine iff_of_true facing.clean.faultless (fun entry member leaves => ?_)
      have overruns := early.mp ⟨entry, member, leaves⟩
      rw [← facing.stage, handled] at overruns
      exact overruns
  | cut _ _ blamed ended downloads early =>
      obtain ⟨entry, member, leaves⟩ := early
      refine ⟨ended, iff_of_false (fun none => ?_) (fun all => all entry member leaves),
        fun _ => downloads⟩
      exact not_blamed_of_faultless ((MetricsCollector.faultless_iff _ _).mpr none) blamed
  | refused client _ => simp [client, clientAt] at returned
  | panicked client => simp [client] at returned

end Steps

/-- A transfer right after the server accepted the client's connection. -/
def beginStoppable (call : TcpCall) (server : SocketAddr) (connectionId : Uuid)
    (metrics : MetricsCollector) (now : Nat) (stopped : Bool) : StoppableSession :=
  ⟨Session.begin call server connectionId metrics now, stopped⟩

theorem story_begin (sessionId : Uuid) (server : SocketAddr) (connectionId : Uuid)
    (metrics : MetricsCollector) (now : Nat) (stopped : Bool) {call : TcpCall} {size : UInt64}
    {range : UInt32 × UInt32}
    (transfer : call.activity = .fileDownload size range ∨ call.activity = .fileUpload size range) :
    Story sessionId call server [] (beginStoppable call server connectionId metrics now stopped) := by
  have facing : Facing call server (Session.begin call server connectionId metrics now)
      (some (firstExchange call.activity)) .receiving {} {} :=
    ⟨rfl, rfl, rfl, rfl, by simp [Session.begin], by simp [Session.begin],
      Serving.clean_accept now connectionId metrics⟩
  refine .waiting facing ?_ (by simp)
  rcases transfer with activity | activity
  · have first : firstExchange call.activity = .sendDownloadRequest := by rw [activity]; rfl
    rw [first]
    exact .downloading ⟨size, range, activity⟩
  · have first : firstExchange call.activity = .sendUploadRequest := by rw [activity]; rfl
    rw [first]
    exact .uploading

/-- The server drops the close message and reads the end of the stream. -/
def stoppedUpload : List StopLabel :=
  let turn (turn : Turn) : StopLabel := .move ⟨turn, 0, 0, 0, 0⟩
  [turn .clientSends, turn .serverReceives, turn .serverSends, turn .clientReceives,
    turn .clientSends, turn .serverReceives, .stop, turn .serverSends, turn .clientReceives,
    turn .clientSends, turn .serverReceives, turn .serverReceives]

def uploadBegun : StoppableSession :=
  beginStoppable (smallCall (.fileUpload 5 (2, 3))) ⟨"127.0.0.1:8080"⟩ ⟨3⟩ {} 0 false

/-- The client leaves while the server sends the second of three chunks; the third
cannot be sent any more. -/
def stoppedDownload : List StopLabel :=
  let turn (turn : Turn) : StopLabel := .move ⟨turn, 0, 0, 0, 0⟩
  [turn .clientSends, turn .serverReceives, turn .serverSends, .stop, turn .clientReceives,
    turn .clientSends, turn .serverSends, turn .serverSends]

def downloadBegun : StoppableSession :=
  beginStoppable (smallCall (.fileDownload 8193 (2, 3))) ⟨"127.0.0.1:8080"⟩ ⟨3⟩ {} 0 false

def downloadStopped : StoppableSession :=
  ((stopMachine packedLength ⟨2⟩).play downloadBegun stoppedDownload).get (by decide +kernel)

end Npt.System
