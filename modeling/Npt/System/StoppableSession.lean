import Npt.Server.Returning
import Npt.System.TransferSession

/-!
Contract: a transfer whose client may stop early.

The client looks at its stop flag behind every chunk; then it sends its close
message and drops its stream. The server reads what was sent to it before, and
after that the end of the stream. Once the client has dropped a stream with data
it has not read, the server can send nothing more. A `send_message` is one step, and
so is the close message with the drop behind it: a chunk that the server had written
in part when the client left is not modelled.

Owns: the transfer with its stop flag, what it is to leave early, and that a
server whose client has returned comes to its end.

Does not own: a client that fails.
-/

namespace Npt.System

open Npt.Core
open Npt.Shared
open Npt.Client
open Npt.Server.TcpServer (Serving Stage Continuation Blamed weight not_blamed_of_faultless)

/-! ## The machine -/

structure StoppableSession where
  session : Session
  stopped : Bool := false

inductive StopLabel where
  /-- The stop flag becomes true. -/
  | stop
  | move (label : SessionLabel)
deriving DecidableEq, Repr

namespace StoppableSession

variable (encodedLength : Message → Nat → Nat) (sessionId : Uuid)

/-- The client has left its function and its stream. -/
def dropped (state : StoppableSession) : Bool :=
  match state.session.client with
  | .running _ => false
  | .returned | .panicked _ _ => true

/-- One step of either side. What the client sends does not depend on its flag. -/
def move (state : StoppableSession) (label : SessionLabel) : Option Session :=
  let session := state.session
  match label.turn with
  | .clientSends => session.step encodedLength sessionId label
  | .clientReceives => do
      let (call, server, exchange) ← session.clientWait
      let (frame, rest) ← session.downstream.receive?
      let next ← streamStep state.stopped call server exchange
        (Session.clientArrival frame label.latency label.draw)
      some { session with
        client := next.2, effects := session.effects ++ next.1, downstream := rest }
  | .serverReceives =>
      if state.dropped = true ∧ session.upstream.inFlight = [] then
        (session.server.step (.receiveFailed "early eof" label.now)).map
          (fun next => { session with server := next })
      else session.step encodedLength sessionId label
  | .serverSends =>
      if state.dropped = true ∧ session.downstream.inFlight ≠ [] then
        (session.server.step (.sendFailed "Connection reset by peer" label.now)).map
          (fun next => { session with server := next })
      else session.step encodedLength sessionId label

def step (state : StoppableSession) : StopLabel → Option StoppableSession
  | .stop => if state.stopped then none else some { state with stopped := true }
  | .move label =>
      (state.move encodedLength sessionId label).map (fun session =>
        { state with session := session })

end StoppableSession

def stopMachine (encodedLength : Message → Nat → Nat) (sessionId : Uuid) :
    Machine StoppableSession StopLabel where
  step := StoppableSession.step encodedLength sessionId

/-! ## Leaving early -/

/-- A server at this stage has a chunk to send that it cannot send: another one
goes before it, or something is unread. -/
def Overruns (stage : Stage) (unread : List Message) : Prop :=
  match stage with
  | .sending _ _ (.download fileSize bytesSent _ _) => bytesSent < fileSize ∨ unread ≠ []
  | _ => False

instance (stage : Stage) (unread : List Message) : Decidable (Overruns stage unread) := by
  unfold Overruns
  split <;> infer_instance

/-- The client sends its close message and drops its stream. -/
def Leaves (entry : StoppableSession × StopLabel) : Prop :=
  (∃ call server, entry.1.session.clientWait = some (call, server, .sendClose)) ∧
    ∃ label, entry.2 = .move label ∧ label.turn = .clientSends

/-- The client leaves a server that has chunks to send. -/
def LeavesEarly (entry : StoppableSession × StopLabel) : Prop :=
  Leaves entry ∧
    Overruns entry.1.session.server.stage entry.1.session.downMessages.inFlight

theorem sending_of_overruns {stage : Stage} {unread : List Message} (overruns : Overruns stage unread) :
    ∃ reply counted goes, stage = .sending reply counted goes := by
  unfold Overruns at overruns
  split at overruns
  · exact ⟨_, _, _, rfl⟩
  · exact overruns.elim

/-! ## What a step can do -/

section Steps

variable {encodedLength : Message → Nat → Nat} {sessionId : Uuid} {state after : StoppableSession}
  {next : Session} {label : SessionLabel} {stopLabel : StopLabel}

/-- A client that has returned or panicked takes no step. -/
theorem no_clientStep (waits : state.session.clientWait = none)
    (turn : label.turn = .clientSends ∨ label.turn = .clientReceives) :
    state.move encodedLength sessionId label = none := by
  rcases turn with turn | turn <;> simp [StoppableSession.move, Session.step, turn, waits]

/-- A server that has returned takes no step. -/
theorem no_serverStep (returned : state.session.server.stage = .returned)
    (turn : label.turn = .serverReceives ∨ label.turn = .serverSends) :
    state.move encodedLength sessionId label = none := by
  have none (ends : Npt.Server.TcpServer.Label) : state.session.server.step ends = none := by
    cases ends <;> simp [Serving.step, returned]
  rcases turn with turn | turn <;>
    simp [StoppableSession.move, Session.step, turn, none, returned]

/-- What a read of the server finds: the end of a stream that was dropped, or a frame. -/
theorem reads_cases (turn : label.turn = .serverReceives)
    (taken : state.move encodedLength sessionId label = some next) :
    (∃ serving, state.session.server.step (.receiveFailed "early eof" label.now) = some serving ∧
      next = { state.session with server := serving }) ∨
    ∃ frame rest serving, state.session.upstream.receive? = some (frame, rest) ∧
      state.session.server.step (Session.serverArrival frame label.draw label.latency label.now) =
        some serving ∧
      next = { state.session with server := serving, upstream := rest } := by
  simp only [StoppableSession.move, turn] at taken
  split at taken
  · obtain ⟨serving, handles, rfl⟩ := Option.map_eq_some_iff.mp taken
    exact Or.inl ⟨serving, handles, rfl⟩
  · simp only [Session.step, turn] at taken
    obtain ⟨⟨frame, rest⟩, arrived, taken⟩ := Option.bind_eq_some_iff.mp taken
    obtain ⟨serving, handles, taken⟩ := Option.bind_eq_some_iff.mp taken
    exact Or.inr ⟨frame, rest, serving, arrived, handles, (Option.some.inj taken).symm⟩

/-- What becomes of a reply of the server: it fails, or is sent. -/
theorem sends_cases (turn : label.turn = .serverSends)
    (taken : state.move encodedLength sessionId label = some next) :
    (∃ serving,
      state.session.server.step (.sendFailed "Connection reset by peer" label.now) = some serving ∧
      next = { state.session with server := serving }) ∨
    ∃ downstream serving, state.session.server.step (.sent label.draw label.latency) = some serving ∧
      next = { state.session with server := serving, downstream := downstream } := by
  simp only [StoppableSession.move, turn] at taken
  split at taken
  · obtain ⟨serving, handles, rfl⟩ := Option.map_eq_some_iff.mp taken
    exact Or.inl ⟨serving, handles, rfl⟩
  · simp only [Session.step, turn] at taken
    split at taken
    · obtain ⟨serving, handles, taken⟩ := Option.bind_eq_some_iff.mp taken
      exact Or.inr ⟨_, serving, handles, (Option.some.inj taken).symm⟩
    · cases taken

theorem client_of_serverStep (turn : label.turn = .serverReceives ∨ label.turn = .serverSends)
    (taken : state.move encodedLength sessionId label = some next) :
    next.client = state.session.client := by
  rcases turn with turn | turn
  · rcases reads_cases turn taken with ⟨_, _, rfl⟩ | ⟨_, _, _, _, _, rfl⟩ <;> rfl
  · rcases sends_cases turn taken with ⟨_, _, rfl⟩ | ⟨_, _, _, rfl⟩ <;> rfl

/-! ## The end of the connection -/

/-- A bound on the steps that are left once the client has returned. -/
def rank (state : StoppableSession) : Nat :=
  state.session.upstream.inFlight.length * (2 ^ 64 + 2) + weight state.session.server.stage +
    if state.stopped then 0 else 1

/-- A read takes a message from the stream, or ends the connection. -/
theorem rank_of_read (taken : state.move encodedLength sessionId label = some next)
    (turn : label.turn = .serverReceives) : rank { state with session := next } < rank state := by
  rcases reads_cases turn taken with
    ⟨serving, handles, rfl⟩ | ⟨frame, rest, serving, arrived, handles, rfl⟩
  · obtain ⟨waits, returned⟩ := Serving.returned_of_receiveFailed handles
    have none : weight serving.stage = 0 := by rw [returned]; rfl
    simp only [rank, waits, none]
    omega
  · have waits : weight state.session.server.stage = 1 := by
      simp only [Session.serverArrival] at handles
      split at handles
      · exact Serving.weight_of_received handles
      · exact (Serving.returned_of_receiveFailed handles).1
    have small := Serving.weight_lt serving.stage
    simp only [rank, waits, Channel.inFlight_of_receive? arrived, List.length_cons]
    omega

/-- A reply leaves less to be sent, or ends the connection. -/
theorem rank_of_sent (taken : state.move encodedLength sessionId label = some next)
    (turn : label.turn = .serverSends) : rank { state with session := next } < rank state := by
  rcases sends_cases turn taken with ⟨serving, handles, rfl⟩ | ⟨_, serving, handles, rfl⟩
  · have fewer := Serving.weight_of_sendFailed handles
    simp only [rank]
    omega
  · have fewer := Serving.weight_of_sent handles
    simp only [rank]
    omega

/-- A server that waits for a message of a client that has left gets one, or the end. -/
theorem reads_of_dropped (dropped : state.dropped = true) (listens : state.session.ServerListens) :
    (state.move encodedLength sessionId ⟨.serverReceives, 0, 0, 0, 0⟩).isSome = true := by
  simp only [StoppableSession.move]
  split
  · rw [Option.isSome_map]
    exact (Serving.isSome_of_listening listens (closeMessage sessionId) _ 0 0 0).2
  · rename_i more
    obtain ⟨frame, rest, here⟩ := List.exists_cons_of_ne_nil (fun none => more ⟨dropped, none⟩)
    obtain ⟨serving, handles⟩ := Option.isSome_iff_exists.mp (listens.isSome_arrival frame 0 0 0)
    simp [Session.step, Channel.receive?, here, handles]

/-- A server whose client has returned goes on to its end. -/
theorem live_of_returned (returned : state.session.client = .returned)
    (opened : state.session.server.stage ≠ .returned) :
    ∃ stopLabel after, state.step encodedLength sessionId stopLabel = some after := by
  have dropped : state.dropped = true := by rw [StoppableSession.dropped, returned]
  suffices moves : ∃ label, (state.move encodedLength sessionId label).isSome = true by
    obtain ⟨label, some⟩ := moves
    obtain ⟨next, moved⟩ := Option.isSome_iff_exists.mp some
    exact ⟨.move label, { state with session := next }, by rw [StoppableSession.step, moved]; rfl⟩
  cases stage : state.session.server.stage with
  | receiving => exact ⟨_, reads_of_dropped dropped (Or.inl stage)⟩
  | receivingChunk expectedSize bytesReceived =>
      exact ⟨_, reads_of_dropped dropped (Or.inr ⟨_, _, stage⟩)⟩
  | sending reply counted goes =>
      refine ⟨⟨.serverSends, 0, 0, 0, 0⟩, ?_⟩
      simp only [StoppableSession.move, Session.step]
      split <;> simp [Serving.step, stage]
  | returned => exact absurd stage opened

theorem lowers_of_returned (returned : state.session.client = .returned)
    (taken : state.step encodedLength sessionId stopLabel = some after) :
    after.session.client = .returned ∧ rank after < rank state := by
  cases stopLabel with
  | stop =>
      simp only [StoppableSession.step] at taken
      split at taken
      · cases taken
      · rename_i unset
        obtain rfl := Option.some.inj taken
        refine ⟨returned, ?_⟩
        simp [rank, unset]
  | move label =>
      obtain ⟨next, moved, rfl⟩ := Option.map_eq_some_iff.mp taken
      have waits : state.session.clientWait = none := by rw [Session.clientWait, returned]
      cases turn : label.turn with
      | clientSends => simp [no_clientStep waits (Or.inl turn)] at moved
      | clientReceives => simp [no_clientStep waits (Or.inr turn)] at moved
      | serverReceives =>
          exact ⟨(client_of_serverStep (Or.inl turn) moved).trans returned, rank_of_read moved turn⟩
      | serverSends =>
          exact ⟨(client_of_serverStep (Or.inr turn) moved).trans returned, rank_of_sent moved turn⟩

/-- The server of a client that has returned can always come to its end. -/
theorem ends_of_returned (returned : state.session.client = .returned) :
    ∃ rest final, (stopMachine encodedLength sessionId).Run state rest final ∧
      final.session.Over := by
  have live (state : StoppableSession) (returned : state.session.client = .returned)
      (unfinished : ¬state.session.Over) :
      ∃ stopLabel after, (stopMachine encodedLength sessionId).step state stopLabel = some after :=
    live_of_returned returned (fun ended => unfinished ⟨returned, ended⟩)
  exact Machine.exists_run_of_rank rank live
    (fun _ _ _ returned taken => lowers_of_returned returned taken) returned

/-! ## Whose connection it is -/

/-- No step changes it. -/
theorem connectionId_of_move (taken : state.move encodedLength sessionId label = some next) :
    next.server.connectionId = state.session.server.connectionId := by
  cases turn : label.turn with
  | clientSends =>
      simp only [StoppableSession.move, Session.step, turn] at taken
      obtain ⟨_, _, taken⟩ := Option.bind_eq_some_iff.mp taken
      obtain ⟨_, _, taken⟩ := Option.bind_eq_some_iff.mp taken
      obtain ⟨_, _, taken⟩ := Option.bind_eq_some_iff.mp taken
      rw [← Option.some.inj taken]
  | clientReceives =>
      simp only [StoppableSession.move, turn] at taken
      obtain ⟨_, _, taken⟩ := Option.bind_eq_some_iff.mp taken
      obtain ⟨_, _, taken⟩ := Option.bind_eq_some_iff.mp taken
      obtain ⟨_, _, taken⟩ := Option.bind_eq_some_iff.mp taken
      rw [← Option.some.inj taken]
  | serverReceives =>
      rcases reads_cases turn taken with ⟨_, handles, rfl⟩ | ⟨_, _, _, _, handles, rfl⟩
      · exact Serving.connectionId_of_step handles
      · exact Serving.connectionId_of_step handles
  | serverSends =>
      rcases sends_cases turn taken with ⟨_, handles, rfl⟩ | ⟨_, _, handles, rfl⟩
      · exact Serving.connectionId_of_step handles
      · exact Serving.connectionId_of_step handles

theorem connectionId_of_stopStep (taken : state.step encodedLength sessionId stopLabel = some after) :
    after.session.server.connectionId = state.session.server.connectionId := by
  cases stopLabel with
  | stop =>
      simp only [StoppableSession.step] at taken
      split at taken
      · cases taken
      · rw [← Option.some.inj taken]
  | move label =>
      obtain ⟨next, moved, rfl⟩ := Option.map_eq_some_iff.mp taken
      exact connectionId_of_move moved

end Steps

end Npt.System
