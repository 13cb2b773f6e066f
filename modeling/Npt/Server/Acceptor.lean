import Npt.Core.Fleet
import Npt.Core.TableSum
import Npt.Server.Returning
import Npt.Server.SessionAttribution
import Npt.Shared.Operation

/-!
Contract: the TCP server with all its connections (`start` in
`server/src/tcp_server.rs`).

Every accepted connection is handled by a task of its own, which draws a new id
when it is first polled; all tasks write to one collector, which the QUIC server
shares. What a task writes between two waits is a list of calls on its own record,
whatever else the collector holds.

Owns: the machine of the server, that every connection is served and recorded
as if it were alone, and that the active-connection count is the number of tasks
that serve one and have not returned.

Does not own: the listener's options, an accept that fails and is logged, or what
the QUIC server does with the records of its own connections.
-/

namespace Npt.Server.TcpServer

open Npt.Core
open Npt.Shared

/-! ## What a step records -/

/-- Calls on one record, each with its time. -/
def recorded (id : Uuid) (calls : List (Nat × ConnectionCall)) (metrics : MetricsCollector) :
    MetricsCollector :=
  calls.foldl (fun metrics call => call.2.apply call.1 metrics id) metrics

section Recorded

variable (id : Uuid) (calls : List (Nat × ConnectionCall)) (metrics : MetricsCollector)

@[simp] theorem recorded_nil : recorded id [] metrics = metrics := rfl

theorem recorded_append (more : List (Nat × ConnectionCall)) :
    recorded id (calls ++ more) metrics = recorded id more (recorded id calls metrics) := by
  rw [recorded, List.foldl_append]
  rfl

theorem recorded_cons (call : Nat × ConnectionCall) :
    recorded id (call :: calls) metrics =
      recorded id calls (call.2.apply call.1 metrics id) := rfl

/-- What calls write into a record. -/
def written (connection : ConnectionMetrics) : ConnectionMetrics :=
  calls.foldl (fun connection call => call.2.change call.1 id connection) connection

theorem id_written (connection : ConnectionMetrics) :
    (written id calls connection).id = connection.id := by
  induction calls generalizing connection with
  | nil => rfl
  | cons call calls inductionHypothesis =>
      exact (inductionHypothesis _).trans (call.2.change_id call.1 id connection)

/-- Writing twice under a key. -/
theorem modify_modify (table : Table ConnectionMetrics.id)
    {first second : ConnectionMetrics → ConnectionMetrics}
    (firstKeeps : ∀ connection, (first connection).id = connection.id)
    (secondKeeps : ∀ connection, (second connection).id = connection.id)
    (bothKeep : ∀ connection, (second (first connection)).id = connection.id) :
    (table.modify id first firstKeeps).modify id second secondKeeps =
      table.modify id (fun connection => second (first connection)) bothKeep := by
  simp only [Table.modify, Table.mk.injEq, List.map_map]
  refine List.map_congr_left fun connection _ => ?_
  simp only [Function.comp_apply]
  by_cases here : connection.id = id
  · simp [here, firstKeeps]
  · simp [here]

/-- Calls change one record, by what they write into it. -/
theorem connections_recorded :
    (recorded id calls metrics).connections =
      metrics.connections.modify id (written id calls) (id_written id calls) := by
  induction calls generalizing metrics with
  | nil =>
      simp [recorded, Table.modify, written]
  | cons call calls inductionHypothesis =>
      rw [recorded_cons, inductionHypothesis, ConnectionCall.connections_apply]
      exact modify_modify id metrics.connections _ _ _

theorem get?_recorded_self :
    (recorded id calls metrics).connections.get? id =
      (metrics.connections.get? id).map (written id calls) := by
  rw [connections_recorded, Table.get?_modify_self]

theorem get?_recorded_ne {other : Uuid} (different : other ≠ id) :
    (recorded id calls metrics).connections.get? other = metrics.connections.get? other := by
  rw [connections_recorded, Table.get?_modify_ne _ different]

theorem connectionType_written (connection : ConnectionMetrics) :
    (written id calls connection).connectionType = connection.connectionType := by
  induction calls generalizing connection with
  | nil => rfl
  | cons call calls inductionHypothesis =>
      exact (inductionHypothesis _).trans (call.2.change_connectionType call.1 id connection)

/-- A record has an end after calls if it had one or one of them ended it. -/
theorem isSome_endTime_written (connection : ConnectionMetrics) :
    (written id calls connection).endTime.isSome = true ↔
      connection.endTime.isSome = true ∨ ∃ call ∈ calls, call.2 = .endConnection := by
  induction calls generalizing connection with
  | nil => simp [written]
  | cons call calls inductionHypothesis =>
      have later := inductionHypothesis (call.2.change call.1 id connection)
      have first : (call.2.change call.1 id connection).endTime.isSome = true ↔
          connection.endTime.isSome = true ∨ call.2 = .endConnection := by
        obtain ⟨time, call⟩ := call
        cases call <;> simp [ConnectionCall.change, ConnectionMetrics.withError]
      rw [show written id (call :: calls) connection =
        written id calls (call.2.change call.1 id connection) from rfl, later, first]
      simp [or_assoc]

end Recorded

/-! ## The code between two waits -/

namespace Serving

/-- The code touches the collector by calls on the connection's own record only, which
do not depend on what the collector holds; one of them ends the record exactly when
`handle_connection` returns. -/
structure Confined (code : Serving → Serving) (serving : Serving)
    (calls : List (Nat × ConnectionCall)) : Prop where
  same : ∀ metrics, code { serving with metrics := metrics } =
    { code serving with metrics := recorded serving.connectionId calls metrics }
  ends : (code serving).stage = .returned ↔ ∃ call ∈ calls, call.2 = .endConnection

section Code

variable (serving : Serving) (draw latency now : Nat)

theorem confined_goOn : Confined (·.goOn latency) serving [(now, .recordLatency latency)] where
  same _ := rfl
  ends := by simp

theorem confined_close : Confined (·.close latency now) serving
    [(now, .recordLatency latency), (now, .endConnection)] where
  same _ := rfl
  ends := by simp

theorem confined_fail : Confined (·.fail now) serving
    [(now, .recordError), (now, .endConnection)] where
  same _ := rfl
  ends := by simp

theorem confined_send (reply : Message) (counted : UInt64) (next : Continuation) :
    Confined (·.send reply counted next) serving [] where
  same _ := rfl
  ends := by simp

theorem confined_disconnect (error : String) :
    ∃ calls, Confined (·.disconnect error now) serving calls := by
  unfold disconnect
  split
  · exact ⟨[(now, .endConnection)], ⟨fun _ => rfl, by simp⟩⟩
  · exact ⟨_, confined_fail serving now⟩

theorem confined_download (fileSize bytesSent sequence : UInt64) (sessionId : Uuid) :
    ∃ calls, Confined (·.download fileSize bytesSent sequence sessionId draw latency) serving
      calls := by
  unfold download
  split
  · exact ⟨_, confined_send serving _ _ _⟩
  · exact ⟨_, confined_goOn serving latency 0⟩

theorem confined_upload (expectedSize bytesReceived : UInt64) :
    ∃ calls, Confined (·.upload expectedSize bytesReceived latency) serving calls := by
  unfold upload
  split
  · exact ⟨[], ⟨fun _ => rfl, by simp⟩⟩
  · exact ⟨_, confined_goOn serving latency 0⟩

theorem confined_handleMessage (message : Message) :
    ∃ calls, Confined (·.handleMessage message draw latency now) serving calls := by
  unfold handleMessage
  split
  · exact ⟨_, confined_send serving _ _ _⟩
  · exact ⟨_, confined_send serving _ _ _⟩
  · exact confined_download serving draw latency _ _ _ _
  · exact ⟨_, confined_send serving _ _ _⟩
  · exact ⟨_, confined_send serving _ _ _⟩
  · exact ⟨_, confined_close serving latency now⟩
  · exact ⟨_, confined_goOn serving latency 0⟩

theorem confined_resume (next : Continuation) :
    ∃ calls, Confined (·.resume next draw latency) serving calls := by
  cases next with
  | respond => exact ⟨_, confined_goOn serving latency 0⟩
  | upload expectedSize bytesReceived => exact confined_upload serving latency _ _
  | download fileSize bytesSent sequence sessionId =>
      exact confined_download serving draw latency _ _ _ _

end Code

section Steps

variable {serving next : Serving} {label : Label}

/-- Code that goes on from calls which leave the record open. -/
theorem Confined.after {code : Serving → Serving} {first calls : List (Nat × ConnectionCall)}
    (confined : Confined code
      { serving with metrics := recorded serving.connectionId first serving.metrics } calls)
    (goesOn : ∀ call ∈ first, call.2 ≠ .endConnection) :
    Confined (fun serving => code
      { serving with metrics := recorded serving.connectionId first serving.metrics }) serving
      (first ++ calls) where
  same metrics := by
    rw [recorded_append]
    exact confined.same (recorded serving.connectionId first metrics)
  ends := by
    rw [confined.ends]
    simp only [List.mem_append, or_and_right, exists_or]
    refine (or_iff_right ?_).symm
    rintro ⟨call, member, ended⟩
    exact goesOn call member ended

/-- The calls of `count`. -/
def countCalls (message : Message) : List (Nat × ConnectionCall) :=
  [(0, .recordPacketReceived), (0, .recordBytesReceived (UInt64.ofNat message.payload.length))]

/-- A step makes its calls on the connection's own record, and returns exactly when one
of them ends it. -/
theorem calls_of_step (taken : serving.step label = some next) :
    ∃ calls, (∀ metrics, ({ serving with metrics := metrics } : Serving).step label =
        some { next with metrics := recorded serving.connectionId calls metrics }) ∧
      (next.stage = .returned ↔ ∃ call ∈ calls, call.2 = .endConnection) := by
  -- Where a step runs confined code, its calls are those of the code.
  have lift {code : Serving → Serving} {calls : List (Nat × ConnectionCall)}
      (confined : Confined code serving calls) (runs : ∀ metrics,
        ({ serving with metrics := metrics } : Serving).step label =
          some (code { serving with metrics := metrics })) (leads : next = code serving) :
      ∃ calls, (∀ metrics, ({ serving with metrics := metrics } : Serving).step label =
          some { next with metrics := recorded serving.connectionId calls metrics }) ∧
        (next.stage = .returned ↔ ∃ call ∈ calls, call.2 = .endConnection) :=
    ⟨calls, fun metrics => by rw [runs, confined.same, leads], by rw [leads]; exact confined.ends⟩
  cases moved_of_step taken with
  | @handled message draw latency now waits =>
      obtain ⟨calls, confined⟩ := confined_handleMessage
        { serving with
          metrics := recorded serving.connectionId (countCalls message) serving.metrics }
        draw latency now message
      exact lift (confined.after (by simp [countCalls]))
        (fun metrics => by simp [step, waits]; rfl) rfl
  | @chunk message draw latency now expectedSize bytesReceived waits kind =>
      have confined := confined_send { serving with
          metrics := recorded serving.connectionId (countCalls message) serving.metrics }
        (chunkAck message) 9 (.upload expectedSize
          (bytesReceived + UInt64.ofNat message.payload.length))
      exact lift (confined.after (by simp [countCalls]))
        (fun metrics => by simp [step, waits, kind]; rfl) rfl
  | forgotten waits kind =>
      exact lift (confined_goOn serving _ 0) (fun metrics => by simp [step, waits, kind]) rfl
  | @disconnected error now waits =>
      obtain ⟨calls, confined⟩ := confined_disconnect serving now error
      exact lift confined (fun metrics => by simp [step, waits]) rfl
  | uploadFailed waits =>
      exact lift (confined_fail serving _) (fun metrics => by simp [step, waits]) rfl
  | @replied draw latency reply counted goes waits =>
      obtain ⟨calls, confined⟩ := confined_resume
        { serving with
          metrics := recorded serving.connectionId
            [(0, .recordPacketSent), (0, .recordBytesSent counted)] serving.metrics }
        draw latency goes
      exact lift (confined.after (by simp)) (fun metrics => by simp [step, waits]; rfl) rfl
  | sendFailed waits =>
      exact lift (confined_fail serving _) (fun metrics => by simp [step, waits]) rfl

end Steps

end Serving

/-! ## The server -/

/-- A task that `start` spawns. -/
inductive Handler where
  /-- Not polled yet. -/
  | spawned
  /-- `local_addr` failed: `handle_connection` returned before it recorded anything. -/
  | unaddressed
  | handling (connectionId : Uuid) (stage : Stage)
deriving DecidableEq, Repr

/-- The id under which the task records. -/
def Handler.connectionId? : Handler → Option Uuid
  | .handling connectionId _ => some connectionId
  | _ => none

/-- The task has started its connection's record and has not returned. -/
def Handler.active : Handler → Bool
  | .handling _ stage => decide (stage ≠ .returned)
  | _ => false

inductive HandlerLabel where
  /-- The first poll, with the id that `handle_connection` draws. -/
  | started (connectionId : Uuid)
  /-- The first poll, in which `local_addr` fails. -/
  | unaddressed
  | serve (label : Label)
deriving DecidableEq, Repr

/-- The ids of the QUIC connections. -/
def quicIds (server : ServerState) : List Uuid := server.connections.map Connection.connectionId

/-- `accept` returned a connection, and its task is spawned. -/
def acceptConnection (server : ServerState) (_ : Unit) : Option (Handler × ServerState) :=
  some (.spawned, server)

/-- A step of a task. An id that it draws is new. -/
def handleStep (handler : Handler) (server : ServerState) (label : HandlerLabel) :
    Option (Handler × ServerState) :=
  match handler, label with
  | .spawned, .unaddressed => some (.unaddressed, server)
  | .spawned, .started connectionId =>
      if server.metrics.Registered connectionId ∨ connectionId ∈ quicIds server then none
      else
        let serving := Serving.accept connectionId server.metrics server.now
        some (.handling serving.connectionId serving.stage,
          { server with metrics := serving.metrics })
  | .handling connectionId stage, .serve label =>
      (Serving.step ⟨connectionId, stage, server.metrics⟩ label).map (fun next =>
        (.handling next.connectionId next.stage, { server with metrics := next.metrics }))
  | _, _ => none

def serverCrew : Crew Handler ServerState Unit HandlerLabel ServerLabel where
  join := acceptConnection
  advance := handleStep
  act := serverStep

/-- `main`: both servers, with the tasks that they spawn. -/
def process : Machine (Fleet Handler ServerState) (FleetLabel Unit HandlerLabel ServerLabel) :=
  serverCrew.machine

/-- Both servers before their first connection, on one new collector. -/
def serversStarted : Fleet Handler ServerState where
  shared := startServer {}

abbrev ProcessTrace := Crew.Trace Handler ServerState Unit HandlerLabel ServerLabel

/-! ## What a step does to the records -/

section Steps

variable {handler after : Handler} {server changed : ServerState}

/-- A task's step on its connection, on any collector, is calls on its own record. -/
structure Serves (connectionId : Uuid) (stage after : Stage) (label : Label)
    (calls : List (Nat × ConnectionCall)) : Prop where
  everywhere : ∀ metrics, Serving.step ⟨connectionId, stage, metrics⟩ label =
    some ⟨connectionId, after, recorded connectionId calls metrics⟩
  returns : after = .returned ↔ ∃ call ∈ calls, call.2 = .endConnection
  running : stage ≠ .returned

/-- What a task's step is. -/
inductive HandlerMove (server : ServerState) :
    Handler → HandlerLabel → Handler → ServerState → Prop where
  | unaddressed : HandlerMove server .spawned .unaddressed .unaddressed server
  | started {connectionId : Uuid} (unregistered : ¬server.metrics.Registered connectionId)
      (notQuic : connectionId ∉ quicIds server) :
      HandlerMove server .spawned (.started connectionId) (.handling connectionId .receiving)
        { server with metrics := server.metrics.startConnection server.now connectionId .tcp }
  | served {connectionId : Uuid} {stage after : Stage} {label : Label}
      {calls : List (Nat × ConnectionCall)} (serves : Serves connectionId stage after label calls) :
      HandlerMove server (.handling connectionId stage) (.serve label)
        (.handling connectionId after)
        { server with metrics := recorded connectionId calls server.metrics }

theorem move_of_handleStep {label : HandlerLabel}
    (taken : handleStep handler server label = some (after, changed)) :
    HandlerMove server handler label after changed := by
  unfold handleStep at taken
  split at taken
  · obtain ⟨rfl, rfl⟩ := Prod.mk.inj (Option.some.inj taken)
    exact .unaddressed
  · split at taken
    · simp at taken
    · rename_i fresh
      rw [not_or] at fresh
      obtain ⟨rfl, rfl⟩ := Prod.mk.inj (Option.some.inj taken)
      exact .started fresh.1 fresh.2
  · rename_i connectionId stage label
    obtain ⟨next, stepped, same⟩ := Option.map_eq_some_iff.mp taken
    obtain ⟨rfl, rfl⟩ := Prod.mk.inj same
    obtain ⟨calls, everywhere, returns⟩ := Serving.calls_of_step stepped
    have sameId : next.connectionId = connectionId := Serving.connectionId_of_step stepped
    have everywhere (metrics : MetricsCollector) :
        Serving.step ⟨connectionId, stage, metrics⟩ label =
          some ⟨connectionId, next.stage, recorded connectionId calls metrics⟩ := by
      rw [everywhere metrics, ← sameId]
    have own : next.metrics = recorded connectionId calls server.metrics :=
      congrArg Serving.metrics (Option.some.inj (stepped.symm.trans (everywhere server.metrics)))
    rw [sameId, own]
    exact .served ⟨everywhere, returns, (Serving.moved_of_step stepped).not_returned⟩
  · simp at taken

/-! ### The QUIC server -/

/-- Every session is of a connection that was opened. -/
def Owned (server : ServerState) : Prop :=
  ∀ address id, server.holder address = some id → id ∈ quicIds server

/-- The record under an id is left as it is, or is one of the QUIC server's: its own
type stays, or it is a new one. -/
def Kept (server changed : ServerState) (id : Uuid) : Prop :=
  changed.metrics.connections.get? id = server.metrics.connections.get? id ∨
    id ∈ quicIds server ∧ ∀ connection, changed.metrics.connections.get? id = some connection →
      connection.connectionType = .quic ∨ ∃ earlier,
        server.metrics.connections.get? id = some earlier ∧
          connection.connectionType = earlier.connectionType

theorem quicIds_of_move {label : ServerLabel} (move : ServerMove server label changed) :
    ∀ id ∈ quicIds server, id ∈ quicIds changed := by
  intro id member
  obtain ⟨connection, inside, rfl⟩ := List.mem_map.mp member
  obtain ⟨index, present⟩ := List.mem_iff_getElem?.mp inside
  obtain ⟨after, there, _, sameId⟩ := connection_next move present
  exact List.mem_map.mpr ⟨after, List.mem_of_getElem? there, sameId⟩

/-- The ids of the QUIC server after one of its steps: those before, and a new one that
no record has. -/
theorem mem_quicIds_of_move {label : ServerLabel} (move : ServerMove server label changed)
    {id : Uuid} (member : id ∈ quicIds changed) :
    id ∈ quicIds server ∨ ¬server.metrics.Registered id := by
  obtain ⟨connection, inside, rfl⟩ := List.mem_map.mp member
  obtain ⟨index, present⟩ := List.mem_iff_getElem?.mp inside
  rcases connection_of_move move present with ⟨before, there, _, sameId, _⟩ | ⟨_, _, _, _, fresh⟩
  · exact Or.inl (List.mem_map.mpr ⟨before, List.mem_of_getElem? there, sameId⟩)
  · exact Or.inr fresh

theorem owned_of_move {label : ServerLabel} (owned : Owned server)
    (move : ServerMove server label changed) : Owned changed := by
  intro address id held
  rcases holder_cases move held with ⟨before, _, _⟩ | rfl
  · exact quicIds_of_move move id (owned address id before)
  · cases move with
    | opened fresh unregistered => simp [quicIds]

theorem Kept.refl (id : Uuid) : Kept server server id := Or.inl rfl

theorem Kept.trans {middle : ServerState} {id : Uuid} (first : Kept server middle id)
    (ids : quicIds middle = quicIds server) (second : Kept middle changed id) :
    Kept server changed id := by
  rcases second with same | ⟨member, kinds⟩
  · rcases first with unchanged | ⟨member, kinds⟩
    · exact Or.inl (same.trans unchanged)
    · exact Or.inr ⟨member, fun connection found => kinds connection (same ▸ found)⟩
  · refine Or.inr ⟨ids ▸ member, fun connection found => ?_⟩
    rcases kinds connection found with quic | ⟨earlier, before, kind⟩
    · exact Or.inl quic
    · rcases first with unchanged | ⟨_, earlierKinds⟩
      · exact Or.inr ⟨earlier, unchanged ▸ before, kind⟩
      · rw [kind]
        exact earlierKinds earlier before

/-- Calls on the record of a QUIC connection. -/
theorem kept_of_recorded {owner : Uuid} (member : owner ∈ quicIds server)
    (calls : List (Nat × ConnectionCall))
    (same : changed.metrics = recorded owner calls server.metrics) (id : Uuid) :
    Kept server changed id := by
  by_cases here : id = owner
  · subst here
    refine Or.inr ⟨member, fun connection found => Or.inr ?_⟩
    rw [same, get?_recorded_self] at found
    obtain ⟨earlier, before, rfl⟩ := Option.map_eq_some_iff.mp found
    exact ⟨earlier, before, connectionType_written id calls earlier⟩
  · exact Or.inl (by rw [same, get?_recorded_ne _ _ _ here])

theorem owner_mem (owned : Owned server) {address : SocketAddr} {session : QuicSession}
    (found : server.session address = some session) : session.id ∈ quicIds server :=
  owned address session.id (by simp [ServerState.holder, found])

theorem kept_removeSession (owned : Owned server) (address : SocketAddr) (id : Uuid) :
    Kept server (server.removeSession address) id := by
  unfold ServerState.removeSession
  split
  · rename_i session found
    exact kept_of_recorded (owner_mem owned found) [(server.now, .endConnection)] rfl id
  · exact .refl id

theorem owned_removeSession (owned : Owned server) (address : SocketAddr) :
    Owned (server.removeSession address) := by
  intro other id held
  rw [holder_removeSession] at held
  rw [quicIds, connections_removeSession]
  split at held
  · simp at held
  · exact owned other id held

theorem kept_removeSessions (owned : Owned server) (addresses : List SocketAddr) (id : Uuid) :
    Kept server (server.removeSessions addresses) id := by
  induction addresses generalizing server with
  | nil => exact .refl id
  | cons address addresses inductionHypothesis =>
      have first := kept_removeSession owned address id
      have rest := inductionHypothesis (owned_removeSession owned address)
      exact first.trans (by rw [quicIds, quicIds, connections_removeSession]) rest

theorem kept_updateSession (owned : Owned server) (address : SocketAddr)
    (change : QuicSession → QuicSession) (calls : List (Nat × ConnectionCall)) (id : Uuid) :
    Kept server (server.updateSession address change
      (fun metrics owner => recorded owner calls metrics)) id := by
  unfold ServerState.updateSession
  split
  · rename_i session found
    exact kept_of_recorded (owner_mem owned found) calls rfl id
  · exact .refl id

/-- A stream records on the connection whose session it finds, or nothing. -/
theorem kept_of_streamStep (owned : Owned server) {stream : Stream} {label : StreamLabel}
    {stage : StreamStage} (taken : streamStep server stream label = some (changed, stage))
    (id : Uuid) : Kept server changed id := by
  cases label with
  | recordRequest =>
      simp only [streamStep] at taken
      split at taken
      · obtain ⟨rfl, -⟩ := Prod.mk.inj (Option.some.inj taken)
        exact kept_updateSession owned _ _ [(0, .recordPacketReceived),
          (0, .recordBytesReceived _)] id
      · simp at taken
  | recordResponse draw =>
      simp only [streamStep] at taken
      split at taken
      · obtain ⟨rfl, -⟩ := Prod.mk.inj (Option.some.inj taken)
        exact kept_updateSession owned _ _ [(0, .recordPacketSent), (0, .recordBytesSent _),
          (0, .recordLatency _)] id
      · simp at taken
  | read | readEnds | written | writeFailed =>
      have same : changed = server := by
        simp only [streamStep] at taken
        repeat' split at taken
        all_goals simp_all
      rw [same]
      exact .refl id

/-- The QUIC server touches the records of its own connections only. -/
theorem kept_of_serverStep (owned : Owned server) {label : ServerLabel}
    (taken : serverStep server label = some changed) (id : Uuid) : Kept server changed id := by
  have move : ServerMove server label changed := move_of_serverStep taken
  cases move with
  | opened fresh unregistered => exact Or.inl rfl
  | @started index connection present stage =>
      have member : connection.connectionId ∈ quicIds server :=
        List.mem_map_of_mem (List.mem_of_getElem? present)
      by_cases here : id = connection.connectionId
      · refine Or.inr ⟨here ▸ member, fun record found => Or.inl ?_⟩
        subst here
        have inserted := server.metrics.connections.get?_insert_self
          { id := connection.connectionId, connectionType := .quic, startTime := server.now }
        obtain rfl := Option.some.inj (inserted.symm.trans found)
        rfl
      · exact Or.inl (Table.get?_insert_ne _ here)
  | @ended index connection present stage =>
      exact kept_removeSession owned connection.remoteAddr id
  | swept => exact kept_removeSessions owned server.toRemove id
  | accepted | scanned | elapsed => exact .refl id
  | recorded | streamed =>
      obtain ⟨stream, _, stepped⟩ := Option.bind_eq_some_iff.mp taken
      obtain ⟨⟨after, stage⟩, own, same⟩ := Option.map_eq_some_iff.mp stepped
      have kept : Kept server after id := kept_of_streamStep owned own id
      rw [← same]
      exact kept

/-! ## Whose record is whose -/

/-- The record of a TCP connection. -/
def OfTcp (server : ServerState) (id : Uuid) : Prop :=
  ∃ connection, server.metrics.connections.get? id = some connection ∧
    connection.connectionType = .tcp

/-- The ids of the tasks that have started. -/
def handlerIds (members : List Handler) : List Uuid := members.filterMap Handler.connectionId?

/-- The tasks have different connections, which are the TCP connections on record and
none of the QUIC server's; what the QUIC server has on record is of its own type. -/
structure Separate (fleet : Fleet Handler ServerState) : Prop where
  distinct : (handlerIds fleet.members).Nodup
  owned : Owned fleet.shared
  foreign : ∀ id ∈ handlerIds fleet.members, id ∉ quicIds fleet.shared
  quic : ∀ id ∈ quicIds fleet.shared, ∀ connection,
    fleet.shared.metrics.connections.get? id = some connection →
      connection.connectionType = .quic
  tcp : ∀ id, OfTcp fleet.shared id ↔ id ∈ handlerIds fleet.members

theorem mem_handlerIds {members : List Handler} {id : Uuid} :
    id ∈ handlerIds members ↔ ∃ stage, .handling id stage ∈ members := by
  simp only [handlerIds, List.mem_filterMap]
  constructor
  · rintro ⟨handler, member, named⟩
    cases handler with
    | spawned | unaddressed => simp [Handler.connectionId?] at named
    | handling connectionId stage =>
        obtain rfl := Option.some.inj named
        exact ⟨stage, member⟩
  · rintro ⟨stage, member⟩
    exact ⟨_, member, rfl⟩

@[simp] theorem handlerIds_spawn (members : List Handler) :
    handlerIds (members ++ [.spawned]) = handlerIds members := by
  simp [handlerIds, Handler.connectionId?]

theorem handlerIds_set {members : List Handler} {index : Nat} (inside : index < members.length) :
    (handlerIds (members.set index after)).Perm
      (after.connectionId?.toList ++ handlerIds (members.eraseIdx index)) := by
  have moved := (List.set_perm_cons_eraseIdx inside after).filterMap Handler.connectionId?
  cases named : after.connectionId? with
  | none => simpa [handlerIds, named] using moved
  | some id => simpa [handlerIds, named] using moved

theorem handlerIds_eraseIdx {members : List Handler} {index : Nat}
    (inside : index < members.length) :
    (handlerIds members).Perm
      (members[index].connectionId?.toList ++ handlerIds (members.eraseIdx index)) := by
  have same := @handlerIds_set members[index] members index inside
  rwa [List.set_getElem_self] at same

/-- Replacing a task that keeps its id, or has none before and after. -/
theorem handlerIds_kept {members : List Handler} {index : Nat}
    (present : members[index]? = some handler)
    (same : after.connectionId? = handler.connectionId?) :
    (handlerIds (members.set index after)).Perm (handlerIds members) := by
  obtain ⟨inside, rfl⟩ := List.getElem?_eq_some_iff.mp present
  have before := handlerIds_eraseIdx inside
  rw [← same] at before
  exact (handlerIds_set inside).trans before.symm

/-- A task that draws its id. -/
theorem handlerIds_started {members : List Handler} {index : Nat} {id : Uuid} {stage : Stage}
    (present : members[index]? = some .spawned) :
    (handlerIds (members.set index (.handling id stage))).Perm (id :: handlerIds members) := by
  obtain ⟨inside, here⟩ := List.getElem?_eq_some_iff.mp present
  have before := handlerIds_eraseIdx inside
  rw [here] at before
  exact (handlerIds_set inside).trans (before.symm.cons id)

/-- No two tasks have the same id. -/
theorem distinct_handlers {members : List Handler} {index other : Nat} {id : Uuid}
    {first second : Stage} (distinct : (handlerIds members).Nodup)
    (present : members[index]? = some (.handling id first))
    (there : members[other]? = some (.handling id second)) : other = index := by
  by_contra different
  obtain ⟨inside, here⟩ := List.getElem?_eq_some_iff.mp present
  have before := handlerIds_eraseIdx inside
  rw [here] at before
  refine (List.nodup_cons.mp (before.nodup_iff.mp distinct)).1 (mem_handlerIds.mpr ⟨second, ?_⟩)
  exact List.mem_eraseIdx_iff_getElem?.mpr ⟨other, different, there⟩

/-- Calls keep the type of every record. -/
theorem ofTcp_recorded {owner : Uuid} (calls : List (Nat × ConnectionCall)) (id : Uuid) :
    OfTcp { server with metrics := recorded owner calls server.metrics } id ↔ OfTcp server id := by
  unfold OfTcp
  by_cases here : id = owner
  · subst here
    simp only [get?_recorded_self, Option.map_eq_some_iff, exists_exists_and_eq_and]
    simp [connectionType_written]
  · simp [get?_recorded_ne _ _ _ here]

/-- Ids that are the same up to order keep everything apart. -/
theorem Separate.of_perm {fleet next : Fleet Handler ServerState} (separate : Separate fleet)
    (perm : (handlerIds next.members).Perm (handlerIds fleet.members))
    (owned : Owned next.shared) (ids : quicIds next.shared = quicIds fleet.shared)
    (quic : ∀ id ∈ quicIds fleet.shared, ∀ connection,
      next.shared.metrics.connections.get? id = some connection →
        connection.connectionType = .quic)
    (tcp : ∀ id, OfTcp next.shared id ↔ OfTcp fleet.shared id) : Separate next where
  distinct := perm.nodup_iff.mpr separate.distinct
  owned := owned
  foreign := by
    intro id member
    rw [ids]
    exact separate.foreign id (perm.mem_iff.mp member)
  quic := by rwa [ids]
  tcp := by
    intro id
    rw [tcp, separate.tcp, perm.mem_iff]

theorem separate_of_started {fleet : Fleet Handler ServerState} {index : Nat} {id : Uuid}
    (separate : Separate fleet) (present : fleet.members[index]? = some .spawned)
    (unregistered : ¬fleet.shared.metrics.Registered id) (notQuic : id ∉ quicIds fleet.shared) :
    Separate ⟨fleet.members.set index (.handling id .receiving), { fleet.shared with
      metrics := fleet.shared.metrics.startConnection fleet.shared.now id .tcp }⟩ := by
  have perm := @handlerIds_started _ _ id .receiving present
  have fresh : ¬OfTcp fleet.shared id := by
    rintro ⟨connection, found, _⟩
    exact unregistered (by simp [MetricsCollector.Registered, found])
  have inserted := fleet.shared.metrics.connections.get?_insert_self
    { id := id, connectionType := .tcp, startTime := fleet.shared.now }
  have others {other : Uuid} (different : other ≠ id) :
      (fleet.shared.metrics.startConnection fleet.shared.now id .tcp).connections.get? other =
        fleet.shared.metrics.connections.get? other :=
    Table.get?_insert_ne _ different
  refine ⟨?_, separate.owned, ?_, ?_, ?_⟩
  · refine perm.nodup_iff.mpr (List.nodup_cons.mpr ⟨?_, separate.distinct⟩)
    exact fun member => fresh ((separate.tcp id).mpr member)
  · intro other member
    rcases List.mem_cons.mp (perm.mem_iff.mp member) with rfl | earlier
    · exact notQuic
    · exact separate.foreign other earlier
  · intro other member connection found
    by_cases here : other = id
    · exact absurd (here ▸ member) notQuic
    · exact separate.quic other member connection ((others here).symm.trans found)
  · intro other
    rw [perm.mem_iff, List.mem_cons, ← separate.tcp]
    by_cases here : other = id
    · subst here
      exact iff_of_true ⟨_, inserted, rfl⟩ (Or.inl rfl)
    · simp only [OfTcp, others here, here, false_or]

theorem separate_of_step {fleet next : Fleet Handler ServerState}
    {label : FleetLabel Unit HandlerLabel ServerLabel} (separate : Separate fleet)
    (step : Crew.FleetStep serverCrew fleet label next) : Separate next := by
  cases step with
  | joined done =>
      obtain ⟨rfl, rfl⟩ := Prod.mk.inj (Option.some.inj done)
      exact separate.of_perm (by simp) separate.owned rfl separate.quic (fun _ => Iff.rfl)
  | @moved index label handler after changed present done =>
      cases move_of_handleStep done with
      | unaddressed =>
          exact separate.of_perm (handlerIds_kept present rfl) separate.owned rfl separate.quic
            (fun _ => Iff.rfl)
      | started unregistered notQuic =>
          exact separate_of_started separate present unregistered notQuic
      | @served connectionId stage after label calls serves =>
          refine separate.of_perm (handlerIds_kept present rfl) separate.owned rfl ?_
            (ofTcp_recorded calls)
          intro id member connection found
          have different : id ≠ connectionId := by
            rintro rfl
            exact separate.foreign id
              (mem_handlerIds.mpr ⟨stage, List.mem_of_getElem? present⟩) member
          rw [get?_recorded_ne _ _ _ different] at found
          exact separate.quic id member connection found
  | @acted label changed done =>
      have move : ServerMove fleet.shared label changed := move_of_serverStep done
      have registered {id : Uuid} (ofTcp : OfTcp fleet.shared id) :
          fleet.shared.metrics.Registered id := by
        obtain ⟨connection, found, _⟩ := ofTcp
        simp [MetricsCollector.Registered, found]
      have foreign : ∀ id ∈ handlerIds fleet.members, id ∉ quicIds changed := by
        intro id member inside
        rcases mem_quicIds_of_move move inside with earlier | unregistered
        · exact separate.foreign id member earlier
        · exact unregistered (registered ((separate.tcp id).mpr member))
      have kinds {id : Uuid} {connection : ConnectionMetrics}
          (found : changed.metrics.connections.get? id = some connection) :
          fleet.shared.metrics.connections.get? id = some connection ∨
            id ∈ quicIds fleet.shared ∧ connection.connectionType = .quic := by
        rcases kept_of_serverStep separate.owned done id with same | ⟨member, kinds⟩
        · exact Or.inl (same ▸ found)
        · refine Or.inr ⟨member, ?_⟩
          rcases kinds connection found with quic | ⟨earlier, before, kind⟩
          · exact quic
          · rw [kind]
            exact separate.quic id member earlier before
      refine ⟨separate.distinct, owned_of_move separate.owned move, foreign, ?_, ?_⟩
      · intro id member connection found
        rcases kinds found with before | ⟨_, quic⟩
        · rcases mem_quicIds_of_move move member with earlier | unregistered
          · exact separate.quic id earlier connection before
          · exact absurd (by simp [MetricsCollector.Registered, before]) unregistered
        · exact quic
      · intro id
        rw [← separate.tcp]
        constructor
        · rintro ⟨connection, found, tcp⟩
          rcases kinds found with before | ⟨_, quic⟩
          · exact ⟨connection, before, tcp⟩
          · simp [quic] at tcp
        · rintro ⟨connection, found, tcp⟩
          rcases kept_of_serverStep separate.owned done id with same | ⟨member, _⟩
          · exact ⟨connection, same.trans found, tcp⟩
          · exact absurd (separate.quic id member connection found) (by simp [tcp])

end Steps

/-! ## Whole runs -/

section Runs

variable {trace : ProcessTrace} {fleet : Fleet Handler ServerState}

theorem separate_of_run (run : process.Run serversStarted trace fleet) : Separate fleet := by
  refine run.invariant Separate ?_ ?_
  · exact
      { distinct := List.nodup_nil
        owned := fun _ _ held => by simp [serversStarted, startServer, ServerState.holder,
          ServerState.session] at held
        foreign := by simp [serversStarted, handlerIds]
        quic := by simp [quicIds, serversStarted, startServer]
        tcp := by simp [OfTcp, serversStarted, startServer, handlerIds] }
  · intro fleet label next separate taken
    exact separate_of_step separate (Crew.fleetStep_of_step taken)

/-- A task that serves a connection has done what it would have done alone, and the
record of its connection is what it would be. -/
structure Alone (own : List HandlerLabel) (connectionId : Uuid) (stage : Stage)
    (server : ServerState) : Prop where
  solo : ∃ now solo metrics,
    servingMachine.Run (Serving.accept connectionId {} now) solo ⟨connectionId, stage, metrics⟩ ∧
    own = .started connectionId :: solo.map (fun step => .serve step.2) ∧
    metrics.connections.get? connectionId = server.metrics.connections.get? connectionId
  record : ∃ connection,
    server.metrics.connections.get? connectionId = some connection ∧
    (connection.endTime.isSome = true ↔ stage = .returned)

/-- Where a task is, after its own steps. -/
def Placed (own : List HandlerLabel) (handler : Handler) (server : ServerState) : Prop :=
  match handler with
  | .spawned => own = []
  | .unaddressed => own = [.unaddressed]
  | .handling connectionId stage => Alone own connectionId stage server

/-- A step of anyone else leaves the record of a TCP connection as it is. -/
theorem get?_of_foreign {next : Fleet Handler ServerState}
    {label : FleetLabel Unit HandlerLabel ServerLabel} {index : Nat} {id : Uuid} {stage : Stage}
    (separate : Separate fleet) (step : Crew.FleetStep serverCrew fleet label next)
    (present : fleet.members[index]? = some (.handling id stage))
    (others : ∀ move, label ≠ .move index move) :
    next.shared.metrics.connections.get? id = fleet.shared.metrics.connections.get? id := by
  have inside := mem_handlerIds.mpr ⟨stage, List.mem_of_getElem? present⟩
  cases step with
  | joined done =>
      obtain ⟨rfl, rfl⟩ := Prod.mk.inj (Option.some.inj done)
      rfl
  | @moved other label mover after changed there done =>
      cases move_of_handleStep done with
      | unaddressed => rfl
      | @started connectionId unregistered =>
          obtain ⟨connection, found, _⟩ := (separate.tcp id).mpr inside
          have different : id ≠ connectionId := by
            rintro rfl
            exact unregistered (by simp [MetricsCollector.Registered, found])
          exact Table.get?_insert_ne _ different
      | @served connectionId before after label calls =>
          refine get?_recorded_ne _ _ _ ?_
          rintro rfl
          refine others (.serve label) ?_
          rw [distinct_handlers separate.distinct present there]
  | acted done =>
      rcases kept_of_serverStep separate.owned done id with same | ⟨quic, _⟩
      · exact same
      · exact absurd quic (separate.foreign id inside)

theorem placed_of_run (run : process.Run serversStarted trace fleet) :
    ∀ (index : Nat) handler, fleet.members[index]? = some handler →
      Placed (Crew.moves index trace) handler fleet.shared := by
  refine Crew.member_of_run Placed rfl ?_ ?_ ?_ run
  · intro trace fleet _ handler changed _ done
    obtain ⟨rfl, rfl⟩ := Prod.mk.inj (Option.some.inj done)
    exact rfl
  · intro own handler server label after changed placed done
    cases move_of_handleStep done with
    | unaddressed =>
        obtain rfl : own = [] := placed
        exact rfl
    | @started connectionId unregistered =>
        obtain rfl : own = [] := placed
        have inserted (metrics : MetricsCollector) := metrics.connections.get?_insert_self
          { id := connectionId, connectionType := .tcp, startTime := server.now }
        exact
          { solo := ⟨server.now, [], _, .nil, rfl, (inserted {}).trans (inserted _).symm⟩
            record := ⟨_, inserted _, by simp⟩ }
    | @served connectionId stage after label calls serves =>
        have alone : Alone own connectionId stage server := placed
        obtain ⟨now, solo, metrics, run, rfl, same⟩ := alone.solo
        obtain ⟨connection, found, ended⟩ := alone.record
        refine ⟨⟨now, solo ++ [(⟨connectionId, stage, metrics⟩, label)],
          recorded connectionId calls metrics, run.snoc (serves.everywhere metrics), by simp, ?_⟩,
          written connectionId calls connection, ?_, ?_⟩
        · rw [get?_recorded_self, get?_recorded_self, same]
        · rw [get?_recorded_self, found, Option.map_some]
        · rw [isSome_endTime_written, serves.returns, ended]
          simp [serves.running]
  · intro trace fleet label next own index handler before step present others placed
    cases handler with
    | spawned | unaddressed => exact placed
    | handling connectionId stage =>
        have alone : Alone own connectionId stage fleet.shared := placed
        have same := get?_of_foreign (separate_of_run before) step present others
        obtain ⟨now, solo, metrics, run, labels, record⟩ := alone.solo
        exact ⟨⟨now, solo, metrics, run, labels, record.trans same.symm⟩, by
          rw [same]
          exact alone.record⟩

/-- An open record of a TCP connection is that of a task that has not returned. -/
theorem open_iff_running (run : process.Run serversStarted trace fleet) (id : Uuid) :
    (∃ connection ∈ fleet.shared.metrics.connections.records, connection.id = id ∧
        connection.connectionType = .tcp ∧ connection.endTime.isNone = true) ↔
      ∃ stage, .handling id stage ∈ fleet.members ∧ stage ≠ .returned := by
  have separate := separate_of_run run
  have record {stage : Stage} (member : .handling id stage ∈ fleet.members) : ∃ connection,
      fleet.shared.metrics.connections.get? id = some connection ∧
        (connection.endTime.isSome = true ↔ stage = .returned) := by
    obtain ⟨index, present⟩ := List.mem_iff_getElem?.mp member
    have placed := placed_of_run run index _ present
    exact Alone.record placed
  constructor
  · rintro ⟨connection, inside, rfl, tcp, unended⟩
    have found := fleet.shared.metrics.connections.get?_of_mem inside
    obtain ⟨stage, member⟩ := mem_handlerIds.mp ((separate.tcp _).mp ⟨_, found, tcp⟩)
    obtain ⟨own, ownFound, ended⟩ := record member
    obtain rfl : connection = own := Option.some.inj (found.symm.trans ownFound)
    refine ⟨stage, member, fun returned => ?_⟩
    have past := ended.mpr returned
    rw [Option.isNone_iff_eq_none.mp unended] at past
    simp at past
  · rintro ⟨stage, member, running⟩
    obtain ⟨connection, found, ended⟩ := record member
    obtain ⟨same, sameFound, tcp⟩ := (separate.tcp id).mpr (mem_handlerIds.mpr ⟨stage, member⟩)
    obtain rfl := Option.some.inj (found.symm.trans sameFound)
    refine ⟨connection, Table.mem_of_get? _ found, Table.key_of_get? _ found, tcp, ?_⟩
    have unended := (not_congr ended).mpr running
    simpa using unended

/-- The tasks that serve a connection, by its id. -/
theorem mem_activeIds {members : List Handler} {id : Uuid} :
    id ∈ (members.filter Handler.active).filterMap Handler.connectionId? ↔
      ∃ stage, .handling id stage ∈ members ∧ stage ≠ .returned := by
  have ids := @mem_handlerIds (members.filter Handler.active) id
  simpa [handlerIds, Handler.active] using ids

theorem length_activeIds (members : List Handler) :
    ((members.filter Handler.active).filterMap Handler.connectionId?).length =
      members.countP Handler.active := by
  induction members with
  | nil => rfl
  | cons head tail inductionHypothesis =>
      cases active : head.active with
      | false => simpa [active] using inductionHypothesis
      | true =>
          cases head with
          | spawned | unaddressed => simp [Handler.active] at active
          | handling connectionId stage =>
              simp [active, Handler.connectionId?, inductionHypothesis]

/-- The active TCP connections on the dashboard are the tasks that serve one and have not
returned. -/
theorem getActiveTcpConnections_of_run (run : process.Run serversStarted trace fleet) :
    fleet.shared.metrics.getActiveTcpConnections = fleet.members.countP Handler.active := by
  have records := fleet.shared.metrics.connections.distinct
  have perm : ((fleet.shared.metrics.connections.records.filter (fun connection =>
        connection.connectionType = .tcp && connection.endTime.isNone)).map
          ConnectionMetrics.id).Perm
      ((fleet.members.filter Handler.active).filterMap Handler.connectionId?) := by
    refine (List.perm_ext_iff_of_nodup (records.sublist (List.filter_sublist.map _))
      ((separate_of_run run).distinct.sublist (List.filter_sublist.filterMap _))).mpr fun id => ?_
    rw [mem_activeIds, ← open_iff_running run id]
    simp only [List.mem_map, List.mem_filter, Bool.and_eq_true, decide_eq_true_eq]
    constructor
    · rintro ⟨connection, ⟨inside, tcp, unended⟩, sameId⟩
      exact ⟨connection, inside, sameId, tcp, unended⟩
    · rintro ⟨connection, inside, sameId, tcp, unended⟩
      exact ⟨connection, ⟨inside, tcp, unended⟩, sameId⟩
  have lengths := perm.length_eq
  rw [List.length_map, ← List.countP_eq_length_filter, length_activeIds] at lengths
  exact lengths

/-- Any number of TCP connections and all that the QUIC server does, in any order: every
connection that a task serves goes through the steps it would go through alone on a
collector of its own, its record is the one it would have there, with the traffic of the
messages that were dispatched to it and of its replies, and it has an end exactly when
its task has returned. There is no other record of a TCP connection: a task that has not
been polled, or found no local address, has none. The active TCP connections are the
tasks that serve one and have not returned. -/
theorem connections_isolated (run : process.Run serversStarted trace fleet) :
    (∀ (index : Nat) connectionId stage,
      fleet.members[index]? = some (.handling connectionId stage) →
        ∃ now solo metrics,
          servingMachine.Run (Serving.accept connectionId {} now) solo
            ⟨connectionId, stage, metrics⟩ ∧
          Crew.moves index trace =
            .started connectionId :: solo.map (fun step => .serve step.2) ∧
          fleet.shared.metrics.connections.get? connectionId =
            metrics.connections.get? connectionId ∧
          fleet.shared.metrics.traffic connectionId =
            some (Serving.tally (Serving.dispatched solo) (Serving.replies solo)) ∧
          (fleet.shared.metrics.Ended connectionId ↔ stage = .returned)) ∧
    (∀ connectionId, OfTcp fleet.shared connectionId ↔
      ∃ stage, .handling connectionId stage ∈ fleet.members) ∧
    fleet.shared.metrics.getActiveTcpConnections = fleet.members.countP Handler.active := by
  refine ⟨fun index connectionId stage present => ?_, fun connectionId => ?_,
    getActiveTcpConnections_of_run run⟩
  · have alone : Alone (Crew.moves index trace) connectionId stage fleet.shared :=
      placed_of_run run index _ present
    obtain ⟨now, solo, metrics, own, labels, same⟩ := alone.solo
    obtain ⟨connection, found, ended⟩ := alone.record
    refine ⟨now, solo, metrics, own, labels, same.symm, ?_, ?_⟩
    · have traffic := (Serving.standing_of_run own).traffic
      rw [MetricsCollector.traffic, ← same]
      exact traffic
    · simp only [MetricsCollector.Ended, found, Option.some.injEq, exists_eq_left', ended]
  · rw [(separate_of_run run).tcp, mem_handlerIds]

end Runs

/-! ## Four connections beside a QUIC session -/

/-- A page on one TCP connection and a close request on another, while a QUIC session is
opened; a third connection has no local address, and the task of a fourth is not polled. -/
def pageAndClose : List (FleetLabel Unit HandlerLabel ServerLabel) :=
  [.join (), .move 0 (.started ⟨1⟩), .act (.opened ⟨"192.0.2.1:40000"⟩ ⟨7⟩), .join (), .join (),
    .act (.started 0), .move 1 (.started ⟨2⟩), .move 2 .unaddressed,
    .move 0 (.serve (.received ⟨⟨1⟩, .httpRequest, [71], 0⟩ 0 0 1)),
    .move 1 (.serve (.received ⟨⟨2⟩, .connectionClose, [], 0⟩ 0 0 2)), .join (),
    .move 0 (.serve (.sent 0 0))]

theorem connections_isolated_pageAndClose :
    ∃ fleet, process.play serversStarted pageAndClose = some fleet ∧
      fleet.members.length = 4 ∧ fleet.shared.metrics.getActiveTcpConnections = 1 ∧
      ∃ now solo metrics,
        servingMachine.Run (Serving.accept ⟨1⟩ {} now) solo ⟨⟨1⟩, .receiving, metrics⟩ ∧
        fleet.shared.metrics.traffic ⟨1⟩ =
          some (Serving.tally (Serving.dispatched solo) (Serving.replies solo)) := by
  obtain ⟨fleet, played⟩ := Option.isSome_iff_exists.mp (show
    (process.play serversStarted pageAndClose).isSome = true by decide +kernel)
  have members : (process.play serversStarted pageAndClose).map (·.members) =
      some [.handling ⟨1⟩ .receiving, .handling ⟨2⟩ .returned, .unaddressed, .spawned] := by
    decide +kernel
  rw [played, Option.map_some, Option.some.injEq] at members
  obtain ⟨alone, -, active⟩ := connections_isolated (Machine.run_of_play played)
  obtain ⟨now, solo, metrics, run, -, -, traffic, -⟩ :=
    alone 0 ⟨1⟩ .receiving (by rw [members]; rfl)
  refine ⟨fleet, played, by rw [members]; rfl, ?_, now, solo, metrics, run, traffic⟩
  rw [active, members]
  rfl

end Npt.Server.TcpServer
