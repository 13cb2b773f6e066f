import Mathlib.Data.List.Infix
import Npt.Core.TransitionSystem
import Npt.Shared.Metrics

/-!
Contract: the QUIC server (`server/src/quic_server.rs`).

Sessions live in one map under the remote address of their connection. The task
of a connection inserts its session, starts its metrics record, gives each
stream a task of its own, and at its end removes the session under its address.
A stream finds a session under its address. The cleanup task removes the
sessions it found idle. Tasks interleave wherever none of them holds the lock.

Owns: the session map, the tasks, and the server machine.

Does not own: the transport, whose deliveries and errors are labels, or what a
response holds beyond its length. A new connection id is one that neither a
connection nor the metrics have seen.
-/

namespace Npt.Server

open Npt.Core
open Npt.Shared

structure QuicSession where
  id : Uuid
  startTime : Nat
  lastActivity : Nat
  requestsHandled : UInt64 := 0
  bytesSent : UInt64 := 0
  bytesReceived : UInt64 := 0
deriving DecidableEq, Repr

inductive ConnectionStage where
  /-- The session is in the map, the record not yet in the metrics. -/
  | inserted
  | serving
  | returned
deriving DecidableEq, Repr

/-- The task of `handle_connection` behind its handshake. -/
structure Connection where
  remoteAddr : SocketAddr
  connectionId : Uuid
  stage : ConnectionStage := .inserted
deriving DecidableEq, Repr

inductive StreamStage where
  | reading (requestData : List UInt8)
  | received (requestData : List UInt8)
  | responding (length : Nat)
  | responded (length : Nat)
  | returned
deriving DecidableEq, Repr

/-- The task of `handle_stream`, with the connection that carries the stream. -/
structure Stream where
  connection : Nat
  remoteAddr : SocketAddr
  stage : StreamStage := .reading []
deriving DecidableEq, Repr

structure ServerState where
  now : Nat := 0
  sessions : Table (Prod.fst : SocketAddr × QuicSession → SocketAddr) := .empty
  metrics : MetricsCollector := {}
  connections : List Connection := []
  streams : List Stream := []
  /-- What the cleanup task has collected and not yet removed. -/
  toRemove : List SocketAddr := []

/-! ## The response -/

/-- `request.lines().next()`. -/
def firstLine (request : List UInt8) : List UInt8 :=
  let line := request.takeWhile (· ≠ 10)
  if 10 ∈ request ∧ line.getLast? = some 13 then line.dropLast else line

/-- `path.contains` for an ASCII pattern, which a lossy decoding keeps as it is. -/
def pathContains (path : List UInt8) (pattern : String) : Bool :=
  decide (pattern.toUTF8.toList <:+: path)

/-- The length of what `generate_response` returns. -/
def responseSize (request : List UInt8) : Nat :=
  let path := if request = [] then "/default".toUTF8.toList else firstLine request
  if pathContains path ".html" then 1024
  else if pathContains path ".css" then 512
  else if pathContains path ".js" then 512
  else if pathContains path ".png" || pathContains path ".jpg" then 2048
  else if pathContains path ".json" then 256
  else 512

/-! ## Operations on sessions -/

/-- The session under an address. -/
def ServerState.session (state : ServerState) (address : SocketAddr) : Option QuicSession :=
  (state.sessions.get? address).map Prod.snd

def ServerState.insertSession (state : ServerState) (address : SocketAddr)
    (session : QuicSession) : ServerState :=
  { state with sessions := state.sessions.insert (address, session) }

/-- Remove the session under an address and end the connection it names. -/
def ServerState.removeSession (state : ServerState) (address : SocketAddr) : ServerState :=
  match state.session address with
  | some session => { state with
      sessions := state.sessions.remove address
      metrics := state.metrics.endConnection state.now session.id }
  | none => state

def ServerState.removeSessions (state : ServerState) (addresses : List SocketAddr) : ServerState :=
  addresses.foldl ServerState.removeSession state

/-- Update the session under an address and the record of the connection it
names. -/
def ServerState.updateSession (state : ServerState) (address : SocketAddr)
    (change : QuicSession → QuicSession) (record : MetricsCollector → Uuid → MetricsCollector) :
    ServerState :=
  match state.session address with
  | some session => { state with
      sessions := state.sessions.modify address (fun entry => (entry.1, change entry.2))
        (fun _ => rfl)
      metrics := record state.metrics session.id }
  | none => state

/-- The session metrics of a request of `length` bytes. -/
def ServerState.recordRequest (state : ServerState) (address : SocketAddr) (length : Nat) :
    ServerState :=
  state.updateSession address
    (fun session => { session with
      lastActivity := state.now
      requestsHandled := session.requestsHandled + 1
      bytesReceived := session.bytesReceived + UInt64.ofNat length })
    (fun metrics id =>
      (metrics.recordPacketReceived id).recordBytesReceived id (UInt64.ofNat length))

/-- The session metrics of a response of `length` bytes; the draw is its
simulated latency. -/
def ServerState.recordResponse (state : ServerState) (address : SocketAddr) (length draw : Nat) :
    ServerState :=
  state.updateSession address
    (fun session => { session with bytesSent := session.bytesSent + UInt64.ofNat length })
    (fun metrics id =>
      ((metrics.recordPacketSent id).recordBytesSent id (UInt64.ofNat length)).recordLatency id
        (1 + draw % 50))

/-! ## The tasks -/

inductive StreamLabel where
  /-- `rx.read` returns the next bytes, at most a buffer full. -/
  | read (data : List UInt8)
  /-- `rx.read` returns the end of the stream or an error, or takes 10 s. -/
  | readEnds
  | recordRequest
  | written
  | writeFailed
  | recordResponse (draw : Nat)
deriving DecidableEq, Repr

inductive ServerLabel where
  /-- The handshake of a connection is done and its session inserted. -/
  | opened (remoteAddr : SocketAddr) (connectionId : Uuid)
  /-- `start_connection`. -/
  | started (index : Nat)
  | streamAccepted (index : Nat)
  /-- `accept_bi` returns an error and the session is cleaned up. -/
  | ended (index : Nat)
  | stream (position : Nat) (label : StreamLabel)
  /-- The cleanup task collects the idle sessions. -/
  | cleanupScan
  /-- The cleanup task removes what it has collected. -/
  | cleanupSweep
  | elapse (ms : Nat)
deriving DecidableEq, Repr

/-- `\r\n\r\n`. -/
def requestEnd : List UInt8 := [13, 10, 13, 10]

/-- Where a stream goes when it has read its request. -/
def afterReading (requestData : List UInt8) : StreamStage :=
  if requestData = [] then .returned else .received requestData

/-- One step of `handle_stream`. -/
def streamStep (state : ServerState) (stream : Stream) :
    StreamLabel → Option (ServerState × StreamStage)
  | .read data =>
      match stream.stage with
      | .reading requestData =>
          if data.length ≤ 4096 then
            if data = [] then some (state, afterReading requestData)
            else if requestEnd <:+ requestData ++ data then
              some (state, .received (requestData ++ data))
            else some (state, .reading (requestData ++ data))
          else none
      | _ => none
  | .readEnds =>
      match stream.stage with
      | .reading requestData => some (state, afterReading requestData)
      | _ => none
  | .recordRequest =>
      match stream.stage with
      | .received requestData =>
          some (state.recordRequest stream.remoteAddr requestData.length,
            .responding (responseSize requestData))
      | _ => none
  | .written =>
      match stream.stage with
      | .responding length => some (state, .responded length)
      | _ => none
  | .writeFailed =>
      match stream.stage with
      | .responding _ => some (state, .returned)
      | _ => none
  | .recordResponse draw =>
      match stream.stage with
      | .responded length =>
          some (state.recordResponse stream.remoteAddr length draw, .returned)
      | _ => none

/-- The sessions without activity for more than 120 s. -/
def ServerState.inactive (state : ServerState) : List SocketAddr :=
  (state.sessions.records.filter
    (fun entry => decide (120000 < state.now - entry.2.lastActivity))).map Prod.fst

/-- A connection moves on from one stage to the next. -/
def ServerState.advance (state : ServerState) (index : Nat) (connection : Connection)
    (stage : ConnectionStage) : ServerState :=
  { state with connections := state.connections.set index { connection with stage := stage } }

def serverStep (state : ServerState) : ServerLabel → Option ServerState
  | .opened remoteAddr connectionId =>
      if connectionId ∈ state.connections.map Connection.connectionId ∨
          state.metrics.Registered connectionId then none
      else some { state.insertSession remoteAddr
          { id := connectionId, startTime := state.now, lastActivity := state.now } with
        connections := state.connections ++
          [{ remoteAddr := remoteAddr, connectionId := connectionId }] }
  | .started index =>
      (state.connections[index]?).bind (fun connection =>
        if connection.stage = .inserted then
          some { state.advance index connection .serving with
            metrics := state.metrics.startConnection state.now connection.connectionId .quic }
        else none)
  | .streamAccepted index =>
      (state.connections[index]?).bind (fun connection =>
        if connection.stage = .serving then
          some { state with
            streams := state.streams ++
              [{ connection := index, remoteAddr := connection.remoteAddr }] }
        else none)
  | .ended index =>
      (state.connections[index]?).bind (fun connection =>
        if connection.stage = .serving then
          some ((state.removeSession connection.remoteAddr).advance index connection .returned)
        else none)
  | .stream position label =>
      (state.streams[position]?).bind (fun stream =>
        (streamStep state stream label).map (fun result => { result.1 with
          streams := state.streams.set position { stream with stage := result.2 } }))
  | .cleanupScan =>
      if state.toRemove = [] then some { state with toRemove := state.inactive } else none
  | .cleanupSweep =>
      if state.toRemove = [] then none
      else some { state.removeSessions state.toRemove with toRemove := [] }
  | .elapse ms => some { state with now := state.now + ms }

def serverMachine : Machine ServerState ServerLabel := ⟨serverStep⟩

/-- `QuicServer::new`, over the metrics of the process. -/
def startServer (metrics : MetricsCollector) : ServerState := { metrics := metrics }

/-! ## What the operations do -/

/-- The connection whose session is under an address. -/
def ServerState.holder (state : ServerState) (address : SocketAddr) : Option Uuid :=
  (state.session address).map QuicSession.id

section Operations

variable (state : ServerState) (address other : SocketAddr) (id : Uuid)

theorem holder_insertSession (session : QuicSession) :
    (state.insertSession address session).holder other =
      if other = address then some session.id else state.holder other := by
  by_cases same : other = address
  · subst same
    have here := state.sessions.get?_insert_self (other, session)
    simp only [ServerState.holder, ServerState.session, ServerState.insertSession] at here ⊢
    simp [here]
  · have there : (state.sessions.insert (address, session)).get? other = _ :=
      state.sessions.get?_insert_ne same
    simp [ServerState.holder, ServerState.session, ServerState.insertSession, there, same]

theorem holder_removeSession :
    (state.removeSession address).holder other =
      if other = address then none else state.holder other := by
  unfold ServerState.removeSession
  by_cases same : other = address
  · subst same
    split
    · simp [ServerState.holder, ServerState.session, Table.get?_remove_self]
    · rename_i vacant
      simp [ServerState.holder, vacant]
  · split
    · simp [ServerState.holder, ServerState.session, Table.get?_remove_ne _ same, same]
    · simp [same]

theorem registered_removeSession :
    (state.removeSession address).metrics.Registered id ↔ state.metrics.Registered id := by
  unfold ServerState.removeSession
  split
  · exact MetricsCollector.registered_update _ _ _ _ _
  · rfl

theorem ended_removeSession :
    (state.removeSession address).metrics.Ended id ↔
      state.metrics.Ended id ∨ state.holder address = some id ∧ state.metrics.Registered id := by
  unfold ServerState.removeSession
  split
  · rename_i session found
    rw [MetricsCollector.ended_endConnection]
    simp [ServerState.holder, found, eq_comm]
  · rename_i vacant
    simp [ServerState.holder, vacant]

theorem traffic_removeSession :
    (state.removeSession address).metrics.traffic id = state.metrics.traffic id := by
  unfold ServerState.removeSession
  split
  · rename_i session found
    have same := state.metrics.traffic_update id session.id 0
      (fun connection => { connection with endTime := some state.now }) (fun _ => rfl)
      (fun connection => (add_zero connection.traffic).symm)
    simpa [MetricsCollector.endConnection] using same
  · rfl

theorem connections_removeSession :
    (state.removeSession address).connections = state.connections := by
  unfold ServerState.removeSession
  split <;> rfl

theorem streams_removeSession : (state.removeSession address).streams = state.streams := by
  unfold ServerState.removeSession
  split <;> rfl

section Update

variable (change : QuicSession → QuicSession) (record : MetricsCollector → Uuid → MetricsCollector)

theorem connections_updateSession :
    (state.updateSession address change record).connections = state.connections := by
  unfold ServerState.updateSession
  split <;> rfl

theorem holder_updateSession (keeps : ∀ session, (change session).id = session.id) :
    (state.updateSession address change record).holder other = state.holder other := by
  unfold ServerState.updateSession
  split
  · simp only [ServerState.holder, ServerState.session, Table.get?_modify, Option.map_map]
    cases state.sessions.get? other with
    | none => rfl
    | some entry =>
        simp only [Option.map_some, Function.comp_apply]
        split
        · rw [keeps]
        · rfl
  · rfl

/-- An update records on the connection whose session it finds. -/
theorem metrics_updateSession :
    (state.updateSession address change record).metrics =
      match state.holder address with
      | some found => record state.metrics found
      | none => state.metrics := by
  unfold ServerState.updateSession ServerState.holder
  cases state.session address with
  | none => rfl
  | some session => rfl

end Update

end Operations

/-- What a removal under several addresses leaves. -/
structure Removed (state : ServerState) (addresses : List SocketAddr) (next : ServerState) :
    Prop where
  holder : ∀ other, next.holder other = if other ∈ addresses then none else state.holder other
  registered : ∀ id, next.metrics.Registered id ↔ state.metrics.Registered id
  ended : ∀ id, next.metrics.Ended id ↔ state.metrics.Ended id ∨
    (∃ address ∈ addresses, state.holder address = some id) ∧ state.metrics.Registered id
  traffic : ∀ id, next.metrics.traffic id = state.metrics.traffic id
  connections : next.connections = state.connections
  streams : next.streams = state.streams

theorem removed_removeSessions (state : ServerState) (addresses : List SocketAddr) :
    Removed state addresses (state.removeSessions addresses) := by
  induction addresses generalizing state with
  | nil => constructor <;> simp [ServerState.removeSessions]
  | cons address addresses inductionHypothesis =>
      have rest := inductionHypothesis (state.removeSession address)
      constructor
      · intro other
        rw [ServerState.removeSessions, List.foldl_cons, ← ServerState.removeSessions, rest.holder,
          holder_removeSession]
        by_cases same : other = address <;> simp [same]
      · intro id
        exact (rest.registered id).trans (registered_removeSession state address id)
      · intro id
        rw [ServerState.removeSessions, List.foldl_cons, ← ServerState.removeSessions, rest.ended,
          ended_removeSession, registered_removeSession]
        have later : (∃ other ∈ addresses, (state.removeSession address).holder other = some id) ↔
            ∃ other ∈ addresses, other ≠ address ∧ state.holder other = some id := by
          refine exists_congr (fun other => and_congr_right (fun _ => ?_))
          rw [holder_removeSession]
          split <;> simp_all
        rw [later, List.exists_mem_cons_iff]
        constructor
        · rintro ((ended | ⟨here, known⟩) | ⟨⟨other, member, _, there⟩, known⟩)
          · exact Or.inl ended
          · exact Or.inr ⟨Or.inl here, known⟩
          · exact Or.inr ⟨Or.inr ⟨other, member, there⟩, known⟩
        · rintro (ended | ⟨here | ⟨other, member, there⟩, known⟩)
          · exact Or.inl (Or.inl ended)
          · exact Or.inl (Or.inr ⟨here, known⟩)
          · by_cases same : other = address
            · exact Or.inl (Or.inr ⟨same ▸ there, known⟩)
            · exact Or.inr ⟨⟨other, member, same, there⟩, known⟩
      · intro id
        exact (rest.traffic id).trans (traffic_removeSession state address id)
      · exact rest.connections.trans (connections_removeSession state address)
      · exact rest.streams.trans (streams_removeSession state address)

/-! ## What a step can do -/

/-- What a step of a stream records. -/
def StreamStage.traffic : StreamStage → StreamLabel → Option Traffic
  | .received requestData, .recordRequest =>
      some { packetsReceived := 1, bytesReceived := UInt64.ofNat requestData.length }
  | .responded length, .recordResponse _ =>
      some { packetsSent := 1, bytesSent := UInt64.ofNat length }
  | _, _ => none

theorem records_request (length : Nat) :
    MetricsCollector.Records
      (fun metrics id =>
        (metrics.recordPacketReceived id).recordBytesReceived id (UInt64.ofNat length))
      { packetsReceived := 1, bytesReceived := UInt64.ofNat length } := by
  have both := MetricsCollector.records_packetReceived.comp
    (MetricsCollector.records_bytesReceived (UInt64.ofNat length))
  simpa [Traffic.add_def, Traffic.add] using both

theorem records_response (length latency : Nat) :
    MetricsCollector.Records
      (fun metrics id => ((metrics.recordPacketSent id).recordBytesSent id
        (UInt64.ofNat length)).recordLatency id latency)
      { packetsSent := 1, bytesSent := UInt64.ofNat length } := by
  have all := (MetricsCollector.records_packetSent.comp
    (MetricsCollector.records_bytesSent (UInt64.ofNat length))).comp
      (MetricsCollector.records_latency latency)
  simpa [Traffic.add_def, Traffic.add] using all

/-- The steps of the server. -/
inductive ServerMove (state : ServerState) : ServerLabel → ServerState → Prop where
  | opened {remoteAddr : SocketAddr} {connectionId : Uuid}
      (fresh : connectionId ∉ state.connections.map Connection.connectionId)
      (unregistered : ¬ state.metrics.Registered connectionId) :
      ServerMove state (.opened remoteAddr connectionId)
        { state.insertSession remoteAddr
            { id := connectionId, startTime := state.now, lastActivity := state.now } with
          connections := state.connections ++
            [{ remoteAddr := remoteAddr, connectionId := connectionId }] }
  | started {index : Nat} {connection : Connection}
      (present : state.connections[index]? = some connection)
      (stage : connection.stage = .inserted) :
      ServerMove state (.started index)
        { state.advance index connection .serving with
          metrics := state.metrics.startConnection state.now connection.connectionId .quic }
  | accepted {index : Nat} {connection : Connection}
      (present : state.connections[index]? = some connection)
      (stage : connection.stage = .serving) :
      ServerMove state (.streamAccepted index)
        { state with
          streams := state.streams ++ [{ connection := index, remoteAddr := connection.remoteAddr }] }
  | ended {index : Nat} {connection : Connection}
      (present : state.connections[index]? = some connection)
      (stage : connection.stage = .serving) :
      ServerMove state (.ended index)
        ((state.removeSession connection.remoteAddr).advance index connection .returned)
  | recorded {position : Nat} {stream : Stream} {label : StreamLabel} {amount : Traffic}
      {change : QuicSession → QuicSession} {record : MetricsCollector → Uuid → MetricsCollector}
      {stage : StreamStage} (present : state.streams[position]? = some stream)
      (carried : stream.stage.traffic label = some amount)
      (keeps : ∀ session, (change session).id = session.id)
      (records : MetricsCollector.Records record amount) :
      ServerMove state (.stream position label)
        { state.updateSession stream.remoteAddr change record with
          streams := state.streams.set position { stream with stage := stage } }
  | streamed {position : Nat} {stream : Stream} {label : StreamLabel} {stage : StreamStage}
      (present : state.streams[position]? = some stream)
      (nothing : stream.stage.traffic label = none) :
      ServerMove state (.stream position label)
        { state with streams := state.streams.set position { stream with stage := stage } }
  | scanned : ServerMove state .cleanupScan { state with toRemove := state.inactive }
  | swept : ServerMove state .cleanupSweep
      { state.removeSessions state.toRemove with toRemove := [] }
  | elapsed {ms : Nat} : ServerMove state (.elapse ms) { state with now := state.now + ms }

theorem move_of_streamStep {state after : ServerState} {position : Nat} {stream : Stream}
    {label : StreamLabel} {stage : StreamStage}
    (present : state.streams[position]? = some stream)
    (taken : streamStep state stream label = some (after, stage)) :
    ServerMove state (.stream position label)
      { after with streams := state.streams.set position { stream with stage := stage } } := by
  cases label with
  | read data =>
      simp only [streamStep] at taken
      split at taken
      · rename_i requestData reading
        have same : after = state := by
          repeat' split at taken
          all_goals simp_all
        rw [same]
        exact .streamed present (by simp [reading, StreamStage.traffic])
      · simp at taken
  | readEnds =>
      simp only [streamStep] at taken
      split at taken
      · rename_i requestData reading
        obtain ⟨rfl, rfl⟩ := Prod.mk.inj (Option.some.inj taken)
        exact .streamed present (by simp [reading, StreamStage.traffic])
      · simp at taken
  | recordRequest =>
      simp only [streamStep] at taken
      split at taken
      · rename_i requestData received
        obtain ⟨rfl, rfl⟩ := Prod.mk.inj (Option.some.inj taken)
        exact .recorded present (by rw [received]; rfl) (fun _ => rfl) (records_request _)
      · simp at taken
  | written =>
      simp only [streamStep] at taken
      split at taken
      · rename_i length responding
        obtain ⟨rfl, rfl⟩ := Prod.mk.inj (Option.some.inj taken)
        exact .streamed present (by simp [responding, StreamStage.traffic])
      · simp at taken
  | writeFailed =>
      simp only [streamStep] at taken
      split at taken
      · rename_i length responding
        obtain ⟨rfl, rfl⟩ := Prod.mk.inj (Option.some.inj taken)
        exact .streamed present (by simp [responding, StreamStage.traffic])
      · simp at taken
  | recordResponse draw =>
      simp only [streamStep] at taken
      split at taken
      · rename_i length responded
        obtain ⟨rfl, rfl⟩ := Prod.mk.inj (Option.some.inj taken)
        exact .recorded present (by rw [responded]; rfl) (fun _ => rfl) (records_response _ _)
      · simp at taken

theorem move_of_serverStep {state next : ServerState} {label : ServerLabel}
    (taken : serverMachine.step state label = some next) : ServerMove state label next := by
  cases label with
  | opened remoteAddr connectionId =>
      simp only [serverMachine, serverStep] at taken
      split at taken
      · simp at taken
      · rename_i new
        obtain rfl := Option.some.inj taken
        exact .opened (fun seen => new (Or.inl seen)) (fun seen => new (Or.inr seen))
  | started index =>
      obtain ⟨connection, present, guarded⟩ := Option.bind_eq_some_iff.mp taken
      split at guarded
      · rename_i stage
        obtain rfl := Option.some.inj guarded
        exact .started present stage
      · simp at guarded
  | streamAccepted index =>
      obtain ⟨connection, present, guarded⟩ := Option.bind_eq_some_iff.mp taken
      split at guarded
      · rename_i stage
        obtain rfl := Option.some.inj guarded
        exact .accepted present stage
      · simp at guarded
  | ended index =>
      obtain ⟨connection, present, guarded⟩ := Option.bind_eq_some_iff.mp taken
      split at guarded
      · rename_i stage
        obtain rfl := Option.some.inj guarded
        exact .ended present stage
      · simp at guarded
  | stream position label =>
      obtain ⟨stream, present, stepped⟩ := Option.bind_eq_some_iff.mp taken
      obtain ⟨⟨after, stage⟩, own, rfl⟩ := Option.map_eq_some_iff.mp stepped
      exact move_of_streamStep present own
  | cleanupScan =>
      simp only [serverMachine, serverStep] at taken
      split at taken
      · obtain rfl := Option.some.inj taken
        exact .scanned
      · simp at taken
  | cleanupSweep =>
      simp only [serverMachine, serverStep] at taken
      split at taken
      · simp at taken
      · obtain rfl := Option.some.inj taken
        exact .swept
  | elapse ms =>
      obtain rfl := Option.some.inj taken
      exact .elapsed

end Npt.Server
