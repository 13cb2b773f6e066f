import Mathlib.Algebra.BigOperators.Group.List.Basic
import Npt.Core.IndexedFamily
import Npt.Server.QuicServer

/-!
Owns: what becomes of a session between its insertion and the end of its
connection, and on which record the traffic of a stream lands. A session leaves
the map when a connection is opened or ends at its address, or when cleanup
removes the address; only a removal ends a record, and only one that is started.

Does not own: which sessions cleanup finds idle.
-/

namespace Npt.Server

open Npt.Core
open Npt.Shared

/-! ## Steps that take a session away -/

/-- The addresses under which a step removes. -/
def removals (state : ServerState) : ServerLabel → List SocketAddr
  | .ended index => ((state.connections[index]?).map Connection.remoteAddr).toList
  | .cleanupSweep => state.toRemove
  | _ => []

/-- The address from which a step opens a connection. -/
def opensAt : ServerLabel → Option SocketAddr
  | .opened remoteAddr _ => some remoteAddr
  | _ => none

/-- The session under the address of a connection is the connection's own. -/
def Holds (state : ServerState) (connection : Connection) : Prop :=
  state.holder connection.remoteAddr = some connection.connectionId

/-- The step overwrites or removes what is under the address of a connection. -/
def Displaces (index : Nat) (state : ServerState) (label : ServerLabel) : Prop :=
  ∃ connection ∈ state.connections[index]?,
    opensAt label = some connection.remoteAddr ∨ connection.remoteAddr ∈ removals state label

/-- The step takes a connection's session away without ending its record: it
overwrites the session, or removes it before the record is started. -/
def Orphans (index : Nat) (state : ServerState) (label : ServerLabel) : Prop :=
  ∃ connection ∈ state.connections[index]?, Holds state connection ∧
    (opensAt label = some connection.remoteAddr ∨
      connection.stage = .inserted ∧ connection.remoteAddr ∈ removals state label)

/-- How far a connection comes in a step. -/
inductive StageMove (index : Nat) (label : ServerLabel) : ConnectionStage → ConnectionStage → Prop where
  | stayed (stage : ConnectionStage) (other : label ≠ .started index) :
      StageMove index label stage stage
  | started (own : label = .started index) : StageMove index label .inserted .serving
  | ended (own : label = .ended index) : StageMove index label .serving .returned

theorem StageMove.kept {index : Nat} {label : ServerLabel} {before after : ConnectionStage}
    (moved : StageMove index label before after) (past : before ≠ .inserted) :
    after ≠ .inserted := by
  cases moved with
  | stayed _ other => exact past
  | started own => exact absurd rfl past
  | ended own => simp

instance (state : ServerState) (connection : Connection) : Decidable (Holds state connection) :=
  inferInstanceAs (Decidable (_ = _))

instance (index : Nat) (state : ServerState) (label : ServerLabel) :
    Decidable (Orphans index state label) :=
  inferInstanceAs (Decidable (∃ connection ∈ state.connections[index]?, Holds state connection ∧
    (opensAt label = some connection.remoteAddr ∨
      connection.stage = .inserted ∧ connection.remoteAddr ∈ removals state label)))

section Step

variable {state next : ServerState} {label : ServerLabel}

/-- No step both opens and removes. -/
theorem removals_of_opensAt {address : SocketAddr} (opens : opensAt label = some address) :
    removals state label = [] := by
  cases label with
  | opened remoteAddr connectionId => rfl
  | _ => simp [opensAt] at opens

theorem length_of_move (move : ServerMove state label next) :
    state.connections.length ≤ next.connections.length := by
  cases move with
  | opened fresh unregistered => simp
  | started there stage => simp [ServerState.advance]
  | ended there stage => simp [ServerState.advance, connections_removeSession]
  | recorded there carried keeps records => simp [connections_updateSession]
  | swept => simp [(removed_removeSessions state state.toRemove).connections]
  | accepted there stage => exact Nat.le_refl _
  | streamed there nothing => exact Nat.le_refl _
  | scanned => exact Nat.le_refl _
  | elapsed => exact Nat.le_refl _

/-- A connection of the next state was there before, or is the one opened. -/
theorem connection_of_move (move : ServerMove state label next) {index : Nat}
    {connection : Connection} (present : next.connections[index]? = some connection) :
    (∃ before, state.connections[index]? = some before ∧
        before.remoteAddr = connection.remoteAddr ∧
        before.connectionId = connection.connectionId ∧
        StageMove index label before.stage connection.stage) ∨
      (index = state.connections.length ∧ connection.stage = .inserted ∧
        label = .opened connection.remoteAddr connection.connectionId ∧
        connection.connectionId ∉ state.connections.map Connection.connectionId ∧
        ¬ state.metrics.Registered connection.connectionId) := by
  have stays (same : next.connections = state.connections) (other : label ≠ .started index) :
      ∃ before, state.connections[index]? = some before ∧
        before.remoteAddr = connection.remoteAddr ∧
        before.connectionId = connection.connectionId ∧
        StageMove index label before.stage connection.stage :=
    ⟨connection, same ▸ present, rfl, rfl, .stayed _ other⟩
  have advances {changed : Nat} {old : Connection} {stage : ConnectionStage}
      (there : state.connections[changed]? = some old)
      (connections : next.connections = state.connections.set changed { old with stage := stage })
      (moved : StageMove changed label old.stage stage)
      (others : changed ≠ index → label ≠ .started index) :
      ∃ before, state.connections[index]? = some before ∧
        before.remoteAddr = connection.remoteAddr ∧
        before.connectionId = connection.connectionId ∧
        StageMove index label before.stage connection.stage := by
    rw [connections] at present
    by_cases here : changed = index
    · subst here
      rw [getElem?_set_self_of_some there] at present
      obtain rfl := Option.some.inj present
      exact ⟨old, there, rfl, rfl, moved⟩
    · rw [List.getElem?_set_ne here] at present
      exact ⟨connection, present, rfl, rfl, .stayed _ (others here)⟩
  cases move with
  | opened fresh unregistered =>
      rcases getElem?_snoc_cases present with earlier | ⟨last, rfl⟩
      · exact Or.inl ⟨connection, earlier, rfl, rfl, .stayed _ (by simp)⟩
      · exact Or.inr ⟨last, rfl, rfl, fresh, unregistered⟩
  | started there stage =>
      exact Or.inl (advances there rfl (stage ▸ StageMove.started rfl) (by simp))
  | @ended ending old there stage =>
      have moved : StageMove ending (.ended ending) old.stage .returned := stage ▸ .ended rfl
      refine Or.inl (advances there ?_ moved (by simp))
      rw [ServerState.advance, connections_removeSession]
  | accepted there stage => exact Or.inl (stays rfl (by simp))
  | recorded there carried keeps records =>
      exact Or.inl (stays (connections_updateSession _ _ _ _) (by simp))
  | streamed there nothing => exact Or.inl (stays rfl (by simp))
  | scanned => exact Or.inl (stays rfl (by simp))
  | swept => 
      exact Or.inl (stays (removed_removeSessions state state.toRemove).connections (by simp))
  | elapsed => exact Or.inl (stays rfl (by simp))

/-- A connection stays in its place. -/
theorem connection_next (move : ServerMove state label next) {index : Nat} {connection : Connection}
    (present : state.connections[index]? = some connection) :
    ∃ after, next.connections[index]? = some after ∧
      after.remoteAddr = connection.remoteAddr ∧
      after.connectionId = connection.connectionId := by
  have longer : index < next.connections.length := by
    have bound := (List.getElem?_eq_some_iff.mp present).1
    exact Nat.lt_of_lt_of_le bound (length_of_move move)
  obtain ⟨after, there⟩ : ∃ after, next.connections[index]? = some after :=
    ⟨_, List.getElem?_eq_getElem longer⟩
  rcases connection_of_move move there with ⟨before, here, address, id, _⟩ | ⟨last, _⟩
  · obtain rfl : before = connection := Option.some.inj (here.symm.trans present)
    exact ⟨after, there, address.symm, id.symm⟩
  · have bound := (List.getElem?_eq_some_iff.mp present).1
    omega

/-- Whose session is under an address after a step. -/
theorem holder_of_move (move : ServerMove state label next) (address : SocketAddr) :
    (opensAt label = none ∧
      next.holder address = if address ∈ removals state label then none else state.holder address) ∨
    ∃ remoteAddr connectionId, label = .opened remoteAddr connectionId ∧
      next.holder address = if address = remoteAddr then some connectionId
        else state.holder address := by
  cases move with
  | @opened remoteAddr connectionId fresh unregistered =>
      exact Or.inr ⟨remoteAddr, connectionId, rfl, holder_insertSession _ _ _ _⟩
  | @ended index connection there stage =>
      refine Or.inl ⟨rfl, (holder_removeSession state connection.remoteAddr address).trans ?_⟩
      simp [removals, there]
  | swept => exact Or.inl ⟨rfl, (removed_removeSessions state state.toRemove).holder address⟩
  | recorded there carried keeps records =>
      exact Or.inl ⟨rfl, (holder_updateSession _ _ _ _ _ keeps).trans (by simp [removals])⟩
  | started there stage => exact Or.inl ⟨rfl, by simp [removals]; rfl⟩
  | accepted there stage => exact Or.inl ⟨rfl, by simp [removals]; rfl⟩
  | streamed there nothing => exact Or.inl ⟨rfl, by simp [removals]; rfl⟩
  | scanned => exact Or.inl ⟨rfl, by simp [removals]; rfl⟩
  | elapsed => exact Or.inl ⟨rfl, by simp [removals]; rfl⟩

/-- A session that is there after a step was there before, or is the one opened. -/
theorem holder_cases (move : ServerMove state label next) {address : SocketAddr} {id : Uuid}
    (held : next.holder address = some id) :
    (state.holder address = some id ∧ opensAt label ≠ some address ∧
      address ∉ removals state label) ∨ label = .opened address id := by
  rcases holder_of_move move address with ⟨quiet, after⟩ | ⟨remoteAddr, connectionId, rfl, after⟩
  · rw [after] at held
    by_cases removed : address ∈ removals state label
    · simp [removed] at held
    · exact Or.inl ⟨by simpa [removed] using held, by simp [quiet], removed⟩
  · rw [after] at held
    by_cases here : address = remoteAddr
    · subst here
      exact Or.inr (by simpa using held)
    · refine Or.inl ⟨by simpa [here] using held, ?_, by simp [removals]⟩
      simpa [opensAt, eq_comm] using here

theorem holder_kept (move : ServerMove state label next) {address : SocketAddr}
    (elsewhere : opensAt label ≠ some address) (kept : address ∉ removals state label) :
    next.holder address = state.holder address := by
  rcases holder_of_move move address with ⟨_, after⟩ | ⟨remoteAddr, connectionId, rfl, after⟩
  · rw [after, if_neg kept]
  · rw [after, if_neg]
    rintro rfl
    exact elsewhere rfl

/-- A stream of the next state was there before, or is the one accepted. -/
theorem stream_of_move (move : ServerMove state label next) {position : Nat} {stream : Stream}
    (there : next.streams[position]? = some stream) :
    (∃ before, state.streams[position]? = some before ∧ before.connection = stream.connection ∧
        before.remoteAddr = stream.remoteAddr) ∨
      ∃ connection, state.connections[stream.connection]? = some connection ∧
        connection.remoteAddr = stream.remoteAddr ∧ connection.stage = .serving := by
  have stays (same : next.streams = state.streams) :
      ∃ before, state.streams[position]? = some before ∧ before.connection = stream.connection ∧
        before.remoteAddr = stream.remoteAddr :=
    ⟨stream, same ▸ there, rfl, rfl⟩
  have advances {changed : Nat} {old : Stream} {stage : StreamStage}
      (present : state.streams[changed]? = some old)
      (streams : next.streams = state.streams.set changed { old with stage := stage }) :
      ∃ before, state.streams[position]? = some before ∧ before.connection = stream.connection ∧
        before.remoteAddr = stream.remoteAddr := by
    rw [streams] at there
    by_cases here : changed = position
    · subst here
      rw [getElem?_set_self_of_some present] at there
      obtain rfl := Option.some.inj there
      exact ⟨old, present, rfl, rfl⟩
    · rw [List.getElem?_set_ne here] at there
      exact ⟨stream, there, rfl, rfl⟩
  cases move with
  | accepted present stage =>
      rcases getElem?_snoc_cases there with earlier | ⟨_, rfl⟩
      · exact Or.inl ⟨stream, earlier, rfl, rfl⟩
      · exact Or.inr ⟨_, present, rfl, stage⟩
  | recorded present carried keeps records => exact Or.inl (advances present rfl)
  | streamed present nothing => exact Or.inl (advances present rfl)
  | ended present stage => exact Or.inl (stays (streams_removeSession _ _))
  | swept => exact Or.inl (stays (removed_removeSessions state state.toRemove).streams)
  | opened fresh unregistered => exact Or.inl (stays rfl)
  | started present stage => exact Or.inl (stays rfl)
  | scanned => exact Or.inl (stays rfl)
  | elapsed => exact Or.inl (stays rfl)

/-- The connection whose record a step starts. -/
def startsRecord (state : ServerState) : ServerLabel → Option Uuid
  | .started index => (state.connections[index]?).map Connection.connectionId
  | _ => none

theorem registered_of_move (move : ServerMove state label next) (id : Uuid) :
    next.metrics.Registered id ↔
      state.metrics.Registered id ∨ startsRecord state label = some id := by
  cases move with
  | started there stage =>
      refine (MetricsCollector.registered_insert _ _ _).trans ?_
      simp [startsRecord, there, or_comm, eq_comm]
  | ended there stage =>
      refine (registered_removeSession _ _ _).trans ?_
      simp [startsRecord]
  | swept =>
      refine ((removed_removeSessions state state.toRemove).registered id).trans ?_
      simp [startsRecord]
  | recorded there carried keeps records =>
      show (state.updateSession _ _ _).metrics.Registered id ↔ _
      rw [metrics_updateSession]
      split
      · simp [records.registered, startsRecord]
      · simp [startsRecord]
  | opened fresh unregistered => exact (or_iff_left (by simp [startsRecord])).symm
  | accepted there stage => exact (or_iff_left (by simp [startsRecord])).symm
  | streamed there nothing => exact (or_iff_left (by simp [startsRecord])).symm
  | scanned => exact (or_iff_left (by simp [startsRecord])).symm
  | elapsed => exact (or_iff_left (by simp [startsRecord])).symm

theorem ended_of_move (move : ServerMove state label next) {id : Uuid}
    (fresh : startsRecord state label = some id → ¬ state.metrics.Ended id) :
    next.metrics.Ended id ↔ state.metrics.Ended id ∨
      (∃ address ∈ removals state label, state.holder address = some id) ∧
        state.metrics.Registered id := by
  cases move with
  | started there stage =>
      refine (MetricsCollector.ended_insert _ _ rfl).trans ?_
      simp only [startsRecord, there, Option.map_some, Option.some.injEq] at fresh
      simp only [removals, List.not_mem_nil, false_and, exists_false, or_false]
      refine and_iff_right_of_imp (fun ended same => ?_)
      exact fresh same.symm ended
  | ended there stage =>
      refine (ended_removeSession _ _ _).trans ?_
      simp [removals, there]
  | swept => exact (removed_removeSessions state state.toRemove).ended id
  | recorded there carried keeps records =>
      show (state.updateSession _ _ _).metrics.Ended id ↔ _
      rw [metrics_updateSession]
      split
      · simp [records.ended, removals]
      · simp [removals]
  | opened fresh unregistered => exact (or_iff_left (by simp [removals])).symm
  | accepted there stage => exact (or_iff_left (by simp [removals])).symm
  | streamed there nothing => exact (or_iff_left (by simp [removals])).symm
  | scanned => exact (or_iff_left (by simp [removals])).symm
  | elapsed => exact (or_iff_left (by simp [removals])).symm

end Step

/-! ## Connections, sessions, records and streams belong together -/

structure Sound (state : ServerState) : Prop where
  distinct : ∀ (left right : Nat) first second, state.connections[left]? = some first →
    state.connections[right]? = some second → first.connectionId = second.connectionId →
      left = right
  owner : ∀ address id, state.holder address = some id →
    ∃ (index : Nat) (connection : Connection), state.connections[index]? = some connection ∧
      connection.remoteAddr = address ∧ connection.connectionId = id
  record : ∀ (index : Nat) connection, state.connections[index]? = some connection →
    (state.metrics.Registered connection.connectionId ↔ connection.stage ≠ .inserted)
  settled : ∀ (index : Nat) connection, state.connections[index]? = some connection →
    connection.stage = .returned → ¬ Holds state connection
  carried : ∀ (position : Nat) stream, state.streams[position]? = some stream →
    ∃ connection, state.connections[stream.connection]? = some connection ∧
      connection.remoteAddr = stream.remoteAddr ∧ connection.stage ≠ .inserted

theorem sound_start (metrics : MetricsCollector) : Sound (startServer metrics) := by
  constructor <;> simp [startServer, ServerState.holder, ServerState.session]

section Invariant

variable {state next : ServerState} {label : ServerLabel}

theorem Sound.id_mem {index : Nat} {connection : Connection}
    (present : state.connections[index]? = some connection) :
    connection.connectionId ∈ state.connections.map Connection.connectionId :=
  List.mem_map_of_mem (List.mem_of_getElem? present)

/-- A step starts the record of one connection, by its index. -/
theorem Sound.started (sound : Sound state) {index : Nat} {connection : Connection}
    (present : state.connections[index]? = some connection)
    (starts : startsRecord state label = some connection.connectionId) : label = .started index := by
  cases label with
  | started other =>
      obtain ⟨same, there, id⟩ := Option.map_eq_some_iff.mp starts
      rw [sound.distinct other index same connection there present id]
  | _ => simp [startsRecord] at starts

theorem sound_distinct (sound : Sound state) (move : ServerMove state label next)
    {left right : Nat} {first second : Connection}
    (leftThere : next.connections[left]? = some first)
    (rightThere : next.connections[right]? = some second)
    (same : first.connectionId = second.connectionId) : left = right := by
  rcases connection_of_move move leftThere with
    ⟨_, leftBefore, _, leftId, _⟩ | ⟨leftLast, _, _, leftFresh, _⟩ <;>
  rcases connection_of_move move rightThere with
    ⟨_, rightBefore, _, rightId, _⟩ | ⟨rightLast, _, _, rightFresh, _⟩
  · exact sound.distinct left right _ _ leftBefore rightBefore
      (leftId.trans (same.trans rightId.symm))
  · refine absurd (Sound.id_mem leftBefore) ?_
    rwa [leftId, same]
  · refine absurd (Sound.id_mem rightBefore) ?_
    rwa [rightId, ← same]
  · rw [leftLast, rightLast]

theorem sound_owner (sound : Sound state) (move : ServerMove state label next)
    {address : SocketAddr} {id : Uuid} (held : next.holder address = some id) :
    ∃ (index : Nat) (connection : Connection), next.connections[index]? = some connection ∧
      connection.remoteAddr = address ∧ connection.connectionId = id := by
  rcases holder_cases move held with ⟨before, _, _⟩ | rfl
  · obtain ⟨index, connection, present, here, own⟩ := sound.owner address id before
    obtain ⟨after, there, sameAddress, sameId⟩ := connection_next move present
    exact ⟨index, after, there, sameAddress.trans here, sameId.trans own⟩
  · cases move with
    | opened fresh unregistered =>
        exact ⟨state.connections.length, ⟨address, id, .inserted⟩, by simp, rfl, rfl⟩

theorem sound_record (sound : Sound state) (move : ServerMove state label next)
    {index : Nat} {connection : Connection} (there : next.connections[index]? = some connection) :
    next.metrics.Registered connection.connectionId ↔ connection.stage ≠ .inserted := by
  rw [registered_of_move move]
  rcases connection_of_move move there with
    ⟨before, present, _, id, moved⟩ | ⟨_, inserted, rfl, _, unregistered⟩
  · rw [← id, sound.record index before present]
    obtain ⟨address, connectionId, stage⟩ := before
    obtain ⟨laterAddress, laterId, later⟩ := connection
    simp only at id moved ⊢
    cases moved with
    | stayed _ other =>
        refine or_iff_left (fun starts => other ?_)
        exact sound.started present starts
    | started own => simp [own, startsRecord, present]
    | ended own => simp
  · simp [inserted, unregistered, startsRecord]

theorem sound_settled (sound : Sound state) (move : ServerMove state label next)
    {index : Nat} {connection : Connection} (there : next.connections[index]? = some connection)
    (returned : connection.stage = .returned) : ¬ Holds next connection := by
  intro holds
  rcases connection_of_move move there with
    ⟨before, present, address, id, moved⟩ | ⟨_, inserted, _⟩
  · rcases holder_cases move holds with ⟨held, _, kept⟩ | opened
    · have holdsBefore : Holds state before := by
        rw [Holds, address, id]
        exact held
      rw [returned] at moved
      generalize stage : before.stage = stageBefore at moved
      cases moved with
      | stayed _ other => exact sound.settled index before present stage holdsBefore
      | ended own => simp [own, removals, present, address] at kept
    · refine absurd (Sound.id_mem present) ?_
      rw [opened] at move
      cases move with
      | opened fresh unregistered => rwa [id]
  · simp [inserted] at returned

theorem sound_carried (sound : Sound state) (move : ServerMove state label next)
    {position : Nat} {stream : Stream} (there : next.streams[position]? = some stream) :
    ∃ connection, next.connections[stream.connection]? = some connection ∧
      connection.remoteAddr = stream.remoteAddr ∧ connection.stage ≠ .inserted := by
  have served : ∃ connection, state.connections[stream.connection]? = some connection ∧
      connection.remoteAddr = stream.remoteAddr ∧ connection.stage ≠ .inserted := by
    rcases stream_of_move move there with
      ⟨before, present, carrier, address⟩ | ⟨connection, present, address, stage⟩
    · rw [← carrier, ← address]
      exact sound.carried position before present
    · exact ⟨connection, present, address, by simp [stage]⟩
  obtain ⟨connection, present, address, stage⟩ := served
  obtain ⟨after, later, sameAddress, _⟩ := connection_next move present
  refine ⟨after, later, sameAddress.trans address, ?_⟩
  rcases connection_of_move move later with ⟨before, here, _, _, moved⟩ | ⟨last, _⟩
  · obtain rfl := Option.some.inj (here.symm.trans present)
    exact moved.kept stage
  · have bound := (List.getElem?_eq_some_iff.mp present).1
    omega

theorem sound_of_move (sound : Sound state) (move : ServerMove state label next) : Sound next where
  distinct _ _ _ _ leftThere rightThere same := sound_distinct sound move leftThere rightThere same
  owner _ _ held := sound_owner sound move held
  record _ _ there := sound_record sound move there
  settled _ _ there returned := sound_settled sound move there returned
  carried _ _ there := sound_carried sound move there

end Invariant

/-! ## The fate of a record -/

/-- What the steps so far have made of a connection's session and record. -/
structure Fate (trace : List (ServerState × ServerLabel)) (state : ServerState) (index : Nat)
    (connection : Connection) : Prop where
  held : Holds state connection ↔ ∀ entry ∈ trace, ¬ Displaces index entry.1 entry.2
  ended : state.metrics.Ended connection.connectionId ↔
    ¬ Holds state connection ∧ ∀ entry ∈ trace, ¬ Orphans index entry.1 entry.2

section History

variable {metrics : MetricsCollector} {trace : List (ServerState × ServerLabel)}
  {state next : ServerState} {label : ServerLabel}

theorem sound_of_run (run : serverMachine.Run (startServer metrics) trace state) : Sound state :=
  run.invariant Sound (sound_start metrics)
    (fun _ _ _ sound taken => sound_of_move sound (move_of_serverStep taken))

theorem displaces_iff {index : Nat} {connection : Connection}
    (present : state.connections[index]? = some connection) :
    Displaces index state label ↔ opensAt label = some connection.remoteAddr ∨
      connection.remoteAddr ∈ removals state label := by
  simp [Displaces, present]

theorem orphans_iff {index : Nat} {connection : Connection}
    (present : state.connections[index]? = some connection) :
    Orphans index state label ↔ Holds state connection ∧
      (opensAt label = some connection.remoteAddr ∨
        connection.stage = .inserted ∧ connection.remoteAddr ∈ removals state label) := by
  simp [Orphans, present]

theorem Orphans.displaces {index : Nat} (orphans : Orphans index state label) :
    Displaces index state label := by
  obtain ⟨connection, present, _, opens | ⟨_, removed⟩⟩ := orphans
  · exact ⟨connection, present, Or.inl opens⟩
  · exact ⟨connection, present, Or.inr removed⟩

/-- A session is taken away by the steps that displace it. -/
theorem holds_of_move (move : ServerMove state label next) {index : Nat}
    {before after : Connection} (present : state.connections[index]? = some before)
    (address : before.remoteAddr = after.remoteAddr)
    (id : before.connectionId = after.connectionId) :
    Holds next after ↔ Holds state before ∧ ¬ Displaces index state label := by
  rw [displaces_iff present, Holds, Holds, address, id, not_or]
  constructor
  · intro holds
    rcases holder_cases move holds with earlier | opened
    · exact earlier
    · refine absurd (Sound.id_mem present) ?_
      rw [opened] at move
      cases move with
      | opened fresh unregistered => rwa [id]
  · rintro ⟨held, elsewhere, kept⟩
    rw [holder_kept move elsewhere kept, held]

/-- A record is ended by the removal of its session. -/
theorem ended_of_move_iff (sound : Sound state) (move : ServerMove state label next) {index : Nat}
    {before : Connection} (present : state.connections[index]? = some before) :
    next.metrics.Ended before.connectionId ↔ state.metrics.Ended before.connectionId ∨
      (before.remoteAddr ∈ removals state label ∧ Holds state before) ∧
        before.stage ≠ .inserted := by
  have unstarted (starts : startsRecord state label = some before.connectionId) :
      ¬ state.metrics.Ended before.connectionId := by
    have own := sound.started present starts
    subst own
    intro ended
    have past := (sound.record index before present).mp ended.registered
    cases move with
    | started there stage =>
        obtain rfl := Option.some.inj (there.symm.trans present)
        exact past stage
  rw [ended_of_move move unstarted, sound.record index before present]
  refine or_congr_right (and_congr_left (fun _ => ?_))
  constructor
  · rintro ⟨address, removed, held⟩
    obtain ⟨other, connection, there, here, id⟩ := sound.owner address _ held
    obtain rfl := sound.distinct other index connection before there present id
    obtain rfl := Option.some.inj (there.symm.trans present)
    subst here
    exact ⟨removed, by rw [Holds, held, id]⟩
  · rintro ⟨removed, held⟩
    exact ⟨before.remoteAddr, removed, held⟩

/-- Steps on connections that were not there yet concern none of them. -/
theorem not_displaces_of_length_le {index : Nat}
    (short : state.connections.length ≤ index) : ¬ Displaces index state label := by
  rintro ⟨connection, present, _⟩
  rw [List.getElem?_eq_none short] at present
  simp at present

theorem length_le_of_mem (run : serverMachine.Run (startServer metrics) trace state)
    {entry : ServerState × ServerLabel} (member : entry ∈ trace) :
    entry.1.connections.length ≤ state.connections.length := by
  refine run.history (fun trace state => ∀ entry ∈ trace,
    entry.1.connections.length ≤ state.connections.length) (by simp) ?_ entry member
  intro trace state label next before shorter taken entry member
  have longer := length_of_move (move_of_serverStep taken)
  rcases List.mem_append.mp member with earlier | last
  · exact Nat.le_trans (shorter entry earlier) longer
  · obtain rfl := List.mem_singleton.mp last
    exact longer

theorem fate_of_move (sound : Sound state) (move : ServerMove state label next) {index : Nat}
    {before after : Connection} (present : state.connections[index]? = some before)
    (address : before.remoteAddr = after.remoteAddr)
    (id : before.connectionId = after.connectionId) (fate : Fate trace state index before) :
    Fate (trace ++ [(state, label)]) next index after := by
  have holds := holds_of_move move present address id
  constructor
  · rw [holds, fate.held, List.forall_mem_append, List.forall_mem_singleton]
  · have orphans : Orphans index state label ↔ _ := orphans_iff present
    have displaces : Displaces index state label ↔ _ := displaces_iff present
    rw [← id, ended_of_move_iff sound move present, holds, List.forall_mem_append,
      List.forall_mem_singleton, fate.ended]
    have kept (held : Holds state before) : ∀ entry ∈ trace, ¬ Orphans index entry.1 entry.2 :=
      fun entry member orphan => fate.held.mp held entry member orphan.displaces
    have exclusive (opens : opensAt label = some before.remoteAddr) :
        before.remoteAddr ∉ removals state label := by
      simp [removals_of_opensAt opens]
    rw [orphans, displaces]
    generalize (∀ entry ∈ trace, ¬ Orphans index entry.1 entry.2) = unorphaned at kept ⊢
    by_cases held : Holds state before
    · by_cases opens : opensAt label = some before.remoteAddr
      · simp [held, opens, exclusive opens]
      · simp [held, opens, kept held]
        intro removed
        exact ⟨fun other inserted => absurd inserted other,
          fun stays inserted => stays inserted removed⟩
    · simp [held]

theorem fate_of_run (run : serverMachine.Run (startServer metrics) trace state) :
    ∀ (index : Nat) connection, state.connections[index]? = some connection →
      Fate trace state index connection := by
  refine run.history (fun trace state => ∀ (index : Nat) connection,
    state.connections[index]? = some connection → Fate trace state index connection) ?_ ?_
  · simp [startServer]
  · intro trace state label next earlier fate taken index connection there
    have move := move_of_serverStep taken
    have sound := sound_of_run earlier
    rcases connection_of_move move there with
      ⟨before, present, address, id, _⟩ | ⟨last, _, rfl, _, unregistered⟩
    · exact fate_of_move sound move present address id (fate index before present)
    · have later := Machine.Run.snoc earlier taken
      have untouched : ∀ entry ∈ trace ++ [(state, ServerLabel.opened connection.remoteAddr
          connection.connectionId)], ¬ Displaces index entry.1 entry.2 := by
        intro entry member
        refine not_displaces_of_length_le ?_
        rcases List.mem_append.mp member with old | here
        · rw [last]
          exact length_le_of_mem earlier old
        · obtain rfl := List.mem_singleton.mp here
          exact Nat.le_of_eq last.symm
      have held : Holds next connection := by
        cases move with
        | opened fresh _ => exact (holder_insertSession _ _ _ _).trans (if_pos rfl)
      have opened : ¬ next.metrics.Ended connection.connectionId := by
        intro ended
        rcases (registered_of_move move _).mp ended.registered with known | starts
        · exact unregistered known
        · simp [startsRecord] at starts
      exact ⟨iff_of_true held untouched, iff_of_false opened (fun kept => kept.1 held)⟩

end History

/-! ## The traffic of a connection -/

/-- The connection whose stream a step records, and what it records. -/
def carries (state : ServerState) : ServerLabel → Option (Nat × Traffic)
  | .stream position label =>
      (state.streams[position]?).bind (fun stream =>
        (stream.stage.traffic label).map (fun amount => (stream.connection, amount)))
  | _ => none

/-- What a step records of the streams of one connection. -/
def amountOf (index : Nat) (state : ServerState) (label : ServerLabel) : Traffic :=
  match carries state label with
  | some (carrier, amount) => if carrier = index then amount else 0
  | none => 0

/-- The traffic that the streams of a connection have carried. -/
def carried (index : Nat) (trace : List (ServerState × ServerLabel)) : Traffic :=
  (trace.map (fun entry => amountOf index entry.1 entry.2)).sum

/-- Every started record shows what the streams of its own connection have
carried. -/
def Attributed (trace : List (ServerState × ServerLabel)) (state : ServerState) : Prop :=
  ∀ (index : Nat) connection, state.connections[index]? = some connection →
    connection.stage ≠ .inserted →
      state.metrics.traffic connection.connectionId = some (carried index trace)

/-- A stream is recorded while the session of its connection is in the map. -/
def Timely (state : ServerState) (label : ServerLabel) : Prop :=
  ∀ index amount, carries state label = some (index, amount) →
    ∀ connection, state.connections[index]? = some connection → Holds state connection

section Traffic

variable {metrics : MetricsCollector} {trace : List (ServerState × ServerLabel)}
  {state next : ServerState} {label : ServerLabel}

@[simp] theorem carried_snoc (index : Nat) :
    carried index (trace ++ [(state, label)]) = carried index trace + amountOf index state label := by
  simp [carried]

/-- What is recorded is recorded under the address of the connection. -/
theorem traffic_of_move (sound : Sound state) (move : ServerMove state label next) {index : Nat}
    {amount : Traffic} (carriesHere : carries state label = some (index, amount))
    {connection : Connection} (present : state.connections[index]? = some connection) (id : Uuid) :
    next.metrics.traffic id =
      if state.holder connection.remoteAddr = some id then (state.metrics.traffic id).map (· + amount)
      else state.metrics.traffic id := by
  cases move with
  | @recorded position stream label recordedAmount change record stage there records' keeps records =>
      obtain ⟨rfl, rfl⟩ : stream.connection = index ∧ recordedAmount = amount := by
        simpa [carries, there, records'] using carriesHere
      obtain ⟨same, here, address, _⟩ := sound.carried position stream there
      obtain rfl := Option.some.inj (here.symm.trans present)
      show (state.updateSession _ _ _).metrics.traffic id = _
      rw [metrics_updateSession, address]
      cases found : state.holder stream.remoteAddr with
      | none => simp
      | some holder => simp [records.traffic, eq_comm]
  | streamed there nothing => simp [carries, there, nothing] at carriesHere
  | _ => simp [carries] at carriesHere

/-- A step that records no stream moves no traffic, but may start a record. -/
theorem traffic_of_quiet (move : ServerMove state label next)
    (quiet : carries state label = none) (id : Uuid) :
    next.metrics.traffic id =
      if startsRecord state label = some id then some 0 else state.metrics.traffic id := by
  cases move with
  | recorded there records' keeps records => simp [carries, there, records'] at quiet
  | started there stage =>
      refine (MetricsCollector.traffic_insert _ _ _).trans ?_
      simp only [startsRecord, there, Option.map_some, Option.some.injEq, eq_comm]
      rfl
  | ended there stage => exact traffic_removeSession _ _ _
  | swept => exact (removed_removeSessions state state.toRemove).traffic id
  | _ => rfl

theorem serving_of_carries (sound : Sound state) {index : Nat} {amount : Traffic}
    (carriesHere : carries state label = some (index, amount)) :
    ∃ connection, state.connections[index]? = some connection ∧ connection.stage ≠ .inserted := by
  cases label with
  | stream position label =>
      obtain ⟨stream, there, recorded⟩ := Option.bind_eq_some_iff.mp carriesHere
      obtain ⟨_, _, same⟩ := Option.map_eq_some_iff.mp recorded
      obtain ⟨rfl, rfl⟩ := Prod.mk.inj same
      obtain ⟨connection, present, _, stage⟩ := sound.carried position stream there
      exact ⟨connection, present, stage⟩
  | _ => simp [carries] at carriesHere

/-- A connection past its insertion was past it before, or starts in this step. -/
theorem stage_cases {index : Nat} {before after : ConnectionStage}
    (moved : StageMove index label before after) (past : after ≠ .inserted) :
    before ≠ .inserted ∨ before = .inserted ∧ label = .started index := by
  cases moved with
  | stayed _ other => exact Or.inl past
  | started own => exact Or.inr ⟨rfl, own⟩
  | ended own => exact Or.inl (by simp)

/-- Nothing is carried before the record is started. -/
theorem carried_of_inserted (run : serverMachine.Run (startServer metrics) trace state) :
    ∀ (index : Nat), (∀ connection, state.connections[index]? = some connection →
      connection.stage = .inserted) → carried index trace = 0 := by
  refine run.history (fun trace state => ∀ (index : Nat), (∀ connection,
    state.connections[index]? = some connection → connection.stage = .inserted) →
      carried index trace = 0) (fun _ _ => rfl) ?_
  intro trace state label next earlier nothing taken index inserted
  have move := move_of_serverStep taken
  have before : ∀ connection, state.connections[index]? = some connection →
      connection.stage = .inserted := by
    intro connection present
    obtain ⟨after, there, _, _⟩ := connection_next move present
    rcases connection_of_move move there with ⟨same, here, _, _, moved⟩ | ⟨last, _⟩
    · obtain rfl := Option.some.inj (here.symm.trans present)
      by_contra past
      exact moved.kept past (inserted after there)
    · have bound := (List.getElem?_eq_some_iff.mp present).1
      omega
  have unrecorded : amountOf index state label = 0 := by
    cases carriesHere : carries state label with
    | none => simp [amountOf, carriesHere]
    | some recorded =>
        obtain ⟨carrier, amount⟩ := recorded
        obtain ⟨connection, present, stage⟩ :=
          serving_of_carries (sound_of_run earlier) carriesHere
        have different : carrier ≠ index := by
          rintro rfl
          exact stage (before connection present)
        simp [amountOf, carriesHere, different]
  rw [carried_snoc, nothing index before, unrecorded, add_zero]

/-- A timely step keeps the records right. -/
theorem attributed_of_timely (earlier : serverMachine.Run (startServer metrics) trace state)
    (attributed : Attributed trace state) (timely : Timely state label)
    (move : ServerMove state label next) : Attributed (trace ++ [(state, label)]) next := by
  intro index after there past
  have sound := sound_of_run earlier
  rcases connection_of_move move there with ⟨before, present, _, id, moved⟩ | ⟨_, inserted, _⟩
  · rw [← id, carried_snoc]
    cases carriesHere : carries state label with
    | none =>
        have unrecorded : amountOf index state label = 0 := by simp [amountOf, carriesHere]
        rw [traffic_of_quiet move carriesHere, unrecorded, add_zero]
        rcases stage_cases moved past with served | ⟨inserted, own⟩
        · rw [if_neg, attributed index before present served]
          intro starts
          have own := sound.started present starts
          subst own
          cases move with
          | started again stage =>
              obtain rfl := Option.some.inj (again.symm.trans present)
              exact served stage
        · rw [if_pos (by simp [own, startsRecord, present]), carried_of_inserted earlier]
          intro connection here
          obtain rfl := Option.some.inj (here.symm.trans present)
          exact inserted
    | some recorded =>
        obtain ⟨carrier, amount⟩ := recorded
        obtain ⟨connection, here, _⟩ := serving_of_carries sound carriesHere
        have holds : state.holder connection.remoteAddr = some connection.connectionId :=
          timely carrier amount carriesHere connection here
        have served : before.stage ≠ .inserted := by
          rcases stage_cases moved past with served | ⟨_, own⟩
          · exact served
          · simp [own, carries] at carriesHere
        rw [traffic_of_move sound move carriesHere here, holds,
          attributed index before present served]
        by_cases same : carrier = index
        · subst same
          obtain rfl := Option.some.inj (here.symm.trans present)
          simp [amountOf, carriesHere]
        · have different : connection.connectionId ≠ before.connectionId :=
            fun equal => same (sound.distinct carrier index _ _ here present equal)
          simp [amountOf, carriesHere, same, different]
  · exact absurd inserted past

theorem add_traffic_ne {stage : StreamStage} {label : StreamLabel} {amount : Traffic}
    (records : stage.traffic label = some amount) (earlier : Traffic) :
    earlier + amount ≠ earlier := by
  have one (packets : UInt64) : packets + 1 ≠ packets := by
    intro same
    have zero : packets + 1 = packets + 0 := by rw [same, UInt64.add_zero]
    exact absurd (UInt64.add_right_inj packets |>.mp zero) (by decide)
  intro same
  cases stage <;> cases label <;> simp only [StreamStage.traffic, reduceCtorEq] at records
  · obtain rfl := Option.some.inj records
    exact one _ (congrArg Traffic.packetsReceived same)
  · obtain rfl := Option.some.inj records
    exact one _ (congrArg Traffic.packetsSent same)

/-- A step that is not timely makes a record wrong. -/
theorem timely_of_attributed (sound : Sound state) (before : Attributed trace state)
    (move : ServerMove state label next)
    (after : Attributed (trace ++ [(state, label)]) next) : Timely state label := by
  intro index amount carriesHere connection present
  by_contra elsewhere
  obtain ⟨same, here, stage⟩ := serving_of_carries sound carriesHere
  obtain rfl := Option.some.inj (here.symm.trans present)
  obtain ⟨later, there, _, id⟩ := connection_next move here
  have past : later.stage ≠ .inserted := by
    rcases connection_of_move move there with ⟨old, again, _, _, moved⟩ | ⟨last, _⟩
    · obtain rfl := Option.some.inj (again.symm.trans here)
      exact moved.kept stage
    · have bound := (List.getElem?_eq_some_iff.mp here).1
      omega
  have shown := after index later there past
  rw [id, traffic_of_move sound move carriesHere here,
    if_neg (show ¬ state.holder same.remoteAddr = some same.connectionId from elsewhere),
    before index _ here stage, carried_snoc] at shown
  have unmoved : carried index trace + amount = carried index trace := by
    simpa [amountOf, carriesHere] using (Option.some.inj shown).symm
  cases label with
  | stream position label =>
      obtain ⟨stream, _, recorded⟩ := Option.bind_eq_some_iff.mp carriesHere
      obtain ⟨_, records, pair⟩ := Option.map_eq_some_iff.mp recorded
      obtain ⟨_, rfl⟩ := Prod.mk.inj pair
      exact add_traffic_ne records _ unmoved
  | _ => simp [carries] at carriesHere

end Traffic

/-! ## The law of sessions -/

/-- A connection that has returned has its record ended exactly when no step
orphaned its session; and the records show in every state what their streams
have carried exactly when no stream is recorded after a step that displaced the
session of its connection. -/
theorem session_attribution_iff (metrics : MetricsCollector)
    {trace : List (ServerState × ServerLabel)} {last : ServerState}
    (run : serverMachine.Run (startServer metrics) trace last) :
    (∀ (index : Nat) connection, last.connections[index]? = some connection →
      connection.stage = .returned →
        (last.metrics.Ended connection.connectionId ↔
          ∀ entry ∈ trace, ¬ Orphans index entry.1 entry.2)) ∧
    ((∀ before state, before <+: trace → serverMachine.Run (startServer metrics) before state →
        Attributed before state) ↔
      ∀ before state label, before ++ [(state, label)] <+: trace →
        ∀ index amount, carries state label = some (index, amount) →
          ∀ earlier ∈ before, ¬ Displaces index earlier.1 earlier.2) := by
  refine ⟨fun index connection present returned => ?_, fun attributed => ?_, fun undisturbed => ?_⟩
  · have settled := (sound_of_run run).settled index connection present returned
    rw [(fate_of_run run index connection present).ended]
    exact and_iff_right settled
  · intro before state label inTrace index amount carriesHere
    obtain ⟨after, shape⟩ := inTrace
    obtain ⟨next, earlier, taken, _⟩ := run.split
      (show trace = before ++ (state, label) :: after by simp [← shape])
    have sound := sound_of_run earlier
    obtain ⟨connection, present, _⟩ := serving_of_carries sound carriesHere
    have timely := timely_of_attributed sound
      (attributed before state ⟨(state, label) :: after, by simp [← shape]⟩ earlier)
      (move_of_serverStep taken)
      (attributed _ next ⟨after, shape⟩ (earlier.snoc taken))
    exact (fate_of_run earlier index connection present).held.mp
      (timely index amount carriesHere connection present)
  · intro before state inTrace reached
    refine reached.history (fun trace' state => trace' <+: trace → Attributed trace' state) ?_ ?_
      inTrace
    · intro _ index connection present
      simp [startServer] at present
    · intro trace' state label next earlier inductionHypothesis taken within
      have attributed := inductionHypothesis ((List.prefix_append _ _).trans within)
      refine attributed_of_timely earlier attributed ?_ (move_of_serverStep taken)
      intro index amount carriesHere connection present
      exact (fate_of_run earlier index connection present).held.mpr
        (undisturbed trace' state label within index amount carriesHere)

/-! ## Two connections behind one address -/

def natAddr : SocketAddr := ⟨"192.0.2.1:40000"⟩

/-- A connection opens, serves one request and returns. -/
def oneConnection : List ServerLabel :=
  [.opened natAddr ⟨1⟩, .started 0, .streamAccepted 0, .stream 0 (.read [47]), .stream 0 .readEnds,
    .stream 0 .recordRequest, .stream 0 .written, .stream 0 (.recordResponse 0), .ended 0]

theorem session_attribution_iff_oneConnection :
    ∃ last, serverMachine.play (startServer {}) oneConnection = some last ∧
      last.metrics.Ended ⟨1⟩ := by
  obtain ⟨last, played, connections⟩ := Option.map_eq_some_iff.mp (show
    (serverMachine.play (startServer {}) oneConnection).map (·.connections) =
      some [⟨natAddr, ⟨1⟩, .returned⟩] by decide +kernel)
  refine ⟨last, played, ?_⟩
  have law := (session_attribution_iff {} (Machine.run_of_play played)).1
  refine (law 0 ⟨natAddr, ⟨1⟩, .returned⟩ (by simp [connections]) rfl).mpr ?_
  decide +kernel

/-- A second connection opens at the address of the first, whose stream comes
after; both return. -/
def twoConnections : List ServerLabel :=
  [.opened natAddr ⟨1⟩, .started 0, .streamAccepted 0, .opened natAddr ⟨2⟩, .started 1,
    .stream 0 (.read [47]), .stream 0 .readEnds, .stream 0 .recordRequest, .ended 0, .ended 1]

theorem second_connection_takes_over :
    ∃ last, serverMachine.play (startServer {}) twoConnections = some last ∧
      last.connections = [⟨natAddr, ⟨1⟩, .returned⟩, ⟨natAddr, ⟨2⟩, .returned⟩] ∧
      ¬ last.metrics.Ended ⟨1⟩ ∧
      ¬ Attributed (serverMachine.trace (startServer {}) twoConnections) last := by
  obtain ⟨last, played, facts⟩ := Option.map_eq_some_iff.mp (show
    (serverMachine.play (startServer {}) twoConnections).map
        (fun last => (last.connections, last.metrics.traffic ⟨1⟩,
          (last.metrics.connections.get? ⟨1⟩).map (fun connection => connection.endTime))) =
      some ([⟨natAddr, ⟨1⟩, .returned⟩, ⟨natAddr, ⟨2⟩, .returned⟩], some 0, some none) by
    decide +kernel)
  simp only [Prod.mk.injEq] at facts
  obtain ⟨connections, traffic, opened⟩ := facts
  refine ⟨last, played, connections, ?_, ?_⟩
  · rintro ⟨connection, found, ended⟩
    rw [found] at opened
    simp_all
  · intro attributed
    have shown := attributed 0 ⟨natAddr, ⟨1⟩, .returned⟩ (by simp [connections]) (by simp)
    rw [traffic] at shown
    exact absurd shown (by decide +kernel)

end Npt.Server
