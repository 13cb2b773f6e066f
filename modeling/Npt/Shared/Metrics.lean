import Mathlib.Algebra.Group.Defs
import Npt.Core.Table
import Npt.Shared.Protocol

/-!
Contract: the metrics collector (`shared/src/metrics.rs`).

The collector is a map from connection ids to records; every operation on a
connection writes through the map entry and does nothing when there is none.

Owns: the connection record, the recording operations, the user counter and the
active-connection counts, with what each operation does to `end_time`.

Does not own: the throughput, latency and error samplers or the report.
Instants and durations are naturals handed in by the caller.
-/

namespace Npt.Shared

open Npt.Core

structure ConnectionMetrics where
  id : Uuid
  connectionType : ConnectionType
  startTime : Nat
  endTime : Option Nat := none
  bytesSent : UInt64 := 0
  bytesReceived : UInt64 := 0
  packetsSent : UInt64 := 0
  packetsReceived : UInt64 := 0
  errors : UInt64 := 0
  latencies : List Nat := []
  userActivity : Option UserActivity := none
  errorDetails : List ErrorDetail := []
deriving DecidableEq, Repr

def ConnectionMetrics.withError (connection : ConnectionMetrics) (detail : ErrorDetail) :
    ConnectionMetrics :=
  { connection with
    errors := connection.errors + 1
    errorDetails := connection.errorDetails ++ [detail] }

/-- The packets and bytes on a record. -/
structure Traffic where
  packetsReceived : UInt64 := 0
  bytesReceived : UInt64 := 0
  packetsSent : UInt64 := 0
  bytesSent : UInt64 := 0
deriving DecidableEq, Repr

namespace Traffic

protected def add (left right : Traffic) : Traffic where
  packetsReceived := left.packetsReceived + right.packetsReceived
  bytesReceived := left.bytesReceived + right.bytesReceived
  packetsSent := left.packetsSent + right.packetsSent
  bytesSent := left.bytesSent + right.bytesSent

instance : Zero Traffic := ⟨{}⟩

instance : Add Traffic := ⟨Traffic.add⟩

instance : AddMonoid Traffic where
  add_assoc left middle right := by
    show Traffic.add (Traffic.add left middle) right = Traffic.add left (Traffic.add middle right)
    simp [Traffic.add, UInt64.add_assoc]
  zero_add right := by
    show Traffic.add {} right = right
    simp [Traffic.add]
  add_zero left := by
    show Traffic.add left {} = left
    simp [Traffic.add]
  nsmul := nsmulRec

theorem add_def (left right : Traffic) : left + right = Traffic.add left right := rfl

end Traffic

def ConnectionMetrics.traffic (connection : ConnectionMetrics) : Traffic where
  packetsReceived := connection.packetsReceived
  bytesReceived := connection.bytesReceived
  packetsSent := connection.packetsSent
  bytesSent := connection.bytesSent

structure MetricsCollector where
  connections : Table ConnectionMetrics.id := .empty
  errorDetails : List ErrorDetail := []
  activeUsers : UInt32 := 0

namespace MetricsCollector

/-! ## Operations -/

/-- `connections.insert`. -/
def insert (metrics : MetricsCollector) (connection : ConnectionMetrics) : MetricsCollector :=
  { metrics with connections := metrics.connections.insert connection }

def startConnection (now : Nat) (metrics : MetricsCollector) (id : Uuid)
    (connectionType : ConnectionType) : MetricsCollector :=
  metrics.insert { id := id, connectionType := connectionType, startTime := now }

def startConnectionWithActivity (now : Nat) (metrics : MetricsCollector) (id : Uuid)
    (connectionType : ConnectionType) (activity : UserActivity) : MetricsCollector :=
  metrics.insert
    { id := id, connectionType := connectionType, startTime := now, userActivity := some activity }

/-- Write through the entry of a connection. -/
def update (metrics : MetricsCollector) (id : Uuid)
    (change : ConnectionMetrics → ConnectionMetrics)
    (keeps : ∀ connection, (change connection).id = connection.id) : MetricsCollector :=
  { metrics with connections := metrics.connections.modify id change keeps }

def endConnection (now : Nat) (metrics : MetricsCollector) (id : Uuid) : MetricsCollector :=
  metrics.update id (fun connection => { connection with endTime := some now }) (fun _ => rfl)

def recordBytesSent (metrics : MetricsCollector) (id : Uuid) (bytes : UInt64) : MetricsCollector :=
  metrics.update id
    (fun connection => { connection with bytesSent := connection.bytesSent + bytes }) (fun _ => rfl)

def recordBytesReceived (metrics : MetricsCollector) (id : Uuid) (bytes : UInt64) :
    MetricsCollector :=
  metrics.update id
    (fun connection => { connection with bytesReceived := connection.bytesReceived + bytes })
    (fun _ => rfl)

def recordPacketSent (metrics : MetricsCollector) (id : Uuid) : MetricsCollector :=
  metrics.update id
    (fun connection => { connection with packetsSent := connection.packetsSent + 1 }) (fun _ => rfl)

def recordPacketReceived (metrics : MetricsCollector) (id : Uuid) : MetricsCollector :=
  metrics.update id
    (fun connection => { connection with packetsReceived := connection.packetsReceived + 1 })
    (fun _ => rfl)

def recordError (metrics : MetricsCollector) (id : Uuid) : MetricsCollector :=
  metrics.update id
    (fun connection => { connection with errors := connection.errors + 1 }) (fun _ => rfl)

def recordLatency (metrics : MetricsCollector) (id : Uuid) (latency : Nat) : MetricsCollector :=
  metrics.update id
    (fun connection => { connection with latencies := connection.latencies ++ [latency] })
    (fun _ => rfl)

def recordErrorWithDetail (now : Nat) (metrics : MetricsCollector) (id : Uuid)
    (errorType : ErrorType) (message : String) (context : Option String) : MetricsCollector :=
  let detail : ErrorDetail :=
    { errorType := errorType, message := message, timestamp := now, connectionId := id
      context := context }
  let updated := metrics.update id (·.withError detail) (fun _ => rfl)
  match metrics.connections.get? id with
  | some _ => { updated with errorDetails := metrics.errorDetails ++ [detail] }
  | none => updated

def incrementActiveUsers (metrics : MetricsCollector) : MetricsCollector :=
  { metrics with activeUsers := metrics.activeUsers + 1 }

def decrementActiveUsers (metrics : MetricsCollector) : MetricsCollector :=
  if 0 < metrics.activeUsers then { metrics with activeUsers := metrics.activeUsers - 1 }
  else metrics

/-- The connections of a type without an end. -/
def activeConnections (metrics : MetricsCollector) (connectionType : ConnectionType) : Nat :=
  metrics.connections.records.countP
    (fun connection => connection.connectionType = connectionType && connection.endTime.isNone)

def getActiveTcpConnections (metrics : MetricsCollector) : Nat := metrics.activeConnections .tcp

def getActiveUdpConnections (metrics : MetricsCollector) : Nat := metrics.activeConnections .udp

def getActiveQuicConnections (metrics : MetricsCollector) : Nat := metrics.activeConnections .quic

/-! ## Registered and ended connections -/

def Registered (metrics : MetricsCollector) (id : Uuid) : Prop :=
  (metrics.connections.get? id).isSome = true

/-- The record of a connection has an end. -/
def Ended (metrics : MetricsCollector) (id : Uuid) : Prop :=
  ∃ connection, metrics.connections.get? id = some connection ∧ connection.endTime.isSome = true

instance (metrics : MetricsCollector) (id : Uuid) : Decidable (metrics.Registered id) :=
  inferInstanceAs (Decidable (_ = true))

theorem Ended.registered {metrics : MetricsCollector} {id : Uuid} (ended : metrics.Ended id) :
    metrics.Registered id := by
  obtain ⟨connection, found, _⟩ := ended
  simp [Registered, found]

section Operations

variable (now : Nat) (metrics : MetricsCollector) (id other : Uuid)

theorem registered_update (change : ConnectionMetrics → ConnectionMetrics)
    (keeps : ∀ connection, (change connection).id = connection.id) :
    (metrics.update other change keeps).Registered id ↔ metrics.Registered id := by
  simp [Registered, update, Table.get?_modify]

/-- Writing anything but the end keeps the ended connections. -/
theorem ended_update (change : ConnectionMetrics → ConnectionMetrics)
    (keeps : ∀ connection, (change connection).id = connection.id)
    (kept : ∀ connection, (change connection).endTime = connection.endTime) :
    (metrics.update other change keeps).Ended id ↔ metrics.Ended id := by
  simp only [Ended, update, Table.get?_modify]
  cases metrics.connections.get? id with
  | none => simp
  | some connection =>
      simp only [Option.map_some, Option.some.injEq, exists_eq_left']
      split
      · rw [kept]
      · rfl

theorem ended_endConnection :
    (metrics.endConnection now other).Ended id ↔
      metrics.Ended id ∨ id = other ∧ metrics.Registered id := by
  simp only [Ended, Registered, endConnection, update, Table.get?_modify]
  cases found : metrics.connections.get? id with
  | none => simp
  | some connection =>
      have here := metrics.connections.key_of_get? found
      simp only [Option.map_some, Option.some.injEq, exists_eq_left', Option.isSome_some, and_true,
        here]
      by_cases same : id = other <;> simp [same]

theorem registered_insert (connection : ConnectionMetrics) :
    (metrics.insert connection).Registered id ↔ id = connection.id ∨ metrics.Registered id := by
  simp only [Registered, insert]
  by_cases same : id = connection.id
  · rw [same, Table.get?_insert_self metrics.connections connection]
    simp
  · rw [Table.get?_insert_ne _ same]
    simp [same]

/-- A record that is inserted without an end is open. -/
theorem ended_insert {connection : ConnectionMetrics} (opened : connection.endTime = none) :
    (metrics.insert connection).Ended id ↔ id ≠ connection.id ∧ metrics.Ended id := by
  simp only [Ended, insert]
  by_cases same : id = connection.id
  · rw [same, Table.get?_insert_self metrics.connections connection]
    simp [opened]
  · rw [Table.get?_insert_ne _ same]
    simp [same]

theorem connections_recordErrorWithDetail (errorType : ErrorType) (message : String)
    (context : Option String) :
    (metrics.recordErrorWithDetail now other errorType message context).connections =
      (metrics.update other (·.withError ⟨errorType, message, now, other, context⟩)
        (fun _ => rfl)).connections := by
  unfold recordErrorWithDetail
  dsimp only
  split <;> rfl

theorem registered_recordErrorWithDetail (errorType : ErrorType) (message : String)
    (context : Option String) :
    (metrics.recordErrorWithDetail now other errorType message context).Registered id ↔
      metrics.Registered id := by
  rw [Registered, connections_recordErrorWithDetail]
  exact metrics.registered_update id other (·.withError _) (fun _ => rfl)

theorem ended_recordErrorWithDetail (errorType : ErrorType) (message : String)
    (context : Option String) :
    (metrics.recordErrorWithDetail now other errorType message context).Ended id ↔
      metrics.Ended id := by
  rw [Ended, connections_recordErrorWithDetail]
  exact metrics.ended_update id other (·.withError _) (fun _ => rfl) (fun _ => rfl)

end Operations

/-! ## Traffic of a connection -/

def traffic (metrics : MetricsCollector) (id : Uuid) : Option Traffic :=
  (metrics.connections.get? id).map ConnectionMetrics.traffic

section Traffic

variable (metrics : MetricsCollector) (id other : Uuid)

/-- Writing through a record adds the same to its traffic, whatever it holds. -/
theorem traffic_update (amount : Traffic) (change : ConnectionMetrics → ConnectionMetrics)
    (keeps : ∀ connection, (change connection).id = connection.id)
    (adds : ∀ connection, (change connection).traffic = connection.traffic + amount) :
    (metrics.update other change keeps).traffic id =
      if id = other then (metrics.traffic id).map (· + amount) else metrics.traffic id := by
  simp only [traffic, update, Table.get?_modify]
  cases found : metrics.connections.get? id with
  | none => simp
  | some connection =>
      have here := metrics.connections.key_of_get? found
      by_cases same : id = other
      · simp [here, same, adds]
      · simp [here, same]

/-- Writing anything but the traffic keeps it. -/
theorem traffic_update_same (change : ConnectionMetrics → ConnectionMetrics)
    (keeps : ∀ connection, (change connection).id = connection.id)
    (kept : ∀ connection, (change connection).traffic = connection.traffic) :
    (metrics.update other change keeps).traffic id = metrics.traffic id := by
  rw [traffic_update metrics id other 0 change keeps
    (fun connection => (kept connection).trans (add_zero _).symm)]
  split
  · simp
  · rfl

@[simp] theorem traffic_endConnection (now : Nat) :
    (metrics.endConnection now other).traffic id = metrics.traffic id :=
  traffic_update_same _ _ _ _ _ (fun _ => rfl)

@[simp] theorem traffic_recordError :
    (metrics.recordError other).traffic id = metrics.traffic id :=
  traffic_update_same _ _ _ _ _ (fun _ => rfl)

@[simp] theorem traffic_recordLatency (latency : Nat) :
    (metrics.recordLatency other latency).traffic id = metrics.traffic id :=
  traffic_update_same _ _ _ _ _ (fun _ => rfl)

theorem traffic_insert (connection : ConnectionMetrics) :
    (metrics.insert connection).traffic id =
      if id = connection.id then some connection.traffic else metrics.traffic id := by
  simp only [traffic, insert]
  by_cases same : id = connection.id
  · rw [same, Table.get?_insert_self metrics.connections connection]
    simp
  · rw [Table.get?_insert_ne _ same]
    simp [same]

@[simp] theorem traffic_recordErrorWithDetail (now : Nat) (errorType : ErrorType)
    (message : String) (context : Option String) :
    (metrics.recordErrorWithDetail now other errorType message context).traffic id =
      metrics.traffic id := by
  rw [traffic, connections_recordErrorWithDetail]
  exact metrics.traffic_update_same id other (·.withError _) (fun _ => rfl) (fun _ => rfl)

/-- A recording adds a fixed amount of traffic to one connection and does
nothing else to any. -/
structure Records (record : MetricsCollector → Uuid → MetricsCollector) (amount : Traffic) :
    Prop where
  registered : ∀ metrics other id, (record metrics other).Registered id ↔ metrics.Registered id
  ended : ∀ metrics other id, (record metrics other).Ended id ↔ metrics.Ended id
  traffic : ∀ metrics other id, (record metrics other).traffic id =
    if id = other then (metrics.traffic id).map (· + amount) else metrics.traffic id

theorem Records.of_update (amount : Traffic) (change : ConnectionMetrics → ConnectionMetrics)
    (keeps : ∀ connection, (change connection).id = connection.id)
    (kept : ∀ connection, (change connection).endTime = connection.endTime)
    (adds : ∀ connection, (change connection).traffic = connection.traffic + amount) :
    Records (fun metrics other => metrics.update other change keeps) amount where
  registered metrics other id := registered_update metrics id other change keeps
  ended metrics other id := ended_update metrics id other change keeps kept
  traffic metrics other id := traffic_update metrics id other amount change keeps adds

theorem Records.comp {first second : MetricsCollector → Uuid → MetricsCollector}
    {early late : Traffic} (before : Records first early) (after : Records second late) :
    Records (fun metrics other => second (first metrics other) other) (early + late) where
  registered metrics other id := by rw [after.registered, before.registered]
  ended metrics other id := by rw [after.ended, before.ended]
  traffic metrics other id := by
    rw [after.traffic, before.traffic]
    split
    · cases metrics.traffic id with
      | none => rfl
      | some amount => simp [add_assoc]
    · rfl

theorem records_packetReceived : Records recordPacketReceived { packetsReceived := 1 } := by
  refine .of_update _ _ ?_ (fun _ => rfl) (fun connection => ?_)
  simp [ConnectionMetrics.traffic, Traffic.add_def, Traffic.add]

theorem records_bytesReceived (bytes : UInt64) :
    Records (recordBytesReceived · · bytes) { bytesReceived := bytes } := by
  refine .of_update _ _ ?_ (fun _ => rfl) (fun connection => ?_)
  simp [ConnectionMetrics.traffic, Traffic.add_def, Traffic.add]

theorem records_packetSent : Records recordPacketSent { packetsSent := 1 } := by
  refine .of_update _ _ ?_ (fun _ => rfl) (fun connection => ?_)
  simp [ConnectionMetrics.traffic, Traffic.add_def, Traffic.add]

theorem records_bytesSent (bytes : UInt64) :
    Records (recordBytesSent · · bytes) { bytesSent := bytes } := by
  refine .of_update _ _ ?_ (fun _ => rfl) (fun connection => ?_)
  simp [ConnectionMetrics.traffic, Traffic.add_def, Traffic.add]

theorem records_latency (latency : Nat) : Records (recordLatency · · latency) 0 := by
  refine .of_update _ _ ?_ (fun _ => rfl) (fun connection => ?_)
  exact (add_zero _).symm

end Traffic

/-! ## Connections without errors -/

/-- The connection has a record, and no error on it. -/
def Faultless (metrics : MetricsCollector) (id : Uuid) : Prop :=
  ∃ connection, metrics.connections.get? id = some connection ∧ connection.errors = 0

section Faultless

variable {metrics : MetricsCollector} {id : Uuid}

theorem Faultless.registered (faultless : metrics.Faultless id) : metrics.Registered id := by
  obtain ⟨connection, found, _⟩ := faultless
  simp [Registered, found]

/-- Writing anything but the errors. -/
theorem Faultless.update (faultless : metrics.Faultless id)
    (change : ConnectionMetrics → ConnectionMetrics)
    (keeps : ∀ connection, (change connection).id = connection.id)
    (kept : ∀ connection, (change connection).errors = connection.errors) :
    (metrics.update id change keeps).Faultless id := by
  obtain ⟨connection, found, none⟩ := faultless
  refine ⟨change connection, ?_, (kept connection).trans none⟩
  rw [MetricsCollector.update, Table.get?_modify_self, found, Option.map_some]

theorem faultless_startConnection (now : Nat) (connectionType : ConnectionType) :
    (metrics.startConnection now id connectionType).Faultless id :=
  ⟨_, metrics.connections.get?_insert_self ⟨id, connectionType, now, none, 0, 0, 0, 0, 0, [], none, []⟩,
    rfl⟩

end Faultless

/-! ## The error count of a connection -/

def errorCount (metrics : MetricsCollector) (id : Uuid) : Option UInt64 :=
  (metrics.connections.get? id).map (·.errors)

section ErrorCount

variable (metrics : MetricsCollector) (id other : Uuid)

/-- Adding to the errors of a connection. -/
theorem errorCount_update (amount : UInt64) (change : ConnectionMetrics → ConnectionMetrics)
    (keeps : ∀ connection, (change connection).id = connection.id)
    (adds : ∀ connection, (change connection).errors = connection.errors + amount) :
    (metrics.update other change keeps).errorCount id =
      (metrics.errorCount id).map (· + if id = other then amount else 0) := by
  simp only [errorCount, update, Table.get?_modify]
  cases found : metrics.connections.get? id with
  | none => rfl
  | some connection =>
      obtain rfl := metrics.connections.key_of_get? found
      by_cases same : connection.id = other <;> simp [same, adds]

/-- Writing anything but the errors. -/
theorem errorCount_update_same (change : ConnectionMetrics → ConnectionMetrics)
    (keeps : ∀ connection, (change connection).id = connection.id)
    (kept : ∀ connection, (change connection).errors = connection.errors) :
    (metrics.update other change keeps).errorCount id = metrics.errorCount id := by
  rw [metrics.errorCount_update id other 0 change keeps (fun connection => by simp [kept])]
  simp

theorem errorCount_recordErrorWithDetail (now : Nat) (errorType : ErrorType) (message : String)
    (context : Option String) :
    (metrics.recordErrorWithDetail now other errorType message context).errorCount id =
      (metrics.errorCount id).map (· + if id = other then 1 else 0) := by
  rw [errorCount, connections_recordErrorWithDetail]
  exact metrics.errorCount_update id other 1 (·.withError _) (fun _ => rfl) (fun _ => rfl)

theorem errorCount_endConnection (now : Nat) :
    (metrics.endConnection now other).errorCount id = metrics.errorCount id :=
  metrics.errorCount_update_same id other _ _ (fun _ => rfl)

theorem errorCount_recordError :
    (metrics.recordError other).errorCount id =
      (metrics.errorCount id).map (· + if id = other then 1 else 0) :=
  metrics.errorCount_update id other 1 _ _ (fun _ => rfl)

theorem faultless_iff : metrics.Faultless id ↔ metrics.errorCount id = some 0 :=
  Option.map_eq_some_iff.symm

end ErrorCount

/-! ## Types of connections -/

/-- Every record is of an allowed type. -/
def OfTypes (metrics : MetricsCollector) (allowed : ConnectionType → Prop) : Prop :=
  ∀ connection ∈ metrics.connections.records, allowed connection.connectionType

section Types

variable {now : Nat} {metrics : MetricsCollector} {id : Uuid} {allowed : ConnectionType → Prop}

theorem OfTypes.update (ofTypes : metrics.OfTypes allowed)
    (change : ConnectionMetrics → ConnectionMetrics)
    (keeps : ∀ connection, (change connection).id = connection.id)
    (kept : ∀ connection, (change connection).connectionType = connection.connectionType) :
    (metrics.update id change keeps).OfTypes allowed := by
  refine metrics.connections.forall_modify keeps ofTypes (fun connection _ allowedHere => ?_)
  rwa [kept]

theorem OfTypes.insert (ofTypes : metrics.OfTypes allowed) {new : ConnectionMetrics}
    (allowedNew : allowed new.connectionType) : (metrics.insert new).OfTypes allowed := by
  intro connection member
  rcases metrics.connections.mem_insert member with rfl | ⟨earlier, _⟩
  · exact allowedNew
  · exact ofTypes connection earlier

theorem OfTypes.recordErrorWithDetail (ofTypes : metrics.OfTypes allowed) (errorType : ErrorType)
    (message : String) (context : Option String) :
    (metrics.recordErrorWithDetail now id errorType message context).OfTypes allowed := by
  rw [OfTypes, connections_recordErrorWithDetail]
  exact ofTypes.update (·.withError ⟨errorType, message, now, id, context⟩) (fun _ => rfl)
    (fun _ => rfl)

end Types

/-- Every record has an end. -/
theorem activeConnections_eq_zero {metrics : MetricsCollector} (connectionType : ConnectionType)
    (ended : ∀ id, metrics.Registered id → metrics.Ended id) :
    metrics.activeConnections connectionType = 0 := by
  refine List.countP_eq_zero.mpr ?_
  intro connection member
  have found := metrics.connections.get?_of_mem member
  obtain ⟨same, here, finished⟩ := ended connection.id (by simp [Registered, found])
  obtain rfl : connection = same := Option.some.inj (found.symm.trans here)
  simp [Option.isNone_eq_false_iff.mpr finished]

/-- A record of a type without active connections has an end. -/
theorem ended_of_activeConnections_eq_zero {metrics : MetricsCollector}
    {connection : ConnectionMetrics} (member : connection ∈ metrics.connections.records)
    (none : metrics.activeConnections connection.connectionType = 0) :
    metrics.Ended connection.id := by
  have closed := List.countP_eq_zero.mp none connection member
  refine ⟨connection, metrics.connections.get?_of_mem member, ?_⟩
  simpa [← Option.isSome_iff_ne_none] using closed

end MetricsCollector

end Npt.Shared
