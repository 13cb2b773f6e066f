import Npt.Shared.Metrics

/-!
Contract: the calls on the metrics collector as data.

A call on a connection writes through its entry; one of them also appends to the
collector's own list of error details. `ConnectionCall.change` says what is
written, so that every statement about calls is proved once for all of them.

Owns: calls and operations, and what each leaves in the three stores of the
collector.

Does not own: the order in which they are made.
-/

namespace Npt.Shared

open Npt.Core

/-- A call on an open connection. -/
inductive ConnectionCall where
  | endConnection
  | recordBytesSent (bytes : UInt64)
  | recordBytesReceived (bytes : UInt64)
  | recordPacketSent
  | recordPacketReceived
  | recordError
  | recordErrorWithDetail (errorType : ErrorType) (message : String) (context : Option String)
  | recordLatency (latency : Nat)
deriving DecidableEq, Repr

inductive Operation where
  | startConnection (id : Uuid) (connectionType : ConnectionType)
  | startConnectionWithActivity (id : Uuid) (connectionType : ConnectionType)
      (activity : UserActivity)
  | record (id : Uuid) (call : ConnectionCall)
  | incrementActiveUsers
  | decrementActiveUsers
deriving DecidableEq, Repr

namespace ConnectionCall

def apply (now : Nat) (metrics : MetricsCollector) (id : Uuid) : ConnectionCall → MetricsCollector
  | .endConnection => metrics.endConnection now id
  | .recordBytesSent bytes => metrics.recordBytesSent id bytes
  | .recordBytesReceived bytes => metrics.recordBytesReceived id bytes
  | .recordPacketSent => metrics.recordPacketSent id
  | .recordPacketReceived => metrics.recordPacketReceived id
  | .recordError => metrics.recordError id
  | .recordErrorWithDetail errorType message context =>
      metrics.recordErrorWithDetail now id errorType message context
  | .recordLatency latency => metrics.recordLatency id latency

/-- What the call writes into the record of its connection. -/
def change (now : Nat) (id : Uuid) (connection : ConnectionMetrics) :
    ConnectionCall → ConnectionMetrics
  | .endConnection => { connection with endTime := some now }
  | .recordBytesSent bytes => { connection with bytesSent := connection.bytesSent + bytes }
  | .recordBytesReceived bytes =>
      { connection with bytesReceived := connection.bytesReceived + bytes }
  | .recordPacketSent => { connection with packetsSent := connection.packetsSent + 1 }
  | .recordPacketReceived => { connection with packetsReceived := connection.packetsReceived + 1 }
  | .recordError => { connection with errors := connection.errors + 1 }
  | .recordErrorWithDetail errorType message context =>
      connection.withError ⟨errorType, message, now, id, context⟩
  | .recordLatency latency => { connection with latencies := connection.latencies ++ [latency] }

/-- What the call appends to the collector's list of error details. -/
def details (now : Nat) (id : Uuid) : ConnectionCall → List ErrorDetail
  | .recordErrorWithDetail errorType message context =>
      [⟨errorType, message, now, id, context⟩]
  | _ => []

section Apply

variable (now : Nat) (metrics : MetricsCollector) (id : Uuid) (call : ConnectionCall)

theorem change_id (connection : ConnectionMetrics) :
    (call.change now id connection).id = connection.id := by
  cases call <;> rfl

theorem change_connectionType (connection : ConnectionMetrics) :
    (call.change now id connection).connectionType = connection.connectionType := by
  cases call <;> rfl

theorem connections_apply :
    (call.apply now metrics id).connections =
      metrics.connections.modify id (call.change now id) (call.change_id now id) := by
  cases call with
  | recordErrorWithDetail errorType message context =>
      exact metrics.connections_recordErrorWithDetail now id errorType message context
  | _ => rfl

theorem errorDetails_apply :
    (call.apply now metrics id).errorDetails =
      metrics.errorDetails ++ if metrics.Registered id then call.details now id else [] := by
  cases call with
  | recordErrorWithDetail errorType message context =>
      unfold apply MetricsCollector.recordErrorWithDetail
      dsimp only
      split
      · rename_i found
        simp [MetricsCollector.Registered, found, details]
      · rename_i absent
        simp [MetricsCollector.Registered, absent, MetricsCollector.update]
  | _ =>
      simp only [details, ite_self, List.append_nil]
      rfl

theorem activeUsers_apply : (call.apply now metrics id).activeUsers = metrics.activeUsers := by
  cases call with
  | recordErrorWithDetail errorType message context =>
      unfold apply MetricsCollector.recordErrorWithDetail
      dsimp only
      split <;> rfl
  | _ => rfl

end Apply

end ConnectionCall

namespace Operation

def apply (now : Nat) (metrics : MetricsCollector) : Operation → MetricsCollector
  | .startConnection id connectionType => metrics.startConnection now id connectionType
  | .startConnectionWithActivity id connectionType activity =>
      metrics.startConnectionWithActivity now id connectionType activity
  | .record id call => call.apply now metrics id
  | .incrementActiveUsers => metrics.incrementActiveUsers
  | .decrementActiveUsers => metrics.decrementActiveUsers

/-- The record that the operation inserts. -/
def opened (now : Nat) : Operation → Option ConnectionMetrics
  | .startConnection id connectionType =>
      some { id := id, connectionType := connectionType, startTime := now }
  | .startConnectionWithActivity id connectionType activity =>
      some { id := id, connectionType := connectionType, startTime := now
             userActivity := some activity }
  | _ => none

/-- What an operation does to the records. -/
inductive Effect (now : Nat) (metrics : MetricsCollector) :
    Operation → Table ConnectionMetrics.id → Prop where
  | opens {operation : Operation} {connection : ConnectionMetrics}
      (opened : operation.opened now = some connection) :
      Effect now metrics operation (metrics.connections.insert connection)
  | writes {id : Uuid} {call : ConnectionCall} :
      Effect now metrics (.record id call)
        (metrics.connections.modify id (call.change now id) (call.change_id now id))
  | counts {operation : Operation}
      (user : operation = .incrementActiveUsers ∨ operation = .decrementActiveUsers) :
      Effect now metrics operation metrics.connections

theorem effect_apply (now : Nat) (metrics : MetricsCollector) (operation : Operation) :
    Effect now metrics operation (operation.apply now metrics).connections := by
  cases operation with
  | startConnection | startConnectionWithActivity => exact .opens rfl
  | record id call =>
      simp only [apply, ConnectionCall.connections_apply]
      exact .writes
  | incrementActiveUsers => exact .counts (Or.inl rfl)
  | decrementActiveUsers =>
      have same : (metrics.decrementActiveUsers).connections = metrics.connections := by
        simp only [MetricsCollector.decrementActiveUsers]
        split <;> rfl
      simp only [apply, same]
      exact .counts (Or.inr rfl)

end Operation

end Npt.Shared
