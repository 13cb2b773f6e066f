import Mathlib.Data.UInt
import Npt.Client.ServerPool
import Npt.Shared.Metrics
import Npt.Shared.Text

/-!
Contract: the calls that client activities make on shared state.

All users share one server pool and one metrics collector. An activity touches
them only through the calls listed as `Effect`; the code between two awaits is
a list of effects, carried out in order.

Owns: the shared state, the effects with their meaning, random draws from a
range, and which effects start or end a connection.

Does not own: when an activity makes a call.
-/

namespace Npt.Client

open Npt.Core
open Npt.Shared

structure SharedState where
  pool : ServerPool
  metrics : MetricsCollector := {}

inductive Effect where
  /-- `get_server`, for what it does to the rotation. -/
  | getServer (draw : Nat)
  | markConnectionStart (server : SocketAddr)
  | markConnectionEnd (server : SocketAddr)
  | markConnectionFailed (server : SocketAddr)
  | markConnectionSuccess (server : SocketAddr)
  | startConnection (id : Uuid) (connectionType : ConnectionType) (activity : UserActivity)
  | endConnection (id : Uuid)
  | recordPacketSent (id : Uuid)
  | recordPacketReceived (id : Uuid)
  | recordBytesSent (id : Uuid) (bytes : UInt64)
  | recordBytesReceived (id : Uuid) (bytes : UInt64)
  | recordLatency (id : Uuid) (latency : Nat)
  | recordErrorWithDetail (id : Uuid) (errorType : ErrorType) (message : String)
      (context : Option String)
  | incrementActiveUsers
  | decrementActiveUsers
deriving DecidableEq, Repr

def SharedState.onPool (shared : SharedState) (change : ServerPool → ServerPool) : SharedState :=
  { shared with pool := change shared.pool }

def SharedState.onMetrics (shared : SharedState) (change : MetricsCollector → MetricsCollector) :
    SharedState :=
  { shared with metrics := change shared.metrics }

namespace Effect

/-- The effect of one call made at time `now`. -/
def apply (now : Nat) (shared : SharedState) : Effect → SharedState
  | .getServer draw => shared.onPool (fun pool => (pool.getServer draw).2)
  | .markConnectionStart server => shared.onPool (·.markConnectionStart server)
  | .markConnectionEnd server => shared.onPool (·.markConnectionEnd server)
  | .markConnectionFailed server => shared.onPool (·.markConnectionFailed server)
  | .markConnectionSuccess server => shared.onPool (·.markConnectionSuccess server)
  | .startConnection id connectionType activity =>
      shared.onMetrics (·.startConnectionWithActivity now id connectionType activity)
  | .endConnection id => shared.onMetrics (·.endConnection now id)
  | .recordPacketSent id => shared.onMetrics (·.recordPacketSent id)
  | .recordPacketReceived id => shared.onMetrics (·.recordPacketReceived id)
  | .recordBytesSent id bytes => shared.onMetrics (·.recordBytesSent id bytes)
  | .recordBytesReceived id bytes => shared.onMetrics (·.recordBytesReceived id bytes)
  | .recordLatency id latency => shared.onMetrics (·.recordLatency id latency)
  | .recordErrorWithDetail id errorType message context =>
      shared.onMetrics (·.recordErrorWithDetail now id errorType message context)
  | .incrementActiveUsers => shared.onMetrics (·.incrementActiveUsers)
  | .decrementActiveUsers => shared.onMetrics (·.decrementActiveUsers)

def applyAll (now : Nat) (shared : SharedState) (effects : List Effect) : SharedState :=
  effects.foldl (apply now) shared

/-- How often the effects call `mark_connection_start` for a server. -/
def starts (server : SocketAddr) (effects : List Effect) : Nat :=
  effects.count (.markConnectionStart server)

/-- How often the effects call `mark_connection_end` for a server. -/
def ends (server : SocketAddr) (effects : List Effect) : Nat :=
  effects.count (.markConnectionEnd server)

/-- The connection that an effect registers with the metrics. -/
def registers : Effect → Option Uuid
  | .startConnection id _ _ => some id
  | _ => none

/-- The connections that the effects register. -/
def registrations (effects : List Effect) : List Uuid := effects.filterMap registers

/-- How often the effects call `end_connection` for a connection. -/
def closings (id : Uuid) (effects : List Effect) : Nat := effects.count (.endConnection id)

/-- The effect neither starts nor ends anything. -/
def neutral : Effect → Bool
  | .markConnectionStart _ | .markConnectionEnd _ | .startConnection _ _ _ | .endConnection _ =>
      false
  | _ => true

/-- All of the effects are neutral. -/
abbrev Neutral (effects : List Effect) : Prop := ∀ effect ∈ effects, effect.neutral = true

/-- The traffic that an effect records for a connection. -/
def traffic (id : Uuid) : Effect → Traffic
  | .recordPacketSent recorded => if id = recorded then { packetsSent := 1 } else 0
  | .recordPacketReceived recorded => if id = recorded then { packetsReceived := 1 } else 0
  | .recordBytesSent recorded bytes => if id = recorded then { bytesSent := bytes } else 0
  | .recordBytesReceived recorded bytes => if id = recorded then { bytesReceived := bytes } else 0
  | _ => 0

/-- The errors that an effect records for a connection. -/
def errors (id : Uuid) : Effect → UInt64
  | .recordErrorWithDetail recorded _ _ _ => if id = recorded then 1 else 0
  | _ => 0

section Counts

variable (server : SocketAddr) (id : Uuid) (effect : Effect) (effects later : List Effect)

@[simp] theorem starts_nil : starts server [] = 0 := rfl

@[simp] theorem ends_nil : ends server [] = 0 := rfl

@[simp] theorem closings_nil : closings id [] = 0 := rfl

@[simp] theorem registrations_nil : registrations [] = [] := rfl

@[simp] theorem starts_cons : starts server (effect :: effects) =
    starts server effects + if effect = .markConnectionStart server then 1 else 0 := by
  simp [starts, List.count_cons]

@[simp] theorem ends_cons : ends server (effect :: effects) =
    ends server effects + if effect = .markConnectionEnd server then 1 else 0 := by
  simp [ends, List.count_cons]

@[simp] theorem closings_cons : closings id (effect :: effects) =
    closings id effects + if effect = .endConnection id then 1 else 0 := by
  simp [closings, List.count_cons]

@[simp] theorem registrations_cons : registrations (effect :: effects) =
    effect.registers.toList ++ registrations effects := by
  cases new : effect.registers <;> simp [registrations, new]

@[simp] theorem starts_append :
    starts server (effects ++ later) = starts server effects + starts server later :=
  List.count_append

@[simp] theorem ends_append :
    ends server (effects ++ later) = ends server effects + ends server later :=
  List.count_append

@[simp] theorem closings_append :
    closings id (effects ++ later) = closings id effects + closings id later :=
  List.count_append

@[simp] theorem registrations_append :
    registrations (effects ++ later) = registrations effects ++ registrations later :=
  List.filterMap_append

end Counts

section Neutral

variable {effects : List Effect}

theorem starts_of_neutral (quiet : Neutral effects) (server : SocketAddr) :
    starts server effects = 0 := by
  refine List.count_eq_zero.mpr (fun member => ?_)
  simpa [neutral] using quiet _ member

theorem ends_of_neutral (quiet : Neutral effects) (server : SocketAddr) :
    ends server effects = 0 := by
  refine List.count_eq_zero.mpr (fun member => ?_)
  simpa [neutral] using quiet _ member

theorem closings_of_neutral (quiet : Neutral effects) (id : Uuid) : closings id effects = 0 := by
  refine List.count_eq_zero.mpr (fun member => ?_)
  simpa [neutral] using quiet _ member

theorem registrations_of_neutral (quiet : Neutral effects) : registrations effects = [] := by
  refine List.filterMap_eq_nil_iff.mpr (fun effect member => ?_)
  have here := quiet effect member
  cases effect with
  | startConnection id connectionType activity => simp [neutral] at here
  | _ => rfl

end Neutral

/-! ### What the effects do to a counter -/

section Counter

variable (now : Nat) (shared : SharedState) {server : SocketAddr}

@[simp] theorem addresses_apply (effect : Effect) :
    (apply now shared effect).pool.addresses = shared.pool.addresses := by
  cases effect with
  | getServer draw => simp [apply, SharedState.onPool, ServerPool.addresses]
  | _ => simp [apply, SharedState.onPool, SharedState.onMetrics]

@[simp] theorem addresses_applyAll (effects : List Effect) :
    (applyAll now shared effects).pool.addresses = shared.pool.addresses := by
  induction effects generalizing shared with
  | nil => rfl
  | cons effect effects inductionHypothesis =>
      show (applyAll now (apply now shared effect) effects).pool.addresses = _
      rw [inductionHypothesis, addresses_apply]

/-- One effect moves the counter of a server by its starts and ends. -/
theorem activeConnections_apply (known : server ∈ shared.pool.addresses) (effect : Effect) :
    (apply now shared effect).pool.activeConnections server + UInt32.ofNat (ends server [effect]) =
      shared.pool.activeConnections server + UInt32.ofNat (starts server [effect]) := by
  cases effect with
  | getServer draw =>
      simp [apply, SharedState.onPool, ServerPool.activeConnections]
  | markConnectionStart started =>
      by_cases same : started = server
      · subst same
        simp [apply, SharedState.onPool, ServerPool.activeConnections_markConnectionStart_self known]
      · simp [apply, SharedState.onPool, same,
          ServerPool.activeConnections_markConnectionStart_ne (Ne.symm same)]
  | markConnectionEnd ended =>
      by_cases same : ended = server
      · subst same
        simp [apply, SharedState.onPool, ServerPool.activeConnections_markConnectionEnd_self known]
      · simp [apply, SharedState.onPool, same,
          ServerPool.activeConnections_markConnectionEnd_ne (Ne.symm same)]
  | _ => simp [apply, SharedState.onPool, SharedState.onMetrics]

theorem activeConnections_applyAll (known : server ∈ shared.pool.addresses)
    (effects : List Effect) :
    (applyAll now shared effects).pool.activeConnections server +
        UInt32.ofNat (ends server effects) =
      shared.pool.activeConnections server + UInt32.ofNat (starts server effects) := by
  induction effects generalizing shared with
  | nil => rfl
  | cons effect effects inductionHypothesis =>
      have one := activeConnections_apply now shared known effect
      have rest := inductionHypothesis (apply now shared effect) (by simpa using known)
      rw [ends_cons, ends_nil, Nat.zero_add, starts_cons, starts_nil, Nat.zero_add] at one
      rw [ends_cons, starts_cons, UInt32.ofNat_add, UInt32.ofNat_add, ← UInt32.add_assoc,
        UInt32.add_comm (UInt32.ofNat (starts server effects)), ← UInt32.add_assoc, ← one]
      show (applyAll now (apply now shared effect) effects).pool.activeConnections server + _ + _ = _
      rw [rest]
      ac_rfl

/-- The counter of a server after a list of effects, as the naturals see it. -/
theorem activeConnections_applyAll_mod (known : server ∈ shared.pool.addresses)
    (effects : List Effect) :
    (((applyAll now shared effects).pool.activeConnections server).toNat + ends server effects) %
        2 ^ 32 =
      ((shared.pool.activeConnections server).toNat + starts server effects) % 2 ^ 32 := by
  have exact := congrArg UInt32.toNat (activeConnections_applyAll now shared known effects)
  rw [UInt32.toNat_add, UInt32.toNat_add, UInt32.toNat_ofNat', UInt32.toNat_ofNat',
    Nat.add_mod_mod, Nat.add_mod_mod] at exact
  exact exact

end Counter

/-! ### What the effects do to a connection record -/

section Record

variable (now : Nat) (shared : SharedState) (id : Uuid)

theorem registered_apply (effect : Effect) :
    (apply now shared effect).metrics.Registered id ↔
      shared.metrics.Registered id ∨ effect.registers = some id := by
  cases effect with
  | startConnection new connectionType activity =>
      rw [apply, SharedState.onMetrics, MetricsCollector.startConnectionWithActivity,
        MetricsCollector.registered_insert]
      simp [registers, or_comm, eq_comm]
  | recordErrorWithDetail ended errorType message context =>
      rw [apply, SharedState.onMetrics, MetricsCollector.registered_recordErrorWithDetail]
      simp [registers]
  | decrementActiveUsers =>
      simp only [apply, SharedState.onMetrics, MetricsCollector.decrementActiveUsers, registers]
      split <;> simp [MetricsCollector.Registered]
  | endConnection ended =>
      simp [apply, SharedState.onMetrics, registers, MetricsCollector.endConnection,
        MetricsCollector.registered_update]
  | recordPacketSent _ | recordPacketReceived _ | recordBytesSent _ _ | recordBytesReceived _ _
  | recordLatency _ _ =>
      simp [apply, SharedState.onMetrics, registers, MetricsCollector.recordPacketSent,
        MetricsCollector.recordPacketReceived, MetricsCollector.recordBytesSent,
        MetricsCollector.recordBytesReceived, MetricsCollector.recordLatency,
        MetricsCollector.registered_update]
  | _ => simp [apply, SharedState.onPool, SharedState.onMetrics, registers,
      MetricsCollector.incrementActiveUsers, MetricsCollector.Registered]

/-- The end of a record under an effect that does not register it. -/
theorem ended_apply {effect : Effect} (other : effect.registers ≠ some id) :
    (apply now shared effect).metrics.Ended id ↔
      shared.metrics.Ended id ∨ effect = .endConnection id ∧ shared.metrics.Registered id := by
  cases effect with
  | startConnection new connectionType activity =>
      rw [apply, SharedState.onMetrics, MetricsCollector.startConnectionWithActivity,
        MetricsCollector.ended_insert _ _ rfl]
      have different : id ≠ new := by
        rintro rfl
        exact other rfl
      simp [different]
  | recordErrorWithDetail ended errorType message context =>
      rw [apply, SharedState.onMetrics, MetricsCollector.ended_recordErrorWithDetail]
      simp
  | decrementActiveUsers =>
      simp only [apply, SharedState.onMetrics, MetricsCollector.decrementActiveUsers]
      split <;> simp [MetricsCollector.Ended]
  | endConnection ended =>
      rw [apply, SharedState.onMetrics, MetricsCollector.ended_endConnection]
      simp [eq_comm]
  | recordPacketSent _ | recordPacketReceived _ | recordBytesSent _ _ | recordBytesReceived _ _
  | recordLatency _ _ =>
      simp [apply, SharedState.onMetrics, MetricsCollector.recordPacketSent,
        MetricsCollector.recordPacketReceived, MetricsCollector.recordBytesSent,
        MetricsCollector.recordBytesReceived, MetricsCollector.recordLatency,
        MetricsCollector.ended_update]
  | _ => simp [apply, SharedState.onPool, SharedState.onMetrics,
      MetricsCollector.incrementActiveUsers, MetricsCollector.Ended]

theorem registered_applyAll (effects : List Effect) :
    (applyAll now shared effects).metrics.Registered id ↔
      shared.metrics.Registered id ∨ id ∈ registrations effects := by
  induction effects generalizing shared with
  | nil => simp [applyAll]
  | cons effect effects inductionHypothesis =>
      show (applyAll now (apply now shared effect) effects).metrics.Registered id ↔ _
      rw [inductionHypothesis, registered_apply]
      cases new : effect.registers <;> simp [new, or_assoc, eq_comm]

/-- The end of a record under effects that do not register it. -/
theorem ended_applyAll {effects : List Effect} (others : id ∉ registrations effects) :
    (applyAll now shared effects).metrics.Ended id ↔
      shared.metrics.Ended id ∨ 0 < closings id effects ∧ shared.metrics.Registered id := by
  induction effects generalizing shared with
  | nil => simp [applyAll]
  | cons effect effects inductionHypothesis =>
      have notNew : effect.registers ≠ some id := by
        intro new
        simp [new] at others
      have notLater : id ∉ registrations effects := by
        intro later
        simp [later] at others
      show (applyAll now (apply now shared effect) effects).metrics.Ended id ↔ _
      rw [inductionHypothesis _ notLater, ended_apply now shared id notNew,
        registered_apply]
      by_cases ends : effect = .endConnection id
      · simp [ends, registers]
        exact fun _ registered => Or.inr registered
      · simp [ends, notNew]

/-- One effect adds its traffic to the record of a connection that it does not
register. -/
theorem traffic_apply {effect : Effect} (other : effect.registers ≠ some id) :
    (apply now shared effect).metrics.traffic id =
      (shared.metrics.traffic id).map (· + effect.traffic id) := by
  have quiet : (shared.metrics.traffic id).map (· + 0) = shared.metrics.traffic id := by simp
  cases effect with
  | startConnection new connectionType activity =>
      rw [apply, SharedState.onMetrics, MetricsCollector.startConnectionWithActivity,
        MetricsCollector.traffic_insert, if_neg (fun same => other (by rw [same]; rfl))]
      simp [traffic]
  | recordPacketSent recorded =>
      rw [apply, SharedState.onMetrics, MetricsCollector.records_packetSent.traffic, traffic]
      split <;> simp
  | recordPacketReceived recorded =>
      rw [apply, SharedState.onMetrics, MetricsCollector.records_packetReceived.traffic, traffic]
      split <;> simp
  | recordBytesSent recorded bytes =>
      rw [apply, SharedState.onMetrics, (MetricsCollector.records_bytesSent bytes).traffic, traffic]
      split <;> simp
  | recordBytesReceived recorded bytes =>
      rw [apply, SharedState.onMetrics, (MetricsCollector.records_bytesReceived bytes).traffic,
        traffic]
      split <;> simp
  | decrementActiveUsers =>
      simp only [apply, SharedState.onMetrics, MetricsCollector.decrementActiveUsers, traffic, quiet]
      split <;> rfl
  | endConnection _ | recordLatency _ _ | recordErrorWithDetail _ _ _ _ =>
      simp [apply, SharedState.onMetrics, traffic]
  | _ => exact quiet.symm

theorem traffic_applyAll {effects : List Effect} (others : id ∉ registrations effects) :
    (applyAll now shared effects).metrics.traffic id =
      (shared.metrics.traffic id).map (· + (effects.map (traffic id)).sum) := by
  induction effects generalizing shared with
  | nil => simp [applyAll]
  | cons effect effects inductionHypothesis =>
      have notNew : effect.registers ≠ some id := by
        intro new
        simp [new] at others
      have notLater : id ∉ registrations effects := by
        intro later
        simp [later] at others
      show (applyAll now (apply now shared effect) effects).metrics.traffic id = _
      rw [inductionHypothesis _ notLater, traffic_apply now shared id notNew, Option.map_map]
      simp [Function.comp_def, add_assoc]

/-- One effect adds its errors to the count of a connection that it does not register. -/
theorem errorCount_apply {effect : Effect} (other : effect.registers ≠ some id) :
    (apply now shared effect).metrics.errorCount id =
      (shared.metrics.errorCount id).map (· + effect.errors id) := by
  have quiet : (shared.metrics.errorCount id).map (· + 0) = shared.metrics.errorCount id := by simp
  cases effect with
  | startConnection new connectionType activity =>
      have different : id ≠ new := fun same => other (by rw [same]; rfl)
      simp only [errors, quiet]
      rw [MetricsCollector.errorCount, MetricsCollector.errorCount, apply,
        SharedState.onMetrics, MetricsCollector.startConnectionWithActivity,
        MetricsCollector.insert, Table.get?_insert_ne _ different]
  | recordErrorWithDetail recorded errorType message context =>
      rw [apply, SharedState.onMetrics, MetricsCollector.errorCount_recordErrorWithDetail, errors]
  | decrementActiveUsers =>
      simp only [apply, SharedState.onMetrics, MetricsCollector.decrementActiveUsers, errors, quiet]
      split <;> rfl
  | endConnection _ | recordLatency _ _ | recordPacketSent _ | recordPacketReceived _
  | recordBytesSent _ _ | recordBytesReceived _ _ =>
      simp only [errors, quiet]
      exact shared.metrics.errorCount_update_same _ _ _ _ (fun _ => rfl)
  | _ => exact quiet.symm

theorem errorCount_applyAll {effects : List Effect} (others : id ∉ registrations effects) :
    (applyAll now shared effects).metrics.errorCount id =
      (shared.metrics.errorCount id).map (· + (effects.map (errors id)).sum) := by
  induction effects generalizing shared with
  | nil => simp [applyAll]
  | cons effect effects inductionHypothesis =>
      have notNew : effect.registers ≠ some id := by
        intro new
        simp [new] at others
      have notLater : id ∉ registrations effects := by
        intro later
        simp [later] at others
      show (applyAll now (apply now shared effect) effects).metrics.errorCount id = _
      rw [inductionHypothesis _ notLater, errorCount_apply now shared id notNew, Option.map_map]
      simp [Function.comp_def, UInt64.add_assoc]

/-- The records keep to the allowed types if the effect registers only these. -/
theorem ofTypes_apply {allowed : ConnectionType → Prop} {effect : Effect}
    (ofTypes : shared.metrics.OfTypes allowed)
    (new : ∀ id connectionType activity, effect = .startConnection id connectionType activity →
      allowed connectionType) : (apply now shared effect).metrics.OfTypes allowed := by
  cases effect with
  | startConnection id connectionType activity =>
      exact ofTypes.insert (new id connectionType activity rfl)
  | recordErrorWithDetail id errorType message context =>
      exact ofTypes.recordErrorWithDetail errorType message context
  | decrementActiveUsers =>
      simp only [apply, SharedState.onMetrics, MetricsCollector.decrementActiveUsers]
      split <;> exact ofTypes
  | endConnection _ | recordPacketSent _ | recordPacketReceived _ | recordBytesSent _ _
  | recordBytesReceived _ _ | recordLatency _ _ =>
      exact ofTypes.update _ _ (fun _ => rfl)
  | _ => exact ofTypes

theorem ofTypes_applyAll {allowed : ConnectionType → Prop} {effects : List Effect}
    (ofTypes : shared.metrics.OfTypes allowed)
    (new : ∀ id connectionType activity,
      .startConnection id connectionType activity ∈ effects → allowed connectionType) :
    (applyAll now shared effects).metrics.OfTypes allowed := by
  induction effects generalizing shared with
  | nil => exact ofTypes
  | cons effect effects inductionHypothesis =>
      refine inductionHypothesis (apply now shared effect) ?_ ?_
      · refine ofTypes_apply now shared ofTypes (fun id connectionType activity same => ?_)
        exact new id connectionType activity (by simp [same])
      · intro id connectionType activity member
        exact new id connectionType activity (List.mem_cons_of_mem _ member)

end Record

end Effect

/-- `gen_range(range.0..=range.1)`, which panics on an empty range. -/
def genRange (range : UInt32 × UInt32) (draw : Nat) : Option Nat :=
  if range.1 ≤ range.2 then
    some (range.1.toNat + draw % (range.2.toNat - range.1.toNat + 1))
  else none

end Npt.Client
