import Mathlib.Data.List.MinMax
import Npt.Core.Table
import Npt.Shared.Config
import Npt.Shared.Protocol

/-!
Contract: the client's server pool (`client/src/server_pool.rs`).

The pool is a map from addresses to server records, written through its
entries only, so its keys and its iteration order are those `ServerPool.new`
gave it. `get_server` filters the healthy records and selects one by strategy;
a draw stands for its random number or session identifier. Counters are
machine integers and wrap as the release build does.

Owns: the server record with its health transitions and connection counters,
selection, and what each operation leaves unchanged.

Does not own: who calls the operations and in which order, nor the display-only
times `last_health_check` and `last_used`.
-/

namespace Npt.Client

open Npt.Core
open Npt.Shared

/-! ## The server record -/

structure ServerInfo where
  address : SocketAddr
  isHealthy : Bool := true
  consecutiveFailures : UInt32 := 0
  consecutiveSuccesses : UInt32 := 0
  activeConnections : UInt32 := 0
  totalConnections : UInt64 := 0
deriving DecidableEq, Repr

namespace ServerInfo

def incrementConnections (server : ServerInfo) : ServerInfo :=
  { server with
    activeConnections := server.activeConnections + 1
    totalConnections := server.totalConnections + 1 }

/-- `fetch_sub`, which wraps at zero. -/
def decrementConnections (server : ServerInfo) : ServerInfo :=
  { server with activeConnections := server.activeConnections - 1 }

/-- The record under `mark_connection_failed`. -/
def connectionFailed (config : HealthCheckConfig) (server : ServerInfo) : ServerInfo :=
  let counted := { server with
    consecutiveFailures := server.consecutiveFailures + 1
    consecutiveSuccesses := 0 }
  if config.failureThreshold ≤ counted.consecutiveFailures then { counted with isHealthy := false }
  else counted

/-- The record under `mark_connection_success`. -/
def connectionSucceeded (config : HealthCheckConfig) (server : ServerInfo) : ServerInfo :=
  let counted := { server with
    consecutiveSuccesses := server.consecutiveSuccesses + 1
    consecutiveFailures := 0 }
  if counted.isHealthy = false ∧ config.recoveryThreshold ≤ counted.consecutiveSuccesses then
    { counted with isHealthy := true }
  else counted

/-- The record when a health check reports. -/
def healthChecked (config : HealthCheckConfig) (ok : Bool) (server : ServerInfo) : ServerInfo :=
  if ok then
    have counted := { server with
      consecutiveSuccesses := server.consecutiveSuccesses + 1
      consecutiveFailures := 0 }
    if counted.isHealthy = false ∧ config.recoveryThreshold ≤ counted.consecutiveSuccesses then
      { counted with isHealthy := true }
    else counted
  else
    have counted := { server with
      consecutiveFailures := server.consecutiveFailures + 1
      consecutiveSuccesses := 0 }
    if counted.isHealthy = true ∧ config.failureThreshold ≤ counted.consecutiveFailures then
      { counted with isHealthy := false }
    else counted

variable (config : HealthCheckConfig) (server : ServerInfo)

@[simp] theorem incrementConnections_address :
    server.incrementConnections.address = server.address := rfl

@[simp] theorem decrementConnections_address :
    server.decrementConnections.address = server.address := rfl

@[simp] theorem connectionFailed_address :
    (server.connectionFailed config).address = server.address := by
  unfold connectionFailed
  dsimp only
  split <;> rfl

@[simp] theorem connectionSucceeded_address :
    (server.connectionSucceeded config).address = server.address := by
  unfold connectionSucceeded
  dsimp only
  split <;> rfl

@[simp] theorem connectionFailed_activeConnections :
    (server.connectionFailed config).activeConnections = server.activeConnections := by
  unfold connectionFailed
  dsimp only
  split <;> rfl

@[simp] theorem connectionSucceeded_activeConnections :
    (server.connectionSucceeded config).activeConnections = server.activeConnections := by
  unfold connectionSucceeded
  dsimp only
  split <;> rfl

@[simp] theorem connectionFailed_totalConnections :
    (server.connectionFailed config).totalConnections = server.totalConnections := by
  unfold connectionFailed
  dsimp only
  split <;> rfl

@[simp] theorem connectionSucceeded_totalConnections :
    (server.connectionSucceeded config).totalConnections = server.totalConnections := by
  unfold connectionSucceeded
  dsimp only
  split <;> rfl

/-- A passed check does what a successful connection does. -/
theorem healthChecked_true : server.healthChecked config true = server.connectionSucceeded config :=
  rfl

/-- A failed check does what a failed connection does: the extra test for a
healthy record changes nothing. -/
theorem healthChecked_false : server.healthChecked config false = server.connectionFailed config := by
  unfold healthChecked connectionFailed
  cases server.isHealthy <;> simp

@[simp] theorem healthChecked_address (ok : Bool) :
    (server.healthChecked config ok).address = server.address := by
  cases ok with
  | true => rw [healthChecked_true, connectionSucceeded_address]
  | false => rw [healthChecked_false, connectionFailed_address]

end ServerInfo

/-! ## The pool -/

/-- An order in which a map may list the addresses it was built from. -/
structure IterationOrder (addresses : List SocketAddr) where
  keys : List SocketAddr
  distinct : keys.Nodup
  same : ∀ address, address ∈ keys ↔ address ∈ addresses

def IterationOrder.asGiven (addresses : List SocketAddr) (distinct : addresses.Nodup) :
    IterationOrder addresses where
  keys := addresses
  distinct := distinct
  same := fun _ => Iff.rfl

structure ServerPool where
  servers : Table ServerInfo.address
  config : LoadBalancerConfig
  roundRobinIndex : UInt64 := 0

namespace ServerPool

/-- The pool `ServerPool::new` builds; its map lists the addresses in `order`. -/
def new (addresses : List SocketAddr) (order : IterationOrder addresses)
    (config : LoadBalancerConfig) : ServerPool where
  servers :=
    { records := order.keys.map (fun address => { address := address })
      distinct := by simpa [List.map_map, Function.comp_def] using order.distinct }
  config := config

/-- Whether `ServerPool::new` started the health checker. -/
def healthCheckerStarted (pool : ServerPool) : Bool :=
  pool.config.healthCheck.enabled && decide (1 < pool.servers.records.length)

/-- Whether the spawned checker comes to its rounds: `tokio::time::interval` panics on an
interval of zero. -/
def healthCheckerTicks (pool : ServerPool) : Bool :=
  pool.healthCheckerStarted && decide (0 < pool.config.healthCheck.interval)

/-- Of the checks in flight, the one that reports. With a timeout of zero none reports
`Ok`. -/
def reportingCheck (pool : ServerPool) (checks : List SocketAddr) (index : Nat) (ok : Bool) :
    Option SocketAddr :=
  if ok = true ∧ pool.config.healthCheck.timeout = 0 then none else checks[index]?

def healthyServers (pool : ServerPool) : List ServerInfo :=
  pool.servers.records.filter (fun server => server.isHealthy)

/-! ### Selection -/

def roundRobinSelect (pool : ServerPool) (servers : List ServerInfo) :
    Option SocketAddr × ServerPool :=
  let index := pool.roundRobinIndex.toNat
  ((servers[index % servers.length]?).map (·.address),
    { pool with roundRobinIndex := pool.roundRobinIndex + 1 })

/-- The draw stands for `gen_range(0..len)`. -/
def randomSelect (draw : Nat) (servers : List ServerInfo) : Option SocketAddr :=
  (servers[draw % servers.length]?).map (·.address)

/-- `min_by_key` keeps the first of several minima. -/
def leastConnectionsSelect (servers : List ServerInfo) : Option SocketAddr :=
  (servers.argmin (fun server => server.activeConnections.toNat)).map (·.address)

/-- The draw stands for the session identifier. -/
def hashBasedSelect (draw : Nat) (servers : List ServerInfo) : Option SocketAddr :=
  (servers[draw % servers.length]?).map (·.address)

def getServer (pool : ServerPool) (draw : Nat) : Option SocketAddr × ServerPool :=
  let healthy := pool.healthyServers
  if healthy.isEmpty then (none, pool)
  else
    match pool.config.strategy with
    | .roundRobin => pool.roundRobinSelect healthy
    | .random => (randomSelect draw healthy, pool)
    | .leastConnections => (leastConnectionsSelect healthy, pool)
    | .hashBased => (hashBasedSelect draw healthy, pool)

/-! ### Writes through an entry -/

def markConnectionStart (pool : ServerPool) (address : SocketAddr) : ServerPool :=
  { pool with
    servers := pool.servers.modify address ServerInfo.incrementConnections
      ServerInfo.incrementConnections_address }

def markConnectionEnd (pool : ServerPool) (address : SocketAddr) : ServerPool :=
  { pool with
    servers := pool.servers.modify address ServerInfo.decrementConnections
      ServerInfo.decrementConnections_address }

def markConnectionFailed (pool : ServerPool) (address : SocketAddr) : ServerPool :=
  { pool with
    servers := pool.servers.modify address (ServerInfo.connectionFailed pool.config.healthCheck)
      (ServerInfo.connectionFailed_address _) }

def markConnectionSuccess (pool : ServerPool) (address : SocketAddr) : ServerPool :=
  { pool with
    servers := pool.servers.modify address (ServerInfo.connectionSucceeded pool.config.healthCheck)
      (ServerInfo.connectionSucceeded_address _) }

/-- The report of one health check, `Ok` or `Err`. -/
def healthResult (pool : ServerPool) (address : SocketAddr) (ok : Bool) : ServerPool :=
  { pool with
    servers := pool.servers.modify address (ServerInfo.healthChecked pool.config.healthCheck ok)
      (fun server => server.healthChecked_address _ ok) }

theorem healthResult_true (pool : ServerPool) (address : SocketAddr) :
    pool.healthResult address true = pool.markConnectionSuccess address := rfl

/-! ### The addresses of a pool -/

def addresses (pool : ServerPool) : List SocketAddr :=
  pool.servers.records.map ServerInfo.address

@[simp] theorem addresses_new (addresses : List SocketAddr) (order : IterationOrder addresses)
    (config : LoadBalancerConfig) : (new addresses order config).addresses = order.keys := by
  simp [new, ServerPool.addresses, List.map_map, Function.comp_def]

section Addresses

variable (pool : ServerPool) (address : SocketAddr)

@[simp] theorem addresses_markConnectionStart :
    (pool.markConnectionStart address).addresses = pool.addresses := by
  simp [addresses, markConnectionStart, Table.keys_modify]

@[simp] theorem addresses_markConnectionEnd :
    (pool.markConnectionEnd address).addresses = pool.addresses := by
  simp [addresses, markConnectionEnd, Table.keys_modify]

@[simp] theorem addresses_markConnectionFailed :
    (pool.markConnectionFailed address).addresses = pool.addresses := by
  simp [addresses, markConnectionFailed, Table.keys_modify]

@[simp] theorem addresses_markConnectionSuccess :
    (pool.markConnectionSuccess address).addresses = pool.addresses := by
  simp [addresses, markConnectionSuccess, Table.keys_modify]

@[simp] theorem addresses_healthResult (ok : Bool) :
    (pool.healthResult address ok).addresses = pool.addresses := by
  simp [addresses, healthResult, Table.keys_modify]

end Addresses

theorem get?_of_mem_addresses {pool : ServerPool} {address : SocketAddr}
    (member : address ∈ pool.addresses) : ∃ server, pool.servers.get? address = some server := by
  obtain ⟨server, present, rfl⟩ := List.mem_map.mp member
  exact ⟨server, pool.servers.get?_of_mem present⟩

/-! ### The active-connection counters -/

/-- The counter of a server. -/
def activeConnections (pool : ServerPool) (address : SocketAddr) : UInt32 :=
  ((pool.servers.get? address).map (·.activeConnections)).getD 0

section Counters

variable {pool : ServerPool} {address : SocketAddr}

theorem activeConnections_new (addresses : List SocketAddr) (order : IterationOrder addresses)
    (config : LoadBalancerConfig) (address : SocketAddr) :
    (new addresses order config).activeConnections address = 0 := by
  unfold activeConnections
  cases found : (new addresses order config).servers.get? address with
  | none => rfl
  | some server =>
      obtain ⟨_, _, rfl⟩ := List.mem_map.mp (Table.mem_of_get? _ found)
      rfl

theorem activeConnections_of_mem {server : ServerInfo} (member : server ∈ pool.servers.records) :
    pool.activeConnections server.address = server.activeConnections := by
  simp [activeConnections, pool.servers.get?_of_mem member]

theorem activeConnections_markConnectionStart_self (known : address ∈ pool.addresses) :
    (pool.markConnectionStart address).activeConnections address =
      pool.activeConnections address + 1 := by
  obtain ⟨server, found⟩ := get?_of_mem_addresses known
  simp [activeConnections, markConnectionStart, Table.get?_modify_self, found,
    ServerInfo.incrementConnections]

theorem activeConnections_markConnectionEnd_self (known : address ∈ pool.addresses) :
    (pool.markConnectionEnd address).activeConnections address =
      pool.activeConnections address - 1 := by
  obtain ⟨server, found⟩ := get?_of_mem_addresses known
  simp [activeConnections, markConnectionEnd, Table.get?_modify_self, found,
    ServerInfo.decrementConnections]

theorem activeConnections_markConnectionStart_ne {other : SocketAddr} (different : address ≠ other) :
    (pool.markConnectionStart other).activeConnections address = pool.activeConnections address := by
  simp [activeConnections, markConnectionStart, Table.get?_modify_ne _ different]

theorem activeConnections_markConnectionEnd_ne {other : SocketAddr} (different : address ≠ other) :
    (pool.markConnectionEnd other).activeConnections address = pool.activeConnections address := by
  simp [activeConnections, markConnectionEnd, Table.get?_modify_ne _ different]

/-- A change that keeps every record's counter. -/
theorem activeConnections_modify {change : ServerInfo → ServerInfo}
    (keeps : ∀ server, (change server).address = server.address)
    (kept : ∀ server, (change server).activeConnections = server.activeConnections)
    (changed : SocketAddr) :
    ({ pool with servers := pool.servers.modify changed change keeps }
        : ServerPool).activeConnections address = pool.activeConnections address := by
  simp only [activeConnections, Table.get?_modify, Option.map_map]
  congr 2
  funext server
  simp only [Function.comp_apply]
  split
  · exact kept server
  · rfl

@[simp] theorem activeConnections_markConnectionFailed (failed : SocketAddr) :
    (pool.markConnectionFailed failed).activeConnections address = pool.activeConnections address :=
  activeConnections_modify _ (ServerInfo.connectionFailed_activeConnections _) failed

@[simp] theorem activeConnections_markConnectionSuccess (succeeded : SocketAddr) :
    (pool.markConnectionSuccess succeeded).activeConnections address =
      pool.activeConnections address :=
  activeConnections_modify _ (ServerInfo.connectionSucceeded_activeConnections _) succeeded

@[simp] theorem activeConnections_healthResult (checked : SocketAddr) (ok : Bool) :
    (pool.healthResult checked ok).activeConnections address = pool.activeConnections address := by
  refine activeConnections_modify _ (fun server => ?_) checked
  cases ok with
  | true => rw [ServerInfo.healthChecked_true, ServerInfo.connectionSucceeded_activeConnections]
  | false => rw [ServerInfo.healthChecked_false, ServerInfo.connectionFailed_activeConnections]

end Counters

theorem healthCheckerStarted_iff (pool : ServerPool) :
    pool.healthCheckerStarted = true ↔
      pool.config.healthCheck.enabled = true ∧ 1 < pool.addresses.length := by
  simp [healthCheckerStarted, addresses]

theorem healthCheckerTicks_iff (pool : ServerPool) :
    pool.healthCheckerTicks = true ↔
      pool.healthCheckerStarted = true ∧ 0 < pool.config.healthCheck.interval := by
  simp [healthCheckerTicks]

theorem reportingCheck_true_iff {pool : ServerPool} {checks : List SocketAddr} {index : Nat}
    {address : SocketAddr} :
    pool.reportingCheck checks index true = some address ↔
      0 < pool.config.healthCheck.timeout ∧ checks[index]? = some address := by
  by_cases zero : pool.config.healthCheck.timeout = 0
  · simp [reportingCheck, zero]
  · simp [reportingCheck, zero, Nat.pos_of_ne_zero zero]

/-! ### What selection reads and changes -/

theorem select_isSome {servers : List ServerInfo} (nonempty : servers ≠ []) (index : Nat) :
    ((servers[index % servers.length]?).map (·.address)).isSome = true := by
  have inRange : index % servers.length < servers.length :=
    Nat.mod_lt _ (List.length_pos_iff.mpr nonempty)
  simp [inRange]

/-- `get_server` finds a server exactly when one is healthy. -/
theorem getServer_isSome_iff (pool : ServerPool) (draw : Nat) :
    (pool.getServer draw).1.isSome = true ↔ ∃ server ∈ pool.servers.records, server.isHealthy := by
  have healthy : (∃ server ∈ pool.servers.records, server.isHealthy) ↔ pool.healthyServers ≠ [] := by
    simp [healthyServers, List.filter_eq_nil_iff]
  rw [healthy]
  by_cases nonempty : pool.healthyServers = []
  · simp [getServer, nonempty]
  · have filled : pool.healthyServers.isEmpty = false := by simpa using nonempty
    refine iff_of_true ?_ nonempty
    simp only [getServer, filled, Bool.false_eq_true, ↓reduceIte]
    cases pool.config.strategy with
    | roundRobin => exact select_isSome nonempty _
    | random => exact select_isSome nonempty _
    | hashBased => exact select_isSome nonempty _
    | leastConnections =>
        simp only [leastConnectionsSelect, Option.isSome_map]
        rw [Option.isSome_iff_ne_none, ne_eq, List.argmin_eq_none]
        exact nonempty

theorem address_mem_of_map {servers : List ServerInfo} {address : SocketAddr} {index : Nat}
    (chosen : (servers[index]?).map (·.address) = some address) :
    ∃ server ∈ servers, server.address = address := by
  obtain ⟨server, found, same⟩ := Option.map_eq_some_iff.mp chosen
  exact ⟨server, List.mem_of_getElem? found, same⟩

/-- The selected server is a healthy one of the pool. -/
theorem getServer_healthy {pool : ServerPool} {draw : Nat} {address : SocketAddr}
    (chosen : (pool.getServer draw).1 = some address) :
    ∃ server ∈ pool.servers.records, server.isHealthy ∧ server.address = address := by
  have inHealthy : ∃ server ∈ pool.healthyServers, server.address = address := by
    simp only [getServer] at chosen
    split at chosen
    · simp at chosen
    · cases strategy : pool.config.strategy with
      | roundRobin =>
          simp only [strategy] at chosen
          exact address_mem_of_map chosen
      | random =>
          simp only [strategy] at chosen
          exact address_mem_of_map chosen
      | hashBased =>
          simp only [strategy] at chosen
          exact address_mem_of_map chosen
      | leastConnections =>
          simp only [strategy, leastConnectionsSelect] at chosen
          obtain ⟨server, found, same⟩ := Option.map_eq_some_iff.mp chosen
          exact ⟨server, List.argmin_mem found, same⟩
  obtain ⟨server, member, same⟩ := inHealthy
  have both := List.mem_filter.mp member
  exact ⟨server, both.1, both.2, same⟩

theorem getServer_mem_addresses {pool : ServerPool} {draw : Nat} {address : SocketAddr}
    (chosen : (pool.getServer draw).1 = some address) : address ∈ pool.addresses := by
  obtain ⟨server, member, _, rfl⟩ := getServer_healthy chosen
  exact List.mem_map_of_mem member

@[simp] theorem getServer_servers (pool : ServerPool) (draw : Nat) :
    (pool.getServer draw).2.servers = pool.servers := by
  simp only [getServer]
  split
  · rfl
  · cases pool.config.strategy <;> rfl

@[simp] theorem getServer_config (pool : ServerPool) (draw : Nat) :
    (pool.getServer draw).2.config = pool.config := by
  simp only [getServer]
  split
  · rfl
  · cases pool.config.strategy <;> rfl

end ServerPool

end Npt.Client
