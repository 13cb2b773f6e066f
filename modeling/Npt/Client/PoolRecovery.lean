import Mathlib.Data.List.Perm.Basic
import Npt.Client.ServerPool
import Npt.Core.TransitionSystem

/-!
Contract: recovery of the server pool.

`poolMachine` is the pool under its callers: connection attempts of
`connect_with_failover`, QUIC sessions, connections that end, and the rounds of
the health checker with their reports. Attempts and checks stay in flight until
the network answers. A label `succeeds` unless a connection fails in it. The
checker's configured interval and timeout matter where they are zero only.

Owns: when a pool can come back, that is, when some continuation in which every
connection succeeds makes `get_server` return a server again.

Does not own: the retry bound and the back-off of one caller, or time.
-/

namespace Npt.Client

open Npt.Core
open Npt.Shared

/-! ## The pool under its callers -/

structure PoolState where
  pool : ServerPool
  /-- `TcpStream::connect` calls in flight. -/
  attempts : List SocketAddr := []
  /-- `check_server_health` calls in flight. -/
  checks : List SocketAddr := []
  /-- Connections that have been started and not ended. -/
  connections : List SocketAddr := []

inductive PoolLabel where
  | attempt (draw : Nat)
  | connected (index : Nat)
  | refused (index : Nat)
  /-- A QUIC session, which reports no outcome to the pool. -/
  | session (draw : Nat)
  | ended (index : Nat)
  | healthRound
  | checked (index : Nat) (ok : Bool)
deriving DecidableEq, Repr

/-- No connection fails in the step. -/
def PoolLabel.succeeds : PoolLabel → Bool
  | .refused _ | .checked _ false => false
  | _ => true

def poolStep (state : PoolState) : PoolLabel → Option PoolState
  | .attempt draw =>
      let selected := state.pool.getServer draw
      some { state with
        pool := selected.2
        attempts := state.attempts ++ selected.1.toList }
  | .connected index =>
      (state.attempts[index]?).map (fun address => { state with
        pool := (state.pool.markConnectionStart address).markConnectionSuccess address
        attempts := state.attempts.eraseIdx index
        connections := state.connections ++ [address] })
  | .refused index =>
      (state.attempts[index]?).map (fun address => { state with
        pool := state.pool.markConnectionFailed address
        attempts := state.attempts.eraseIdx index })
  | .session draw =>
      let selected := state.pool.getServer draw
      some { state with
        pool := selected.1.elim selected.2 selected.2.markConnectionStart
        connections := state.connections ++ selected.1.toList }
  | .ended index =>
      (state.connections[index]?).map (fun address => { state with
        pool := state.pool.markConnectionEnd address
        connections := state.connections.eraseIdx index })
  | .healthRound =>
      if state.pool.healthCheckerTicks then
        some { state with
          checks := state.checks ++ state.pool.addresses }
      else none
  | .checked index ok =>
      (state.pool.reportingCheck state.checks index ok).map (fun address => { state with
        pool := state.pool.healthResult address ok
        checks := state.checks.eraseIdx index })

def poolMachine : Machine PoolState PoolLabel := ⟨poolStep⟩

def startPool (addresses : List SocketAddr) (order : IterationOrder addresses)
    (config : LoadBalancerConfig) : PoolState where
  pool := .new addresses order config

/-! ## One server -/

namespace ServerInfo

variable {config : HealthCheckConfig} {server : ServerInfo}

/-- How many successes in a row make the server healthy. -/
def successesNeeded (config : HealthCheckConfig) (server : ServerInfo) : Nat :=
  if server.isHealthy then 0
  else max 1 (config.recoveryThreshold.toNat - server.consecutiveSuccesses.toNat)

/-- An unhealthy server has not been through its recovery. -/
def Unrecovered (config : HealthCheckConfig) (server : ServerInfo) : Prop :=
  server.isHealthy = false →
    server.consecutiveSuccesses = 0 ∨ server.consecutiveSuccesses < config.recoveryThreshold

theorem successesNeeded_eq_zero_iff :
    server.successesNeeded config = 0 ↔ server.isHealthy = true := by
  unfold successesNeeded
  split
  · simp [*]
  · rename_i unhealthy
    have positive :
        max 1 (config.recoveryThreshold.toNat - server.consecutiveSuccesses.toNat) ≠ 0 := by
      omega
    simp [positive, unhealthy]

theorem unrecovered_failed (server : ServerInfo) :
    Unrecovered config (server.connectionFailed config) := by
  intro _
  left
  unfold connectionFailed
  dsimp only
  split <;> rfl

private theorem toNat_succ_of_unrecovered (unrecovered : Unrecovered config server)
    (unhealthy : server.isHealthy = false) :
    (server.consecutiveSuccesses + 1).toNat = server.consecutiveSuccesses.toNat + 1 := by
  have bound := config.recoveryThreshold.toNat_lt
  rw [UInt32.toNat_add]
  rcases unrecovered unhealthy with zero | below
  · rw [zero]
    rfl
  · rw [UInt32.lt_iff_toNat_lt] at below
    simp only [UInt32.toNat_one, Nat.reducePow] at bound ⊢
    omega

theorem unrecovered_succeeded (server : ServerInfo) :
    Unrecovered config (server.connectionSucceeded config) := by
  intro unhealthy
  unfold connectionSucceeded at unhealthy ⊢
  dsimp only at unhealthy ⊢
  split at unhealthy
  · simp at unhealthy
  · rename_i short
    simp only [short, ↓reduceIte]
    right
    rw [not_and] at short
    exact UInt32.not_le.mp (short unhealthy)

/-- Each success brings an unhealthy server one closer to recovery. -/
theorem successesNeeded_succeeded (unrecovered : Unrecovered config server) :
    (server.connectionSucceeded config).successesNeeded config =
      server.successesNeeded config - 1 := by
  unfold connectionSucceeded
  cases health : server.isHealthy with
  | true => simp [successesNeeded, health]
  | false =>
      have exact := toNat_succ_of_unrecovered unrecovered health
      by_cases recovered : config.recoveryThreshold ≤ server.consecutiveSuccesses + 1
      · have reached := UInt32.le_iff_toNat_le.mp recovered
        simp only [successesNeeded, recovered, health, and_self, ↓reduceIte, Bool.false_eq_true]
        omega
      · have short := UInt32.lt_iff_toNat_lt.mp (UInt32.not_le.mp recovered)
        simp only [successesNeeded, recovered, health, and_false, ↓reduceIte, Bool.false_eq_true]
        omega

end ServerInfo

/-! ## What every reachable pool satisfies -/

section Pool

variable {addresses : List SocketAddr} {order : IterationOrder addresses}
  {config : LoadBalancerConfig} {state next : PoolState} {label : PoolLabel}

/-- The health checker was started, for two addresses or more, and comes to its rounds. -/
def Ticking (order : IterationOrder addresses) (config : LoadBalancerConfig) : Prop :=
  (config.healthCheck.enabled = true ∧ 1 < order.keys.length) ∧ 0 < config.healthCheck.interval

structure PoolInvariant (order : IterationOrder addresses) (config : LoadBalancerConfig)
    (state : PoolState) : Prop where
  keys : state.pool.addresses = order.keys
  settings : state.pool.config = config
  attempts : ∀ address ∈ state.attempts, address ∈ order.keys
  checks : state.checks ≠ [] → Ticking order config
  unrecovered : ∀ server ∈ state.pool.servers.records, server.Unrecovered config.healthCheck

theorem PoolInvariant.ticks_iff (invariant : PoolInvariant order config state) :
    state.pool.healthCheckerTicks = true ↔ Ticking order config := by
  rw [ServerPool.healthCheckerTicks_iff, ServerPool.healthCheckerStarted_iff, invariant.keys,
    invariant.settings]
  rfl

theorem PoolInvariant.of_servers (invariant : PoolInvariant order config state)
    (keys : next.pool.addresses = state.pool.addresses)
    (settings : next.pool.config = state.pool.config)
    (attempts : ∀ address ∈ next.attempts, address ∈ order.keys)
    (checks : next.checks ≠ [] → Ticking order config)
    (unrecovered : ∀ server ∈ next.pool.servers.records, server.Unrecovered config.healthCheck) :
    PoolInvariant order config next where
  keys := by rw [keys, invariant.keys]
  settings := by rw [settings, invariant.settings]
  attempts := attempts
  checks := checks
  unrecovered := unrecovered

/-- Counting a connection recovers no server. -/
theorem unrecovered_markConnectionStart {pool : ServerPool} {settings : HealthCheckConfig}
    (unrecovered : ∀ server ∈ pool.servers.records, server.Unrecovered settings)
    (address : SocketAddr) :
    ∀ server ∈ (pool.markConnectionStart address).servers.records, server.Unrecovered settings :=
  Table.forall_modify _ ServerInfo.incrementConnections_address unrecovered
    (fun _ _ unrecovered => unrecovered)

theorem poolInvariant_step (invariant : PoolInvariant order config state)
    (taken : poolMachine.step state label = some next) : PoolInvariant order config next := by
  have unchecked : ∀ {index : Nat}, state.checks.eraseIdx index ≠ [] → Ticking order config := by
    intro index left
    refine invariant.checks (fun none => left ?_)
    rw [none]
    rfl
  have unattempted : ∀ {index : Nat}, ∀ address ∈ state.attempts.eraseIdx index,
      address ∈ order.keys := by
    intro index address member
    exact invariant.attempts address (List.mem_of_mem_eraseIdx member)
  cases label with
  | attempt draw =>
      obtain rfl := Option.some.inj taken
      refine invariant.of_servers ?_ ?_ ?_ invariant.checks ?_
      · simp [ServerPool.addresses]
      · simp
      · intro address member
        rcases List.mem_append.mp member with earlier | chosen
        · exact invariant.attempts address earlier
        · rw [← invariant.keys]
          exact ServerPool.getServer_mem_addresses (Option.mem_toList.mp chosen)
      · simpa using invariant.unrecovered
  | connected index =>
      obtain ⟨address, _, rfl⟩ := Option.map_eq_some_iff.mp taken
      refine invariant.of_servers ?_ rfl unattempted invariant.checks ?_
      · simp
      · refine Table.forall_modify _ (ServerInfo.connectionSucceeded_address _)
          (unrecovered_markConnectionStart invariant.unrecovered address) ?_
        intro server _ _
        rw [← invariant.settings]
        exact server.unrecovered_succeeded
  | refused index =>
      obtain ⟨address, _, rfl⟩ := Option.map_eq_some_iff.mp taken
      refine invariant.of_servers ?_ rfl unattempted invariant.checks ?_
      · simp
      · refine Table.forall_modify _ (ServerInfo.connectionFailed_address _)
          invariant.unrecovered ?_
        intro server _ _
        rw [← invariant.settings]
        exact server.unrecovered_failed
  | session draw =>
      obtain rfl := Option.some.inj taken
      cases chosen : (state.pool.getServer draw).1 with
      | none =>
          refine invariant.of_servers ?_ ?_ invariant.attempts invariant.checks ?_
          · simp [ServerPool.addresses]
          · simp
          · simpa using invariant.unrecovered
      | some address =>
          refine invariant.of_servers ?_ ?_ invariant.attempts invariant.checks ?_
          · simp [ServerPool.addresses, ServerPool.markConnectionStart, Table.keys_modify]
          · simp [ServerPool.markConnectionStart]
          · exact unrecovered_markConnectionStart (by simpa using invariant.unrecovered) address
  | ended index =>
      obtain ⟨address, _, rfl⟩ := Option.map_eq_some_iff.mp taken
      refine invariant.of_servers ?_ rfl invariant.attempts invariant.checks ?_
      · simp
      · refine Table.forall_modify _ ServerInfo.decrementConnections_address
          invariant.unrecovered ?_
        intro server _ unrecovered
        exact unrecovered
  | healthRound =>
      simp only [poolMachine, poolStep] at taken
      split at taken
      · rename_i ticks
        obtain rfl := Option.some.inj taken
        exact invariant.of_servers rfl rfl invariant.attempts
          (fun _ => invariant.ticks_iff.mp ticks) invariant.unrecovered
      · simp at taken
  | checked index ok =>
      obtain ⟨address, _, rfl⟩ := Option.map_eq_some_iff.mp taken
      refine invariant.of_servers ?_ rfl invariant.attempts unchecked ?_
      · simp
      · refine Table.forall_modify _ (fun server => server.healthChecked_address _ ok)
          invariant.unrecovered ?_
        intro server _ _
        rw [← invariant.settings]
        cases ok with
        | true => exact server.unrecovered_succeeded
        | false =>
            rw [ServerInfo.healthChecked_false]
            exact server.unrecovered_failed

theorem poolInvariant_start : PoolInvariant order config (startPool addresses order config) where
  keys := ServerPool.addresses_new addresses order config
  settings := rfl
  attempts := by simp [startPool]
  checks := by simp [startPool]
  unrecovered := by
    intro server member
    obtain ⟨address, _, rfl⟩ := List.mem_map.mp member
    intro unhealthy
    simp at unhealthy

theorem poolInvariant_reachable
    (reachable : poolMachine.Reachable (startPool addresses order config) state) :
    PoolInvariant order config state :=
  reachable.invariant (PoolInvariant order config) poolInvariant_start
    (fun _ _ _ invariant taken => poolInvariant_step invariant taken)

/-! ## Recovery -/

/-- A continuation in which no connection fails. -/
abbrev Continuation (state future : PoolState) : Prop :=
  poolMachine.ReachableBy (fun label => label.succeeds = true) state future

/-- Some continuation without a failed connection makes `get_server` succeed. -/
def Recovers (state : PoolState) : Prop :=
  ∃ future, Continuation state future ∧ ∀ draw, (future.pool.getServer draw).1.isSome = true

theorem recovers_of_healthy {server : ServerInfo}
    (member : server ∈ state.pool.servers.records) (healthy : server.isHealthy = true) :
    Recovers state :=
  ⟨state, .refl state, fun draw =>
    (state.pool.getServer_isSome_iff draw).mpr ⟨server, member, healthy⟩⟩

theorem Recovers.of_reachableBy {middle : PoolState}
    (before : Continuation state middle)
    (after : Recovers middle) : Recovers state := by
  obtain ⟨future, reachable, found⟩ := after
  exact ⟨future, before.trans reachable, found⟩

end Pool

/-- The successes in a row that the server at an address still needs. -/
def ServerPool.needed (pool : ServerPool) (address : SocketAddr) : Option Nat :=
  (pool.servers.get? address).map (ServerInfo.successesNeeded pool.config.healthCheck)

theorem ServerPool.needed_markConnectionStart (pool : ServerPool) (started address : SocketAddr) :
    (pool.markConnectionStart started).needed address = pool.needed address := by
  simp only [needed, markConnectionStart, Table.get?_modify, Option.map_map]
  congr 1
  funext server
  simp only [Function.comp_apply]
  split <;> rfl

theorem ServerPool.needed_markConnectionEnd (pool : ServerPool) (ended address : SocketAddr) :
    (pool.markConnectionEnd ended).needed address = pool.needed address := by
  simp only [needed, markConnectionEnd, Table.get?_modify, Option.map_map]
  congr 1
  funext server
  simp only [Function.comp_apply]
  split <;> rfl

theorem ServerPool.needed_markConnectionSuccess {pool : ServerPool}
    (unrecovered : ∀ server ∈ pool.servers.records, server.Unrecovered pool.config.healthCheck)
    (address : SocketAddr) :
    (pool.markConnectionSuccess address).needed address = (pool.needed address).map (· - 1) := by
  simp only [needed, markConnectionSuccess, Table.get?_modify_self]
  cases found : pool.servers.get? address with
  | none => rfl
  | some server =>
      have pending := unrecovered server (pool.servers.mem_of_get? found)
      simp [ServerInfo.successesNeeded_succeeded pending]

theorem ServerPool.needed_markConnectionSuccess_ne {address succeeded : SocketAddr}
    (different : address ≠ succeeded) (pool : ServerPool) :
    (pool.markConnectionSuccess succeeded).needed address = pool.needed address := by
  simp only [needed, markConnectionSuccess, Table.get?_modify_ne _ different]

section Pool

variable {addresses : List SocketAddr} {order : IterationOrder addresses}
  {config : LoadBalancerConfig} {state next : PoolState} {label : PoolLabel}
  {address : SocketAddr} {count : Nat}

theorem PoolInvariant.pending (invariant : PoolInvariant order config state) :
    ∀ server ∈ state.pool.servers.records,
      server.Unrecovered state.pool.config.healthCheck := by
  rw [invariant.settings]
  exact invariant.unrecovered

theorem PoolInvariant.needed_of_mem (invariant : PoolInvariant order config state)
    (member : address ∈ order.keys) : ∃ count, state.pool.needed address = some count := by
  rw [← invariant.keys] at member
  obtain ⟨server, present, rfl⟩ := List.mem_map.mp member
  exact ⟨_, by rw [ServerPool.needed, Table.get?_of_mem _ present]; rfl⟩

theorem recovers_of_needed_zero (ready : state.pool.needed address = some 0) : Recovers state := by
  obtain ⟨server, found, zero⟩ := Option.map_eq_some_iff.mp ready
  exact recovers_of_healthy (state.pool.servers.mem_of_get? found)
    (ServerInfo.successesNeeded_eq_zero_iff.mp zero)

/-- A round of the checker in which one server answers in time. -/
theorem checked_round (invariant : PoolInvariant order config state)
    (ticking : Ticking order config) (timeout : 0 < config.healthCheck.timeout)
    (member : address ∈ order.keys) (required : state.pool.needed address = some count) :
    ∃ next, Continuation state next ∧ PoolInvariant order config next ∧
      next.pool.needed address = some (count - 1) := by
  let asked : PoolState := { state with checks := state.checks ++ state.pool.addresses }
  have round : poolMachine.step state .healthRound = some asked := by
    simp [poolMachine, poolStep, invariant.ticks_iff.mpr ticking, asked]
  have inFlight : address ∈ asked.checks := by
    refine List.mem_append_right _ ?_
    rw [invariant.keys]
    exact member
  obtain ⟨index, found⟩ := List.getElem?_of_mem inFlight
  have reports : state.pool.reportingCheck asked.checks index true = some address := by
    rw [ServerPool.reportingCheck_true_iff, invariant.settings]
    exact ⟨timeout, found⟩
  let answered : PoolState := { asked with
    pool := state.pool.healthResult address true
    checks := asked.checks.eraseIdx index }
  have report : poolMachine.step asked (.checked index true) = some answered := by
    exact Option.map_eq_some_iff.mpr ⟨address, reports, rfl⟩
  have asking : Continuation state asked := .single round rfl
  have answering : Continuation asked answered := .single report rfl
  refine ⟨answered, asking.trans answering, ?_, ?_⟩
  · exact poolInvariant_step (poolInvariant_step invariant round) report
  · show (state.pool.healthResult address true).needed address = some (count - 1)
    rw [ServerPool.healthResult_true, ServerPool.needed_markConnectionSuccess invariant.pending,
      required]
    rfl

theorem count_eraseIdx_self {attempts : List SocketAddr} {index : Nat}
    (found : attempts[index]? = some address) :
    (attempts.eraseIdx index).count address + 1 = attempts.count address := by
  obtain ⟨inRange, here⟩ := List.getElem?_eq_some_iff.mp found
  rw [← (List.getElem_cons_eraseIdx_perm inRange).count_eq address, here, List.count_cons_self]

theorem count_eraseIdx_ne {attempts : List SocketAddr} {index : Nat} {other : SocketAddr}
    (found : attempts[index]? = some other) (different : other ≠ address) :
    (attempts.eraseIdx index).count address = attempts.count address := by
  obtain ⟨inRange, here⟩ := List.getElem?_eq_some_iff.mp found
  rw [← (List.getElem_cons_eraseIdx_perm inRange).count_eq address, here,
    List.count_cons_of_ne different]

/-- An attempt in flight that connects. -/
theorem attempt_connects (invariant : PoolInvariant order config state)
    (inFlight : address ∈ state.attempts) (required : state.pool.needed address = some count) :
    ∃ next, Continuation state next ∧ PoolInvariant order config next ∧
      next.attempts.count address + 1 = state.attempts.count address ∧
      next.pool.needed address = some (count - 1) := by
  obtain ⟨index, found⟩ := List.getElem?_of_mem inFlight
  let connected : PoolState := { state with
    pool := (state.pool.markConnectionStart address).markConnectionSuccess address
    attempts := state.attempts.eraseIdx index
    connections := state.connections ++ [address] }
  have taken : poolMachine.step state (.connected index) = some connected := by
    simp [poolMachine, poolStep, found, connected]
  refine ⟨connected, .single taken rfl, poolInvariant_step invariant taken,
    count_eraseIdx_self found, ?_⟩
  have pending := unrecovered_markConnectionStart invariant.pending address
  show ((state.pool.markConnectionStart address).markConnectionSuccess address).needed address = _
  rw [ServerPool.needed_markConnectionSuccess pending, ServerPool.needed_markConnectionStart,
    required]
  rfl

/-- With the checker at work, rounds alone bring any server back. -/
theorem recovers_of_ticking (invariant : PoolInvariant order config state)
    (ticking : Ticking order config) (timeout : 0 < config.healthCheck.timeout)
    (member : address ∈ order.keys) (required : state.pool.needed address = some count) :
    Recovers state := by
  induction count generalizing state with
  | zero => exact recovers_of_needed_zero required
  | succ count inductionHypothesis =>
      obtain ⟨next, reachable, kept, fewer⟩ :=
        checked_round invariant ticking timeout member required
      exact Recovers.of_reachableBy reachable (inductionHypothesis kept fewer)

/-- Enough attempts in flight to a server bring it back. -/
theorem recovers_of_attempts (invariant : PoolInvariant order config state)
    (required : state.pool.needed address = some count)
    (enough : count ≤ state.attempts.count address) : Recovers state := by
  induction count generalizing state with
  | zero => exact recovers_of_needed_zero required
  | succ count inductionHypothesis =>
      have inFlight : address ∈ state.attempts := List.count_pos_iff.mp (by omega)
      obtain ⟨next, reachable, kept, left, fewer⟩ := attempt_connects invariant inFlight required
      exact Recovers.of_reachableBy reachable (inductionHypothesis kept fewer (by omega))

/-- No check can report `Ok`, and to no server the attempts in flight are as many as the
successes that it needs. -/
structure Blocked (order : IterationOrder addresses) (config : LoadBalancerConfig)
    (state : PoolState) : Prop where
  invariant : PoolInvariant order config state
  unchecked : ¬ (Ticking order config ∧ 0 < config.healthCheck.timeout)
  short : ∀ address count, state.pool.needed address = some count →
    state.attempts.count address < count

theorem Blocked.getServer_none (blocked : Blocked order config state) (draw : Nat) :
    (state.pool.getServer draw).1 = none := by
  cases chosen : (state.pool.getServer draw).1 with
  | none => rfl
  | some selected =>
      obtain ⟨server, member, healthy, rfl⟩ := ServerPool.getServer_healthy chosen
      have ready : state.pool.needed server.address = some 0 := by
        rw [ServerPool.needed, Table.get?_of_mem _ member]
        simp [ServerInfo.successesNeeded_eq_zero_iff.mpr healthy]
      have below := blocked.short server.address 0 ready
      omega

/-- A check that reports `Ok` was asked for in a round and had time to connect. -/
theorem Blocked.no_report (blocked : Blocked order config state) (index : Nat) :
    state.pool.reportingCheck state.checks index true = none := by
  cases reports : state.pool.reportingCheck state.checks index true with
  | none => rfl
  | some address =>
      rw [ServerPool.reportingCheck_true_iff, blocked.invariant.settings] at reports
      refine absurd ⟨blocked.invariant.checks ?_, reports.1⟩ blocked.unchecked
      intro idle
      simp [idle] at reports

theorem blocked_step (blocked : Blocked order config state) (succeeds : label.succeeds = true)
    (taken : poolMachine.step state label = some next) : Blocked order config next := by
  have invariant := blocked.invariant
  refine ⟨poolInvariant_step invariant taken, blocked.unchecked, ?_⟩
  intro address count required
  cases label with
  | attempt draw =>
      obtain rfl := Option.some.inj taken
      refine lt_of_eq_of_lt ?_ (blocked.short address count ?_)
      · simp [blocked.getServer_none draw]
      · simpa [ServerPool.needed] using required
  | connected index =>
      obtain ⟨connected, found, rfl⟩ := Option.map_eq_some_iff.mp taken
      by_cases here : connected = address
      · subst here
        have known := invariant.attempts connected (List.mem_of_getElem? found)
        obtain ⟨before, needed⟩ := invariant.needed_of_mem known
        have below := blocked.short connected before needed
        have left := count_eraseIdx_self found
        have pending := unrecovered_markConnectionStart invariant.pending connected
        rw [ServerPool.needed_markConnectionSuccess pending,
          ServerPool.needed_markConnectionStart, needed] at required
        obtain rfl : before - 1 = count := Option.some.inj required
        show (state.attempts.eraseIdx index).count connected < before - 1
        omega
      · rw [ServerPool.needed_markConnectionSuccess_ne (Ne.symm here),
          ServerPool.needed_markConnectionStart] at required
        exact (count_eraseIdx_ne found here).trans_lt (blocked.short address count required)
  | refused index => simp [PoolLabel.succeeds] at succeeds
  | session draw =>
      obtain rfl := Option.some.inj taken
      refine blocked.short address count ?_
      simpa [blocked.getServer_none draw, ServerPool.needed] using required
  | ended index =>
      obtain ⟨ended, _, rfl⟩ := Option.map_eq_some_iff.mp taken
      refine blocked.short address count ?_
      rwa [ServerPool.needed_markConnectionEnd] at required
  | healthRound =>
      simp only [poolMachine, poolStep] at taken
      split at taken
      · obtain rfl := Option.some.inj taken
        exact blocked.short address count required
      · simp at taken
  | checked index ok =>
      cases ok with
      | true =>
          obtain ⟨checked, reports, _⟩ := Option.map_eq_some_iff.mp taken
          rw [blocked.no_report index] at reports
          simp at reports
      | false => simp [PoolLabel.succeeds] at succeeds

/-- No successful continuation brings a blocked pool back. -/
theorem Blocked.not_recovers (blocked : Blocked order config state) : ¬ Recovers state := by
  rintro ⟨future, continuation, found⟩
  have still := continuation.invariant (Blocked order config) blocked
    (fun _ _ _ blocked succeeds taken => blocked_step blocked succeeds taken)
  have none := still.getServer_none 0
  have some := found 0
  simp [none] at some

/-- Distinct addresses are listed apart. -/
theorem several_iff_one_lt_length (order : IterationOrder addresses) :
    (∃ first ∈ addresses, ∃ second ∈ addresses, first ≠ second) ↔ 1 < order.keys.length := by
  simp only [← order.same]
  have distinct := order.distinct
  generalize order.keys = keys at distinct ⊢
  cases keys with
  | nil => simp
  | cons first rest =>
      cases rest with
      | nil => simp
      | cons second rest =>
          refine iff_of_true ⟨first, by simp, second, by simp, ?_⟩ (by simp)
          rintro rfl
          simp at distinct

end Pool

/-! ## Two servers and one -/

def twoServers : List SocketAddr := [⟨"127.0.0.1:8080"⟩, ⟨"127.0.0.1:8081"⟩]

/-- Both servers refuse until neither is healthy. -/
def bothRefuse : List PoolLabel :=
  List.replicate 3 [.attempt 0, .attempt 0, .refused 0, .refused 0] |>.flatten

def oneServer : SocketAddr := ⟨"127.0.0.1:8080"⟩

/-- The default configuration with its one server: three refused attempts of one
`connect_with_failover`. -/
def oneRefuses : List PoolLabel :=
  List.replicate 3 [.attempt 0, .refused 0] |>.flatten

/-- A run that leaves no server healthy and no attempt in flight, where no check can
report `Ok`. -/
theorem stays_down {addresses : List SocketAddr} {order : IterationOrder addresses}
    {config : LoadBalancerConfig} (labels : List PoolLabel)
    (unchecked : ¬ (Ticking order config ∧ 0 < config.healthCheck.timeout))
    (down : (poolMachine.play (startPool addresses order config) labels).map
      (fun state => ((state.pool.getServer 0).1, state.attempts)) = some (none, [])) :
    ∃ state, poolMachine.Reachable (startPool addresses order config) state ∧
      ¬ Recovers state := by
  obtain ⟨state, played, left⟩ := Option.map_eq_some_iff.mp down
  obtain ⟨none, idle⟩ := Prod.mk.inj left
  have reachable := Machine.reachable_of_play played
  have blocked : Blocked order config state := by
    refine ⟨poolInvariant_reachable reachable, unchecked, ?_⟩
    intro address count required
    obtain ⟨server, found, rfl⟩ := Option.map_eq_some_iff.mp required
    have unhealthy : server.successesNeeded state.pool.config.healthCheck ≠ 0 := by
      intro ready
      have some := (state.pool.getServer_isSome_iff 0).mpr
        ⟨server, state.pool.servers.mem_of_get? found,
          ServerInfo.successesNeeded_eq_zero_iff.mp ready⟩
      simp [none] at some
    rw [idle]
    exact Nat.pos_of_ne_zero unhealthy
  exact ⟨state, reachable, blocked.not_recovers⟩

end Npt.Client
