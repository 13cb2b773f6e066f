import Mathlib.Algebra.Group.Nat.Defs
import Npt.Client.ServerPool
import Npt.Core.Hysteresis

/-!
Contract: the health of the servers over a history of pool calls.

The pool counts failures and successes in machine integers, in four places with
guards of their own. Whatever the calls, a server is healthy exactly when the
switch of its outcomes is on: the counters show the trailing runs modulo their
width, and no run that could turn the switch reaches that width.

Owns: the calls that read or write the pool, the outcomes they report, and the
agreement with the switch.

Does not own: who makes the calls.
-/

namespace Npt.Client

open Npt.Core
open Npt.Shared

/-! ## Pool calls -/

inductive PoolCall where
  | getServer (draw : Nat)
  | markConnectionStart (address : SocketAddr)
  | markConnectionEnd (address : SocketAddr)
  | markConnectionFailed (address : SocketAddr)
  | markConnectionSuccess (address : SocketAddr)
  /-- A check of the background health checker reports. -/
  | healthResult (address : SocketAddr) (ok : Bool)
deriving DecidableEq, Repr

namespace PoolCall

def apply (pool : ServerPool) : PoolCall → ServerPool
  | .getServer draw => (pool.getServer draw).2
  | .markConnectionStart address => pool.markConnectionStart address
  | .markConnectionEnd address => pool.markConnectionEnd address
  | .markConnectionFailed address => pool.markConnectionFailed address
  | .markConnectionSuccess address => pool.markConnectionSuccess address
  | .healthResult address ok => pool.healthResult address ok

def applyAll (pool : ServerPool) (calls : List PoolCall) : ServerPool := calls.foldl apply pool

/-- The server whose outcome a call reports. -/
def reports : PoolCall → Option (SocketAddr × Bool)
  | .markConnectionFailed address => some (address, false)
  | .markConnectionSuccess address => some (address, true)
  | .healthResult address ok => some (address, ok)
  | _ => none

/-- The same report by a connection in place of the health checker. -/
def passive : PoolCall → PoolCall
  | .healthResult address true => .markConnectionSuccess address
  | .healthResult address false => .markConnectionFailed address
  | call => call

end PoolCall

/-- The outcomes reported for a server, the newest first. -/
def outcomes (address : SocketAddr) (calls : List PoolCall) : List Bool :=
  ((calls.filterMap PoolCall.reports).filterMap
    (fun report => if report.1 = address then some report.2 else none)).reverse

/-! ## One server -/

namespace ServerInfo

variable {config : HealthCheckConfig} {server : ServerInfo} {history : List Bool}

/-- The record shows a history of outcomes. -/
structure Shows (config : HealthCheckConfig) (server : ServerInfo) (history : List Bool) :
    Prop where
  failures : server.consecutiveFailures.toNat = Hysteresis.trailing false history % 2 ^ 32
  successes : server.consecutiveSuccesses.toNat = Hysteresis.trailing true history % 2 ^ 32
  healthy : server.isHealthy = Hysteresis.isOn config.failureThreshold.toNat
    config.recoveryThreshold.toNat history

theorem shows_start (address : SocketAddr) : Shows config { address := address } [] :=
  ⟨rfl, rfl, rfl⟩

theorem isHealthy_connectionFailed : (server.connectionFailed config).isHealthy =
    (server.isHealthy && decide (server.consecutiveFailures + 1 < config.failureThreshold)) := by
  unfold connectionFailed
  dsimp only
  split
  · rename_i reached
    simp [UInt32.not_lt.mpr reached]
  · rename_i below
    simp [UInt32.not_le.mp below]

theorem isHealthy_connectionSucceeded : (server.connectionSucceeded config).isHealthy =
    (server.isHealthy || decide (config.recoveryThreshold ≤ server.consecutiveSuccesses + 1)) := by
  unfold connectionSucceeded
  dsimp only
  split
  · rename_i recovers
    simp [recovers.2]
  · rename_i below
    cases healthy : server.isHealthy <;> simp_all

/-- A counter follows its run, wrapping where the counter does. -/
theorem toNat_succ {counter : UInt32} {run : Nat} (same : counter.toNat = run % 2 ^ 32) :
    (counter + 1).toNat = (run + 1) % 2 ^ 32 := by
  rw [UInt32.toNat_add, same, UInt32.toNat_one, Nat.mod_add_mod]

/-- A run below a threshold is not wrapped, and neither is its successor. -/
theorem toNat_succ_of_lt {counter threshold : UInt32} {run : Nat}
    (same : counter.toNat = run % 2 ^ 32) (short : run < threshold.toNat) :
    (counter + 1).toNat = run + 1 := by
  have bound := threshold.toNat_lt
  rw [toNat_succ same, Nat.mod_eq_of_lt (by omega)]

section Thresholds

variable (failurePos : 0 < config.failureThreshold.toNat)
  (recoveryPos : 0 < config.recoveryThreshold.toNat)

include failurePos recoveryPos

theorem shows_connectionFailed (shows : Shows config server history) :
    Shows config (server.connectionFailed config) (false :: history) := by
  have counted : (server.connectionFailed config).consecutiveFailures =
      server.consecutiveFailures + 1 ∧
        (server.connectionFailed config).consecutiveSuccesses = 0 := by
    unfold connectionFailed
    dsimp only
    split <;> exact ⟨rfl, rfl⟩
  refine ⟨?_, ?_, ?_⟩
  · rw [counted.1, Hysteresis.trailing_cons_self]
    exact toNat_succ shows.failures
  · rw [counted.2, Hysteresis.trailing_cons_ne _ _ (by simp)]
    rfl
  · rw [isHealthy_connectionFailed, Hysteresis.isOn_failure recoveryPos, ← shows.healthy]
    cases healthy : server.isHealthy with
    | false => rfl
    | true =>
        have short := (Hysteresis.trailing_lt failurePos recoveryPos history).1
          (shows.healthy.symm.trans healthy)
        have exact := toNat_succ_of_lt shows.failures short
        have reached : server.consecutiveFailures + 1 < config.failureThreshold ↔
            Hysteresis.trailing false history + 1 ≠ config.failureThreshold.toNat := by
          rw [UInt32.lt_iff_toNat_lt, exact]
          omega
        simp only [Bool.true_and, reached]

theorem shows_connectionSucceeded (shows : Shows config server history) :
    Shows config (server.connectionSucceeded config) (true :: history) := by
  have counted : (server.connectionSucceeded config).consecutiveFailures = 0 ∧
      (server.connectionSucceeded config).consecutiveSuccesses =
        server.consecutiveSuccesses + 1 := by
    unfold connectionSucceeded
    dsimp only
    split <;> exact ⟨rfl, rfl⟩
  refine ⟨?_, ?_, ?_⟩
  · rw [counted.1, Hysteresis.trailing_cons_ne _ _ (by simp)]
    rfl
  · rw [counted.2, Hysteresis.trailing_cons_self]
    exact toNat_succ shows.successes
  · rw [isHealthy_connectionSucceeded, Hysteresis.isOn_success failurePos, ← shows.healthy]
    cases healthy : server.isHealthy with
    | true => rfl
    | false =>
        have short := (Hysteresis.trailing_lt failurePos recoveryPos history).2
          (shows.healthy.symm.trans healthy)
        have exact := toNat_succ_of_lt shows.successes short
        have reached : config.recoveryThreshold ≤ server.consecutiveSuccesses + 1 ↔
            Hysteresis.trailing true history + 1 = config.recoveryThreshold.toNat := by
          rw [UInt32.le_iff_toNat_le, exact]
          omega
        simp only [Bool.false_or, reached]

theorem shows_healthChecked (shows : Shows config server history) (ok : Bool) :
    Shows config (server.healthChecked config ok) (ok :: history) := by
  cases ok with
  | true => exact shows_connectionSucceeded failurePos recoveryPos shows
  | false =>
      rw [healthChecked_false]
      exact shows_connectionFailed failurePos recoveryPos shows

end Thresholds

end ServerInfo

/-! ## The pool -/

theorem outcomes_snoc (address : SocketAddr) (calls : List PoolCall) (call : PoolCall) :
    outcomes address (calls ++ [call]) =
      match call.reports with
      | some (reported, ok) =>
          if reported = address then ok :: outcomes address calls else outcomes address calls
      | none => outcomes address calls := by
  simp only [outcomes, List.filterMap_append, List.reverse_append]
  cases reports : call.reports with
  | none => simp [reports]
  | some report =>
      by_cases here : report.1 = address <;> simp [reports, here]

/-- The records of the pool show what was reported for their servers. -/
def ShowsOutcomes (pool : ServerPool) (calls : List PoolCall) : Prop :=
  ∀ server ∈ pool.servers.records,
    server.Shows pool.config.healthCheck (outcomes server.address calls)

theorem PoolCall.apply_passive (pool : ServerPool) (call : PoolCall) :
    call.passive.apply pool = call.apply pool := by
  cases call with
  | healthResult address ok =>
      cases ok with
      | true => rfl
      | false =>
          simp only [passive, apply, ServerPool.healthResult, ServerPool.markConnectionFailed]
          congr 2
          funext server
          exact server.healthChecked_false _ |>.symm
  | _ => rfl

@[simp] theorem PoolCall.config_apply (pool : ServerPool) (call : PoolCall) :
    (call.apply pool).config = pool.config := by
  cases call with
  | getServer draw => exact pool.getServer_config draw
  | _ => rfl

section Calls

variable {pool : ServerPool} {calls : List PoolCall}

/-- A change of one record that follows the change of its history. -/
theorem shows_modify {address : SocketAddr} {change : ServerInfo → ServerInfo}
    (keeps : ∀ server, (change server).address = server.address) {later : List PoolCall}
    (shows : ShowsOutcomes pool calls)
    (others : ∀ other, other ≠ address → outcomes other later = outcomes other calls)
    (follows : ∀ server, server.Shows pool.config.healthCheck (outcomes address calls) →
      (change server).Shows pool.config.healthCheck (outcomes address later)) :
    ∀ server ∈ (pool.servers.modify address change keeps).records,
      server.Shows pool.config.healthCheck (outcomes server.address later) := by
  intro server member
  rcases pool.servers.mem_modify keeps member with ⟨old, present, here, rfl⟩ | ⟨present, there⟩
  · rw [keeps, here]
    exact follows old (here ▸ shows old present)
  · rw [others _ there]
    exact shows server present

theorem showsOutcomes_step (failurePos : 0 < pool.config.healthCheck.failureThreshold.toNat)
    (recoveryPos : 0 < pool.config.healthCheck.recoveryThreshold.toNat)
    (shows : ShowsOutcomes pool calls) (call : PoolCall) :
    ShowsOutcomes (call.apply pool) (calls ++ [call]) := by
  have unreported (silent : call.reports = none) (address : SocketAddr) :
      outcomes address (calls ++ [call]) = outcomes address calls := by
    rw [outcomes_snoc, silent]
  have reported {address : SocketAddr} {ok : Bool} (report : call.reports = some (address, ok))
      (other : SocketAddr) (different : other ≠ address) :
      outcomes other (calls ++ [call]) = outcomes other calls := by
    rw [outcomes_snoc, report]
    exact if_neg (Ne.symm different)
  have added {address : SocketAddr} {ok : Bool} (report : call.reports = some (address, ok)) :
      outcomes address (calls ++ [call]) = ok :: outcomes address calls := by
    rw [outcomes_snoc, report]
    exact if_pos rfl
  rw [ShowsOutcomes, PoolCall.config_apply]
  cases call with
  | getServer draw =>
      intro server member
      rw [unreported rfl]
      exact shows server (by simpa [PoolCall.apply] using member)
  | markConnectionStart address =>
      refine shows_modify ServerInfo.incrementConnections_address shows
        (fun other _ => unreported rfl other) (fun server old => ?_)
      rw [unreported rfl]
      exact ⟨old.failures, old.successes, old.healthy⟩
  | markConnectionEnd address =>
      refine shows_modify ServerInfo.decrementConnections_address shows
        (fun other _ => unreported rfl other) (fun server old => ?_)
      rw [unreported rfl]
      exact ⟨old.failures, old.successes, old.healthy⟩
  | markConnectionFailed address =>
      refine shows_modify (ServerInfo.connectionFailed_address _) shows (reported rfl)
        (fun server old => ?_)
      rw [added rfl]
      exact ServerInfo.shows_connectionFailed failurePos recoveryPos old
  | markConnectionSuccess address =>
      refine shows_modify (ServerInfo.connectionSucceeded_address _) shows (reported rfl)
        (fun server old => ?_)
      rw [added rfl]
      exact ServerInfo.shows_connectionSucceeded failurePos recoveryPos old
  | healthResult address ok =>
      refine shows_modify (fun server => server.healthChecked_address _ ok) shows (reported rfl)
        (fun server old => ?_)
      rw [added rfl]
      exact ServerInfo.shows_healthChecked failurePos recoveryPos old ok

theorem config_applyAll (pool : ServerPool) (calls : List PoolCall) :
    (PoolCall.applyAll pool calls).config = pool.config := by
  induction calls generalizing pool with
  | nil => rfl
  | cons call calls inductionHypothesis =>
      exact (inductionHypothesis (call.apply pool)).trans (PoolCall.config_apply pool call)

theorem applyAll_passive (pool : ServerPool) (calls : List PoolCall) :
    PoolCall.applyAll pool (calls.map PoolCall.passive) = PoolCall.applyAll pool calls := by
  rw [PoolCall.applyAll, List.foldl_map]
  congr 1
  funext pool call
  exact call.apply_passive pool

/-- The records of a new pool show the outcomes of any calls. -/
theorem showsOutcomes_applyAll {addresses : List SocketAddr} (order : IterationOrder addresses)
    {config : LoadBalancerConfig} (failurePos : 0 < config.healthCheck.failureThreshold.toNat)
    (recoveryPos : 0 < config.healthCheck.recoveryThreshold.toNat) (calls : List PoolCall) :
    ShowsOutcomes (PoolCall.applyAll (.new addresses order config) calls) calls := by
  induction calls using List.reverseRecOn with
  | nil =>
      intro server member
      obtain ⟨address, _, rfl⟩ := List.mem_map.mp member
      exact ServerInfo.shows_start address
  | append_singleton calls call inductionHypothesis =>
      rw [PoolCall.applyAll, List.foldl_append]
      refine showsOutcomes_step ?_ ?_ inductionHypothesis call
      · rwa [config_applyAll]
      · rwa [config_applyAll]

end Calls

/-- After any calls each server of the pool is as healthy as the switch of its
outcomes is on, and one of its counters is zero; and the pool is the same
whether a connection or the health checker reports an outcome. -/
theorem health_is_hysteresis {addresses : List SocketAddr} (order : IterationOrder addresses)
    (config : LoadBalancerConfig) (failurePos : 1 ≤ config.healthCheck.failureThreshold.toNat)
    (recoveryPos : 1 ≤ config.healthCheck.recoveryThreshold.toNat) (calls : List PoolCall) :
    (∀ server ∈ (PoolCall.applyAll (.new addresses order config) calls).servers.records,
      server.isHealthy = Hysteresis.isOn config.healthCheck.failureThreshold.toNat
          config.healthCheck.recoveryThreshold.toNat (outcomes server.address calls) ∧
        (server.consecutiveFailures = 0 ∨ server.consecutiveSuccesses = 0)) ∧
    ∀ others : List PoolCall, others.map PoolCall.passive = calls.map PoolCall.passive →
      PoolCall.applyAll (.new addresses order config) others =
        PoolCall.applyAll (.new addresses order config) calls := by
  refine ⟨fun server member => ?_, fun others same => ?_⟩
  · have shows := showsOutcomes_applyAll order failurePos recoveryPos calls server member
    rw [config_applyAll] at shows
    refine ⟨shows.healthy, ?_⟩
    rcases Hysteresis.trailing_eq_zero_or (outcomes server.address calls) with none | none
    · exact Or.inl (UInt32.toNat_inj.mp (by rw [shows.failures, none]; rfl))
    · exact Or.inr (UInt32.toNat_inj.mp (by rw [shows.successes, none]; rfl))
  · rw [← applyAll_passive, same, applyAll_passive]

def watchedServer : SocketAddr := ⟨"127.0.0.1:8080"⟩

/-- A connection and a check fail, at a threshold of two. -/
def twoFailures : List PoolCall :=
  [.markConnectionFailed watchedServer, .healthResult watchedServer false]

def lowThresholds : LoadBalancerConfig where
  healthCheck := { failureThreshold := 2, recoveryThreshold := 1 }

theorem health_is_hysteresis_twoFailures :
    ∃ server ∈ (PoolCall.applyAll (.new [watchedServer] (.asGiven _ (by decide)) lowThresholds)
        twoFailures).servers.records,
      server.address = watchedServer ∧ server.isHealthy = false := by
  have present : watchedServer ∈ (PoolCall.applyAll (.new [watchedServer] (.asGiven _ (by decide))
      lowThresholds) twoFailures).servers.records.map ServerInfo.address := by
    decide +kernel
  obtain ⟨server, member, here⟩ := List.mem_map.mp present
  have law := (health_is_hysteresis (.asGiven [watchedServer] (by decide)) lowThresholds (by decide)
    (by decide) twoFailures).1 server member
  refine ⟨server, member, here, ?_⟩
  rw [law.1, here]
  decide +kernel

end Npt.Client
