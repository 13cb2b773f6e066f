/-!
Contract: the load-balancer configuration (`shared/src/config.rs`).

Owns: the strategies, the health-check settings and their defaults.

Does not own: the connection-pool and reporting settings, which the pool and
the client activities never read.
-/

namespace Npt.Shared

inductive LoadBalanceStrategy where
  | roundRobin
  | random
  | leastConnections
  | hashBased
deriving DecidableEq, Repr

/-- Durations are in nanoseconds. -/
structure HealthCheckConfig where
  enabled : Bool := true
  timeout : Nat := 5000000000
  interval : Nat := 300000000000
  failureThreshold : UInt32 := 3
  recoveryThreshold : UInt32 := 2
deriving DecidableEq, Repr

structure LoadBalancerConfig where
  strategy : LoadBalanceStrategy := .roundRobin
  healthCheck : HealthCheckConfig := {}
deriving DecidableEq, Repr

end Npt.Shared
