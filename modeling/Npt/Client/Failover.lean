import Npt.Client.TcpClient
import Npt.Core.TransitionSystem

/-!
Contract: one call of `connect_with_failover`, undisturbed.

Owns: the loop over its attempts, what the call does to the pool, and the
agreement with the dialing stages of an activity.

Does not own: what other users do to the pool meanwhile.
-/

namespace Npt.Client

open Npt.Core
open Npt.Shared

/-! ## The call -/

inductive DialError where
  | noHealthyServers
  | allFailed (lastError : Option String)
deriving DecidableEq, Repr

def DialError.text : DialError → String
  | .noHealthyServers => "No healthy servers available"
  | .allFailed none => "All connection attempts failed: None"
  | .allFailed (some error) => s!"All connection attempts failed: Some({error})"

/-- One round of the loop. -/
inductive Attempt where
  | connected (server : SocketAddr)
  | failed (server : SocketAddr) (error : String)
  /-- `get_server` returns `None`. -/
  | unserved
deriving DecidableEq, Repr

structure Dialled where
  result : Except DialError SocketAddr
  pool : ServerPool
  /-- The rounds made, in order. -/
  attempts : List Attempt

/-- The loop with `remaining` rounds to go. An attempt has a draw for its choice
and an outcome, which is the error of its connect if it fails. -/
def connectLoop (draws : Nat → Nat) (outcomes : Nat → Option String) :
    (remaining attempt : Nat) → ServerPool → (lastError : Option String) → Dialled
  | 0, _, pool, lastError =>
      { result := .error (.allFailed lastError), pool := pool, attempts := [] }
  | remaining + 1, attempt, pool, _ =>
      let (chosen, pool) := pool.getServer (draws attempt)
      match chosen, outcomes attempt with
      | some server, none =>
          { result := .ok server
            pool := (pool.markConnectionStart server).markConnectionSuccess server
            attempts := [.connected server] }
      | some server, some error =>
          let rest := connectLoop draws outcomes remaining (attempt + 1)
            (pool.markConnectionFailed server) (some error)
          { rest with attempts := .failed server error :: rest.attempts }
      | none, _ => { result := .error .noHealthyServers, pool := pool, attempts := [.unserved] }

def connectWithFailover (pool : ServerPool) (draws : Nat → Nat) (outcomes : Nat → Option String) :
    Dialled :=
  connectLoop draws outcomes maxRetries 0 pool none

/-! ## Its effect -/

/-- What an attempt records. -/
def Attempt.record (pool : ServerPool) : Attempt → ServerPool
  | .connected server => (pool.markConnectionStart server).markConnectionSuccess server
  | .failed server _ => pool.markConnectionFailed server
  | .unserved => pool

/-- The attempt is one that the loop can make on a pool with an outcome at hand. -/
def Attempt.Made (pool : ServerPool) (outcome : Option String) : Attempt → Prop
  | .connected server => outcome = none ∧ server ∈ pool.healthyServers.map ServerInfo.address
  | .failed server error =>
      outcome = some error ∧ server ∈ pool.healthyServers.map ServerInfo.address
  | .unserved => pool.healthyServers = []

/-- The attempt goes on to the next one. -/
def Attempt.goesOn : Attempt → Bool
  | .failed _ _ => true
  | _ => false

/-- What the loop does to a pool in at most `bound` attempts from number `first` on. -/
structure FailoverEffect (before : ServerPool) (outcomes : Nat → Option String)
    (first bound : Nat) (call : Dialled) : Prop where
  attempts_le : call.attempts.length ≤ bound
  /-- Each attempt finds the records of those before it, which all failed. -/
  made : ∀ earlier attempt later, call.attempts = earlier ++ attempt :: later →
    attempt.Made (earlier.foldl Attempt.record before) (outcomes (first + earlier.length)) ∧
      ∀ other ∈ earlier, other.goesOn = true
  /-- The records are those of the attempts, one each. -/
  recorded : call.pool.servers = (call.attempts.foldl Attempt.record before).servers
  ok_iff : ∀ server, call.result = .ok server ↔ .connected server ∈ call.attempts
  noHealthyServers_iff : call.result = .error .noHealthyServers ↔ .unserved ∈ call.attempts
  /-- The call gives up when all the attempts it may make have failed. -/
  allFailed_iff : (∃ lastError, call.result = .error (.allFailed lastError)) ↔
    call.attempts.length = bound ∧ ∀ attempt ∈ call.attempts, attempt.goesOn = true
  /-- The counters move on the connected server only, by one. -/
  counters : ∀ address server, before.servers.get? address = some server →
    ∃ after, call.pool.servers.get? address = some after ∧
      after.activeConnections =
        server.activeConnections + (if call.result = .ok address then 1 else 0) ∧
      after.totalConnections =
        server.totalConnections + (if call.result = .ok address then 1 else 0)

section Loop

variable {draws : Nat → Nat} {outcomes : Nat → Option String} {remaining attempt : Nat}
  {pool other : ServerPool} {lastError : Option String} {server : SocketAddr} {error : String}

theorem connectLoop_connected (chosen : (pool.getServer (draws attempt)).1 = some server)
    (outcome : outcomes attempt = none) :
    connectLoop draws outcomes (remaining + 1) attempt pool lastError =
      { result := .ok server
        pool := ((pool.getServer (draws attempt)).2.markConnectionStart
          server).markConnectionSuccess server
        attempts := [.connected server] } := by
  simp only [connectLoop, chosen, outcome]

theorem connectLoop_failed (chosen : (pool.getServer (draws attempt)).1 = some server)
    (outcome : outcomes attempt = some error) :
    connectLoop draws outcomes (remaining + 1) attempt pool lastError =
      { connectLoop draws outcomes remaining (attempt + 1)
          ((pool.getServer (draws attempt)).2.markConnectionFailed server) (some error) with
        attempts := .failed server error :: (connectLoop draws outcomes remaining (attempt + 1)
          ((pool.getServer (draws attempt)).2.markConnectionFailed server)
            (some error)).attempts } := by
  simp only [connectLoop, chosen, outcome]

theorem connectLoop_unserved (chosen : (pool.getServer (draws attempt)).1 = none) :
    connectLoop draws outcomes (remaining + 1) attempt pool lastError =
      { result := .error .noHealthyServers
        pool := (pool.getServer (draws attempt)).2
        attempts := [.unserved] } := by
  simp only [connectLoop, chosen]

/-- Records read and write the servers only. -/
theorem servers_record (servers : pool.servers = other.servers) (config : pool.config = other.config)
    (attempt : Attempt) :
    (attempt.record pool).servers = (attempt.record other).servers ∧
      (attempt.record pool).config = (attempt.record other).config := by
  cases attempt <;>
    simp [Attempt.record, ServerPool.markConnectionStart, ServerPool.markConnectionSuccess,
      ServerPool.markConnectionFailed, servers, config]

theorem servers_foldl_record (servers : pool.servers = other.servers)
    (config : pool.config = other.config) (attempts : List Attempt) :
    (attempts.foldl Attempt.record pool).servers =
      (attempts.foldl Attempt.record other).servers := by
  induction attempts generalizing pool other with
  | nil => exact servers
  | cons attempt rest inductionHypothesis =>
      obtain ⟨sameServers, sameConfig⟩ := servers_record servers config attempt
      exact inductionHypothesis sameServers sameConfig

theorem healthyServers_congr (servers : pool.servers = other.servers) :
    pool.healthyServers = other.healthyServers := by
  rw [ServerPool.healthyServers, ServerPool.healthyServers, servers]

theorem Attempt.Made.congr {attempt : Attempt} {outcome : Option String}
    (servers : pool.servers = other.servers) (made : attempt.Made pool outcome) :
    attempt.Made other outcome := by
  cases attempt <;> simpa [Attempt.Made, healthyServers_congr servers] using made

theorem mem_healthy_of_getServer {draw : Nat} (chosen : (pool.getServer draw).1 = some server) :
    server ∈ pool.healthyServers.map ServerInfo.address := by
  obtain ⟨record, present, healthy, rfl⟩ := ServerPool.getServer_healthy chosen
  exact List.mem_map_of_mem (List.mem_filter.mpr ⟨present, healthy⟩)

theorem healthyServers_of_getServer_none {draw : Nat} (chosen : (pool.getServer draw).1 = none) :
    pool.healthyServers = [] := by
  by_contra nonempty
  obtain ⟨server, member⟩ := List.exists_mem_of_ne_nil _ nonempty
  have found := (ServerPool.getServer_isSome_iff pool draw).mpr ⟨server, List.mem_filter.mp member⟩
  rw [chosen] at found
  cases found

/-- What one attempt adds to a server's counters. -/
theorem counters_record {address : SocketAddr} {record : ServerInfo}
    (present : pool.servers.get? address = some record) (attempt : Attempt) :
    ∃ after, (attempt.record pool).servers.get? address = some after ∧
      after.activeConnections =
        record.activeConnections + (if attempt = .connected address then 1 else 0) ∧
      after.totalConnections =
        record.totalConnections + (if attempt = .connected address then 1 else 0) := by
  cases attempt with
  | connected server =>
      by_cases same : address = server
      · subst same
        refine ⟨record.incrementConnections.connectionSucceeded pool.config.healthCheck, ?_, ?_, ?_⟩
        · simp only [Attempt.record, ServerPool.markConnectionSuccess,
            ServerPool.markConnectionStart, Table.get?_modify_self, present, Option.map_some]
        · simp [ServerInfo.incrementConnections]
        · simp [ServerInfo.incrementConnections]
      · refine ⟨record, ?_, ?_, ?_⟩
        · simp only [Attempt.record, ServerPool.markConnectionSuccess,
            ServerPool.markConnectionStart, Table.get?_modify_ne _ same, present]
        · simp [Ne.symm same]
        · simp [Ne.symm same]
  | failed server error =>
      refine ⟨if record.address = server then record.connectionFailed pool.config.healthCheck
        else record, ?_, ?_, ?_⟩
      · simp only [Attempt.record, ServerPool.markConnectionFailed, Table.get?_modify, present,
          Option.map_some]
      · split <;> simp
      · split <;> simp
  | unserved => exact ⟨record, present, by simp, by simp⟩

end Loop

section Effect

variable {outcomes : Nat → Option String} {first bound : Nat} {pool next : ServerPool}
  {call rest : Dialled} {attempt : Attempt} {server : SocketAddr} {error : String}

/-- A call that ends in its first attempt. -/
theorem FailoverEffect.single (attempts : call.attempts = [attempt])
    (made : attempt.Made pool (outcomes first))
    (recorded : call.pool.servers = (attempt.record pool).servers)
    (ok : ∀ server, call.result = .ok server ↔ attempt = .connected server)
    (unserved : call.result = .error .noHealthyServers ↔ attempt = .unserved)
    (ended : attempt.goesOn = false) (given : ∀ error, call.result ≠ .error (.allFailed error)) :
    FailoverEffect pool outcomes first (bound + 1) call where
  attempts_le := by simp [attempts]
  made := by
    intro earlier other later shape
    rw [attempts] at shape
    obtain ⟨rfl, rfl, rfl⟩ := by simpa using List.singleton_eq_append_iff.mp shape
    exact ⟨made, by simp⟩
  recorded := by simpa [attempts] using recorded
  ok_iff := fun server => by simpa [attempts, eq_comm] using ok server
  noHealthyServers_iff := by simpa [attempts, eq_comm] using unserved
  allFailed_iff := by simp [attempts, ended, given]
  counters := by
    intro address record present
    simp only [ok, recorded]
    exact counters_record present attempt

/-- A call whose first attempt fails does the rest on what that leaves. -/
theorem FailoverEffect.cons (made : Attempt.Made pool (outcomes first) (.failed server error))
    (servers : next.servers = (Attempt.record pool (.failed server error)).servers)
    (config : next.config = (Attempt.record pool (.failed server error)).config)
    (effect : FailoverEffect next outcomes (first + 1) bound rest) :
    FailoverEffect pool outcomes first (bound + 1)
      { rest with attempts := .failed server error :: rest.attempts } where
  attempts_le := Nat.succ_le_succ effect.attempts_le
  made := by
    intro earlier attempt later shape
    cases earlier with
    | nil =>
        obtain ⟨rfl, -⟩ := List.cons.inj shape
        exact ⟨made, by simp⟩
    | cons head earlier =>
        obtain ⟨rfl, same⟩ := List.cons.inj shape
        obtain ⟨there, failed⟩ := effect.made earlier attempt later same
        refine ⟨?_, ?_⟩
        · rw [List.foldl_cons, List.length_cons, Nat.add_comm earlier.length, ← Nat.add_assoc]
          exact there.congr (servers_foldl_record servers config earlier)
        · intro other member
          rcases List.mem_cons.mp member with rfl | inEarlier
          · rfl
          · exact failed other inEarlier
  recorded := by
    rw [List.foldl_cons, ← servers_foldl_record servers config]
    exact effect.recorded
  ok_iff := fun server => by simpa using effect.ok_iff server
  noHealthyServers_iff := by simpa using effect.noHealthyServers_iff
  allFailed_iff := by simpa [Attempt.goesOn] using effect.allFailed_iff
  counters := by
    intro address record present
    obtain ⟨middle, found, active, total⟩ := counters_record present (.failed server error)
    rw [← servers] at found
    obtain ⟨after, last, lastActive, lastTotal⟩ := effect.counters address middle found
    refine ⟨after, last, ?_, ?_⟩
    · simpa [active] using lastActive
    · simpa [total] using lastTotal

theorem failoverEffect_connectLoop (draws : Nat → Nat) (outcomes : Nat → Option String)
    (remaining attempt : Nat) (pool : ServerPool) (lastError : Option String) :
    FailoverEffect pool outcomes attempt remaining
      (connectLoop draws outcomes remaining attempt pool lastError) := by
  induction remaining generalizing attempt pool lastError with
  | zero =>
      exact
        { attempts_le := Nat.le_refl 0
          made := by simp [connectLoop]
          recorded := rfl
          ok_iff := by simp [connectLoop]
          noHealthyServers_iff := by simp [connectLoop]
          allFailed_iff := by simp [connectLoop]
          counters := fun address server present => ⟨server, present, by simp [connectLoop]⟩ }
  | succ remaining inductionHypothesis =>
      have servers := ServerPool.getServer_servers pool (draws attempt)
      have config := ServerPool.getServer_config pool (draws attempt)
      cases chosen : (pool.getServer (draws attempt)).1 with
      | none =>
          rw [connectLoop_unserved chosen]
          exact .single rfl (healthyServers_of_getServer_none chosen) servers (by simp) (by simp)
            rfl (by simp)
      | some server =>
          have healthy := mem_healthy_of_getServer chosen
          cases outcome : outcomes attempt with
          | none =>
              rw [connectLoop_connected chosen outcome]
              exact .single rfl ⟨outcome, healthy⟩
                (servers_record servers config (.connected server)).1 (by simp) (by simp) rfl
                (by simp)
          | some error =>
              rw [connectLoop_failed chosen outcome]
              have same := servers_record servers config (.failed server error)
              exact .cons ⟨outcome, healthy⟩ same.1 same.2 (inductionHypothesis _ _ _)

end Effect

theorem connectWithFailover_effect (pool : ServerPool) (draws : Nat → Nat)
    (outcomes : Nat → Option String) :
    FailoverEffect pool outcomes 0 maxRetries (connectWithFailover pool draws outcomes) :=
  failoverEffect_connectLoop draws outcomes maxRetries 0 pool none

/-! ## The dialing stages of an activity -/

/-- What an activity does while nobody else takes a step. -/
def soloStep (now : Nat) (stopped : Bool) (state : SharedState × TcpOutcome) (label : TcpLabel) :
    Option (SharedState × TcpOutcome) :=
  match state.2 with
  | .running call =>
      (tcpStep state.1.pool stopped call label).map (fun result =>
        (Effect.applyAll now state.1 result.1, result.2))
  | _ => none

def soloMachine (now : Nat) (stopped : Bool) : Machine (SharedState × TcpOutcome) TcpLabel :=
  ⟨soloStep now stopped⟩

/-- Where a call of `connect_with_failover` leaves an activity. -/
def afterDialling (call : TcpCall) : Except DialError SocketAddr → TcpOutcome
  | .ok server =>
      .running { call with stage := .streaming server (firstExchange call.activity) }
  | .error error => (failed call error.text).2

section Solo

variable {now : Nat} {stopped : Bool} {call : TcpCall} {draws : Nat → Nat}
  {outcomes : Nat → Option String}

theorem pool_of_getServer_none {pool : ServerPool} {draw : Nat}
    (chosen : (pool.getServer draw).1 = none) : (pool.getServer draw).2 = pool := by
  have none := healthyServers_of_getServer_none chosen
  simp [ServerPool.getServer, none]

/-- The records of a failed activity leave the pool alone. -/
theorem pool_applyAll_failed (shared : SharedState) (message : String) :
    (Effect.applyAll now shared (failed call message).1).pool = shared.pool := by
  simp only [failed, errorRecord]
  split <;> rfl

/-- The undisturbed activity gets where the loop gets. -/
def Agrees (now : Nat) (stopped : Bool) (call : TcpCall) (state : SharedState × TcpOutcome)
    (dialled : Dialled) : Prop :=
  ∃ labels last, (soloMachine now stopped).play state labels = some last ∧
    last.1.pool = dialled.pool ∧ last.2 = afterDialling call dialled.result

theorem Agrees.step {state next : SharedState × TcpOutcome} {label : TcpLabel} {dialled : Dialled}
    (taken : soloStep now stopped state label = some next)
    (agrees : Agrees now stopped call next dialled) : Agrees now stopped call state dialled := by
  obtain ⟨labels, last, played, pool, outcome⟩ := agrees
  refine ⟨label :: labels, last, ?_, pool, outcome⟩
  rw [Machine.play]
  simp only [soloMachine, taken]
  exact played

/-- The activity's choice of a server. -/
def choosing (now : Nat) (shared : SharedState) (call : TcpCall) (attempt draw : Nat) :
    SharedState × TcpOutcome :=
  (Effect.applyAll now shared (tryServer shared.pool call attempt draw).1,
    (tryServer shared.pool call attempt draw).2)

theorem choosing_of_chosen {shared : SharedState} {attempt draw : Nat} {server : SocketAddr}
    (chosen : (shared.pool.getServer draw).1 = some server) :
    choosing now shared call attempt draw =
      (shared.onPool (fun pool => (pool.getServer draw).2),
        .running { call with stage := .connecting attempt server }) := by
  simp only [choosing, tryServer, chosen]
  rfl

section Chosen

variable {shared : SharedState} {remaining attempt : Nat} {lastError : Option String}
  {server : SocketAddr} {error : String}

theorem agrees_of_unserved (chosen : (shared.pool.getServer (draws attempt)).1 = none) :
    Agrees now stopped call (choosing now shared call attempt (draws attempt))
      (connectLoop draws outcomes (remaining + 1) attempt shared.pool lastError) := by
  refine ⟨[], choosing now shared call attempt (draws attempt), rfl, ?_, ?_⟩
  · simp only [connectLoop_unserved chosen, choosing, tryServer, chosen]
    rw [pool_applyAll_failed, pool_of_getServer_none chosen]
  · simp only [connectLoop_unserved chosen, choosing, tryServer, chosen]
    rfl

theorem agrees_of_connected (chosen : (shared.pool.getServer (draws attempt)).1 = some server)
    (outcome : outcomes attempt = none) :
    Agrees now stopped call (choosing now shared call attempt (draws attempt))
      (connectLoop draws outcomes (remaining + 1) attempt shared.pool lastError) := by
  rw [choosing_of_chosen chosen, connectLoop_connected chosen outcome]
  exact ⟨[.connected none], _, rfl, rfl, rfl⟩

end Chosen

/-- After the back-off the activity chooses again. -/
theorem soloStep_backoffOver (shared : SharedState) (attempt draw : Nat) :
    soloStep now stopped (shared, .running { call with stage := .backoff attempt })
        (.backoffOver draw) =
      some (choosing now shared call (attempt + 1) draw) := rfl

/-- From its choice of a server on, an activity that dials undisturbed does what the
loop does. -/
theorem agrees_connectLoop (remaining attempt : Nat)
    (bound : attempt + remaining + 1 = maxRetries) (shared : SharedState)
    (lastError : Option String) :
    Agrees now stopped call (choosing now shared call attempt (draws attempt))
      (connectLoop draws outcomes (remaining + 1) attempt shared.pool lastError) := by
  induction remaining generalizing attempt shared lastError with
  | zero =>
      cases chosen : (shared.pool.getServer (draws attempt)).1 with
      | none => exact agrees_of_unserved chosen
      | some server =>
          cases outcome : outcomes attempt with
          | none => exact agrees_of_connected chosen outcome
          | some error =>
              rw [choosing_of_chosen chosen, connectLoop_failed chosen outcome]
              have last : ¬attempt + 1 < maxRetries := by omega
              refine ⟨[.refused error], _, by
                simp only [Machine.play, soloMachine, soloStep, tcpStep, if_neg last,
                  Option.map_some]; rfl, ?_, rfl⟩
              exact pool_applyAll_failed _ _
  | succ remaining inductionHypothesis =>
      cases chosen : (shared.pool.getServer (draws attempt)).1 with
      | none => exact agrees_of_unserved chosen
      | some server =>
          cases outcome : outcomes attempt with
          | none => exact agrees_of_connected chosen outcome
          | some error =>
              rw [choosing_of_chosen chosen, connectLoop_failed chosen outcome]
              have more : attempt + 1 < maxRetries := by omega
              have refused : ∀ waiting, soloStep now stopped
                  (waiting, .running { call with stage := .connecting attempt server })
                    (.refused error) =
                  some (waiting.onPool (·.markConnectionFailed server),
                    .running { call with stage := .backoff attempt }) := by
                intro waiting
                simp only [soloStep, tcpStep, if_pos more, Option.map_some]
                rfl
              refine .step (refused _) (.step (soloStep_backoffOver _ attempt (draws (attempt + 1))) ?_)
              exact inductionHypothesis (attempt + 1) (by omega) _ (some error)

/-- The first choice of an activity that opens a connection. -/
theorem agrees_connectWithFailover (shared : SharedState) :
    Agrees now stopped call (choosing now shared call 0 (draws 0))
      (connectWithFailover shared.pool draws outcomes) :=
  agrees_connectLoop 2 0 rfl shared none

end Solo

end Npt.Client
