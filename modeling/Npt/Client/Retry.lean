import Npt.Client.RoundRobin
import Npt.Client.Simulator

/-!
Contract: where `connect_with_failover` goes after a failed attempt.

No strategy knows which server has just failed: a retry keeps away from it only
if it has become unhealthy or the choice happens to fall elsewhere.

Owns: the choice that each strategy makes, and when a retry goes back to the
server that failed, in any interleaving.

Does not own: what makes a connect fail.
-/

namespace Npt.Client

open Npt.Core
open Npt.Shared

/-! ## Choices -/

/-- The choice of the strategy falls on a server. -/
def FallsOn (pool : ServerPool) (draw : Nat) (server : SocketAddr) : Prop :=
  let healthy := healthyAddresses pool
  match pool.config.strategy with
  | .roundRobin => healthy[pool.roundRobinIndex.toNat % healthy.length]? = some server
  | .random | .hashBased => healthy[draw % healthy.length]? = some server
  -- The first of the healthy servers with the fewest connections.
  | .leastConnections =>
      ∃ record ∈ pool.healthyServers, record.address = server ∧
        (∀ other ∈ pool.healthyServers, record.activeConnections ≤ other.activeConnections) ∧
        ∀ other ∈ pool.healthyServers, other.activeConnections ≤ record.activeConnections →
          pool.healthyServers.idxOf record ≤ pool.healthyServers.idxOf other

section Choices

variable {pool : ServerPool} {draw : Nat} {server : SocketAddr}

theorem getServer_eq_some_iff : (pool.getServer draw).1 = some server ↔ FallsOn pool draw server := by
  by_cases empty : pool.healthyServers = []
  · have none : (pool.getServer draw).1 = none := by simp [ServerPool.getServer, empty]
    rw [none]
    unfold FallsOn
    cases pool.config.strategy <;> simp [healthyAddresses, empty]
  · have filled : pool.healthyServers.isEmpty = false := by simpa using empty
    simp only [ServerPool.getServer, filled, Bool.false_eq_true, if_false, FallsOn,
      healthyAddresses, List.getElem?_map, List.length_map]
    cases pool.config.strategy with
    | roundRobin => rfl
    | random => rfl
    | hashBased => rfl
    | leastConnections =>
        simp only [ServerPool.leastConnectionsSelect, Option.map_eq_some_iff,
          List.argmin_eq_some_iff, UInt32.le_iff_toNat_le]
        constructor
        · rintro ⟨record, ⟨present, fewest, earliest⟩, named⟩
          exact ⟨record, present, named, fewest, earliest⟩
        · rintro ⟨record, present, named, fewest, earliest⟩
          exact ⟨record, ⟨present, fewest, earliest⟩, named⟩

/-- A choice falls on healthy servers only. -/
theorem FallsOn.healthy (falls : FallsOn pool draw server) : server ∈ healthyAddresses pool := by
  obtain ⟨record, present, healthy, rfl⟩ :=
    ServerPool.getServer_healthy (getServer_eq_some_iff.mpr falls)
  exact List.mem_map_of_mem (List.mem_filter.mpr ⟨present, healthy⟩)

theorem roundRobinIndex_getServer (strategy : pool.config.strategy = .roundRobin)
    (falls : FallsOn pool draw server) :
    (pool.getServer draw).2.roundRobinIndex = pool.roundRobinIndex + 1 := by
  have filled : pool.healthyServers.isEmpty = false := by
    rw [List.isEmpty_eq_false_iff]
    intro empty
    simpa [healthyAddresses, empty] using falls.healthy
  simp [ServerPool.getServer, filled, strategy, ServerPool.roundRobinSelect]

/-- The rotation does not return to a server at once, unless it is the only one. -/
theorem not_fallsOn_of_next {earlier : ServerPool} {first : Nat}
    (strategy : pool.config.strategy = .roundRobin)
    (earlierStrategy : earlier.config.strategy = .roundRobin)
    (same : healthyAddresses pool = healthyAddresses earlier)
    (next : pool.roundRobinIndex.toNat = earlier.roundRobinIndex.toNat + 1)
    (others : ∃ other ∈ healthyAddresses pool, other ≠ server)
    (before : FallsOn earlier first server) : ¬FallsOn pool draw server := by
  intro falls
  obtain ⟨other, member, different⟩ := others
  simp only [FallsOn, strategy, same, next] at falls
  simp only [FallsOn, earlierStrategy] at before
  obtain ⟨inRange, here⟩ := List.getElem?_eq_some_iff.mp before
  obtain ⟨_, there⟩ := List.getElem?_eq_some_iff.mp falls
  -- The two positions are one, so the list has one place only.
  have position : earlier.roundRobinIndex.toNat + 1 ≡ earlier.roundRobinIndex.toNat
      [MOD (healthyAddresses earlier).length] :=
    ((nodup_healthyAddresses earlier).getElem_inj_iff).mp (there.trans here.symm)
  have divides := (Nat.modEq_iff_dvd' (Nat.le_succ _)).mp position.symm
  have single : (healthyAddresses earlier).length = 1 := by simpa using divides
  obtain ⟨only, shape⟩ := List.length_eq_one_iff.mp single
  have chosen := List.mem_of_getElem? before
  rw [same] at member
  rw [shape, List.mem_singleton] at member chosen
  exact different (member.trans chosen.symm)

end Choices

/-! ## A retry -/

/-- The user is in its connect to a server. -/
def Dials (state : ClientState) (index : Nat) (call : TcpCall) (attempt : Nat)
    (server : SocketAddr) : Prop :=
  ∃ user, state.users[index]? = some user ∧ user.control = .tcp call ∧
    call.stage = .connecting attempt server

/-- The user takes no step but for its stop flag. -/
def Waits (index : Nat) (steps : List (ClientState × ClientLabel)) : Prop :=
  ∀ entry ∈ steps, ∀ label, entry.2 = .user index label → label = .stop

/-- One user's attempt at `failed` fails and the user tries again. Its choice of the
server was made in `chose` and the next one is made in `again`; `others` are the steps
of the rest of the client in between. -/
inductive Retry (index : Nat) (failed : SocketAddr) (draw : Nat) :
    (chose : ClientState) → (others : List (ClientState × ClientLabel)) →
      (again last : ClientState) → Prop where
  | intro {chose dialling refusing backing again last : ClientState} {label : UserLabel}
      {call : TcpCall} {attempt : Nat} {error : String}
      {during after : List (ClientState × ClientLabel)}
      (chooses : clientMachine.step chose (.user index label) = some dialling)
      (acts : label ≠ .stop)
      (dials : Dials dialling index call attempt failed)
      (connecting : clientMachine.Run dialling during refusing)
      (waits : Waits index during)
      (refused : clientMachine.step refusing (.user index (.tcp (.refused error))) = some backing)
      (sleeping : clientMachine.Run backing after again)
      (sleeps : Waits index after)
      (retries : clientMachine.step again (.user index (.tcp (.backoffOver draw))) = some last) :
      Retry index failed draw chose (during ++ after) again last

/-- The retry goes to a server. -/
def RetriesAt (last : ClientState) (index : Nat) (server : SocketAddr) : Prop :=
  ∃ call attempt, Dials last index call attempt server

/-- Nobody draws an index in the steps. -/
def Undrawn (steps : List (ClientState × ClientLabel)) : Prop :=
  ∀ entry ∈ steps, ∀ draw, .getServer draw ∉ effectsOf entry.1 entry.2

/-- The effects of a step that chooses a server to connect to. -/
def Chooses (pool : ServerPool) (effects : List Effect) (server : SocketAddr) : Prop :=
  ∃ draw, (pool.getServer draw).1 = some server ∧
    (effects = [.getServer draw] ∨
      ∃ id activity, effects = [.startConnection id .tcp activity, .getServer draw])

section Steps

variable {pool : ServerPool} {stopped : Bool} {call next : TcpCall} {label : TcpLabel}
  {effects : List Effect} {attempt draw number : Nat} {server : SocketAddr}

theorem thinking_of_afterConnection (running : afterConnection call = .running next) :
    next.stage = .thinking := by
  unfold afterConnection at running
  split at running
  · obtain rfl := TcpOutcome.running.inj running
    rfl
  · cases running

/-- An activity gets into a connect by choosing its server. -/
theorem chooses_of_tryServer (tried : tryServer pool call attempt draw = (effects, .running next))
    (stage : next.stage = .connecting number server) :
    (pool.getServer draw).1 = some server ∧ effects = [.getServer draw] := by
  unfold tryServer at tried
  split at tried
  · rename_i chosen found
    obtain ⟨rfl, running⟩ := Prod.mk.inj tried
    obtain rfl := TcpOutcome.running.inj running
    obtain ⟨-, rfl⟩ := TcpStage.connecting.inj stage
    exact ⟨found, rfl⟩
  · obtain ⟨-, running⟩ := Prod.mk.inj tried
    rw [thinking_of_afterConnection running] at stage
    cases stage

theorem chooses_of_openConnection {activity : UserActivity} {page : Nat} {connectionId : Uuid}
    (opened : openConnection pool activity page connectionId draw = (effects, .running next))
    (stage : next.stage = .connecting number server) : Chooses pool effects server := by
  unfold openConnection at opened
  dsimp only at opened
  obtain ⟨rfl, running⟩ := Prod.mk.inj opened
  obtain ⟨chosen, drawn⟩ := chooses_of_tryServer (Prod.ext rfl running) stage
  exact ⟨draw, chosen, Or.inr ⟨connectionId, activity, congrArg _ drawn⟩⟩

/-- An open stream does not lead into a connect. -/
theorem not_connecting_of_move {exchange : Exchange} {here : SocketAddr}
    (streaming : call.stage = .streaming here exchange)
    (move : TcpMove pool call label effects (.running next)) :
    next.stage ≠ .connecting number server := by
  intro stage
  generalize running : TcpOutcome.running next = outcome at move
  cases move with
  | exchanged =>
      obtain rfl := TcpOutcome.running.inj running
      cases stage
  | broke | completed =>
      rw [thinking_of_afterConnection running.symm] at stage
      cases stage
  | connected waiting | unnamed waiting | opened waiting =>
      rw [streaming] at waiting
      cases waiting
  | retried dialing | gaveUp dialing =>
      rw [streaming] at dialing
      cases dialing
  | panicked | returned => cases running

theorem chooses_of_tcpStep (taken : tcpStep pool stopped call label = some (effects, .running next))
    (stage : next.stage = .connecting number server) : Chooses pool effects server := by
  unfold tcpStep at taken
  split at taken
  · obtain ⟨-, running⟩ := Prod.mk.inj (Option.some.inj taken)
    obtain rfl := TcpOutcome.running.inj running
    cases stage
  · obtain ⟨-, running⟩ := Prod.mk.inj (Option.some.inj taken)
    rw [thinking_of_afterConnection running] at stage
    cases stage
  · split at taken
    · obtain ⟨-, running⟩ := Prod.mk.inj (Option.some.inj taken)
      obtain rfl := TcpOutcome.running.inj running
      cases stage
    · obtain ⟨-, running⟩ := Prod.mk.inj (Option.some.inj taken)
      rw [thinking_of_afterConnection running] at stage
      cases stage
  · rename_i attempt draw waiting
    obtain ⟨chosen, drawn⟩ := chooses_of_tryServer (Option.some.inj taken) stage
    exact ⟨draw, chosen, Or.inl drawn⟩
  · rename_i here exchange streaming
    exact absurd stage (not_connecting_of_move streaming
      (move_of_streamStep streaming taken : TcpMove pool call _ effects _))
  · split at taken
    · split at taken
      · exact chooses_of_openConnection (Option.some.inj taken) stage
      · cases taken
    · cases taken
  · cases taken

theorem running_of_control {outcome : TcpOutcome} (control : outcome.control = .tcp next) :
    outcome = .running next := by
  cases outcome with
  | running call => rw [Control.tcp.inj control]
  | returned | panicked => cases control

theorem chooses_of_controlStep {control : Control} {label : UserLabel}
    (taken : controlStep pool stopped control label = some (effects, .tcp next))
    (stage : next.stage = .connecting number server) : Chooses pool effects server := by
  unfold controlStep at taken
  split at taken
  · cases taken
  · split at taken
    · obtain ⟨result, -, same⟩ := Option.map_eq_some_iff.mp taken
      obtain ⟨-, control⟩ := Prod.mk.inj same
      cases outcome : result.2 <;> simp [outcome, QuicOutcome.control] at control
    · obtain ⟨⟨effects, outcome⟩, started, same⟩ := Option.map_eq_some_iff.mp taken
      obtain ⟨rfl, control⟩ := Prod.mk.inj same
      obtain rfl := running_of_control control
      rcases startTcp_cases started with ⟨-, returned⟩ | opened
      · cases returned
      · exact chooses_of_openConnection opened.symm stage
  · obtain ⟨result, stepped, same⟩ := Option.map_eq_some_iff.mp taken
    obtain ⟨rfl, control⟩ := Prod.mk.inj same
    have running := running_of_control control
    exact chooses_of_tcpStep (stepped.trans (congrArg some (Prod.ext rfl running))) stage
  · obtain ⟨result, -, same⟩ := Option.map_eq_some_iff.mp taken
    obtain ⟨-, control⟩ := Prod.mk.inj same
    cases outcome : result.2 <;> simp [outcome, QuicOutcome.control] at control
  · cases taken
  · cases taken

end Steps

section Runs

variable {state next chose again last : ClientState} {index attempt draw : Nat} {call : TcpCall}
  {server : SocketAddr} {steps others : List (ClientState × ClientLabel)}

/-- A user that gets into a connect has chosen its server. -/
theorem chooses_of_step {label : UserLabel}
    (taken : clientMachine.step state (.user index label) = some next) (acts : label ≠ .stop)
    (dials : Dials next index call attempt server) :
    ∃ draw, FallsOn state.shared.pool draw server ∧
      next.shared.pool = (state.shared.pool.getServer draw).2 := by
  obtain ⟨⟨effects, after⟩, own, rfl⟩ := Option.map_eq_some_iff.mp taken
  obtain ⟨user, present, control, stage⟩ := dials
  unfold userStep at own
  split at own
  · exact absurd rfl acts
  · rename_i before inside _
    obtain ⟨⟨made, moved⟩, stepped, guarded⟩ := Option.bind_eq_some_iff.mp own
    split at guarded
    · obtain ⟨rfl, rfl⟩ := Prod.mk.inj (Option.some.inj guarded)
      obtain ⟨inRange, -⟩ := List.getElem?_eq_some_iff.mp inside
      simp only [List.getElem?_set_self inRange, Option.some.injEq] at present
      subst present
      obtain rfl : moved = .tcp call := control
      obtain ⟨draw, chosen, shape⟩ := chooses_of_controlStep stepped stage
      refine ⟨draw, getServer_eq_some_iff.mp chosen, ?_⟩
      rcases shape with rfl | ⟨id, activity, rfl⟩ <;> rfl
    · cases guarded
  · cases own

theorem not_controlMove_stop {pool : ServerPool} {control after : Control} {effects : List Effect} :
    ¬ControlMove pool control .stop effects after := by
  intro move
  cases move

/-- The steps of the others leave the user where it is. -/
theorem control_of_step {label : ClientLabel}
    (taken : clientMachine.step state label = some next)
    (waits : ∀ own, label = .user index own → own = .stop) :
    (next.users[index]?).map User.control = (state.users[index]?).map User.control := by
  by_cases own : ∃ label', label = .user index label'
  · obtain ⟨label', rfl⟩ := own
    obtain rfl := waits label' rfl
    obtain ⟨⟨effects, after⟩, stepped, rfl⟩ := Option.map_eq_some_iff.mp taken
    obtain ⟨user, present, move⟩ := userMove_of_userStep stepped
    obtain ⟨inRange, -⟩ := List.getElem?_eq_some_iff.mp present
    rw [List.getElem?_set_self inRange, present]
    cases move with
    | stopped => rfl
    | moved own => exact absurd own not_controlMove_stop
  · rw [user_kept_of_step taken (fun label' same => own ⟨label', same⟩)]

theorem pool_of_applyAll {α : Type} {read : ServerPool → α} {now : Nat} {effects : List Effect}
    (kept : ∀ effect ∈ effects, ∀ now shared,
      read (effect.apply now shared).pool = read shared.pool) (shared : SharedState) :
    read (Effect.applyAll now shared effects).pool = read shared.pool := by
  induction effects generalizing shared with
  | nil => rfl
  | cons effect rest inductionHypothesis =>
      have rests := inductionHypothesis (fun effect member => kept effect (by simp [member]))
        (effect.apply now shared)
      rw [← kept effect List.mem_cons_self now shared]
      exact rests

/-- What the pool calls of a step keep, the step keeps. -/
theorem pool_of_step {α : Type} {read : ServerPool → α} {label : ClientLabel}
    (taken : clientMachine.step state label = some next)
    (kept : ∀ effect ∈ effectsOf state label, ∀ now shared,
      read (effect.apply now shared).pool = read shared.pool)
    (checked : ∀ pool address ok, read (ServerPool.healthResult pool address ok) = read pool) :
    read next.shared.pool = read state.shared.pool := by
  cases label with
  | user index own =>
      obtain ⟨⟨effects, after⟩, stepped, rfl⟩ := Option.map_eq_some_iff.mp taken
      have made : effectsOf state (.user index own) = effects := by simp [effectsOf, stepped]
      rw [made] at kept
      exact pool_of_applyAll kept _
  | healthRound =>
      simp only [clientMachine, clientStep] at taken
      split at taken
      · obtain rfl := Option.some.inj taken
        rfl
      · cases taken
  | checked index ok =>
      obtain ⟨address, -, rfl⟩ := Option.map_eq_some_iff.mp taken
      exact checked _ address ok
  | elapse ms =>
      obtain rfl := Option.some.inj taken
      rfl

/-- A step without a draw leaves the index alone. -/
theorem roundRobinIndex_of_step {label : ClientLabel}
    (taken : clientMachine.step state label = some next)
    (undrawn : ∀ draw, .getServer draw ∉ effectsOf state label) :
    next.shared.pool.roundRobinIndex = state.shared.pool.roundRobinIndex := by
  refine pool_of_step taken (fun effect member now shared => ?_) (fun _ _ _ => rfl)
  cases effect with
  | getServer draw => exact absurd member (undrawn draw)
  | _ => rfl

theorem config_of_step {label : ClientLabel}
    (taken : clientMachine.step state label = some next) :
    next.shared.pool.config = state.shared.pool.config := by
  refine pool_of_step taken (fun effect _ now shared => ?_) (fun _ _ _ => rfl)
  cases effect with
  | getServer draw => exact ServerPool.getServer_config _ draw
  | _ => rfl

theorem control_of_run (run : clientMachine.Run state steps last) (waits : Waits index steps) :
    (last.users[index]?).map User.control = (state.users[index]?).map User.control := by
  refine run.invariant_under (fun _ label => ∀ own, label = .user index own → own = .stop)
    (fun reached => (reached.users[index]?).map User.control =
      (state.users[index]?).map User.control) waits rfl ?_
  intro middle label next same own taken
  rw [control_of_step taken own, same]

theorem config_of_run (run : clientMachine.Run state steps last) :
    last.shared.pool.config = state.shared.pool.config :=
  run.invariant (fun reached => reached.shared.pool.config = state.shared.pool.config) rfl
    (fun _ _ _ same taken => (config_of_step taken).trans same)

theorem roundRobinIndex_of_run (run : clientMachine.Run state steps last)
    (undrawn : Undrawn steps) :
    last.shared.pool.roundRobinIndex = state.shared.pool.roundRobinIndex :=
  run.invariant_under (fun state label => ∀ draw : Nat, Effect.getServer draw ∉ effectsOf state label)
    (fun reached => reached.shared.pool.roundRobinIndex = state.shared.pool.roundRobinIndex)
    undrawn rfl (fun _ _ _ same undrawn taken => (roundRobinIndex_of_step taken undrawn).trans same)

/-- A step of a user's connection. -/
theorem tcpStep_of_step {label : TcpLabel}
    (taken : clientMachine.step state (.user index (.tcp label)) = some next) :
    ∃ (user : User) (call : TcpCall) (outcome : TcpOutcome),
      state.users[index]? = some user ∧ user.control = .tcp call ∧
      tcpStep state.shared.pool user.stopped call label =
        some (effectsOf state (.user index (.tcp label)), outcome) ∧
      next.users[index]? = some { user with control := outcome.control } := by
  obtain ⟨⟨effects, after⟩, own, rfl⟩ := Option.map_eq_some_iff.mp taken
  have made : effectsOf state (.user index (.tcp label)) = effects := by simp [effectsOf, own]
  rw [made]
  unfold userStep at own
  split at own
  · rename_i same
    cases same
  · rename_i user inside _
    obtain ⟨⟨result, control⟩, stepped, guarded⟩ := Option.bind_eq_some_iff.mp own
    split at guarded
    · obtain ⟨rfl, rfl⟩ := Prod.mk.inj (Option.some.inj guarded)
      obtain ⟨inRange, -⟩ := List.getElem?_eq_some_iff.mp inside
      cases working : user.control with
      | tcp call =>
          rw [working] at stepped
          obtain ⟨⟨result, outcome⟩, inner, same⟩ := Option.map_eq_some_iff.mp stepped
          obtain ⟨rfl, rfl⟩ := Prod.mk.inj same
          exact ⟨user, call, outcome, inside, working, inner, List.getElem?_set_self inRange⟩
      | _ =>
          rw [working] at stepped
          cases stepped
    · cases guarded
  · cases own

theorem undrawn_failed {message : String} (draw : Nat) :
    .getServer draw ∉ (failed call message).1 := by
  simp only [failed, errorRecord, List.mem_cons, List.not_mem_nil, or_false, not_or]
  refine ⟨?_, by simp⟩
  split <;> simp

/-- A failed connect draws nothing. -/
theorem undrawn_of_refused {error : String} (draw : Nat)
    (taken : clientMachine.step state (.user index (.tcp (.refused error))) = some next) :
    .getServer draw ∉ effectsOf state (.user index (.tcp (.refused error))) := by
  obtain ⟨user, call, outcome, -, -, stepped, -⟩ := tcpStep_of_step taken
  generalize effectsOf state (.user index (.tcp (.refused error))) = effects at stepped ⊢
  unfold tcpStep at stepped
  split at stepped
  · rename_i same
    cases same
  · rename_i same
    cases same
  · split at stepped
    · obtain ⟨rfl, -⟩ := Prod.mk.inj (Option.some.inj stepped)
      simp
    · obtain ⟨rfl, -⟩ := Prod.mk.inj (Option.some.inj stepped)
      simpa using undrawn_failed draw
  · rename_i same
    cases same
  · cases stepped
  · rename_i same
    cases same
  · cases stepped

/-- A retry goes where the choice falls. -/
theorem retriesAt_iff
    (retries : clientMachine.step again (.user index (.tcp (.backoffOver draw))) = some last) :
    RetriesAt last index server ↔ FallsOn again.shared.pool draw server := by
  rw [← getServer_eq_some_iff]
  obtain ⟨user, call, outcome, -, -, stepped, after⟩ := tcpStep_of_step retries
  have tried : ∃ attempt, (tryServer again.shared.pool call attempt draw).2 = outcome := by
    unfold tcpStep at stepped
    split at stepped
    · rename_i same
      cases same
    · rename_i same
      cases same
    · rename_i same
      cases same
    · rename_i same
      obtain rfl := TcpLabel.backoffOver.inj same
      exact ⟨_, congrArg Prod.snd (Option.some.inj stepped)⟩
    · cases stepped
    · rename_i same
      cases same
    · cases stepped
  obtain ⟨attempt, rfl⟩ := tried
  constructor
  · rintro ⟨moved, number, reached, present, control, stage⟩
    rw [after] at present
    obtain rfl := Option.some.inj present
    exact (chooses_of_tryServer (Prod.ext rfl (running_of_control control)) stage).1
  · intro chosen
    refine ⟨{ call with stage := .connecting attempt server }, attempt, _, after, ?_, rfl⟩
    simp only [tryServer, chosen]
    rfl

theorem dials_of_run (run : clientMachine.Run state steps last) (waits : Waits index steps)
    (dials : Dials state index call attempt server) : Dials last index call attempt server := by
  obtain ⟨user, present, control, stage⟩ := dials
  have same := control_of_run run waits
  rw [present, Option.map_some, control] at same
  obtain ⟨now, here, still⟩ := Option.map_eq_some_iff.mp same
  exact ⟨now, here, still, stage⟩

/-- The attempt that a retry follows is recorded on its server. -/
theorem Retry.recorded (retry : Retry index server draw chose others again last) :
    ∃ refusing backing error,
      clientMachine.step refusing (.user index (.tcp (.refused error))) = some backing ∧
      .markConnectionFailed server ∈ effectsOf refusing (.user index (.tcp (.refused error))) := by
  obtain ⟨chooses, acts, dials, connecting, waits, refused, sleeping, sleeps, retries⟩ := retry
  rename_i dialling refusing backing label call attempt error during after
  refine ⟨refusing, backing, error, refused, ?_⟩
  obtain ⟨user, present, control, stage⟩ := dials_of_run connecting waits dials
  obtain ⟨acting, working, outcome, here, same, stepped, -⟩ := tcpStep_of_step refused
  obtain rfl := Option.some.inj (present.symm.trans here)
  obtain rfl := Control.tcp.inj (control.symm.trans same)
  simp only [tcpStep, stage] at stepped
  split at stepped
  · obtain ⟨made, -⟩ := Prod.mk.inj (Option.some.inj stepped)
    rw [← made]
    exact List.mem_cons_self
  · obtain ⟨made, -⟩ := Prod.mk.inj (Option.some.inj stepped)
    rw [← made]
    exact List.mem_cons_self

/-- Where a retry goes: back to the server that failed exactly if the choice of the
strategy falls on it again, hence never if that server is no longer healthy, and not
in an undisturbed rotation. -/
theorem retry_returns_iff (retry : Retry index server draw chose others again last)
    (other : ∃ other ∈ healthyAddresses again.shared.pool, other ≠ server) :
    (RetriesAt last index server ↔ FallsOn again.shared.pool draw server) ∧
      (server ∉ healthyAddresses again.shared.pool → ¬RetriesAt last index server) ∧
      (again.shared.pool.config.strategy = .roundRobin → Undrawn others →
        healthyAddresses again.shared.pool = healthyAddresses chose.shared.pool →
        chose.shared.pool.roundRobinIndex.toNat + 1 < 2 ^ 64 →
        ¬RetriesAt last index server) := by
  obtain ⟨chooses, acts, dials, connecting, waits, refused, sleeping, sleeps, retries⟩ := retry
  rename_i dialling refusing backing label call attempt error during after
  rw [retriesAt_iff retries]
  refine ⟨Iff.rfl, fun unhealthy falls => unhealthy falls.healthy, ?_⟩
  intro strategy undrawn same bound
  obtain ⟨first, before, moved⟩ := chooses_of_step chooses acts dials
  have config : again.shared.pool.config = chose.shared.pool.config := by
    rw [config_of_run sleeping, config_of_step refused, config_of_run connecting, moved,
      ServerPool.getServer_config]
  have earlierStrategy : chose.shared.pool.config.strategy = .roundRobin := config ▸ strategy
  have index' : again.shared.pool.roundRobinIndex =
      dialling.shared.pool.roundRobinIndex := by
    rw [roundRobinIndex_of_run sleeping (fun entry member => undrawn entry (by simp [member])),
      roundRobinIndex_of_step refused (fun draw => undrawn_of_refused draw refused),
      roundRobinIndex_of_run connecting (fun entry member => undrawn entry (by simp [member]))]
  have drawn : dialling.shared.pool.roundRobinIndex = chose.shared.pool.roundRobinIndex + 1 := by
    rw [moved]
    exact roundRobinIndex_getServer earlierStrategy before
  refine not_fallsOn_of_next strategy earlierStrategy same ?_ other before
  rw [index', drawn, UInt64.toNat_add]
  exact Nat.mod_eq_of_lt bound

end Runs

/-! ## Two servers -/

def firstServer : SocketAddr := ⟨"127.0.0.1:8001"⟩

def secondServer : SocketAddr := ⟨"127.0.0.1:8002"⟩

/-- A user of two servers, before its first choice. -/
def beforeChoice (strategy : LoadBalanceStrategy) : ClientState :=
  { shared := { pool := .new [firstServer, secondServer] (.asGiven _ (by decide))
                  { strategy := strategy } }
    users := [{ control := .idle }] }

def downloadLabel : UserLabel := .activity (.fileDownload 1 (1024, 32768)) ⟨1⟩ 0 none

def firstConnect (strategy : LoadBalanceStrategy) : ClientState :=
  (clientMachine.step (beforeChoice strategy) (.user 0 downloadLabel)).get
    (by cases strategy <;> decide +kernel)

/-- The first server has refused. -/
def firstBackoff (strategy : LoadBalanceStrategy) : ClientState :=
  (clientMachine.step (firstConnect strategy) (.user 0 (.tcp (.refused "down")))).get
    (by cases strategy <;> decide +kernel)

def secondConnect (strategy : LoadBalanceStrategy) : ClientState :=
  (clientMachine.step (firstBackoff strategy) (.user 0 (.tcp (.backoffOver 0)))).get
    (by cases strategy <;> decide +kernel)

/-- The download in an attempt at the first server. -/
def downloadCall (attempt : Nat) : TcpCall :=
  { activity := .fileDownload 1 (1024, 32768), connectionId := ⟨1⟩,
    stage := .connecting attempt firstServer }

theorem retry_firstServer (strategy : LoadBalanceStrategy) :
    Retry 0 firstServer 0 (beforeChoice strategy) [] (firstBackoff strategy)
      (secondConnect strategy) := by
  have users : (firstConnect strategy).users = [{ control := .tcp (downloadCall 0) }] := by
    cases strategy <;> decide +kernel
  have dials : Dials (firstConnect strategy) 0 (downloadCall 0) 0 firstServer :=
    ⟨_, congrArg (fun users => users[0]?) users, rfl, rfl⟩
  exact .intro (Option.some_get _).symm (by simp [downloadLabel]) dials .nil (by simp [Waits])
    (Option.some_get _).symm .nil (by simp [Waits]) (Option.some_get _).symm

/-- Under the fewest connections, the retry goes to the same server, with another one
healthy. -/
theorem retry_returns_to_firstServer :
    Retry 0 firstServer 0 (beforeChoice .leastConnections) []
        (firstBackoff .leastConnections) (secondConnect .leastConnections) ∧
      secondServer ∈ healthyAddresses (firstBackoff .leastConnections).shared.pool ∧
      secondServer ≠ firstServer ∧
      RetriesAt (secondConnect .leastConnections) 0 firstServer := by
  have users : (secondConnect .leastConnections).users =
      [{ control := .tcp (downloadCall 1) }] := by
    decide +kernel
  exact ⟨retry_firstServer _, by decide +kernel, by decide,
    ⟨_, _, _, congrArg (fun users => users[0]?) users, rfl, rfl⟩⟩

theorem retry_returns_iff_rotation :
    ¬RetriesAt (secondConnect .roundRobin) 0 firstServer :=
  (retry_returns_iff (retry_firstServer .roundRobin)
      ⟨secondServer, by decide +kernel, by decide⟩).2.2 (by decide +kernel) (by simp [Undrawn])
    (by decide +kernel) (by decide +kernel)

end Npt.Client
