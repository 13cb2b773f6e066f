import Npt.Client.QuicClient
import Npt.Client.TcpClient
import Npt.Core.TransitionSystem

/-!
Contract: the simulated users (`client/src/simulator.rs`).

Each user runs one activity after another until its session is over; a timer of
its own sets its stop flag. Users interleave freely at their waits. The health
checker of the pool is part of the system, with its checks in flight.

Owns: the user task and the client machine.

Does not own: the choice of activities (any may be chosen, with any parameters)
or the clock beyond the stamps it provides. A new connection id is one that the
metrics have not seen.
-/

namespace Npt.Client

open Npt.Core
open Npt.Shared

inductive Control where
  | waiting
  /-- Between two activities. -/
  | idle
  | tcp (call : TcpCall)
  | quic (call : QuicCall)
  | finished
  /-- The task panicked on a connection to a server. -/
  | panicked (server : SocketAddr) (connectionId : Uuid)
deriving DecidableEq, Repr

/-- No activity is under way. -/
def Control.resting : Control → Bool
  | .waiting | .idle | .finished => true
  | _ => false

structure User where
  stopped : Bool := false
  control : Control := .waiting
deriving DecidableEq, Repr

inductive UserLabel where
  | start
  /-- The session timer sets the stop flag. -/
  | stop
  /-- An activity is chosen and runs to its first wait. -/
  | activity (activity : UserActivity) (connectionId : Uuid) (draw : Nat)
      (setupError : Option String)
  | tcp (label : TcpLabel)
  | quic (label : QuicLabel)
  | finish
deriving DecidableEq, Repr

def TcpOutcome.control : TcpOutcome → Control
  | .running call => .tcp call
  | .returned => .idle
  | .panicked server connectionId => .panicked server connectionId

def QuicOutcome.control : QuicOutcome → Control
  | .running call => .quic call
  | .returned => .idle
  | .panicked server connectionId => .panicked server connectionId

/-- One step of `simulate_user_behavior` on its control state. -/
def controlStep (pool : ServerPool) (stopped : Bool) :
    Control → UserLabel → Option (List Effect × Control)
  | .waiting, .start => some ([.incrementActiveUsers], .idle)
  | .idle, .activity activity connectionId draw setupError =>
      match activity with
      | .quicWebBrowsing _ _ _ =>
          (startQuic pool activity connectionId draw setupError).map
            (fun result => (result.1, result.2.control))
      | _ =>
          (startTcp pool activity connectionId draw).map
            (fun result => (result.1, result.2.control))
  | .tcp call, .tcp label =>
      (tcpStep pool stopped call label).map (fun result => (result.1, result.2.control))
  | .quic call, .quic label =>
      (quicStep call label).map (fun result => (result.1, result.2.control))
  | .idle, .finish => some ([.decrementActiveUsers], .finished)
  | _, _ => none

/-! ## The client -/

structure ClientState where
  /-- The wall clock. -/
  now : Nat := 0
  shared : SharedState
  users : List User
  /-- `check_server_health` calls in flight. -/
  checks : List SocketAddr := []

inductive ClientLabel where
  | user (index : Nat) (label : UserLabel)
  | healthRound
  | checked (index : Nat) (ok : Bool)
  | elapse (ms : Nat)
deriving DecidableEq, Repr

/-- The effects of a user's step and where it leaves the user. -/
def userStep (state : ClientState) (index : Nat) (label : UserLabel) :
    Option (List Effect × User) :=
  match state.users[index]?, label with
  | some user, .stop => some ([], { user with stopped := true })
  | some user, label =>
      (controlStep state.shared.pool user.stopped user.control label).bind (fun result =>
        if ∀ id ∈ Effect.registrations result.1, ¬ state.shared.metrics.Registered id then
          some (result.1, { user with control := result.2 })
        else none)
  | none, _ => none

def clientStep (state : ClientState) : ClientLabel → Option ClientState
  | .user index label =>
      (userStep state index label).map (fun result => { state with
        shared := Effect.applyAll state.now state.shared result.1
        users := state.users.set index result.2 })
  | .healthRound =>
      if state.shared.pool.healthCheckerTicks then
        some { state with checks := state.checks ++ state.shared.pool.addresses }
      else none
  | .checked index ok =>
      (state.shared.pool.reportingCheck state.checks index ok).map (fun address => { state with
        shared := state.shared.onPool (·.healthResult address ok)
        checks := state.checks.eraseIdx index })
  | .elapse ms => some { state with now := state.now + ms }

/-- The calls that a step makes. -/
def effectsOf (state : ClientState) : ClientLabel → List Effect
  | .user index label => ((userStep state index label).map Prod.fst).getD []
  | _ => []

def clientMachine : Machine ClientState ClientLabel := ⟨clientStep⟩

/-- `UserSimulator::new` and the tasks that `run_simulation` spawns. -/
def startClient (addresses : List SocketAddr) (order : IterationOrder addresses)
    (config : LoadBalancerConfig) (concurrentUsers : UInt32) : ClientState where
  shared := { pool := .new addresses order config }
  users := List.replicate concurrentUsers.toNat {}

def localServer : SocketAddr := ⟨"127.0.0.1:8080"⟩

/-- One user of one server. -/
def oneUser : ClientState := startClient [localServer] (.asGiven _ (by decide)) {} 1

/-! ## What a step can do -/

/-- The activity is a QUIC session. -/
def isQuic : UserActivity → Bool
  | .quicWebBrowsing _ _ _ => true
  | _ => false

/-- The steps of a user's control state. -/
inductive ControlMove (pool : ServerPool) :
    Control → UserLabel → List Effect → Control → Prop where
  | started : ControlMove pool .waiting .start [.incrementActiveUsers] .idle
  | finished : ControlMove pool .idle .finish [.decrementActiveUsers] .finished
  | tcp {call : TcpCall} {label : TcpLabel} {effects : List Effect} {outcome : TcpOutcome}
      (move : TcpMove pool call label effects outcome) :
      ControlMove pool (.tcp call) (.tcp label) effects outcome.control
  | quic {call : QuicCall} {label : QuicLabel} {effects : List Effect} {outcome : QuicOutcome}
      (move : QuicMove call label effects outcome) :
      ControlMove pool (.quic call) (.quic label) effects outcome.control
  /-- Web browsing without a page. -/
  | nothing {activity : UserActivity} {connectionId : Uuid} {draw : Nat}
      {setupError : Option String} (kind : isQuic activity = false) :
      ControlMove pool .idle (.activity activity connectionId draw setupError) [] .idle
  | opened {activity : UserActivity} {connectionId : Uuid} {draw : Nat}
      {setupError : Option String} (kind : isQuic activity = false) :
      ControlMove pool .idle (.activity activity connectionId draw setupError)
        (openConnection pool activity 0 connectionId draw).1
        (openConnection pool activity 0 connectionId draw).2.control
  | session {activity : UserActivity} {connectionId : Uuid} {draw : Nat}
      {setupError : Option String} {effects : List Effect} {outcome : QuicOutcome}
      (kind : isQuic activity = true)
      (start : QuicStart pool activity connectionId draw setupError effects outcome) :
      ControlMove pool .idle (.activity activity connectionId draw setupError) effects
        outcome.control

theorem move_of_controlStep {pool : ServerPool} {stopped : Bool} {control next : Control}
    {label : UserLabel} {effects : List Effect}
    (taken : controlStep pool stopped control label = some (effects, next)) :
    ControlMove pool control label effects next := by
  unfold controlStep at taken
  split at taken
  · obtain ⟨rfl, rfl⟩ := Prod.mk.inj (Option.some.inj taken)
    exact .started
  · rename_i activity connectionId draw setupError
    split at taken
    · obtain ⟨result, started, same⟩ := Option.map_eq_some_iff.mp taken
      obtain ⟨rfl, rfl⟩ := Prod.mk.inj same
      exact .session rfl (start_of_startQuic started)
    · rename_i notQuic
      obtain ⟨result, started, same⟩ := Option.map_eq_some_iff.mp taken
      obtain ⟨rfl, rfl⟩ := Prod.mk.inj same
      have kind : isQuic activity = false := by
        cases activity with
        | quicWebBrowsing pages resources concurrent =>
            exact absurd rfl (notQuic pages resources concurrent)
        | _ => rfl
      rcases startTcp_cases started with ⟨noEffects, returned⟩ | opened
      · rw [noEffects, returned]
        exact .nothing kind
      · obtain ⟨effects, outcome⟩ := Prod.mk.inj opened
        rw [effects, outcome]
        exact .opened kind
  · obtain ⟨result, stepped, same⟩ := Option.map_eq_some_iff.mp taken
    obtain ⟨rfl, rfl⟩ := Prod.mk.inj same
    exact .tcp (move_of_tcpStep stepped)
  · obtain ⟨result, stepped, same⟩ := Option.map_eq_some_iff.mp taken
    obtain ⟨rfl, rfl⟩ := Prod.mk.inj same
    exact .quic (move_of_quicStep stepped)
  · obtain ⟨rfl, rfl⟩ := Prod.mk.inj (Option.some.inj taken)
    exact .finished
  · simp at taken

/-- The steps of a user. -/
inductive UserMove (state : ClientState) (user : User) : UserLabel → List Effect → User → Prop where
  | stopped : UserMove state user .stop [] { user with stopped := true }
  | moved {label : UserLabel} {effects : List Effect} {control : Control}
      (own : ControlMove state.shared.pool user.control label effects control)
      (fresh : ∀ id ∈ Effect.registrations effects, ¬ state.shared.metrics.Registered id) :
      UserMove state user label effects { user with control := control }

/-- The steps of the client. -/
inductive ClientMove (state : ClientState) : ClientLabel → List Effect → ClientState → Prop where
  | user {index : Nat} {user next : User} {label : UserLabel} {effects : List Effect}
      (present : state.users[index]? = some user) (move : UserMove state user label effects next) :
      ClientMove state (.user index label) effects { state with
        shared := Effect.applyAll state.now state.shared effects
        users := state.users.set index next }
  /-- The health checker and the clock. -/
  | environment {label : ClientLabel} {next : ClientState}
      (users : next.users = state.users) (metrics : next.shared.metrics = state.shared.metrics)
      (addresses : next.shared.pool.addresses = state.shared.pool.addresses)
      (counters : ∀ address, next.shared.pool.activeConnections address =
        state.shared.pool.activeConnections address)
      (idle : ∀ index own, label ≠ .user index own) :
      ClientMove state label [] next

section Moves

variable {state next : ClientState} {label : ClientLabel}

theorem userMove_of_userStep {index : Nat} {label : UserLabel} {result : List Effect × User}
    (taken : userStep state index label = some result) :
    ∃ user, state.users[index]? = some user ∧ UserMove state user label result.1 result.2 := by
  unfold userStep at taken
  split at taken
  · rename_i user present
    obtain rfl := Option.some.inj taken
    exact ⟨user, present, .stopped⟩
  · rename_i user present notStop
    obtain ⟨⟨effects, control⟩, own, guarded⟩ := Option.bind_eq_some_iff.mp taken
    split at guarded
    · rename_i fresh
      obtain rfl := Option.some.inj guarded
      exact ⟨user, present, .moved (move_of_controlStep own) fresh⟩
    · simp at guarded
  · simp at taken

theorem move_of_clientStep (taken : clientMachine.step state label = some next) :
    ClientMove state label (effectsOf state label) next := by
  cases label with
  | user index label =>
      obtain ⟨result, own, rfl⟩ := Option.map_eq_some_iff.mp taken
      obtain ⟨user, present, move⟩ := userMove_of_userStep own
      have effects : effectsOf state (.user index label) = result.1 := by
        simp [effectsOf, own]
      rw [effects]
      exact .user present move
  | healthRound =>
      simp only [clientMachine, clientStep] at taken
      split at taken
      · obtain rfl := Option.some.inj taken
        exact .environment rfl rfl rfl (fun _ => rfl) (fun _ _ => by simp)
      · simp at taken
  | checked index ok =>
      obtain ⟨address, _, rfl⟩ := Option.map_eq_some_iff.mp taken
      refine .environment rfl rfl ?_ ?_ (fun _ _ => by simp)
      · simp [SharedState.onPool]
      · simp [SharedState.onPool]
  | elapse ms =>
      obtain rfl := Option.some.inj taken
      exact .environment rfl rfl rfl (fun _ => rfl) (fun _ _ => by simp)

/-- A step of the others leaves a user as it is. -/
theorem user_kept_of_step {index : Nat} (taken : clientMachine.step state label = some next)
    (others : ∀ own, label ≠ .user index own) : next.users[index]? = state.users[index]? := by
  have move := move_of_clientStep taken
  generalize effectsOf state label = effects at move
  cases move with
  | @user other before after own effects present move =>
      have different : other ≠ index := by
        rintro rfl
        exact others own rfl
      exact List.getElem?_set_ne different
  | environment users => rw [users]

end Moves

theorem users_length_of_run {addresses : List SocketAddr} {order : IterationOrder addresses}
    {config : LoadBalancerConfig} {concurrentUsers : UInt32}
    {trace : List (ClientState × ClientLabel)} {state : ClientState}
    (run : clientMachine.Run (startClient addresses order config concurrentUsers) trace state) :
    state.users.length = concurrentUsers.toNat := by
  refine run.invariant (fun state => state.users.length = concurrentUsers.toNat)
    (by simp [startClient]) ?_
  intro state label next same taken
  have move := move_of_clientStep taken
  generalize effectsOf state label = effects at move
  cases move with
  | user present move => simpa using same
  | environment users metrics addresses counters idle => rw [users, same]

end Npt.Client
