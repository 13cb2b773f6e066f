import Npt.Client.Simulator
import Npt.Core.IndexedFamily
import Npt.Core.Ledger

/-!
Owns: the ledger of server connections. An activity takes a unit of its server
with `mark_connection_start` and gives it back with `mark_connection_end`; in
between it holds one. A step that leaves the activity through an error while a
unit is held, or is taken in the same step, loses it.

Does not own: the metrics records of connections.
-/

namespace Npt.Client

open Npt.Core
open Npt.Shared

/-! ## Units of one activity -/

/-- The server whose `mark_connection_start` an activity has called and whose
connection it is still on. -/
def Control.holding : Control → Option SocketAddr
  | .tcp call =>
      match call.stage with
      | .streaming server _ => some server
      | _ => none
  | .quic call => some call.server
  | .panicked server _ => some server
  | _ => none

/-- The server of an activity that fails in this step after its
`mark_connection_start`: `local_addr`, a send, a receive, the set-up of a QUIC
session or its connect returns an error. -/
def failsHolding (pool : ServerPool) (control : Control) (label : UserLabel) : Option SocketAddr :=
  match control, label with
  | .tcp call, .tcp label =>
      match call.stage, label with
      | .connecting _ server, .connected (some _) => some server
      | .streaming server _, label => if label.fails then some server else none
      | _, _ => none
  | .quic call, .quic (.connectFailed _) => some call.server
  | .quic call, .quic .connectTimedOut => some call.server
  | .idle, .activity (.quicWebBrowsing _ _ _) _ draw (some _) => (pool.getServer draw).1
  | _, _ => none

/-- `1` for the server in question. -/
def units (server : SocketAddr) (held : Option SocketAddr) : Nat :=
  if held = some server then 1 else 0

@[simp] theorem units_none (server : SocketAddr) : units server none = 0 := rfl

/-- What a step does with the units of a server. -/
def Balanced (server : SocketAddr) (effects : List Effect) (before after lost : Option SocketAddr) :
    Prop :=
  Effect.starts server effects + units server before =
    Effect.ends server effects + units server after + units server lost

section Steps

variable {pool : ServerPool} {stopped : Bool} {server : SocketAddr} {effects : List Effect}

theorem Balanced.of_neutral (quiet : Effect.Neutral effects) (held : Option SocketAddr) :
    Balanced server effects held held none := by
  simp [Balanced, Effect.starts_of_neutral quiet, Effect.ends_of_neutral quiet, units]

theorem afterConnection_holding (call : TcpCall) :
    (afterConnection call).control.holding = none := by
  unfold afterConnection
  split <;> rfl

theorem failed_holding (call : TcpCall) (message : String) :
    (failed call message).2.control.holding = none :=
  afterConnection_holding call

theorem completed_holding (call : TcpCall) (server : SocketAddr) :
    (completed call server).2.control.holding = none :=
  afterConnection_holding call

@[simp] theorem starts_failed (call : TcpCall) (message : String) :
    Effect.starts server (failed call message).1 = 0 := by
  unfold failed errorRecord
  split <;> simp

@[simp] theorem ends_failed (call : TcpCall) (message : String) :
    Effect.ends server (failed call message).1 = 0 := by
  unfold failed errorRecord
  split <;> simp

theorem holding_of_dialing {call : TcpCall} (dialing : call.stage.dialing = true) :
    (Control.tcp call).holding = none := by
  cases stage : call.stage <;> simp_all [TcpStage.dialing, Control.holding]

/-- Opening a connection moves no unit: none is taken before the connect. -/
theorem openConnection_balanced (activity : UserActivity) (page : Nat) (connectionId : Uuid)
    (draw : Nat) :
    Balanced server (openConnection pool activity page connectionId draw).1 none
      (openConnection pool activity page connectionId draw).2.control.holding none := by
  rcases openConnection_cases pool activity page connectionId draw with
    ⟨target, _, opened⟩ | ⟨call, message, _, opened⟩
  · simp [opened, Balanced, TcpOutcome.control, Control.holding]
  · simp [opened, Balanced, failed_holding]

theorem tcpStep_balanced {call : TcpCall} {label : TcpLabel} {outcome : TcpOutcome}
    (move : TcpMove pool call label effects outcome) :
    Balanced server effects (Control.tcp call).holding outcome.control.holding
      (failsHolding pool (.tcp call) (.tcp label)) := by
  cases move with
  | @connected attempt target stage =>
      simp [Balanced, Control.holding, TcpOutcome.control, failsHolding, stage, units]
  | @unnamed attempt target error stage =>
      rw [failed_holding]
      simp [Balanced, Control.holding, failsHolding, stage, units]
  | @retried label effects next dialing still known quiet unopened =>
      have before := holding_of_dialing dialing
      have after : (Control.tcp { call with stage := next }).holding = none :=
        holding_of_dialing (by exact still)
      have onwards : failsHolding pool (.tcp call) (.tcp label) = none := by
        cases stage : call.stage <;> cases label <;>
          simp_all [failsHolding, TcpStage.dialing, TcpLabel.connects]
      rw [before, onwards]
      simp only [TcpOutcome.control, after]
      exact Balanced.of_neutral quiet none
  | @gaveUp label effects message dialing quiet unopened =>
      have before := holding_of_dialing dialing
      have onwards : failsHolding pool (.tcp call) (.tcp label) = none := by
        cases stage : call.stage <;> cases label <;>
          simp_all [failsHolding, TcpStage.dialing, TcpLabel.connects]
      rw [before, onwards, failed_holding]
      simp [Balanced, Effect.starts_of_neutral quiet, Effect.ends_of_neutral quiet]
  | @exchanged label effects target before after stage quiet onwards =>
      have fails : failsHolding pool (.tcp call) (.tcp label) = none := by
        simp [failsHolding, stage, onwards]
      rw [fails]
      simp only [Control.holding, TcpOutcome.control, stage]
      exact Balanced.of_neutral quiet (some target)
  | @panicked label effects target exchange stage quiet onwards =>
      have fails : failsHolding pool (.tcp call) (.tcp label) = none := by
        simp [failsHolding, stage, onwards]
      rw [fails]
      simp only [Control.holding, TcpOutcome.control, stage]
      exact Balanced.of_neutral quiet (some target)
  | @broke label message target exchange stage fails =>
      have lost : failsHolding pool (.tcp call) (.tcp label) = some target := by
        simp [failsHolding, stage, fails]
      rw [lost, failed_holding]
      simp only [Control.holding, stage]
      simp [Balanced, units]
  | @completed length target stage =>
      rw [completed_holding]
      simp [Balanced, Control.holding, failsHolding, stage, units, completed, TcpLabel.fails]
  | @opened pages requests connectionId draw stage browsing =>
      have fails : failsHolding pool (.tcp call) (.tcp (.thinkOver connectionId draw)) = none := by
        simp [failsHolding, stage]
      have before : (Control.tcp call).holding = none := by
        simp [Control.holding, stage]
      rw [fails, before]
      exact openConnection_balanced _ _ _ _
  | @returned connectionId draw stage =>
      simp [Balanced, Control.holding, TcpOutcome.control, failsHolding, stage]

theorem quicStep_balanced {call : QuicCall} {label : QuicLabel} {outcome : QuicOutcome}
    (move : QuicMove call label effects outcome) :
    Balanced server effects (Control.quic call).holding outcome.control.holding
      (failsHolding pool (.quic call) (.quic label)) := by
  have onwardsLoses (onwards : label.failsConnect = false) :
      failsHolding pool (.quic call) (.quic label) = none := by
    cases label <;> simp_all [failsHolding, QuicLabel.failsConnect]
  cases move with
  | continued quiet onwards =>
      rw [onwardsLoses onwards]
      exact Balanced.of_neutral quiet (some call.server)
  | panicked quiet onwards =>
      rw [onwardsLoses onwards]
      exact Balanced.of_neutral quiet (some call.server)
  | completed onwards =>
      rw [onwardsLoses onwards]
      simp [Balanced, Control.holding, QuicOutcome.control, units]
  | unconnected quiet fails =>
      have lost : failsHolding pool (.quic call) (.quic label) = some call.server := by
        cases label <;> simp_all [failsHolding, QuicLabel.failsConnect]
      rw [lost]
      simp [Balanced, Control.holding, QuicOutcome.control, Effect.starts_of_neutral quiet,
        Effect.ends_of_neutral quiet]

theorem failsHolding_of_not_quic {activity : UserActivity} {connectionId : Uuid} {draw : Nat}
    {setupError : Option String} (kind : isQuic activity = false) :
    failsHolding pool .idle (.activity activity connectionId draw setupError) = none := by
  cases activity with
  | quicWebBrowsing pages resources concurrent => simp [isQuic] at kind
  | _ => rfl

theorem quicStart_balanced (server : SocketAddr) {activity : UserActivity} {connectionId : Uuid} {draw : Nat}
    {setupError : Option String} {outcome : QuicOutcome}
    (start : QuicStart pool activity connectionId draw setupError effects outcome) :
    Balanced server effects none outcome.control.holding
      (setupError.bind (fun _ => (pool.getServer draw).1)) := by
  cases start with
  | noServer none =>
      cases setupError <;> simp [Balanced, QuicOutcome.control, Control.holding, none]
  | setupFailed selected failed =>
      simp [Balanced, QuicOutcome.control, Control.holding, units, selected, failed]
  | connecting selected passed target registered =>
      simp [Balanced, QuicOutcome.control, Control.holding, units, passed, target]

/-- The units of a server under one step of a user. -/
theorem controlStep_balanced {control next : Control} {label : UserLabel}
    (move : ControlMove pool control label effects next) :
    Balanced server effects control.holding next.holding (failsHolding pool control label) := by
  cases move with
  | started => simp [Balanced, Control.holding, failsHolding]
  | finished => simp [Balanced, Control.holding, failsHolding]
  | tcp move => exact tcpStep_balanced move
  | quic move => exact quicStep_balanced move
  | nothing kind =>
      rw [failsHolding_of_not_quic kind]
      simp [Balanced, Control.holding]
  | opened kind =>
      rw [failsHolding_of_not_quic kind]
      exact openConnection_balanced _ _ _ _
  | @session activity connectionId draw setupError effects outcome kind start =>
      have balanced := quicStart_balanced server start
      cases activity with
      | quicWebBrowsing pages resources concurrent =>
          cases setupError <;> simpa [failsHolding, Control.holding] using balanced
      | _ => simp [isQuic] at kind

theorem not_mem_failed (call : TcpCall) (message : String) :
    .markConnectionEnd server ∉ (failed call message).1 :=
  List.count_eq_zero.mp (ends_failed call message)

theorem not_mem_neutral (quiet : Effect.Neutral effects) : .markConnectionEnd server ∉ effects :=
  List.count_eq_zero.mp (Effect.ends_of_neutral quiet server)

theorem not_mem_openConnection (activity : UserActivity) (page : Nat) (connectionId : Uuid)
    (draw : Nat) :
    .markConnectionEnd server ∉ (openConnection pool activity page connectionId draw).1 := by
  rcases openConnection_cases pool activity page connectionId draw with
    ⟨target, _, opened⟩ | ⟨call, message, _, opened⟩
  · simp [opened]
  · simp [opened, not_mem_failed]

/-- Only the holder of a connection ends it. -/
theorem holding_of_markConnectionEnd {control next : Control} {label : UserLabel}
    (move : ControlMove pool control label effects next)
    (ends : .markConnectionEnd server ∈ effects) : control.holding = some server := by
  cases move with
  | started => simp at ends
  | finished => simp at ends
  | nothing kind => simp at ends
  | opened kind => exact absurd ends (not_mem_openConnection _ _ _ _)
  | session kind start => cases start <;> simp at ends
  | quic move =>
      cases move with
      | continued quiet onwards => exact absurd ends (not_mem_neutral quiet)
      | panicked quiet onwards => exact absurd ends (not_mem_neutral quiet)
      | unconnected quiet fails => exact absurd ends (not_mem_neutral quiet)
      | completed onwards =>
          simp only [List.mem_cons, Effect.markConnectionEnd.injEq, reduceCtorEq, List.not_mem_nil,
            or_false] at ends
          simp [Control.holding, ends]
  | tcp move =>
      cases move with
      | connected stage => simp at ends
      | unnamed stage => simp [not_mem_failed] at ends
      | retried dialing still known quiet unopened => exact absurd ends (not_mem_neutral quiet)
      | gaveUp dialing quiet unopened =>
          rcases List.mem_append.mp ends with early | late
          · exact absurd early (not_mem_neutral quiet)
          · exact absurd late (not_mem_failed _ _)
      | exchanged stage quiet onwards => exact absurd ends (not_mem_neutral quiet)
      | panicked stage quiet onwards => exact absurd ends (not_mem_neutral quiet)
      | broke stage fails => exact absurd ends (not_mem_failed _ _)
      | completed stage =>
          simp only [completed, List.mem_cons, Effect.markConnectionEnd.injEq, reduceCtorEq,
            List.not_mem_nil, or_false] at ends
          simp [Control.holding, stage, ends]
      | opened stage browsing => exact absurd ends (not_mem_openConnection _ _ _ _)
      | returned stage => simp at ends

end Steps

/-! ## Units over a run -/

/-- The server that a step of the client loses a unit of. -/
def lostUnit (state : ClientState) : ClientLabel → Option SocketAddr
  | .user index label =>
      (state.users[index]?).bind (fun user => failsHolding state.shared.pool user.control label)
  | _ => none

/-- The activities that have called `mark_connection_start` for a server and
have not returned. -/
def liveConnections (state : ClientState) (server : SocketAddr) : Nat :=
  state.users.countP (fun user => user.control.holding = some server)

def connectionLedger (server : SocketAddr) : Machine.LeaseLedger clientMachine where
  taken state label := Effect.starts server (effectsOf state label)
  returned state label := Effect.ends server (effectsOf state label)
  lost state label := units server (lostUnit state label)
  held state := liveConnections state server
  balance := by
    intro state label next taken
    have move := move_of_clientStep taken
    generalize effectsOf state label = effects at move
    cases move with
    | @user index user next label effects present move =>
        have moved := countP_set_add (fun user : User => user.control.holding = some server)
          present next
        have lost : lostUnit state (.user index label) =
            failsHolding state.shared.pool user.control label := by
          simp [lostUnit, present]
        have unitsOf (user : User) :
            (decide (user.control.holding = some server)).toNat = units server user.control.holding := by
          by_cases held : user.control.holding = some server <;> simp [units, held]
        have balanced : Balanced server effects user.control.holding next.control.holding
            (failsHolding state.shared.pool user.control label) := by
          cases move with
          | stopped => cases control : user.control <;> simp [Balanced, failsHolding]
          | moved own fresh => exact controlStep_balanced own
        simp only [Balanced] at balanced
        simp only [unitsOf] at moved
        simp only [liveConnections, lost]
        omega
    | environment users metrics addresses counters idle =>
        have lost : lostUnit state label = none := by
          cases label with
          | user index own => exact absurd rfl (idle index own)
          | _ => rfl
        simp [liveConnections, users, lost]

/-! ## Servers that users know -/

/-- The server an activity connects to or is connected to. -/
def Control.server : Control → Option SocketAddr
  | .tcp call => call.stage.server
  | .quic call => some call.server
  | .panicked server _ => some server
  | _ => none

section Known

variable {pool : ServerPool} {stopped : Bool} {effects : List Effect}

/-- A server that is new to an activity comes from the pool. -/
def Learns (pool : ServerPool) (before after : Option SocketAddr) : Prop :=
  ∀ server, after = some server → server ∈ pool.addresses ∨ before = some server

theorem Learns.nothing (before : Option SocketAddr) : Learns pool before none := by
  simp [Learns]

theorem afterConnection_server (call : TcpCall) : (afterConnection call).control.server = none := by
  unfold afterConnection
  split <;> rfl

theorem openConnection_learns (activity : UserActivity) (page : Nat) (connectionId : Uuid)
    (draw : Nat) (before : Option SocketAddr) :
    Learns pool before (openConnection pool activity page connectionId draw).2.control.server := by
  rcases openConnection_cases pool activity page connectionId draw with
    ⟨target, known, opened⟩ | ⟨call, message, _, opened⟩
  · intro server selected
    obtain rfl : target = server := by
      simpa [opened, TcpOutcome.control, Control.server, TcpStage.server] using selected
    exact Or.inl known
  · rw [opened, show (failed call message).2.control.server = none from afterConnection_server call]
    exact Learns.nothing before

theorem tcpStep_learns {call : TcpCall} {label : TcpLabel} {outcome : TcpOutcome}
    (move : TcpMove pool call label effects outcome) :
    Learns pool (Control.tcp call).server outcome.control.server := by
  cases move with
  | connected stage =>
      intro server same
      exact Or.inr (by simpa [Control.server, stage, TcpOutcome.control, TcpStage.server] using same)
  | retried dialing still known quiet unopened =>
      intro server selected
      exact Or.inl (known server selected)
  | exchanged stage quiet onwards =>
      intro server same
      exact Or.inr (by simpa [Control.server, stage, TcpOutcome.control, TcpStage.server] using same)
  | panicked stage quiet onwards =>
      intro server same
      exact Or.inr (by simpa [Control.server, stage, TcpOutcome.control, TcpStage.server] using same)
  | opened stage browsing => exact openConnection_learns _ _ _ _ _
  | returned stage => exact Learns.nothing _
  | unnamed stage =>
      rw [show (failed call _).2.control.server = none from afterConnection_server call]
      exact Learns.nothing _
  | gaveUp dialing quiet unopened =>
      rw [show (failed call _).2.control.server = none from afterConnection_server call]
      exact Learns.nothing _
  | broke stage fails =>
      rw [show (failed call _).2.control.server = none from afterConnection_server call]
      exact Learns.nothing _
  | completed stage =>
      rw [show (completed call _).2.control.server = none from afterConnection_server call]
      exact Learns.nothing _

theorem controlStep_learns {control next : Control} {label : UserLabel}
    (move : ControlMove pool control label effects next) :
    Learns pool control.server next.server := by
  cases move with
  | started => exact Learns.nothing _
  | finished => exact Learns.nothing _
  | nothing kind => exact Learns.nothing _
  | tcp move => exact tcpStep_learns move
  | opened kind => exact openConnection_learns _ _ _ _ _
  | quic move =>
      cases move with
      | continued quiet onwards => exact fun _ same => Or.inr same
      | panicked quiet onwards => exact fun _ same => Or.inr same
      | completed onwards => exact Learns.nothing _
      | unconnected quiet fails => exact Learns.nothing _
  | session kind start =>
      cases start with
      | noServer none => exact Learns.nothing _
      | setupFailed selected failed => exact Learns.nothing _
      | connecting selected passed target registered =>
          intro server same
          refine Or.inl (ServerPool.getServer_mem_addresses (selected.trans ?_))
          rw [← target]
          exact same

end Known

/-- A lost unit is of a server that the activity, or the pool, gave. -/
theorem server_of_failsHolding {pool : ServerPool} {control : Control} {label : UserLabel}
    {server : SocketAddr} (fails : failsHolding pool control label = some server) :
    control.server = some server ∨ server ∈ pool.addresses := by
  unfold failsHolding at fails
  split at fails
  · split at fails
    · rename_i stage
      exact Or.inl (by simpa [Control.server, stage, TcpStage.server] using fails)
    · rename_i stage
      split at fails
      · exact Or.inl (by simpa [Control.server, stage, TcpStage.server] using fails)
      · simp at fails
    · simp at fails
  · exact Or.inl fails
  · exact Or.inl fails
  · exact Or.inr (ServerPool.getServer_mem_addresses fails)
  · simp at fails

/-! ## The counters -/

/-- The counters of the pool show the live connections. -/
def Accurate (state : ClientState) : Prop :=
  ∀ server ∈ state.shared.pool.servers.records,
    server.activeConnections.toNat = liveConnections state server.address

section Run

variable {addresses : List SocketAddr} {order : IterationOrder addresses}
  {config : LoadBalancerConfig} {concurrentUsers : UInt32}
  {trace : List (ClientState × ClientLabel)} {state : ClientState}

theorem addresses_of_run
    (run : clientMachine.Run (startClient addresses order config concurrentUsers) trace state) :
    state.shared.pool.addresses = order.keys := by
  refine run.invariant (fun state => state.shared.pool.addresses = order.keys)
    (ServerPool.addresses_new addresses order config) ?_
  intro state label next same taken
  have move := move_of_clientStep taken
  generalize effectsOf state label = effects at move
  cases move with
  | user present move => simpa using same
  | environment users metrics addresses counters idle => rw [addresses, same]

/-- Every server a user deals with is one of the pool. -/
theorem known_of_run
    (run : clientMachine.Run (startClient addresses order config concurrentUsers) trace state) :
    ∀ (index : Nat) user, state.users[index]? = some user →
      ∀ server, user.control.server = some server → server ∈ order.keys := by
  refine run.history (fun _ state => ∀ (index : Nat) user, state.users[index]? = some user →
    ∀ server, user.control.server = some server → server ∈ order.keys) ?_ ?_
  · intro index user present server selected
    obtain ⟨_, rfl⟩ : index < concurrentUsers.toNat ∧ user = {} := by
      simpa [startClient, List.getElem?_replicate, eq_comm] using present
    simp [Control.server] at selected
  · intro trace state label next before known taken
    have move := move_of_clientStep taken
    generalize effectsOf state label = effects at move
    cases move with
    | @user index user next label effects present move =>
        refine forall_getElem?_set (fun position other _ found => known position other found) ?_
        cases move with
        | stopped => exact known index user present
        | moved own fresh =>
            intro server selected
            rcases controlStep_learns own server selected with inPool | earlier
            · rwa [addresses_of_run before] at inPool
            · exact known index user present server earlier
    | environment users metrics addresses counters idle =>
        rw [users]
        exact known

/-- A counter shows the live connections and the lost ones, modulo its width. -/
theorem activeConnections_of_run
    (run : clientMachine.Run (startClient addresses order config concurrentUsers) trace state)
    {server : SocketAddr} (known : server ∈ order.keys) :
    (state.shared.pool.activeConnections server).toNat =
      (liveConnections state server +
        Machine.tally (connectionLedger server).lost trace) % 2 ^ 32 := by
  have idle : liveConnections (startClient addresses order config concurrentUsers) server = 0 := by
    simp [liveConnections, startClient, List.countP_replicate, Control.holding]
  have fresh : ((startClient addresses order config
      concurrentUsers).shared.pool.activeConnections server).toNat = 0 :=
    congrArg UInt32.toNat (ServerPool.activeConnections_new addresses order config server)
  have counted := (connectionLedger server).counter_run run idle
    (fun state => (state.shared.pool.activeConnections server).toNat) (2 ^ 32) fresh ?_
  · show _ = ((connectionLedger server).held state + _) % _
    rw [← counted]
    exact (Nat.mod_eq_of_lt (UInt32.toNat_lt _)).symm
  · intro before state label next earlier taken
    have move := move_of_clientStep taken
    show (_ + Effect.ends server (effectsOf state label)) % _ =
      (_ + Effect.starts server (effectsOf state label)) % _
    generalize effectsOf state label = effects at move
    cases move with
    | user present move =>
        exact Effect.activeConnections_applyAll_mod _ _
          (by rwa [addresses_of_run earlier]) _
    | environment users metrics addresses counters idle => simp [counters]

theorem liveConnections_le
    (run : clientMachine.Run (startClient addresses order config concurrentUsers) trace state)
    (server : SocketAddr) : liveConnections state server < 2 ^ 32 := by
  have bound : liveConnections state server ≤ state.users.length := List.countP_le_length
  rw [users_length_of_run run] at bound
  exact lt_of_le_of_lt bound (UInt32.toNat_lt concurrentUsers)

/-- As long as no unit is lost, the counters are accurate. -/
theorem accurate_of_nothing_lost
    (run : clientMachine.Run (startClient addresses order config concurrentUsers) trace state)
    (kept : ∀ entry ∈ trace, lostUnit entry.1 entry.2 = none) : Accurate state := by
  intro server member
  have known : server.address ∈ order.keys := by
    rw [← addresses_of_run run]
    exact List.mem_map_of_mem member
  have nothing : Machine.tally (connectionLedger server.address).lost trace = 0 := by
    rw [Machine.tally_eq_zero_iff]
    intro entry taken
    show units server.address (lostUnit entry.1 entry.2) = 0
    rw [kept entry taken, units_none]
  have counted := activeConnections_of_run run known
  rw [nothing, Nat.add_zero, Nat.mod_eq_of_lt (liveConnections_le run _),
    ServerPool.activeConnections_of_mem member] at counted
  exact counted

/-- The server of a lost unit is one of the pool. -/
theorem lostUnit_known
    (run : clientMachine.Run (startClient addresses order config concurrentUsers) trace state)
    {label : ClientLabel} {server : SocketAddr} (lost : lostUnit state label = some server) :
    server ∈ order.keys := by
  cases label with
  | user index label =>
      obtain ⟨user, present, fails⟩ := Option.bind_eq_some_iff.mp lost
      rcases server_of_failsHolding fails with held | inPool
      · exact known_of_run run index user present server held
      · rwa [addresses_of_run run] at inPool
  | _ => simp [lostUnit] at lost

/-- The counters are accurate in every state that a run passes. -/
def AccurateThroughout (trace : List (ClientState × ClientLabel)) (last : ClientState) : Prop :=
  (∀ entry ∈ trace, Accurate entry.1) ∧ Accurate last

/-- A unit that is lost leaves a wrong counter behind. -/
theorem nothing_lost_of_accurate
    (run : clientMachine.Run (startClient addresses order config concurrentUsers) trace state)
    (accurate : AccurateThroughout trace state) :
    ∀ entry ∈ trace, lostUnit entry.1 entry.2 = none := by
  refine run.history (fun trace state => AccurateThroughout trace state →
    ∀ entry ∈ trace, lostUnit entry.1 entry.2 = none) (by simp) ?_ accurate
  intro trace state label next before inductionHypothesis taken accurate
  have passed := accurate.1
  have earlier : ∀ entry ∈ trace, lostUnit entry.1 entry.2 = none :=
    inductionHypothesis ⟨fun entry member => passed entry (List.mem_append_left _ member),
      passed (state, label) (by simp)⟩
  intro entry member
  rcases List.mem_append.mp member with inTrace | last
  · exact earlier entry inTrace
  · obtain rfl := List.mem_singleton.mp last
    cases lost : lostUnit state label with
    | none => rfl
    | some server =>
        have known := lostUnit_known before lost
        have after := Machine.Run.snoc before taken
        have counted := activeConnections_of_run after known
        have bound := liveConnections_le after server
        have one : Machine.tally (connectionLedger server).lost (trace ++ [(state, label)]) = 1 := by
          have nothing : Machine.tally (connectionLedger server).lost trace = 0 := by
            rw [Machine.tally_eq_zero_iff]
            intro entry taken
            show units server (lostUnit entry.1 entry.2) = 0
            rw [earlier entry taken, units_none]
          rw [Machine.tally_snoc, nothing]
          show 0 + units server (lostUnit state label) = 1
          simp [lost, units]
        rw [← addresses_of_run after] at known
        obtain ⟨record, present, rfl⟩ := List.mem_map.mp known
        have exact := accurate.2 record present
        rw [one, ServerPool.activeConnections_of_mem present, exact] at counted
        omega

end Run

/-! ## The law of the counters -/

/-- In every state the counters show the live connections; so they are zero when
every activity has returned, and no decrement meets a zero. -/
structure CountsConnections (trace : List (ClientState × ClientLabel)) (last : ClientState) :
    Prop where
  accurate : AccurateThroughout trace last
  settled : ∀ state, (state = last ∨ ∃ label, (state, label) ∈ trace) →
    (∀ user ∈ state.users, user.control.resting = true) →
      ∀ server ∈ state.shared.pool.servers.records, server.activeConnections = 0
  neverWraps : ∀ entry ∈ trace, ∀ server ∈ entry.1.shared.pool.servers.records,
    .markConnectionEnd server.address ∈ effectsOf entry.1 entry.2 → server.activeConnections ≠ 0

/-- A connection that is ended in a step is live before it. -/
theorem live_of_markConnectionEnd {state next : ClientState} {label : ClientLabel}
    {server : SocketAddr} (taken : clientMachine.step state label = some next)
    (ends : .markConnectionEnd server ∈ effectsOf state label) :
    0 < liveConnections state server := by
  have move := move_of_clientStep taken
  generalize effectsOf state label = effects at move ends
  cases move with
  | @user index user next label effects present move =>
      cases move with
      | stopped => simp at ends
      | moved own fresh =>
          refine List.countP_pos_iff.mpr ⟨user, List.mem_of_getElem? present, ?_⟩
          simp [holding_of_markConnectionEnd own ends]
  | environment users metrics addresses counters idle => simp at ends

theorem holding_of_resting {control : Control} (resting : control.resting = true) :
    control.holding = none := by
  cases control <;> simp_all [Control.resting, Control.holding]

/-- The counters of a run are right exactly when none of its steps fails an
activity between `mark_connection_start` and `mark_connection_end`. -/
theorem active_connections_count_iff {addresses : List SocketAddr}
    (order : IterationOrder addresses) (config : LoadBalancerConfig) (concurrentUsers : UInt32)
    {trace : List (ClientState × ClientLabel)} {last : ClientState}
    (run : clientMachine.Run (startClient addresses order config concurrentUsers) trace last) :
    CountsConnections trace last ↔ ∀ entry ∈ trace, lostUnit entry.1 entry.2 = none := by
  constructor
  · intro counts
    exact nothing_lost_of_accurate run counts.accurate
  · intro kept
    have passed : ∀ entry ∈ trace, Accurate entry.1 := by
      intro entry member
      obtain ⟨before, earlier, reached⟩ := run.before member
      exact accurate_of_nothing_lost reached (fun entry taken => kept entry (earlier taken))
    have final := accurate_of_nothing_lost run kept
    refine ⟨⟨passed, final⟩, ?_, ?_⟩
    · intro state visited resting server member
      have accurate : Accurate state := by
        rcases visited with rfl | ⟨label, taken⟩
        · exact final
        · exact passed (state, label) taken
      have none : liveConnections state server.address = 0 := by
        refine List.countP_eq_zero.mpr (fun user present => ?_)
        simp [holding_of_resting (resting user present)]
      have zero := accurate server member
      rw [none] at zero
      exact UInt32.toNat_inj.mp zero
    · intro entry member server present ends zero
      obtain ⟨_, _, _, taken⟩ := run.mem_step member
      have live := live_of_markConnectionEnd taken ends
      have accurate := passed entry member server present
      rw [zero] at accurate
      exact absurd accurate.symm live.ne'

/-! ## One download -/

/-- A download of one byte, up to its open stream. -/
def downloadOpens : List ClientLabel :=
  [.user 0 .start, .user 0 (.activity (.fileDownload 1 (1024, 32768)) ⟨1⟩ 0 none),
    .user 0 (.tcp (.connected none)), .user 0 (.tcp (.sent 90))]

def downloadCompletes : List ClientLabel :=
  downloadOpens ++ [.user 0 (.tcp (.received 83 1 5 0)), .user 0 (.tcp (.sent 82)),
    .user 0 .finish]

theorem active_connections_count_iff_download :
    ∃ last, clientMachine.play oneUser downloadCompletes = some last ∧
      CountsConnections (clientMachine.trace oneUser downloadCompletes) last := by
  obtain ⟨last, played⟩ := Option.isSome_iff_exists.mp
    (show (clientMachine.play oneUser downloadCompletes).isSome = true by decide +kernel)
  refine ⟨last, played, ?_⟩
  exact (active_connections_count_iff _ _ _ (Machine.run_of_play played)).mpr (by decide +kernel)

/-- The server closes the connection instead of answering. -/
def downloadFails : List ClientLabel :=
  downloadOpens ++ [.user 0 (.tcp (.receiveFailed "early eof")), .user 0 .finish]

/-- Every activity has returned, and the counter of the server stays at one. -/
theorem failed_download_keeps_its_unit :
    ∃ last, clientMachine.play oneUser downloadFails = some last ∧
      last.users = [{ control := .finished }] ∧
      last.shared.pool.activeConnections localServer = 1 ∧
      ¬ CountsConnections (clientMachine.trace oneUser downloadFails) last := by
  obtain ⟨last, played, facts⟩ := Option.map_eq_some_iff.mp (show
    (clientMachine.play oneUser downloadFails).map
        (fun last => (last.users, last.shared.pool.servers.records.map
          (fun record => (record.address, record.activeConnections)))) =
      some ([{ control := .finished }], [(localServer, 1)]) by decide +kernel)
  obtain ⟨users, records⟩ := Prod.mk.injEq _ _ _ _ ▸ facts
  obtain ⟨record, single, same⟩ := List.map_eq_singleton_iff.mp records
  obtain ⟨address, active⟩ := Prod.mk.injEq _ _ _ _ ▸ same
  have member : record ∈ last.shared.pool.servers.records := by simp [single]
  refine ⟨last, played, users, ?_, ?_⟩
  · rw [← address, ServerPool.activeConnections_of_mem member, active]
  · intro counts
    have zero := counts.settled last (Or.inl rfl) (by simp [users, Control.resting]) record member
    rw [active] at zero
    exact absurd zero (by decide)

end Npt.Client
