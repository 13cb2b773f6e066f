import Npt.Client.ActiveUsers

/-!
Contract: the sessions of the simulated users (`simulate_user_behavior`,
`choose_random_activity` and `generate_think_time` in `client/src/simulator.rs`).

A user draws the length of its session, and thinks before each activity; a timer
sets its stop flag when the session is over. The sessions refine the user tasks
of the client machine, in which an activity may begin at any time.

Owns: the configuration that users read, the drawn activities, the machine of
sessions over the client, that every run of it is a run of the client, that no
user panics on an ordered configuration, and how many activities a session has
room for.

Does not own: what an activity does. Times are in milliseconds; weights are
exact.
-/

namespace Npt.Client

open Npt.Core
open Npt.Shared

/-! ## The configuration -/

/-- `quic_browsing` is the weight that remains, and is not read. -/
structure ActivityWeights where
  webBrowsing : Rat := 95 / 100
  fileDownload : Rat := 0
  fileUpload : Rat := 0

/-- What of `TestConfig` the users read. -/
structure TestConfig where
  /-- In seconds. -/
  duration : Nat := 300
  concurrentUsers : UInt32 := 100
  thinkTimeRange : Nat × Nat := (100, 10000)
  activityWeights : ActivityWeights := {}
  requestSizeRange : UInt32 × UInt32 := (1024, 32768)

/-- `gen_range(low..=high)` for a range that is not empty. -/
def drawInRange (low high draw : Nat) : Nat := low + draw % (high - low + 1)

theorem le_drawInRange (low high draw : Nat) : low ≤ drawInRange low high draw :=
  Nat.le_add_right _ _

theorem drawInRange_le {low high : Nat} (ordered : low ≤ high) (draw : Nat) :
    drawInRange low high draw ≤ high := by
  have small := Nat.mod_lt draw (show 0 < high - low + 1 by omega)
  unfold drawInRange
  omega

namespace TestConfig

variable (config : TestConfig)

/-- The drawn length of a session. -/
def sessionDuration (draw : Nat) : Nat :=
  drawInRange (config.duration / 2) config.duration draw * 1000

/-- `generate_think_time`, which panics on an empty range. -/
def generateThinkTime (draw : Nat) : Option Nat :=
  if config.thinkTimeRange.1 ≤ config.thinkTimeRange.2 then
    some (drawInRange config.thinkTimeRange.1 config.thinkTimeRange.2 draw)
  else none

end TestConfig

/-- What `choose_random_activity` draws. -/
structure ActivityDraw where
  randomWeight : Rat
  pages : Nat
  low : Nat
  high : Nat
  fileSize : Nat
  concurrent : Nat

def chooseRandomActivity (config : TestConfig) (draw : ActivityDraw) : UserActivity :=
  let weights := config.activityWeights
  let webThreshold := weights.webBrowsing
  let downloadThreshold := webThreshold + weights.fileDownload
  let uploadThreshold := downloadThreshold + weights.fileUpload
  let pages := UInt32.ofNat (drawInRange 1 5 draw.pages)
  let range := (UInt32.ofNat (drawInRange 2 5 draw.low), UInt32.ofNat (drawInRange 5 10 draw.high))
  let fileSize := UInt64.ofNat (drawInRange 1024 (1 * 1024 * 1024) draw.fileSize)
  if draw.randomWeight < webThreshold then .webBrowsing pages range
  else if draw.randomWeight < downloadThreshold then .fileDownload fileSize config.requestSizeRange
  else if draw.randomWeight < uploadThreshold then .fileUpload fileSize config.requestSizeRange
  else .quicWebBrowsing pages range (UInt32.ofNat (drawInRange 1 4 draw.concurrent))

/-! ## Sessions -/

/-- Where a session is between `increment_active_users` and its end. -/
inductive Phase where
  /-- At the loop test. -/
  | looping
  /-- In `sleep(think_time)`, to be woken at a time. -/
  | thinking (thinkTime wakes : Nat)
  | acting
  | left
  | crashed
deriving DecidableEq, Repr

structure UserSession where
  startTime : Nat
  duration : Nat
  phase : Phase := .looping
deriving DecidableEq, Repr

/-- The client, and the session of each user that has begun one. -/
structure Simulation where
  client : ClientState
  sessions : List (Option UserSession)

inductive SimulationLabel where
  | begin (index draw : Nat)
  | think (index draw : Nat)
  /-- The think time is over; an activity is chosen or the loop left. -/
  | wake (index : Nat) (draw : ActivityDraw) (connectionId : Uuid) (serverDraw : Nat)
      (setupError : Option String)
  /-- The loop test fails. -/
  | leave (index : Nat)
  /-- The timer of the session sets the stop flag. -/
  | timer (index : Nat)
  /-- A step of the activity under way. -/
  | tcp (index : Nat) (label : TcpLabel)
  | quic (index : Nat) (label : QuicLabel)
  /-- The health checker and the clock. -/
  | healthRound
  | checked (index : Nat) (ok : Bool)
  | elapse (ms : Nat)

/-- The clock moves, or the user of one session takes a step of its own. -/
def SimulationLabel.ofSession (index : Nat) : SimulationLabel → Bool
  | .elapse _ => true
  | .begin user _ | .think user _ | .wake user _ _ _ _ | .leave user | .timer user | .tcp user _
  | .quic user _ => decide (user = index)
  | .healthRound | .checked _ _ => false

/-- Where an activity has left its session. -/
def phaseOf : Control → Phase
  | .tcp _ | .quic _ => .acting
  | .panicked _ _ => .crashed
  | .waiting | .idle | .finished => .looping

namespace Simulation

variable (simulation : Simulation) (index : Nat)

/-- The session of a user that has begun one. -/
def session? : Option UserSession := (simulation.sessions[index]?).bind id

def setSession (client : ClientState) (session : UserSession) : Simulation where
  client := client
  sessions := simulation.sessions.set index (some session)

/-- A step of a user's task within its session. -/
def own (session : UserSession) (label : UserLabel) (phase : Option Phase) : Option Simulation :=
  (clientStep simulation.client (.user index label)).bind (fun client =>
    (client.users[index]?).map (fun user =>
      simulation.setSession index client
        { session with phase := phase.getD (phaseOf user.control) }))

/-- The stop flag of a user. -/
def stopped : Bool := ((simulation.client.users[index]?).map User.stopped).getD false

end Simulation

open Simulation in
def simulationStep (config : TestConfig) (simulation : Simulation) :
    SimulationLabel → Option Simulation
  | .begin index draw =>
      match simulation.sessions[index]? with
      | some none =>
          simulation.own index
            { startTime := simulation.client.now, duration := config.sessionDuration draw } .start
            (some .looping)
      | _ => none
  | .think index draw =>
      (simulation.session? index).bind (fun session =>
        if session.phase = .looping ∧ simulation.client.now - session.startTime < session.duration
        then
          match config.generateThinkTime draw with
          | some thinkTime =>
              some (simulation.setSession index simulation.client
                { session with phase := .thinking thinkTime (simulation.client.now + thinkTime) })
          | none =>
              some (simulation.setSession index simulation.client { session with phase := .crashed })
        else none)
  | .wake index draw connectionId serverDraw setupError =>
      (simulation.session? index).bind (fun session =>
        match session.phase with
        | .thinking thinkTime wakes =>
            if simulation.client.now < wakes then none
            else if session.duration < thinkTime + (simulation.client.now - session.startTime) ∨
                simulation.stopped index = true then
              simulation.own index session .finish (some .left)
            else
              simulation.own index session (.activity (chooseRandomActivity config draw)
                connectionId serverDraw setupError) none
        | _ => none)
  | .leave index =>
      (simulation.session? index).bind (fun session =>
        if session.phase = .looping ∧
            ¬simulation.client.now - session.startTime < session.duration then
          simulation.own index session .finish (some .left)
        else none)
  | .timer index =>
      (simulation.session? index).bind (fun session =>
        if session.phase ≠ .left ∧ session.startTime + session.duration ≤ simulation.client.now then
          simulation.own index session .stop (some session.phase)
        else none)
  | .tcp index label =>
      (simulation.session? index).bind (fun session =>
        if session.phase = .acting then simulation.own index session (.tcp label) none else none)
  | .quic index label =>
      (simulation.session? index).bind (fun session =>
        if session.phase = .acting then simulation.own index session (.quic label) none else none)
  | .healthRound =>
      (clientStep simulation.client .healthRound).map (⟨·, simulation.sessions⟩)
  | .checked index ok =>
      (clientStep simulation.client (.checked index ok)).map (⟨·, simulation.sessions⟩)
  | .elapse ms => (clientStep simulation.client (.elapse ms)).map (⟨·, simulation.sessions⟩)

/-- `run_simulation`. -/
def simulationMachine (config : TestConfig) : Machine Simulation SimulationLabel :=
  ⟨simulationStep config⟩

/-- The tasks are spawned. The semaphore has a permit for each of them. -/
def startSimulation (config : TestConfig) (addresses : List SocketAddr)
    (order : IterationOrder addresses) (loadBalancer : LoadBalancerConfig) : Simulation where
  client := startClient addresses order loadBalancer config.concurrentUsers
  sessions := List.replicate config.concurrentUsers.toNat none

/-! ## Drawn activities never draw from an empty range -/

/-- No range that the activity draws from is empty. -/
def Ordered : UserActivity → Prop
  | .webBrowsing _ range | .fileUpload _ range | .quicWebBrowsing _ range _ => range.1 ≤ range.2
  | .fileDownload _ _ => True

/-- The activity under way draws from no empty range, and the task has not panicked. -/
def Steady : Control → Prop
  | .tcp call => Ordered call.activity
  | .quic call => call.resourcesPerPage.1 ≤ call.resourcesPerPage.2
  | .panicked _ _ => False
  | .waiting | .idle | .finished => True

theorem ordered_chooseRandomActivity {config : TestConfig}
    (ordered : config.requestSizeRange.1 ≤ config.requestSizeRange.2) (draw : ActivityDraw) :
    Ordered (chooseRandomActivity config draw) := by
  have few := drawInRange_le (show 2 ≤ 5 by decide) draw.low
  have many := drawInRange_le (show 5 ≤ 10 by decide) draw.high
  have least := le_drawInRange 5 10 draw.high
  have range : UInt32.ofNat (drawInRange 2 5 draw.low) ≤ UInt32.ofNat (drawInRange 5 10 draw.high) := by
    rw [UInt32.le_iff_toNat_le, UInt32.toNat_ofNat', UInt32.toNat_ofNat',
      Nat.mod_eq_of_lt (by omega), Nat.mod_eq_of_lt (by omega)]
    omega
  unfold chooseRandomActivity
  dsimp only
  split
  · exact range
  · split
    · trivial
    · split
      · exact ordered
      · exact range

section Steady

variable {pool : ServerPool} {stopped : Bool} {effects : List Effect}

theorem isSome_genRange {range : UInt32 × UInt32} (ordered : range.1 ≤ range.2) (draw : Nat) :
    ∃ size, genRange range draw = some size := by
  rw [genRange, if_pos ordered]
  exact ⟨_, rfl⟩

theorem steady_afterConnection {call : TcpCall} (ordered : Ordered call.activity) :
    Steady (afterConnection call).control := by
  unfold afterConnection
  split
  · exact ordered
  · trivial

theorem steady_tryServer {call : TcpCall} (ordered : Ordered call.activity) (attempt draw : Nat) :
    Steady (tryServer pool call attempt draw).2.control := by
  unfold tryServer
  split
  · exact ordered
  · exact steady_afterConnection ordered

theorem steady_openConnection {activity : UserActivity} (ordered : Ordered activity) (page : Nat)
    (connectionId : Uuid) (draw : Nat) :
    Steady (openConnection pool activity page connectionId draw).2.control :=
  @steady_tryServer pool ⟨activity, page, connectionId, .thinking⟩ ordered 0 draw

theorem exists_nextUpload {size bytesSent sequence : UInt64} {range : UInt32 × UInt32}
    (ordered : range.1 ≤ range.2) (draw : Nat) :
    ∃ exchange, nextUpload size bytesSent sequence range draw = some exchange := by
  obtain ⟨drawn, here⟩ := isSome_genRange ordered draw
  unfold nextUpload
  split
  · exact ⟨_, by rw [here]; rfl⟩
  · exact ⟨_, rfl⟩

/-- A response always leads to a next wait. -/
theorem exists_afterReceive {id : Uuid} {activity : UserActivity} (ordered : Ordered activity)
    {length payload latency draw : Nat} {exchange : Exchange} {result : List Effect × Option Exchange}
    (received : afterReceive id activity stopped length payload latency draw exchange =
      some result) : ∃ next, result.2 = some next := by
  have requests : (requestsPerPage activity).1 ≤ (requestsPerPage activity).2 := by
    cases activity with
    | webBrowsing pages range => exact ordered
    | _ => exact UInt32.le_refl 0
  have chunks : (chunkSize activity).1 ≤ (chunkSize activity).2 := by
    cases activity with
    | fileUpload size range => exact ordered
    | _ => exact UInt32.le_refl 0
  cases exchange with
  | receiveHandshake =>
      obtain rfl := Option.some.inj received
      obtain ⟨drawn, here⟩ := isSome_genRange requests draw
      exact ⟨_, by rw [here]; rfl⟩
  | receiveUploadAck =>
      obtain rfl := Option.some.inj received
      exact exists_nextUpload chunks draw
  | receiveChunkAck bytesSent sequence size =>
      obtain rfl := Option.some.inj received
      dsimp only
      split
      · exact ⟨_, rfl⟩
      · exact exists_nextUpload chunks draw
  | receiveResponse left | receiveChunk bytesReceived chunkCount =>
      obtain rfl := Option.some.inj received
      exact ⟨_, rfl⟩
  | _ => simp [afterReceive] at received

theorem steady_streamStep {call : TcpCall} (ordered : Ordered call.activity) {server : SocketAddr}
    {exchange : Exchange} {label : TcpLabel} {outcome : TcpOutcome}
    (taken : streamStep stopped call server exchange label = some (effects, outcome)) :
    Steady outcome.control := by
  cases label with
  | sent length =>
      simp only [streamStep] at taken
      split at taken
      · obtain ⟨-, rfl⟩ := Prod.mk.inj (Option.some.inj taken)
        exact steady_afterConnection ordered
      · obtain ⟨next, sent, same⟩ := Option.map_eq_some_iff.mp taken
        obtain ⟨-, rfl⟩ := Prod.mk.inj same
        exact ordered
  | received length payload latency draw =>
      simp only [streamStep] at taken
      split at taken
      · obtain ⟨next, received, same⟩ := Option.map_eq_some_iff.mp taken
        obtain ⟨-, rfl⟩ := Prod.mk.inj same
        obtain ⟨after, onwards⟩ := exists_afterReceive ordered received
        rw [onwards]
        exact ordered
      · simp at taken
  | pauseOver =>
      simp only [streamStep] at taken
      split at taken
      · obtain ⟨-, rfl⟩ := Prod.mk.inj (Option.some.inj taken)
        exact ordered
      · simp at taken
  | sendFailed error | receiveFailed error | oversized length =>
      simp only [streamStep] at taken
      split at taken
      · obtain ⟨-, rfl⟩ := Prod.mk.inj (Option.some.inj taken)
        exact steady_afterConnection ordered
      · simp at taken
  | _ => simp [streamStep] at taken

theorem steady_tcpStep {call : TcpCall} (ordered : Ordered call.activity) {label : TcpLabel}
    {outcome : TcpOutcome} (taken : tcpStep pool stopped call label = some (effects, outcome)) :
    Steady outcome.control := by
  unfold tcpStep at taken
  split at taken
  · obtain ⟨-, rfl⟩ := Prod.mk.inj (Option.some.inj taken)
    exact ordered
  · obtain ⟨-, rfl⟩ := Prod.mk.inj (Option.some.inj taken)
    exact steady_afterConnection ordered
  · split at taken
    · obtain ⟨-, rfl⟩ := Prod.mk.inj (Option.some.inj taken)
      exact ordered
    · obtain ⟨-, rfl⟩ := Prod.mk.inj (Option.some.inj taken)
      exact steady_afterConnection ordered
  · obtain ⟨-, rfl⟩ := Prod.mk.inj (Option.some.inj taken)
    exact steady_tryServer ordered _ _
  · exact steady_streamStep ordered taken
  · split at taken
    · split at taken
      · obtain ⟨-, rfl⟩ := Prod.mk.inj (Option.some.inj taken)
        exact steady_openConnection ordered _ _ _
      · obtain ⟨-, rfl⟩ := Prod.mk.inj (Option.some.inj taken)
        trivial
    · simp at taken
  · simp at taken

theorem steady_nextPage {call : QuicCall}
    (ordered : call.resourcesPerPage.1 ≤ call.resourcesPerPage.2) (page draw : Nat) :
    Steady (nextPage call page draw).2.control := by
  obtain ⟨resources, drawn⟩ := isSome_genRange ordered draw
  unfold nextPage
  split
  · rw [drawn]
    exact ordered
  · trivial

theorem steady_quicStep {call : QuicCall}
    (ordered : call.resourcesPerPage.1 ≤ call.resourcesPerPage.2) {label : QuicLabel}
    {outcome : QuicOutcome} (taken : quicStep call label = some (effects, outcome)) :
    Steady outcome.control := by
  unfold quicStep at taken
  split at taken
  · obtain ⟨-, rfl⟩ := Prod.mk.inj (Option.some.inj taken)
    exact steady_nextPage ordered _ _
  · obtain ⟨-, rfl⟩ := Prod.mk.inj (Option.some.inj taken)
    trivial
  · obtain ⟨-, rfl⟩ := Prod.mk.inj (Option.some.inj taken)
    trivial
  · obtain ⟨result, requested, same⟩ := Option.map_eq_some_iff.mp taken
    split at same <;> obtain ⟨-, rfl⟩ := Prod.mk.inj same <;> exact ordered
  · split at taken
    · obtain ⟨-, rfl⟩ := Prod.mk.inj (Option.some.inj taken)
      exact ordered
    · simp at taken
  · split at taken
    · simp at taken
    · obtain ⟨result, requested, same⟩ := Option.map_eq_some_iff.mp taken
      obtain ⟨-, rfl⟩ := Prod.mk.inj same
      split <;> exact ordered
  · obtain ⟨-, rfl⟩ := Prod.mk.inj (Option.some.inj taken)
    exact ordered
  · obtain ⟨-, rfl⟩ := Prod.mk.inj (Option.some.inj taken)
    exact steady_nextPage ordered _ _
  · simp at taken

/-- A task whose activities are ordered does not panic. -/
theorem steady_controlStep {control next : Control} {label : UserLabel} (steady : Steady control)
    (ordered : ∀ activity connectionId draw setupError,
      label = .activity activity connectionId draw setupError → Ordered activity)
    (taken : controlStep pool stopped control label = some (effects, next)) : Steady next := by
  unfold controlStep at taken
  split at taken
  · obtain ⟨-, rfl⟩ := Prod.mk.inj (Option.some.inj taken)
    trivial
  · rename_i activity connectionId draw setupError
    have chosen := ordered activity connectionId draw setupError rfl
    split at taken
    · obtain ⟨result, started, same⟩ := Option.map_eq_some_iff.mp taken
      obtain ⟨-, rfl⟩ := Prod.mk.inj same
      simp only [startQuic] at started
      split at started <;> obtain rfl := Option.some.inj started
      · trivial
      · trivial
      · exact chosen
    · obtain ⟨result, started, same⟩ := Option.map_eq_some_iff.mp taken
      obtain ⟨-, rfl⟩ := Prod.mk.inj same
      rcases startTcp_cases started with ⟨-, returned⟩ | opened
      · rw [returned]
        trivial
      · rw [(Prod.mk.inj opened).2]
        exact steady_openConnection chosen _ _ _
  · obtain ⟨result, stepped, same⟩ := Option.map_eq_some_iff.mp taken
    obtain ⟨-, rfl⟩ := Prod.mk.inj same
    exact steady_tcpStep steady stepped
  · obtain ⟨result, stepped, same⟩ := Option.map_eq_some_iff.mp taken
    obtain ⟨-, rfl⟩ := Prod.mk.inj same
    exact steady_quicStep steady stepped
  · obtain ⟨-, rfl⟩ := Prod.mk.inj (Option.some.inj taken)
    trivial
  · simp at taken

end Steady

/-! ## What a step can do -/

/-- The time since a session began. -/
def Simulation.elapsed (simulation : Simulation) (session : UserSession) : Nat :=
  simulation.client.now - session.startTime

/-- The step starts an activity of a user. -/
def startsActivity (index : Nat) (simulation : Simulation) : SimulationLabel → Bool
  | .wake other _ _ _ _ =>
      decide (other = index) && (simulation.session? index).any (fun session =>
        match session.phase with
        | .thinking thinkTime _ =>
            decide (thinkTime + simulation.elapsed session ≤ session.duration) &&
              !simulation.stopped index
        | _ => false)
  | _ => false

/-- The steps of the simulation. -/
inductive SimulationMove (config : TestConfig) (simulation : Simulation) :
    SimulationLabel → Simulation → Prop where
  | begun {index draw : Nat} {client : ClientState}
      (absent : simulation.sessions[index]? = some none)
      (taken : clientStep simulation.client (.user index .start) = some client) :
      SimulationMove config simulation (.begin index draw)
        (simulation.setSession index client
          { startTime := simulation.client.now, duration := config.sessionDuration draw })
  | thinks {index draw thinkTime : Nat} {session : UserSession}
      (here : simulation.session? index = some session) (looping : session.phase = .looping)
      (early : simulation.elapsed session < session.duration)
      (drawn : config.generateThinkTime draw = some thinkTime) :
      SimulationMove config simulation (.think index draw)
        (simulation.setSession index simulation.client
          { session with phase := .thinking thinkTime (simulation.client.now + thinkTime) })
  | crashes {index draw : Nat} {session : UserSession}
      (here : simulation.session? index = some session) (looping : session.phase = .looping)
      (empty : config.generateThinkTime draw = none) :
      SimulationMove config simulation (.think index draw)
        (simulation.setSession index simulation.client { session with phase := .crashed })
  | starts {index : Nat} {draw : ActivityDraw} {connectionId : Uuid} {serverDraw : Nat}
      {setupError : Option String} {session : UserSession} {thinkTime wakes : Nat}
      {client : ClientState} {user : User} (here : simulation.session? index = some session)
      (thinking : session.phase = .thinking thinkTime wakes)
      (awake : wakes ≤ simulation.client.now)
      (room : thinkTime + simulation.elapsed session ≤ session.duration)
      (unstopped : simulation.stopped index = false)
      (taken : clientStep simulation.client (.user index (.activity
        (chooseRandomActivity config draw) connectionId serverDraw setupError)) = some client)
      (present : client.users[index]? = some user) :
      SimulationMove config simulation (.wake index draw connectionId serverDraw setupError)
        (simulation.setSession index client { session with phase := phaseOf user.control })
  | leaves {label : SimulationLabel} {index : Nat} {session : UserSession} {client : ClientState}
      (here : simulation.session? index = some session)
      (between : session.phase = .looping ∨ ∃ thinkTime wakes,
        session.phase = .thinking thinkTime wakes)
      (starts : ∀ other, startsActivity other simulation label = false)
      (taken : clientStep simulation.client (.user index .finish) = some client) :
      SimulationMove config simulation label
        (simulation.setSession index client { session with phase := .left })
  | timed {index : Nat} {session : UserSession} {client : ClientState}
      (here : simulation.session? index = some session)
      (taken : clientStep simulation.client (.user index .stop) = some client) :
      SimulationMove config simulation (.timer index) (simulation.setSession index client session)
  | acts {label : SimulationLabel} {index : Nat} {session : UserSession} {own : UserLabel}
      {client : ClientState} {user : User} (here : simulation.session? index = some session)
      (acting : session.phase = .acting)
      (starts : ∀ other, startsActivity other simulation label = false)
      (within : (∃ label, own = .tcp label) ∨ ∃ label, own = .quic label)
      (taken : clientStep simulation.client (.user index own) = some client)
      (present : client.users[index]? = some user) :
      SimulationMove config simulation label
        (simulation.setSession index client { session with phase := phaseOf user.control })
  | environment {label : SimulationLabel} {own : ClientLabel} {client : ClientState}
      (starts : ∀ other, startsActivity other simulation label = false)
      (others : ∀ index label, own ≠ .user index label)
      (taken : clientStep simulation.client own = some client) :
      SimulationMove config simulation label ⟨client, simulation.sessions⟩

section Moves

variable {config : TestConfig} {simulation next : Simulation} {label : SimulationLabel}

theorem of_own {index : Nat} {session : UserSession} {own : UserLabel} {phase : Option Phase}
    (taken : simulation.own index session own phase = some next) :
    ∃ client user, clientStep simulation.client (.user index own) = some client ∧
      client.users[index]? = some user ∧ next = simulation.setSession index client
        { session with phase := phase.getD (phaseOf user.control) } := by
  obtain ⟨client, stepped, rest⟩ := Option.bind_eq_some_iff.mp taken
  obtain ⟨user, present, rfl⟩ := Option.map_eq_some_iff.mp rest
  exact ⟨client, user, stepped, present, rfl⟩

theorem move_of_simulationStep (taken : simulationStep config simulation label = some next) :
    SimulationMove config simulation label next := by
  cases label with
  | begin index draw =>
      simp only [simulationStep] at taken
      split at taken
      · rename_i absent
        obtain ⟨client, user, stepped, _, rfl⟩ := of_own taken
        exact .begun absent stepped
      · simp at taken
  | think index draw =>
      obtain ⟨session, here, rest⟩ := Option.bind_eq_some_iff.mp taken
      split at rest
      · rename_i guard
        split at rest
        · rename_i drawn
          obtain rfl := Option.some.inj rest
          exact .thinks here guard.1 guard.2 drawn
        · rename_i empty
          obtain rfl := Option.some.inj rest
          exact .crashes here guard.1 empty
      · simp at rest
  | wake index draw connectionId serverDraw setupError =>
      obtain ⟨session, here, rest⟩ := Option.bind_eq_some_iff.mp taken
      split at rest
      · rename_i thinkTime wakes thinking
        split at rest
        · simp at rest
        · rename_i awake
          split at rest
          · rename_i done
            obtain ⟨client, user, stepped, _, rfl⟩ := of_own rest
            refine .leaves here (Or.inr ⟨_, _, thinking⟩) (fun other => ?_) stepped
            by_cases same : index = other
            · subst same
              rcases done with late | stopped
              · have full : ¬thinkTime + simulation.elapsed session ≤ session.duration :=
                  Nat.not_le.mpr late
                simp [startsActivity, here, thinking, full]
              · simp [startsActivity, here, thinking, stopped]
            · simp [startsActivity, same]
          · rename_i room
            rw [not_or, Nat.not_lt, Bool.not_eq_true] at room
            obtain ⟨client, user, stepped, present, rfl⟩ := of_own rest
            exact .starts here thinking (Nat.not_lt.mp awake) room.1 room.2 stepped present
      · simp at rest
  | leave index =>
      obtain ⟨session, here, rest⟩ := Option.bind_eq_some_iff.mp taken
      split at rest
      · rename_i guard
        obtain ⟨client, user, stepped, _, rfl⟩ := of_own rest
        exact .leaves here (Or.inl guard.1) (fun _ => rfl) stepped
      · simp at rest
  | timer index =>
      obtain ⟨session, here, rest⟩ := Option.bind_eq_some_iff.mp taken
      split at rest
      · obtain ⟨client, user, stepped, _, rfl⟩ := of_own rest
        exact .timed here stepped
      · simp at rest
  | tcp index label =>
      obtain ⟨session, here, rest⟩ := Option.bind_eq_some_iff.mp taken
      split at rest
      · rename_i acting
        obtain ⟨client, user, stepped, present, rfl⟩ := of_own rest
        exact .acts here acting (fun _ => rfl) (Or.inl ⟨label, rfl⟩) stepped present
      · simp at rest
  | quic index label =>
      obtain ⟨session, here, rest⟩ := Option.bind_eq_some_iff.mp taken
      split at rest
      · rename_i acting
        obtain ⟨client, user, stepped, present, rfl⟩ := of_own rest
        exact .acts here acting (fun _ => rfl) (Or.inr ⟨label, rfl⟩) stepped present
      · simp at rest
  | healthRound | checked =>
      obtain ⟨client, stepped, rfl⟩ := Option.map_eq_some_iff.mp taken
      exact .environment (fun _ => rfl) (by simp) stepped
  | elapse ms =>
      obtain rfl := Option.some.inj taken
      exact .environment (fun _ => rfl) (by simp)
        (show clientStep simulation.client (.elapse ms) = some _ from rfl)

end Moves

/-! ## Sessions and their tasks -/

/-- Where a session is, after a number of activities, and its user's task. A session that
has started a further activity has waited a think time for each of them. -/
inductive Placed (least started startTime now : Nat) : Control → Phase → Prop where
  | looping (waited : startTime + started * least ≤ now) :
      Placed least started startTime now .idle .looping
  | thinking {thinkTime wakes : Nat} (long : least ≤ thinkTime)
      (waits : startTime + (started + 1) * least ≤ wakes) :
      Placed least started startTime now .idle (.thinking thinkTime wakes)
  | acting {control : Control} (busy : control.resting = false)
      (waited : startTime + started * least ≤ now) :
      Placed least started startTime now control .acting
  | left : Placed least started startTime now .finished .left

/-- A session under way. The think time before an activity is counted twice, so that
there is room for one more of them than there are activities. -/
structure Going (config : TestConfig) (now started : Nat) (control : Control)
    (session : UserSession) : Prop where
  begun : session.startTime ≤ now
  within : session.duration ≤ config.duration * 1000
  room : started = 0 ∨ (started + 1) * config.thinkTimeRange.1 ≤ session.duration
  steady : Steady control
  placed : Placed config.thinkTimeRange.1 started session.startTime now control session.phase

/-- A user's task and its session agree. -/
inductive Kept (config : TestConfig) (now started : Nat) :
    Control → Option UserSession → Prop where
  | absent (unused : started = 0) : Kept config now started .waiting none
  | present {control : Control} {session : UserSession}
      (going : Going config now started control session) :
      Kept config now started control (some session)

/-- The tasks and their sessions, with the activities that each has started. -/
structure SessionsKept (config : TestConfig) (started : Nat → Nat) (simulation : Simulation) :
    Prop where
  paired : simulation.sessions.length = simulation.client.users.length
  kept : ∀ index user entry, simulation.client.users[index]? = some user →
    simulation.sessions[index]? = some entry →
    Kept config simulation.client.now (started index) user.control entry

section Sessions

variable {config : TestConfig} {simulation next : Simulation} {label : SimulationLabel}
  {started : Nat → Nat}

theorem Placed.later {least started startTime now later : Nat} {control : Control} {phase : Phase}
    (placed : Placed least started startTime now control phase) (passed : now ≤ later) :
    Placed least started startTime later control phase := by
  cases placed with
  | looping waited => exact .looping (waited.trans passed)
  | thinking long waits => exact .thinking long waits
  | acting busy waited => exact .acting busy (waited.trans passed)
  | left => exact .left

theorem Kept.later {now later count : Nat} {control : Control} {entry : Option UserSession}
    (kept : Kept config now count control entry) (passed : now ≤ later) :
    Kept config later count control entry := by
  cases kept with
  | absent unused => exact .absent unused
  | present going =>
      exact .present ⟨going.begun.trans passed, going.within, going.room, going.steady,
        going.placed.later passed⟩

/-- Where a step of an activity leaves its session. -/
theorem placed_phaseOf {least count startTime now : Nat} {control : Control}
    (steady : Steady control) (within : control.inSession = true)
    (waited : startTime + count * least ≤ now) :
    Placed least count startTime now control (phaseOf control) := by
  cases control with
  | idle => exact .looping waited
  | tcp call | quic call => exact .acting rfl waited
  | panicked server connectionId => exact absurd steady id
  | waiting | finished => simp [Control.inSession] at within

theorem inSession_of_controlMove {pool : ServerPool} {control next : Control}
    {label : UserLabel} {effects : List Effect}
    (move : ControlMove pool control label effects next) (notFinish : label ≠ .finish) :
    next.inSession = true := by
  cases move with
  | started | nothing => rfl
  | finished => exact absurd rfl notFinish
  | tcp | opened => exact inSession_tcp _
  | quic | session => exact inSession_quic _

/-- What a user's step does to the client. -/
theorem user_of_clientStep {state after : ClientState} {index : Nat} {label : UserLabel}
    (taken : clientStep state (.user index label) = some after) :
    ∃ old user, state.users[index]? = some old ∧ after.users = state.users.set index user ∧
      after.now = state.now ∧ ((label = .stop ∧ user.control = old.control) ∨
        ∃ effects, controlStep state.shared.pool old.stopped old.control label =
          some (effects, user.control)) := by
  obtain ⟨⟨effects, user⟩, own, rfl⟩ := Option.map_eq_some_iff.mp taken
  unfold userStep at own
  split at own
  · rename_i old present
    obtain ⟨-, rfl⟩ := Prod.mk.inj (Option.some.inj own)
    exact ⟨old, _, present, rfl, rfl, Or.inl ⟨rfl, rfl⟩⟩
  · rename_i old present notStop
    obtain ⟨⟨effects', control⟩, stepped, guarded⟩ := Option.bind_eq_some_iff.mp own
    split at guarded
    · obtain ⟨rfl, rfl⟩ := Prod.mk.inj (Option.some.inj guarded)
      exact ⟨old, _, present, rfl, rfl, Or.inr ⟨_, stepped⟩⟩
    · simp at guarded
  · simp at own

/-- A session and its task are replaced together. -/
theorem SessionsKept.set {client : ClientState} {later : Nat → Nat} {index : Nat} {user : User}
    {session : UserSession} (kept : SessionsKept config started simulation)
    (users : client.users = simulation.client.users.set index user)
    (now : client.now = simulation.client.now)
    (own : Kept config client.now (later index) user.control (some session))
    (others : ∀ other, other ≠ index → later other = started other) :
    SessionsKept config later (simulation.setSession index client session) := by
  constructor
  · simp [Simulation.setSession, users, kept.paired]
  · intro other there entry here listed
    simp only [Simulation.setSession, users] at here listed ⊢
    rcases getElem?_set_cases here with ⟨rfl, rfl⟩ | ⟨different, before⟩
    · rcases getElem?_set_cases listed with ⟨-, rfl⟩ | ⟨different, -⟩
      · exact own
      · exact absurd rfl different
    · rcases getElem?_set_cases listed with ⟨same, -⟩ | ⟨-, earlier⟩
      · exact absurd same different
      · rw [others other different, now]
        exact kept.kept other there entry before earlier

theorem listed_of_session {index : Nat} {session : UserSession}
    (here : simulation.session? index = some session) :
    simulation.sessions[index]? = some (some session) := by
  obtain ⟨entry, listed, same⟩ := Option.bind_eq_some_iff.mp here
  rw [listed]
  exact congrArg some same

/-- A session that has begun has a user. -/
theorem SessionsKept.going {index : Nat} {session : UserSession}
    (kept : SessionsKept config started simulation)
    (here : simulation.session? index = some session) :
    ∃ user, simulation.client.users[index]? = some user ∧
      Going config simulation.client.now (started index) user.control session := by
  have listed := listed_of_session here
  have inside : index < simulation.client.users.length := by
    rw [← kept.paired]
    exact (List.getElem?_eq_some_iff.mp listed).1
  refine ⟨_, List.getElem?_eq_getElem inside, ?_⟩
  have own := kept.kept index _ _ (List.getElem?_eq_getElem inside) listed
  generalize (simulation.client.users[index]).control = control at own
  cases own with
  | present going => exact going

theorem sessionDuration_le (config : TestConfig) (draw : Nat) :
    config.sessionDuration draw ≤ config.duration * 1000 := by
  have below := drawInRange_le (Nat.div_le_self config.duration 2) draw
  exact Nat.mul_le_mul_right 1000 below

theorem le_generateThinkTime {draw thinkTime : Nat}
    (drawn : config.generateThinkTime draw = some thinkTime) :
    config.thinkTimeRange.1 ≤ thinkTime := by
  unfold TestConfig.generateThinkTime at drawn
  split at drawn
  · obtain rfl := Option.some.inj drawn
    exact le_drawInRange _ _ _
  · simp at drawn

theorem now_le_of_environment {state after : ClientState} {label : ClientLabel}
    (others : ∀ index own, label ≠ .user index own) (taken : clientStep state label = some after) :
    state.now ≤ after.now := by
  cases label with
  | user index own => exact absurd rfl (others index own)
  | healthRound =>
      simp only [clientStep] at taken
      split at taken
      · obtain rfl := Option.some.inj taken
        exact Nat.le_refl _
      · simp at taken
  | checked index ok =>
      obtain ⟨address, _, rfl⟩ := Option.map_eq_some_iff.mp taken
      exact Nat.le_refl _
  | elapse ms =>
      obtain rfl := Option.some.inj taken
      exact Nat.le_add_right _ _

/-- The activities started, with those of one more step. -/
def startedAfter (started : Nat → Nat) (simulation : Simulation) (label : SimulationLabel)
    (index : Nat) : Nat :=
  started index + (startsActivity index simulation label).toNat

theorem startedAfter_of_none (starts : ∀ other, startsActivity other simulation label = false) :
    startedAfter started simulation label = started := by
  funext index
  simp [startedAfter, starts]

/-- No move breaks the agreement of the tasks and their sessions. -/
theorem sessionsKept_of_move (thinks : config.thinkTimeRange.1 ≤ config.thinkTimeRange.2)
    (requests : config.requestSizeRange.1 ≤ config.requestSizeRange.2)
    (kept : SessionsKept config started simulation)
    (move : SimulationMove config simulation label next) :
    SessionsKept config (startedAfter started simulation label) next := by
  cases move with
  | @begun index draw client absent taken =>
      rw [startedAfter_of_none (fun _ => rfl)]
      obtain ⟨old, user, present, users, now, ⟨other, _⟩ | ⟨effects, stepped⟩⟩ :=
        user_of_clientStep taken
      · simp at other
      refine kept.set users now ?_ (fun _ _ => rfl)
      have before := kept.kept index old none present absent
      generalize old.control = control at before stepped
      cases before with
      | absent unused =>
          obtain ⟨-, idle⟩ := Prod.mk.inj (Option.some.inj stepped)
          rw [← idle, now]
          refine .present ⟨Nat.le_refl _, sessionDuration_le config draw, Or.inl unused, trivial,
            .looping ?_⟩
          simp [unused]
  | @thinks index draw thinkTime session here looping early drawn =>
      rw [startedAfter_of_none (fun _ => rfl)]
      obtain ⟨user, present, going⟩ := kept.going here
      have same : simulation.client.users = simulation.client.users.set index user := by
        obtain ⟨inside, rfl⟩ := List.getElem?_eq_some_iff.mp present
        exact (List.set_getElem_self inside).symm
      refine kept.set same rfl (.present ⟨going.begun, going.within, going.room, going.steady, ?_⟩)
        (fun _ _ => rfl)
      have placed := going.placed
      rw [looping] at placed
      generalize user.control = control at placed ⊢
      cases placed with
      | looping waited =>
          have long := le_generateThinkTime drawn
          refine .thinking long ?_
          rw [Nat.succ_mul]
          dsimp only
          omega
  | crashes here looping empty =>
      simp [TestConfig.generateThinkTime, thinks] at empty
  | @starts index draw connectionId serverDraw setupError session thinkTime wakes client user here
      thinking awake room unstopped taken present =>
      obtain ⟨old, present', going⟩ := kept.going here
      obtain ⟨old', user', there, users, now, ⟨other, _⟩ | ⟨effects, stepped⟩⟩ :=
        user_of_clientStep taken
      · simp at other
      obtain rfl := Option.some.inj (present'.symm.trans there)
      rw [users, getElem?_set_self_of_some there] at present
      obtain rfl := Option.some.inj present
      have counts : startedAfter started simulation
          (.wake index draw connectionId serverDraw setupError) index = started index + 1 := by
        simp [startedAfter, startsActivity, here, thinking, room, unstopped]
      refine kept.set users now ?_ (fun other different => ?_)
      · rw [counts, now]
        have placed := going.placed
        have begun := going.begun
        have steady := going.steady
        rw [thinking] at placed
        generalize old.control = control at placed steady stepped
        unfold Simulation.elapsed at room
        cases placed with
        | thinking long waits =>
            refine .present ⟨begun, going.within, Or.inr ?_, ?_, placed_phaseOf ?_ ?_ ?_⟩
            · rw [Nat.succ_mul]
              dsimp only
              omega
            · refine steady_controlStep steady ?_ stepped
              rintro activity connectionId draw setupError same
              obtain ⟨rfl, -, -, -⟩ := UserLabel.activity.inj same
              exact ordered_chooseRandomActivity requests _
            · refine steady_controlStep steady ?_ stepped
              rintro activity connectionId draw setupError same
              obtain ⟨rfl, -, -, -⟩ := UserLabel.activity.inj same
              exact ordered_chooseRandomActivity requests _
            · exact inSession_of_controlMove (move_of_controlStep stepped) (by simp)
            · exact waits.trans awake
      · simp [startedAfter, startsActivity, Ne.symm different]
  | @leaves label index session client here between starts taken =>
      rw [startedAfter_of_none starts]
      obtain ⟨old, present, going⟩ := kept.going here
      obtain ⟨old', user, there, users, now, ⟨other, _⟩ | ⟨effects, stepped⟩⟩ :=
        user_of_clientStep taken
      · simp at other
      obtain rfl := Option.some.inj (present.symm.trans there)
      refine kept.set users now ?_ (fun _ _ => rfl)
      have finished : user.control = .finished := by
        have move := move_of_controlStep stepped
        generalize old.control = control at move
        generalize user.control = after at move
        cases move with
        | finished => rfl
      rw [finished, now]
      exact .present ⟨going.begun, going.within, going.room, trivial, .left⟩
  | @timed index session client here taken =>
      rw [startedAfter_of_none (fun _ => rfl)]
      obtain ⟨old, present, going⟩ := kept.going here
      obtain ⟨old', user, there, users, now, ⟨_, same⟩ | ⟨effects, stepped⟩⟩ :=
        user_of_clientStep taken
      · obtain rfl := Option.some.inj (present.symm.trans there)
        refine kept.set users now ?_ (fun _ _ => rfl)
        rw [same, now]
        exact .present going
      · have move := move_of_controlStep stepped
        generalize old'.control = control at move
        generalize user.control = after at move
        cases move
  | @acts label index session own client user here acting starts within taken present =>
      rw [startedAfter_of_none starts]
      obtain ⟨old, present', going⟩ := kept.going here
      obtain ⟨old', user', there, users, now, ⟨other, _⟩ | ⟨effects, stepped⟩⟩ :=
        user_of_clientStep taken
      · rcases within with ⟨label, rfl⟩ | ⟨label, rfl⟩ <;> simp at other
      obtain rfl := Option.some.inj (present'.symm.trans there)
      rw [users, getElem?_set_self_of_some there] at present
      obtain rfl := Option.some.inj present
      have steady : Steady user'.control := by
        refine steady_controlStep going.steady ?_ stepped
        rintro activity connectionId draw setupError rfl
        rcases within with ⟨label, wrong⟩ | ⟨label, wrong⟩ <;> simp at wrong
      have waited : session.startTime + started index * config.thinkTimeRange.1 ≤
          simulation.client.now := by
        have placed := going.placed
        rw [acting] at placed
        generalize old.control = control at placed
        cases placed with
        | acting busy waited => exact waited
      refine kept.set users now ?_ (fun _ _ => rfl)
      rw [now]
      refine .present ⟨going.begun, going.within, going.room, steady, placed_phaseOf steady ?_ waited⟩
      refine inSession_of_controlMove (move_of_controlStep stepped) ?_
      rcases within with ⟨label, rfl⟩ | ⟨label, rfl⟩ <;> simp
  | @environment label own client starts others taken =>
      rw [startedAfter_of_none starts]
      have passed := now_le_of_environment others taken
      have move := move_of_clientStep (show clientMachine.step _ own = some client from taken)
      generalize effectsOf simulation.client own = effects at move
      cases move with
      | user => exact absurd rfl (others _ _)
      | environment users metrics addresses counters idle =>
          refine ⟨by simp [users, kept.paired], fun index user entry here listed => ?_⟩
          simp only [users] at here
          exact (kept.kept index user entry here listed).later passed

theorem sessionsKept_start {config : TestConfig} {addresses : List SocketAddr}
    {order : IterationOrder addresses} {loadBalancer : LoadBalancerConfig} :
    SessionsKept config (fun _ => 0) (startSimulation config addresses order loadBalancer) := by
  refine ⟨by simp [startSimulation, startClient], fun index user entry here listed => ?_⟩
  obtain rfl := List.eq_of_mem_replicate (List.mem_of_getElem? here)
  obtain rfl := List.eq_of_mem_replicate (List.mem_of_getElem? listed)
  exact .absent rfl

/-- The activities that a user has started in a run. -/
def activitiesStarted (index : Nat) (trace : List (Simulation × SimulationLabel)) : Nat :=
  trace.countP (fun entry => startsActivity index entry.1 entry.2)

/-- The run rule of the sessions. -/
theorem sessionsKept_of_run {addresses : List SocketAddr} {order : IterationOrder addresses}
    {loadBalancer : LoadBalancerConfig} {trace : List (Simulation × SimulationLabel)}
    {state : Simulation} (thinks : config.thinkTimeRange.1 ≤ config.thinkTimeRange.2)
    (requests : config.requestSizeRange.1 ≤ config.requestSizeRange.2)
    (run : (simulationMachine config).Run (startSimulation config addresses order loadBalancer)
      trace state) :
    SessionsKept config (activitiesStarted · trace) state := by
  refine run.history (fun trace state => SessionsKept config (activitiesStarted · trace) state)
    sessionsKept_start ?_
  intro trace state label next _ kept taken
  have after := sessionsKept_of_move thinks requests kept (move_of_simulationStep taken)
  have counts : (activitiesStarted · (trace ++ [(state, label)])) =
      startedAfter (activitiesStarted · trace) state label := by
    funext index
    unfold activitiesStarted startedAfter
    cases starts : startsActivity index state label <;> simp [starts]
  rw [counts]
  exact after

theorem reachable_of_clientStep {start state after : ClientState} {label : ClientLabel}
    (reachable : clientMachine.Reachable start state) (taken : clientStep state label = some after) :
    clientMachine.Reachable start after := by
  obtain ⟨trace, run⟩ := reachable
  exact ⟨_, run.snoc (show clientMachine.step state label = some after from taken)⟩

/-- A step of the simulation is at most a step of the client. -/
theorem reachable_of_move {start : ClientState}
    (reachable : clientMachine.Reachable start simulation.client)
    (move : SimulationMove config simulation label next) :
    clientMachine.Reachable start next.client := by
  cases move with
  | thinks | crashes => exact reachable
  | begun absent taken | starts here thinking awake room unstopped taken
  | leaves here between starts taken | timed here taken
  | acts here acting starts within taken | environment starts others taken =>
      exact reachable_of_clientStep reachable taken

/-- A user between two activities may finish. -/
theorem own_finish {index : Nat} {user : User} (session : UserSession)
    (present : simulation.client.users[index]? = some user) (idle : user.control = .idle) :
    ∃ client, simulation.own index session .finish (some .left) =
      some (simulation.setSession index client { session with phase := .left }) := by
  have stepped : userStep simulation.client index .finish =
      some ([.decrementActiveUsers], { user with control := .finished }) := by
    simp [userStep, present, idle, controlStep, Effect.registrations, Effect.registers]
  exact ⟨_, by simp only [Simulation.own, clientStep, stepped, Option.map_some, Option.bind_some,
    getElem?_set_self_of_some present, Option.getD_some]; rfl⟩

theorem session_setSession {index : Nat} {client : ClientState} {session : UserSession}
    (here : simulation.session? index = some session) (new : UserSession) :
    (simulation.setSession index client new).session? index = some new := by
  simp [Simulation.session?, Simulation.setSession,
    getElem?_set_self_of_some (listed_of_session here)]

/-- The simulation some time later. -/
def Simulation.later (simulation : Simulation) (ms : Nat) : Simulation where
  client := { simulation.client with now := simulation.client.now + ms }
  sessions := simulation.sessions

/-- A continuation of nothing but the clock and a session's own steps in which it is left
and no activity is started. -/
def CanLeave (config : TestConfig) (simulation : Simulation) (index : Nat) : Prop :=
  ∃ labels last ended, (simulationMachine config).play simulation labels = some last ∧
    (∀ label ∈ labels, label.ofSession index = true) ∧
    last.session? index = some ended ∧ ended.phase = .left ∧
    ∀ other, activitiesStarted other ((simulationMachine config).trace simulation labels) = 0

theorem canLeave_of_step {index ms : Nat} {session : UserSession} {client : ClientState}
    (label : SimulationLabel) (here : simulation.session? index = some session)
    (leaves : simulationStep config (simulation.later ms) label =
      some ((simulation.later ms).setSession index client { session with phase := .left }))
    (own : label.ofSession index = true)
    (quiet : ∀ other, startsActivity other (simulation.later ms) label = false) :
    CanLeave config simulation index := by
  have elapses : simulationStep config simulation (.elapse ms) = some (simulation.later ms) := rfl
  have there : (simulation.later ms).session? index = some session := here
  refine ⟨[.elapse ms, label],
    (simulation.later ms).setSession index client { session with phase := .left },
    { session with phase := .left }, ?_, ?_, session_setSession there _, rfl, fun other => ?_⟩
  · simp only [Machine.play, simulationMachine, elapses, leaves]
  · simpa [SimulationLabel.ofSession] using own
  · simp only [Machine.trace, simulationMachine, elapses, leaves, activitiesStarted,
      List.countP_cons, List.countP_nil, quiet]
    rfl

/-- After some time, a session between two activities is left by itself. -/
theorem canLeave {index : Nat} {session : UserSession}
    (kept : SessionsKept config started simulation)
    (here : simulation.session? index = some session) (between : session.phase ≠ .acting) :
    CanLeave config simulation index := by
  obtain ⟨user, present, going⟩ := kept.going here
  have begun := going.begun
  have placed := going.placed
  generalize control : user.control = control at placed
  generalize phase : session.phase = phase at placed
  have there (ms : Nat) : (simulation.later ms).session? index = some session := here
  cases placed with
  | looping waited =>
      let full := simulation.later session.duration
      obtain ⟨client, finishes⟩ :=
        own_finish session (show full.client.users[index]? = _ from present) control
      have past : ¬full.client.now - session.startTime < session.duration := by
        show ¬simulation.client.now + session.duration - session.startTime < session.duration
        omega
      have leaves : simulationStep config full (.leave index) =
          some (full.setSession index client { session with phase := .left }) := by
        simp only [simulationStep, full, there, Option.bind_some, phase, true_and]
        rw [if_pos past]
        exact finishes
      exact canLeave_of_step (.leave index) here leaves (by simp [SimulationLabel.ofSession])
        (fun _ => rfl)
  | @thinking thinkTime wakes long waits =>
      let late := simulation.later (wakes + session.duration + 1)
      obtain ⟨client, finishes⟩ :=
        own_finish session (show late.client.users[index]? = _ from present) control
      have awake : ¬late.client.now < wakes := by
        show ¬simulation.client.now + (wakes + session.duration + 1) < wakes
        omega
      have past : session.duration < thinkTime + (late.client.now - session.startTime) := by
        show session.duration <
          thinkTime + (simulation.client.now + (wakes + session.duration + 1) - session.startTime)
        omega
      have leaves : simulationStep config late (.wake index ⟨0, 0, 0, 0, 0, 0⟩ ⟨0⟩ 0 none) =
          some (late.setSession index client { session with phase := .left }) := by
        simp only [simulationStep, late, there, Option.bind_some, phase]
        rw [if_neg awake, if_pos (Or.inl past)]
        exact finishes
      refine canLeave_of_step _ here leaves (by simp [SimulationLabel.ofSession])
        (fun other => ?_)
      have full : ¬thinkTime + late.elapsed session ≤ session.duration := Nat.not_le.mpr past
      by_cases same : index = other
      · subst same
        simp [startsActivity, there, phase, full, late]
      · simp [startsActivity, same]
  | acting busy waited => exact absurd phase between
  | left => exact ⟨[], _, session, rfl, by simp, here, phase, fun _ => rfl⟩

/-- In every run of the simulation, on ranges that are not empty, the client only does what
the client machine allows, no task panics, a session has room for one activity more than
it has started, and a session between activities can be left by the clock and its own
steps. -/
theorem sessions_within_duration {addresses : List SocketAddr} {order : IterationOrder addresses}
    {loadBalancer : LoadBalancerConfig} {trace : List (Simulation × SimulationLabel)}
    {state : Simulation} (thinks : config.thinkTimeRange.1 ≤ config.thinkTimeRange.2)
    (requests : config.requestSizeRange.1 ≤ config.requestSizeRange.2)
    (run : (simulationMachine config).Run (startSimulation config addresses order loadBalancer)
      trace state) :
    clientMachine.Reachable
        (startClient addresses order loadBalancer config.concurrentUsers) state.client ∧
      (∀ user ∈ state.client.users, ∀ server id, user.control ≠ .panicked server id) ∧
      (∀ session, some session ∈ state.sessions → session.phase ≠ .crashed) ∧
      (∀ index < config.concurrentUsers.toNat, activitiesStarted index trace = 0 ∨
        (activitiesStarted index trace + 1) * config.thinkTimeRange.1 ≤
          config.duration * 1000) ∧
      ∀ index session, state.session? index = some session → session.phase ≠ .acting →
        CanLeave config state index := by
  have kept := sessionsKept_of_run thinks requests run
  have reachable := run.invariant
    (fun state => clientMachine.Reachable
      (startClient addresses order loadBalancer config.concurrentUsers) state.client)
    ⟨[], Machine.Run.nil⟩
    (fun _ _ _ reachable taken => reachable_of_move reachable (move_of_simulationStep taken))
  have users : state.client.users.length = config.concurrentUsers.toNat := by
    obtain ⟨_, own⟩ := reachable
    exact users_length_of_run own
  refine ⟨reachable, ?_, ?_, ?_, fun index session here between => canLeave kept here between⟩
  · intro user member server id panicked
    obtain ⟨index, here⟩ := List.getElem?_of_mem member
    have inside : index < state.sessions.length := by
      rw [kept.paired]
      exact (List.getElem?_eq_some_iff.mp here).1
    have own := kept.kept index user _ here (List.getElem?_eq_getElem inside)
    rw [panicked] at own
    generalize state.sessions[index] = entry at own
    cases own with
    | present going => exact going.steady
  · intro session member crashed
    obtain ⟨index, listed⟩ := List.getElem?_of_mem member
    have here : state.session? index = some session := by simp [Simulation.session?, listed]
    obtain ⟨user, present, going⟩ := kept.going here
    have placed := going.placed
    rw [crashed] at placed
    generalize user.control = control at placed
    cases placed
  · intro index user
    have inside : index < state.client.users.length := by rwa [users]
    have paired : index < state.sessions.length := by rwa [kept.paired]
    have own := kept.kept index _ _ (List.getElem?_eq_getElem inside)
      (List.getElem?_eq_getElem paired)
    generalize (state.client.users[index]).control = control at own
    generalize state.sessions[index] = entry at own
    cases own with
    | absent unused => exact Or.inl unused
    | present going => exact going.room.imp id (fun room => room.trans going.within)

end Sessions

/-- One user, for one second. -/
def oneSecond : TestConfig := { duration := 1, concurrentUsers := 1 }

/-- The user waits, and starts to browse. -/
def firstActivity : List SimulationLabel :=
  [.begin 0 1, .think 0 0, .elapse 100, .wake 0 ⟨0, 0, 0, 0, 0, 0⟩ ⟨1⟩ 0 none]

def beforeFirstActivity : Simulation :=
  startSimulation oneSecond [localServer] (.asGiven _ (List.nodup_singleton _)) {}

/-- There is room for the activity under way. -/
theorem sessions_within_duration_firstActivity :
    ∃ state,
      (simulationMachine oneSecond).play beforeFirstActivity firstActivity = some state ∧
        state.sessions = [some ⟨0, 1000, .acting⟩] ∧
        (activitiesStarted 0
            ((simulationMachine oneSecond).trace beforeFirstActivity firstActivity) + 1) * 100 ≤
          1000 := by
  obtain ⟨state, played, sessions⟩ := Option.map_eq_some_iff.mp (show
    ((simulationMachine oneSecond).play beforeFirstActivity firstActivity).map (·.sessions) =
      some [some ⟨0, 1000, .acting⟩] by decide +kernel)
  have bounds := (sessions_within_duration (by decide) (by decide)
    (Machine.run_of_play played)).2.2.2.1
  refine ⟨state, played, sessions, (bounds 0 (by decide)).resolve_left ?_⟩
  decide +kernel

end Npt.Client
