import Npt.Client.Simulator
import Npt.Core.IndexedFamily

/-!
Contract: the gauge of active users (`simulate_user_behavior` in
`client/src/simulator.rs`, `increment_active_users` and `decrement_active_users`
in `shared/src/metrics.rs`).

Owns: that activities leave the gauge alone, and that it counts the sessions
under way in every state of the client.

Does not own: when a session begins or ends.
-/

namespace Npt.Client

open Npt.Core
open Npt.Shared

/-! ## Effects that leave the gauge alone -/

namespace Effect

def silent : Effect → Bool
  | .incrementActiveUsers | .decrementActiveUsers => false
  | _ => true

def Silent (effects : List Effect) : Prop := ∀ effect ∈ effects, effect.silent = true

@[simp] theorem silent_nil : Silent [] := by simp [Silent]

@[simp] theorem silent_cons {effect : Effect} {effects : List Effect} :
    Silent (effect :: effects) ↔ effect.silent = true ∧ Silent effects := by
  simp [Silent]

theorem Silent.append {left right : List Effect} (first : Silent left) (second : Silent right) :
    Silent (left ++ right) := by
  intro effect member
  rcases List.mem_append.mp member with earlier | later
  · exact first effect earlier
  · exact second effect later

theorem activeUsers_apply {effect : Effect} (silent : effect.silent = true) (now : Nat)
    (shared : SharedState) :
    (apply now shared effect).metrics.activeUsers = shared.metrics.activeUsers := by
  cases effect with
  | incrementActiveUsers | decrementActiveUsers => simp [Effect.silent] at silent
  | recordErrorWithDetail id errorType message context =>
      simp only [apply, SharedState.onMetrics, MetricsCollector.recordErrorWithDetail]
      split <;> rfl
  | _ => rfl

theorem activeUsers_applyAll {effects : List Effect} (silent : Silent effects) (now : Nat)
    (shared : SharedState) :
    (applyAll now shared effects).metrics.activeUsers = shared.metrics.activeUsers := by
  induction effects generalizing shared with
  | nil => rfl
  | cons effect effects inductionHypothesis =>
      have rest := inductionHypothesis (fun other member => silent other (by simp [member]))
        (apply now shared effect)
      exact rest.trans (activeUsers_apply (silent effect (by simp)) now shared)

end Effect

/-! ## Activities are silent -/

section Activities

variable {pool : ServerPool} {stopped : Bool} {effects : List Effect}

theorem silent_failed (call : TcpCall) (message : String) : Effect.Silent (failed call message).1 := by
  intro effect member
  simp only [failed, List.mem_cons, List.not_mem_nil, or_false] at member
  rcases member with rfl | rfl
  · unfold errorRecord
    split <;> rfl
  · rfl

theorem silent_tryServer (pool : ServerPool) (call : TcpCall) (attempt draw : Nat) :
    Effect.Silent (tryServer pool call attempt draw).1 := by
  unfold tryServer
  split
  · simp [Effect.silent]
  · exact silent_failed call _

theorem silent_openConnection (pool : ServerPool) (activity : UserActivity) (page : Nat)
    (connectionId : Uuid) (draw : Nat) :
    Effect.Silent (openConnection pool activity page connectionId draw).1 := by
  intro effect member
  rcases List.mem_cons.mp member with rfl | later
  · rfl
  · exact silent_tryServer pool _ 0 draw effect later

theorem silent_afterSend {id : Uuid} {activity : UserActivity} {length : UInt32}
    {exchange : Exchange} {result : List Effect × Exchange}
    (sent : afterSend id activity length exchange = some result) : Effect.Silent result.1 := by
  cases exchange <;> simp only [afterSend, Option.some.injEq, reduceCtorEq] at sent <;>
    subst sent <;> simp [Effect.silent]

theorem silent_afterReceive {id : Uuid} {activity : UserActivity}
    {length payload latency draw : Nat} {exchange : Exchange}
    {result : List Effect × Option Exchange}
    (received : afterReceive id activity stopped length payload latency draw exchange =
      some result) :
    Effect.Silent result.1 := by
  cases exchange with
  | receiveChunk bytesReceived chunkCount =>
      obtain rfl := Option.some.inj received
      refine Effect.Silent.append (by simp [Effect.silent]) ?_
      split <;> simp [Effect.silent]
  | _ =>
      simp only [afterReceive, Option.some.injEq, reduceCtorEq] at received
      try subst received
      try simp [Effect.silent]

theorem silent_streamStep {call : TcpCall} {server : SocketAddr} {exchange : Exchange}
    {label : TcpLabel} {outcome : TcpOutcome}
    (taken : streamStep stopped call server exchange label = some (effects, outcome)) :
    Effect.Silent effects := by
  cases label with
  | sent length =>
      simp only [streamStep] at taken
      split at taken
      · obtain ⟨rfl, -⟩ := Prod.mk.inj (Option.some.inj taken)
        simp [Effect.silent]
      · obtain ⟨next, sent, same⟩ := Option.map_eq_some_iff.mp taken
        obtain ⟨rfl, -⟩ := Prod.mk.inj same
        exact silent_afterSend sent
  | received length payload latency draw =>
      simp only [streamStep] at taken
      split at taken
      · obtain ⟨next, received, same⟩ := Option.map_eq_some_iff.mp taken
        obtain ⟨rfl, -⟩ := Prod.mk.inj same
        exact silent_afterReceive received
      · simp at taken
  | pauseOver =>
      simp only [streamStep] at taken
      split at taken
      · obtain ⟨rfl, -⟩ := Prod.mk.inj (Option.some.inj taken)
        simp
      · simp at taken
  | sendFailed error | receiveFailed error | oversized length =>
      simp only [streamStep] at taken
      split at taken
      · obtain ⟨rfl, -⟩ := Prod.mk.inj (Option.some.inj taken)
        exact silent_failed call _
      · simp at taken
  | _ => simp [streamStep] at taken

theorem silent_tcpStep {call : TcpCall} {label : TcpLabel} {outcome : TcpOutcome}
    (taken : tcpStep pool stopped call label = some (effects, outcome)) :
    Effect.Silent effects := by
  unfold tcpStep at taken
  split at taken
  · obtain ⟨rfl, -⟩ := Prod.mk.inj (Option.some.inj taken)
    simp [Effect.silent]
  · obtain ⟨rfl, -⟩ := Prod.mk.inj (Option.some.inj taken)
    exact Effect.Silent.append (by simp [Effect.silent]) (silent_failed call _)
  · split at taken
    · obtain ⟨rfl, -⟩ := Prod.mk.inj (Option.some.inj taken)
      simp [Effect.silent]
    · obtain ⟨rfl, -⟩ := Prod.mk.inj (Option.some.inj taken)
      exact Effect.Silent.append (show Effect.Silent [_] by simp [Effect.silent]) (silent_failed call _)
  · obtain ⟨rfl, -⟩ := Prod.mk.inj (Option.some.inj taken)
    exact silent_tryServer pool call _ _
  · exact silent_streamStep taken
  · split at taken
    · split at taken
      · obtain ⟨rfl, -⟩ := Prod.mk.inj (Option.some.inj taken)
        exact silent_openConnection pool _ _ _ _
      · obtain ⟨rfl, -⟩ := Prod.mk.inj (Option.some.inj taken)
        simp
    · simp at taken
  · simp at taken

theorem silent_requestStep {id : Uuid} {request : Request} {event : RequestEvent}
    {result : List Effect × RequestResult}
    (taken : requestStep id request event = some result) : Effect.Silent result.1 := by
  cases event <;> simp only [requestStep] at taken <;> (repeat' split at taken) <;>
    simp only [Option.some.injEq, reduceCtorEq] at taken <;> subst taken <;>
    simp [Effect.silent]

theorem silent_nextPage (call : QuicCall) (page draw : Nat) :
    Effect.Silent (nextPage call page draw).1 := by
  unfold nextPage
  split
  · split <;> simp
  · simp [Effect.silent]

theorem silent_pageFailed (call : QuicCall) (page : Nat) (message : String) :
    Effect.Silent (pageFailed call page message).1 := by
  simp [pageFailed, Effect.silent]

theorem silent_quicStep {call : QuicCall} {label : QuicLabel} {outcome : QuicOutcome}
    (taken : quicStep call label = some (effects, outcome)) : Effect.Silent effects := by
  unfold quicStep at taken
  split at taken
  · obtain ⟨rfl, -⟩ := Prod.mk.inj (Option.some.inj taken)
    exact silent_nextPage call _ _
  · obtain ⟨rfl, -⟩ := Prod.mk.inj (Option.some.inj taken)
    simp [Effect.silent]
  · obtain ⟨rfl, -⟩ := Prod.mk.inj (Option.some.inj taken)
    simp [Effect.silent]
  · obtain ⟨result, requested, same⟩ := Option.map_eq_some_iff.mp taken
    have quiet := silent_requestStep requested
    split at same
    · obtain ⟨rfl, -⟩ := Prod.mk.inj same
      exact quiet
    · obtain ⟨rfl, -⟩ := Prod.mk.inj same
      exact quiet
    · obtain ⟨rfl, -⟩ := Prod.mk.inj same
      exact quiet.append (silent_pageFailed call _ _)
  · split at taken
    · obtain ⟨rfl, -⟩ := Prod.mk.inj (Option.some.inj taken)
      simp
    · simp at taken
  · split at taken
    · simp at taken
    · obtain ⟨result, requested, same⟩ := Option.map_eq_some_iff.mp taken
      obtain ⟨rfl, -⟩ := Prod.mk.inj same
      exact silent_requestStep requested
  · obtain ⟨rfl, -⟩ := Prod.mk.inj (Option.some.inj taken)
    exact silent_pageFailed call _ _
  · obtain ⟨rfl, -⟩ := Prod.mk.inj (Option.some.inj taken)
    exact silent_nextPage call _ _
  · simp at taken

theorem silent_startQuic {activity : UserActivity} {connectionId : Uuid} {draw : Nat}
    {setupError : Option String} {outcome : QuicOutcome}
    (taken : startQuic pool activity connectionId draw setupError = some (effects, outcome)) :
    Effect.Silent effects := by
  cases start_of_startQuic taken <;> simp [Effect.silent]

end Activities

/-! ## The gauge -/

/-- Between `increment_active_users` and `decrement_active_users`. A task that panicked
stays there. -/
def Control.inSession : Control → Bool
  | .waiting | .finished => false
  | .idle | .tcp _ | .quic _ | .panicked _ _ => true

/-- The users whose session is under way. -/
def sessionsUnderWay (state : ClientState) : Nat :=
  state.users.countP (·.control.inSession)

section Gauge

variable {pool : ServerPool} {stopped : Bool} {control next : Control} {label : UserLabel}
  {effects : List Effect}

theorem inSession_tcp (outcome : TcpOutcome) : outcome.control.inSession = true := by
  cases outcome <;> rfl

theorem inSession_quic (outcome : QuicOutcome) : outcome.control.inSession = true := by
  cases outcome <;> rfl

/-- What a user's step does to the gauge. -/
inductive GaugeMove : Control → List Effect → Control → Prop where
  | begins : GaugeMove .waiting [.incrementActiveUsers] .idle
  | ends : GaugeMove .idle [.decrementActiveUsers] .finished
  | goesOn {control next : Control} {effects : List Effect} (silent : Effect.Silent effects)
      (same : next.inSession = control.inSession) : GaugeMove control effects next

theorem gaugeMove_of_controlStep
    (taken : controlStep pool stopped control label = some (effects, next)) :
    GaugeMove control effects next := by
  unfold controlStep at taken
  split at taken
  · obtain ⟨rfl, rfl⟩ := Prod.mk.inj (Option.some.inj taken)
    exact .begins
  · split at taken
    · obtain ⟨result, started, same⟩ := Option.map_eq_some_iff.mp taken
      obtain ⟨rfl, rfl⟩ := Prod.mk.inj same
      exact .goesOn (silent_startQuic started) (inSession_quic _)
    · obtain ⟨result, started, same⟩ := Option.map_eq_some_iff.mp taken
      obtain ⟨rfl, rfl⟩ := Prod.mk.inj same
      refine .goesOn ?_ (inSession_tcp _)
      rcases startTcp_cases started with ⟨none, _⟩ | opened
      · simp [none]
      · rw [(Prod.mk.inj opened).1]
        exact silent_openConnection pool _ _ _ _
  · obtain ⟨result, stepped, same⟩ := Option.map_eq_some_iff.mp taken
    obtain ⟨rfl, rfl⟩ := Prod.mk.inj same
    exact .goesOn (silent_tcpStep stepped) (inSession_tcp _)
  · obtain ⟨result, stepped, same⟩ := Option.map_eq_some_iff.mp taken
    obtain ⟨rfl, rfl⟩ := Prod.mk.inj same
    exact .goesOn (silent_quicStep stepped) (inSession_quic _)
  · obtain ⟨rfl, rfl⟩ := Prod.mk.inj (Option.some.inj taken)
    exact .ends
  · simp at taken

theorem gaugeMove_of_userStep {state : ClientState} {index : Nat} {result : List Effect × User}
    (taken : userStep state index label = some result) :
    ∃ user, state.users[index]? = some user ∧
      GaugeMove user.control result.1 result.2.control := by
  unfold userStep at taken
  split at taken
  · rename_i user present
    obtain rfl := Option.some.inj taken
    exact ⟨user, present, .goesOn (by simp) rfl⟩
  · rename_i user present notStop
    obtain ⟨⟨effects, control⟩, own, guarded⟩ := Option.bind_eq_some_iff.mp taken
    split at guarded
    · obtain rfl := Option.some.inj guarded
      exact ⟨user, present, gaugeMove_of_controlStep own⟩
    · simp at guarded
  · simp at taken

/-- The gauge shows the sessions under way, and there are at most as many users as it
can count. -/
structure Gauged (limit : UInt32) (state : ClientState) : Prop where
  shows : state.shared.metrics.activeUsers.toNat = sessionsUnderWay state
  users : state.users.length = limit.toNat

theorem gauged_of_step {limit : UInt32} {state after : ClientState} {label : ClientLabel}
    (gauged : Gauged limit state) (taken : clientMachine.step state label = some after) :
    Gauged limit after := by
  cases label with
  | user index label =>
      obtain ⟨⟨effects, user⟩, own, rfl⟩ := Option.map_eq_some_iff.mp taken
      obtain ⟨old, present, move⟩ := gaugeMove_of_userStep own
      have counted := countP_set_add (fun user : User => user.control.inSession) present user
      have bound : (state.users.set index user).countP (fun user => user.control.inSession) ≤
          limit.toNat := by
        rw [← gauged.users, ← @List.length_set _ state.users index user]
        exact List.countP_le_length
      refine ⟨?_, by simpa using gauged.users⟩
      have before := gauged.shows
      have small := limit.toNat_lt
      show (Effect.applyAll state.now state.shared effects).metrics.activeUsers.toNat =
        (state.users.set index user).countP (fun user => user.control.inSession)
      unfold sessionsUnderWay at before
      generalize was : old.control = control at move counted
      generalize now : user.control = next at move counted
      cases move with
      | begins =>
          have raised : (Effect.applyAll state.now state.shared
              [.incrementActiveUsers]).metrics.activeUsers =
                state.shared.metrics.activeUsers + 1 := rfl
          have more : (state.users.set index user).countP (fun user => user.control.inSession) =
              state.users.countP (fun user => user.control.inSession) + 1 := by
            simpa [show Control.waiting.inSession = false from rfl,
              show Control.idle.inSession = true from rfl] using counted
          have below : state.users.countP (fun user => user.control.inSession) + 1 < 2 ^ 32 := by
            rw [← more]
            exact bound.trans_lt small
          rw [raised, UInt32.toNat_add, before, more]
          exact Nat.mod_eq_of_lt below
      | ends =>
          have fewer : (state.users.set index user).countP (fun user => user.control.inSession) +
              1 = state.users.countP (fun user => user.control.inSession) := by
            simpa [show Control.finished.inSession = false from rfl,
              show Control.idle.inSession = true from rfl] using counted
          have some : 1 ≤ state.shared.metrics.activeUsers := by
            rw [UInt32.le_iff_toNat_le, before, ← fewer]
            exact Nat.le_add_left 1 _
          have lowered : (Effect.applyAll state.now state.shared
              [.decrementActiveUsers]).metrics.activeUsers =
                state.shared.metrics.activeUsers - 1 := by
            show (state.shared.metrics.decrementActiveUsers).activeUsers = _
            rw [MetricsCollector.decrementActiveUsers, if_pos]
            rw [UInt32.lt_iff_toNat_lt]
            exact UInt32.le_iff_toNat_le.mp some
          rw [lowered, UInt32.toNat_sub_of_le _ _ some, before, ← fewer]
          rfl
      | goesOn silent same =>
          rw [Effect.activeUsers_applyAll silent, before]
          rw [same] at counted
          exact (Nat.add_right_cancel counted).symm
  | _ =>
      have move := move_of_clientStep taken
      cases move with
      | environment users metrics addresses counters idle =>
          exact ⟨by rw [metrics, gauged.shows, sessionsUnderWay, sessionsUnderWay, users],
            by rw [users]; exact gauged.users⟩

/-- In every state of the client the gauge is the number of sessions under way, which is
at most the number of users. -/
theorem active_users_exact {addresses : List SocketAddr} {order : IterationOrder addresses}
    {config : LoadBalancerConfig} {concurrentUsers : UInt32}
    {trace : List (ClientState × ClientLabel)} {state : ClientState}
    (run : clientMachine.Run (startClient addresses order config concurrentUsers) trace state) :
    state.shared.metrics.activeUsers.toNat = sessionsUnderWay state ∧
      state.shared.metrics.activeUsers ≤ concurrentUsers := by
  have gauged : Gauged concurrentUsers state := by
    refine run.invariant (Gauged concurrentUsers) ?_ (fun _ _ _ holds taken =>
      gauged_of_step holds taken)
    refine ⟨?_, by simp [startClient]⟩
    have none : (startClient addresses order config concurrentUsers).users.countP
        (fun user => user.control.inSession) = 0 := by
      rw [List.countP_eq_zero]
      intro user member
      obtain rfl := List.eq_of_mem_replicate member
      decide
    exact none.symm
  refine ⟨gauged.shows, ?_⟩
  rw [UInt32.le_iff_toNat_le, gauged.shows, ← gauged.users]
  exact List.countP_le_length

end Gauge

/-- A session under way shows. -/
theorem active_users_exact_browsing :
    ∃ last, clientMachine.play oneUser
        [.user 0 .start, .user 0 (.activity (.webBrowsing 1 (1, 1)) ⟨1⟩ 0 none)] = some last ∧
      last.shared.metrics.activeUsers.toNat = 1 := by
  obtain ⟨last, played, controls⟩ := Option.map_eq_some_iff.mp (show
    (clientMachine.play oneUser
        [.user 0 .start, .user 0 (.activity (.webBrowsing 1 (1, 1)) ⟨1⟩ 0 none)]).map
          sessionsUnderWay = some 1 by decide +kernel)
  exact ⟨last, played, (active_users_exact (Machine.run_of_play played)).1.trans controls⟩

end Npt.Client
