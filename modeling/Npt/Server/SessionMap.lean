import Mathlib.Data.List.Perm.Subperm
import Npt.Server.SessionAttribution
import Npt.Server.SessionCleanup

/-!
Contract: what the session map of the QUIC server can hold.

Owns: that a session in the map belongs to a connection that has not returned,
so that the map is no larger than their number, and that no session in the map
was idle for more than 120 s at a scan of the cleanup that is over.

Does not own: which idle sessions a sweep may wrongly remove.
-/

namespace Npt.Server

open Npt.Core
open Npt.Shared

/-! ## Time and stamps over any step -/

theorem now_removeSession (state : ServerState) (address : SocketAddr) :
    (state.removeSession address).now = state.now := by
  unfold ServerState.removeSession
  split <;> rfl

theorem now_removeSessions (addresses : List SocketAddr) (state : ServerState) :
    (state.removeSessions addresses).now = state.now := by
  induction addresses generalizing state with
  | nil => rfl
  | cons address addresses inductionHypothesis =>
      exact (inductionHypothesis (state.removeSession address)).trans (now_removeSession state address)

theorem stamp_removeSessions (addresses : List SocketAddr) (state : ServerState)
    (other : SocketAddr) :
    (state.removeSessions addresses).stamp other =
      if other ∈ addresses then none else state.stamp other := by
  induction addresses generalizing state with
  | nil => simp [ServerState.removeSessions]
  | cons address addresses inductionHypothesis =>
      have rest := inductionHypothesis (state.removeSession address)
      rw [stamp_removeSession] at rest
      refine rest.trans ?_
      by_cases same : other = address <;> simp [same]

theorem sweep_of_step {state next : ServerState}
    (taken : serverMachine.step state .cleanupSweep = some next) :
    next = { state.removeSessions state.toRemove with toRemove := [] } := by
  cases move_of_serverStep taken with
  | swept => rfl

theorem scan_of_step {state next : ServerState}
    (taken : serverMachine.step state .cleanupScan = some next) :
    next = { state with toRemove := state.inactive } := by
  cases move_of_serverStep taken with
  | scanned => rfl

theorem now_le_of_step {state next : ServerState} {label : ServerLabel}
    (taken : serverMachine.step state label = some next) : state.now ≤ next.now := by
  by_cases scanned : label = .cleanupScan
  · subst scanned
    rw [scan_of_step taken]
  · by_cases swept : label = .cleanupSweep
    · subst swept
      rw [sweep_of_step taken]
      exact (now_removeSessions state.toRemove state).ge
    · exact (steady_of_step taken scanned swept).1

/-- A step renews a stamp, takes it away or leaves it. -/
theorem stamp_cases {state next : ServerState} {label : ServerLabel}
    (taken : serverMachine.step state label = some next) {address : SocketAddr} {id : Uuid}
    {active : Nat} (stamped : next.stamp address = some (id, active)) :
    active = state.now ∨ state.stamp address = some (id, active) := by
  by_cases swept : label = .cleanupSweep
  · subst swept
    rw [sweep_of_step taken] at stamped
    have left := (stamp_removeSessions state.toRemove state address).symm.trans stamped
    split at left
    · simp at left
    · exact Or.inr left
  · cases stampChange_of_step taken swept address with
    | renewed other renews undropped now =>
        obtain ⟨-, rfl⟩ := Prod.mk.inj (Option.some.inj (stamped.symm.trans now))
        exact Or.inl rfl
    | dropped fresh drops gone => simp [gone] at stamped
    | kept fresh undropped same => exact Or.inr (same ▸ stamped)

/-! ## Sessions that a scan found, or could have found -/

/-- No session in the map was idle for more than 120 s at a moment that is
over, and none is active in the future. -/
structure Aged (moment : Nat) (state : ServerState) : Prop where
  clock : moment ≤ state.now
  recent : ∀ address id active, state.stamp address = some (id, active) →
    moment ≤ active + 120000 ∧ active ≤ state.now

theorem aged_of_step {moment : Nat} {state next : ServerState} {label : ServerLabel}
    (aged : Aged moment state) (taken : serverMachine.step state label = some next) :
    Aged moment next := by
  have later := now_le_of_step taken
  refine ⟨aged.clock.trans later, fun address id active stamped => ?_⟩
  have clock := aged.clock
  rcases stamp_cases taken stamped with rfl | earlier
  · omega
  · have before := aged.recent address id active earlier
    omega

theorem aged_of_run {moment : Nat} {start state : ServerState}
    {trace : List (ServerState × ServerLabel)} (run : serverMachine.Run start trace state)
    (aged : Aged moment start) : Aged moment state :=
  run.invariant (Aged moment) aged (fun _ _ _ holds taken => aged_of_step holds taken)

theorem aged_start (metrics : MetricsCollector) : Aged 0 (startServer metrics) := by
  constructor <;> simp [startServer, ServerState.stamp, ServerState.session]

/-- A scan that collects nothing finds every session recent. -/
theorem aged_of_scan {scan next : ServerState} (taken : serverMachine.step scan .cleanupScan = some next)
    (nothing : scan.inactive = []) (aged : Aged 0 scan) : Aged scan.now next := by
  rw [scan_of_step taken]
  refine ⟨Nat.le_refl _, fun address id active stamped => ?_⟩
  change scan.stamp address = some (id, active) at stamped
  have fresh : address ∉ scan.inactive := by simp [nothing]
  rw [mem_inactive_iff] at fresh
  have recent : ¬ 120000 < scan.now - active := fun idle => fresh ⟨id, active, stamped, idle⟩
  have past := (aged.recent address id active stamped).2
  exact ⟨by omega, past⟩

/-- What the sweep of a pass leaves was renewed since the scan, or the scan
found it recent. -/
theorem Pass.aged {start final scan sweep next : ServerState}
    {trace between : List (ServerState × ServerLabel)} (pass : Pass trace scan between sweep)
    (run : serverMachine.Run start trace final) (aged : Aged 0 sweep)
    (taken : serverMachine.step sweep .cleanupSweep = some next) : Aged scan.now next := by
  have since (address : SocketAddr) := since_of_run (pass.run run) pass.foreign address
  have same := now_removeSessions sweep.toRemove sweep
  have later : scan.now ≤ sweep.now := (since ⟨""⟩).clock
  rw [sweep_of_step taken]
  refine ⟨later.trans same.ge, fun address id active stamped => ?_⟩
  have left := (stamp_removeSessions sweep.toRemove sweep address).symm.trans stamped
  split at left
  · simp at left
  · rename_i kept
    have past := (aged.recent address id active left).2
    refine ⟨?_, past.trans same.ge⟩
    by_cases renewed : Renewed address between
    · obtain ⟨other, stamp, found, recent⟩ := (since address).renewed renewed
      obtain ⟨-, rfl⟩ := Prod.mk.inj (Option.some.inj (left.symm.trans found))
      exact recent.trans (Nat.le_add_right _ _)
    · rcases (since address).unrenewed renewed with earlier | gone
      · have uncollected : address ∉ scan.inactive := by
          rwa [(since address).collected] at kept
        rw [mem_inactive_iff] at uncollected
        have judged : scan.stamp address = some (id, active) := earlier.symm.trans left
        have recent : ¬ 120000 < scan.now - active :=
          fun idle => uncollected ⟨id, active, judged, idle⟩
        omega
      · simp [gone] at left

/-- A scan of the trace is over: it collected nothing, or its sweep is done. -/
inductive ScanOver (trace : List (ServerState × ServerLabel)) (scan : ServerState) : Prop where
  | empty (scanned : (scan, .cleanupScan) ∈ trace) (nothing : scan.inactive = [])
  | swept (between : List (ServerState × ServerLabel)) (sweep : ServerState)
      (pass : Pass trace scan between sweep)

theorem ScanOver.aged {metrics : MetricsCollector} {trace : List (ServerState × ServerLabel)}
    {scan state : ServerState} (ended : ScanOver trace scan)
    (run : serverMachine.Run (startServer metrics) trace state) : Aged scan.now state := by
  cases ended with
  | empty scanned nothing =>
      obtain ⟨before, after, shape⟩ := List.append_of_mem scanned
      obtain ⟨next, reached, taken, rest⟩ := run.split shape
      have aged := aged_of_run reached (aged_start metrics)
      exact aged_of_run rest (aged_of_scan taken nothing aged)
  | swept between sweep pass =>
      obtain ⟨before, after, shape⟩ := pass.recorded
      have whole : trace = (before ++ (scan, .cleanupScan) :: between) ++
          (sweep, .cleanupSweep) :: after := by simp [shape]
      obtain ⟨next, reached, taken, rest⟩ := run.split whole
      have aged := aged_of_run reached (aged_start metrics)
      exact aged_of_run rest (pass.aged run aged taken)

/-! ## Whose sessions are in the map -/

/-- The connections whose tasks have not returned. -/
def ServerState.live (state : ServerState) : List Connection :=
  state.connections.filter (fun connection => connection.stage ≠ .returned)

theorem Sound.live {state : ServerState} (sound : Sound state) {address : SocketAddr}
    {session : QuicSession} (found : state.session address = some session) :
    ∃ connection ∈ state.live, connection.remoteAddr = address ∧
      connection.connectionId = session.id := by
  have held : state.holder address = some session.id := by simp [ServerState.holder, found]
  obtain ⟨index, connection, there, here, own⟩ := sound.owner address session.id held
  refine ⟨connection, List.mem_filter.mpr ⟨List.mem_of_getElem? there, ?_⟩, here, own⟩
  have running : connection.stage ≠ .returned := by
    intro returned
    refine sound.settled index connection there returned ?_
    rw [Holds, here, own, held]
  simpa using running

/-- The addresses of the map are addresses of live connections. -/
theorem Sound.length_le {state : ServerState} (sound : Sound state) :
    state.sessions.records.length ≤ state.live.length := by
  have within : state.sessions.records.map Prod.fst ⊆ state.live.map Connection.remoteAddr := by
    intro address member
    obtain ⟨entry, here, rfl⟩ := List.mem_map.mp member
    have found : state.session entry.1 = some entry.2 := by
      simp [ServerState.session, state.sessions.get?_of_mem here]
    obtain ⟨connection, alive, same, -⟩ := sound.live found
    exact List.mem_map.mpr ⟨connection, alive, same⟩
  have shorter := (state.sessions.distinct.subperm within).length_le
  simpa using shorter

/-- Every session in the map is under the address of a live connection that
owns it, there are no more sessions than live connections, and no session was
idle for more than 120 s at a scan that is over. -/
theorem session_map_bounded (metrics : MetricsCollector)
    {trace : List (ServerState × ServerLabel)} {state : ServerState}
    (run : serverMachine.Run (startServer metrics) trace state) :
    (∀ address session, state.session address = some session →
      (∃ connection ∈ state.live, connection.remoteAddr = address ∧
          connection.connectionId = session.id) ∧
        session.lastActivity ≤ state.now ∧
        ∀ scan, ScanOver trace scan → scan.now ≤ session.lastActivity + 120000) ∧
      state.sessions.records.length ≤ state.live.length := by
  have sound := sound_of_run run
  refine ⟨fun address session found => ?_, sound.length_le⟩
  have stamped : state.stamp address = some (session.id, session.lastActivity) := by
    simp [ServerState.stamp, found]
  have past := (aged_of_run run (aged_start metrics)).recent _ _ _ stamped
  refine ⟨sound.live found, past.2, fun scan ended => ?_⟩
  exact ((ended.aged run).recent _ _ _ stamped).1

/-! ## One idle session and a new one -/

/-- A connection is idle for two minutes; then another one is opened. -/
def openedAfterIdle : List ServerLabel :=
  [.opened idleAddr ⟨1⟩, .started 0, .elapse 120001, .opened ⟨"192.0.2.8:50000"⟩ ⟨2⟩]

/-- The server when its cleanup task scans. -/
def openedScan : ServerState :=
  (serverMachine.play (startServer {}) openedAfterIdle).get (by decide +kernel)

/-- The server when its cleanup task has collected the idle session. -/
def openedSweep : ServerState := { openedScan with toRemove := openedScan.inactive }

/-- The sweep leaves the new session alone. -/
theorem session_map_bounded_opened :
    ∃ trace state, serverMachine.Run (startServer {}) trace state ∧ ScanOver trace openedScan ∧
      ∃ session, state.session ⟨"192.0.2.8:50000"⟩ = some session ∧
        120001 ≤ session.lastActivity + 120000 ∧
        state.sessions.records.length ≤ state.live.length := by
  have vacant : openedScan.toRemove = [] := by decide +kernel
  have time : openedScan.now = 120001 := by decide +kernel
  have collected : openedSweep.toRemove = [idleAddr] := by decide +kernel
  have present : (openedSweep.stamp ⟨"192.0.2.8:50000"⟩).isSome = true := by decide +kernel
  have scanned := (Machine.run_of_play (Option.some_get _).symm).snoc (scan_of_vacant vacant)
  obtain ⟨next, swept⟩ := @sweep_of_collected openedSweep (by simp [collected])
  have run := scanned.snoc swept
  have ended : ScanOver (serverMachine.trace (startServer {}) openedAfterIdle ++
      [(openedScan, .cleanupScan)] ++ [(openedSweep, .cleanupSweep)]) openedScan :=
    .swept [] openedSweep
      { recorded := ⟨_, [], by simp; rfl⟩
        foreign := by simp [Foreign] }
  have kept : next.stamp ⟨"192.0.2.8:50000"⟩ = openedSweep.stamp ⟨"192.0.2.8:50000"⟩ := by
    rw [sweep_of_step swept, collected]
    exact (stamp_removeSessions _ _ _).trans (if_neg (by simp [idleAddr]))
  rw [← kept, ServerState.stamp, Option.isSome_map] at present
  obtain ⟨session, found⟩ := Option.isSome_iff_exists.mp present
  obtain ⟨held, bounded⟩ := session_map_bounded {} run
  have recent := (held _ session found).2.2 openedScan ended
  exact ⟨_, next, run, ended, session, found, time ▸ recent, bounded⟩

end Npt.Server
