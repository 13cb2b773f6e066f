import Npt.Server.QuicServer

/-!
Owns: what `cleanup_inactive_sessions` removes over whole runs of the QUIC
server. The scan and the sweep are two critical sections, and the sweep goes by
address only: it removes an idle session exactly when nobody renewed it since.

Does not own: what the metrics keep of a removed session.
-/

namespace Npt.Server

open Npt.Core
open Npt.Shared

/-! ## A session's stamp -/

/-- What the cleanup's verdict is about: which session is under an address, and
when it was last active. -/
def ServerState.stamp (state : ServerState) (address : SocketAddr) : Option (Uuid × Nat) :=
  (state.session address).map fun session => (session.id, session.lastActivity)

section Stamps

variable (state : ServerState) (address other : SocketAddr)

theorem stamp_insertSession (session : QuicSession) :
    (state.insertSession address session).stamp other =
      if other = address then some (session.id, session.lastActivity) else state.stamp other := by
  by_cases same : other = address
  · subst same
    have here := state.sessions.get?_insert_self (other, session)
    simp only [ServerState.stamp, ServerState.session, ServerState.insertSession] at here ⊢
    simp [here]
  · have there : (state.sessions.insert (address, session)).get? other = _ :=
      state.sessions.get?_insert_ne same
    simp [ServerState.stamp, ServerState.session, ServerState.insertSession, there, same]

theorem session_removeSession :
    (state.removeSession address).session other =
      if other = address then none else state.session other := by
  unfold ServerState.removeSession
  by_cases same : other = address
  · subst same
    split
    · simp [ServerState.session, Table.get?_remove_self]
    · rename_i vacant
      simp [vacant]
  · split
    · simp [ServerState.session, Table.get?_remove_ne _ same, same]
    · simp [same]

theorem stamp_removeSession :
    (state.removeSession address).stamp other =
      if other = address then none else state.stamp other := by
  rw [ServerState.stamp, session_removeSession]
  split <;> rfl

theorem session_updateSession (change : QuicSession → QuicSession)
    (record : MetricsCollector → Uuid → MetricsCollector) :
    (state.updateSession address change record).session other =
      if other = address then (state.session other).map change else state.session other := by
  unfold ServerState.updateSession
  split
  · simp only [ServerState.session, Table.get?_modify]
    cases found : state.sessions.get? other with
    | none => simp
    | some entry =>
        have key : entry.1 = other := state.sessions.key_of_get? found
        by_cases same : other = address
        · simp [key, same]
        · simp [key, same]
  · rename_i vacant
    by_cases same : other = address
    · simp [same, vacant]
    · simp [same]

/-- A request makes its session active now. -/
theorem stamp_recordRequest (length : Nat) :
    (state.recordRequest address length).stamp other =
      if other = address then (state.stamp other).map fun stamp => (stamp.1, state.now)
      else state.stamp other := by
  rw [ServerState.stamp, ServerState.recordRequest, session_updateSession]
  split
  · simp [ServerState.stamp, Option.map_map, Function.comp_def]
  · rfl

/-- A response leaves the stamps alone. -/
theorem stamp_recordResponse (length draw : Nat) :
    (state.recordResponse address length draw).stamp other = state.stamp other := by
  rw [ServerState.stamp, ServerState.recordResponse, session_updateSession]
  split
  · simp [ServerState.stamp, Option.map_map, Function.comp_def]
  · rfl

end Stamps

/-! ## What the sweep removes -/

/-- The sessions that the loop of the sweep takes out of the map, each at its
turn. -/
def ServerState.sweptOut (state : ServerState) : List SocketAddr → List (SocketAddr × QuicSession)
  | [] => []
  | address :: rest =>
      match state.session address with
      | some session => (address, session) :: (state.removeSession address).sweptOut rest
      | none => (state.removeSession address).sweptOut rest

theorem mem_sweptOut_iff {address : SocketAddr} {session : QuicSession}
    (addresses : List SocketAddr) (state : ServerState) :
    (address, session) ∈ state.sweptOut addresses ↔
      address ∈ addresses ∧ state.session address = some session := by
  induction addresses generalizing state with
  | nil => simp [ServerState.sweptOut]
  | cons first rest inductionHypothesis =>
      rw [ServerState.sweptOut]
      cases found : state.session first with
      | none =>
          simp only [inductionHypothesis, session_removeSession, List.mem_cons]
          by_cases same : address = first
          · simp [same, found]
          · simp [same]
      | some other =>
          simp only [inductionHypothesis, session_removeSession, List.mem_cons, Prod.mk.injEq]
          by_cases same : address = first
          · simp [same, found, eq_comm]
          · simp [same]

/-! ## Renewals -/

/-- The step makes the session under an address active, or puts a new one
there. -/
def Renews (address : SocketAddr) (entry : ServerState × ServerLabel) : Prop :=
  match entry.2 with
  | .opened remoteAddr _ => remoteAddr = address
  | .stream position .recordRequest =>
      (entry.1.streams[position]?).map Stream.remoteAddr = some address ∧
        entry.1.session address ≠ none
  | _ => False

/-- The step removes what is under an address at a connection's end. -/
def Drops (address : SocketAddr) (entry : ServerState × ServerLabel) : Prop :=
  match entry.2 with
  | .ended index => (entry.1.connections[index]?).map Connection.remoteAddr = some address
  | _ => False

/-- A renewal of the trace whose session is still there. -/
def Renewed (address : SocketAddr) (trace : List (ServerState × ServerLabel)) : Prop :=
  ∃ earlier entry later, trace = earlier ++ entry :: later ∧ Renews address entry ∧
    ∀ drop ∈ later, ¬Drops address drop

theorem renewed_nil (address : SocketAddr) : ¬Renewed address [] := by
  rintro ⟨earlier, entry, later, shape, -⟩
  simp at shape

theorem renewed_snoc_iff (address : SocketAddr) (trace : List (ServerState × ServerLabel))
    (entry : ServerState × ServerLabel) :
    Renewed address (trace ++ [entry]) ↔
      Renews address entry ∨ Renewed address trace ∧ ¬Drops address entry := by
  constructor
  · rintro ⟨earlier, renewal, later, shape, renews, kept⟩
    rcases List.eq_nil_or_concat later with rfl | ⟨middle, last, rfl⟩
    · obtain ⟨-, same⟩ := List.append_inj' shape rfl
      rw [List.singleton_inj.mp same]
      exact Or.inl renews
    · have regrouped : trace ++ [entry] = (earlier ++ renewal :: middle) ++ [last] := by
        simpa using shape
      obtain ⟨sameTrace, sameEntry⟩ := List.append_inj' regrouped rfl
      obtain rfl := List.singleton_inj.mp sameEntry
      refine Or.inr ⟨⟨earlier, renewal, middle, sameTrace, renews, ?_⟩, kept _ (by simp)⟩
      exact fun drop member => kept drop (by simp [member])
  · rintro (renews | ⟨⟨earlier, renewal, later, rfl, renews, kept⟩, undropped⟩)
    · exact ⟨trace, entry, [], rfl, renews, by simp⟩
    · refine ⟨earlier, renewal, later ++ [entry], by simp, renews, fun drop member => ?_⟩
      rcases List.mem_append.mp member with before | last
      · exact kept drop before
      · rwa [List.mem_singleton.mp last]

/-! ## What a step does to a stamp -/

/-- What one step other than a sweep does to the stamp under an address. -/
inductive StampChange (address : SocketAddr) (state : ServerState) (label : ServerLabel)
    (next : ServerState) : Prop where
  | renewed (id : Uuid) (renews : Renews address (state, label))
      (undropped : ¬Drops address (state, label))
      (now : next.stamp address = some (id, state.now))
  | dropped (fresh : ¬Renews address (state, label)) (drops : Drops address (state, label))
      (gone : next.stamp address = none)
  | kept (fresh : ¬Renews address (state, label)) (undropped : ¬Drops address (state, label))
      (same : next.stamp address = state.stamp address)

/-- A step of a stream moves the stamp under its address with its request only. -/
theorem stampChange_of_streamStep {state after : ServerState} {position : Nat} {stream : Stream}
    {label : StreamLabel} {stage : StreamStage} {streams : List Stream}
    (present : state.streams[position]? = some stream)
    (taken : streamStep state stream label = some (after, stage)) (address : SocketAddr) :
    StampChange address state (.stream position label) { after with streams := streams } := by
  have undropped : ¬Drops address (state, .stream position label) := by simp [Drops]
  have quiet (other : label ≠ .recordRequest) :
      ¬Renews address (state, .stream position label) := by
    cases label <;> simp_all [Renews]
  have still (other : label ≠ .recordRequest) (same : after = state) :
      StampChange address state (.stream position label) { after with streams := streams } := by
    subst same
    exact .kept (quiet other) undropped rfl
  cases label with
  | read data =>
      simp only [streamStep] at taken
      repeat' split at taken
      all_goals simp at taken
      all_goals exact still (by simp) taken.1.symm
  | readEnds | written | writeFailed =>
      simp only [streamStep] at taken
      split at taken
      · obtain ⟨rfl, -⟩ := Prod.mk.inj (Option.some.inj taken)
        exact still (by simp) rfl
      · simp at taken
  | recordRequest =>
      simp only [streamStep] at taken
      split at taken
      · rename_i requestData received
        obtain ⟨rfl, -⟩ := Prod.mk.inj (Option.some.inj taken)
        have stamped := stamp_recordRequest state stream.remoteAddr address requestData.length
        by_cases here : address = stream.remoteAddr
        · rw [if_pos here] at stamped
          subst here
          cases found : state.session stream.remoteAddr with
          | none =>
              refine .kept (by simp [Renews, found]) undropped ?_
              exact stamped.trans (by simp [ServerState.stamp, found])
          | some session =>
              refine .renewed session.id ?_ undropped ?_
              · simp [Renews, present, found]
              · exact stamped.trans (by simp [ServerState.stamp, found])
        · rw [if_neg here] at stamped
          refine .kept ?_ undropped stamped
          simp [Renews, present, Ne.symm here]
      · simp at taken
  | recordResponse draw =>
      simp only [streamStep] at taken
      split at taken
      · rename_i length responded
        obtain ⟨rfl, -⟩ := Prod.mk.inj (Option.some.inj taken)
        refine .kept (quiet (by simp)) undropped ?_
        exact stamp_recordResponse state stream.remoteAddr address length draw
      · simp at taken

theorem stampChange_of_step {state next : ServerState} {label : ServerLabel}
    (taken : serverMachine.step state label = some next) (unswept : label ≠ .cleanupSweep)
    (address : SocketAddr) : StampChange address state label next := by
  cases label with
  | opened remoteAddr connectionId =>
      simp only [serverMachine, serverStep] at taken
      split at taken
      · simp at taken
      · obtain rfl := Option.some.inj taken
        have stamped := stamp_insertSession state remoteAddr address
          { id := connectionId, startTime := state.now, lastActivity := state.now }
        by_cases here : address = remoteAddr
        · rw [if_pos here] at stamped
          exact .renewed connectionId (by simp [Renews, here]) (by simp [Drops]) stamped
        · rw [if_neg here] at stamped
          exact .kept (by simp [Renews, Ne.symm here]) (by simp [Drops]) stamped
  | ended index =>
      obtain ⟨connection, present, guarded⟩ := Option.bind_eq_some_iff.mp taken
      split at guarded
      · obtain rfl := Option.some.inj guarded
        have stamped := stamp_removeSession state connection.remoteAddr address
        by_cases here : address = connection.remoteAddr
        · rw [if_pos here] at stamped
          exact .dropped (by simp [Renews]) (by simp [Drops, present, here]) stamped
        · rw [if_neg here] at stamped
          exact .kept (by simp [Renews]) (by simp [Drops, present, Ne.symm here]) stamped
      · simp at guarded
  | started index | streamAccepted index =>
      obtain ⟨connection, present, guarded⟩ := Option.bind_eq_some_iff.mp taken
      split at guarded
      · obtain rfl := Option.some.inj guarded
        exact .kept (by simp [Renews]) (by simp [Drops]) rfl
      · simp at guarded
  | stream position label =>
      obtain ⟨stream, present, stepped⟩ := Option.bind_eq_some_iff.mp taken
      obtain ⟨⟨after, stage⟩, own, rfl⟩ := Option.map_eq_some_iff.mp stepped
      exact stampChange_of_streamStep present own address
  | cleanupScan =>
      simp only [serverMachine, serverStep] at taken
      split at taken
      · obtain rfl := Option.some.inj taken
        exact .kept (by simp [Renews]) (by simp [Drops]) rfl
      · simp at taken
  | cleanupSweep => exact absurd rfl unswept
  | elapse ms =>
      obtain rfl := Option.some.inj taken
      exact .kept (by simp [Renews]) (by simp [Drops]) rfl

/-- Away from the cleanup task time does not go back and its list stays. -/
theorem steady_of_step {state next : ServerState} {label : ServerLabel}
    (taken : serverMachine.step state label = some next) (unscanned : label ≠ .cleanupScan)
    (unswept : label ≠ .cleanupSweep) :
    state.now ≤ next.now ∧ next.toRemove = state.toRemove := by
  cases move_of_serverStep taken with
  | opened | started | accepted | streamed => exact ⟨Nat.le_refl _, rfl⟩
  | @ended index connection =>
      have same : (state.removeSession connection.remoteAddr).now = state.now ∧
          (state.removeSession connection.remoteAddr).toRemove = state.toRemove := by
        unfold ServerState.removeSession
        split <;> exact ⟨rfl, rfl⟩
      exact ⟨same.1.ge, same.2⟩
  | @recorded position stream label amount change record =>
      have same : (state.updateSession stream.remoteAddr change record).now = state.now ∧
          (state.updateSession stream.remoteAddr change record).toRemove = state.toRemove := by
        unfold ServerState.updateSession
        split <;> exact ⟨rfl, rfl⟩
      exact ⟨same.1.ge, same.2⟩
  | scanned => exact absurd rfl unscanned
  | swept => exact absurd rfl unswept
  | elapsed => exact ⟨Nat.le_add_right _ _, rfl⟩

/-! ## Between the scan and the sweep -/

/-- The steps of other tasks. -/
def Foreign (trace : List (ServerState × ServerLabel)) : Prop :=
  ∀ entry ∈ trace, entry.2 ≠ .cleanupScan ∧ entry.2 ≠ .cleanupSweep

/-- What other tasks do to the session under an address: if the last thing they
did was to renew it, it is there and was active since; if not, it is the same or
gone. -/
structure Since (start : ServerState) (address : SocketAddr)
    (trace : List (ServerState × ServerLabel)) (state : ServerState) : Prop where
  clock : start.now ≤ state.now
  collected : state.toRemove = start.toRemove
  renewed : Renewed address trace →
    ∃ id active, state.stamp address = some (id, active) ∧ start.now ≤ active
  unrenewed : ¬Renewed address trace →
    state.stamp address = start.stamp address ∨ state.stamp address = none

theorem since_of_run {start state : ServerState} {trace : List (ServerState × ServerLabel)}
    (run : serverMachine.Run start trace state) (foreign : Foreign trace)
    (address : SocketAddr) : Since start address trace state := by
  induction run with
  | nil =>
      exact ⟨Nat.le_refl _, rfl, fun renewed => absurd renewed (renewed_nil address),
        fun _ => Or.inl rfl⟩
  | @snoc trace state next label before taken inductionHypothesis =>
      have since := inductionHypothesis (fun entry member => foreign entry (by simp [member]))
      obtain ⟨unscanned, unswept⟩ := foreign (state, label) (by simp)
      have steady := steady_of_step taken unscanned unswept
      have clock := since.clock.trans steady.1
      have collected := steady.2.trans since.collected
      cases stampChange_of_step taken unswept address with
      | renewed id renews undropped now =>
          refine ⟨clock, collected, fun _ => ⟨id, state.now, now, since.clock⟩, fun unrenewed => ?_⟩
          exact absurd ((renewed_snoc_iff _ _ _).mpr (Or.inl renews)) unrenewed
      | dropped fresh drops gone =>
          refine ⟨clock, collected, fun renewed => ?_, fun _ => Or.inr gone⟩
          rcases (renewed_snoc_iff _ _ _).mp renewed with renews | ⟨-, undropped⟩
          · exact absurd renews fresh
          · exact absurd drops undropped
      | kept fresh undropped same =>
          have earlier : Renewed address (trace ++ [(state, label)]) ↔ Renewed address trace := by
            rw [renewed_snoc_iff]
            exact ⟨fun either => either.elim (fun renews => absurd renews fresh) And.left,
              fun renewed => Or.inr ⟨renewed, undropped⟩⟩
          refine ⟨clock, collected, fun renewed => ?_, fun unrenewed => ?_⟩
          · rw [same]
            exact since.renewed (earlier.mp renewed)
          · rw [same]
            exact since.unrenewed (mt earlier.mpr unrenewed)

/-! ## Passes -/

/-- A pass of the cleanup: its scan, the steps of other tasks, and its sweep. -/
structure Pass (trace : List (ServerState × ServerLabel)) (scan : ServerState)
    (between : List (ServerState × ServerLabel)) (sweep : ServerState) : Prop where
  recorded : ∃ before after, trace =
    before ++ (scan, .cleanupScan) :: (between ++ (sweep, .cleanupSweep) :: after)
  foreign : Foreign between

/-- Every session that the sweep removes was idle for more than 120 s at the
scan, is idle still, and is the one that the scan judged. -/
def SweepSound (scan sweep : ServerState) : Prop :=
  ∀ address session, (address, session) ∈ sweep.sweptOut sweep.toRemove →
    120000 < scan.now - session.lastActivity ∧
      ∃ judged, scan.session address = some judged ∧ judged.id = session.id ∧
        120000 < scan.now - judged.lastActivity

theorem mem_inactive_iff {state : ServerState} {address : SocketAddr} :
    address ∈ state.inactive ↔
      ∃ id active, state.stamp address = some (id, active) ∧ 120000 < state.now - active := by
  simp only [ServerState.inactive, List.mem_map, List.mem_filter, decide_eq_true_eq]
  constructor
  · rintro ⟨entry, ⟨member, idle⟩, rfl⟩
    have found := state.sessions.get?_of_mem member
    exact ⟨entry.2.id, entry.2.lastActivity, by simp [ServerState.stamp, ServerState.session, found],
      idle⟩
  · rintro ⟨id, active, stamped, idle⟩
    simp only [ServerState.stamp, ServerState.session, Option.map_map, Option.map_eq_some_iff,
      Function.comp_apply, Prod.mk.injEq] at stamped
    obtain ⟨entry, found, rfl, rfl⟩ := stamped
    exact ⟨entry, ⟨state.sessions.mem_of_get? found, idle⟩, state.sessions.key_of_get? found⟩

/-- The steps between the scan and the sweep begin with what the scan collected. -/
theorem Pass.run {start final scan sweep : ServerState}
    {trace between : List (ServerState × ServerLabel)} (pass : Pass trace scan between sweep)
    (run : serverMachine.Run start trace final) :
    serverMachine.Run { scan with toRemove := scan.inactive } between sweep := by
  obtain ⟨before, after, shape⟩ := pass.recorded
  obtain ⟨collected, -, scanned, rest⟩ := run.split shape
  obtain ⟨-, foreign, -, -⟩ := rest.split rfl
  simp only [serverMachine, serverStep] at scanned
  split at scanned
  · obtain rfl := Option.some.inj scanned
    exact foreign
  · simp at scanned

/-- The stamp that decides: a pass is sound exactly when no collected session was
renewed and stayed. -/
theorem Pass.sound_iff {start final scan sweep : ServerState}
    {trace between : List (ServerState × ServerLabel)} (pass : Pass trace scan between sweep)
    (run : serverMachine.Run start trace final) :
    SweepSound scan sweep ↔ ∀ address ∈ sweep.toRemove, ¬Renewed address between := by
  have since (address : SocketAddr) := since_of_run (pass.run run) pass.foreign address
  constructor
  · intro sound address collected renewed
    obtain ⟨id, active, stamped, recent⟩ := (since address).renewed renewed
    obtain ⟨session, found, same⟩ := Option.map_eq_some_iff.mp stamped
    obtain ⟨-, rfl⟩ := Prod.mk.inj same
    have idle := (sound address session ((mem_sweptOut_iff _ _).mpr ⟨collected, found⟩)).1
    change scan.now ≤ session.lastActivity at recent
    omega
  · intro unrenewed address session removed
    obtain ⟨collected, found⟩ := (mem_sweptOut_iff _ _).mp removed
    have stamped : sweep.stamp address = some (session.id, session.lastActivity) := by
      simp [ServerState.stamp, found]
    rcases (since address).unrenewed (unrenewed address collected) with same | gone
    · have judgedStamp : scan.stamp address = some (session.id, session.lastActivity) :=
        same.symm.trans stamped
      rw [(since address).collected] at collected
      obtain ⟨id, active, found, idle⟩ := mem_inactive_iff.mp collected
      obtain ⟨rfl, rfl⟩ := Prod.mk.inj (Option.some.inj (found.symm.trans judgedStamp))
      obtain ⟨judged, present, same⟩ := Option.map_eq_some_iff.mp judgedStamp
      obtain ⟨sameId, sameActive⟩ := Prod.mk.inj same
      exact ⟨idle, judged, present, sameId, sameActive ▸ idle⟩
    · simp [gone] at stamped

/-- What the cleanup task holds comes from its last scan. -/
theorem collected_of_run {start state : ServerState} {trace : List (ServerState × ServerLabel)}
    (run : serverMachine.Run start trace state) (empty : start.toRemove = [])
    (holds : state.toRemove ≠ []) :
    ∃ before scan between, trace = before ++ (scan, .cleanupScan) :: between ∧
      Foreign between := by
  induction run with
  | nil => exact absurd empty holds
  | @snoc trace state next label earlier taken inductionHypothesis =>
      by_cases scanned : label = .cleanupScan
      · exact ⟨trace, state, [], by rw [scanned], by simp [Foreign]⟩
      · by_cases swept : label = .cleanupSweep
        · subst swept
          simp only [serverMachine, serverStep] at taken
          split at taken
          · simp at taken
          · obtain rfl := Option.some.inj taken
            exact absurd rfl holds
        · have kept := (steady_of_step taken scanned swept).2
          obtain ⟨before, scan, between, rfl, foreign⟩ := inductionHypothesis (kept ▸ holds)
          refine ⟨before, scan, between ++ [(state, label)], by simp, fun entry member => ?_⟩
          rcases List.mem_append.mp member with old | new
          · exact foreign entry old
          · rw [List.mem_singleton.mp new]
            exact ⟨scanned, swept⟩

/-- Every sweep of a run ends a pass, and the pass removes idle sessions only
exactly when no session that its scan collected is renewed between the scan and
the sweep, unless the end of its connection removes it again. -/
theorem cleanup_sound_iff (metrics : MetricsCollector)
    {trace : List (ServerState × ServerLabel)} {final : ServerState}
    (run : serverMachine.Run (startServer metrics) trace final) :
    (∀ sweep, (sweep, .cleanupSweep) ∈ trace → ∃ scan between, Pass trace scan between sweep) ∧
      ∀ scan between sweep, Pass trace scan between sweep →
        (SweepSound scan sweep ↔ ∀ address ∈ sweep.toRemove, ¬Renewed address between) := by
  refine ⟨fun sweep member => ?_, fun scan between sweep pass => pass.sound_iff run⟩
  obtain ⟨earlier, after, shape⟩ := List.append_of_mem member
  obtain ⟨next, reached, taken, -⟩ := run.split shape
  have holds : sweep.toRemove ≠ [] := by
    intro none
    simp [serverMachine, serverStep, none] at taken
  obtain ⟨before, scan, between, rfl, foreign⟩ := collected_of_run reached rfl holds
  exact ⟨scan, between, ⟨before, after, by simpa using shape⟩, foreign⟩

/-! ## One idle session -/

def idleAddr : SocketAddr := ⟨"192.0.2.7:50000"⟩

/-- A connection is idle for two minutes; then it sends a request. -/
def requestAfterIdle : List ServerLabel :=
  [.opened idleAddr ⟨1⟩, .started 0, .elapse 120001, .streamAccepted 0, .stream 0 (.read [47]),
    .stream 0 .readEnds]

/-- The server when its cleanup task scans. -/
def idleScan : ServerState :=
  (serverMachine.play (startServer {}) requestAfterIdle).get (by decide +kernel)

/-- The server when its cleanup task has collected the session. -/
def idleCollected : ServerState := { idleScan with toRemove := idleScan.inactive }

theorem scan_of_vacant {state : ServerState} (vacant : state.toRemove = []) :
    serverMachine.step state .cleanupScan = some { state with toRemove := state.inactive } :=
  if_pos vacant

theorem sweep_of_collected {state : ServerState} (collected : state.toRemove ≠ []) :
    ∃ next, serverMachine.step state .cleanupSweep = some next :=
  ⟨_, if_neg collected⟩

theorem idleScan_reached :
    serverMachine.Run (startServer {})
      (serverMachine.trace (startServer {}) requestAfterIdle ++ [(idleScan, .cleanupScan)])
      idleCollected := by
  have vacant : idleScan.toRemove = [] := by decide +kernel
  exact (Machine.run_of_play (Option.some_get _).symm).snoc (scan_of_vacant vacant)

/-- The sweep right behind the scan removes the idle session. -/
theorem cleanup_sound_iff_idle :
    ∃ trace final scan between sweep, serverMachine.Run (startServer {}) trace final ∧
      Pass trace scan between sweep ∧ sweep.toRemove = [idleAddr] ∧ SweepSound scan sweep := by
  have collected : idleCollected.toRemove = [idleAddr] := by decide +kernel
  obtain ⟨next, swept⟩ := @sweep_of_collected idleCollected (by simp [collected])
  have run := idleScan_reached.snoc swept
  have pass : Pass (serverMachine.trace (startServer {}) requestAfterIdle ++
      [(idleScan, .cleanupScan)] ++ [(idleCollected, .cleanupSweep)])
      idleScan [] idleCollected :=
    { recorded := ⟨_, [], by simp; rfl⟩
      foreign := by simp [Foreign] }
  refine ⟨_, next, idleScan, [], idleCollected, run, pass, collected, ?_⟩
  exact ((cleanup_sound_iff {} run).2 idleScan [] idleCollected pass).mpr
    (fun address _ => renewed_nil address)

/-- The request is recorded between the scan and the sweep. -/
def renewedSweep : ServerState :=
  (serverMachine.play idleCollected [.stream 0 .recordRequest]).get (by decide +kernel)

/-- The session that was active at the moment of the scan is removed. -/
theorem active_session_swept :
    ∃ trace final scan between sweep, serverMachine.Run (startServer {}) trace final ∧
      Pass trace scan between sweep ∧ scan.now = 120001 ∧
      (∃ session, (idleAddr, session) ∈ sweep.sweptOut sweep.toRemove ∧
        session.lastActivity = 120001) ∧
      ¬SweepSound scan sweep := by
  have collected : renewedSweep.toRemove = [idleAddr] := by decide +kernel
  have active : (renewedSweep.session idleAddr).map QuicSession.lastActivity = some 120001 := by
    decide +kernel
  have time : idleScan.now = 120001 := by decide +kernel
  have foreign : serverMachine.Run idleCollected
      (serverMachine.trace idleCollected [.stream 0 .recordRequest]) renewedSweep :=
    Machine.run_of_play (Option.some_get _).symm
  obtain ⟨next, swept⟩ := @sweep_of_collected renewedSweep (by simp [collected])
  have pass : Pass (serverMachine.trace (startServer {}) requestAfterIdle ++
      [(idleScan, .cleanupScan)] ++
      serverMachine.trace idleCollected [.stream 0 .recordRequest] ++
      [(renewedSweep, .cleanupSweep)])
      idleScan (serverMachine.trace idleCollected [.stream 0 .recordRequest]) renewedSweep :=
    { recorded := ⟨_, [], by simp; rfl⟩
      foreign := by
        intro entry member
        have label : entry.2 = .stream 0 .recordRequest := by
          simpa using Machine.label_mem_of_trace member
        simp [label] }
  obtain ⟨session, found, last⟩ := Option.map_eq_some_iff.mp active
  have removed : (idleAddr, session) ∈ renewedSweep.sweptOut renewedSweep.toRemove :=
    (mem_sweptOut_iff _ _).mpr ⟨by simp [collected], found⟩
  refine ⟨_, next, idleScan, _, renewedSweep, (idleScan_reached.append foreign).snoc swept, pass,
    time, ⟨session, removed, last⟩, fun sound => ?_⟩
  have idle := (sound idleAddr session removed).1
  omega

end Npt.Server
