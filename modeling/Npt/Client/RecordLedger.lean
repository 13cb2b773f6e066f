import Npt.Client.Simulator
import Npt.Core.IndexedFamily
import Npt.Core.Ledger

/-!
Owns: the ledger of connection records. An activity opens a record with
`start_connection_with_activity` and closes it with `end_connection`; in between
it is on that connection. A QUIC session that fails before its first page leaves
its record open.

Does not own: the counters of the server pool.
-/

namespace Npt.Client

open Npt.Core
open Npt.Shared

/-! ## Records of one activity -/

/-- The connection an activity is on. -/
def Control.connection : Control → Option Uuid
  | .tcp call => if call.stage = .thinking then none else some call.connectionId
  | .quic call => some call.connectionId
  | .panicked _ connectionId => some connectionId
  | _ => none

/-- The connection of a QUIC session that fails in this step before its first
page: no server is healthy, the set-up fails, or the connect fails or takes too
long. -/
def failsSetup (pool : ServerPool) (control : Control) (label : UserLabel) : Option Uuid :=
  match control, label with
  | .quic call, .quic label => if label.failsConnect then some call.connectionId else none
  | .idle, .activity (.quicWebBrowsing _ _ _) connectionId draw setupError =>
      if (pool.getServer draw).1 = none ∨ setupError ≠ none then some connectionId else none
  | _, _ => none

/-- `1` for the connection in question. -/
def unit (id : Uuid) (connection : Option Uuid) : Nat := if connection = some id then 1 else 0

@[simp] theorem unit_none (id : Uuid) : unit id none = 0 := rfl

/-- What a step does with the record of a connection. -/
def RecordBalanced (id : Uuid) (effects : List Effect) (before after lost : Option Uuid) : Prop :=
  (Effect.registrations effects).count id + unit id before =
    Effect.closings id effects + unit id after + unit id lost

section Steps

variable {pool : ServerPool} {id : Uuid} {effects : List Effect}

theorem RecordBalanced.of_neutral (quiet : Effect.Neutral effects) (current : Option Uuid) :
    RecordBalanced id effects current current none := by
  simp [RecordBalanced, Effect.registrations_of_neutral quiet, Effect.closings_of_neutral quiet]

theorem afterConnection_connection (call : TcpCall) :
    (afterConnection call).control.connection = none := by
  unfold afterConnection
  split
  · simp [TcpOutcome.control, Control.connection]
  · rfl

theorem failed_connection (call : TcpCall) (message : String) :
    (failed call message).2.control.connection = none :=
  afterConnection_connection call

@[simp] theorem registrations_failed (call : TcpCall) (message : String) :
    Effect.registrations (failed call message).1 = [] := by
  unfold failed errorRecord
  split <;> rfl

@[simp] theorem closings_failed (call : TcpCall) (message : String) :
    Effect.closings id (failed call message).1 = unit id (some call.connectionId) := by
  unfold failed errorRecord
  split <;> simp [unit]

theorem connection_of_ne_thinking {call : TcpCall} (stage : call.stage ≠ .thinking) :
    (Control.tcp call).connection = some call.connectionId := by
  simp [Control.connection, stage]

theorem ne_thinking_of_dialing {stage : TcpStage} (dialing : stage.dialing = true) :
    stage ≠ .thinking := by
  rintro rfl
  simp [TcpStage.dialing] at dialing

/-- The record a connection opens is its own, also when it is closed at once. -/
theorem openConnection_recordBalanced (activity : UserActivity) (page : Nat) (connectionId : Uuid)
    (draw : Nat) :
    RecordBalanced id (openConnection pool activity page connectionId draw).1 none
      (openConnection pool activity page connectionId draw).2.control.connection none := by
  rcases openConnection_cases pool activity page connectionId draw with
    ⟨target, _, opened⟩ | ⟨call, message, same, opened⟩
  · simp [opened, RecordBalanced, TcpOutcome.control, Control.connection, Effect.registers, unit,
      List.count_cons]
  · simp [opened, RecordBalanced, failed_connection, Effect.registers, unit, same,
      List.count_cons]

theorem tcpStep_recordBalanced {call : TcpCall} {label : TcpLabel} {outcome : TcpOutcome}
    (move : TcpMove pool call label effects outcome) :
    RecordBalanced id effects (Control.tcp call).connection outcome.control.connection none := by
  cases move with
  | connected stage =>
      simp [RecordBalanced, Control.connection, TcpOutcome.control, stage, Effect.registers]
  | unnamed stage =>
      rw [failed_connection]
      simp [RecordBalanced, Control.connection, stage, Effect.registers]
  | retried dialing still known quiet unopened =>
      rw [connection_of_ne_thinking (ne_thinking_of_dialing dialing), TcpOutcome.control,
        connection_of_ne_thinking (ne_thinking_of_dialing still)]
      exact RecordBalanced.of_neutral quiet _
  | gaveUp dialing quiet unopened =>
      rw [connection_of_ne_thinking (ne_thinking_of_dialing dialing), failed_connection]
      simp [RecordBalanced, Effect.registrations_of_neutral quiet,
        Effect.closings_of_neutral quiet]
  | exchanged stage quiet onwards =>
      rw [connection_of_ne_thinking (by simp [stage]), TcpOutcome.control,
        connection_of_ne_thinking (by simp)]
      exact RecordBalanced.of_neutral quiet _
  | panicked stage quiet onwards =>
      rw [connection_of_ne_thinking (by simp [stage])]
      exact RecordBalanced.of_neutral quiet _
  | broke stage fails =>
      rw [connection_of_ne_thinking (by simp [stage]), failed_connection]
      simp [RecordBalanced]
  | completed stage =>
      rw [connection_of_ne_thinking (by simp [stage]),
        show (completed call _).2.control.connection = none from afterConnection_connection call]
      simp [RecordBalanced, completed, Effect.registers, unit]
  | opened stage browsing =>
      rw [show (Control.tcp call).connection = none by simp [Control.connection, stage]]
      exact openConnection_recordBalanced _ _ _ _
  | returned stage =>
      simp [RecordBalanced, Control.connection, TcpOutcome.control, stage]

theorem quicStep_recordBalanced {call : QuicCall} {label : QuicLabel} {outcome : QuicOutcome}
    (move : QuicMove call label effects outcome) :
    RecordBalanced id effects (Control.quic call).connection outcome.control.connection
      (failsSetup pool (.quic call) (.quic label)) := by
  cases move with
  | continued quiet onwards =>
      simp only [failsSetup, onwards, Bool.false_eq_true, ↓reduceIte]
      exact RecordBalanced.of_neutral quiet (some call.connectionId)
  | panicked quiet onwards =>
      simp only [failsSetup, onwards, Bool.false_eq_true, ↓reduceIte]
      exact RecordBalanced.of_neutral quiet (some call.connectionId)
  | completed onwards =>
      simp [RecordBalanced, Control.connection, QuicOutcome.control, failsSetup, onwards,
        Effect.registers, unit]
  | unconnected quiet fails =>
      simp [RecordBalanced, Control.connection, QuicOutcome.control, failsSetup, fails,
        Effect.registrations_of_neutral quiet, Effect.closings_of_neutral quiet]

theorem failsSetup_of_not_quic {activity : UserActivity} {connectionId : Uuid} {draw : Nat}
    {setupError : Option String} (kind : isQuic activity = false) :
    failsSetup pool .idle (.activity activity connectionId draw setupError) = none := by
  cases activity with
  | quicWebBrowsing pages resources concurrent => simp [isQuic] at kind
  | _ => rfl

/-- The record of a connection under one step of a user. -/
theorem controlStep_recordBalanced {control next : Control} {label : UserLabel}
    (move : ControlMove pool control label effects next) :
    RecordBalanced id effects control.connection next.connection
      (failsSetup pool control label) := by
  cases move with
  | started => simp [RecordBalanced, Control.connection, failsSetup, Effect.registers]
  | finished => simp [RecordBalanced, Control.connection, failsSetup, Effect.registers]
  | nothing kind =>
      rw [failsSetup_of_not_quic kind]
      simp [RecordBalanced, Control.connection]
  | opened kind =>
      rw [failsSetup_of_not_quic kind]
      exact openConnection_recordBalanced _ _ _ _
  | tcp move =>
      rw [show failsSetup pool (.tcp _) (.tcp _) = none from rfl]
      exact tcpStep_recordBalanced move
  | quic move => exact quicStep_recordBalanced move
  | @session activity connectionId draw setupError effects outcome kind start =>
      cases activity with
      | quicWebBrowsing pages resources concurrent =>
          cases start with
          | noServer none =>
              simp [RecordBalanced, Control.connection, QuicOutcome.control, failsSetup, none,
                Effect.registers, unit, List.count_cons]
          | setupFailed selected failed =>
              simp [RecordBalanced, Control.connection, QuicOutcome.control, failsSetup, failed,
                Effect.registers, unit, List.count_cons]
          | connecting selected passed target registered =>
              simp [RecordBalanced, Control.connection, QuicOutcome.control, failsSetup, selected,
                passed, registered, Effect.registers, unit, List.count_cons]
      | _ => simp [isQuic] at kind

theorem registrations_openConnection (activity : UserActivity) (page : Nat) (connectionId : Uuid)
    (draw : Nat) :
    ∃ rest, (openConnection pool activity page connectionId draw).1 =
        .startConnection connectionId .tcp activity :: rest ∧
      Effect.registrations rest = [] := by
  rcases openConnection_cases pool activity page connectionId draw with
    ⟨target, _, opened⟩ | ⟨call, message, _, opened⟩
  · exact ⟨_, by rw [opened], rfl⟩
  · exact ⟨_, by rw [opened], registrations_failed call message⟩

/-- The effects register nothing, or one connection before anything else. -/
def RegistersFirst (effects : List Effect) : Prop :=
  Effect.registrations effects = [] ∨
    ∃ new connectionType activity rest, connectionType ≠ .udp ∧
      effects = .startConnection new connectionType activity :: rest ∧
      Effect.registrations rest = []

theorem registersFirst_of_neutral (quiet : Effect.Neutral effects) : RegistersFirst effects :=
  Or.inl (Effect.registrations_of_neutral quiet)

theorem registersFirst_openConnection (activity : UserActivity) (page : Nat)
    (connectionId : Uuid) (draw : Nat) :
    RegistersFirst (openConnection pool activity page connectionId draw).1 := by
  obtain ⟨rest, opened, none⟩ := registrations_openConnection activity page connectionId draw
  exact Or.inr ⟨connectionId, .tcp, activity, rest, by decide, opened, none⟩

theorem registersFirst_of_move {control next : Control} {label : UserLabel}
    (move : ControlMove pool control label effects next) : RegistersFirst effects := by
  cases move with
  | started => exact Or.inl rfl
  | finished => exact Or.inl rfl
  | nothing kind => exact Or.inl rfl
  | opened kind => exact registersFirst_openConnection _ _ _ _
  | session kind start =>
      cases start with
      | noServer none => exact Or.inr ⟨_, .quic, _, _, by decide, rfl, rfl⟩
      | setupFailed selected failed => exact Or.inr ⟨_, .quic, _, _, by decide, rfl, rfl⟩
      | connecting selected passed target registered =>
          exact Or.inr ⟨_, .quic, _, _, by decide, rfl, rfl⟩
  | quic move =>
      cases move with
      | continued quiet onwards => exact registersFirst_of_neutral quiet
      | panicked quiet onwards => exact registersFirst_of_neutral quiet
      | completed onwards => exact Or.inl rfl
      | unconnected quiet fails => exact registersFirst_of_neutral quiet
  | tcp move =>
      cases move with
      | connected stage => exact Or.inl rfl
      | unnamed stage => exact Or.inl (by simp [Effect.registers])
      | retried dialing still known quiet unopened => exact registersFirst_of_neutral quiet
      | gaveUp dialing quiet unopened =>
          exact Or.inl (by simp [Effect.registrations_of_neutral quiet])
      | exchanged stage quiet onwards => exact registersFirst_of_neutral quiet
      | panicked stage quiet onwards => exact registersFirst_of_neutral quiet
      | broke stage fails => exact Or.inl (registrations_failed _ _)
      | completed stage => exact Or.inl rfl
      | opened stage browsing => exact registersFirst_openConnection _ _ _ _
      | returned stage => exact Or.inl rfl

end Steps

/-! ## Records over a run -/

/-- The calls that a step of one user makes. -/
def effectsBy (index : Nat) (state : ClientState) : ClientLabel → List Effect
  | .user position label => if position = index then effectsOf state (.user position label) else []
  | _ => []

/-- The connections that one user has registered. -/
def registrationsBy (index : Nat) (trace : List (ClientState × ClientLabel)) : List Uuid :=
  trace.flatMap (fun entry => Effect.registrations (effectsBy index entry.1 entry.2))

/-- The connection whose record a step of one user leaves open for good. -/
def lostRecord (index : Nat) (state : ClientState) : ClientLabel → Option Uuid
  | .user position label =>
      if position = index then
        (state.users[index]?).bind (fun user => failsSetup state.shared.pool user.control label)
      else none
  | _ => none

/-- The connection one user is on. -/
def connectionOf (index : Nat) (state : ClientState) : Option Uuid :=
  (state.users[index]?).bind (fun user => user.control.connection)

theorem userMove_recordBalanced (id : Uuid) {state : ClientState} {user next : User}
    {label : UserLabel} {effects : List Effect} (move : UserMove state user label effects next) :
    RecordBalanced id effects user.control.connection next.control.connection
      (failsSetup state.shared.pool user.control label) := by
  cases move with
  | stopped => cases control : user.control <;> simp [RecordBalanced, failsSetup]
  | moved own fresh => exact controlStep_recordBalanced own

def recordLedger (index : Nat) (id : Uuid) : Machine.LeaseLedger clientMachine where
  taken state label := (Effect.registrations (effectsBy index state label)).count id
  returned state label := Effect.closings id (effectsBy index state label)
  lost state label := unit id (lostRecord index state label)
  held state := unit id (connectionOf index state)
  balance := by
    intro state label next taken
    have move := move_of_clientStep taken
    generalize same : effectsOf state label = effects at move
    cases move with
    | @user position user next label effects present move =>
        by_cases here : position = index
        · subst here
          have after := getElem?_set_self_of_some present next
          have balanced := userMove_recordBalanced id move
          simpa only [effectsBy, same, lostRecord, present, after, connectionOf, RecordBalanced,
            ↓reduceIte, Option.bind_some] using balanced
        · simp [effectsBy, lostRecord, here, connectionOf, List.getElem?_set_ne here]
    | environment users metrics addresses counters idle =>
        have none : effectsBy index state label = [] ∧ lostRecord index state label = none := by
          cases label with
          | user position own => exact absurd rfl (idle position own)
          | _ => exact ⟨rfl, rfl⟩
        simp [none, connectionOf, users]

section Run

variable {addresses : List SocketAddr} {order : IterationOrder addresses}
  {config : LoadBalancerConfig} {concurrentUsers : UInt32}
  {trace : List (ClientState × ClientLabel)} {state : ClientState} {index : Nat} {id : Uuid}

/-- How often a connection is registered in a step. -/
def registeredIn (id : Uuid) (state : ClientState) (label : ClientLabel) : Nat :=
  (Effect.registrations (effectsOf state label)).count id

/-- How often a connection is closed in a step. -/
def closedIn (id : Uuid) (state : ClientState) (label : ClientLabel) : Nat :=
  Effect.closings id (effectsOf state label)

theorem effectsBy_cases (index : Nat) (state : ClientState) (label : ClientLabel) :
    effectsBy index state label = effectsOf state label ∨ effectsBy index state label = [] := by
  cases label with
  | user position own =>
      simp only [effectsBy]
      split
      · exact Or.inl rfl
      · exact Or.inr rfl
  | _ => exact Or.inr rfl

variable (index id) in
theorem taken_le_registeredIn (trace : List (ClientState × ClientLabel)) :
    Machine.tally (recordLedger index id).taken trace ≤ Machine.tally (registeredIn id) trace := by
  refine Machine.tally_le (fun entry _ => ?_)
  show (Effect.registrations (effectsBy index entry.1 entry.2)).count id ≤ _
  rcases effectsBy_cases index entry.1 entry.2 with same | none
  · rw [same]
    exact Nat.le_refl _
  · simp [none]

theorem taken_eq_count :
    Machine.tally (recordLedger index id).taken trace = (registrationsBy index trace).count id := by
  rw [registrationsBy, List.count_flatMap]
  rfl

theorem connectionOf_start :
    connectionOf index (startClient addresses order config concurrentUsers) = none := by
  unfold connectionOf startClient
  rw [List.getElem?_replicate]
  split <;> rfl

variable (index id) in
/-- The ledger of one user's connections in a run. -/
theorem recordLedger_of_run
    (run : clientMachine.Run (startClient addresses order config concurrentUsers) trace state) :
    (registrationsBy index trace).count id =
      Machine.tally (recordLedger index id).returned trace + unit id (connectionOf index state) +
        Machine.tally (recordLedger index id).lost trace := by
  rw [← taken_eq_count]
  refine (recordLedger index id).balance_run run ?_
  show unit id (connectionOf index _) = 0
  rw [connectionOf_start, unit_none]

/-- The record of a connection tells what happened to it. -/
structure RecordState (id : Uuid) (trace : List (ClientState × ClientLabel)) (state : ClientState) :
    Prop where
  once : Machine.tally (registeredIn id) trace ≤ 1
  registered : state.shared.metrics.Registered id ↔ 0 < Machine.tally (registeredIn id) trace
  ended : state.shared.metrics.Ended id ↔ 0 < Machine.tally (closedIn id) trace

/-- Whoever is on a connection has registered it. -/
theorem registered_of_connectionOf
    (run : clientMachine.Run (startClient addresses order config concurrentUsers) trace state)
    (current : connectionOf index state = some id) :
    0 < Machine.tally (registeredIn id) trace := by
  have balance := recordLedger_of_run index id run
  have fewer := taken_le_registeredIn index id trace
  rw [taken_eq_count, balance, current] at fewer
  simp only [unit, ↓reduceIte] at fewer
  omega

theorem userMove_registersFirst {user next : User} {label : UserLabel} {effects : List Effect}
    (move : UserMove state user label effects next) :
    RegistersFirst effects ∧
      ∀ id ∈ Effect.registrations effects, ¬ state.shared.metrics.Registered id := by
  cases move with
  | stopped => exact ⟨Or.inl rfl, by simp⟩
  | moved own fresh => exact ⟨registersFirst_of_move own, fresh⟩

/-- A record that the effects open is ended by the effects that follow. -/
theorem ended_applyAll_new {now : Nat} {shared : SharedState} {connectionType : ConnectionType}
    {activity : UserActivity} {rest : List Effect} (none : Effect.registrations rest = []) :
    (Effect.applyAll now shared
        (.startConnection id connectionType activity :: rest)).metrics.Ended id ↔
      0 < Effect.closings id rest := by
  show (Effect.applyAll now (Effect.apply now shared _) rest).metrics.Ended id ↔ _
  rw [Effect.ended_applyAll _ _ _ (by simp [none]), Effect.registered_apply]
  have open' : ¬ (Effect.apply now shared
      (.startConnection id connectionType activity)).metrics.Ended id := by
    intro ended
    exact ((MetricsCollector.ended_insert _ _ rfl).mp ended).1 rfl
  simp [open', Effect.registers]

theorem recordState_of_run
    (run : clientMachine.Run (startClient addresses order config concurrentUsers) trace state)
    (id : Uuid) : RecordState id trace state := by
  refine run.history (RecordState id) ?_ ?_
  · refine ⟨by simp, ?_, ?_⟩
    · simp [startClient, MetricsCollector.Registered]
    · simp [startClient, MetricsCollector.Ended]
  · intro trace state label next before record taken
    have move := move_of_clientStep taken
    generalize same : effectsOf state label = effects at move
    cases move with
    | environment users metrics addresses counters idle =>
        refine ⟨?_, ?_, ?_⟩
        · simpa [registeredIn, same] using record.once
        · simpa [registeredIn, same, metrics] using record.registered
        · simpa [closedIn, same, metrics] using record.ended
    | @user index user next label effects present move =>
        obtain ⟨first, fresh⟩ := userMove_registersFirst move
        by_cases new : id ∈ Effect.registrations effects
        · have unregistered := fresh id new
          have unseen : Machine.tally (registeredIn id) trace = 0 := by
            by_contra seen
            exact unregistered (record.registered.mpr (Nat.pos_of_ne_zero seen))
          have unclosed : Machine.tally (closedIn id) trace = 0 := by
            by_contra closed
            exact unregistered (record.ended.mpr (Nat.pos_of_ne_zero closed)).registered
          rcases first with none | ⟨opened, connectionType, activity, rest, _, rfl, none⟩
          · simp [none] at new
          · obtain rfl : id = opened := by simpa [none, Effect.registers] using new
            have one : registeredIn id state (.user index label) = 1 := by
              simp [registeredIn, same, none, Effect.registers]
            refine ⟨?_, ?_, ?_⟩
            · rw [Machine.tally_snoc, unseen, one]
            · rw [Machine.tally_snoc, unseen, one, Effect.registered_applyAll]
              exact iff_of_true (Or.inr new) Nat.one_pos
            · rw [Machine.tally_snoc, unclosed, closedIn, same, ended_applyAll_new none]
              simp
        · have noCount : (Effect.registrations effects).count id = 0 := List.count_eq_zero.mpr new
          have balanced := userMove_recordBalanced id move
          have known : 0 < Effect.closings id effects → state.shared.metrics.Registered id := by
            intro closes
            have current : connectionOf index state = some id := by
              by_contra other
              have unheld : unit id user.control.connection = 0 := by
                refine if_neg (fun held => other ?_)
                simp [connectionOf, present, held]
              simp only [RecordBalanced, noCount, unheld] at balanced
              omega
            exact record.registered.mpr (registered_of_connectionOf before current)
          refine ⟨?_, ?_, ?_⟩
          · simpa [registeredIn, same, noCount] using record.once
          · rw [Machine.tally_snoc, registeredIn, same, noCount, Nat.add_zero, ← record.registered,
              Effect.registered_applyAll]
            simp [new]
          · rw [Machine.tally_snoc, closedIn, same, Effect.ended_applyAll _ _ _ new, record.ended]
            constructor
            · rintro (earlier | ⟨closes, _⟩) <;> omega
            · intro positive
              by_cases closes : 0 < Effect.closings id effects
              · exact Or.inr ⟨closes, known closes⟩
              · exact Or.inl (by omega)

/-! ## The law of the records -/

theorem connectionOf_of_resting {user : User} (present : state.users[index]? = some user)
    (resting : user.control.resting = true) : connectionOf index state = none := by
  simp only [connectionOf, present, Option.bind_some]
  cases control : user.control <;> simp_all [Control.resting, Control.connection]

theorem returned_le_closedIn :
    Machine.tally (recordLedger index id).returned trace ≤ Machine.tally (closedIn id) trace := by
  refine Machine.tally_le (fun entry _ => ?_)
  show Effect.closings id (effectsBy index entry.1 entry.2) ≤ _
  rcases effectsBy_cases index entry.1 entry.2 with same | none
  · rw [same]
    exact Nat.le_refl _
  · simp [none]

/-- A connection whose user is done with it is ended or lost. -/
theorem ended_of_registered
    (run : clientMachine.Run (startClient addresses order config concurrentUsers) trace state)
    (kept : ∀ entry ∈ trace, lostRecord index entry.1 entry.2 = none)
    (done : connectionOf index state = none) (registered : id ∈ registrationsBy index trace) :
    state.shared.metrics.Ended id := by
  have balance := recordLedger_of_run index id run
  have taken := List.count_pos_iff.mpr registered
  have nothing : Machine.tally (recordLedger index id).lost trace = 0 := by
    rw [Machine.tally_eq_zero_iff]
    intro entry member
    show unit id (lostRecord index entry.1 entry.2) = 0
    rw [kept entry member, unit_none]
  have returned : Machine.tally (recordLedger index id).returned trace ≤ _ := returned_le_closedIn
  rw [done, unit_none, nothing] at balance
  exact (recordState_of_run run id).ended.mpr (by omega)

/-- Calls are made by a user that exists. -/
theorem user_of_effectsOf {label : ClientLabel} (calls : effectsOf state label ≠ []) :
    ∃ index user own, label = .user index own ∧ state.users[index]? = some user := by
  cases label with
  | user index own =>
      cases taken : userStep state index own with
      | none => simp [effectsOf, taken] at calls
      | some result =>
          obtain ⟨user, present, _⟩ := userMove_of_userStep taken
          exact ⟨index, user, own, rfl, present⟩
  | _ => exact absurd rfl calls

/-- A connection is registered by one user only. -/
theorem owner_unique
    (run : clientMachine.Run (startClient addresses order config concurrentUsers) trace state)
    {other : Nat} (registered : id ∈ registrationsBy index trace)
    (again : id ∈ registrationsBy other trace) : index = other := by
  by_contra different
  have both : Machine.tally (recordLedger index id).taken trace +
      Machine.tally (recordLedger other id).taken trace ≤ Machine.tally (registeredIn id) trace := by
    rw [Machine.tally_add]
    refine Machine.tally_le (fun entry _ => ?_)
    show (Effect.registrations (effectsBy index entry.1 entry.2)).count id +
      (Effect.registrations (effectsBy other entry.1 entry.2)).count id ≤ _
    have oneOf : effectsBy index entry.1 entry.2 = [] ∨ effectsBy other entry.1 entry.2 = [] := by
      cases entry.2 with
      | user position own =>
          by_cases here : position = index
          · exact Or.inr (if_neg (fun there => different (here.symm.trans there)))
          · exact Or.inl (if_neg here)
      | _ => exact Or.inl rfl
    rcases oneOf with none | none
    · rcases effectsBy_cases other entry.1 entry.2 with same | nothing
      · simp [none, same, registeredIn]
      · simp [none, nothing]
    · rcases effectsBy_cases index entry.1 entry.2 with same | nothing
      · simp [none, same, registeredIn]
      · simp [none, nothing]
  have once := (recordState_of_run run id).once
  have first := List.count_pos_iff.mpr registered
  have second := List.count_pos_iff.mpr again
  rw [taken_eq_count, taken_eq_count] at both
  omega

/-- A lost record belongs to its user and is never ended. -/
theorem open_of_lost
    (run : clientMachine.Run (startClient addresses order config concurrentUsers) trace state)
    {entry : ClientState × ClientLabel} (member : entry ∈ trace)
    (lost : lostRecord index entry.1 entry.2 = some id) :
    id ∈ registrationsBy index trace ∧ ¬ state.shared.metrics.Ended id := by
  have balance := recordLedger_of_run index id run
  have once := (recordState_of_run run id).once
  have fewer := taken_le_registeredIn index id trace
  rw [taken_eq_count] at fewer
  have one : 0 < Machine.tally (recordLedger index id).lost trace := by
    refine Machine.tally_pos_of_mem _ member ?_
    show 0 < unit id (lostRecord index entry.1 entry.2)
    simp [lost, unit]
  have registered : id ∈ registrationsBy index trace := List.count_pos_iff.mp (by omega)
  refine ⟨registered, fun ended => ?_⟩
  obtain ⟨closing, taken, closes⟩ :=
    Machine.exists_of_tally_pos _ ((recordState_of_run run id).ended.mp ended)
  have calls : effectsOf closing.1 closing.2 ≠ [] := fun none => by simp [closedIn, none] at closes
  obtain ⟨other, user, own, label, _⟩ := user_of_effectsOf calls
  -- whoever closes it has registered it, and that was this user
  have returned : 0 < Machine.tally (recordLedger other id).returned trace := by
    refine Machine.tally_pos_of_mem _ taken ?_
    show 0 < Effect.closings id (effectsBy other closing.1 closing.2)
    rw [label] at closes ⊢
    simpa [effectsBy, closedIn] using closes
  have theirs := recordLedger_of_run other id run
  have again : id ∈ registrationsBy other trace := List.count_pos_iff.mp (by omega)
  obtain rfl := owner_unique run registered again
  omega

/-- Every record was registered by a user that still exists. -/
theorem owner_of_registered
    (run : clientMachine.Run (startClient addresses order config concurrentUsers) trace state)
    (registered : state.shared.metrics.Registered id) :
    ∃ index user, state.users[index]? = some user ∧ id ∈ registrationsBy index trace := by
  obtain ⟨entry, member, registers⟩ :=
    Machine.exists_of_tally_pos _ ((recordState_of_run run id).registered.mp registered)
  have calls : effectsOf entry.1 entry.2 ≠ [] := fun none => by simp [registeredIn, none] at registers
  obtain ⟨index, user, own, label, present⟩ := user_of_effectsOf calls
  obtain ⟨_, _, earlier, _⟩ := run.mem_step member
  have exists' : index < state.users.length := by
    rw [users_length_of_run run, ← users_length_of_run earlier]
    exact (List.getElem?_eq_some_iff.mp present).1
  refine ⟨index, state.users[index], List.getElem?_eq_getElem exists', ?_⟩
  refine List.mem_flatMap.mpr ⟨entry, member, List.count_pos_iff.mp ?_⟩
  rw [registeredIn, label] at registers
  simpa [label, effectsBy] using registers

/-- No activity of the client is over UDP. -/
theorem ofTypes_of_run
    (run : clientMachine.Run (startClient addresses order config concurrentUsers) trace state) :
    state.shared.metrics.OfTypes (· ≠ .udp) := by
  refine run.invariant (fun state => state.shared.metrics.OfTypes (· ≠ .udp)) ?_ ?_
  · simp [startClient, MetricsCollector.OfTypes, Table.empty]
  · intro state label next ofTypes taken
    have move := move_of_clientStep taken
    generalize effectsOf state label = effects at move
    cases move with
    | environment users metrics addresses counters idle => rwa [metrics]
    | user present move =>
        refine Effect.ofTypes_applyAll _ _ ofTypes (fun new connectionType activity member => ?_)
        have registers : new ∈ Effect.registrations effects :=
          List.mem_filterMap.mpr ⟨_, member, rfl⟩
        rcases (userMove_registersFirst move).1 with none | ⟨_, _, _, rest, notUdp, rfl, none⟩
        · simp [none] at registers
        · rcases List.mem_cons.mp member with same | later
          · cases same
            exact notUdp
          · have inRest : new ∈ Effect.registrations rest :=
              List.mem_filterMap.mpr ⟨_, later, rfl⟩
            simp [none] at inRest

end Run

/-- The records of a user between two activities all have an end exactly when
none of its QUIC sessions failed before its first page; when all users have
finished, so do the counts of active connections. -/
theorem connections_ended_iff {addresses : List SocketAddr} (order : IterationOrder addresses)
    (config : LoadBalancerConfig) (concurrentUsers : UInt32)
    {trace : List (ClientState × ClientLabel)} {last : ClientState}
    (run : clientMachine.Run (startClient addresses order config concurrentUsers) trace last) :
    (∀ (index : Nat) user, last.users[index]? = some user → user.control.resting = true →
      ((∀ id ∈ registrationsBy index trace, last.shared.metrics.Ended id) ↔
        ∀ entry ∈ trace, lostRecord index entry.1 entry.2 = none)) ∧
    ((∀ user ∈ last.users, user.control = .finished) →
      ((last.shared.metrics.getActiveTcpConnections = 0 ∧
          last.shared.metrics.getActiveQuicConnections = 0) ↔
        ∀ index, ∀ entry ∈ trace, lostRecord index entry.1 entry.2 = none)) := by
  refine ⟨fun index user present resting => ?_, fun finished => ?_⟩
  · constructor
    · intro ended entry member
      cases lost : lostRecord index entry.1 entry.2 with
      | none => rfl
      | some id =>
          obtain ⟨registered, stays⟩ := open_of_lost run member lost
          exact absurd (ended id registered) stays
    · intro kept id registered
      exact ended_of_registered run kept (connectionOf_of_resting present resting) registered
  · constructor
    · intro inactive index entry member
      cases lost : lostRecord index entry.1 entry.2 with
      | none => rfl
      | some id =>
          obtain ⟨registered, stays⟩ := open_of_lost run member lost
          have known : last.shared.metrics.Registered id := by
            have positive := List.count_pos_iff.mpr registered
            have fewer := taken_le_registeredIn index id trace
            rw [taken_eq_count] at fewer
            exact (recordState_of_run run id).registered.mpr (by omega)
          obtain ⟨connection, found⟩ := Option.isSome_iff_exists.mp known
          have present := last.shared.metrics.connections.mem_of_get? found
          obtain rfl := last.shared.metrics.connections.key_of_get? found
          refine absurd (MetricsCollector.ended_of_activeConnections_eq_zero present ?_) stays
          have notUdp := ofTypes_of_run run connection present
          cases kind : connection.connectionType with
          | tcp => exact inactive.1
          | udp => exact absurd kind notUdp
          | quic => exact inactive.2
    · intro kept
      have all : ∀ id, last.shared.metrics.Registered id → last.shared.metrics.Ended id := by
        intro id registered
        obtain ⟨index, user, present, theirs⟩ := owner_of_registered run registered
        have resting : user.control.resting = true := by
          rw [finished user (List.mem_of_getElem? present)]
          rfl
        exact ended_of_registered run (kept index) (connectionOf_of_resting present resting) theirs
      exact ⟨MetricsCollector.activeConnections_eq_zero .tcp all,
        MetricsCollector.activeConnections_eq_zero .quic all⟩

/-! ## One QUIC session -/

def sessionOpens : List ClientLabel :=
  [.user 0 .start, .user 0 (.activity (.quicWebBrowsing 1 (1, 1) 1) ⟨1⟩ 0 none)]

/-- The page comes, one resource of it does not, and the session goes on. -/
def sessionCompletes : List ClientLabel :=
  sessionOpens ++ [.user 0 (.quic (.connected 0)), .user 0 (.quic (.mainRequest .sent)),
    .user 0 (.quic (.mainRequest (.responded 1024 5))), .user 0 (.quic (.startResource 3)),
    .user 0 (.quic (.resource 0 .sent)), .user 0 (.quic (.resource 0 .timedOut)),
    .user 0 (.quic (.thinkOver 0)), .user 0 .finish]

theorem connections_ended_iff_session :
    ∃ last, clientMachine.play oneUser sessionCompletes = some last ∧
      last.users = [{ control := .finished }] ∧ last.shared.metrics.Ended ⟨1⟩ := by
  obtain ⟨last, played, users⟩ := Option.map_eq_some_iff.mp (show
    (clientMachine.play oneUser sessionCompletes).map (·.users) =
      some [{ control := .finished }] by decide +kernel)
  refine ⟨last, played, users, ?_⟩
  have law := (connections_ended_iff _ _ _ (Machine.run_of_play played)).1
  exact (law 0 { control := .finished } (by simp [users]) rfl).mpr (by decide +kernel) ⟨1⟩
    (by decide +kernel)

/-- The server does not answer. -/
def sessionFails : List ClientLabel :=
  sessionOpens ++ [.user 0 (.quic .connectTimedOut), .user 0 .finish]

/-- The user has finished, and its session still counts as active. -/
theorem failed_session_stays_active :
    ∃ last, clientMachine.play oneUser sessionFails = some last ∧
      last.users = [{ control := .finished }] ∧
      (∃ id ∈ registrationsBy 0 (clientMachine.trace oneUser sessionFails),
        ¬ last.shared.metrics.Ended id) ∧
      last.shared.metrics.getActiveQuicConnections = 1 := by
  obtain ⟨last, played, facts⟩ := Option.map_eq_some_iff.mp (show
    (clientMachine.play oneUser sessionFails).map
        (fun last => (last.users, (last.shared.metrics.connections.get? ⟨1⟩).map
          (fun connection => connection.endTime), last.shared.metrics.getActiveQuicConnections)) =
      some ([{ control := .finished }], some none, 1) by decide +kernel)
  simp only [Prod.mk.injEq] at facts
  obtain ⟨users, opened, active⟩ := facts
  refine ⟨last, played, users, ⟨⟨1⟩, by decide +kernel, ?_⟩, active⟩
  rintro ⟨connection, found, ended⟩
  rw [found] at opened
  simp_all

end Npt.Client
