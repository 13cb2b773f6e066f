import Npt.Client.Simulator

/-!
Contract: what an activity still starts once its user's stop flag is set.

The requests of a page and the chunks of a transfer look at the flag. The loops
over pages and over connection attempts do not, and a QUIC session is not even
given it.

Owns: one activity in an environment that may leave the pool in any state, the
steps that start a connection or a page, and when none can follow the flag.

Does not own: the session loop, which looks at the flag between activities.
-/

namespace Npt.Client

open Npt.Core
open Npt.Shared

/-! ## One activity -/

/-- A user's step on the pool as the others have left it. -/
structure ActivityLabel where
  pool : ServerPool
  label : UserLabel

def activityStep (user : User) (entry : ActivityLabel) : Option User :=
  match entry.label with
  | .stop => some { user with stopped := true }
  | .tcp label =>
      (controlStep entry.pool user.stopped user.control (.tcp label)).map
        (fun result => { user with control := result.2 })
  | .quic label =>
      (controlStep entry.pool user.stopped user.control (.quic label)).map
        (fun result => { user with control := result.2 })
  | .start | .activity _ _ _ _ | .finish => none

def activityMachine : Machine User ActivityLabel := ⟨activityStep⟩

/-- Whether a step that leads to `next` starts a connection or a page. -/
def starts (label : UserLabel) (next : Control) : Bool :=
  match label, next with
  -- A page of web browsing has a connection of its own.
  | .tcp (.thinkOver _ _), .tcp _ => true
  | .tcp (.backoffOver _), .tcp call => call.stage.dialing
  | .quic (.connected _), .quic _ => true
  | .quic (.thinkOver _), .quic _ => true
  | _, _ => false

/-- The step starts a connection or a page. -/
def startsIn (user : User) (entry : ActivityLabel) : Bool :=
  match activityStep user entry with
  | some next => starts entry.label next.control
  | none => false

/-! ## Activities with nothing left to start -/

/-- No page follows. -/
def onLastPage (call : TcpCall) : Bool :=
  match call.activity with
  | .webBrowsing pagesToVisit _ => pagesToVisit.toNat ≤ call.page + 1
  | _ => true

/-- No attempt follows in the call of `connect_with_failover`. -/
def TcpStage.lastAttempt : TcpStage → Bool
  | .connecting attempt _ => maxRetries ≤ attempt + 1
  | .backoff _ => false
  | .streaming _ _ | .thinking => true

/-- The page that the head of the loop would come to next. -/
def QuicStage.following : QuicStage → Nat
  | .connecting => 0
  | .mainPage page _ _ | .resources page _ _ _ | .thinking page => page + 1

/-- No page follows, be it that the range of its resources is empty. -/
def onLastQuicPage (call : QuicCall) : Bool :=
  decide (call.pagesToVisit.toNat ≤ call.stage.following) ||
    decide (call.resourcesPerPage.2 < call.resourcesPerPage.1)

def settled : Control → Bool
  | .tcp call => onLastPage call && call.stage.lastAttempt
  | .quic call => onLastQuicPage call
  | .waiting | .idle | .finished | .panicked _ _ => true

/-! ## What a settled activity does -/

section Settled

variable {pool : ServerPool} {stopped : Bool} {call : TcpCall} {label : TcpLabel}
  {effects : List Effect} {outcome : TcpOutcome}

@[simp] theorem onLastPage_stage (call : TcpCall) (stage : TcpStage) :
    onLastPage { call with stage := stage } = onLastPage call := rfl

theorem settled_afterConnection (last : onLastPage call = true) :
    settled (afterConnection call).control = true := by
  unfold afterConnection
  split
  · simp [settled, TcpOutcome.control, last, TcpStage.lastAttempt]
  · rfl

/-- The think time after the last page ends the activity. -/
theorem returned_of_lastPage {connectionId : Uuid} {draw : Nat} (last : onLastPage call = true)
    (stage : call.stage = .thinking)
    (taken : tcpStep pool stopped call (.thinkOver connectionId draw) = some (effects, outcome)) :
    outcome = .returned := by
  simp only [tcpStep, stage] at taken
  split at taken
  · rename_i pages requests browsing
    have ended : ¬call.page + 1 < pages.toNat := by
      rw [onLastPage, browsing] at last
      simpa using last
    rw [if_neg ended] at taken
    exact (Prod.mk.inj (Option.some.inj taken)).2.symm
  · cases taken

/-- A settled activity on a connection stays settled. -/
theorem settled_of_tcpStep (here : settled (.tcp call) = true)
    (taken : tcpStep pool stopped call label = some (effects, outcome)) :
    settled outcome.control = true := by
  obtain ⟨last, final⟩ := Bool.and_eq_true_iff.mp here
  have whole := taken
  unfold tcpStep at taken
  split at taken
  · obtain ⟨-, rfl⟩ := Prod.mk.inj (Option.some.inj taken)
    simp [settled, TcpOutcome.control, last, TcpStage.lastAttempt]
  · obtain ⟨-, rfl⟩ := Prod.mk.inj (Option.some.inj taken)
    exact settled_afterConnection last
  · rename_i attempt server error stage
    have given : ¬attempt + 1 < maxRetries := by
      rw [stage] at final
      simpa [TcpStage.lastAttempt] using final
    rw [if_neg given] at taken
    obtain ⟨-, rfl⟩ := Prod.mk.inj (Option.some.inj taken)
    exact settled_afterConnection last
  · rename_i attempt draw stage
    rw [stage] at final
    cases final
  · rename_i label _ _ server exchange stage
    have move : TcpMove pool call label effects outcome := move_of_streamStep stage taken
    cases move with
    | exchanged => simp [settled, TcpOutcome.control, last, TcpStage.lastAttempt]
    | panicked => rfl
    | broke | completed => exact settled_afterConnection last
    | connected waiting | unnamed waiting | opened waiting | returned waiting =>
        rw [stage] at waiting
        cases waiting
    | retried dialing | gaveUp dialing =>
        rw [stage] at dialing
        cases dialing
  · rename_i connectionId draw stage
    rw [returned_of_lastPage last stage whole]
    rfl
  · cases taken

/-- A settled activity on a connection starts nothing. -/
theorem starts_of_tcpStep (here : settled (.tcp call) = true)
    (taken : tcpStep pool stopped call label = some (effects, outcome)) :
    starts (.tcp label) outcome.control = false := by
  obtain ⟨last, final⟩ := Bool.and_eq_true_iff.mp here
  cases label with
  | thinkOver connectionId draw =>
      cases stage : call.stage with
      | thinking =>
          rw [returned_of_lastPage last stage taken]
          rfl
      | _ => simp [tcpStep, stage, streamStep] at taken
  | backoffOver draw =>
      cases stage : call.stage with
      | backoff attempt =>
          rw [stage] at final
          cases final
      | _ => simp [tcpStep, stage, streamStep] at taken
  | _ => cases outcome <;> rfl

end Settled

section SettledQuic

variable {call : QuicCall} {label : QuicLabel} {effects : List Effect} {outcome : QuicOutcome}

/-- The head of the page loop after the last page. -/
theorem nextPage_of_last (last : onLastQuicPage call = true) (draw : Nat) :
    ∃ effects, nextPage call call.stage.following draw = (effects, .returned) ∨
      nextPage call call.stage.following draw =
        (effects, .panicked call.server call.connectionId) := by
  rcases Bool.or_eq_true_iff.mp last with ended | empty
  · have beyond : ¬call.stage.following < call.pagesToVisit.toNat := by simpa using ended
    exact ⟨_, Or.inl (by rw [nextPage, if_neg beyond])⟩
  · have none : genRange call.resourcesPerPage draw = none := by
      rw [genRange, if_neg (by simpa using empty)]
    by_cases more : call.stage.following < call.pagesToVisit.toNat
    · exact ⟨_, Or.inr (by rw [nextPage, if_pos more, none])⟩
    · exact ⟨_, Or.inl (by rw [nextPage, if_neg more])⟩

theorem settled_stage (last : settled (.quic call) = true) {stage : QuicStage}
    (same : stage.following = call.stage.following) :
    settled (.quic { call with stage := stage }) = true := by
  simpa [settled, onLastQuicPage, same] using last

theorem settled_collectResources (last : settled (.quic call) = true) {page : Nat}
    (same : page + 1 = call.stage.following) (waiting : Nat) (inFlight : List Request)
    (allSuccessful : Bool) :
    settled (collectResources call page waiting inFlight allSuccessful).control = true := by
  refine settled_stage last ?_
  split <;> exact same

/-- A settled session stays settled and starts nothing. -/
theorem settled_of_quicStep (last : settled (.quic call) = true)
    (taken : quicStep call label = some (effects, outcome)) :
    settled outcome.control = true ∧ starts (.quic label) outcome.control = false := by
  have headOfLoop : ∀ draw, nextPage call call.stage.following draw = (effects, outcome) →
      settled outcome.control = true ∧ starts (.quic label) outcome.control = false := by
    intro draw came
    obtain ⟨_, ended | panicked⟩ := nextPage_of_last last draw
    · obtain ⟨-, rfl⟩ := Prod.mk.inj (came.symm.trans ended)
      cases label <;> exact ⟨rfl, rfl⟩
    · obtain ⟨-, rfl⟩ := Prod.mk.inj (came.symm.trans panicked)
      cases label <;> exact ⟨rfl, rfl⟩
  unfold quicStep at taken
  split at taken
  · rename_i draw stage
    exact headOfLoop draw (by rw [stage]; exact Option.some.inj taken)
  · obtain ⟨-, rfl⟩ := Prod.mk.inj (Option.some.inj taken)
    exact ⟨rfl, rfl⟩
  · obtain ⟨-, rfl⟩ := Prod.mk.inj (Option.some.inj taken)
    exact ⟨rfl, rfl⟩
  · rename_i page resources request event stage
    have same : page + 1 = call.stage.following := by rw [stage]; rfl
    obtain ⟨result, -, shape⟩ := Option.map_eq_some_iff.mp taken
    split at shape
    · obtain ⟨-, rfl⟩ := Prod.mk.inj shape
      exact ⟨settled_stage last same, rfl⟩
    · obtain ⟨-, rfl⟩ := Prod.mk.inj shape
      exact ⟨settled_collectResources last same _ _ _, rfl⟩
    · obtain ⟨-, rfl⟩ := Prod.mk.inj shape
      exact ⟨settled_stage last same, rfl⟩
  · rename_i page waiting inFlight allSuccessful draw stage
    split at taken
    · obtain ⟨-, rfl⟩ := Prod.mk.inj (Option.some.inj taken)
      exact ⟨settled_stage last (by rw [stage]; rfl), rfl⟩
    · cases taken
  · rename_i page waiting inFlight allSuccessful index event stage
    have same : page + 1 = call.stage.following := by rw [stage]; rfl
    split at taken
    · cases taken
    · obtain ⟨result, -, shape⟩ := Option.map_eq_some_iff.mp taken
      obtain ⟨-, rfl⟩ := Prod.mk.inj shape
      split
      · exact ⟨settled_stage last same, rfl⟩
      · exact ⟨settled_collectResources last same _ _ _, rfl⟩
      · exact ⟨settled_collectResources last same _ _ _, rfl⟩
  · rename_i page waiting inFlight allSuccessful stage
    obtain ⟨-, rfl⟩ := Prod.mk.inj (Option.some.inj taken)
    exact ⟨settled_stage last (by rw [stage]; rfl), rfl⟩
  · rename_i page draw stage
    exact headOfLoop draw (by rw [stage]; exact Option.some.inj taken)
  · cases taken

end SettledQuic

section Runs

variable {user next last : User} {entry : ActivityLabel}
  {steps : List (User × ActivityLabel)}

theorem settled_of_step (here : settled user.control = true)
    (taken : activityMachine.step user entry = some next) :
    settled next.control = true ∧ starts entry.label next.control = false := by
  obtain ⟨pool, label⟩ := entry
  cases label with
  | stop =>
      obtain rfl := Option.some.inj taken
      exact ⟨here, by cases user.control <;> rfl⟩
  | tcp label =>
      obtain ⟨result, stepped, rfl⟩ := Option.map_eq_some_iff.mp taken
      cases working : user.control with
      | tcp call =>
          rw [working] at here stepped
          obtain ⟨⟨effects, outcome⟩, inner, rfl⟩ := Option.map_eq_some_iff.mp stepped
          exact ⟨settled_of_tcpStep here inner, starts_of_tcpStep here inner⟩
      | _ => simp [controlStep, working] at stepped
  | quic label =>
      obtain ⟨result, stepped, rfl⟩ := Option.map_eq_some_iff.mp taken
      cases working : user.control with
      | quic call =>
          rw [working] at here stepped
          obtain ⟨⟨effects, outcome⟩, inner, rfl⟩ := Option.map_eq_some_iff.mp stepped
          exact settled_of_quicStep here inner
      | _ => simp [controlStep, working] at stepped
  | start | activity | finish => cases taken

/-- No run of a settled activity starts anything. -/
theorem starts_nothing_of_settled (here : settled user.control = true)
    (run : activityMachine.Run user steps last) :
    ∀ entry ∈ steps, startsIn entry.1 entry.2 = false := by
  intro entry member
  obtain ⟨before, next, earlier, taken⟩ := run.mem_step member
  have reached : settled entry.1.control = true :=
    earlier.invariant (fun user => settled user.control = true) here
      (fun _ _ _ settledHere taken => (settled_of_step settledHere taken).1)
  have quiet := (settled_of_step reached taken).2
  change activityStep entry.1 entry.2 = some next at taken
  rw [startsIn, taken]
  exact quiet

end Runs

/-! ## What an unsettled activity may start -/

/-- Some continuation starts a connection or a page. -/
def MayStart (user : User) : Prop :=
  ∃ steps last, activityMachine.Run user steps last ∧
    ∃ entry ∈ steps, startsIn entry.1 entry.2 = true

section Unsettled

variable {user next : User} {stopped : Bool}

theorem MayStart.now (entry : ActivityLabel) (begins : startsIn user entry = true) :
    MayStart user := by
  cases taken : activityStep user entry with
  | none => simp [startsIn, taken] at begins
  | some next =>
      exact ⟨[(user, entry)], next, Machine.Run.single taken, _, List.mem_singleton_self _, begins⟩

theorem MayStart.later (entry : ActivityLabel) (taken : activityStep user entry = some next)
    (may : MayStart next) : MayStart user := by
  obtain ⟨steps, last, run, here, member, begins⟩ := may
  exact ⟨_, last, Machine.Run.cons taken run, here, List.mem_cons_of_mem _ member, begins⟩

/-- A pool with a healthy server. -/
def servingPool : ServerPool := oneUser.shared.pool

section Tcp

variable {call : TcpCall}

theorem MayStart.tcp {label : TcpLabel} {effects : List Effect} {outcome : TcpOutcome}
    (taken : tcpStep servingPool stopped call label = some (effects, outcome))
    (may : MayStart ⟨stopped, outcome.control⟩) : MayStart ⟨stopped, .tcp call⟩ :=
  .later ⟨servingPool, .tcp label⟩ (by simp [activityStep, controlStep, taken]) may

/-- The think time is over: the next page begins. -/
theorem mayStart_of_thinking (stage : call.stage = .thinking) (more : onLastPage call = false) :
    MayStart ⟨stopped, .tcp call⟩ := by
  cases browsing : call.activity with
  | webBrowsing pages requests =>
      have follows : call.page + 1 < pages.toNat := by
        simpa [onLastPage, browsing] using more
      refine .now ⟨servingPool, .tcp (.thinkOver ⟨0⟩ 0)⟩ ?_
      simp only [startsIn, activityStep, controlStep, tcpStep, stage, browsing, if_pos follows]
      rfl
  | _ => simp [onLastPage, browsing] at more

/-- A page that fails leads to its think time. -/
theorem mayStart_of_failed (more : onLastPage call = false) :
    MayStart ⟨stopped, (afterConnection call).control⟩ := by
  cases browsing : call.activity with
  | webBrowsing pages requests =>
      simp only [afterConnection, browsing]
      exact mayStart_of_thinking rfl (by simpa [onLastPage, browsing] using more)
  | _ => simp [onLastPage, browsing] at more

/-- The back-off is over: the next connect begins. -/
theorem mayStart_of_backoff {attempt : Nat} (stage : call.stage = .backoff attempt) :
    MayStart ⟨stopped, .tcp call⟩ := by
  refine .now ⟨servingPool, .tcp (.backoffOver 0)⟩ ?_
  have chosen : (servingPool.getServer 0).1 = some localServer := by decide +kernel
  simp [startsIn, activityStep, controlStep, tcpStep, stage, tryServer, chosen, starts,
    TcpOutcome.control, TcpStage.dialing]

theorem mayStart_of_connecting {attempt : Nat} {server : SocketAddr}
    (stage : call.stage = .connecting attempt server) (unsettled : settled (.tcp call) = false) :
    MayStart ⟨stopped, .tcp call⟩ := by
  rcases Bool.and_eq_false_iff.mp unsettled with more | retries
  · have unnamed : tcpStep servingPool stopped call (.connected (some "")) =
        some ([.markConnectionStart server, .markConnectionSuccess server] ++ (failed call "").1,
          afterConnection call) := by
      simp only [tcpStep, stage]
      rfl
    exact .tcp unnamed (mayStart_of_failed more)
  · have again : attempt + 1 < maxRetries := by
      rw [stage] at retries
      simpa [TcpStage.lastAttempt] using retries
    have refused : tcpStep servingPool stopped call (.refused "") =
        some ([.markConnectionFailed server],
          .running { call with stage := .backoff attempt }) := by
      simp only [tcpStep, stage, if_pos again]
    exact .tcp refused (mayStart_of_backoff rfl)

/-- A message that cannot be sent or received ends the page. -/
theorem mayStart_of_broken {server : SocketAddr} {exchange : Exchange}
    (stage : call.stage = .streaming server exchange) (more : onLastPage call = false)
    (talking : exchange.sending = true ∨ exchange.receiving = true) :
    MayStart ⟨stopped, .tcp call⟩ := by
  rcases talking with sending | receiving
  · have broken : tcpStep servingPool stopped call (.sendFailed "") = some (failed call "") := by
      simp only [tcpStep, stage, streamStep, sending, if_true]
    exact .tcp broken (mayStart_of_failed more)
  · have broken : tcpStep servingPool stopped call (.receiveFailed "") = some (failed call "") := by
      simp only [tcpStep, stage, streamStep, receiving, if_true]
    exact .tcp broken (mayStart_of_failed more)

theorem mayStart_of_streaming {server : SocketAddr} {exchange : Exchange}
    (stage : call.stage = .streaming server exchange) (more : onLastPage call = false) :
    MayStart ⟨stopped, .tcp call⟩ := by
  cases exchange with
  | pause left =>
      have resumed : tcpStep servingPool stopped call .pauseOver =
          some ([], .running { call with
            stage := .streaming server (if stopped then .sendClose else nextRequest (left - 1)) }) := by
        simp only [tcpStep, stage, streamStep]
      refine .tcp resumed (mayStart_of_broken rfl more (Or.inl ?_))
      unfold nextRequest
      split
      · rfl
      · split <;> rfl
  | sendHandshake | sendRequest | sendDownloadRequest | sendUploadRequest | sendChunk
  | sendClose => exact mayStart_of_broken stage more (Or.inl rfl)
  | receiveHandshake | receiveResponse | receiveChunk | receiveUploadAck
  | receiveChunkAck => exact mayStart_of_broken stage more (Or.inr rfl)

theorem mayStart_of_tcp (unsettled : settled (.tcp call) = false) :
    MayStart ⟨stopped, .tcp call⟩ := by
  cases stage : call.stage with
  | connecting attempt server => exact mayStart_of_connecting stage unsettled
  | backoff attempt => exact mayStart_of_backoff stage
  | streaming server exchange =>
      have more : onLastPage call = false := by
        simpa [settled, stage, TcpStage.lastAttempt] using unsettled
      exact mayStart_of_streaming stage more
  | thinking =>
      have more : onLastPage call = false := by
        simpa [settled, stage, TcpStage.lastAttempt] using unsettled
      exact mayStart_of_thinking stage more

end Tcp

section Quic

variable {call : QuicCall}

theorem MayStart.quic {label : QuicLabel} {effects : List Effect} {outcome : QuicOutcome}
    (taken : quicStep call label = some (effects, outcome))
    (may : MayStart ⟨stopped, outcome.control⟩) : MayStart ⟨stopped, .quic call⟩ :=
  .later ⟨servingPool, .quic label⟩ (by simp [activityStep, controlStep, taken]) may

/-- The head of the page loop begins a page. -/
theorem nextPage_of_unsettled (unsettled : settled (.quic call) = false) :
    ∃ effects next, nextPage call call.stage.following 0 = (effects, .running next) := by
  obtain ⟨follows, ranged⟩ : call.stage.following < call.pagesToVisit.toNat ∧
      call.resourcesPerPage.1 ≤ call.resourcesPerPage.2 := by
    simpa [settled, onLastQuicPage] using unsettled
  rw [nextPage, if_pos follows, genRange, if_pos ranged]
  exact ⟨_, _, rfl⟩

theorem mayStart_of_quicThinking {page : Nat} (stage : call.stage = .thinking page)
    (unsettled : settled (.quic call) = false) : MayStart ⟨stopped, .quic call⟩ := by
  obtain ⟨effects, next, begun⟩ := nextPage_of_unsettled unsettled
  rw [stage] at begun
  refine .now ⟨servingPool, .quic (.thinkOver 0)⟩ ?_
  have stepped : quicStep call (.thinkOver 0) = some (effects, .running next) := by
    simp only [quicStep, stage]
    exact congrArg some begun
  simp [startsIn, activityStep, controlStep, stepped, QuicOutcome.control, starts]

/-- What times out on a page leads to its think time. -/
theorem mayStart_of_pageFailed {page : Nat} (message : String)
    (same : page + 1 = call.stage.following) (unsettled : settled (.quic call) = false) :
    MayStart ⟨stopped, (pageFailed call page message).2.control⟩ := by
  refine mayStart_of_quicThinking rfl ?_
  have follows : QuicStage.following (.thinking page) = call.stage.following := same
  rw [settled, onLastQuicPage] at unsettled ⊢
  rw [follows]
  exact unsettled

theorem mayStart_of_quic (unsettled : settled (.quic call) = false) :
    MayStart ⟨stopped, .quic call⟩ := by
  cases stage : call.stage with
  | connecting =>
      obtain ⟨effects, next, begun⟩ := nextPage_of_unsettled unsettled
      rw [stage] at begun
      refine .now ⟨servingPool, .quic (.connected 0)⟩ ?_
      have stepped : quicStep call (.connected 0) = some (effects, .running next) := by
        simp only [quicStep, stage]
        exact congrArg some begun
      simp [startsIn, activityStep, controlStep, stepped, QuicOutcome.control, starts]
  | mainPage page resources request =>
      have timedOut : quicStep call (.mainRequest .timedOut) =
          some (pageFailed call page "Request timed out") := by
        simp only [quicStep, stage, requestStep, Option.map_some]
        rfl
      exact .quic timedOut
        (mayStart_of_pageFailed "Request timed out" (by rw [stage]; rfl) unsettled)
  | resources page waiting inFlight allSuccessful =>
      have timedOut : quicStep call .resourcesTimedOut =
          some (pageFailed call page "deadline has elapsed") := by
        simp only [quicStep, stage]
      exact .quic timedOut
        (mayStart_of_pageFailed "deadline has elapsed" (by rw [stage]; rfl) unsettled)
  | thinking page => exact mayStart_of_quicThinking stage unsettled

end Quic

end Unsettled

/-- Once the flag is set, an activity starts no further connection or page, whatever
comes, exactly if it is settled at that moment. -/
theorem starts_nothing_iff_settled (user : User) (pool : ServerPool) :
    (∀ stopped, activityMachine.step user ⟨pool, .stop⟩ = some stopped →
      ∀ steps last, activityMachine.Run stopped steps last →
        ∀ entry ∈ steps, startsIn entry.1 entry.2 = false) ↔
      settled user.control = true := by
  constructor
  · intro quiet
    by_contra unsettled
    rw [Bool.not_eq_true] at unsettled
    have may : MayStart { user with stopped := true } := by
      cases working : user.control with
      | tcp call => exact mayStart_of_tcp (working ▸ unsettled)
      | quic call => exact mayStart_of_quic (working ▸ unsettled)
      | _ => simp [settled, working] at unsettled
    obtain ⟨steps, last, run, entry, member, begins⟩ := may
    have none := quiet _ rfl steps last run entry member
    rw [begins] at none
    cases none
  · intro here stopped taken steps last run
    obtain rfl := Option.some.inj taken
    have still : settled ({ user with stopped := true } : User).control = true := here
    exact starts_nothing_of_settled still run

/-! ## Activities of the client -/

section Client

variable {state next last : ClientState} {index : Nat} {user : User} {label : UserLabel}
  {steps : List (ClientState × ClientLabel)}

/-- A label of an activity under way. -/
def UserLabel.within : UserLabel → Bool
  | .stop | .tcp _ | .quic _ => true
  | .start | .activity _ _ _ _ | .finish => false

/-- What a user of the client does within an activity is a step of the activity. -/
theorem activityStep_of_clientStep (present : state.users[index]? = some user)
    (within : label.within = true)
    (taken : clientMachine.step state (.user index label) = some next) :
    ∃ after, next.users[index]? = some after ∧
      activityStep user ⟨state.shared.pool, label⟩ = some after := by
  obtain ⟨⟨effects, after⟩, own, rfl⟩ := Option.map_eq_some_iff.mp taken
  obtain ⟨inRange, -⟩ := List.getElem?_eq_some_iff.mp present
  refine ⟨after, List.getElem?_set_self inRange, ?_⟩
  unfold userStep at own
  split at own
  · rename_i inside
    obtain rfl := Option.some.inj (present.symm.trans inside)
    obtain ⟨-, rfl⟩ := Prod.mk.inj (Option.some.inj own)
    rfl
  · rename_i label _ _ _ inside notStop
    obtain rfl := Option.some.inj (present.symm.trans inside)
    obtain ⟨result, stepped, guarded⟩ := Option.bind_eq_some_iff.mp own
    split at guarded
    · obtain ⟨-, rfl⟩ := Prod.mk.inj (Option.some.inj guarded)
      cases label with
      | stop => exact absurd rfl notStop
      | tcp label | quic label => simp [activityStep, stepped]
      | start | activity | finish => cases within
    · cases guarded
  · cases own

/-- A user that was settled starts nothing more, among any other users, before its
session loop comes round to the flag. -/
theorem client_starts_nothing (run : clientMachine.Run state steps last)
    (present : state.users[index]? = some user) (here : settled user.control = true)
    (within : ∀ entry ∈ steps, ∀ label, entry.2 = .user index label → label.within = true) :
    ∀ entry ∈ steps, ∀ label, entry.2 = .user index label →
      ∃ acting, entry.1.users[index]? = some acting ∧
        startsIn acting ⟨entry.1.shared.pool, label⟩ = false := by
  intro entry member label acts
  obtain ⟨before, next, earlier, taken⟩ := run.mem_step member
  obtain ⟨past, subset, earlier⟩ := run.before member
  obtain ⟨acting, there, still⟩ := earlier.invariant_under
    (fun _ label => ∀ own, label = .user index own → own.within = true)
    (fun state => ∃ acting, state.users[index]? = some acting ∧ settled acting.control = true)
    (fun entry member => within entry (subset member)) ⟨user, present, here⟩ (by
      rintro state label next ⟨acting, there, still⟩ inside taken
      by_cases own : ∃ label', label = .user index label'
      · obtain ⟨label', rfl⟩ := own
        obtain ⟨after, now, stepped⟩ := activityStep_of_clientStep there (inside _ rfl) taken
        exact ⟨after, now, (settled_of_step still stepped).1⟩
      · rw [user_kept_of_step taken (fun label' same => own ⟨label', same⟩)]
        exact ⟨acting, there, still⟩)
  refine ⟨acting, there, ?_⟩
  rw [acts] at taken
  obtain ⟨after, -, stepped⟩ := activityStep_of_clientStep there (within entry member label acts)
    taken
  rw [startsIn, stepped]
  exact (settled_of_step still stepped).2

end Client

/-! ## A page and a connect after the flag -/

/-- The flag is set while a page of two has just failed. -/
def flaggedBetweenPages : List ClientLabel :=
  [.user 0 .start, .user 0 (.activity (.webBrowsing 2 (1, 1)) ⟨1⟩ 0 none),
    .user 0 (.tcp (.connected (some "no local address"))), .user 0 .stop]

def flaggedClient : ClientState :=
  (clientMachine.play oneUser flaggedBetweenPages).get (by decide +kernel)

/-- The flag is set, and the next page begins with a connection of its own. -/
theorem page_follows_the_flag :
    clientMachine.play oneUser flaggedBetweenPages = some flaggedClient ∧
      flaggedClient.users.map User.stopped = [true] ∧
      ∃ next, clientMachine.step flaggedClient (.user 0 (.tcp (.thinkOver ⟨2⟩ 0))) = some next ∧
        next.users.map User.control = [.tcp
          { activity := .webBrowsing 2 (1, 1), page := 1, connectionId := ⟨2⟩,
            stage := .connecting 0 localServer }] := by
  refine ⟨(Option.some_get _).symm, by decide +kernel, ?_⟩
  exact Option.map_eq_some_iff.mp (show (clientMachine.step flaggedClient
    (.user 0 (.tcp (.thinkOver ⟨2⟩ 0)))).map (fun next => next.users.map User.control) = some _ by
      decide +kernel)

end Npt.Client
