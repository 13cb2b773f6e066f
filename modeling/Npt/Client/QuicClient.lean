import Npt.Client.Effect

/-!
Contract: the QUIC activity (`client/src/quic_client.rs`).

A session selects a server, sets its endpoint up, connects, and browses pages: a
main resource first, then the page's other resources, of which at most
`concurrent_requests` are under way at a time. What fails before the first page
returns from the session at once; what fails on a page is recorded and the
session goes on.

Owns: the session, its pages and requests, and the sizes it accepts.

Does not own: the transport and its security set-up, whose errors are labels, or
sleeping times.
-/

namespace Npt.Client

open Npt.Core
open Npt.Shared

/-! ## One request -/

structure Request where
  path : String
  /-- The request is written and the response is being read. -/
  sent : Bool := false
deriving DecidableEq, Repr

inductive RequestEvent where
  | sent
  /-- Opening the stream or writing to it fails. -/
  | failed (error : String)
  /-- The response ends, or reading it fails, after `size` bytes. -/
  | responded (size latency : Nat)
  | timedOut
deriving DecidableEq, Repr

inductive RequestResult where
  | pending (request : Request)
  | ok
  | error (message : String)
deriving DecidableEq, Repr

/-- `path + "\n" + session_id`. -/
def requestLength (path : String) : Nat := path.utf8ByteSize + 1 + 36

def expectedMinSize (path : String) : Nat :=
  if contains path ".html" then 1024
  else if contains path ".css" then 512
  else if contains path ".js" then 512
  else if contains path ".png" then 2048
  else 256

/-- `request_resource` under its caller's timeout. -/
def requestStep (id : Uuid) (request : Request) : RequestEvent → Option (List Effect × RequestResult)
  | .sent =>
      if request.sent then none
      else some ([.recordPacketSent id,
          .recordBytesSent id (UInt64.ofNat (requestLength request.path))],
        .pending { request with sent := true })
  | .failed error => if request.sent then none else some ([], .error error)
  | .responded size latency =>
      if request.sent then
        if size = 0 then some ([], .error "Empty response received")
        else if size < expectedMinSize request.path then
          some ([], .error (s!"Response too small: expected at least " ++
            s!"{expectedMinSize request.path} bytes, got {size}"))
        else some ([.recordPacketReceived id, .recordBytesReceived id (UInt64.ofNat size),
          .recordLatency id latency], .ok)
      else none
  | .timedOut => some ([], .error "Request timed out")

/-! ## The session -/

inductive QuicStage where
  | connecting
  /-- The main resource of a page with `resources` others. -/
  | mainPage (page resources : Nat) (request : Request)
  /-- The other resources: those to start, those under way, and whether all
  that finished did so with `Ok`. -/
  | resources (page waiting : Nat) (inFlight : List Request) (allSuccessful : Bool)
  | thinking (page : Nat)
deriving DecidableEq, Repr

structure QuicCall where
  pagesToVisit : UInt32
  resourcesPerPage : UInt32 × UInt32
  concurrentRequests : UInt32
  connectionId : Uuid
  server : SocketAddr
  stage : QuicStage
deriving DecidableEq, Repr

inductive QuicLabel where
  | connected (draw : Nat)
  | connectFailed (error : String)
  | connectTimedOut
  | mainRequest (event : RequestEvent)
  /-- The next resource starts; the draw chooses its kind. -/
  | startResource (draw : Nat)
  | resource (index : Nat) (event : RequestEvent)
  /-- The timeout over all resources of a page. -/
  | resourcesTimedOut
  | thinkOver (draw : Nat)
deriving DecidableEq, Repr

inductive QuicOutcome where
  | running (call : QuicCall)
  | returned
  | panicked (server : SocketAddr) (connectionId : Uuid)
deriving DecidableEq, Repr

def resourcePath (draw : Nat) : String :=
  match draw % 4 with
  | 0 => "/css/style_0.css"
  | 1 => "/js/script_1.js"
  | 2 => "/images/image_2.png"
  | _ => "/data/data_3.json"

/-- The head of the page loop: the next page, or the end of the session. -/
def nextPage (call : QuicCall) (page draw : Nat) : List Effect × QuicOutcome :=
  if page < call.pagesToVisit.toNat then
    match genRange call.resourcesPerPage draw with
    | some resources =>
        ([], .running { call with
          stage := .mainPage page resources { path := s!"/page_{page}.html" } })
    | none => ([], .panicked call.server call.connectionId)
  else ([.markConnectionEnd call.server, .endConnection call.connectionId], .returned)

/-- `browse_page` returned `Err`, which the session records. -/
def pageFailed (call : QuicCall) (page : Nat) (message : String) : List Effect × QuicOutcome :=
  ([.recordErrorWithDetail call.connectionId .ioError message
      (some s!"QuicWebBrowsing - page: {page}")],
    .running { call with stage := .thinking page })

/-- `browse_page` is collecting its resources; it returns `Ok` with the last. A
`buffer_unordered(0)` never comes to the end of its stream. -/
def collectResources (call : QuicCall) (page waiting : Nat) (inFlight : List Request)
    (allSuccessful : Bool) : QuicOutcome :=
  .running { call with
    stage :=
      if 0 < call.concurrentRequests.toNat ∧ waiting = 0 ∧ inFlight = [] then .thinking page
      else .resources page waiting inFlight allSuccessful }

/-- One step of a QUIC session. -/
def quicStep (call : QuicCall) (label : QuicLabel) : Option (List Effect × QuicOutcome) :=
  match call.stage, label with
  | .connecting, .connected draw => some (nextPage call 0 draw)
  | .connecting, .connectFailed error =>
      some ([.recordErrorWithDetail call.connectionId .ioError error
        (some s!"QuicWebBrowsing - QUIC connect to server: {call.server.text}")], .returned)
  | .connecting, .connectTimedOut =>
      some ([.recordErrorWithDetail call.connectionId .ioError "QUIC Connection timed out"
        (some s!"QuicWebBrowsing - connect to server: {call.server.text} timeout")], .returned)
  | .mainPage page resources request, .mainRequest event =>
      (requestStep call.connectionId request event).map (fun result =>
        match result.2 with
        | .pending request =>
            (result.1, .running { call with stage := .mainPage page resources request })
        | .ok => (result.1, collectResources call page resources [] true)
        | .error message =>
            let failed := pageFailed call page message
            (result.1 ++ failed.1, failed.2))
  | .resources page waiting inFlight allSuccessful, .startResource draw =>
      if 0 < waiting ∧ inFlight.length < call.concurrentRequests.toNat then
        some ([], .running { call with
          stage := .resources page (waiting - 1) (inFlight ++ [{ path := resourcePath draw }])
            allSuccessful })
      else none
  | .resources page waiting inFlight allSuccessful, .resource index event =>
      match inFlight[index]? with
      | none => none
      | some request =>
          (requestStep call.connectionId request event).map (fun result =>
            (result.1, match result.2 with
              | .pending request =>
                  .running { call with
                    stage := .resources page waiting (inFlight.set index request) allSuccessful }
              | .ok => collectResources call page waiting (inFlight.eraseIdx index) allSuccessful
              | .error _ => collectResources call page waiting (inFlight.eraseIdx index) false))
  | .resources page _ _ _, .resourcesTimedOut =>
      some (pageFailed call page "deadline has elapsed")
  | .thinking page, .thinkOver draw => some (nextPage call (page + 1) draw)
  | _, _ => none

/-- `simulate_web_browsing_session` up to its first wait. `setupError` is what
creating the endpoint, configuring it or starting the connect returns with. -/
def startQuic (pool : ServerPool) (activity : UserActivity) (connectionId : Uuid) (draw : Nat)
    (setupError : Option String) : Option (List Effect × QuicOutcome) :=
  match activity with
  | .quicWebBrowsing pagesToVisit resourcesPerPage concurrentRequests =>
      let registered : List Effect :=
        [.startConnection connectionId .quic activity, .getServer draw]
      match (pool.getServer draw).1, setupError with
      | none, _ => some (registered, .returned)
      | some server, some _ => some (registered ++ [.markConnectionStart server], .returned)
      | some server, none =>
          some (registered ++ [.markConnectionStart server],
            .running
              { pagesToVisit := pagesToVisit
                resourcesPerPage := resourcesPerPage
                concurrentRequests := concurrentRequests
                connectionId := connectionId
                server := server
                stage := .connecting })
  | _ => none

/-! ## What a step can do -/

/-- The session fails before its first page. -/
def QuicLabel.failsConnect : QuicLabel → Bool
  | .connectFailed _ | .connectTimedOut => true
  | _ => false

/-- The steps of a QUIC session. -/
inductive QuicMove (call : QuicCall) : QuicLabel → List Effect → QuicOutcome → Prop where
  | continued {label : QuicLabel} {effects : List Effect} {next : QuicStage}
      (quiet : Effect.Neutral effects) (onwards : label.failsConnect = false) :
      QuicMove call label effects (.running { call with stage := next })
  | panicked {label : QuicLabel} {effects : List Effect} (quiet : Effect.Neutral effects)
      (onwards : label.failsConnect = false) :
      QuicMove call label effects (.panicked call.server call.connectionId)
  | completed {label : QuicLabel} (onwards : label.failsConnect = false) :
      QuicMove call label
        [.markConnectionEnd call.server, .endConnection call.connectionId] .returned
  | unconnected {label : QuicLabel} {effects : List Effect} (quiet : Effect.Neutral effects)
      (fails : label.failsConnect = true) : QuicMove call label effects .returned

section Moves

variable {call : QuicCall} {label : QuicLabel} {effects : List Effect} {outcome : QuicOutcome}

theorem neutral_requestStep {id : Uuid} {request : Request} {event : RequestEvent}
    {result : List Effect × RequestResult}
    (taken : requestStep id request event = some result) : Effect.Neutral result.1 := by
  cases event <;> simp only [requestStep] at taken <;> (repeat' split at taken) <;>
    simp only [Option.some.injEq, reduceCtorEq] at taken <;> subst taken <;>
    simp [Effect.Neutral, Effect.neutral]

theorem neutral_pageFailed (call : QuicCall) (page : Nat) (message : String) :
    Effect.Neutral (pageFailed call page message).1 := by
  simp [pageFailed, Effect.Neutral, Effect.neutral]

theorem move_of_nextPage (call : QuicCall) (page draw : Nat)
    (onwards : label.failsConnect = false) :
    QuicMove call label (nextPage call page draw).1 (nextPage call page draw).2 := by
  unfold nextPage
  split
  · split
    · exact .continued (by simp [Effect.Neutral]) onwards
    · exact .panicked (by simp [Effect.Neutral]) onwards
  · exact .completed onwards

theorem move_of_quicStep (taken : quicStep call label = some (effects, outcome)) :
    QuicMove call label effects outcome := by
  unfold quicStep at taken
  split at taken
  · obtain ⟨rfl, rfl⟩ := Prod.mk.inj (Option.some.inj taken)
    exact move_of_nextPage call _ _ rfl
  · obtain ⟨rfl, rfl⟩ := Prod.mk.inj (Option.some.inj taken)
    exact .unconnected (by simp [Effect.Neutral, Effect.neutral]) rfl
  · obtain ⟨rfl, rfl⟩ := Prod.mk.inj (Option.some.inj taken)
    exact .unconnected (by simp [Effect.Neutral, Effect.neutral]) rfl
  · obtain ⟨result, requested, same⟩ := Option.map_eq_some_iff.mp taken
    have quiet := neutral_requestStep requested
    split at same
    · obtain ⟨rfl, rfl⟩ := Prod.mk.inj same
      exact .continued quiet rfl
    · obtain ⟨rfl, rfl⟩ := Prod.mk.inj same
      exact .continued quiet rfl
    · obtain ⟨rfl, rfl⟩ := Prod.mk.inj same
      refine .continued ?_ rfl
      intro effect member
      rcases List.mem_append.mp member with requested | recorded
      · exact quiet effect requested
      · exact neutral_pageFailed call _ _ effect recorded
  · split at taken
    · obtain ⟨rfl, rfl⟩ := Prod.mk.inj (Option.some.inj taken)
      exact .continued (by simp [Effect.Neutral]) rfl
    · simp at taken
  · split at taken
    · simp at taken
    · obtain ⟨result, requested, same⟩ := Option.map_eq_some_iff.mp taken
      have quiet := neutral_requestStep requested
      obtain ⟨rfl, rfl⟩ := Prod.mk.inj same
      split <;> exact .continued quiet rfl
  · obtain ⟨rfl, rfl⟩ := Prod.mk.inj (Option.some.inj taken)
    exact .continued (neutral_pageFailed call _ _) rfl
  · obtain ⟨rfl, rfl⟩ := Prod.mk.inj (Option.some.inj taken)
    exact move_of_nextPage call _ _ rfl
  · simp at taken

/-- How a QUIC session begins. -/
inductive QuicStart (pool : ServerPool) (activity : UserActivity) (connectionId : Uuid)
    (draw : Nat) (setupError : Option String) : List Effect → QuicOutcome → Prop where
  | noServer (none : (pool.getServer draw).1 = none) :
      QuicStart pool activity connectionId draw setupError
        [.startConnection connectionId .quic activity, .getServer draw] .returned
  | setupFailed {server : SocketAddr} {error : String}
      (selected : (pool.getServer draw).1 = some server) (failed : setupError = some error) :
      QuicStart pool activity connectionId draw setupError
        [.startConnection connectionId .quic activity, .getServer draw,
          .markConnectionStart server] .returned
  | connecting {server : SocketAddr} {call : QuicCall}
      (selected : (pool.getServer draw).1 = some server) (passed : setupError = none)
      (target : call.server = server) (registered : call.connectionId = connectionId) :
      QuicStart pool activity connectionId draw setupError
        [.startConnection connectionId .quic activity, .getServer draw,
          .markConnectionStart server] (.running call)

theorem start_of_startQuic {pool : ServerPool} {activity : UserActivity} {connectionId : Uuid}
    {draw : Nat} {setupError : Option String}
    (taken : startQuic pool activity connectionId draw setupError = some (effects, outcome)) :
    QuicStart pool activity connectionId draw setupError effects outcome := by
  unfold startQuic at taken
  split at taken
  · dsimp only at taken
    split at taken
    · rename_i none
      obtain ⟨rfl, rfl⟩ := Prod.mk.inj (Option.some.inj taken)
      exact .noServer none
    · rename_i server error selected
      obtain ⟨rfl, rfl⟩ := Prod.mk.inj (Option.some.inj taken)
      exact .setupFailed selected rfl
    · rename_i server selected
      obtain ⟨rfl, rfl⟩ := Prod.mk.inj (Option.some.inj taken)
      exact .connecting selected rfl rfl rfl
  · simp at taken

end Moves

end Npt.Client
