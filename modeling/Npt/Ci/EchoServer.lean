import Mathlib.Data.UInt
import Npt.Ci.Server
import Npt.Ci.UdpEcho
import Npt.Core.Fleet

/-!
Contract: the whole echo endpoint (`run` in `ci/src/server.rs`).

The acceptor takes one connection after another and hands each to a task of its
own, which runs `tcp_echo` and takes it off `tcp_active` when that returns;
`udp_echo` is a task beside them. All of them act on the same `ServeStats`. A
frame's write or flush may fail after any part of it has gone out, and never waits:
a peer that has closed is one that closed both directions, which resets a write that
still waits for room.

Owns: the machine of the endpoint, what every connection gets back, what the
counters say in every state, and that connections whose peers have closed are
all served to their end.

Does not own: the heartbeat, which reads the counters, or the binding of the two
sockets.
-/

namespace Npt.Ci.Server

open Npt.Core
open Npt.Ci.Protocol

structure ServeStats where
  tcpConns : UInt64 := 0
  tcpActive : UInt64 := 0
  udpDatagrams : UInt64 := 0
  bytesEchoed : UInt64 := 0
deriving DecidableEq, Repr

/-- One accepted connection. -/
structure EchoConnection where
  /-- Delivered and unread bytes. -/
  rx : ByteStream IoError := ⟨[], .live⟩
  /-- The frames written whole. -/
  written : List UInt8 := []
  /-- The part of a frame that went out although its write or flush failed. -/
  torn : Option (List UInt8) := none
  /-- What `tcp_echo` returned. -/
  result : Option (Except IoError Unit) := none

/-- What the tasks share, with the states of the acceptor and of `udp_echo`. -/
structure Endpoint where
  stats : ServeStats := {}
  /-- The acceptor's pause after a failed `accept`. -/
  pausing : Bool := false
  /-- `udp_echo`, where it was started. -/
  udp : Option UdpStage := none

inductive ConnectionMove where
  | echo (label : EchoLabel)
  | writeFails (count : Nat) (error : IoError)

inductive EndpointAct where
  | acceptFails
  | wake
  | udp (label : UdpEchoLabel)

/-- The state of `tcp_echo` on a connection, with the counter it adds to. -/
def EchoConnection.loop (connection : EchoConnection) (bytesEchoed : UInt64) : EchoState where
  rx := connection.rx
  written := connection.written
  bytesEchoed := bytesEchoed
  result := connection.result

/-- The state of `udp_echo`, with the counters it adds to. -/
def Endpoint.socket (endpoint : Endpoint) (stage : UdpStage) : UdpEchoState where
  stage := stage
  udpDatagrams := endpoint.stats.udpDatagrams
  bytesEchoed := endpoint.stats.bytesEchoed

/-- `accept` returned a connection. -/
def accept (endpoint : Endpoint) : Option (EchoConnection × Endpoint) :=
  if endpoint.pausing then none
  else some ({}, { endpoint with
    stats.tcpConns := endpoint.stats.tcpConns + 1
    stats.tcpActive := endpoint.stats.tcpActive + 1 })

/-- The end of a connection's task. -/
def Endpoint.leave (endpoint : Endpoint) : Endpoint :=
  { endpoint with stats.tcpActive := endpoint.stats.tcpActive - 1 }

def serve (connection : EchoConnection) (endpoint : Endpoint) :
    ConnectionMove → Option (EchoConnection × Endpoint)
  | .echo label =>
      (echoStep (connection.loop endpoint.stats.bytesEchoed) label).map (fun next =>
        let counted := { endpoint with stats.bytesEchoed := next.bytesEchoed }
        ({ connection with rx := next.rx, written := next.written, result := next.result },
          if connection.result.isNone ∧ next.result.isSome then counted.leave else counted))
  | .writeFails count error =>
      match connection.result, Frame.read connection.rx with
      | none, .ok (some frame) rest =>
          some ({ connection with
              rx := rest
              torn := some (frame.encode.take count)
              result := some (.error error) },
            endpoint.leave)
      | _, _ => none

def Endpoint.act (endpoint : Endpoint) : EndpointAct → Option Endpoint
  | .acceptFails => if endpoint.pausing then none else some { endpoint with pausing := true }
  | .wake => if endpoint.pausing then some { endpoint with pausing := false } else none
  -- What the connections count is theirs to add.
  | .udp (.tcpEchoed _) => none
  | .udp label =>
      match endpoint.udp with
      | none => none
      | some stage =>
          (udpEchoStep (endpoint.socket stage) label).map (fun next => { endpoint with
            stats.udpDatagrams := next.udpDatagrams
            stats.bytesEchoed := next.bytesEchoed
            udp := some next.stage })

def echoCrew : Crew EchoConnection Endpoint Unit ConnectionMove EndpointAct where
  join := fun endpoint _ => accept endpoint
  advance := serve
  act := Endpoint.act

/-- `run`. -/
def echoServer : Machine (Fleet EchoConnection Endpoint)
    (FleetLabel Unit ConnectionMove EndpointAct) := echoCrew.machine

/-- Both sockets are bound. -/
def bound (enableUdp : Bool) : Fleet EchoConnection Endpoint where
  shared := { udp := if enableUdp then some .receiving else none }

abbrev ServeTrace := Crew.Trace EchoConnection Endpoint Unit ConnectionMove EndpointAct

/-! ## What a run delivers and sends -/

def ConnectionMove.bytes : ConnectionMove → List UInt8
  | .echo label => label.bytes
  | .writeFails _ _ => []

/-- The bytes that the peer of a connection has sent. -/
def input (index : Nat) (trace : ServeTrace) : List UInt8 :=
  (Crew.moves index trace).flatMap ConnectionMove.bytes

/-- The step of `udp_echo` that an act is. -/
def socketStep : Endpoint × EndpointAct → Option (UdpEchoState × UdpEchoLabel)
  | (endpoint, .udp label) => endpoint.udp.map (fun stage => (endpoint.socket stage, label))
  | _ => none

/-- The steps of `udp_echo`. -/
def socketTrace (trace : ServeTrace) : UdpTrace := (Crew.acts trace).filterMap socketStep

/-- The packet that `udp_echo` is sending. -/
def Endpoint.packets (endpoint : Endpoint) : List Packet := (endpoint.udp.map (·.packets)).getD []

/-! ## What a step can do -/

section Steps

variable {connection after : EchoConnection} {endpoint changed : Endpoint}

/-- What a new connection is, and what it counts. -/
theorem eq_of_accept (taken : accept endpoint = some (connection, changed)) :
    connection = {} ∧ changed = { endpoint with
      stats.tcpConns := endpoint.stats.tcpConns + 1
      stats.tcpActive := endpoint.stats.tcpActive + 1 } := by
  unfold accept at taken
  split at taken
  · simp at taken
  · obtain ⟨rfl, rfl⟩ := Prod.mk.inj (Option.some.inj taken)
    exact ⟨rfl, rfl⟩

/-- What a connection's step does. -/
inductive ServeMove (connection : EchoConnection) (endpoint : Endpoint) :
    ConnectionMove → EchoConnection → Endpoint → Prop where
  | echoed {label : EchoLabel} {next : EchoState}
      (taken : echoStep (connection.loop endpoint.stats.bytesEchoed) label = some next) :
      ServeMove connection endpoint (.echo label)
        { connection with rx := next.rx, written := next.written, result := next.result }
        (if connection.result.isNone ∧ next.result.isSome then
          ({ endpoint with stats.bytesEchoed := next.bytesEchoed } : Endpoint).leave
        else { endpoint with stats.bytesEchoed := next.bytesEchoed })
  | failed {count : Nat} {error : IoError} {frame : Frame} {rest : ByteStream IoError}
      (running : connection.result = none)
      (read : Frame.read connection.rx = .ok (some frame) rest) :
      ServeMove connection endpoint (.writeFails count error)
        { connection with
          rx := rest
          torn := some (frame.encode.take count)
          result := some (.error error) }
        endpoint.leave

theorem serveMove_of_serve {move : ConnectionMove}
    (taken : serve connection endpoint move = some (after, changed)) :
    ServeMove connection endpoint move after changed := by
  cases move with
  | echo label =>
      obtain ⟨next, stepped, same⟩ := Option.map_eq_some_iff.mp taken
      obtain ⟨rfl, rfl⟩ := Prod.mk.inj same
      exact .echoed stepped
  | writeFails count error =>
      simp only [serve] at taken
      split at taken
      · rename_i running read
        obtain ⟨rfl, rfl⟩ := Prod.mk.inj (Option.some.inj taken)
        exact .failed running read
      · simp at taken

theorem udp_of_serve {move : ConnectionMove}
    (taken : serve connection endpoint move = some (after, changed)) :
    changed.udp = endpoint.udp := by
  cases serveMove_of_serve taken with
  | echoed => split <;> rfl
  | failed => rfl

/-- `tcp_echo` does not look at the counter that it raises by what it writes. -/
theorem echoStep_adds {state next : EchoState} {label : EchoLabel}
    (taken : echoStep state label = some next) :
    ∃ added, next.written = state.written ++ added ∧ ∀ counter,
      echoStep { state with bytesEchoed := counter } label =
        some { next with bytesEchoed := counter + UInt64.ofNat added.length } := by
  cases label with
  | peerSend bytes | peerClose =>
      simp only [echoStep] at taken ⊢
      split at taken
      · rename_i live
        obtain rfl := Option.some.inj taken
        exact ⟨[], by simp, fun counter => by simp [live]⟩
      · simp at taken
  | round =>
      simp only [echoStep] at taken ⊢
      split at taken
      · rename_i running
        simp only [echoRound] at taken ⊢
        split at taken
        · simp at taken
        · obtain rfl := Option.some.inj taken
          exact ⟨[], by simp, fun counter => by simp [*]⟩
        · obtain rfl := Option.some.inj taken
          exact ⟨[], by simp, fun counter => by simp [*]⟩
        · rename_i frame rest read
          obtain rfl := Option.some.inj taken
          refine ⟨frame.encode, rfl, fun counter => ?_⟩
          simp [running, Frame.encode_length]
      · simp at taken

/-- The step of the loop on its own counter. -/
theorem echoStep_counted {state next : EchoState} {label : EchoLabel}
    (taken : echoStep state label = some next) :
    ∃ added, next.written = state.written ++ added ∧
      next.bytesEchoed = state.bytesEchoed + UInt64.ofNat added.length := by
  obtain ⟨added, written, steps⟩ := echoStep_adds taken
  have same : some next =
      some { next with bytesEchoed := state.bytesEchoed + UInt64.ofNat added.length } :=
    taken.symm.trans (steps state.bytesEchoed)
  exact ⟨added, written, congrArg EchoState.bytesEchoed (Option.some.inj same)⟩

/-- When `tcp_echo` has returned, nothing more is written. -/
theorem echoStep_of_returned {state next : EchoState} {label : EchoLabel}
    (taken : echoStep state label = some next) (past : state.result.isSome = true) :
    next.written = state.written ∧ next.result = state.result := by
  obtain ⟨result, returned⟩ := Option.isSome_iff_exists.mp past
  cases label with
  | peerSend bytes | peerClose =>
      simp only [echoStep] at taken
      split at taken
      · obtain rfl := Option.some.inj taken
        exact ⟨rfl, rfl⟩
      · simp at taken
  | round => simp [echoStep, returned] at taken

/-! ## What a connection gets back -/

/-- What `tcp_echo` has done with a connection's input, and where a write has
failed. -/
structure Served (input : List UInt8) (connection : EchoConnection) : Prop where
  whole : connection.torn = none →
    Echoed 0 input (connection.loop (UInt64.ofNat connection.written.length))
  cut : ∀ torn, connection.torn = some torn → connection.result.isSome = true ∧
    Spelled frames connection.written ∧ ∃ frame rest : List UInt8, frame ∈ frames ∧
      torn <+: frame ∧ input = connection.written ++ frame ++ rest

theorem served_fresh : Served [] ({} : EchoConnection) where
  whole _ := ⟨.nil, rfl, fun _ => rfl, by simp [EchoConnection.loop]⟩
  cut := by simp

theorem served_of_serve {input : List UInt8} {move : ConnectionMove}
    (served : Served input connection)
    (taken : serve connection endpoint move = some (after, changed)) :
    Served (input ++ move.bytes) after := by
  cases serveMove_of_serve taken with
  | @echoed label next stepped =>
      refine ⟨fun intact => ?_, fun torn isTorn => ?_⟩
      · obtain ⟨added, written, steps⟩ := echoStep_adds stepped
        have before := served.whole intact
        have stepped' := echoed_step before (steps (UInt64.ofNat connection.written.length))
        have counter : UInt64.ofNat next.written.length =
            UInt64.ofNat connection.written.length + UInt64.ofNat added.length := by
          rw [written, List.length_append, UInt64.ofNat_add]
          rfl
        rw [← counter] at stepped'
        exact stepped'
      · obtain ⟨past, spelled, frame, rest, member, front, split⟩ := served.cut torn isTorn
        obtain ⟨written, kept⟩ := echoStep_of_returned stepped past
        refine ⟨?_, ?_, frame, rest ++ label.bytes, member, front, ?_⟩
        · show next.result.isSome = true
          rw [kept]
          exact past
        · show Spelled frames next.written
          rw [written]
          exact spelled
        · show input ++ label.bytes = next.written ++ frame ++ (rest ++ label.bytes)
          rw [written, split, List.append_assoc]
          rfl
  | @failed count error frame rest running read =>
      have intact : connection.torn = none := by
        cases isTorn : connection.torn with
        | none => rfl
        | some torn => simpa [running] using (served.cut torn isTorn).1
      have before := served.whole intact
      obtain ⟨bytes, _, fits⟩ := Frame.read_some read
      refine ⟨by simp, fun torn isTorn => ?_⟩
      obtain rfl := Option.some.inj isTorn
      refine ⟨rfl, before.framed, frame.encode, rest.bytes, wellFormed_encode frame fits,
        List.take_prefix count frame.encode, ?_⟩
      have unread : input = connection.written ++ connection.rx.bytes := before.unread running
      rw [ConnectionMove.bytes, List.append_nil, unread, bytes, List.append_assoc]

end Steps

/-! ## The socket -/

section Socket

variable {endpoint changed : Endpoint} {act : EndpointAct}

/-- What an act does: it leaves the counters and the socket alone, or it is a step
of `udp_echo`. -/
inductive ActMove (endpoint : Endpoint) : EndpointAct → Endpoint → Prop where
  | acceptor {act : EndpointAct} (pausing : Bool) (other : socketStep (endpoint, act) = none) :
      ActMove endpoint act { endpoint with pausing := pausing }
  | socket {label : UdpEchoLabel} {stage : UdpStage} {next : UdpEchoState}
      (isOpen : endpoint.udp = some stage) (own : tcpBytesAt label = 0)
      (taken : udpEcho.step (endpoint.socket stage) label = some next) :
      ActMove endpoint (.udp label) { endpoint with
        stats.udpDatagrams := next.udpDatagrams
        stats.bytesEchoed := next.bytesEchoed
        udp := some next.stage }

theorem actMove_of_act (taken : endpoint.act act = some changed) :
    ActMove endpoint act changed := by
  unfold Endpoint.act at taken
  split at taken
  · split at taken
    · simp at taken
    · obtain rfl := Option.some.inj taken
      exact .acceptor true rfl
  · split at taken
    · obtain rfl := Option.some.inj taken
      exact .acceptor false rfl
    · simp at taken
  · simp at taken
  · rename_i label notTcp
    split at taken
    · simp at taken
    · rename_i stage isOpen
      obtain ⟨next, stepped, rfl⟩ := Option.map_eq_some_iff.mp taken
      refine .socket isOpen ?_ stepped
      cases label with
      | tcpEchoed bytes => exact absurd rfl (notTcp bytes)
      | _ => rfl

end Socket

/-! ## The counters -/

/-- The packets that an act has sent. -/
def packetsSent (entry : Endpoint × EndpointAct) : List Packet :=
  ((socketStep entry).map (fun step => sentAt step.1 step.2)).getD []

/-- What the counters say of the connections and of the socket. -/
structure Counted (trace : ServeTrace) (state : Fleet EchoConnection Endpoint) : Prop where
  tcpConns : state.shared.stats.tcpConns = UInt64.ofNat state.members.length
  tcpActive : state.shared.stats.tcpActive =
    UInt64.ofNat (state.members.countP (·.result.isNone))
  udpDatagrams : state.shared.stats.udpDatagrams =
    UInt64.ofNat (sent (socketTrace trace)).length
  bytesEchoed : state.shared.stats.bytesEchoed =
    UInt64.ofNat (total (·.written.length) state.members +
      ((sent (socketTrace trace)).map (·.bytes.length)).sum)

section Counters

variable {enableUdp : Bool} {trace : ServeTrace} {state : Fleet EchoConnection Endpoint}

/-- What is sent in all, measured packet by packet. -/
theorem sum_packetsSent (measure : Packet → Nat) (entries : List (Endpoint × EndpointAct)) :
    (entries.map (fun entry => UInt64.ofNat ((packetsSent entry).map measure).sum)).sum =
      UInt64.ofNat ((sent (entries.filterMap socketStep)).map measure).sum := by
  induction entries with
  | nil => rfl
  | cons entry entries inductionHypothesis =>
      rw [List.map_cons, List.sum_cons, inductionHypothesis]
      cases step : socketStep entry with
      | none => simp [packetsSent, step]
      | some taken => simp [packetsSent, step, sent, UInt64.ofNat_add]

theorem tcpConns_of_run (run : echoServer.Run (bound enableUdp) trace state) :
    state.shared.stats.tcpConns = UInt64.ofNat state.members.length := by
  have counted := Crew.counter_of_run (fun endpoint => endpoint.stats.tcpConns)
    (fun _ => (1 : UInt64)) (fun _ => 0) rfl ?_ ?_ ?_ run
  · have ones : total (fun _ => (1 : UInt64)) state.members =
        UInt64.ofNat state.members.length := by
      rw [show (fun _ : EchoConnection => (1 : UInt64)) = fun _ => UInt64.ofNat 1 from rfl,
        total_ofNat]
      simp [total]
    simpa [ones, bound] using counted
  · intro _ _ seed connection changed _ joined
    obtain ⟨rfl, rfl⟩ := eq_of_accept joined
    rfl
  · intro _ _ connection move after changed _ _ moved
    cases serveMove_of_serve moved with
    | echoed => split <;> rfl
    | failed => rfl
  · intro _ _ act changed _ acted
    cases actMove_of_act acted <;> simp

theorem tcpActive_of_run (run : echoServer.Run (bound enableUdp) trace state) :
    state.shared.stats.tcpActive = UInt64.ofNat (state.members.countP (·.result.isNone)) := by
  have counted := Crew.counter_of_run (fun endpoint => endpoint.stats.tcpActive)
    (fun connection => UInt64.ofNat connection.result.isNone.toNat) (fun _ => 0) rfl ?_ ?_ ?_ run
  · rw [total_ofNat, total_toNat (fun connection : EchoConnection => connection.result.isNone)]
      at counted
    simpa [bound] using counted
  · intro _ _ seed connection changed _ joined
    obtain ⟨rfl, rfl⟩ := eq_of_accept joined
    rfl
  · intro _ _ connection move after changed _ _ moved
    cases serveMove_of_serve moved with
    | @echoed label next stepped =>
        cases running : connection.result with
        | some result =>
            have kept := (echoStep_of_returned stepped (by simp [EchoConnection.loop, running])).2
            simp [running, kept, EchoConnection.loop]
        | none =>
            cases after : next.result with
            | none => simp
            | some result => simp [Endpoint.leave]
    | failed running read => simp [running, Endpoint.leave]
  · intro _ _ act changed _ acted
    cases actMove_of_act acted <;> simp

theorem udpDatagrams_of_run (run : echoServer.Run (bound enableUdp) trace state) :
    state.shared.stats.udpDatagrams = UInt64.ofNat (sent (socketTrace trace)).length := by
  have counted := Crew.counter_of_run (fun endpoint => endpoint.stats.udpDatagrams)
    (fun _ => 0) (fun entry => UInt64.ofNat ((packetsSent entry).map (fun _ => 1)).sum)
    rfl ?_ ?_ ?_ run
  · rw [sum_packetsSent] at counted
    simpa [total, bound, socketTrace] using counted
  · intro _ _ seed connection changed _ joined
    obtain ⟨rfl, rfl⟩ := eq_of_accept joined
    simp
  · intro _ _ connection move after changed _ _ moved
    cases serveMove_of_serve moved with
    | echoed => split <;> rfl
    | failed => rfl
  · intro _ _ act changed _ acted
    cases actMove_of_act acted with
    | acceptor pausing other => simp [packetsSent, other]
    | @socket label stage next isOpen own stepped =>
        simpa [packetsSent, socketStep, isOpen, Endpoint.socket] using
          (moves_of_step stepped).datagrams

theorem bytesEchoed_of_run (run : echoServer.Run (bound enableUdp) trace state) :
    state.shared.stats.bytesEchoed = UInt64.ofNat (total (·.written.length) state.members +
      ((sent (socketTrace trace)).map (·.bytes.length)).sum) := by
  have counted := Crew.counter_of_run (fun endpoint => endpoint.stats.bytesEchoed)
    (fun connection => UInt64.ofNat connection.written.length)
    (fun entry => UInt64.ofNat ((packetsSent entry).map (·.bytes.length)).sum) rfl ?_ ?_ ?_ run
  · rw [sum_packetsSent, total_ofNat (fun connection : EchoConnection => connection.written.length)]
      at counted
    simpa [bound, socketTrace, UInt64.ofNat_add] using counted
  · intro _ _ seed connection changed _ joined
    obtain ⟨rfl, rfl⟩ := eq_of_accept joined
    simp
  · intro _ fleet connection move after changed _ _ moved
    cases serveMove_of_serve moved with
    | @echoed label next stepped =>
        obtain ⟨added, written, counter⟩ := echoStep_counted stepped
        have raised : next.bytesEchoed =
            fleet.shared.stats.bytesEchoed + UInt64.ofNat added.length := counter
        have longer : next.written = connection.written ++ added := written
        split <;> simp [Endpoint.leave, raised, longer, UInt64.ofNat_add] <;> ac_rfl
    | failed => rfl
  · intro _ _ act changed _ acted
    cases actMove_of_act acted with
    | acceptor pausing other => simp [packetsSent, other]
    | @socket label stage next isOpen own stepped =>
        have moves := (moves_of_step stepped).bytes
        rw [own] at moves
        simpa [packetsSent, socketStep, isOpen, Endpoint.socket] using moves

/-- What the socket has answered and is sending. -/
theorem answered_of_run (run : echoServer.Run (bound enableUdp) trace state) :
    answered (socketTrace trace) ++ state.shared.packets =
      (received (socketTrace trace)).filter (fun packet => Encoded packet.bytes) := by
  refine run.history (fun trace state => answered (socketTrace trace) ++ state.shared.packets =
    (received (socketTrace trace)).filter (fun packet => Encoded packet.bytes)) ?_ ?_
  · cases enableUdp <;> rfl
  · intro trace fleet label next _ before taken
    cases Crew.fleetStep_of_step taken with
    | joined done =>
        obtain ⟨rfl, rfl⟩ := eq_of_accept done
        rw [socketTrace, Crew.acts_snoc_join]
        exact before
    | moved present done =>
        rw [socketTrace, Crew.acts_snoc_move, Endpoint.packets, udp_of_serve done]
        exact before
    | @acted act changed done =>
        cases actMove_of_act done with
        | acceptor pausing other =>
            have same : socketTrace (trace ++ [(fleet, .act act)]) = socketTrace trace := by
              simp [socketTrace, other]
            rw [same]
            exact before
        | @socket label stage next isOpen own stepped =>
            have packets := (moves_of_step stepped).packets
            rw [Endpoint.packets, isOpen] at before
            have here : socketStep (fleet.shared, .udp label) =
                some (fleet.shared.socket stage, label) := by simp [socketStep, isOpen]
            have longer : socketTrace (trace ++ [(fleet, .act (.udp label))]) =
                socketTrace trace ++ [(fleet.shared.socket stage, label)] := by
              simp [socketTrace, here]
            rw [longer, answered_snoc, received_snoc, List.filter_append, ← before,
              List.append_assoc, List.append_assoc]
            exact congrArg _ packets

end Counters

/-! ## The endpoint -/

/-- What the peer of a connection gets back of its input. -/
structure EchoedBack (input : List UInt8) (connection : EchoConnection) : Prop where
  framed : Spelled frames connection.written
  front : connection.written ++ connection.torn.getD [] <+: input
  longest : connection.result.isSome = true → connection.torn = none →
    IsLongestFramedPrefix input connection.written

theorem Served.echoedBack {input : List UInt8} {connection : EchoConnection}
    (served : Served input connection) : EchoedBack input connection := by
  cases torn : connection.torn with
  | some part =>
      obtain ⟨_, framed, frame, rest, _, ⟨missing, whole⟩, split⟩ := served.cut part torn
      refine ⟨framed, ?_, by simp [torn]⟩
      rw [torn, Option.getD_some, split, List.append_assoc, List.prefix_append_right_inj, ← whole,
        List.append_assoc]
      exact List.prefix_append part _
  | none =>
      have echoed := served.whole torn
      refine ⟨echoed.framed, ?_, fun past _ => ?_⟩
      · rw [torn, Option.getD_none, List.append_nil]
        cases returned : connection.result with
        | none => exact ⟨_, (echoed.unread returned).symm⟩
        | some result =>
            obtain ⟨rest, split, _, _⟩ := echoed.stopped (by simp [EchoConnection.loop, returned])
            exact ⟨rest, split.symm⟩
      · obtain ⟨rest, split, blocked, _⟩ := echoed.stopped past
        refine ⟨⟨rest, split.symm⟩, echoed.framed, fun other front spelled => ?_⟩
        rw [split] at front
        exact frames_prefixCode.prefix_of_blocked echoed.framed blocked spelled front

section Endpoints

variable {enableUdp : Bool} {trace : ServeTrace} {state : Fleet EchoConnection Endpoint}

theorem served_of_run (run : echoServer.Run (bound enableUdp) trace state) :
    ∀ (index : Nat) connection, state.members[index]? = some connection →
      Served (input index trace) connection := by
  refine Crew.local_of_run (fun own connection =>
    Served (own.flatMap ConnectionMove.bytes) connection) rfl ?_ ?_ run
  · intro endpoint seed connection changed joined
    obtain ⟨rfl, -⟩ := eq_of_accept joined
    exact served_fresh
  · intro own connection endpoint move after changed served moved
    rw [List.flatMap_append, List.flatMap_singleton]
    exact served_of_serve served moved

theorem counted_of_run (run : echoServer.Run (bound enableUdp) trace state) :
    Counted trace state where
  tcpConns := tcpConns_of_run run
  tcpActive := tcpActive_of_run run
  udpDatagrams := udpDatagrams_of_run run
  bytesEchoed := bytesEchoed_of_run run

/-- A round of a connection. -/
def IsRound (label : FleetLabel Unit ConnectionMove EndpointAct) : Prop :=
  ∃ index move, label = .move index move ∧ move = .echo .round

/-- A connection whose peer has closed comes to its end by rounds. -/
theorem connection_moves_on {connection : EchoConnection} (endpoint : Endpoint)
    (ended : connection.result.isSome = true ∨ connection.rx.ending = .eof)
    (running : ¬connection.result.isSome = true) :
    ∃ move after changed, move = .echo .round ∧
      serve connection endpoint move = some (after, changed) ∧
      (after.result.isSome = true ∨ after.rx.ending = .eof) ∧
      (if after.result.isNone then after.rx.bytes.length + 1 else 0) <
        if connection.result.isNone then connection.rx.bytes.length + 1 else 0 := by
  have none : connection.result = none := by simpa using running
  have closed : connection.rx.ending = .eof := by simpa [none] using ended
  obtain ⟨next, taken, nearer⟩ := @round_enabled (connection.loop endpoint.stats.bytesEchoed)
    none closed
  have stepped : echoStep (connection.loop endpoint.stats.bytesEchoed) .round = some next := taken
  refine ⟨_, _, _, rfl, by rw [serve, stepped, Option.map_some], ?_, ?_⟩
  · rcases nearer with past | ⟨_, stillClosed, _⟩
    · exact Or.inl past
    · exact Or.inr stillClosed
  · rcases nearer with past | ⟨goesOn, _, shorter⟩
    · simp [none, Option.isSome_iff_ne_none.mp past]
    · have fewer : next.rx.bytes.length < connection.rx.bytes.length := shorter
      simpa [none, goesOn] using fewer

/-- Connections and datagrams in any number and any order: what goes back to the peer
of a connection is the beginning of what that peer sent and made of whole frames but
for a write that failed, and all that is framed when `tcp_echo` returned by itself;
the socket answers the probe's datagrams, in order; and the four counters are at all
times the connections accepted, those still served, the datagrams sent and the bytes
of whole frames and datagrams sent. When the peers have closed, the tasks come to
their end and none is active. -/
theorem echo_server_exact (run : echoServer.Run (bound enableUdp) trace state) :
    (∀ (index : Nat) connection, state.members[index]? = some connection →
        EchoedBack (input index trace) connection) ∧
      Counted trace state ∧
      answered (socketTrace trace) ++ state.shared.packets =
        (received (socketTrace trace)).filter (fun packet => Encoded packet.bytes) ∧
      (sent (socketTrace trace)).Sublist (answered (socketTrace trace)) ∧
      ((∀ connection ∈ state.members,
          connection.result.isSome = true ∨ connection.rx.ending = .eof) →
        ∃ last, echoServer.ReachableBy IsRound state last ∧
          last.members.length = state.members.length ∧
          (∀ connection ∈ last.members, connection.result.isSome = true) ∧
          last.shared.stats.tcpActive = 0) := by
  refine ⟨fun index connection present => (served_of_run run index connection present).echoedBack,
    counted_of_run run, answered_of_run run, sent_sublist _, fun closed => ?_⟩
  obtain ⟨last, reached, sameLength, returned⟩ := echoCrew.exists_finished (· = .echo .round)
    (fun connection => connection.result.isSome = true ∨ connection.rx.ending = .eof)
    (fun connection => connection.result.isSome = true)
    (fun connection => if connection.result.isNone then connection.rx.bytes.length + 1 else 0)
    (fun connection endpoint ended running => connection_moves_on endpoint ended running) closed
  have ⟨more, later, _⟩ := reached
  have active := tcpActive_of_run (run.append later)
  have none : last.members.countP (·.result.isNone) = 0 := by
    rw [List.countP_eq_zero]
    intro connection inside
    have past := returned connection inside
    simp [Option.isSome_iff_ne_none.mp past]
  rw [none] at active
  exact ⟨last, reached, sameLength, returned, active⟩

end Endpoints

/-- Two connections and a datagram at the same time. The write of the second
connection fails after two bytes; the first is served to the end of its input. -/
def twoConnections : List (FleetLabel Unit ConnectionMove EndpointAct) :=
  let frame := (Frame.mk 0 7 [1]).encode
  [.join (), .join (), .move 1 (.echo (.peerSend frame)), .move 0 (.echo (.peerSend frame)),
    .act (.udp (.recv ⟨encodeUdp 3 7 [1], by decide⟩ "127.0.0.1:9000")),
    .move 1 (.writeFails 2 ⟨.other, "broken pipe"⟩), .move 0 (.echo .round),
    .act (.udp .sendOk), .move 0 (.echo .peerClose)]

theorem echo_server_exact_twoConnections :
    ∃ state, echoServer.play (bound true) twoConnections = some state ∧
      Counted (echoServer.trace (bound true) twoConnections) state ∧
      state.shared.stats = ⟨2, 1, 1, 46⟩ ∧
      ∃ last, echoServer.ReachableBy IsRound state last ∧ last.shared.stats.tcpActive = 0 := by
  obtain ⟨state, played⟩ := Option.isSome_iff_exists.mp (show
    (echoServer.play (bound true) twoConnections).isSome = true by rfl)
  have stats : (echoServer.play (bound true) twoConnections).map (·.shared.stats) =
      some ⟨2, 1, 1, 46⟩ := by rfl
  have ended : (echoServer.play (bound true) twoConnections).map (fun state =>
      state.members.all (fun connection =>
        connection.result.isSome || connection.rx.ending = .eof)) = some true := by rfl
  rw [played, Option.map_some, Option.some.injEq] at stats ended
  obtain ⟨-, counted, -, -, drains⟩ := echo_server_exact (Machine.run_of_play played)
  obtain ⟨last, reached, -, -, idle⟩ := drains (by
    intro connection inside
    simpa using List.all_eq_true.mp ended connection inside)
  exact ⟨state, played, counted, stats, last, reached, idle⟩

end Npt.Ci.Server
