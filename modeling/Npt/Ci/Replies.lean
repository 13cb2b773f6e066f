import Mathlib.Data.List.Pairwise
import Mathlib.Data.List.SplitBy
import Mathlib.Data.List.Sublists
import Npt.Ci.Panel

/-!
Contract: what the log of a run of the suite says of the ports.

A run asks for a port first, and for all else about it before it asks for the next
one. So the replies about the port at a position are those from the panel's answer
about it to the one about the next port.

Owns: the replies that a port's outcomes depend on, and the probe of the port at each
position as a log has it.

Does not own: which requests a run makes.
-/

namespace Npt.Ci.Panel

open Npt.Ci.Client
open Npt.Ci.Config
open Npt.Ci.Suite

/-- A reply that the outcomes of a port may depend on. -/
inductive PortReply where
  | port (answer : Except String Response)
  | addresses (answer : Except String (List String))
  | tcp (config : RunConfig) (metrics : PortMetrics)
  | udp (config : RunConfig) (metrics : PortMetrics)

def replyOf : Said → Option PortReply
  | ⟨.get path _ _, answer⟩ => if path = "/api/ports" then some (.port answer) else none
  | ⟨.lookupHost _, answer⟩ => some (.addresses answer)
  | ⟨.runTcp config, metrics⟩ => some (.tcp config metrics)
  | ⟨.runUdp config, metrics⟩ => some (.udp config metrics)
  | _ => none

/-- Whether any reply to a request is one about a port. -/
def aboutPort : Request → Bool
  | .get path _ _ => path = "/api/ports"
  | .lookupHost _ | .runTcp _ | .runUdp _ => true
  | _ => false

theorem replyOf_eq_none {exchange : Said} (other : aboutPort exchange.request = false) :
    replyOf exchange = none := by
  obtain ⟨request, reply⟩ := exchange
  cases request with
  | get path key value => exact if_neg (of_decide_eq_false other)
  | lookupHost | runTcp | runUdp => cases other
  | debugExport | createDirAll | write => rfl

/-- The log of requests about anything else has no such reply. -/
theorem replies_eq_nil {log : List Said}
    (others : ∀ exchange ∈ log, aboutPort exchange.request = false) :
    log.filterMap replyOf = [] :=
  List.filterMap_eq_nil_iff.mpr fun exchange member => replyOf_eq_none (others exchange member)

namespace PortReply

def isPort : PortReply → Bool
  | .port _ => true
  | _ => false

def port? : PortReply → Option (Except String Response)
  | .port answer => some answer
  | _ => none

def addresses? : PortReply → Option (Except String (List String))
  | .addresses answer => some answer
  | _ => none

def tcp? (config : RunConfig) : PortReply → Option PortMetrics
  | .tcp asked metrics => if asked = config then some metrics else none
  | _ => none

def udp? (config : RunConfig) : PortReply → Option PortMetrics
  | .udp asked metrics => if asked = config then some metrics else none
  | _ => none

end PortReply

/-- The metrics of a leg that was not driven. -/
def undriven : PortMetrics := finalize "" "" 0 {} [] []

/-- The probe that the replies about a port make. -/
def probeOf (readers : Readers) (portId : Int) (replies : List PortReply) : PortProbe where
  ports := ((replies.findSome? PortReply.port?).map (portsIn readers portId)).getD (.ok [])
  addresses := (replies.findSome? PortReply.addresses?).getD (.ok [])
  runTcp config := (replies.findSome? (PortReply.tcp? config)).getD undriven
  runUdp config := (replies.findSome? (PortReply.udp? config)).getD undriven

/-- The reply of a leg. -/
def legReply (config : RunConfig) (metrics : PortMetrics) : Proto → PortReply
  | .udp => .udp config metrics
  | _ => .tcp config metrics

/-- A leg's metrics are those that it was given. -/
theorem legMetrics_probeOf {readers : Readers} {portId : Int} {cfg : CiConfig}
    {answer : Except String Response} {addresses : Except String (List String)}
    {endpoint : String} {protocols : List Proto} {metrics : Proto → PortMetrics} {proto : Proto}
    (known : protocols.Sublist [.tcp, .udp]) (driven : proto ∈ protocols) :
    legMetrics cfg (probeOf readers portId (.port answer :: .addresses addresses ::
      protocols.map fun proto =>
        legReply ⟨endpoint, cfg.test, cfg.detect.stallSecs⟩ (metrics proto) proto)) endpoint proto =
      metrics proto := by
  have shapes : protocols = [] ∨ protocols = [.tcp] ∨ protocols = [.udp] ∨
      protocols = [.tcp, .udp] := by
    simpa [List.sublists] using List.mem_sublists.mpr known
  rcases shapes with rfl | rfl | rfl | rfl <;>
    simp only [List.mem_cons, List.not_mem_nil, or_false] at driven
  · subst driven
    simp [legMetrics, probeOf, legReply, List.findSome?, PortReply.tcp?]
  · subst driven
    simp [legMetrics, probeOf, legReply, List.findSome?, PortReply.udp?]
  · rcases driven with rfl | rfl <;>
      simp [legMetrics, probeOf, legReply, List.findSome?, PortReply.tcp?, PortReply.udp?]

/-- The replies about each port, in order. -/
def repliesByPort (replies : List PortReply) : List (List PortReply) :=
  replies.splitBy fun _ next => !next.isPort

/-- The probe of the port at each position. -/
def probesIn (readers : Readers) (portIds : List Int) (log : List Said) (position : Nat) :
    PortProbe :=
  probeOf readers (portIds.getD position 0)
    ((repliesByPort (log.filterMap replyOf)).getD position [])

/-- The replies about one port. -/
def OfOnePort (replies : List PortReply) : Prop :=
  ∃ answer more, replies = .port answer :: more ∧ ∀ reply ∈ more, reply.isPort = false

theorem repliesByPort_flatten {groups : List (List PortReply)}
    (each : ∀ group ∈ groups, OfOnePort group) : repliesByPort groups.flatten = groups := by
  refine List.splitBy_eq_iff.mpr ⟨rfl, fun empty => ?_, fun group member => ?_, ?_⟩
  · obtain ⟨answer, more, same, -⟩ := each [] empty
    cases same
  · obtain ⟨answer, more, rfl, others⟩ := each group member
    refine List.Pairwise.isChain (List.pairwise_cons.mpr ⟨fun reply listed => ?_, ?_⟩)
    · rw [others reply listed, Bool.not_false]
    · refine List.pairwise_of_forall_mem_list fun _ _ reply listed => ?_
      rw [others reply listed, Bool.not_false]
  · refine List.Pairwise.isChain
      (List.pairwise_of_forall_mem_list fun group member next later => ?_)
    obtain ⟨first, rest, rfl, -⟩ := each group member
    obtain ⟨answer, more, rfl, -⟩ := each next later
    exact ⟨List.cons_ne_nil _ _, List.cons_ne_nil _ _, rfl⟩

end Npt.Ci.Panel
