import Mathlib.Data.List.Nodup
import Npt.Ci.Artifacts

/-!
Contract: the paths of a run's artifacts (`ci/src/main.rs`, `ci/src/archive.rs`).

A path is made of a port's id and a protocol, and of a server's id and name. The
server's name is the panel's, with every character that is not plain replaced.

Owns: that no artifact of a run is written over another, as long as no port is
asked for twice and the panel names no server of a port twice.

Does not own: what was in the run's directory before.
-/

namespace Npt.Ci.Artifacts

open Npt.Core
open Npt.Ci.Config
open Npt.Ci.Panel
open Npt.Ci.Suite

/-! ## Names -/

/-- A path is the path of one name in one directory. -/
theorem eq_of_join {dir other name otherName : String} (plain : '/' ∉ name.toList)
    (otherPlain : '/' ∉ otherName.toList) (same : join dir name = join other otherName) :
    dir = other ∧ name = otherName := by
  have texts := congrArg String.toList same
  simp only [join, String.toList_append, List.append_assoc] at texts
  obtain ⟨dirs, names⟩ := eq_of_mark_append plain otherPlain texts
  exact ⟨String.toList_inj.mp dirs, String.toList_inj.mp names⟩

theorem plain_protoName (proto : Proto) : '/' ∉ (protoName proto).toList := by
  cases proto <;> decide +kernel

section Names

variable {outside : Outside}

/-- A leg's directory is that of one port and one protocol. -/
theorem eq_of_legDir {portId otherId : Int} {proto otherProto : Proto}
    (same : legDir outside portId proto = legDir outside otherId otherProto) :
    portId = otherId ∧ protoName proto = protoName otherProto := by
  have plain (portId : Int) (proto : Proto) :
      '/' ∉ ("port-" ++ toString portId ++ "-" ++ protoName proto).toList := by
    simp only [String.toList_append, List.mem_append, not_or]
    exact ⟨⟨⟨by decide +kernel, notMem_toString (by decide) (by decide) _⟩, by decide +kernel⟩,
      plain_protoName proto⟩
  have names := congrArg String.toList (eq_of_join (plain _ _) (plain _ _) same).2
  simp only [String.toList_append, List.append_assoc] at names
  obtain ⟨ids, protocols⟩ := eq_of_toString_append_hyphen (List.append_cancel_left names)
  exact ⟨ids, String.toList_inj.mp protocols⟩

theorem legDir_ne_runDir {portId : Int} {proto : Proto} :
    legDir outside portId proto ≠ outside.runDir := by
  intro same
  have lengths := congrArg String.length same
  simp only [legDir, join, String.length_append] at lengths
  have slash : "/".length = 1 := rfl
  omega

/-- A server's file is that of one server. -/
theorem eq_of_debugZip {server other : PortServer}
    (same : debugZip outside server = debugZip outside other) :
    server.serverId = other.serverId := by
  have names := congrArg String.toList same
  simp only [debugZip, String.toList_append, List.append_assoc] at names
  exact (eq_of_toString_append_hyphen (List.append_cancel_left names)).1

/-- No server's file is one of the panel's state. -/
theorem debugZip_notMem_snapshots (server : PortServer) :
    debugZip outside server ∉ snapshots.map Prod.fst := by
  have begins : (debugZip outside server).toList.head? = some 's' := by
    simp only [debugZip, String.toList_append, List.append_assoc]
    rfl
  have others : ∀ name ∈ snapshots.map Prod.fst, name.toList.head? ≠ some 's' := by
    decide +kernel
  exact fun member => others _ member begins

theorem nodup_names (leg : FailedLeg) (distinct : (leg.servers.map PortServer.serverId).Nodup) :
    (leg.names outside).Nodup := by
  refine List.Nodup.append (by decide +kernel) ?_ ?_
  · rw [List.Nodup, List.pairwise_map] at distinct ⊢
    exact distinct.imp fun different same => different (eq_of_debugZip same)
  · rintro name snapshot listed
    obtain ⟨server, -, rfl⟩ := List.mem_map.mp listed
    exact debugZip_notMem_snapshots server snapshot

theorem plain_names {leg : FailedLeg} {name : String} (member : name ∈ leg.names outside) :
    '/' ∉ name.toList := by
  rcases List.mem_append.mp member with snapshot | server
  · obtain ⟨listed, listedMember, rfl⟩ := List.mem_map.mp snapshot
    exact plain_snapshots listed listedMember
  · obtain ⟨listed, -, rfl⟩ := List.mem_map.mp server
    exact plain_debugZip outside listed

theorem nodup_paths (leg : FailedLeg) (distinct : (leg.servers.map PortServer.serverId).Nodup) :
    (leg.paths outside).Nodup := by
  rw [FailedLeg.paths, List.Nodup, List.pairwise_map]
  refine (nodup_names leg distinct).imp_of_mem fun member other different same => ?_
  exact different (eq_of_join (plain_names member) (plain_names other) same).2

/-- Legs of different ports or protocols share no path. -/
theorem disjoint_paths {leg other : FailedLeg} (driven : leg.proto ∈ [Proto.tcp, .udp])
    (otherDriven : other.proto ∈ [Proto.tcp, .udp])
    (different : (leg.portId, leg.proto) ≠ (other.portId, other.proto)) :
    List.Disjoint (leg.paths outside) (other.paths outside) := by
  intro path here there
  obtain ⟨name, named, rfl⟩ := List.mem_map.mp here
  obtain ⟨otherName, otherNamed, same⟩ := List.mem_map.mp there
  obtain ⟨dirs, -⟩ := eq_of_join (plain_names otherNamed) (plain_names named) same
  obtain ⟨ids, protocols⟩ := eq_of_legDir dirs
  refine different (Prod.ext ids.symm ?_)
  have told : ∀ proto ∈ [Proto.tcp, .udp], ∀ other ∈ [Proto.tcp, .udp],
      protoName other = protoName proto → proto = other := by
    decide
  exact told _ driven _ otherDriven protocols

end Names

/-! ## A whole run -/

theorem nodup_keys {ids : List Int} (distinct : ids.Nodup) :
    (ids.flatMap fun portId => [(portId, Proto.tcp), (portId, Proto.udp)]).Nodup := by
  rw [List.nodup_flatMap]
  refine ⟨fun portId _ => by simp, distinct.imp fun different => ?_⟩
  intro key here there
  simp only [List.mem_cons, List.not_mem_nil, or_false] at here there
  rcases here with rfl | rfl <;> rcases there with same | same <;>
    exact different (Prod.mk.inj same).1

/-- Where no port is asked for twice and no answer names a server twice, no file of a
run is written twice. -/
theorem artifacts_written_once {outside : Outside} {args : RunArgs} {log : List Said}
    {result : SuiteResult} (yields : (runSuite outside args).Yields log result)
    (ports : ∀ loaded, loadConfig outside args = .ok loaded →
      (overridden args loaded).portIds.Nodup)
    (servers : ∀ (portId : Int) (answer : Except String Response),
      (⟨.get "/api/port_detail_info" "port_id" (toString portId), answer⟩ : Said) ∈ log →
        (((serversIn outside.toReaders portId answer).toOption.getD []).map
          PortServer.serverId).Nodup) :
    ((log.filterMap written).map Prod.fst).Nodup := by
  rcases shape_of_runSuite yields with ⟨rfl, -, -⟩ |
    ⟨loaded, outcomes, before, after, found, rfl, talked, wrote, -, -⟩
  · exact List.nodup_nil
  obtain ⟨-, legs, tested, keys, answered⟩ := tested_of_ports talked
  have archived : Archived outside (before ++ after)
      (summaryOf outside (overridden args loaded) outcomes) legs := by
    refine archived_of_tested ?_ wrote
    rw [summaryOf, build_outcomes]
    exact tested
  have distinctKeys := (nodup_keys (ports loaded found)).sublist keys
  have driven : ∀ leg ∈ legs, leg.proto ∈ [Proto.tcp, .udp] := by
    intro leg member
    have key := keys.subset (List.mem_map.mpr ⟨leg, member, rfl⟩)
    obtain ⟨portId, -, named⟩ := List.mem_flatMap.mp key
    simp only [List.mem_cons, List.not_mem_nil, or_false] at named ⊢
    exact named.imp (fun same => (Prod.mk.inj same).2) fun same => (Prod.mk.inj same).2
  have whole : (legs.flatMap (FailedLeg.paths outside)).Nodup := by
    rw [List.nodup_flatMap]
    constructor
    · intro leg member
      obtain ⟨answer, said, same⟩ := answered leg member
      refine nodup_paths leg ?_
      rw [same]
      exact servers leg.portId answer (List.mem_append_left _ said)
    · rw [List.Nodup, List.pairwise_map] at distinctKeys
      exact distinctKeys.imp_of_mem fun member other different =>
        disjoint_paths (driven _ member) (driven _ other) different
  refine List.Nodup.sublist archived.files ?_
  refine List.Nodup.append whole (List.nodup_singleton _) ?_
  intro path inLeg summary
  obtain ⟨leg, member, listed⟩ := List.mem_flatMap.mp inLeg
  obtain ⟨name, named, rfl⟩ := List.mem_map.mp listed
  obtain ⟨dirs, -⟩ := eq_of_join (plain_names named) (by decide +kernel)
    (List.mem_singleton.mp summary)
  exact legDir_ne_runDir dirs

/-- Five files, of five paths. -/
theorem artifacts_written_once_silentPort :
    (silentRun.1.filterMap written).map Prod.fst =
        ["runs/1/port-7-tcp/connection_stats.json", "runs/1/port-7-tcp/test_latency.json",
          "runs/1/port-7-tcp/blocked_ips.json", "runs/1/port-7-tcp/server-3-edge_1-debug.zip",
          "runs/1/summary.json"] ∧
      ((silentRun.1.filterMap written).map Prod.fst).Nodup := by
  refine ⟨by decide +kernel, artifacts_written_once
    (Dialogue.yields_talk knowing [] (runSuite silentPort {})) ?_ ?_⟩
  · intro loaded found
    obtain rfl := Except.ok.inj found
    decide
  · intro portId answer _
    cases answer with
    | error error => exact List.nodup_nil
    | ok response =>
        simp only [serversIn]
        split
        · exact List.nodup_singleton _
        · exact List.nodup_nil

end Npt.Ci.Artifacts
