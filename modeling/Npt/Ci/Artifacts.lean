import Npt.Ci.Replies
import Npt.Core.Decimal

/-!
Contract: a run of the suite with everything it does to its surroundings
(`run_suite` and `test_one_port` in `ci/src/main.rs`, `ci/src/archive.rs`, and
`write_json` of `ci/src/report.rs`).

A port is resolved, driven and judged; where a leg fails, what the panel and its
servers know is fetched and written under the run's directory. Every request may
fail, and every reply may depend on all that was said before.

Owns: that the artifacts change nothing of the outcomes, which directories and
files are written, and what is in them.

Does not own: what the probes measure; what is printed.
-/

namespace Npt.Ci.Artifacts

open Npt.Core
open Npt.Ci.Client
open Npt.Ci.Config
open Npt.Ci.Detect
open Npt.Ci.Panel
open Npt.Ci.Suite

/-- `ArchiveParams`, but the directory that the run's own is made in. -/
structure ArchiveParams where
  collectLogs : Bool := true
  debugCollectorIds : List String := []
deriving DecidableEq, Repr

/-- A parsed configuration with its archive settings. -/
structure FullConfig extends CiConfig where
  archive : ArchiveParams := {}

/-- What is outside of the suite, but the answers to its requests. -/
structure Outside extends Readers where
  file : Except String String
  fromToml : String → Except String FullConfig
  newPanel : (base apiKey : String) → Except String Unit
  startedAt : String
  runDir : String
  /-- `char::is_alphanumeric`. -/
  isAlphanumeric : Char → Bool
  isAlphanumeric_slash : isAlphanumeric '/' = false
  /-- `serde_json::to_string_pretty(self).unwrap_or_default()`. -/
  summaryText : RunSummary → String

/-- `Path::join`, for a name that is not absolute. -/
def join (dir name : String) : String := dir ++ "/" ++ name

/-! ## The archive of a failure -/

section Archive

variable (outside : Outside)

/-- `write_file`. -/
def writeFile (dir name : String) (bytes : List UInt8) : Talk Unit :=
  .ask (.write (join dir name) bytes) fun _ => .done ()

def sanitize (text : String) : String :=
  String.ofList (text.toList.map fun c =>
    if outside.isAlphanumeric c || c = '-' || c = '_' then c else '_')

/-- The files of the panel's state, with where they come from. -/
def snapshots : List (String × String × String) :=
  [("connection_stats.json", "/api/connection_stats", "port_id"),
    ("test_latency.json", "/api/test_latency", "port_id"),
    ("blocked_ips.json", "/api/port_blocked_ips", "port_id")]

def archiveSnapshot (dir : String) (portId : Int) (snapshot : String × String × String) :
    Talk Unit :=
  (getText outside.toReaders snapshot.2.1 snapshot.2.2 (toString portId)).bind fun
    | .ok text => writeFile dir snapshot.1 (utf8 text)
    | .error _ => .done ()

/-- The collectors to export, none where they cannot be had. -/
def collectorsFor (collectorIds : List String) (server : PortServer) : Talk (List String) :=
  if collectorIds = [] then
    (debugCollectors outside.toReaders server.serverId).bind fun
      | .ok ids => .done ids
      | .error _ => .done []
  else .done collectorIds

def debugZip (server : PortServer) : String :=
  "server-" ++ toString server.serverId ++ "-" ++ sanitize outside server.serverName ++ "-debug.zip"

def archiveServer (dir : String) (collectorIds : List String) (server : PortServer) : Talk Unit :=
  (collectorsFor outside collectorIds server).bind fun ids =>
    if ids = [] then .done ()
    else
      (debugExport outside.toReaders server.serverId ids).bind fun
        | .ok zip => writeFile dir (debugZip outside server) zip
        | .error _ => .done ()

def archiveFailure (dir : String) (portId : Int) (servers : List PortServer)
    (archive : ArchiveParams) : Talk Unit :=
  .ask (.createDirAll dir) fun
    | .error _ => .done ()
    | .ok () =>
        (Dialogue.forEach snapshots (archiveSnapshot outside dir portId)).bind fun _ =>
          if archive.collectLogs then
            Dialogue.forEach servers (archiveServer outside dir archive.debugCollectorIds)
          else .done ()

/-! ## One port -/

def legDir (portId : Int) (proto : Proto) : String :=
  join outside.runDir ("port-" ++ toString portId ++ "-" ++ protoName proto)

def runLeg (config : RunConfig) : Proto → Talk PortMetrics
  | .udp => .ask (.runUdp config) .done
  | _ => .ask (.runTcp config) .done

variable (cfg : FullConfig)

/-- What is pushed after a leg. -/
def legOutcome (portId : Int) (port : PortInfo) (proto : Proto) (metrics : PortMetrics)
    (verdict : PortVerdict) : PortOutcome :=
  { portId := portId
    displayName :=
      if cfg.test.protocol = .both then s!"{port.displayName} ({protoName proto})"
      else port.displayName
    verdict := verdict
    metrics := some metrics }

/-- One round of the loop over the protocols. -/
def testLeg (portId : Int) (port : PortInfo) (endpoint : String) (servers : List PortServer)
    (proto : Proto) : Talk PortOutcome :=
  (runLeg ⟨endpoint, cfg.test, cfg.detect.stallSecs⟩ proto).bind fun metrics =>
    let verdict := evaluate metrics cfg.detect portId
    if verdict.verdict = .fail then
      let dir := legDir outside portId proto
      (archiveFailure outside dir portId servers cfg.archive).bind fun _ =>
        .done (legOutcome cfg portId port proto metrics
          { verdict with reasons := verdict.reasons ++ ["artifacts: " ++ dir] })
    else .done (legOutcome cfg portId port proto metrics verdict)

def testOnePort (portId : Int) : Talk (List PortOutcome) :=
  (getPort outside.toReaders portId).bind fun
    | .error error => .done [skippedOrFailed portId "" .fail s!"panel resolve failed: {error}"]
    | .ok port =>
        if port.isSuspended then
          .done [skippedOrFailed portId port.displayName .skipped "port suspended"]
        else if port.inboundProxyEnabled = some true then
          .done [skippedOrFailed portId port.displayName .skipped
            ("inbound proxy '" ++ port.inboundProxyProtocol.getD "" ++ "' not supported " ++
              "(raw-forward only in this version)")]
        else
          .ask (.lookupHost s!"{port.ipAddr}:{port.portV4}") fun addresses =>
            match addresses.toOption.bind List.head? with
            | none =>
                .done [skippedOrFailed portId port.displayName .fail
                  s!"cannot resolve endpoint {port.ipAddr}:{port.portV4}"]
            | some endpoint =>
                (portServers outside.toReaders portId).bind fun servers =>
                  Dialogue.collect
                    (testLeg outside cfg portId port endpoint (servers.toOption.getD []))
                    (protos cfg.test.protocol port)

/-! ## The run -/

/-- `RunSummary::write_json`. -/
def writeJson (summary : RunSummary) : Talk Unit :=
  .ask (.createDirAll outside.runDir) fun
    | .error _ => .done ()
    | .ok () => writeFile outside.runDir "summary.json" (utf8 (outside.summaryText summary))

/-- The configuration with the overrides of a run. -/
def overridden (args : RunArgs) (loaded : FullConfig) : FullConfig :=
  { args.overrides.apply loaded.toCiConfig with archive := loaded.archive }

def loadConfig (args : RunArgs) : Except String FullConfig :=
  match outside.file with
  | .error error => .error s!"failed to read config {args.config}: {error}"
  | .ok text =>
      match outside.fromToml text with
      | .error error => .error s!"invalid config {args.config}: {error}"
      | .ok cfg =>
          if cfg.portIds = [] then .error "config has no port_ids to test" else .ok cfg

def runSuite (args : RunArgs) : Talk SuiteResult :=
  match loadConfig outside args with
  | .error _ => .done ⟨2, none⟩
  | .ok loaded =>
      let cfg := overridden args loaded
      if cfg.portIds = [] then .done ⟨2, none⟩
      else
        match outside.newPanel cfg.panelUrl cfg.apiKey with
        | .error _ => .done ⟨2, none⟩
        | .ok () =>
            (Dialogue.collect (testOnePort outside cfg) cfg.portIds).bind fun outcomes =>
              let summary := RunSummary.build cfg.panelUrl outside.startedAt outcomes.flatten
              (writeJson outside summary).bind fun _ => .done ⟨summary.exitCode, some summary⟩

end Archive

/-! ## What is read off a run -/

/-- The directory that is asked for. -/
def directory : Said → Option String
  | ⟨.createDirAll dir, _⟩ => some dir
  | _ => none

/-- The file that is asked for, with its bytes. -/
def written : Said → Option (String × List UInt8)
  | ⟨.write path bytes, _⟩ => some (path, bytes)
  | _ => none

/-- The bytes of an artifact that the panel answered with. -/
def fetched (outside : Outside) : Said → Option (List UInt8)
  | ⟨.get path _ _, answer⟩ =>
      if path ∈ snapshots.map (fun snapshot => snapshot.2.1) then
        (readText outside.toReaders path answer).toOption.map utf8
      else none
  | ⟨.debugExport .., answer⟩ => (readZip outside.toReaders answer).toOption
  | _ => none

section Writing

variable {outside : Outside} {path : String} {bytes : List UInt8} {reply : Except String Unit}

@[simp] theorem directory_write : directory ⟨.write path bytes, reply⟩ = none := rfl

@[simp] theorem written_write : written ⟨.write path bytes, reply⟩ = some (path, bytes) := rfl

@[simp] theorem fetched_write : fetched outside ⟨.write path bytes, reply⟩ = none := rfl

/-- Only the answers of the snapshots are kept. -/
theorem fetched_of_other {key value : String} {answer : Except String Response}
    (other : path ∉ snapshots.map (fun snapshot => snapshot.2.1)) :
    fetched outside ⟨.get path key value, answer⟩ = none :=
  if_neg other

end Writing

/-- A leg whose failure is archived, with what is known of the port's servers. -/
structure FailedLeg where
  portId : Int
  proto : Proto
  servers : List PortServer

def FailedLeg.dir (outside : Outside) (leg : FailedLeg) : String :=
  legDir outside leg.portId leg.proto

/-- The names that the files of a failure may have. -/
def FailedLeg.names (outside : Outside) (leg : FailedLeg) : List String :=
  snapshots.map Prod.fst ++ leg.servers.map (debugZip outside)

def FailedLeg.paths (outside : Outside) (leg : FailedLeg) : List String :=
  (leg.names outside).map (join (leg.dir outside))

/-- Every file is directly inside a directory that was there, or whose creation had
succeeded by the time of the write. -/
def Placed (there : String → Prop) (log : List Said) : Prop :=
  ∀ index exchange file, log[index]? = some exchange → written exchange = some file →
    ∃ dir name, (there dir ∨ (⟨.createDirAll dir, .ok ()⟩ : Said) ∈ log.take index) ∧
      '/' ∉ name.toList ∧ file.1 = join dir name

/-- What a part of a run did, in directories that were there or were created in it. -/
structure Recorded (outside : Outside) (there : String → Prop) (log : List Said)
    (dirs paths : List String) : Prop where
  directories : log.filterMap directory = dirs
  files : List.Sublist ((log.filterMap written).map Prod.fst) paths
  contents : (log.filterMap written).map Prod.snd = log.filterMap (fetched outside)
  placed : Placed there log

section Recording

variable {outside : Outside} {there : String → Prop}

theorem Placed.append {before after : List Said} (first : Placed there before)
    (second : Placed there after) : Placed there (before ++ after) := by
  intro index exchange file found isFile
  rw [List.take_append]
  by_cases inside : index < before.length
  · rw [List.getElem?_append_left inside] at found
    obtain ⟨dir, name, created, path⟩ := first index exchange file found isFile
    exact ⟨dir, name, created.imp_right (List.mem_append_left _), path⟩
  · rw [List.getElem?_append_right (Nat.le_of_not_lt inside)] at found
    obtain ⟨dir, name, created, path⟩ := second _ exchange file found isFile
    exact ⟨dir, name, created.imp_right (List.mem_append_right _), path⟩

theorem Placed.quiet {exchange : Said} (noFile : written exchange = none) :
    Placed there [exchange] := by
  intro index other file found isFile
  obtain rfl := List.mem_singleton.mp (List.mem_of_getElem? found)
  rw [noFile] at isFile
  cases isFile

theorem Placed.file {dir name : String} {bytes : List UInt8} {reply : Except String Unit}
    (known : there dir) (plain : '/' ∉ name.toList) :
    Placed there [⟨.write (join dir name) bytes, reply⟩] := by
  intro index exchange file found isFile
  obtain rfl := List.mem_singleton.mp (List.mem_of_getElem? found)
  obtain rfl := Option.some.inj isFile
  exact ⟨dir, name, Or.inl known, plain, rfl⟩

/-- The directory is there for what follows its creation. -/
theorem Placed.create {dir : String} {later : List Said} (inside : Placed (· = dir) later) :
    Placed there (⟨.createDirAll dir, .ok ()⟩ :: later) := by
  intro index exchange file found isFile
  cases index with
  | zero =>
      obtain rfl := Option.some.inj found
      cases isFile
  | succ index =>
      obtain ⟨other, name, created, path⟩ := inside index exchange file found isFile
      refine ⟨other, name, Or.inr ?_, path⟩
      rw [List.take_succ_cons]
      rcases created with rfl | earlier
      · exact List.mem_cons_self
      · exact List.mem_cons_of_mem _ earlier

theorem Recorded.nil : Recorded outside there [] [] [] :=
  ⟨rfl, List.Sublist.refl _, rfl, fun _ _ _ found => by cases found⟩

theorem Recorded.append {before after : List Said} {dirs otherDirs paths otherPaths : List String}
    (first : Recorded outside there before dirs paths)
    (second : Recorded outside there after otherDirs otherPaths) :
    Recorded outside there (before ++ after) (dirs ++ otherDirs) (paths ++ otherPaths) where
  directories := by rw [List.filterMap_append, first.directories, second.directories]
  files := by
    rw [List.filterMap_append, List.map_append]
    exact first.files.append second.files
  contents := by
    rw [List.filterMap_append, List.map_append, first.contents, second.contents,
      List.filterMap_append]
  placed := first.placed.append second.placed

/-- Exchanges that neither fetch nor write. -/
theorem Recorded.quiet {exchange : Said} (noDirectory : directory exchange = none)
    (noFile : written exchange = none) (nothing : fetched outside exchange = none) :
    Recorded outside there [exchange] [] [] where
  directories := by simp [noDirectory]
  files := by simp [noFile]
  contents := by simp [noFile, nothing]
  placed := .quiet noFile

/-- The artifact of an answer is written, or there is none. -/
theorem Recorded.fetch {exchange : Said} {dir name : String} {log : List Said}
    (noDirectory : directory exchange = none) (noFile : written exchange = none)
    (known : there dir) (plain : '/' ∉ name.toList)
    (kept : match fetched outside exchange with
      | some bytes => ∃ reply, log = [⟨.write (join dir name) bytes, reply⟩]
      | none => log = []) :
    Recorded outside there (exchange :: log) [] [join dir name] := by
  cases answer : fetched outside exchange with
  | none =>
      rw [answer] at kept
      subst kept
      exact ⟨by simp [noDirectory], by simp [noFile], by simp [noFile, answer], .quiet noFile⟩
  | some bytes =>
      rw [answer] at kept
      obtain ⟨reply, rfl⟩ := kept
      have entries : List.filterMap written
          [exchange, ⟨.write (join dir name) bytes, reply⟩] = [(join dir name, bytes)] := by
        simp [noFile]
      exact ⟨by simp [noDirectory], by simp [entries], by simp [entries, answer],
        (Placed.quiet noFile).append (.file known plain)⟩

theorem Recorded.create {dir : String} {later : List Said} {paths : List String}
    (inside : Recorded outside (· = dir) later [] paths) :
    Recorded outside there (⟨.createDirAll dir, .ok ()⟩ :: later) [dir] paths where
  directories := by
    rw [List.filterMap_cons_some (show directory ⟨.createDirAll dir, .ok ()⟩ = some dir from rfl),
      inside.directories]
  files := inside.files
  contents := inside.contents
  placed := inside.placed.create

theorem Recorded.refused {dir error : String} {paths : List String} :
    Recorded outside there [⟨.createDirAll dir, .error error⟩] [dir] paths where
  directories := rfl
  files := List.nil_sublist _
  contents := rfl
  placed := .quiet rfl

theorem Recorded.more {log : List Said} {dirs paths others : List String}
    (recorded : Recorded outside there log dirs paths) (more : paths.Sublist others) :
    Recorded outside there log dirs others :=
  { recorded with files := recorded.files.trans more }

theorem Recorded.forEach {Item : Type} {items : List Item} {talk : Item → Talk Unit}
    {path : Item → String} {log : List Said}
    (yields : (Dialogue.forEach items talk).Yields log ())
    (each : ∀ item ∈ items, ∀ here, (talk item).Yields here () →
      Recorded outside there here [] [path item]) :
    Recorded outside there log [] (items.map path) := by
  revert each
  refine yields.forEach (fun log items => (∀ item ∈ items, ∀ here, (talk item).Yields here () →
    Recorded outside there here [] [path item]) → Recorded outside there log [] (items.map path))
    (fun _ => .nil) ?_
  intro item here items later talked inductionHypothesis each
  rw [List.forall_mem_cons] at each
  exact (each.1 here talked).append (inductionHypothesis each.2)

/-! ## The archive of a failure, in a run -/

theorem plain_snapshots : ∀ snapshot ∈ snapshots, '/' ∉ snapshot.1.toList := by
  decide +kernel

theorem plain_sanitize (outside : Outside) (text : String) :
    '/' ∉ (sanitize outside text).toList := by
  rw [sanitize, String.toList_ofList, List.mem_map]
  rintro ⟨c, -, same⟩
  split at same
  · rename_i kept
    subst same
    simp [outside.isAlphanumeric_slash] at kept
  · cases same

theorem plain_debugZip (outside : Outside) (server : PortServer) :
    '/' ∉ (debugZip outside server).toList := by
  simp only [debugZip, String.toList_append, List.mem_append, not_or]
  exact ⟨⟨⟨⟨by decide +kernel, notMem_toString (by decide) (by decide) _⟩, by decide +kernel⟩,
    plain_sanitize _ _⟩, by decide +kernel⟩

variable {dir : String} {portId : Int} {log : List Said}

theorem recorded_archiveSnapshot {snapshot : String × String × String}
    (member : snapshot ∈ snapshots) (known : there dir)
    (yields : (archiveSnapshot outside dir portId snapshot).Yields log ()) :
    Recorded outside there log [] [join dir snapshot.1] := by
  obtain ⟨answer, later, rfl, goesOn⟩ := Dialogue.yields_ask_iff.mp yields
  refine .fetch rfl rfl known (plain_snapshots snapshot member) ?_
  have listed : snapshot.2.1 ∈ snapshots.map (fun snapshot => snapshot.2.1) :=
    List.mem_map.mpr ⟨snapshot, member, rfl⟩
  simp only [fetched, if_pos listed]
  simp only [Dialogue.bind] at goesOn
  cases text : readText outside.toReaders snapshot.2.1 answer with
  | error error =>
      rw [text] at goesOn
      exact (Dialogue.yields_done_iff.mp goesOn).1
  | ok text' =>
      rw [text] at goesOn
      obtain ⟨reply, rest, rfl, ended⟩ := Dialogue.yields_ask_iff.mp goesOn
      obtain ⟨rfl, -⟩ := Dialogue.yields_done_iff.mp ended
      exact ⟨reply, rfl⟩

theorem recorded_debugExport {server : PortServer} {ids : List String} (known : there dir)
    (yields : ((debugExport outside.toReaders server.serverId ids).bind fun
      | .ok zip => writeFile dir (debugZip outside server) zip
      | .error _ => .done ()).Yields log ()) :
    Recorded outside there log [] [join dir (debugZip outside server)] := by
  obtain ⟨answer, later, rfl, goesOn⟩ := Dialogue.yields_ask_iff.mp yields
  refine .fetch rfl rfl known (plain_debugZip outside server) ?_
  simp only [fetched]
  simp only [Dialogue.bind] at goesOn
  cases zip : readZip outside.toReaders answer with
  | error error =>
      rw [zip] at goesOn
      exact (Dialogue.yields_done_iff.mp goesOn).1
  | ok bytes =>
      rw [zip] at goesOn
      obtain ⟨reply, rest, rfl, ended⟩ := Dialogue.yields_ask_iff.mp goesOn
      obtain ⟨rfl, -⟩ := Dialogue.yields_done_iff.mp ended
      exact ⟨reply, rfl⟩

theorem recorded_collectorsFor {collectorIds ids : List String} {server : PortServer}
    (yields : (collectorsFor outside collectorIds server).Yields log ids) :
    Recorded outside there log [] [] := by
  unfold collectorsFor at yields
  split at yields
  · obtain ⟨answer, later, rfl, goesOn⟩ := Dialogue.yields_ask_iff.mp yields
    simp only [Dialogue.bind] at goesOn
    have ended : later = [] := by
      split at goesOn <;> exact (Dialogue.yields_done_iff.mp goesOn).1
    subst ended
    exact .quiet rfl rfl (fetched_of_other (by decide))
  · obtain ⟨rfl, -⟩ := Dialogue.yields_done_iff.mp yields
    exact .nil

theorem recorded_archiveServer {collectorIds : List String} {server : PortServer}
    (known : there dir)
    (yields : (archiveServer outside dir collectorIds server).Yields log ()) :
    Recorded outside there log [] [join dir (debugZip outside server)] := by
  obtain ⟨before, ids, after, rfl, collected, goesOn⟩ := Dialogue.yields_bind_iff.mp yields
  refine (recorded_collectorsFor collected).append ?_
  split at goesOn
  · obtain ⟨rfl, -⟩ := Dialogue.yields_done_iff.mp goesOn
    exact Recorded.nil.more (List.nil_sublist _)
  · exact recorded_debugExport known goesOn

/-- What is done for a failed leg. -/
theorem recorded_archiveFailure {archive : ArchiveParams} {proto : Proto}
    {servers : List PortServer} {result : Unit}
    (yields : (archiveFailure outside (legDir outside portId proto) portId servers
      archive).Yields log result) :
    Recorded outside there log [legDir outside portId proto]
      (FailedLeg.paths outside ⟨portId, proto, servers⟩) := by
  obtain ⟨reply, later, rfl, goesOn⟩ := Dialogue.yields_ask_iff.mp yields
  cases reply with
  | error error =>
      obtain ⟨rfl, -⟩ := Dialogue.yields_done_iff.mp goesOn
      exact .refused
  | ok done =>
      obtain ⟨before, ended, after, rfl, snapped, exported⟩ := Dialogue.yields_bind_iff.mp goesOn
      have taken : Recorded outside (· = legDir outside portId proto) before []
          (snapshots.map fun snapshot => join (legDir outside portId proto) snapshot.1) :=
        .forEach snapped
          (fun snapshot member here talked => recorded_archiveSnapshot member rfl talked)
      rw [FailedLeg.paths, FailedLeg.names, List.map_append, List.map_map, List.map_map]
      refine .create (taken.append ?_)
      split at exported
      · exact .forEach exported (fun server _ here talked => recorded_archiveServer rfl talked)
      · obtain ⟨rfl, -⟩ := Dialogue.yields_done_iff.mp exported
        exact Recorded.nil.more (List.nil_sublist _)

end Recording

/-! ## What an archive asks -/

section Asking

variable {outside : Outside} {allowed : Request → Prop}

/-- An archive reads the panel's state, exports the servers' logs where the configuration
says so, and writes. -/
theorem within_archiveFailure {dir : String} {portId : Int} {servers : List PortServer}
    {archive : ArchiveParams} (creates : ∀ dir, allowed (.createDirAll dir))
    (writes : ∀ path bytes, allowed (.write path bytes))
    (reads : ∀ snapshot ∈ snapshots, ∀ value, allowed (.get snapshot.2.1 snapshot.2.2 value))
    (exports : archive.collectLogs = true →
      (∀ value, allowed (.get "/api/admin/debug/collectors" "server_id" value)) ∧
        ∀ serverId collectorIds, allowed (.debugExport serverId collectorIds)) :
    (archiveFailure outside dir portId servers archive).Within allowed := by
  have writing {name : String} {bytes : List UInt8} : (writeFile dir name bytes).Within allowed :=
    ⟨writes _ _, fun _ => trivial⟩
  refine ⟨creates dir, fun reply => ?_⟩
  cases reply with
  | error error => trivial
  | ok made =>
      refine .bind (.forEach fun snapshot member =>
        .bind ⟨reads snapshot member _, fun _ => trivial⟩ fun text => ?_) fun _ => ?_
      · cases text with
        | error error => trivial
        | ok text => exact writing
      · split
        · rename_i collect
          refine .forEach fun server _ => .bind ?_ fun ids => ?_
          · unfold collectorsFor
            split
            · refine .bind (.bind ⟨(exports collect).1 _, fun _ => trivial⟩ fun _ => trivial)
                fun ids => ?_
              cases ids <;> trivial
            · trivial
          · split
            · trivial
            · refine .bind ⟨(exports collect).2 _ _, fun _ => trivial⟩ fun zip => ?_
              cases zip with
              | error error => trivial
              | ok zip => exact writing
        · trivial

theorem within_writeJson {summary : RunSummary} (creates : ∀ dir, allowed (.createDirAll dir))
    (writes : ∀ path bytes, allowed (.write path bytes)) :
    (writeJson outside summary).Within allowed := by
  refine ⟨creates _, fun reply => ?_⟩
  cases reply with
  | error error => trivial
  | ok made => exact ⟨writes _ _, fun _ => trivial⟩

/-- Nothing that an archive asks is about a port under test. -/
theorem replies_archiveFailure {dir : String} {portId : Int} {servers : List PortServer}
    {archive : ArchiveParams} {log : List Said}
    (yields : (archiveFailure outside dir portId servers archive).Yields log ()) :
    log.filterMap replyOf = [] := by
  have within : (archiveFailure outside dir portId servers archive).Within
      (aboutPort · = false) := by
    refine within_archiveFailure (fun _ => rfl) (fun _ _ => rfl) ?_ ?_
    · intro snapshot member value
      have other : ∀ snapshot ∈ snapshots, snapshot.2.1 ≠ "/api/ports" := by decide
      exact decide_eq_false (other snapshot member)
    · have other : "/api/admin/debug/collectors" ≠ "/api/ports" := by decide
      exact fun _ => ⟨fun _ => decide_eq_false other, fun _ _ => rfl⟩
  exact replies_eq_nil (within.of_yields yields)

end Asking

/-! ## A leg, a port and the run -/

/-- Where the outcome of a failed leg says that its artifacts are. -/
def evidence (outcome : PortOutcome) : Option String :=
  if outcome.verdict.verdict = .fail ∧ outcome.metrics.isSome then
    outcome.verdict.reasons.getLast?
  else none

/-- What a part of a run did for its outcomes. -/
structure Tested (outside : Outside) (log : List Said) (outcomes : List PortOutcome)
    (legs : List FailedLeg) : Prop where
  recorded : Recorded outside (fun _ => False) log (legs.map (FailedLeg.dir outside))
    (legs.flatMap (FailedLeg.paths outside))
  evident : outcomes.filterMap evidence = legs.map fun leg => "artifacts: " ++ leg.dir outside

/-- The leg's servers are those that the panel answered with in the run. -/
def FailedLeg.Answered (outside : Outside) (log : List Said) (leg : FailedLeg) : Prop :=
  ∃ answer, (⟨.get "/api/port_detail_info" "port_id" (toString leg.portId), answer⟩ : Said) ∈ log ∧
    leg.servers = (serversIn outside.toReaders leg.portId answer).toOption.getD []

section Testing

variable {outside : Outside} {cfg : FullConfig} {portId : Int} {port : PortInfo}
  {endpoint : String} {servers : List PortServer} {proto : Proto} {log : List Said}

theorem Tested.nil : Tested outside [] [] [] := ⟨.nil, rfl⟩

theorem Tested.append {before after : List Said} {outcomes others : List PortOutcome}
    {legs more : List FailedLeg} (first : Tested outside before outcomes legs)
    (second : Tested outside after others more) :
    Tested outside (before ++ after) (outcomes ++ others) (legs ++ more) where
  recorded := by
    rw [List.map_append, List.flatMap_append]
    exact first.recorded.append second.recorded
  evident := by
    rw [List.filterMap_append, first.evident, second.evident, List.map_append]

/-- What is said before anything is driven. -/
theorem Tested.quiet {exchange : Said} (noDirectory : directory exchange = none)
    (noFile : written exchange = none) (nothing : fetched outside exchange = none) :
    Tested outside [exchange] [] [] :=
  ⟨.quiet noDirectory noFile nothing, rfl⟩

/-- A leg's outcome, given its metrics. -/
def judged (cfg : CiConfig) (runDir : String) (portId : Int) (port : PortInfo) (proto : Proto)
    (metrics : PortMetrics) : PortOutcome :=
  Suite.testLeg cfg runDir portId port ⟨.ok [], .ok [], fun _ => metrics, fun _ => metrics⟩ "" proto

theorem testLeg_eq_judged (cfg : CiConfig) (runDir : String) (probe : PortProbe) :
    Suite.testLeg cfg runDir portId port probe endpoint proto =
      judged cfg runDir portId port proto (legMetrics cfg probe endpoint proto) := by
  cases proto <;> rfl

theorem artifacts_legDir :
    s!"artifacts: {outside.runDir}/port-{portId}-{protoName proto}" =
      "artifacts: " ++ legDir outside portId proto := by
  have slash : "/port-" = "/" ++ "port-" := rfl
  simp only [legDir, join, slash, String.append_assoc]
  rfl

theorem quiet_runLeg {config : RunConfig} {metrics : PortMetrics}
    (yields : (runLeg config proto).Yields log metrics) :
    Tested outside log [] [] ∧ log.filterMap replyOf = [legReply config metrics proto] := by
  cases proto with
  | tcp | udp | both =>
      obtain ⟨reply, later, rfl, ended⟩ := Dialogue.yields_ask_iff.mp yields
      obtain ⟨rfl, rfl⟩ := Dialogue.yields_done_iff.mp ended
      exact ⟨.quiet rfl rfl rfl, rfl⟩

theorem tested_of_testLeg {outcome : PortOutcome}
    (yields : (testLeg outside cfg portId port endpoint servers proto).Yields log outcome) :
    ∃ metrics legs, outcome = judged cfg.toCiConfig outside.runDir portId port proto metrics ∧
      log.filterMap replyOf =
        [legReply ⟨endpoint, cfg.test, cfg.detect.stallSecs⟩ metrics proto] ∧
      Tested outside log [outcome] legs ∧ legs.Sublist [⟨portId, proto, servers⟩] := by
  obtain ⟨before, metrics, after, rfl, driven, goesOn⟩ := Dialogue.yields_bind_iff.mp yields
  have verdictOf : (legMetrics cfg.toCiConfig ⟨.ok [], .ok [], fun _ => metrics,
      fun _ => metrics⟩ "" proto) = metrics := by
    cases proto <;> rfl
  obtain ⟨quiet, reply⟩ := @quiet_runLeg outside _ _ _ _ driven
  refine ⟨metrics, ?_⟩
  dsimp only at goesOn
  split at goesOn
  · rename_i failed
    obtain ⟨first, result, last, rfl, archived, ended⟩ := Dialogue.yields_bind_iff.mp goesOn
    obtain ⟨rfl, rfl⟩ := Dialogue.yields_done_iff.mp ended
    refine ⟨[⟨portId, proto, servers⟩], ?_, ?_, ?_, List.Sublist.refl _⟩
    · simp only [judged, Suite.testLeg, verdictOf, failed, if_true, artifacts_legDir, legOutcome]
    · rw [List.append_nil, List.filterMap_append, reply, replies_archiveFailure archived,
        List.append_nil]
    · rw [List.append_nil]
      refine quiet.append ⟨?_, ?_⟩
      · rw [List.flatMap_singleton]
        exact recorded_archiveFailure archived
      · simp [evidence, legOutcome, failed, FailedLeg.dir]
  · rename_i passed
    obtain ⟨rfl, rfl⟩ := Dialogue.yields_done_iff.mp goesOn
    refine ⟨[], ?_, ?_, ?_, List.nil_sublist _⟩
    · simp only [judged, Suite.testLeg, verdictOf, passed, if_false, legOutcome]
    · rw [List.append_nil, reply]
    · refine quiet.append ⟨.nil, ?_⟩
      simp [evidence, legOutcome, passed]

theorem tested_of_legs {protocols : List Proto} {outcomes : List PortOutcome}
    (yields : (Dialogue.collect (testLeg outside cfg portId port endpoint servers)
      protocols).Yields log outcomes) (distinct : protocols.Nodup) :
    ∃ (metrics : Proto → PortMetrics) (legs : List FailedLeg),
      outcomes = protocols.map (fun proto =>
        judged cfg.toCiConfig outside.runDir portId port proto (metrics proto)) ∧
      log.filterMap replyOf = protocols.map (fun proto =>
        legReply ⟨endpoint, cfg.test, cfg.detect.stallSecs⟩ (metrics proto) proto) ∧
      Tested outside log outcomes legs ∧
      legs.Sublist (protocols.map fun proto => ⟨portId, proto, servers⟩) := by
  revert distinct
  refine yields.collect (fun log protocols outcomes => protocols.Nodup →
    ∃ (metrics : Proto → PortMetrics) (legs : List FailedLeg),
      outcomes = protocols.map (fun proto =>
        judged cfg.toCiConfig outside.runDir portId port proto (metrics proto)) ∧
      log.filterMap replyOf = protocols.map (fun proto =>
        legReply ⟨endpoint, cfg.test, cfg.detect.stallSecs⟩ (metrics proto) proto) ∧
      Tested outside log outcomes legs ∧
      legs.Sublist (protocols.map fun proto => ⟨portId, proto, servers⟩)) ?_ ?_
  · exact fun _ => ⟨fun _ => undriven, [], rfl, rfl, .nil, List.Sublist.refl _⟩
  · intro proto here outcome protocols later outcomes talked inductionHypothesis distinct
    obtain ⟨fresh, others⟩ := List.nodup_cons.mp distinct
    obtain ⟨own, ownLegs, ownOutcome, ownReply, ownTested, ownKeys⟩ := tested_of_testLeg talked
    obtain ⟨metrics, legs, rest, replies, tested, keys⟩ := inductionHypothesis others
    have kept (other : Proto) (member : other ∈ protocols) :
        Function.update metrics proto own other = metrics other :=
      Function.update_of_ne (ne_of_mem_of_not_mem member fresh) ..
    refine ⟨Function.update metrics proto own, ownLegs ++ legs, ?_, ?_, ownTested.append tested,
      ownKeys.append keys⟩
    · rw [List.map_cons, Function.update_self, ownOutcome, rest]
      exact congrArg _ (List.map_congr_left fun other member => by rw [kept other member])
    · rw [List.filterMap_append, List.map_cons, Function.update_self, ownReply, replies]
      exact congrArg _ (List.map_congr_left fun other member => by rw [kept other member])

theorem protos_sublist (protocol : Proto) (port : PortInfo) :
    (protos protocol port).Sublist [.tcp, .udp] := by
  cases protocol with
  | tcp => exact List.Sublist.cons_cons _ (List.nil_sublist _)
  | udp => exact List.sublist_cons_self _ _
  | both =>
      simp only [protos]
      split
      · exact List.Sublist.refl _
      · exact List.Sublist.cons_cons _ (List.nil_sublist _)

theorem tested_skippedOrFailed (name reason : String) (verdict : Verdict) :
    Tested outside [] [skippedOrFailed portId name verdict reason] [] :=
  ⟨.nil, by simp [evidence, skippedOrFailed]⟩

theorem endpoint_eq (probe : PortProbe) :
    probe.endpoint = probe.addresses.toOption.bind List.head? := by
  unfold PortProbe.endpoint
  cases probe.addresses <;> rfl

/-- What is said for one port, and what its replies make of it on its own. -/
theorem tested_of_testOnePort {outcomes : List PortOutcome}
    (yields : (testOnePort outside cfg portId).Yields log outcomes) :
    (OfOnePort (log.filterMap replyOf) ∧
      outcomes = Suite.testOnePort cfg.toCiConfig outside.runDir portId
        (probeOf outside.toReaders portId (log.filterMap replyOf))) ∧
      ∃ legs, Tested outside log outcomes legs ∧
        (legs.map fun leg => (leg.portId, leg.proto)).Sublist [(portId, .tcp), (portId, .udp)] ∧
        ∀ leg ∈ legs, leg.Answered outside log := by
  obtain ⟨answer, later, rfl, goesOn⟩ := Dialogue.yields_ask_iff.mp yields
  have asked : Tested outside [⟨.get "/api/ports" "id" (toString portId), answer⟩] [] [] :=
    .quiet rfl rfl (fetched_of_other (by decide))
  simp only [Dialogue.bind] at goesOn
  -- A port that is not driven has one outcome, and nothing more is fetched for it.
  have settled {name reason : String} {verdict : Verdict} {before : List Said}
      (said : Tested outside before [] [])
      (alone : Suite.testOnePort cfg.toCiConfig outside.runDir portId
          (probeOf outside.toReaders portId (before.filterMap replyOf)) =
        [skippedOrFailed portId name verdict reason]) (one : OfOnePort (before.filterMap replyOf)) :
      (OfOnePort (before.filterMap replyOf) ∧ [skippedOrFailed portId name verdict reason] =
        Suite.testOnePort cfg.toCiConfig outside.runDir portId
          (probeOf outside.toReaders portId (before.filterMap replyOf))) ∧
        ∃ legs, Tested outside before [skippedOrFailed portId name verdict reason] legs ∧
          (legs.map fun leg => (leg.portId, leg.proto)).Sublist [(portId, .tcp), (portId, .udp)] ∧
          ∀ leg ∈ legs, leg.Answered outside before := by
    have whole := said.append (@tested_skippedOrFailed outside portId name reason verdict)
    rw [List.append_nil] at whole
    exact ⟨⟨one, alone.symm⟩, [], whole, List.nil_sublist _, by simp⟩
  have panelSaid (more : List PortReply) :
      (probeOf outside.toReaders portId (.port answer :: more)).ports =
        portsIn outside.toReaders portId answer := rfl
  have alone : OfOnePort [.port answer] := ⟨answer, [], rfl, by simp⟩
  cases found : Suite.getPort portId (portsIn outside.toReaders portId answer) with
  | error error =>
      rw [found] at goesOn
      obtain ⟨rfl, rfl⟩ := Dialogue.yields_done_iff.mp goesOn
      refine settled asked ?_ alone
      simp [Suite.testOnePort, replyOf, panelSaid, found]
  | ok port =>
      rw [found] at goesOn
      dsimp only at goesOn
      split at goesOn
      · rename_i suspended
        obtain ⟨rfl, rfl⟩ := Dialogue.yields_done_iff.mp goesOn
        refine settled asked ?_ alone
        simp [Suite.testOnePort, replyOf, panelSaid, found, suspended]
      rename_i active
      split at goesOn
      · rename_i proxied
        obtain ⟨rfl, rfl⟩ := Dialogue.yields_done_iff.mp goesOn
        refine settled asked ?_ alone
        simp [Suite.testOnePort, replyOf, panelSaid, found, active, proxied]
      rename_i direct
      obtain ⟨addresses, rest, rfl, driven⟩ := Dialogue.yields_ask_iff.mp goesOn
      have lookedUp := asked.append (@Tested.quiet outside
        ⟨.lookupHost s!"{port.ipAddr}:{port.portV4}", addresses⟩ rfl rfl rfl)
      have resolvedTo (more : List PortReply) : (probeOf outside.toReaders portId
          (.port answer :: .addresses addresses :: more)).addresses = addresses := rfl
      cases resolved : addresses.toOption.bind List.head? with
      | none =>
          rw [resolved] at driven
          obtain ⟨rfl, rfl⟩ := Dialogue.yields_done_iff.mp driven
          refine settled lookedUp ?_
            ⟨answer, [.addresses addresses], rfl, by simp [PortReply.isPort]⟩
          simp [Suite.testOnePort, replyOf, panelSaid, found, active, direct, endpoint_eq, resolvedTo,
            resolved]
      | some endpoint =>
          rw [resolved] at driven
          obtain ⟨detail, last, rfl, tried⟩ := Dialogue.yields_ask_iff.mp driven
          have known := lookedUp.append (@Tested.quiet outside
            ⟨.get "/api/port_detail_info" "port_id" (toString portId), detail⟩ rfl rfl
            (fetched_of_other (by decide)))
          have listed := protos_sublist cfg.test.protocol port
          obtain ⟨metrics, legs, outcome, replies, tested, keys⟩ := tested_of_legs tried
            (listed.nodup (by decide))
          have order := keys.trans (listed.map fun proto => (⟨portId, proto, _⟩ : FailedLeg))
          have all : List.filterMap replyOf
              (⟨.get "/api/ports" "id" (toString portId), answer⟩ ::
                ⟨.lookupHost s!"{port.ipAddr}:{port.portV4}", addresses⟩ ::
                ⟨.get "/api/port_detail_info" "port_id" (toString portId), detail⟩ :: last) =
              .port answer :: .addresses addresses :: (protos cfg.test.protocol port).map
                fun proto => legReply ⟨endpoint, cfg.test, cfg.detect.stallSecs⟩ (metrics proto)
                  proto := by
            rw [← replies]
            rfl
          refine ⟨⟨?_, ?_⟩, legs, known.append tested,
            order.map fun leg => (leg.portId, leg.proto), ?_⟩
          · rw [all]
            refine ⟨answer, _, rfl, ?_⟩
            rw [List.forall_mem_cons, List.forall_mem_map]
            refine ⟨rfl, fun proto _ => ?_⟩
            cases proto <;> rfl
          · rw [all]
            simp only [Suite.testOnePort, panelSaid, found, active, direct, endpoint_eq, resolvedTo,
              resolved, outcome]
            refine List.map_congr_left fun proto member => ?_
            rw [testLeg_eq_judged, legMetrics_probeOf listed member]
          · intro leg member
            obtain ⟨proto, -, rfl⟩ := List.mem_map.mp (keys.subset member)
            exact ⟨detail, List.mem_cons_of_mem _ (List.mem_cons_of_mem _ List.mem_cons_self), rfl⟩

theorem FailedLeg.Answered.mono {leg : FailedLeg} {before after : List Said}
    (answered : leg.Answered outside before) (more : before ⊆ after) :
    leg.Answered outside after := by
  obtain ⟨answer, member, servers⟩ := answered
  exact ⟨answer, more member, servers⟩

/-- The suite on its own, with the probes that a run's answers make. -/
def Outside.suite (outside : Outside) (probes : Nat → PortProbe) : SuiteEnv where
  file := outside.file
  fromToml text := (outside.fromToml text).map FullConfig.toCiConfig
  newPanel := outside.newPanel
  probes := probes
  startedAt := outside.startedAt
  runDir := outside.runDir

/-- The outcomes are what the replies in the log make of them, port by port. -/
def Probed (outside : Outside) (cfg : CiConfig) (log : List Said) (ids : List Int)
    (outcomes : List PortOutcome) : Prop :=
  ∃ groups : List (List PortReply),
    log.filterMap replyOf = groups.flatten ∧ (∀ group ∈ groups, OfOnePort group) ∧
    ∀ (position : Nat) (probes : Nat → PortProbe),
      (∀ index, probes (position + index) =
        probeOf outside.toReaders (ids.getD index 0) (groups.getD index [])) →
      outcomes = testPorts (outside.suite probes) cfg position ids

theorem Probed.suite {cfg : CiConfig} {ids : List Int} {outcomes : List PortOutcome}
    (probed : Probed outside cfg log ids outcomes) :
    outcomes = testPorts (outside.suite (probesIn outside.toReaders ids log)) cfg 0 ids := by
  obtain ⟨groups, replies, each, made⟩ := probed
  refine made 0 _ fun index => ?_
  rw [probesIn, replies, repliesByPort_flatten each, Nat.zero_add]

theorem tested_of_ports {ids : List Int} {outcomes : List (List PortOutcome)}
    (yields : (Dialogue.collect (testOnePort outside cfg) ids).Yields log outcomes) :
    Probed outside cfg.toCiConfig log ids outcomes.flatten ∧
      ∃ legs, Tested outside log outcomes.flatten legs ∧
        (legs.map fun leg => (leg.portId, leg.proto)).Sublist
          (ids.flatMap fun portId => [(portId, .tcp), (portId, .udp)]) ∧
        ∀ leg ∈ legs, leg.Answered outside log := by
  refine yields.collect (fun log ids outcomes =>
    Probed outside cfg.toCiConfig log ids outcomes.flatten ∧
    ∃ legs, Tested outside log outcomes.flatten legs ∧
      (legs.map fun leg => (leg.portId, leg.proto)).Sublist
        (ids.flatMap fun portId => [(portId, .tcp), (portId, .udp)]) ∧
      ∀ leg ∈ legs, leg.Answered outside log) ?_ ?_
  · exact ⟨⟨[], rfl, by simp, fun _ _ _ => rfl⟩, [], .nil, List.Sublist.refl _, by simp⟩
  · intro portId here own ids later others talked inductionHypothesis
    obtain ⟨⟨one, alone⟩, legs, tested, keys, answered⟩ := tested_of_testOnePort talked
    obtain ⟨⟨groups, replies, each, rest⟩, more, laterTested, laterKeys, laterAnswered⟩ :=
      inductionHypothesis
    refine ⟨⟨here.filterMap replyOf :: groups, ?_, ?_, fun position probes same => ?_⟩,
      legs ++ more, tested.append laterTested, ?_, ?_⟩
    · rw [List.filterMap_append, replies, List.flatten_cons]
    · exact List.forall_mem_cons.mpr ⟨one, each⟩
    · have first : (outside.suite probes).probes position =
          probeOf outside.toReaders portId (here.filterMap replyOf) := same 0
      rw [List.flatten_cons, testPorts, first, alone, rest (position + 1) probes fun index => ?_]
      · rfl
      · rw [Nat.add_assoc, Nat.add_comm 1 index, same (index + 1)]
        rfl
    · rw [List.map_append, List.flatMap_cons]
      exact keys.append laterKeys
    · intro leg member
      rcases List.mem_append.mp member with first | second
      · exact (answered leg first).mono (List.subset_append_left _ _)
      · exact (laterAnswered leg second).mono (List.subset_append_right _ _)

/-! ## A whole run -/

variable {args : RunArgs} {result : SuiteResult}

/-- The ports that a run is to test. -/
def portsOf (outside : Outside) (args : RunArgs) : List Int :=
  match loadConfig outside args with
  | .error _ => []
  | .ok loaded => (overridden args loaded).portIds

theorem load_eq (outside : Outside) (args : RunArgs) (probes : Nat → PortProbe) :
    CiConfig.load args.config (outside.suite probes).file (outside.suite probes).fromToml =
      (loadConfig outside args).map FullConfig.toCiConfig := by
  simp only [CiConfig.load, loadConfig, Outside.suite]
  cases outside.file with
  | error error => rfl
  | ok text =>
      simp only
      cases outside.fromToml text with
      | error error => rfl
      | ok cfg =>
          simp only [Except.map]
          split <;> rfl

/-- The summary of a run that starts. -/
def summaryOf (outside : Outside) (cfg : FullConfig) (outcomes : List (List PortOutcome)) :
    RunSummary :=
  RunSummary.build cfg.panelUrl outside.startedAt outcomes.flatten

/-- A run that cannot start says nothing; any other tests its ports and then writes
their summary. -/
theorem shape_of_runSuite (yields : (runSuite outside args).Yields log result) :
    (log = [] ∧ result = ⟨2, none⟩ ∧
        ∀ probes, Suite.runSuite (outside.suite probes) args = ⟨2, none⟩) ∨
      ∃ loaded outcomes before after, loadConfig outside args = .ok loaded ∧
        log = before ++ after ∧
        (Dialogue.collect (testOnePort outside (overridden args loaded))
          (overridden args loaded).portIds).Yields before outcomes ∧
        (writeJson outside (summaryOf outside (overridden args loaded) outcomes)).Yields after () ∧
        result = ⟨(summaryOf outside (overridden args loaded) outcomes).exitCode,
          some (summaryOf outside (overridden args loaded) outcomes)⟩ ∧
        ∀ probes, outcomes.flatten = testPorts (outside.suite probes)
            (overridden args loaded).toCiConfig 0 (overridden args loaded).portIds →
          Suite.runSuite (outside.suite probes) args = result := by
  unfold runSuite at yields
  cases found : loadConfig outside args with
  | error error =>
      rw [found] at yields
      obtain ⟨rfl, rfl⟩ := Dialogue.yields_done_iff.mp yields
      refine Or.inl ⟨rfl, rfl, fun probes => ?_⟩
      unfold Suite.runSuite
      rw [load_eq, found]
      rfl
  | ok loaded =>
      rw [found] at yields
      have load (probes : Nat → PortProbe) : CiConfig.load args.config
          (outside.suite probes).file (outside.suite probes).fromToml = .ok loaded.toCiConfig := by
        rw [load_eq, found]
        rfl
      have same : args.overrides.apply loaded.toCiConfig =
          (overridden args loaded).toCiConfig := rfl
      dsimp only at yields
      split at yields
      · rename_i empty
        obtain ⟨rfl, rfl⟩ := Dialogue.yields_done_iff.mp yields
        refine Or.inl ⟨rfl, rfl, fun probes => ?_⟩
        simp [Suite.runSuite, load, same, empty]
      rename_i some
      cases client : outside.newPanel (overridden args loaded).panelUrl
          (overridden args loaded).apiKey with
      | error error =>
          rw [client] at yields
          obtain ⟨rfl, rfl⟩ := Dialogue.yields_done_iff.mp yields
          refine Or.inl ⟨rfl, rfl, fun probes => ?_⟩
          have refused : (outside.suite probes).newPanel (overridden args loaded).panelUrl
              (overridden args loaded).apiKey = .error error := client
          simp [Suite.runSuite, load, same, some, refused]
      | ok accepted =>
          rw [client] at yields
          obtain ⟨before, outcomes, rest, rfl, tested, goesOn⟩ := Dialogue.yields_bind_iff.mp yields
          obtain ⟨after, ended, last, rfl, wrote, done⟩ := Dialogue.yields_bind_iff.mp goesOn
          obtain ⟨rfl, rfl⟩ := Dialogue.yields_done_iff.mp done
          refine Or.inr ⟨loaded, outcomes, before, after, rfl, by rw [List.append_nil], tested,
            wrote, rfl, fun probes whole => ?_⟩
          have agreed : (outside.suite probes).newPanel (overridden args loaded).panelUrl
              (overridden args loaded).apiKey = .ok () := client
          simp only [Suite.runSuite, load, same, some, agreed, ← whole, if_false]
          rfl

theorem recorded_writeJson {summary : RunSummary}
    (yields : (writeJson outside summary).Yields log ()) :
    log.filterMap directory = [outside.runDir] ∧ log.filterMap (fetched outside) = [] ∧
      Placed (fun _ => False) log ∧
      (((⟨.createDirAll outside.runDir, .ok ()⟩ : Said) ∈ log ∧ log.filterMap written =
          [(join outside.runDir "summary.json", utf8 (outside.summaryText summary))]) ∨
        ((∃ error, (⟨.createDirAll outside.runDir, .error error⟩ : Said) ∈ log) ∧
          log.filterMap written = [])) := by
  obtain ⟨reply, later, rfl, goesOn⟩ := Dialogue.yields_ask_iff.mp yields
  cases reply with
  | error error =>
      obtain ⟨rfl, -⟩ := Dialogue.yields_done_iff.mp goesOn
      exact ⟨rfl, rfl, .quiet rfl, Or.inr ⟨⟨error, List.mem_cons_self⟩, rfl⟩⟩
  | ok made =>
      obtain ⟨answer, rest, rfl, ended⟩ := Dialogue.yields_ask_iff.mp goesOn
      obtain ⟨rfl, -⟩ := Dialogue.yields_done_iff.mp ended
      exact ⟨rfl, rfl, .create (.file rfl (by decide +kernel)),
        Or.inl ⟨List.mem_cons_self, rfl⟩⟩

/-! ### Who is asked -/

/-- The requests that need an administrator's key. -/
def isDebug : Request → Bool
  | .debugExport .. => true
  | .get path _ _ => path = "/api/admin/debug/collectors"
  | _ => false

theorem isDebug_get {path key value : String} (other : path ≠ "/api/admin/debug/collectors") :
    isDebug (.get path key value) = false :=
  decide_eq_false other

theorem within_testOnePort (off : cfg.archive.collectLogs = false) :
    (testOnePort outside cfg portId).Within (isDebug · = false) := by
  refine ⟨isDebug_get (by decide), fun answer => ?_⟩
  simp only [Dialogue.bind]
  split
  · trivial
  split
  · trivial
  split
  · trivial
  refine ⟨rfl, fun addresses => ?_⟩
  dsimp only
  split
  · trivial
  refine ⟨isDebug_get (by decide), fun detail => .collect fun proto _ => .bind ?_ fun metrics => ?_⟩
  · cases proto <;> exact ⟨rfl, fun _ => trivial⟩
  · dsimp only
    split
    · refine .bind (within_archiveFailure (fun _ => rfl) (fun _ _ => rfl) ?_ ?_) fun _ => trivial
      · have other : ∀ snapshot ∈ snapshots, snapshot.2.1 ≠ "/api/admin/debug/collectors" := by
          decide
        exact fun snapshot member _ => isDebug_get (other snapshot member)
      · rw [off]
        exact fun collect => by cases collect
    · trivial

/-! ### What is left behind -/

/-- What a run that starts leaves behind. -/
structure Archived (outside : Outside) (log : List Said) (summary : RunSummary)
    (legs : List FailedLeg) : Prop where
  /-- A directory for each failed leg, and the run's own for the summary. -/
  directories : log.filterMap directory = legs.map (FailedLeg.dir outside) ++ [outside.runDir]
  evident :
    summary.outcomes.filterMap evidence = legs.map fun leg => "artifacts: " ++ leg.dir outside
  files : List.Sublist ((log.filterMap written).map Prod.fst)
    (legs.flatMap (FailedLeg.paths outside) ++ [join outside.runDir "summary.json"])
  /-- What was fetched is what is written, and then the summary. -/
  contents :
    ((⟨.createDirAll outside.runDir, .ok ()⟩ : Said) ∈ log ∧
      (log.filterMap written).map Prod.snd =
        log.filterMap (fetched outside) ++ [utf8 (outside.summaryText summary)]) ∨
    ((∃ error, (⟨.createDirAll outside.runDir, .error error⟩ : Said) ∈ log) ∧
      (log.filterMap written).map Prod.snd = log.filterMap (fetched outside))
  placed : Placed (fun _ => False) log

theorem archived_of_tested {summary : RunSummary} {legs : List FailedLeg} {before after : List Said}
    (tested : Tested outside before summary.outcomes legs)
    (wrote : (writeJson outside summary).Yields after ()) :
    Archived outside (before ++ after) summary legs := by
  obtain ⟨directories, nothing, placed, summaryFile⟩ := recorded_writeJson wrote
  have files := tested.recorded.files
  have contents := tested.recorded.contents
  refine ⟨?_, tested.evident, ?_, ?_, tested.recorded.placed.append placed⟩
  · rw [List.filterMap_append, tested.recorded.directories, directories]
  · rw [List.filterMap_append, List.map_append]
    refine files.append ?_
    rcases summaryFile with ⟨-, entry⟩ | ⟨-, none⟩
    · rw [entry]
      exact List.Sublist.refl _
    · rw [none]
      exact List.nil_sublist _
  · rw [List.filterMap_append, List.map_append, List.filterMap_append, nothing, contents,
      List.append_nil]
    rcases summaryFile with ⟨made, entry⟩ | ⟨⟨error, refused⟩, none⟩
    · rw [entry]
      exact Or.inl ⟨List.mem_append_right _ made, rfl⟩
    · rw [none]
      exact Or.inr ⟨⟨error, List.mem_append_right _ refused⟩, List.append_nil _⟩

/-- In every run of the suite, whatever the panel, the name service and the file system
answer: its outcomes and its exit code are those of the suite on its own, given the
replies in its log; a run that cannot start asks for nothing; each failed leg has a
directory, which its outcome names; the files hold what was fetched, in the order in
which it was, and then the summary, each directly inside a directory that was created
before; and an administrator's requests are made only where the configuration says so. -/
theorem suite_archives_failures
    (yields : (runSuite outside args).Yields log result) :
    Suite.runSuite (outside.suite (probesIn outside.toReaders (portsOf outside args) log)) args =
        result ∧
      (result.summary = none → log = []) ∧
      (∀ exchange ∈ log, isDebug exchange.request = true →
        ∃ loaded, loadConfig outside args = .ok loaded ∧ loaded.archive.collectLogs = true) ∧
      ∀ summary, result.summary = some summary →
        ∃ legs, Archived outside log summary legs := by
  rcases shape_of_runSuite yields with ⟨rfl, rfl, alone⟩ |
    ⟨loaded, outcomes, before, after, found, rfl, talked, wrote, rfl, same⟩
  · exact ⟨alone _, fun _ => rfl, by simp, by simp⟩
  · obtain ⟨probed, legs, tested, -, -⟩ := tested_of_ports talked
    have ports : portsOf outside args = (overridden args loaded).portIds := by
      rw [portsOf, found]
    have quiet : after.filterMap replyOf = [] :=
      replies_eq_nil ((@within_writeJson outside (aboutPort · = false) _ (fun _ => rfl)
        fun _ _ => rfl).of_yields wrote)
    have probes : probesIn outside.toReaders (portsOf outside args) (before ++ after) =
        probesIn outside.toReaders (overridden args loaded).portIds before := by
      funext position
      rw [probesIn, probesIn, ports, List.filterMap_append, quiet, List.append_nil]
    rw [probes]
    refine ⟨same _ probed.suite, (fun none => by cases none), ?_, ?_⟩
    · intro exchange member debug
      refine ⟨loaded, found, ?_⟩
      by_contra off
      have quiet : isDebug exchange.request = false := by
        have archive : (overridden args loaded).archive.collectLogs = false :=
          Bool.eq_false_of_not_eq_true off
        rcases List.mem_append.mp member with earlier | last
        · exact (Dialogue.Within.collect fun portId _ =>
            within_testOnePort archive).of_yields talked exchange earlier
        · exact (@within_writeJson outside (isDebug · = false) _ (fun _ => rfl)
            fun _ _ => rfl).of_yields wrote exchange last
      rw [quiet] at debug
      cases debug
    · intro summary shown
      obtain rfl := Option.some.inj shown
      refine ⟨legs, archived_of_tested ?_ wrote⟩
      rw [summaryOf, build_outcomes]
      exact tested

end Testing

/-! ## One failed port -/

/-- A world in which port `7` is silent, and the panel knows everything of it. -/
def silentPort : Outside where
  showStatus _ := ""
  ports _ := some [{ id := 7, ipAddr := "10.0.0.7", portV4 := 9000 }]
  portDetail _ := none
  portDetailEnvelope _ := some { data := some ⟨[⟨3, "edge/1"⟩]⟩ }
  debugCollectors _ := some { data := some [.object [("collector_id", .text "cpu")]] }
  file := .ok ""
  fromToml _ := .ok { panelUrl := "https://panel", apiKey := "key", portIds := [7] }
  newPanel _ _ := .ok ()
  startedAt := "2026-01-01T00:00:00+00:00"
  runDir := "runs/1"
  isAlphanumeric c := c.isAlphanum
  isAlphanumeric_slash := by decide
  summaryText _ := "summary"

def knowing : List Said → (request : Request) → request.Reply
  | _, .get .. => .ok { status := 200, text := some "text" }
  | _, .debugExport .. =>
      .ok { status := 200, contentType := some "application/zip", bytes := some [80, 75] }
  | _, .lookupHost endpoint => .ok [endpoint]
  | _, .runTcp config => finalize "tcp" config.endpoint 1 {} [] []
  | _, .runUdp config => finalize "udp" config.endpoint 1 {} [] []
  | _, .createDirAll _ => .ok ()
  | _, .write .. => .ok ()

def silentRun : List Said × SuiteResult := (runSuite silentPort {}).talk knowing []

/-- The run is the suite's, and leaves the panel's three snapshots, the server's archive
and the summary. -/
theorem suite_archives_failures_silentPort :
    silentRun.2.exitCode = 1 ∧
      Suite.runSuite (silentPort.suite (probesIn silentPort.toReaders [7] silentRun.1)) {} =
        silentRun.2 ∧
      (silentRun.1.filterMap written).map Prod.snd =
        [utf8 "text", utf8 "text", utf8 "text", [80, 75], utf8 "summary"] :=
  ⟨by decide +kernel,
    (suite_archives_failures (Dialogue.yields_talk knowing [] (runSuite silentPort {}))).1,
    by decide +kernel⟩

end Npt.Ci.Artifacts
