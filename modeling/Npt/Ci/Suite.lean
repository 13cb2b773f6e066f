import Npt.Ci.Client.Run
import Npt.Ci.Detect

/-!
Contract: one `npt-ci run`, from its options to its exit code (`ci/src/main.rs`,
with `Panel::get_port` and the counts of `ci/src/report.rs`).

Owns: the parsing of `--ports`, the outcomes of one port, the summary and its
exit code, and exactly when a zero exit code stands for every requested port.

Does not own: the panel's transport, name resolution and the probes, which are
parameters; the artifacts, and what is printed.
-/

namespace Npt.Ci.Suite

open Npt.Ci.Client
open Npt.Ci.Config
open Npt.Ci.Detect

/-! ## The option string -/

/-- `char::is_whitespace`. -/
def isWhitespace (c : Char) : Bool :=
  let n := c.toNat
  decide ((9 ≤ n ∧ n ≤ 13) ∨ n = 0x20 ∨ n = 0x85 ∨ n = 0xA0 ∨ n = 0x1680 ∨
    (0x2000 ≤ n ∧ n ≤ 0x200A) ∨ n = 0x2028 ∨ n = 0x2029 ∨ n = 0x202F ∨ n = 0x205F ∨ n = 0x3000)

/-- `str::trim`. -/
def trim (text : List Char) : List Char :=
  ((text.dropWhile isWhitespace).reverse.dropWhile isWhitespace).reverse

/-- The value of a digit string. -/
def parseDigits (digits : List Char) : Option Nat :=
  if digits = [] ∨ digits.any (fun c => !c.isDigit) then none
  else some (digits.foldl (fun value c => 10 * value + (c.toNat - '0'.toNat)) 0)

/-- `i32::from_str`. -/
def parseI32 (text : List Char) : Option Int :=
  match text with
  | '-' :: digits =>
      (parseDigits digits).bind fun value =>
        if value ≤ 2147483648 then some (-(value : Int)) else none
  | '+' :: digits =>
      (parseDigits digits).bind fun value =>
        if value ≤ 2147483647 then some (value : Int) else none
  | digits =>
      (parseDigits digits).bind fun value =>
        if value ≤ 2147483647 then some (value : Int) else none

/-- The comma-separated tokens of `--ports`. -/
def portTokens (ports : String) : List (List Char) := ports.toList.splitOn ','

/-- The port id that a token names. -/
def portId (token : List Char) : Option Int := parseI32 (trim token)

def parsePorts (ports : String) : List Int := (portTokens ports).filterMap portId

/-- The options of `run`. -/
structure RunArgs where
  config : String := "ci.toml"
  panelUrl : Option String := none
  apiKey : Option String := none
  ports : Option String := none
  duration : Option Nat := none
  connections : Option Nat := none
deriving DecidableEq, Repr

def RunArgs.overrides (args : RunArgs) : RunOverrides :=
  { panelUrl := args.panelUrl
    apiKey := args.apiKey
    ports := args.ports.map parsePorts
    duration := args.duration
    connections := args.connections }

/-! ## The panel's answer -/

/-- The fields of the panel's `PortInfo` that a run reads. -/
structure PortInfo where
  id : Int
  displayName : String := ""
  ipAddr : String
  portV4 : Int
  isSuspended : Bool := false
  enableUdp : Option Bool := none
  inboundProxyEnabled : Option Bool := none
  inboundProxyProtocol : Option String := none
deriving DecidableEq, Repr

/-- `Panel::get_port`, on the ports that the panel answered with. -/
def getPort (portId : Int) (answer : Except String (List PortInfo)) : Except String PortInfo :=
  match answer with
  | .error error => .error error
  | .ok ports =>
      match ports.find? (fun port => port.id == portId) with
      | some port => .ok port
      | none => .error s!"port {portId} not found in panel response"

/-! ## The summary -/

structure PortOutcome where
  portId : Int
  displayName : String
  verdict : PortVerdict
  metrics : Option PortMetrics
deriving DecidableEq, Repr

structure RunSummary where
  startedAt : String
  panelUrl : String
  total : Nat
  passed : Nat
  failed : Nat
  skipped : Nat
  outcomes : List PortOutcome
deriving DecidableEq, Repr

/-- One round of the loop of `RunSummary::build`. -/
def RunSummary.count (summary : RunSummary) (outcome : PortOutcome) : RunSummary :=
  match outcome.verdict.verdict with
  | .pass => { summary with passed := summary.passed + 1 }
  | .fail => { summary with failed := summary.failed + 1 }
  | .skipped => { summary with skipped := summary.skipped + 1 }

def RunSummary.build (panelUrl startedAt : String) (outcomes : List PortOutcome) : RunSummary :=
  outcomes.foldl RunSummary.count
    { startedAt := startedAt
      panelUrl := panelUrl
      total := outcomes.length
      passed := 0
      failed := 0
      skipped := 0
      outcomes := outcomes }

def RunSummary.exitCode (summary : RunSummary) : Nat := if 0 < summary.failed then 1 else 0

/-! ## One port -/

/-- What the world answers while one port is tested. -/
structure PortProbe where
  ports : Except String (List PortInfo)
  /-- The addresses that the endpoint's name resolves to. -/
  addresses : Except String (List String)
  runTcp : RunConfig → PortMetrics
  runUdp : RunConfig → PortMetrics

def skippedOrFailed (portId : Int) (name : String) (verdict : Verdict) (reason : String) :
    PortOutcome :=
  { portId := portId
    displayName := name
    verdict := { portId := portId, verdict := verdict, reasons := [reason] }
    metrics := none }

/-- The first address that the endpoint's name resolves to. -/
def PortProbe.endpoint (probe : PortProbe) : Option String :=
  match probe.addresses with
  | .error _ => none
  | .ok addresses => addresses.head?

/-- The protocols to drive. -/
def protos (protocol : Proto) (port : PortInfo) : List Proto :=
  match protocol with
  | .tcp => [.tcp]
  | .udp => [.udp]
  | .both => if port.enableUdp = some true then [.tcp, .udp] else [.tcp]

def protoName : Proto → String
  | .udp => "udp"
  | _ => "tcp"

/-- The metrics of one protocol's leg. -/
def legMetrics (cfg : CiConfig) (probe : PortProbe) (endpoint : String) : Proto → PortMetrics
  | .udp => probe.runUdp ⟨endpoint, cfg.test, cfg.detect.stallSecs⟩
  | _ => probe.runTcp ⟨endpoint, cfg.test, cfg.detect.stallSecs⟩

/-- One round of the loop over the protocols. -/
def testLeg (cfg : CiConfig) (runDir : String) (portId : Int) (port : PortInfo)
    (probe : PortProbe) (endpoint : String) (proto : Proto) : PortOutcome :=
  let metrics := legMetrics cfg probe endpoint proto
  let verdict := evaluate metrics cfg.detect portId
  { portId := portId
    displayName :=
      if cfg.test.protocol = .both then s!"{port.displayName} ({protoName proto})"
      else port.displayName
    verdict :=
      if verdict.verdict = .fail then
        { verdict with
          reasons := verdict.reasons ++
            [s!"artifacts: {runDir}/port-{portId}-{protoName proto}"] }
      else verdict
    metrics := some metrics }

/-- `test_one_port`: the outcomes it pushes. -/
def testOnePort (cfg : CiConfig) (runDir : String) (portId : Int) (probe : PortProbe) :
    List PortOutcome :=
  match getPort portId probe.ports with
  | .error error => [skippedOrFailed portId "" .fail s!"panel resolve failed: {error}"]
  | .ok port =>
      if port.isSuspended then
        [skippedOrFailed portId port.displayName .skipped "port suspended"]
      else if port.inboundProxyEnabled = some true then
        [skippedOrFailed portId port.displayName .skipped
          ("inbound proxy '" ++ port.inboundProxyProtocol.getD "" ++ "' not supported " ++
            "(raw-forward only in this version)")]
      else
        match probe.endpoint with
        | none =>
            [skippedOrFailed portId port.displayName .fail
              s!"cannot resolve endpoint {port.ipAddr}:{port.portV4}"]
        | some endpoint =>
            (protos cfg.test.protocol port).map (testLeg cfg runDir portId port probe endpoint)

/-! ## The run -/

/-- What the world answers during a run. -/
structure SuiteEnv where
  file : Except String String
  fromToml : String → Except String CiConfig
  /-- Whether `Panel::new` accepts the URL and the key. -/
  newPanel : (base apiKey : String) → Except String Unit
  /-- What is answered for the port tested at a position. -/
  probes : Nat → PortProbe
  startedAt : String
  runDir : String

/-- The loop over the port ids, from a position on. -/
def testPorts (env : SuiteEnv) (cfg : CiConfig) (position : Nat) : List Int → List PortOutcome
  | [] => []
  | portId :: rest =>
      testOnePort cfg env.runDir portId (env.probes position) ++
        testPorts env cfg (position + 1) rest

structure SuiteResult where
  exitCode : Nat
  summary : Option RunSummary
deriving DecidableEq, Repr

/-- `run_suite`. -/
def runSuite (env : SuiteEnv) (args : RunArgs) : SuiteResult :=
  match CiConfig.load args.config env.file env.fromToml with
  | .error _ => ⟨2, none⟩
  | .ok loaded =>
      let cfg := args.overrides.apply loaded
      if cfg.portIds = [] then ⟨2, none⟩
      else
        match env.newPanel cfg.panelUrl cfg.apiKey with
        | .error _ => ⟨2, none⟩
        | .ok () =>
            let summary := RunSummary.build cfg.panelUrl env.startedAt
              (testPorts env cfg 0 cfg.portIds)
            ⟨summary.exitCode, some summary⟩

/-! ## What the summary counts -/

theorem count_verdicts (summary : RunSummary) (outcome : PortOutcome) :
    (summary.count outcome).passed + (summary.count outcome).failed +
        (summary.count outcome).skipped =
      summary.passed + summary.failed + summary.skipped + 1 ∧
    (summary.count outcome).failed =
      summary.failed + (decide (outcome.verdict.verdict = .fail)).toNat ∧
    (summary.count outcome).total = summary.total ∧
    (summary.count outcome).outcomes = summary.outcomes := by
  unfold RunSummary.count
  cases outcome.verdict.verdict with
  | pass | fail | skipped =>
      refine ⟨?_, rfl, rfl, rfl⟩
      simp only
      omega

theorem foldl_count (outcomes : List PortOutcome) (summary : RunSummary) :
    (outcomes.foldl RunSummary.count summary).passed +
        (outcomes.foldl RunSummary.count summary).failed +
        (outcomes.foldl RunSummary.count summary).skipped =
      summary.passed + summary.failed + summary.skipped + outcomes.length ∧
    (outcomes.foldl RunSummary.count summary).failed =
      summary.failed + outcomes.countP (fun outcome => decide (outcome.verdict.verdict = .fail)) ∧
    (outcomes.foldl RunSummary.count summary).total = summary.total ∧
    (outcomes.foldl RunSummary.count summary).outcomes = summary.outcomes := by
  induction outcomes generalizing summary with
  | nil => simp
  | cons outcome rest inductionHypothesis =>
      obtain ⟨sum, failed, total, kept⟩ := count_verdicts summary outcome
      obtain ⟨sums, faileds, totals, kepts⟩ := inductionHypothesis (summary.count outcome)
      refine ⟨?_, ?_, totals.trans total, kepts.trans kept⟩
      · rw [List.foldl_cons, sums, sum, List.length_cons]
        omega
      · rw [List.foldl_cons, faileds, failed, List.countP_cons]
        cases decide (outcome.verdict.verdict = .fail) <;> simp +arith

section Build

variable (panelUrl startedAt : String) (outcomes : List PortOutcome)

@[simp] theorem build_outcomes :
    (RunSummary.build panelUrl startedAt outcomes).outcomes = outcomes :=
  (foldl_count outcomes _).2.2.2

theorem build_total :
    (RunSummary.build panelUrl startedAt outcomes).passed +
        (RunSummary.build panelUrl startedAt outcomes).failed +
        (RunSummary.build panelUrl startedAt outcomes).skipped =
      (RunSummary.build panelUrl startedAt outcomes).total := by
  unfold RunSummary.build
  rw [(foldl_count outcomes _).1, (foldl_count outcomes _).2.2.1]
  simp

/-- The exit code is zero exactly when no outcome is a failure. -/
theorem exitCode_eq_zero_iff :
    (RunSummary.build panelUrl startedAt outcomes).exitCode = 0 ↔
      ∀ outcome ∈ outcomes, outcome.verdict.verdict ≠ .fail := by
  have failed : (RunSummary.build panelUrl startedAt outcomes).failed =
      outcomes.countP (fun outcome => decide (outcome.verdict.verdict = .fail)) := by
    unfold RunSummary.build
    rw [(foldl_count outcomes _).2.1, Nat.zero_add]
  have zero (count : Nat) : (if 0 < count then 1 else 0) = 0 ↔ count = 0 := by
    split <;> omega
  rw [RunSummary.exitCode, failed, zero, List.countP_eq_zero]
  simp

end Build

/-! ## What one port brings -/

section Port

variable {cfg : CiConfig} {runDir : String} {portId : Int} {probe : PortProbe}

theorem protos_ne_nil (protocol : Proto) (port : PortInfo) : protos protocol port ≠ [] := by
  cases protocol with
  | tcp | udp => simp [protos]
  | both =>
      simp only [protos]
      split <;> simp

/-- Every port has an outcome. -/
theorem testOnePort_ne_nil : testOnePort cfg runDir portId probe ≠ [] := by
  unfold testOnePort
  repeat' split
  all_goals simp [protos_ne_nil]

/-- Every outcome of a port carries its id. -/
theorem portId_of_mem {outcome : PortOutcome}
    (member : outcome ∈ testOnePort cfg runDir portId probe) : outcome.portId = portId := by
  unfold testOnePort at member
  repeat' split at member
  all_goals
    simp only [List.mem_singleton, List.mem_map] at member
  · rw [member]; rfl
  · rw [member]; rfl
  · rw [member]; rfl
  · rw [member]; rfl
  · obtain ⟨proto, -, rfl⟩ := member
    rfl

/-- What makes a port fail: it cannot be resolved, or a leg's metrics are not
clean. -/
def PortFails (cfg : CiConfig) (portId : Int) (probe : PortProbe) : Prop :=
  match getPort portId probe.ports with
  | .error _ => True
  | .ok port =>
      port.isSuspended = false ∧ port.inboundProxyEnabled ≠ some true ∧
        match probe.endpoint with
        | none => True
        | some endpoint =>
            ∃ proto ∈ protos cfg.test.protocol port,
              ¬Clean (legMetrics cfg probe endpoint proto) cfg.detect

theorem testLeg_verdict (port : PortInfo) (endpoint : String) (proto : Proto) :
    (testLeg cfg runDir portId port probe endpoint proto).verdict.verdict =
      (evaluate (legMetrics cfg probe endpoint proto) cfg.detect portId).verdict := by
  simp only [testLeg]
  split <;> rfl

theorem portFails_iff :
    (∃ outcome ∈ testOnePort cfg runDir portId probe, outcome.verdict.verdict = .fail) ↔
      PortFails cfg portId probe := by
  unfold testOnePort PortFails
  cases getPort portId probe.ports with
  | error error => simp [skippedOrFailed]
  | ok port =>
      cases suspended : port.isSuspended with
      | true => simp [suspended, skippedOrFailed]
      | false =>
          by_cases proxied : port.inboundProxyEnabled = some true
          · simp [suspended, proxied, skippedOrFailed]
          · cases resolved : probe.endpoint with
            | none => simp [suspended, proxied, skippedOrFailed]
            | some endpoint =>
                simp [suspended, proxied, testLeg_verdict, evaluate_fail_iff]

end Port

theorem mem_testPorts_iff {env : SuiteEnv} {cfg : CiConfig} {outcome : PortOutcome}
    (ids : List Int) (position : Nat) :
    outcome ∈ testPorts env cfg position ids ↔
      ∃ index portId, ids[index]? = some portId ∧
        outcome ∈ testOnePort cfg env.runDir portId (env.probes (position + index)) := by
  induction ids generalizing position with
  | nil => simp [testPorts]
  | cons first rest inductionHypothesis =>
      rw [testPorts, List.mem_append, inductionHypothesis]
      constructor
      · rintro (here | ⟨index, portId, found, later⟩)
        · exact ⟨0, first, rfl, here⟩
        · exact ⟨index + 1, portId, found, by rwa [Nat.add_right_comm] at later⟩
      · rintro ⟨index, portId, found, there⟩
        cases index with
        | zero =>
            obtain rfl := Option.some.inj found
            exact Or.inl there
        | succ index =>
            refine Or.inr ⟨index, portId, found, ?_⟩
            rwa [Nat.add_right_comm]

/-! ## What a zero exit code stands for -/

/-- What a run is asked to test: the tokens of `--ports`, or the configured ids
without the option. `none` is a token that is not a port id. -/
def requested (args : RunArgs) (loaded : CiConfig) : List (Option Int) :=
  match args.ports with
  | some ports => (portTokens ports).map Suite.portId
  | none => loaded.portIds.map some

/-- If the exit code is zero, everything that was asked for has an outcome, no
outcome is a failure and every outcome is counted. -/
def GreenIsComplete (env : SuiteEnv) (args : RunArgs) : Prop :=
  (runSuite env args).exitCode = 0 →
    ∃ loaded summary, CiConfig.load args.config env.file env.fromToml = .ok loaded ∧
      (runSuite env args).summary = some summary ∧
      (∀ request ∈ requested args loaded, ∃ portId, request = some portId ∧
        ∃ outcome ∈ summary.outcomes, outcome.portId = portId) ∧
      (∀ outcome ∈ summary.outcomes, outcome.verdict.verdict ≠ .fail) ∧
      summary.passed + summary.failed + summary.skipped = summary.total

/-- The run cannot start: no usable configuration, no port id or no client. -/
def CannotStart (env : SuiteEnv) (args : RunArgs) : Prop :=
  match CiConfig.load args.config env.file env.fromToml with
  | .error _ => True
  | .ok loaded =>
      (args.overrides.apply loaded).portIds = [] ∨
        ∃ error, env.newPanel (args.overrides.apply loaded).panelUrl
          (args.overrides.apply loaded).apiKey = .error error

/-- One of the port ids that the run tests fails. -/
def SomePortFails (env : SuiteEnv) (args : RunArgs) : Prop :=
  ∃ loaded, CiConfig.load args.config env.file env.fromToml = .ok loaded ∧
    ∃ (index : Nat) (portId : Int),
      (args.overrides.apply loaded).portIds[index]? = some portId ∧
        PortFails (args.overrides.apply loaded) portId (env.probes index)

/-- Every token of `--ports` is a port id. -/
def AllTokensNamePorts (args : RunArgs) : Prop :=
  ∀ ports, args.ports = some ports → ∀ token ∈ portTokens ports, portId token ≠ none

section Run

variable {env : SuiteEnv} {args : RunArgs}

theorem runSuite_of_cannotStart (stuck : CannotStart env args) :
    runSuite env args = ⟨2, none⟩ := by
  unfold CannotStart at stuck
  unfold runSuite
  cases found : CiConfig.load args.config env.file env.fromToml with
  | error error => rfl
  | ok loaded =>
      rw [found] at stuck
      rcases stuck with empty | ⟨error, refused⟩
      · simp [empty]
      · simp [refused]

/-- What a run that starts computes. -/
theorem runSuite_of_started (started : ¬CannotStart env args) :
    ∃ loaded, CiConfig.load args.config env.file env.fromToml = .ok loaded ∧
      let cfg := args.overrides.apply loaded
      let summary := RunSummary.build cfg.panelUrl env.startedAt (testPorts env cfg 0 cfg.portIds)
      runSuite env args = ⟨summary.exitCode, some summary⟩ := by
  unfold CannotStart at started
  unfold runSuite
  cases found : CiConfig.load args.config env.file env.fromToml with
  | error error => simp [found] at started
  | ok loaded =>
      rw [found] at started
      obtain ⟨some, accepted⟩ := not_or.mp started
      refine ⟨loaded, rfl, ?_⟩
      cases client : env.newPanel (args.overrides.apply loaded).panelUrl
          (args.overrides.apply loaded).apiKey with
      | error error => exact absurd ⟨error, client⟩ accepted
      | ok done => simp [some, client]

/-- A run that starts is green exactly when no port fails. -/
theorem green_iff (started : ¬CannotStart env args) :
    (runSuite env args).exitCode = 0 ↔ ¬SomePortFails env args := by
  obtain ⟨loaded, found, result⟩ := runSuite_of_started started
  simp only at result
  rw [result, exitCode_eq_zero_iff]
  constructor
  · rintro clean ⟨other, same, index, id, listed, fails⟩
    obtain rfl := Except.ok.inj (found.symm.trans same)
    obtain ⟨outcome, member, fail⟩ := (@portFails_iff _ env.runDir _ _).mpr fails
    refine clean outcome ((mem_testPorts_iff _ 0).mpr ⟨index, id, listed, ?_⟩) fail
    rwa [Nat.zero_add]
  · intro clean outcome member fail
    obtain ⟨index, id, listed, there⟩ := (mem_testPorts_iff _ 0).mp member
    rw [Nat.zero_add] at there
    exact clean ⟨loaded, found, index, id, listed, portFails_iff.mp ⟨outcome, there, fail⟩⟩

/-- What is asked for and names a port is tested. -/
theorem tested_of_requested {loaded : CiConfig} {id : Int}
    (request : some id ∈ requested args loaded) :
    id ∈ (args.overrides.apply loaded).portIds := by
  unfold requested at request
  unfold RunOverrides.apply RunArgs.overrides
  cases option : args.ports with
  | none => simpa [option] using request
  | some ports =>
      simp only [option, List.mem_map] at request
      obtain ⟨token, member, named⟩ := request
      simp only [Option.map_some, Option.getD_some, parsePorts, List.mem_filterMap]
      exact ⟨token, member, named⟩

theorem outcome_of_tested {cfg : CiConfig} {id : Int} (tested : id ∈ cfg.portIds) :
    ∃ outcome ∈ testPorts env cfg 0 cfg.portIds, outcome.portId = id := by
  obtain ⟨index, listed⟩ := List.mem_iff_getElem?.mp tested
  obtain ⟨outcome, member⟩ := List.exists_mem_of_ne_nil _
    (@testOnePort_ne_nil cfg env.runDir id (env.probes (0 + index)))
  exact ⟨outcome, (mem_testPorts_iff _ 0).mpr ⟨index, id, listed, member⟩, portId_of_mem member⟩

end Run

/-- A zero exit code stands for every requested port exactly when every token of
`--ports` is a port id, or the exit code is not zero anyway. -/
theorem greenIsComplete_iff (env : SuiteEnv) (args : RunArgs) :
    GreenIsComplete env args ↔
      AllTokensNamePorts args ∨ CannotStart env args ∨ SomePortFails env args := by
  constructor
  · intro complete
    by_contra other
    obtain ⟨dropped, runs⟩ := not_or.mp other
    obtain ⟨started, clean⟩ := not_or.mp runs
    obtain ⟨loaded, _, _, _, named, _⟩ := complete ((green_iff started).mpr clean)
    refine dropped fun ports option token member unnamed => ?_
    obtain ⟨id, found, -⟩ := named none (by
      unfold requested
      rw [option]
      exact List.mem_map.mpr ⟨token, member, unnamed⟩)
    simp at found
  · intro condition green
    have started : ¬CannotStart env args := by
      intro stuck
      rw [runSuite_of_cannotStart stuck] at green
      simp at green
    have clean := (green_iff started).mp green
    have named : AllTokensNamePorts args := by
      rcases condition with named | stuck | fails
      · exact named
      · exact absurd stuck started
      · exact absurd fails clean
    obtain ⟨loaded, found, result⟩ := runSuite_of_started started
    simp only at result
    rw [result] at green
    refine ⟨loaded, _, found, congrArg SuiteResult.summary result, fun request member => ?_, ?_,
      build_total _ _ _⟩
    · obtain ⟨id, rfl⟩ : ∃ id, request = some id := by
        refine Option.ne_none_iff_exists'.mp fun absent => ?_
        subst absent
        unfold requested at member
        cases option : args.ports with
        | none => simp [option] at member
        | some ports =>
            simp only [option, List.mem_map] at member
            obtain ⟨token, there, unnamed⟩ := member
            exact named ports option token there unnamed
      refine ⟨id, rfl, ?_⟩
      rw [build_outcomes]
      exact outcome_of_tested (tested_of_requested member)
    · rw [build_outcomes]
      exact (exitCode_eq_zero_iff _ _ _).mp green

/-- A flow that had its one frame echoed. -/
def echoedOnce : ConnState :=
  { id := 0
    connected := true
    bytesSent := 1048
    bytesRecv := 1048 }

/-- A world in which port `7` is healthy. -/
def healthyPort : SuiteEnv :=
  { file := .ok ""
    fromToml := fun _ => .ok { panelUrl := "https://panel", apiKey := "key", portIds := [1] }
    newPanel := fun _ _ => .ok ()
    probes := fun _ =>
      { ports := .ok [{ id := 7, ipAddr := "10.0.0.7", portV4 := 9000 }]
        addresses := .ok ["10.0.0.7:9000"]
        runTcp := fun config => finalize "tcp" config.endpoint 1 {} [echoedOnce] []
        runUdp := fun config => finalize "udp" config.endpoint 1 {} [] [] }
    startedAt := "2026-01-01T00:00:00+00:00"
    runDir := "./runs/run-20260101-000000" }

/-- The mistyped port is dropped, and the run is green. -/
theorem mistyped_port_dropped :
    ∃ env args, args.ports = some "7,8x" ∧ (runSuite env args).exitCode = 0 ∧
      ¬GreenIsComplete env args := by
  have green : (runSuite healthyPort { ports := some "7,8x" }).exitCode = 0 := by
    decide +kernel
  refine ⟨healthyPort, { ports := some "7,8x" }, rfl, green, fun complete => ?_⟩
  obtain ⟨loaded, _, _, _, named, _⟩ := complete green
  have dropped : none ∈ requested { ports := some "7,8x" } loaded :=
    List.mem_map.mpr ⟨['8', 'x'], by decide, by decide⟩
  obtain ⟨id, found, -⟩ := named none dropped
  simp at found

end Npt.Ci.Suite
