import Mathlib.Data.Rat.Defs
import Mathlib.Tactic.NormNum

/-!
Contract: the probe's configuration (`ci/src/config.rs`).

Owns: `TestParams` and `DetectParams` with the values `Default` gives them, what
`CiConfig::load` checks, and the overrides of `run_suite`. `f64` fields are exact
rationals.

Does not own: the TOML reader, the panel or the archive settings.
-/

namespace Npt.Ci.Config

inductive Proto where
  | tcp
  | udp
  | both
deriving DecidableEq, Repr

structure TestParams where
  protocol : Proto := .tcp
  connectionsPerPort : Nat := 32
  durationSecs : Nat := 120
  payloadBytes : Nat := 16 * 1024
  connectTimeoutSecs : Nat := 10
  rampMs : Nat := 2000
  /-- `0` is unbounded. -/
  sendRateBps : Nat := 0
  udpIntervalMs : Nat := 20
deriving DecidableEq, Repr

structure DetectParams where
  stallSecs : Nat := 5
  failOnStall : Bool := true
  failOnMidstreamDisconnect : Bool := true
  failOnNoReturn : Bool := true
  maxConnectFailRatio : Rat := 1 / 10
  /-- `0` disables the floor. -/
  minThroughputKbps : Rat := 0
  /-- `0` disables the ceiling. -/
  maxRttP95Ms : Rat := 0
deriving DecidableEq, Repr

structure CiConfig where
  panelUrl : String
  apiKey : String
  portIds : List Int
  test : TestParams := {}
  detect : DetectParams := {}
deriving DecidableEq, Repr

/-- `CiConfig::load`, on what reading the file returned. `fromToml` is the
external reader. -/
def CiConfig.load (path : String) (file : Except String String)
    (fromToml : String → Except String CiConfig) : Except String CiConfig :=
  match file with
  | .error error => .error s!"failed to read config {path}: {error}"
  | .ok text =>
      match fromToml text with
      | .error error => .error s!"invalid config {path}: {error}"
      | .ok cfg =>
          if cfg.portIds = [] then .error "config has no port_ids to test" else .ok cfg

/-- `RunOverrides`, with what `--ports` parses to. -/
structure RunOverrides where
  panelUrl : Option String := none
  apiKey : Option String := none
  ports : Option (List Int) := none
  duration : Option Nat := none
  connections : Option Nat := none
deriving DecidableEq, Repr

/-- The overrides that `run_suite` applies to the loaded configuration. -/
def RunOverrides.apply (ov : RunOverrides) (cfg : CiConfig) : CiConfig :=
  { cfg with
    panelUrl := ov.panelUrl.getD cfg.panelUrl
    apiKey := ov.apiKey.getD cfg.apiKey
    portIds := ov.ports.getD cfg.portIds
    test := { cfg.test with
      durationSecs := ov.duration.getD cfg.test.durationSecs
      connectionsPerPort := ov.connections.getD cfg.test.connectionsPerPort } }

end Npt.Ci.Config
