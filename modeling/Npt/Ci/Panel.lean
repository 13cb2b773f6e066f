import Npt.Ci.Suite
import Npt.Core.Dialogue
import Npt.Core.Json
import Npt.Core.Utf8
import Npt.Shared.Text

/-!
Contract: the panel's client (`ci/src/panel.rs`) and the other calls that a run of
the suite makes to its surroundings.

Owns: what is asked, what is taken from an answer of the panel, and that each call
is one exchange.

Does not own: the HTTP client and the JSON reader, which are parameters; the URL's
base and the API key's header, which are the same in every request.
-/

namespace Npt.Ci.Panel

open Npt.Core
open Npt.Ci.Client
open Npt.Ci.Suite

/-! ## What is asked -/

/-- An HTTP response. The texts are `none` where they cannot be had. -/
structure Response where
  status : Nat
  contentType : Option String := none
  text : Option String := none
  bytes : Option (List UInt8) := none

inductive Request where
  | get (path key value : String)
  | debugExport (serverId : Int) (collectorIds : List String)
  | lookupHost (endpoint : String)
  | runTcp (config : RunConfig)
  | runUdp (config : RunConfig)
  | createDirAll (dir : String)
  | write (path : String) (bytes : List UInt8)

abbrev Request.Reply : Request → Type
  | .get .. => Except String Response
  | .debugExport .. => Except String Response
  | .lookupHost _ => Except String (List String)
  | .runTcp _ => PortMetrics
  | .runUdp _ => PortMetrics
  | .createDirAll _ => Except String Unit
  | .write .. => Except String Unit

abbrev Talk := Dialogue Request Request.Reply

abbrev Said := Exchange Request Request.Reply

/-! ## What is answered -/

structure PortServer where
  serverId : Int
  serverName : String := ""
deriving DecidableEq, Repr

structure PortDetailInfoResponse where
  servers : List PortServer := []

structure ApiResponse (Value : Type) where
  success : Option Bool := none
  data : Option Value := none
  message : Option String := none
  error : Option String := none

/-- `serde_json`'s readers of the answers, and how a status is shown. -/
structure Readers where
  showStatus : Nat → String
  ports : String → Option (List PortInfo)
  portDetail : String → Option PortDetailInfoResponse
  portDetailEnvelope : String → Option (ApiResponse PortDetailInfoResponse)
  debugCollectors : String → Option (ApiResponse (List Json))

def Response.isSuccess (response : Response) : Bool :=
  200 ≤ response.status && response.status < 300

/-- `text().await.unwrap_or_default()`. -/
def Response.body (response : Response) : String := response.text.getD ""

/-- `Value::get`; of several members of one name the last counts. -/
def member (document : Json) (name : String) : Option Json :=
  match document with
  | .object entries => (entries.reverse.find? (fun entry => entry.1 = name)).map Prod.snd
  | _ => none

def asStr : Json → Option String
  | .text value => some value
  | _ => none

def collectorId (document : Json) : Option String :=
  ((member document "collector_id").orElse fun _ => member document "id").bind asStr

section Calls

variable (readers : Readers)

/-- The text of a successful answer. -/
def readText (request : String) (answer : Except String Response) : Except String String :=
  match answer with
  | .error _ => .error s!"GET {request} failed"
  | .ok response =>
      if response.isSuccess then .ok response.body
      else .error s!"GET {request} -> {readers.showStatus response.status}: {response.body}"

/-- The ports in an answer. -/
def portsIn (portId : Int) (answer : Except String Response) : Except String (List PortInfo) :=
  match answer with
  | .error _ => .error "GET /api/ports failed"
  | .ok response =>
      if response.isSuccess then
        match readers.ports response.body with
        | some ports => .ok ports
        | none => .error s!"parse /api/ports response: {response.body}"
      else
        .error (s!"GET /api/ports?id={portId} -> {readers.showStatus response.status}: " ++
          response.body)

/-- `Panel::get_port`. -/
def getPort (portId : Int) : Talk (Except String PortInfo) :=
  .ask (.get "/api/ports" "id" (toString portId)) fun answer =>
    .done (Suite.getPort portId (portsIn readers portId answer))

/-- The servers in an answer: those of the envelope where it has any data. -/
def readServers (text : String) : Except String (List PortServer) :=
  match (readers.portDetailEnvelope text).bind ApiResponse.data with
  | some detail => .ok detail.servers
  | none =>
      match readers.portDetail text with
      | some bare => .ok bare.servers
      | none => .error s!"parse /api/port_detail_info response: {text}"

/-- The servers in a port's details. -/
def serversIn (portId : Int) (answer : Except String Response) : Except String (List PortServer) :=
  match answer with
  | .error _ => .error "GET /api/port_detail_info failed"
  | .ok response =>
      if response.isSuccess then readServers readers response.body
      else
        .error (s!"GET /api/port_detail_info?port_id={portId} -> " ++
          s!"{readers.showStatus response.status}: {response.body}")

/-- `Panel::port_servers`. -/
def portServers (portId : Int) : Talk (Except String (List PortServer)) :=
  .ask (.get "/api/port_detail_info" "port_id" (toString portId)) fun answer =>
    .done (serversIn readers portId answer)

/-- `Panel::get_text`. -/
def getText (path key value : String) : Talk (Except String String) :=
  .ask (.get path key value) fun answer => .done (readText readers path answer)

/-- The collectors in an answer. -/
def readCollectors (text : String) : Except String (List String) :=
  match readers.debugCollectors text with
  | none => .error s!"parse debug collectors: {text}"
  | some envelope =>
      if envelope.success = some false then
        .error ("debug collectors error: " ++ (envelope.error.or envelope.message).getD "")
      else .ok ((envelope.data.getD []).filterMap collectorId)

/-- `Panel::debug_collectors`. -/
def debugCollectors (serverId : Int) : Talk (Except String (List String)) :=
  (getText readers "/api/admin/debug/collectors" "server_id" (toString serverId)).bind fun text =>
    .done (text.bind (readCollectors readers))

/-- The archive in an answer. -/
def readZip (answer : Except String Response) : Except String (List UInt8) :=
  match answer with
  | .error _ => .error "POST /api/admin/debug/export failed"
  | .ok response =>
      let contentType := response.contentType.getD ""
      if !response.isSuccess then
        .error s!"debug export -> {readers.showStatus response.status}: {response.body}"
      else if !Shared.contains contentType "application/zip" then
        .error s!"debug export returned non-zip ({contentType}): {response.body}"
      else
        match response.bytes with
        | some bytes => .ok bytes
        | none => .error "read debug export bytes"

/-- `Panel::debug_export`. -/
def debugExport (serverId : Int) (collectorIds : List String) : Talk (Except String (List UInt8)) :=
  .ask (.debugExport serverId collectorIds) fun answer => .done (readZip readers answer)

end Calls

end Npt.Ci.Panel
