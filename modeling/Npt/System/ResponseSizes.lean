import Npt.Core.IndexedFamily
import Npt.Client.QuicClient
import Npt.Server.GeneratedResponse

/-!
Owns: that the response of the server to a request of the client is of the size
the client expects at least, however the request is split into reads. Both sides
look for the same patterns, the server in the first line of what it has read and
the client in its path.

Does not own: what a page does with a response, or requests the client does not
write.
-/

namespace Npt.System

open Npt.Core
open Npt.Shared
open Npt.Server (ServerState ServerLabel Stream StreamLabel StreamStage serverMachine streamStep
  afterReading requestEnd firstLine pathContains responseSize generateResponse)
open Npt.Client (expectedMinSize requestStep)

/-! ## The request -/

/-- `request_data` of `request_resource`, with the text of the session id. -/
def resourceRequest (path sessionId : String) : List UInt8 :=
  utf8 (path ++ "\n" ++ sessionId)

section Request

variable {path sessionId : String}

theorem resourceRequest_eq :
    resourceRequest path sessionId = utf8 path ++ 10 :: utf8 sessionId := by
  have newline : utf8 "\n" = [10] := by
    rw [Utf8.utf8_eq_flatMap]
    rfl
  rw [resourceRequest, Utf8.utf8_append, Utf8.utf8_append, newline, List.append_assoc,
    List.singleton_append]

theorem newline_notMem {text : String} (line : '\n' ∉ text.toList) : 10 ∉ utf8 text :=
  fun member => line ((Utf8.mem_utf8_iff (c := '\n') (by decide) text).mp member)

/-- A request has one newline, so it never ends the way the server waits for. -/
theorem not_requestEnd (line : '\n' ∉ path.toList) (id : '\n' ∉ sessionId.toList) :
    ¬requestEnd <:+: resourceRequest path sessionId := by
  intro inside
  have twice := inside.sublist.count_le 10
  rw [resourceRequest_eq, List.count_append, List.count_cons_self,
    List.count_eq_zero.mpr (newline_notMem line), List.count_eq_zero.mpr (newline_notMem id)] at twice
  simp [requestEnd] at twice

/-- The server finds in its first line what the client finds in its path. -/
theorem pathContains_firstLine (line : '\n' ∉ path.toList) {pattern : String}
    (plain : ∀ c ∈ pattern.toList, c.toNat < 0x80 ∧ c ≠ '\r') :
    pathContains (firstLine (resourceRequest path sessionId)) pattern = contains path pattern := by
  have whole : (resourceRequest path sessionId).takeWhile (· ≠ 10) = utf8 path := by
    rw [resourceRequest_eq, List.takeWhile_append_of_pos]
    · simp
    · intro byte member
      exact decide_eq_true (fun same => newline_notMem line (same ▸ member))
  have searched := Npt.Server.pathContains_utf8 (fun c member => (plain c member).1) path
  rw [firstLine, whole, ← searched]
  split
  · rename_i ended
    obtain ⟨front, split⟩ := List.getLast?_eq_some_iff.mp ended.2
    -- A carriage return at the end of the path is cut off; no pattern has one.
    have unmarked : 13 ∉ utf8 pattern := fun member =>
      (plain '\r' ((Utf8.mem_utf8_iff (c := '\r') (by decide) pattern).mp member)).2 rfl
    have across : utf8 pattern <:+: front ++ [13] ↔ utf8 pattern <:+: front := by
      rw [Substring.infix_append_cons_iff unmarked, or_iff_left_of_imp]
      intro empty
      rw [List.infix_nil.mp empty]
      exact List.nil_infix
    rw [split, List.dropLast_concat]
    exact decide_eq_decide.mpr across.symm
  · rfl

/-- The table of the server gives no path less than the client expects. -/
theorem expectedMinSize_le (line : '\n' ∉ path.toList) :
    expectedMinSize path ≤ responseSize (resourceRequest path sessionId) := by
  have nonempty : resourceRequest path sessionId ≠ [] := by
    rw [resourceRequest_eq]
    simp
  rw [Npt.Server.responseSize_of_line nonempty
    (fun pattern plain => pathContains_firstLine line plain), expectedMinSize]
  repeat' split
  all_goals simp_all

end Request

/-! ## Reading it -/

/-- The move of one stream that a step of the server is. -/
def ownLabel (position : Nat) : ServerLabel → Option StreamLabel
  | .stream index label => if index = position then some label else none
  | _ => none

/-- The stage a move leads to, whatever the rest of the server. -/
def stageAfter (stage : StreamStage) (label : StreamLabel) : Option StreamStage :=
  (streamStep {} { connection := 0, remoteAddr := ⟨""⟩, stage := stage } label).map Prod.snd

/-- The moves of one stream in a run. -/
def streamLabels (position : Nat) (trace : List (ServerState × ServerLabel)) :
    List StreamLabel :=
  trace.filterMap (fun entry => ownLabel position entry.2)

theorem stageAfter_eq (state : ServerState) (stream : Stream) (label : StreamLabel) :
    stageAfter stream.stage label = (streamStep state stream label).map Prod.snd := by
  obtain ⟨connection, remoteAddr, stage⟩ := stream
  cases label <;> cases stage <;> simp only [stageAfter, streamStep, Option.map_some,
    Option.map_none]
  repeat' split
  all_goals rfl

/-- Only the moves of a stream change it. -/
theorem stream_of_foreign {state next : ServerState} {label : ServerLabel}
    (taken : serverMachine.step state label = some next) {position : Nat} {stream : Stream}
    (present : state.streams[position]? = some stream)
    (foreign : ownLabel position label = none) : next.streams[position]? = some stream := by
  have other {index : Nat} {own : StreamLabel}
      (elsewhere : ownLabel position (.stream index own) = none) : index ≠ position :=
    fun same => by simp [ownLabel, same] at elsewhere
  cases Npt.Server.move_of_serverStep taken with
  | opened _ _ => exact present
  | started _ _ => exact present
  | accepted _ _ =>
      exact (List.getElem?_append_left (List.getElem?_eq_some_iff.mp present).1).trans present
  | ended _ _ => exact (congrArg (·[position]?) (Npt.Server.streams_removeSession _ _)).trans present
  | recorded _ _ _ _ => exact (List.getElem?_set_ne (other foreign)).trans present
  | streamed _ _ => exact (List.getElem?_set_ne (other foreign)).trans present
  | scanned => exact present
  | swept =>
      exact (congrArg (·[position]?)
        (Npt.Server.removed_removeSessions state state.toRemove).streams).trans present
  | elapsed => exact present

/-- A stream goes through a run as through its own moves alone. -/
theorem stage_of_run {start last : ServerState} {trace : List (ServerState × ServerLabel)}
    (run : serverMachine.Run start trace last) {position : Nat} {stage : StreamStage}
    (here : (start.streams[position]?).map Stream.stage = some stage) :
    ∃ final, (last.streams[position]?).map Stream.stage = some final ∧
      (streamLabels position trace).foldlM stageAfter stage = some final := by
  refine run.project (fun state => (state.streams[position]?).map Stream.stage)
    (ownLabel position) stageAfter ?_ ?_ here
  · intro state label next stage viewed foreign taken
    obtain ⟨stream, present, rfl⟩ := Option.map_eq_some_iff.mp viewed
    rw [stream_of_foreign taken present foreign]
    rfl
  · intro state label next stage move viewed own taken
    obtain ⟨stream, present, rfl⟩ := Option.map_eq_some_iff.mp viewed
    cases label with
    | stream index label =>
        simp only [ownLabel, Option.ite_none_right_eq_some, Option.some.injEq] at own
        obtain ⟨rfl, rfl⟩ := own
        obtain ⟨mover, found, stepped⟩ := Option.bind_eq_some_iff.mp taken
        obtain rfl := Option.some.inj (found.symm.trans present)
        obtain ⟨⟨after, stage⟩, moved, rfl⟩ := Option.map_eq_some_iff.mp stepped
        rw [stageAfter_eq state mover label, moved]
        exact ⟨by rw [getElem?_set_self_of_some present]; rfl, rfl⟩
    | opened _ _ => simp [ownLabel] at own
    | started _ => simp [ownLabel] at own
    | streamAccepted _ => simp [ownLabel] at own
    | ended _ => simp [ownLabel] at own
    | cleanupScan => simp [ownLabel] at own
    | cleanupSweep => simp [ownLabel] at own
    | elapse _ => simp [ownLabel] at own

/-- Reads of a part of a request leave the stream reading. -/
theorem stage_of_reads {before : List UInt8} {chunks : List (List UInt8)}
    (buffered : ∀ chunk ∈ chunks, chunk ≠ [] ∧ chunk.length ≤ 4096)
    (unfinished : ¬requestEnd <:+: before ++ chunks.flatten) :
    (chunks.map StreamLabel.read).foldlM stageAfter (.reading before) =
      some (.reading (before ++ chunks.flatten)) := by
  induction chunks generalizing before with
  | nil => simp
  | cons chunk chunks inductionHypothesis =>
      obtain ⟨nonempty, fits⟩ := buffered chunk List.mem_cons_self
      rw [List.flatten_cons, ← List.append_assoc] at unfinished ⊢
      have continued : ¬requestEnd <:+ before ++ chunk := fun ended =>
        unfinished (ended.isInfix.trans (List.prefix_append _ _).isInfix)
      rw [List.map_cons, List.foldlM_cons]
      have read : stageAfter (.reading before) (.read chunk) =
          some (.reading (before ++ chunk)) := by
        simp [stageAfter, streamStep, fits, nonempty, continued]
      rw [read]
      exact inductionHypothesis
        (fun other member => buffered other (List.mem_cons_of_mem chunk member)) unfinished

/-- A request read to its end is answered by the response to it. -/
theorem stage_of_request {request : List UInt8} {chunks : List (List UInt8)}
    (buffered : ∀ chunk ∈ chunks, chunk ≠ [] ∧ chunk.length ≤ 4096)
    (sent : chunks.flatten = request) (nonempty : request ≠ [])
    (unfinished : ¬requestEnd <:+: request) :
    (chunks.map StreamLabel.read ++ [StreamLabel.readEnds, .recordRequest]).foldlM stageAfter (.reading []) =
      some (.responding (responseSize request)) := by
  have whole : ¬requestEnd <:+: [] ++ chunks.flatten := by rwa [List.nil_append, sent]
  rw [List.foldlM_append, stage_of_reads buffered whole, List.nil_append, sent]
  simp [stageAfter, streamStep, afterReading, nonempty]

/-- However the request of a client is split into reads, and whatever else the
server does meanwhile, the client accepts the size of the response. -/
theorem response_size_accepted (hyphenated : Uuid → String)
    (digits : ∀ id, ∀ c ∈ (hyphenated id).toList, c ∈ "0123456789abcdef-".toList)
    {start last : ServerState} {trace : List (ServerState × ServerLabel)}
    (run : serverMachine.Run start trace last) (position : Nat)
    (accepted : (start.streams[position]?).map Stream.stage = some (.reading []))
    (path : String) (line : '\n' ∉ path.toList) (sessionId : Uuid)
    (chunks : List (List UInt8)) (buffered : ∀ chunk ∈ chunks, chunk ≠ [] ∧ chunk.length ≤ 4096)
    (sent : chunks.flatten = resourceRequest path (hyphenated sessionId))
    (delivered : streamLabels position trace =
      chunks.map StreamLabel.read ++ [.readEnds, .recordRequest]) (random : Nat → UInt8) :
    ∃ response,
      generateResponse (resourceRequest path (hyphenated sessionId)) random = some response ∧
      (last.streams[position]?).map Stream.stage = some (.responding response.length) ∧
      expectedMinSize path ≤ response.length ∧
      ∀ connectionId latency,
        (requestStep connectionId { path := path, sent := true }
          (.responded response.length latency)).map Prod.snd = some .ok := by
  have unbroken : '\n' ∉ (hyphenated sessionId).toList := fun member =>
    absurd (digits sessionId '\n' member) (by decide)
  have nonempty : resourceRequest path (hyphenated sessionId) ≠ [] := by
    rw [resourceRequest_eq]
    simp
  obtain ⟨response, generated, length⟩ :=
    Npt.Server.generateResponse_length (resourceRequest path (hyphenated sessionId)) random
  have enough : expectedMinSize path ≤ response.length := length ▸ expectedMinSize_le line
  refine ⟨response, generated, ?_, enough, ?_⟩
  · obtain ⟨final, shown, folded⟩ := stage_of_run run accepted
    rw [delivered, stage_of_request buffered sent nonempty (not_requestEnd line unbroken)] at folded
    rw [shown, ← Option.some.inj folded, length]
  · intro connectionId latency
    have large : 0 < response.length := by
      have := Npt.Server.lt_responseSize (resourceRequest path (hyphenated sessionId))
      omega
    simp [requestStep, Nat.ne_of_gt large, Nat.not_lt.mpr enough]

/-- The server when it has accepted the first stream of its first connection. -/
def streamOpened : ServerState :=
  (serverMachine.play (Npt.Server.startServer {})
    [.opened ⟨"192.0.2.7:50000"⟩ ⟨1⟩, .started 0, .streamAccepted 0]).get (by decide +kernel)

/-- A path with several of the patterns, read in two parts. -/
def splitRequest : List (List UInt8) :=
  let request := resourceRequest "/a.js/b.json" "67e55044-10b1-426f-9247-bb680e5fe0c8"
  [request.take 5, request.drop 5]

def splitReads : List ServerLabel :=
  [.stream 0 (.read (splitRequest.getD 0 [])), .elapse 3,
    .stream 0 (.read (splitRequest.getD 1 [])), .streamAccepted 0, .stream 0 .readEnds,
    .stream 0 .recordRequest]

def splitReceived : ServerState :=
  (serverMachine.play streamOpened splitReads).get (by decide +kernel)

/-- The session's id is the one that the text shows. -/
theorem response_size_accepted_split :
    ∃ response, generateResponse (resourceRequest "/a.js/b.json"
        "67e55044-10b1-426f-9247-bb680e5fe0c8") (fun _ => 7) = some response ∧
      (splitReceived.streams[0]?).map Stream.stage = some (.responding response.length) ∧
      expectedMinSize "/a.js/b.json" ≤ response.length := by
  have digits : "67e55044-10b1-426f-9247-bb680e5fe0c8".toList.all
      ("0123456789abcdef-".toList.contains ·) = true := by decide +kernel
  have run : serverMachine.Run streamOpened (serverMachine.trace streamOpened splitReads)
      splitReceived := Machine.run_of_play (Option.some_get _).symm
  obtain ⟨response, generated, shown, enough, -⟩ :=
    response_size_accepted (fun _ => "67e55044-10b1-426f-9247-bb680e5fe0c8")
      (fun _ c member => by simpa using List.all_eq_true.mp digits c member) run 0
      (by decide +kernel) "/a.js/b.json" (by decide +kernel)
      ⟨0x67e5504410b1426f9247bb680e5fe0c8⟩ splitRequest (by decide +kernel)
      (by decide +kernel) (by decide +kernel) (fun _ => 7)
  exact ⟨response, generated, shown, enough⟩

end Npt.System
