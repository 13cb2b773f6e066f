import Npt.Client.TcpClient
import Npt.Core.Substring

/-!
Contract: which type an error is recorded under, against what caused it.

The callers of the activities classify an error by its text alone, which prints
the cause somewhere inside.

Owns: the causes and their texts, the texts a failing step can record, and when
the recorded type is the type of the cause.

Does not own: the error records' other fields.
-/

namespace Npt.Client

open Npt.Core
open Npt.Shared

/-! ## Causes -/

/-- What ends a connect or an exchange. -/
inductive FailureCause where
  | refused
  /-- The 30 seconds of a read are over. -/
  | timeout
  | reset
  | brokenPipe
  | tooLarge (length : Nat)
deriving DecidableEq, Repr

/-- The text a cause prints. -/
def FailureCause.text : FailureCause → String
  | .refused => "Connection refused"
  | .timeout => "deadline has elapsed"
  | .reset => "Connection reset by peer"
  | .brokenPipe => "Broken pipe"
  | .tooLarge length => s!"Message too large: {length} bytes"

def FailureCause.errorType : FailureCause → ErrorType
  | .refused => .connectionFailed
  | .timeout => .networkTimeout
  | .reset | .brokenPipe => .unexpectedDisconnection
  | .tooLarge _ => .messageTooLarge

/-- The error text of a label, before the call adds its own. -/
def TcpLabel.errorText : TcpLabel → Option String
  | .connected localAddrError => localAddrError
  | .refused error | .sendFailed error | .receiveFailed error => some error
  | .oversized length => some s!"Message too large: {length} bytes"
  | .backoffOver _ | .sent _ | .received _ _ _ _ | .pauseOver | .thinkOver _ _ => none

/-! ## Classification -/

def transfers : UserActivity → Bool
  | .fileDownload _ _ | .fileUpload _ _ => true
  | _ => false

/-- The type an activity records an error text under. -/
def errorTypeOf (activity : UserActivity) (message : String) : ErrorType :=
  if transfers activity then transferErrorType message else webErrorType message

/-- The lower-cased text has a keyword in it. -/
def mentions (message keyword : String) : Bool := contains (toLowercase message) keyword

/-- The text of the error leads its classification to the cause. -/
def FailureCause.Told (activity : UserActivity) (error : String) : FailureCause → Prop
  | .refused => True
  | .timeout => mentions error "connection refused" = false ∧ mentions error "timeout" = true
  | .reset | .brokenPipe =>
      mentions error "connection refused" = false ∧ mentions error "timeout" = false
  | .tooLarge _ =>
      transfers activity = true ∧
        ∀ keyword ∈ ["connection refused", "timeout", "broken pipe", "reset"],
          mentions error keyword = false

/-- What the classifications look for. -/
def keywords : List String :=
  ["connection refused", "timeout", "broken pipe", "reset", "too large"]

theorem mentions_of_part {part keyword : String} (found : mentions part keyword = true)
    (before after : String) : mentions (before ++ part ++ after) keyword = true := by
  rw [mentions, toLowercase_append, toLowercase_append]
  exact contains_append_of_part found _ _

/-- No keyword has a parenthesis or a colon. -/
theorem unmarked_of_keyword {keyword : String} (member : keyword ∈ keywords) :
    '(' ∉ keyword.toList ∧ ')' ∉ keyword.toList ∧ ':' ∉ keyword.toList := by
  have all : ∀ keyword ∈ keywords,
      '(' ∉ keyword.toList ∧ ')' ∉ keyword.toList ∧ ':' ∉ keyword.toList := by decide
  exact all keyword member

/-- The text of the last failed connect adds no keyword to the error it prints. -/
theorem mentions_dialled {keyword : String} (member : keyword ∈ keywords) (error : String) :
    mentions s!"All connection attempts failed: Some({error})" keyword =
      mentions error keyword := by
  obtain ⟨unopened, unclosed, -⟩ := unmarked_of_keyword member
  have absent : ∀ keyword ∈ keywords,
      ¬keyword.toList <:+: (toLowercase "All connection attempts failed: Some").toList ∧
        ¬keyword.toList <:+: [] := by
    decide
  have shape : (toLowercase s!"All connection attempts failed: Some({error})").toList =
      (toLowercase "All connection attempts failed: Some").toList ++
        '(' :: ((toLowercase error).toList ++ [')']) := by
    have split : s!"All connection attempts failed: Some({error})" =
        "All connection attempts failed: Some" ++ "(" ++ error ++ ")" := rfl
    rw [split]
    simp only [toLowercase_append, String.toList_append, List.append_assoc]
    rfl
  unfold mentions
  rw [Bool.eq_iff_iff, contains_iff, contains_iff, shape,
    Substring.infix_append_cons_iff unopened, Substring.infix_append_cons_iff unclosed]
  simp [(absent keyword member).1, (absent keyword member).2]

/-- After its colon, an oversized message's text has digits and " bytes". -/
theorem not_mem_lowercase_bytes (length : Nat) {c : Char} (letter : c.isDigit = false)
    (unprinted : c ∉ " bytes".toList) : c ∉ (toLowercase s!" {length} bytes").toList := by
  have shape : s!" {length} bytes" = " " ++ length.repr ++ " bytes" := rfl
  have blank : (toLowercase " ").toList = [' '] := by decide
  have unit : (toLowercase " bytes").toList = " bytes".toList := by decide
  rw [shape, toLowercase_append, toLowercase_append, String.toList_append, String.toList_append,
    blank, unit]
  simp only [List.mem_append, not_or]
  refine ⟨⟨?_, not_mem_lowercase_repr length letter⟩, unprinted⟩
  intro member
  obtain rfl := List.mem_singleton.mp member
  exact unprinted (by decide)

/-- Whatever its length, an oversized message is told by "too large" alone. -/
theorem mentions_tooLarge (length : Nat) :
    mentions (FailureCause.tooLarge length).text "too large" = true ∧
      ∀ keyword ∈ ["connection refused", "timeout", "broken pipe", "reset"],
        mentions (FailureCause.tooLarge length).text keyword = false := by
  have split : (FailureCause.tooLarge length).text =
      "" ++ "Message too large" ++ (":" ++ s!" {length} bytes") := by
    have joined : "Message too large" ++ ":" ++ " " = "Message too large: " := by decide
    show "Message too large: " ++ length.repr ++ " bytes" =
      "" ++ "Message too large" ++ (":" ++ (" " ++ length.repr ++ " bytes"))
    rw [← joined]
    simp only [String.append_assoc, String.empty_append]
  have shape : (toLowercase (FailureCause.tooLarge length).text).toList =
      "message too large".toList ++ ':' :: (toLowercase s!" {length} bytes").toList := by
    have lowered : toLowercase "" ++ toLowercase "Message too large" = "message too large" := by
      decide
    have colon : (toLowercase ":").toList = [':'] := by decide
    rw [split, toLowercase_append, toLowercase_append, lowered, toLowercase_append,
      String.toList_append, String.toList_append, colon]
    rfl
  constructor
  · rw [split]
    exact mentions_of_part (by decide) _ _
  · intro keyword member
    -- A letter of the keyword that " bytes" does not have.
    have letters : ∀ keyword ∈ ["connection refused", "timeout", "broken pipe", "reset"],
        keyword ∈ keywords ∧ ¬keyword.toList <:+: "message too large".toList ∧
          ('i' ∈ keyword.toList ∨ 'r' ∈ keyword.toList) := by
      decide
    obtain ⟨listed, absent, needed⟩ := letters keyword member
    have lacksI := not_mem_lowercase_bytes length (c := 'i') (by decide) (by decide)
    have lacksR := not_mem_lowercase_bytes length (c := 'r') (by decide) (by decide)
    unfold mentions
    rw [Bool.eq_false_iff, Ne, contains_iff, shape,
      Substring.infix_append_cons_iff (unmarked_of_keyword listed).2.2]
    rintro (left | right)
    · exact absent left
    · rcases needed with needsI | needsR
      · exact Substring.not_infix_of_mem needsI lacksI right
      · exact Substring.not_infix_of_mem needsR lacksR right

/-! ## The recorded type -/

theorem errorRecord_eq (call : TcpCall) (message : String) :
    ∃ details, errorRecord call message =
      .recordErrorWithDetail call.connectionId (errorTypeOf call.activity message) message
        details := by
  unfold errorRecord
  split
  · rename_i fileSize chunkSize download
    have type : errorTypeOf (.fileDownload fileSize chunkSize) message =
        transferErrorType message := if_pos rfl
    rw [download, type]
    exact ⟨_, rfl⟩
  · rename_i fileSize chunkSize upload
    have type : errorTypeOf (.fileUpload fileSize chunkSize) message =
        transferErrorType message := if_pos rfl
    rw [upload, type]
    exact ⟨_, rfl⟩
  · rename_i noDownload noUpload
    have browsing : transfers call.activity = false := by
      cases activity : call.activity with
      | fileDownload size chunk => exact absurd activity (noDownload size chunk)
      | fileUpload size chunk => exact absurd activity (noUpload size chunk)
      | _ => rfl
    rw [errorTypeOf, browsing, if_neg Bool.false_ne_true]
    exact ⟨_, rfl⟩

/-- The classifications look at nothing but their keywords. -/
theorem errorTypeOf_congr {left right : String}
    (agree : ∀ keyword ∈ keywords, mentions left keyword = mentions right keyword)
    (activity : UserActivity) : errorTypeOf activity left = errorTypeOf activity right := by
  simp only [keywords, List.forall_mem_cons, mentions] at agree
  obtain ⟨refused, timeout, pipe, reset, large, -⟩ := agree
  unfold errorTypeOf transferErrorType webErrorType
  simp only [refused, timeout, pipe, reset, large]

section Records

variable {pool : ServerPool} {stopped : Bool} {call : TcpCall} {label : TcpLabel}
  {effects : List Effect} {outcome : TcpOutcome} {error : String}
  {id : Uuid} {type : ErrorType} {message : String} {details : Option String}

theorem record_of_failed {text : String}
    (recorded : .recordErrorWithDetail id type message details ∈ (failed call text).1) :
    type = errorTypeOf call.activity text := by
  obtain ⟨_, same⟩ := errorRecord_eq call text
  simp only [failed, same, List.mem_cons, Effect.recordErrorWithDetail.injEq, reduceCtorEq,
    List.not_mem_nil, or_false] at recorded
  exact recorded.2.1

/-- A step that fails records the type of its error's own text. -/
theorem record_of_failure (taken : tcpStep pool stopped call label = some (effects, outcome))
    (failure : label.errorText = some error)
    (recorded : .recordErrorWithDetail id type message details ∈ effects) :
    type = errorTypeOf call.activity error := by
  unfold tcpStep at taken
  split at taken
  · cases failure
  · rename_i attempt server localAddrError stage
    obtain rfl : localAddrError = error := Option.some.inj failure
    obtain ⟨rfl, rfl⟩ := Prod.mk.inj (Option.some.inj taken)
    exact record_of_failed (by simpa using recorded)
  · rename_i attempt server refusal stage
    obtain rfl : refusal = error := Option.some.inj failure
    split at taken
    · obtain ⟨rfl, rfl⟩ := Prod.mk.inj (Option.some.inj taken)
      simp at recorded
    · obtain ⟨rfl, rfl⟩ := Prod.mk.inj (Option.some.inj taken)
      have printed := record_of_failed (by simpa using recorded)
      rw [printed]
      exact errorTypeOf_congr (fun keyword member => mentions_dialled member refusal) _
  · cases failure
  · rename_i label _ _ server exchange stage
    have broke : ∀ text, effects = (failed call text).1 → label.errorText = some text →
        type = errorTypeOf call.activity error := by
      rintro text rfl named
      obtain rfl := Option.some.inj (named.symm.trans failure)
      exact record_of_failed recorded
    cases label with
    | sendFailed text | receiveFailed text | oversized length =>
        simp only [streamStep] at taken
        split at taken
        · obtain ⟨rfl, rfl⟩ := Prod.mk.inj (Option.some.inj taken)
          exact broke _ rfl rfl
        · cases taken
    | connected text | refused text => cases taken
    | _ => cases failure
  · cases failure
  · cases taken

end Records

/-- The classification, by the keywords of a text. -/
theorem errorTypeOf_cases (activity : UserActivity) (text : String) :
    errorTypeOf activity text =
      if mentions text "connection refused" then .connectionFailed
      else if mentions text "timeout" then .networkTimeout
      else if mentions text "broken pipe" || mentions text "reset" then .unexpectedDisconnection
      else if transfers activity && mentions text "too large" then .messageTooLarge
      else if transfers activity then .ioError
      else .other := by
  cases kind : transfers activity with
  | true =>
      rw [errorTypeOf, if_pos kind]
      simp only [Bool.true_and, if_true]
      rfl
  | false =>
      rw [errorTypeOf, if_neg (by simp [kind])]
      simp only [Bool.false_and, Bool.false_eq_true, if_false]
      rfl

/-- The keyword that leads to the type of a cause. -/
theorem mentions_cause (cause : FailureCause) (before after : String) :
    (cause = .refused → mentions (before ++ cause.text ++ after) "connection refused" = true) ∧
    (cause = .reset → mentions (before ++ cause.text ++ after) "reset" = true) ∧
    (cause = .brokenPipe → mentions (before ++ cause.text ++ after) "broken pipe" = true) ∧
    (∀ length, cause = .tooLarge length →
      mentions (before ++ cause.text ++ after) "too large" = true) := by
  refine ⟨?_, ?_, ?_, ?_⟩
  · rintro rfl
    exact mentions_of_part (by decide) _ _
  · rintro rfl
    exact mentions_of_part (by decide) _ _
  · rintro rfl
    exact mentions_of_part (by decide) _ _
  · rintro length rfl
    exact mentions_of_part (mentions_tooLarge length).1 _ _

/-- The type of an error text is the type of the cause it prints exactly if the
rest of the text leads there. -/
theorem errorTypeOf_eq_iff (activity : UserActivity) (cause : FailureCause)
    (before after : String) :
    errorTypeOf activity (before ++ cause.text ++ after) = cause.errorType ↔
      cause.Told activity (before ++ cause.text ++ after) := by
  obtain ⟨refused, reset, pipe, large⟩ := mentions_cause cause before after
  rw [errorTypeOf_cases]
  generalize before ++ cause.text ++ after = text at refused reset pipe large ⊢
  cases cause with
  | refused => simp [FailureCause.Told, FailureCause.errorType, refused rfl]
  | timeout =>
      simp only [FailureCause.Told, FailureCause.errorType]
      grind
  | reset =>
      simp only [FailureCause.Told, FailureCause.errorType, reset rfl, Bool.or_true, if_true]
      grind
  | brokenPipe =>
      simp only [FailureCause.Told, FailureCause.errorType, pipe rfl, Bool.true_or, if_true]
      grind
  | tooLarge length =>
      simp only [FailureCause.Told, FailureCause.errorType, large length rfl, Bool.and_true,
        List.forall_mem_cons]
      grind

/-- The texts that the code itself prints: a read that waits too long is never told,
an oversized message only to a transfer. -/
theorem told_of_printed (activity : UserActivity) (length : Nat) :
    ¬FailureCause.timeout.Told activity FailureCause.timeout.text ∧
      ((FailureCause.tooLarge length).Told activity (FailureCause.tooLarge length).text ↔
        transfers activity = true) := by
  constructor
  · rintro ⟨-, told⟩
    exact absurd told (by decide)
  · exact and_iff_left (mentions_tooLarge length).2

/-- The server of the calls below. -/
def echoServer : SocketAddr := ⟨"127.0.0.1:8080"⟩

def echoPool : ServerPool := .new [echoServer] (.asGiven _ (by decide)) {}

/-- A download in its wait for the first chunk. -/
def waitingDownload : TcpCall :=
  { activity := .fileDownload 1000 (100, 200), connectionId := ⟨1⟩,
    stage := .streaming echoServer (.receiveChunk 0 0) }

/-- A page in its wait for the first response. -/
def waitingPage : TcpCall :=
  { activity := .webBrowsing 1 (1, 2), connectionId := ⟨1⟩,
    stage := .streaming echoServer (.receiveResponse 1) }

theorem failed_eq (call : TcpCall) (message : String) :
    ∃ details, failed call message =
      ([.recordErrorWithDetail call.connectionId (errorTypeOf call.activity message) message
          details, .endConnection call.connectionId], afterConnection call) := by
  obtain ⟨details, same⟩ := errorRecord_eq call message
  exact ⟨details, by rw [failed, same]⟩

end Npt.Client
