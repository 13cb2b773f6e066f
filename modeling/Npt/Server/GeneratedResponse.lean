import Npt.Core.Utf8
import Npt.Shared.Text
import Npt.Server.QuicServer

/-!
Contract: the response of the QUIC server (`server/src/quic_server.rs`).

`generate_response` looks for the patterns of its table in the first line of the
request, in the order of the table, whatever is the extension of the path. It
fills a response of the listed size with a header and a random end.

Owns: the bytes of a response, that no slice or index is out of range, and when
the size is the one listed for the extension.

Does not own: what the client accepts.
-/

namespace Npt.Server

open Npt.Core
open Npt.Shared

/-! ## Slices -/

/-- `target[..count].copy_from_slice(&source[..count])`, a panic where `count` is
out of range. -/
def copyFromSlice (target source : List UInt8) (count : Nat) : Option (List UInt8) :=
  if count ≤ target.length ∧ count ≤ source.length then
    some (source.take count ++ target.drop count)
  else none

/-- `response[i] = byte`, a panic where `i` is out of range. -/
def setByte (response : List UInt8) (i : Nat) (byte : UInt8) : Option (List UInt8) :=
  if i < response.length then some (response.set i byte) else none

/-- The first line of a request, or the path of an empty one. -/
def requestPath (request : List UInt8) : List UInt8 :=
  if request = [] then utf8 "/default" else firstLine request

/-- `generate_response` on the bytes of a request, with the bytes it draws. -/
def generateResponse (request : List UInt8) (random : Nat → UInt8) : Option (List UInt8) :=
  let response := List.replicate (responseSize request) 0
  let header := utf8 "RESP:" ++ requestPath request ++ utf8 "\n"
  let copyLen := min header.length response.length
  (copyFromSlice response header copyLen).bind (fun response =>
    if 16 < response.length then
      let endStart := response.length - 16
      (List.range' endStart (response.length - endStart)).foldlM
        (fun response i => setByte response i (random i)) response
    else some response)

section Slices

variable {target source response : List UInt8} {count start : Nat}

theorem copyFromSlice_of_le (inTarget : count ≤ target.length) (inSource : count ≤ source.length) :
    copyFromSlice target source count = some (source.take count ++ target.drop count) :=
  if_pos ⟨inTarget, inSource⟩

/-- The loop over a range of indices writes that range. -/
theorem setByte_range (random : Nat → UInt8) (inside : start + count ≤ response.length) :
    (List.range' start count).foldlM (fun response i => setByte response i (random i)) response =
      some (response.take start ++ (List.range' start count).map random ++
        response.drop (start + count)) := by
  induction count generalizing start response with
  | zero => simp
  | succ count inductionHypothesis =>
      have here : start < response.length := by omega
      rw [List.range'_succ, List.foldlM_cons, setByte, if_pos here, Option.bind_eq_bind,
        Option.bind_some, inductionHypothesis (by rw [List.length_set]; omega)]
      have taken : (response.set start (random start)).take (start + 1) =
          response.take start ++ [random start] := by
        have width : (response.take start).length = start := by
          rw [List.length_take, Nat.min_eq_left (Nat.le_of_lt here)]
        rw [List.take_set, List.take_succ_eq_append_getElem here,
          List.set_append_right _ _ (Nat.le_of_eq width), width, Nat.sub_self]
        rfl
      rw [taken, List.drop_set_of_lt (by omega), List.map_cons]
      simp [Nat.add_assoc, Nat.add_comm 1 count]

end Slices

theorem lt_responseSize (request : List UInt8) : 16 < responseSize request := by
  unfold responseSize
  dsimp only
  repeat' split
  all_goals decide

/-- A response is its header, cut or filled up with zeros before its random end. -/
theorem generateResponse_eq (request : List UInt8) (random : Nat → UInt8) :
    generateResponse request random =
      some ((utf8 "RESP:" ++ requestPath request ++ utf8 "\n" ++
          List.replicate (responseSize request) 0).take (responseSize request - 16) ++
        (List.range' (responseSize request - 16) 16).map random) := by
  have large := lt_responseSize request
  unfold generateResponse
  generalize responseSize request = size at large ⊢
  generalize utf8 "RESP:" ++ requestPath request ++ utf8 "\n" = header
  dsimp only
  rw [List.length_replicate, copyFromSlice_of_le
    (by rw [List.length_replicate]; exact Nat.min_le_right _ _) (Nat.min_le_left _ _),
    Option.bind_some]
  -- What is copied and what is left are the start of the header followed by zeros.
  have copied : header.take (min header.length size) ++
      (List.replicate size (0 : UInt8)).drop (min header.length size) =
        (header ++ List.replicate size 0).take size := by
    rw [List.take_append, List.drop_replicate, List.take_replicate]
    congr 1
    · rcases Nat.le_total header.length size with short | long
      · rw [Nat.min_eq_left short, List.take_length, List.take_of_length_le short]
      · rw [Nat.min_eq_right long]
    · congr 1
      omega
  have width : ((header ++ List.replicate size (0 : UInt8)).take size).length = size := by
    simp
  rw [copied, width, if_pos large, setByte_range random (by omega)]
  have last : size - (size - 16) = 16 := by omega
  rw [last, List.take_take, Nat.min_eq_left (Nat.sub_le size 16),
    List.drop_of_length_le (by omega), List.append_nil]

theorem generateResponse_length (request : List UInt8) (random : Nat → UInt8) :
    ∃ response, generateResponse request random = some response ∧
      response.length = responseSize request := by
  have large := lt_responseSize request
  refine ⟨_, generateResponse_eq request random, ?_⟩
  simp only [List.length_append, List.length_take, List.length_replicate, List.length_map,
    List.length_range']
  omega

/-! ## The table and the extension -/

theorem pathContains_utf8 {pattern : String} (ascii : ∀ c ∈ pattern.toList, c.toNat < 0x80)
    (text : String) : pathContains (utf8 text) pattern = contains text pattern :=
  decide_eq_decide.mpr (Utf8.infix_utf8_iff ascii text)

/-- The extensions in the table of `generate_response`. -/
inductive Extension where
  | html
  | css
  | js
  | png
  | jpg
  | json
deriving DecidableEq, Repr

namespace Extension

def text : Extension → String
  | .html => "html"
  | .css => "css"
  | .js => "js"
  | .png => "png"
  | .jpg => "jpg"
  | .json => "json"

def pattern : Extension → String
  | .html => ".html"
  | .css => ".css"
  | .js => ".js"
  | .png => ".png"
  | .jpg => ".jpg"
  | .json => ".json"

/-- The size the table lists. -/
def responseSize : Extension → Nat
  | .html => 1024
  | .css => 512
  | .js => 512
  | .png => 2048
  | .jpg => 2048
  | .json => 256

/-- The extensions that the table has before this one with another size. -/
def earlier : Extension → List Extension
  | .html => []
  | .css => [.html]
  | .js => [.html]
  | .png => [.html, .css, .js]
  | .jpg => [.html, .css, .js]
  | .json => [.html, .css, .js, .png, .jpg]

end Extension

/-- Among the extensions only `js` begins another one. -/
theorem prefix_text_iff (own other : Extension) :
    other.text.toList <+: own.text.toList ↔ other = own ∨ other = .js ∧ own = .json := by
  cases own <;> cases other <;> decide

/-- A path has the pattern of an extension in front of its own, or in its own. -/
theorem contains_path (stem : String) (own other : Extension) :
    contains (stem ++ "." ++ own.text) other.pattern =
      (contains stem other.pattern || decide (other = own ∨ other = .js ∧ own = .json)) := by
  have path : (stem ++ "." ++ own.text).toList = stem.toList ++ '.' :: own.text.toList := by
    simp
  have dotted : other.pattern.toList = '.' :: other.text.toList := by
    cases other <;> decide
  have undotted : ∀ extension : Extension, '.' ∉ extension.text.toList := by
    intro extension
    cases extension <;> decide
  rw [Bool.eq_iff_iff, Bool.or_eq_true, decide_eq_true_iff, contains_iff, contains_iff, path,
    dotted, Substring.infix_append_mark_iff (undotted other) (undotted own), prefix_text_iff]

/-- The table on a text, for a line in which the same patterns lie. -/
theorem responseSize_of_line {request : List UInt8} {path : String} (nonempty : request ≠ [])
    (line : ∀ pattern : String, (∀ c ∈ pattern.toList, c.toNat < 0x80 ∧ c ≠ '\r') →
      pathContains (firstLine request) pattern = contains path pattern) :
    responseSize request =
      if contains path ".html" then 1024
      else if contains path ".css" then 512
      else if contains path ".js" then 512
      else if contains path ".png" || contains path ".jpg" then 2048
      else if contains path ".json" then 256
      else 512 := by
  have plain : [".html", ".css", ".js", ".png", ".jpg", ".json"].all (fun pattern =>
      pattern.toList.all fun c => c.toNat < 0x80 ∧ c ≠ '\r') = true := by decide +kernel
  simp only [List.all_eq_true, decide_eq_true_eq] at plain
  simp only [responseSize, nonempty, ↓reduceIte]
  rw [line _ (plain _ (by simp)), line _ (plain _ (by simp)), line _ (plain _ (by simp)),
    line _ (plain _ (by simp)), line _ (plain _ (by simp)), line _ (plain _ (by simp))]

/-- The table gives a path the size of its extension when nothing in front of the
extension comes earlier in the table, and never when the extension is `json`. -/
theorem responseSize_eq_iff {request : List UInt8} {stem : String} {extension : Extension}
    (line : firstLine request = utf8 (stem ++ "." ++ extension.text)) :
    responseSize request = extension.responseSize ↔
      extension ≠ .json ∧ ∀ other ∈ extension.earlier, contains stem other.pattern = false := by
  have nonempty : request ≠ [] := by
    rintro rfl
    have dot : UInt8.ofNat '.'.toNat ∈ utf8 (stem ++ "." ++ extension.text) :=
      (Utf8.mem_utf8_iff (by decide) _).mpr (by simp)
    rw [← line] at dot
    simp [firstLine] at dot
  have found := contains_path stem extension
  have searched : ∀ pattern : String, (∀ c ∈ pattern.toList, c.toNat < 0x80 ∧ c ≠ '\r') →
      pathContains (firstLine request) pattern =
        contains (stem ++ "." ++ extension.text) pattern := by
    intro pattern plain
    rw [line]
    exact pathContains_utf8 (fun c member => (plain c member).1) _
  rw [responseSize_of_line nonempty searched, show contains _ ".html" = _ from found .html,
    show contains _ ".css" = _ from found .css, show contains _ ".js" = _ from found .js,
    show contains _ ".png" = _ from found .png, show contains _ ".jpg" = _ from found .jpg,
    show contains _ ".json" = _ from found .json]
  cases extension <;> simp [Extension.earlier, Extension.responseSize] <;> grind

/-- The response has the size listed for the extension exactly when the extension
is not `json` and no earlier pattern of another size lies in front of it. -/
theorem generated_size_iff (request : List UInt8) (stem : String) (extension : Extension)
    (random : Nat → UInt8)
    (line : firstLine request = utf8 (stem ++ "." ++ extension.text)) :
    (∃ response, generateResponse request random = some response ∧
        response.length = extension.responseSize) ↔
      extension ≠ .json ∧ ∀ other ∈ extension.earlier, contains stem other.pattern = false := by
  obtain ⟨response, generated, length⟩ := generateResponse_length request random
  rw [← responseSize_eq_iff line, generated, ← length]
  constructor
  · rintro ⟨found, same, sized⟩
    rw [Option.some.inj same]
    exact sized
  · intro sized
    exact ⟨response, rfl, sized⟩

/-- A request of the client for one of its scripts, under one session. -/
def scriptRequest : List UInt8 :=
  utf8 "/js/script_1.js\n67e55044-10b1-426f-9247-bb680e5fe0c8"

theorem generated_size_iff_script :
    ∃ response, generateResponse scriptRequest (fun _ => 7) = some response ∧
      response.length = 512 :=
  (generated_size_iff scriptRequest "/js/script_1" .js (fun _ => 7) (by decide +kernel)).mpr
    ⟨by decide, by decide +kernel⟩

/-- The data the client requests has the pattern of a script in its extension. -/
theorem generated_data_oversized :
    ¬∀ (request : List UInt8) (stem : String) (extension : Extension) (random : Nat → UInt8),
      firstLine request = utf8 (stem ++ "." ++ extension.text) →
      ∃ response, generateResponse request random = some response ∧
        response.length = extension.responseSize := by
  intro sizes
  let request := utf8 "/data/data_3.json\n67e55044-10b1-426f-9247-bb680e5fe0c8"
  obtain ⟨response, generated, length⟩ :=
    sizes request "/data/data_3" .json (fun _ => 7) (by decide +kernel)
  obtain ⟨same, again, actual⟩ := generateResponse_length request (fun _ => 7)
  obtain rfl := Option.some.inj (generated.symm.trans again)
  have listed : responseSize request = 512 := by decide +kernel
  simp [← actual, length, Extension.responseSize] at listed

end Npt.Server
