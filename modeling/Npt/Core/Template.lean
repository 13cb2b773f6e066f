import Mathlib.Algebra.BigOperators.Group.List.Basic
import Npt.Core.Markup

/-!
Contract: HTML texts that are made of fixed literals with texts inserted between them.

A literal that leaves the tokenizer in text, and that starts with a character that makes
no markup of a `<` before it, is sealed: no piece of markup crosses its ends. So a page
of sealed literals has their markup alone exactly when the inserted texts open none.

Owns: sealed literals, pages, and that equivalence.

Does not own: any particular page, or the escaping of texts.
-/

namespace Npt.Core.Markup

/-- A text that ends in text: no piece of markup, and no `<`, is open at its end. -/
def closes : Place → List Char → Bool
  | .text, [] => true
  | .lessThan, [] | .within .., [] => false
  | .text, c :: rest => if c = '<' then closes .lessThan rest else closes .text rest
  | .lessThan, c :: rest =>
      if opens c then closes (.within (.entered c) ['<', c]) rest
      else if c = '<' then closes .lessThan rest
      else closes .text rest
  | .within inside piece, c :: rest =>
      match inside.next c with
      | some further => closes (.within further (piece ++ [c])) rest
      | none => closes .text rest

/-- Behind a text that ends in text, the tokenizer starts again. -/
theorem markupFrom_append {place : Place} {text : List Char} (closed : closes place text = true)
    (rest : List Char) : markupFrom place (text ++ rest) = markupFrom place text ++ markup rest := by
  induction text generalizing place with
  | nil =>
      cases place with
      | text => rfl
      | lessThan | within => simp [closes] at closed
  | cons c text inductionHypothesis =>
      cases place with
      | text =>
          rw [closes] at closed
          rw [List.cons_append, markupFrom, markupFrom]
          split at closed
          · rename_i less
            rw [if_pos less, if_pos less, inductionHypothesis closed]
          · rename_i other
            rw [if_neg other, if_neg other, inductionHypothesis closed]
      | lessThan =>
          rw [closes] at closed
          rw [List.cons_append, markupFrom, markupFrom]
          split at closed
          · rename_i opening
            rw [if_pos opening, if_pos opening, inductionHypothesis closed]
          · rename_i shut
            rw [if_neg shut, if_neg shut]
            split at closed
            · rename_i less
              rw [if_pos less, if_pos less, inductionHypothesis closed]
            · rename_i other
              rw [if_neg other, if_neg other, inductionHypothesis closed]
      | within inside piece =>
          rw [closes] at closed
          rw [List.cons_append, markupFrom, markupFrom]
          cases here : inside.next c with
          | some further =>
              simp only [here] at closed ⊢
              exact inductionHypothesis closed
          | none =>
              simp only [here] at closed ⊢
              rw [inductionHypothesis closed, List.cons_append]

theorem openings_append_of_closes {text : List Char} (closed : closes .text text = true)
    (rest : List Char) : openings (text ++ rest) = openings text + openings rest := by
  have pieces := congrArg (fun pieces => (pieces.map openings).sum) (markupFrom_append closed rest)
  simp only [List.map_append, List.sum_append] at pieces
  rwa [sum_openings_markupFrom, sum_openings_markupFrom, sum_openings_markup] at pieces

/-! ## Texts without openings -/

/-- Nothing that makes markup of a `<` before it comes first. -/
def ShutStart (text : List Char) : Prop := ∀ c ∈ text.head?, opens c = false

theorem markupFrom_lessThan {text : List Char} (shut : ShutStart text) :
    markupFrom .lessThan text = markupFrom .text text := by
  cases text with
  | nil => rfl
  | cons c text =>
      have closed : opens c = false := shut c rfl
      rw [markupFrom, markupFrom, closed, if_neg Bool.false_ne_true]

/-- A text that opens nothing is passed over, up to what it makes no markup of. -/
theorem markupFrom_inert_shut {text rest : List Char} (shut : ShutStart rest) :
    (openings text = 0 → markupFrom .text (text ++ rest) = markup rest) ∧
      (openings ('<' :: text) = 0 → markupFrom .lessThan (text ++ rest) = markup rest) := by
  induction text with
  | nil => exact ⟨fun _ => rfl, fun _ => markupFrom_lessThan shut⟩
  | cons c text inductionHypothesis =>
      obtain ⟨fromText, fromLess⟩ := inductionHypothesis
      have here : openings (c :: text) = 0 → markupFrom .text (c :: text ++ rest) = markup rest := by
        intro inert
        rw [List.cons_append, markupFrom]
        by_cases less : c = '<'
        · rw [if_pos less]
          exact fromLess (less ▸ inert)
        · rw [if_neg less]
          exact fromText (openings_cons less text ▸ inert)
      refine ⟨here, fun inert => ?_⟩
      have closed : opens c = false := by
        rw [← Bool.not_eq_true]
        intro opening
        simp [openings, opening] at inert
      rw [openings_lessThan closed] at inert
      have start : ShutStart (c :: text ++ rest) := by simp [ShutStart, closed]
      exact (markupFrom_lessThan start).trans (here inert)

theorem markup_inert_append {text rest : List Char} (inert : Inert text) (shut : ShutStart rest) :
    markup (text ++ rest) = markup rest :=
  (markupFrom_inert_shut shut).1 (openings_eq_zero_iff.mpr inert)

theorem openings_append_shut (text : List Char) {rest : List Char} (shut : ShutStart rest) :
    openings (text ++ rest) = openings text + openings rest := by
  cases rest with
  | nil => simp [openings]
  | cons c rest => exact openings_append text (shut c rfl) rest

/-! ## Pages -/

/-- A literal that no piece of markup crosses the ends of. -/
structure Sealed (literal : List Char) : Prop where
  shut : literal.head?.any (fun c => !opens c) = true
  closed : closes .text literal = true

/-- A literal and the text inserted behind it. -/
structure Part where
  literal : List Char
  text : List Char

def page (parts : List Part) : List Char := parts.flatMap fun part => part.literal ++ part.text

variable {parts : List Part}

theorem Sealed.shutStart_append {literal : List Char} (whole : Sealed literal) (rest : List Char) :
    ShutStart (literal ++ rest) := by
  have shut := whole.shut
  cases literal with
  | nil => simp at shut
  | cons c literal => simpa [ShutStart] using shut

theorem shutStart_page (whole : ∀ part ∈ parts, Sealed part.literal) : ShutStart (page parts) := by
  cases parts with
  | nil => simp [page, ShutStart]
  | cons part parts =>
      rw [page, List.flatMap_cons, List.append_assoc]
      exact (whole part List.mem_cons_self).shutStart_append _

theorem openings_page (whole : ∀ part ∈ parts, Sealed part.literal) :
    openings (page parts) =
      (parts.map fun part => openings part.literal + openings part.text).sum := by
  induction parts with
  | nil => rfl
  | cons part parts inductionHypothesis =>
      rw [List.forall_mem_cons] at whole
      rw [page, List.flatMap_cons, ← page, List.append_assoc,
        openings_append_of_closes whole.1.closed, openings_append_shut _ (shutStart_page whole.2),
        inductionHypothesis whole.2, List.map_cons, List.sum_cons, Nat.add_assoc]

/-- A page has the markup of its literals alone exactly when its texts open none. -/
theorem markup_page_iff (whole : ∀ part ∈ parts, Sealed part.literal) :
    markup (page parts) = parts.flatMap (fun part => markup part.literal) ↔
      ∀ part ∈ parts, Inert part.text := by
  constructor
  · intro same
    have counted := sum_openings_markup (page parts)
    rw [same, openings_page whole] at counted
    have literals : ((parts.flatMap fun part => markup part.literal).map openings).sum =
        (parts.map fun part => openings part.literal).sum := by
      clear same counted whole
      induction parts with
      | nil => rfl
      | cons part parts inductionHypothesis =>
          rw [List.flatMap_cons, List.map_append, List.sum_append, inductionHypothesis,
            sum_openings_markup, List.map_cons, List.sum_cons]
    rw [literals, List.sum_map_add] at counted
    have none : (parts.map fun part => openings part.text).sum = 0 := by omega
    intro part member
    have zero := List.sum_eq_zero_iff_forall_eq_nat.mp none _ (List.mem_map_of_mem member)
    exact openings_eq_zero_iff.mp zero
  · intro inert
    induction parts with
    | nil => rfl
    | cons part parts inductionHypothesis =>
        rw [List.forall_mem_cons] at whole inert
        have rest := inductionHypothesis whole.2 inert.2
        rw [page, List.flatMap_cons, ← page, List.append_assoc, markup,
          markupFrom_append whole.1.closed,
          markup_inert_append inert.1 (shutStart_page whole.2), rest, List.flatMap_cons]
        rfl

end Npt.Core.Markup
