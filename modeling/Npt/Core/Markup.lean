import Mathlib.Algebra.GroupWithZero.Nat
import Mathlib.Data.List.Infix

/-!
Contract: the markup in an HTML text, as a tokenizer takes it off.

A `<` opens markup when a letter, `/`, `!` or `?` follows; any other `<` is text. What
is opened reaches up to a `>`, which does not close it inside a quoted attribute value
or a comment. Every opening of a text lies in one of its pieces of markup, so pieces
that hold one opening each are as many as the openings of the text.

Owns: the pieces of markup of a text, its openings, and texts without any.

Does not own: character references, which stand for text, or the elements that a tree
builder lets hold raw text.
-/

namespace Npt.Core.Markup

/-- The characters that make markup of a `<` before them. -/
def opens (c : Char) : Bool := c.isAlpha || c = '/' || c = '!' || c = '?'

def space (c : Char) : Bool := c = ' ' || c = '\t' || c = '\n' || c = '\r' || c = '\x0c'

/-- Where in a piece of markup the tokenizer is. -/
inductive Inside where
  | solidus
  | tagName
  | beforeName
  | attributeName
  | afterName
  | beforeValue
  | doubleQuoted
  | singleQuoted
  | unquoted
  | afterValue
  | selfClosing
  | declaration
  | declarationDash
  | commentStart
  | commentStartDash
  | comment
  | commentDash
  | commentEnd
  | commentEndBang
  | bogus
deriving DecidableEq, Repr

namespace Inside

/-- Where the character behind `<` leads. -/
def entered (c : Char) : Inside :=
  if c = '/' then solidus else if c = '!' then declaration else if c = '?' then bogus else tagName

/-- Where a character leads; `none` when it closes the piece. -/
def next : Inside → Char → Option Inside
  | solidus, c => if c = '>' then none else if c.isAlpha then some tagName else some bogus
  | tagName, c =>
      if c = '>' then none else if space c then some beforeName
      else if c = '/' then some selfClosing else some tagName
  | beforeName, c | selfClosing, c | afterValue, c =>
      if c = '>' then none else if space c then some beforeName
      else if c = '/' then some selfClosing else some attributeName
  | attributeName, c =>
      if c = '>' then none else if space c then some afterName
      else if c = '/' then some selfClosing else if c = '=' then some beforeValue
      else some attributeName
  | afterName, c =>
      if c = '>' then none else if space c then some afterName
      else if c = '/' then some selfClosing else if c = '=' then some beforeValue
      else some attributeName
  | beforeValue, c =>
      if c = '>' then none else if space c then some beforeValue
      else if c = '"' then some doubleQuoted else if c = '\'' then some singleQuoted
      else some unquoted
  | doubleQuoted, c => if c = '"' then some afterValue else some doubleQuoted
  | singleQuoted, c => if c = '\'' then some afterValue else some singleQuoted
  | unquoted, c => if c = '>' then none else if space c then some beforeName else some unquoted
  | declaration, c => if c = '>' then none else if c = '-' then some declarationDash else some bogus
  | declarationDash, c => if c = '>' then none else if c = '-' then some commentStart else some bogus
  | commentStart, c => if c = '>' then none else if c = '-' then some commentStartDash else some comment
  | commentStartDash, c => if c = '>' then none else if c = '-' then some commentEnd else some comment
  | comment, c => if c = '-' then some commentDash else some comment
  | commentDash, c => if c = '-' then some commentEnd else some comment
  | commentEnd, c =>
      if c = '>' then none else if c = '!' then some commentEndBang
      else if c = '-' then some commentEnd else some comment
  | commentEndBang, c => if c = '>' then none else if c = '-' then some commentDash else some comment
  | bogus, c => if c = '>' then none else some bogus

/-- Only `>` closes a piece. -/
theorem eq_of_next_eq_none {inside : Inside} {c : Char} (closes : inside.next c = none) :
    c = '>' := by
  cases inside <;> simp only [next] at closes <;> split_ifs at closes <;> assumption

end Inside

inductive Place where
  | text
  | lessThan
  | within (inside : Inside) (piece : List Char)

/-- The pieces of markup, given where the tokenizer is; what the end cuts off is one. -/
def markupFrom : Place → List Char → List (List Char)
  | .text, [] | .lessThan, [] => []
  | .within _ piece, [] => [piece]
  | .text, c :: rest => if c = '<' then markupFrom .lessThan rest else markupFrom .text rest
  | .lessThan, c :: rest =>
      if opens c then markupFrom (.within (.entered c) ['<', c]) rest
      else if c = '<' then markupFrom .lessThan rest
      else markupFrom .text rest
  | .within inside piece, c :: rest =>
      match inside.next c with
      | some further => markupFrom (.within further (piece ++ [c])) rest
      | none => (piece ++ [c]) :: markupFrom .text rest

def markup (text : List Char) : List (List Char) := markupFrom .text text

/-! ## Openings -/

/-- How many `<` of a text open markup. -/
def openings : List Char → Nat
  | c :: d :: rest =>
      if c = '<' ∧ opens d then openings (d :: rest) + 1 else openings (d :: rest)
  | _ => 0

/-- A text that opens no markup. -/
def Inert (text : List Char) : Prop := ∀ c, opens c = true → ¬['<', c] <:+: text

theorem openings_cons {c : Char} (different : c ≠ '<') (rest : List Char) :
    openings (c :: rest) = openings rest := by
  cases rest with
  | nil => rfl
  | cons d rest => rw [openings, if_neg (fun both => different both.1)]

theorem openings_lessThan {d : Char} (shut : opens d = false) (rest : List Char) :
    openings ('<' :: d :: rest) = openings (d :: rest) := by
  rw [openings, if_neg (by simp [shut])]

/-- No opening spans the end of a part that does not end in `<`, nor the start of one
that starts with `<`. -/
theorem openings_append (before : List Char) {c : Char} (shut : opens c = false)
    (rest : List Char) : openings (before ++ c :: rest) = openings before + openings (c :: rest) := by
  induction before with
  | nil => simp [openings]
  | cons b before inductionHypothesis =>
      cases before with
      | nil =>
          rw [List.singleton_append, openings, if_neg (by simp [shut])]
          simp [openings]
      | cons d before =>
          rw [List.cons_append] at inductionHypothesis
          rw [List.cons_append, List.cons_append, openings, openings, inductionHypothesis]
          split_ifs <;> omega

theorem openings_append_close (before rest : List Char) :
    openings (before ++ '>' :: rest) = openings (before ++ ['>']) + openings rest := by
  rw [openings_append before (by decide), openings_append before (by decide),
    openings_cons (by decide), openings_cons (by decide)]
  rfl

theorem openings_eq_zero_iff {text : List Char} : openings text = 0 ↔ Inert text := by
  induction text with
  | nil => simp [openings, Inert]
  | cons c text inductionHypothesis =>
      have part : Inert (c :: text) ↔ (∀ d, opens d = true → ¬['<', d] <+: c :: text) ∧ Inert text := by
        simp only [Inert, List.infix_cons_iff, not_or, imp_and, forall_and]
      rw [part, ← inductionHypothesis]
      cases text with
      | nil => simp [openings]
      | cons d text =>
          simp only [openings, List.cons_prefix_cons, List.nil_prefix, and_true]
          by_cases opening : c = '<' ∧ opens d = true
          · rw [if_pos opening]
            exact iff_of_false (Nat.succ_ne_zero _)
              (fun both => both.1 d opening.2 ⟨opening.1.symm, rfl⟩)
          · rw [if_neg opening]
            simp only [iff_and_self]
            rintro - e opensE ⟨rfl, rfl⟩
            exact opening ⟨rfl, opensE⟩

/-! ## Pieces -/

/-- The text of which the tokenizer has not yet decided what it is. -/
def Place.pending : Place → List Char
  | .text => []
  | .lessThan => ['<']
  | .within _ piece => piece

/-- Every opening lies in a piece. -/
theorem sum_openings_markupFrom (place : Place) (text : List Char) :
    ((markupFrom place text).map openings).sum = openings (place.pending ++ text) := by
  induction text generalizing place with
  | nil => cases place <;> simp [markupFrom, Place.pending, openings]
  | cons c text inductionHypothesis =>
      cases place with
      | text =>
          rw [markupFrom, Place.pending, List.nil_append]
          by_cases less : c = '<'
          · rw [if_pos less, inductionHypothesis, less]
            rfl
          · rw [if_neg less, inductionHypothesis, openings_cons less]
            rfl
      | lessThan =>
          rw [markupFrom, Place.pending, List.singleton_append]
          cases opening : opens c with
          | true =>
              rw [if_pos rfl, inductionHypothesis]
              rfl
          | false =>
              rw [if_neg Bool.false_ne_true, openings_lessThan opening]
              by_cases less : c = '<'
              · rw [if_pos less, inductionHypothesis, less]
                rfl
              · rw [if_neg less, inductionHypothesis, openings_cons less]
                rfl
      | within inside piece =>
          rw [markupFrom, Place.pending]
          cases here : inside.next c with
          | some further =>
              rw [inductionHypothesis, Place.pending, List.append_assoc, List.singleton_append]
          | none =>
              obtain rfl := Inside.eq_of_next_eq_none here
              rw [List.map_cons, List.sum_cons, inductionHypothesis, openings_append_close piece text]
              rfl

theorem sum_openings_markup (text : List Char) :
    ((markup text).map openings).sum = openings text :=
  sum_openings_markupFrom .text text

/-- Up to the next `<`, text that opens nothing is passed over. -/
theorem markupFrom_inert {text : List Char} (rest : List Char) :
    (openings text = 0 → markupFrom .text (text ++ '<' :: rest) = markupFrom .lessThan rest) ∧
      (openings ('<' :: text) = 0 →
        markupFrom .lessThan (text ++ '<' :: rest) = markupFrom .lessThan rest) := by
  induction text with
  | nil => exact ⟨fun _ => rfl, fun _ => rfl⟩
  | cons c text inductionHypothesis =>
      obtain ⟨fromText, fromLess⟩ := inductionHypothesis
      have here : openings (c :: text) = 0 →
          (if c = '<' then markupFrom .lessThan (text ++ '<' :: rest)
            else markupFrom .text (text ++ '<' :: rest)) = markupFrom .lessThan rest := by
        intro inert
        by_cases less : c = '<'
        · rw [if_pos less]
          exact fromLess (less ▸ inert)
        · rw [if_neg less]
          exact fromText (openings_cons less text ▸ inert)
      refine ⟨here, fun inert => ?_⟩
      cases opening : opens c with
      | true => simp [openings, opening] at inert
      | false =>
          rw [openings_lessThan opening] at inert
          rw [List.cons_append, markupFrom, opening, if_neg Bool.false_ne_true]
          exact here inert

theorem markup_append_lessThan {text : List Char} (inert : Inert text) (rest : List Char) :
    markup (text ++ '<' :: rest) = markup ('<' :: rest) :=
  (markupFrom_inert rest).1 (openings_eq_zero_iff.mpr inert)

end Npt.Core.Markup
