import Mathlib.Data.List.Basic

/-!
Contract: texts that are spelled in the words of a prefix code.

No word of a prefix code begins another, so a text can be split into words in
one way only, from the left. Whoever takes words off the front until none fits
has therefore taken the longest spelled prefix there is.

Owns: prefix codes, spelled texts, the maximality of a blocked remainder, and the
words that a mark ends.

Does not own: any particular code, or how a word is recognised.
-/

namespace Npt.Core

universe u

variable {Symbol : Type u}

/-- No word begins another. -/
def PrefixCode (words : Set (List Symbol)) : Prop :=
  ∀ left ∈ words, ∀ right ∈ words, left <+: right → left = right

/-- A concatenation of words. -/
inductive Spelled (words : Set (List Symbol)) : List Symbol → Prop where
  | nil : Spelled words []
  | cons {word rest : List Symbol} (member : word ∈ words) (spelled : Spelled words rest) :
      Spelled words (word ++ rest)

/-- No word begins the text. -/
def Blocked (words : Set (List Symbol)) (text : List Symbol) : Prop :=
  ∀ word ∈ words, ¬word <+: text

variable {words : Set (List Symbol)} {text rest other : List Symbol}

theorem Spelled.append (before : Spelled words text) (after : Spelled words rest) :
    Spelled words (text ++ rest) := by
  induction before with
  | nil => exact after
  | cons member _ inductionHypothesis =>
      rw [List.append_assoc]
      exact .cons member inductionHypothesis

theorem Spelled.snoc {word : List Symbol} (before : Spelled words text) (member : word ∈ words) :
    Spelled words (text ++ word) := by
  have single : Spelled words (word ++ []) := .cons member .nil
  rw [List.append_nil] at single
  exact before.append single

/-- Two words at the front of one text are the same word. -/
theorem PrefixCode.eq_of_prefix (code : PrefixCode words) {left right : List Symbol}
    (leftWord : left ∈ words) (rightWord : right ∈ words) (leftFront : left <+: text)
    (rightFront : right <+: text) : left = right := by
  rcases List.prefix_or_prefix_of_prefix leftFront rightFront with shorter | shorter
  · exact code left leftWord right rightWord shorter
  · exact (code right rightWord left leftWord shorter).symm

/-- What follows a word of a spelled text is spelled. -/
theorem PrefixCode.spelled_rest (code : PrefixCode words) {word : List Symbol}
    (member : word ∈ words) (spelled : Spelled words (word ++ rest)) : Spelled words rest := by
  generalize whole : word ++ rest = text at spelled
  cases spelled with
  | nil =>
      rw [(List.append_eq_nil_iff.mp whole).2]
      exact .nil
  | @cons first remaining firstMember remainingSpelled =>
      obtain rfl : word = first :=
        code.eq_of_prefix member firstMember ⟨rest, whole⟩ (List.prefix_append first remaining)
      rwa [List.append_cancel_left whole]

/-- What follows a spelled front of a spelled text is spelled. -/
theorem PrefixCode.spelled_of_append (code : PrefixCode words) (front : Spelled words text)
    (whole : Spelled words (text ++ rest)) : Spelled words rest := by
  induction front with
  | nil => exact whole
  | cons member _ inductionHypothesis =>
      rw [List.append_assoc] at whole
      exact inductionHypothesis (code.spelled_rest member whole)

/-- A text is spelled when nothing is left of it where no word begins. -/
theorem PrefixCode.spelled_append_iff (code : PrefixCode words) (front : Spelled words text)
    (blocked : Blocked words rest) : Spelled words (text ++ rest) ↔ rest = [] := by
  constructor
  · intro whole
    cases code.spelled_of_append front whole with
    | nil => rfl
    | @cons word tail member _ => exact absurd (List.prefix_append word tail) (blocked word member)
  · rintro rfl
    rwa [List.append_nil]

/-- What is spelled before a blocked remainder is the longest spelled prefix. -/
theorem PrefixCode.prefix_of_blocked (code : PrefixCode words) (spelled : Spelled words text)
    (blocked : Blocked words rest) (otherSpelled : Spelled words other)
    (front : other <+: text ++ rest) : other <+: text := by
  induction otherSpelled generalizing text with
  | nil => exact List.nil_prefix
  | @cons word tail member _ inductionHypothesis =>
      have wordFront : word <+: text ++ rest := (List.prefix_append word tail).trans front
      cases spelled with
      | nil => exact absurd wordFront (blocked word member)
      | @cons first remaining firstMember remainingSpelled =>
          have firstFront : first <+: first ++ remaining ++ rest := by
            rw [List.append_assoc]
            exact List.prefix_append first _
          obtain rfl := code.eq_of_prefix member firstMember wordFront firstFront
          rw [List.append_assoc, List.prefix_append_right_inj] at front
          rw [List.prefix_append_right_inj]
          exact inductionHypothesis remainingSpelled front

/-- Texts spelled in the same words in the same order are equal, and conversely. -/
theorem PrefixCode.flatten_injective (code : PrefixCode words) (nonempty : [] ∉ words)
    {lefts rights : List (List Symbol)} (leftWords : ∀ word ∈ lefts, word ∈ words)
    (rightWords : ∀ word ∈ rights, word ∈ words) (same : lefts.flatten = rights.flatten) :
    lefts = rights := by
  induction lefts generalizing rights with
  | nil =>
      cases rights with
      | nil => rfl
      | cons right rights =>
          have empty := (List.append_eq_nil_iff.mp same.symm).1
          exact absurd (empty ▸ rightWords right (by simp)) nonempty
  | cons left lefts inductionHypothesis =>
      cases rights with
      | nil =>
          have empty := (List.append_eq_nil_iff.mp same).1
          exact absurd (empty ▸ leftWords left (by simp)) nonempty
      | cons right rights =>
          simp only [List.flatten_cons] at same
          obtain rfl : left = right :=
            code.eq_of_prefix (leftWords left (by simp)) (rightWords right (by simp))
              ⟨lefts.flatten, same⟩ (List.prefix_append right rights.flatten)
          rw [inductionHypothesis (fun word member => leftWords word (by simp [member]))
            (fun word member => rightWords word (by simp [member])) (List.append_cancel_left same)]

/-- The words that a mark ends, and that do not hold it before. -/
def markedWords (mark : Symbol) : Set (List Symbol) :=
  {word | ∃ inside, word = inside ++ [mark] ∧ mark ∉ inside}

theorem prefixCode_markedWords (mark : Symbol) : PrefixCode (markedWords mark) := by
  rintro _ ⟨left, rfl, leftFree⟩ _ ⟨right, rfl, rightFree⟩ ⟨rest, whole⟩
  have shape : right ++ mark :: [] = left ++ mark :: rest := by simpa using whole.symm
  rw [((List.append_cons_inj_of_notMem rightFree (by simp)).mp shape).1]

/-- A text is split at the first mark in one way. -/
theorem eq_of_append_mark {mark : Symbol} {left right leftRest rightRest : List Symbol}
    (leftFree : mark ∉ left) (rightFree : mark ∉ right)
    (same : left ++ mark :: leftRest = right ++ mark :: rightRest) :
    left = right ∧ leftRest = rightRest := by
  have words : left ++ [mark] = right ++ [mark] :=
    PrefixCode.eq_of_prefix (prefixCode_markedWords mark) ⟨left, rfl, leftFree⟩
      ⟨right, rfl, rightFree⟩ ⟨leftRest, by simpa using same⟩ ⟨rightRest, by simp⟩
  obtain rfl : left = right := List.append_cancel_right words
  exact ⟨rfl, List.cons.inj (List.append_cancel_left same) |>.2⟩

/-- A text is split at the last mark in one way. -/
theorem eq_of_mark_append {mark : Symbol} {left right leftRest rightRest : List Symbol}
    (leftFree : mark ∉ leftRest) (rightFree : mark ∉ rightRest)
    (same : left ++ mark :: leftRest = right ++ mark :: rightRest) :
    left = right ∧ leftRest = rightRest := by
  have mirrored : leftRest.reverse ++ mark :: left.reverse =
      rightRest.reverse ++ mark :: right.reverse := by
    simpa using congrArg List.reverse same
  obtain ⟨rests, fronts⟩ := eq_of_append_mark (by simpa using leftFree)
    (by simpa using rightFree) mirrored
  exact ⟨List.reverse_injective fronts, List.reverse_injective rests⟩

theorem nil_notMem_markedWords (mark : Symbol) : [] ∉ markedWords mark := by
  rintro ⟨inside, empty, _⟩
  simp at empty

end Npt.Core
