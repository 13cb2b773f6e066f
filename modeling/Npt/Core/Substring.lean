import Mathlib.Data.List.Infix

/-!
Contract: patterns inside texts made of several parts.

Owns: where a pattern can lie in a text around a mark or a part it has nothing in
common with, and in the encoding of a text.

Does not own: what the parts are.
-/

namespace Npt.Core

namespace Substring

variable {α β : Type} {pattern before after : List α} {mark : α}

/-- A pattern cannot lie across a symbol it does not contain. -/
theorem infix_append_cons_iff (unmarked : mark ∉ pattern) :
    pattern <:+: before ++ mark :: after ↔ pattern <:+: before ∨ pattern <:+: after := by
  constructor
  · intro inside
    rcases List.infix_append_iff.mp inside with left | right | ⟨head, tail, split, ends, begins⟩
    · exact Or.inl left
    · rcases List.infix_cons_iff.mp right with begins | later
      · cases pattern with
        | nil => exact Or.inl List.nil_infix
        | cons symbol rest =>
            obtain rfl := (List.cons_prefix_cons.mp begins).1
            exact absurd List.mem_cons_self unmarked
      · exact Or.inr later
    · -- The part after the mark would begin with it.
      cases tail with
      | nil => exact Or.inl (by simpa [split] using ends.isInfix)
      | cons symbol rest =>
          obtain rfl := (List.cons_prefix_cons.mp begins).1
          exact absurd (by simp [split]) unmarked
  · rintro (left | right)
    · exact left.trans (List.prefix_append _ _).isInfix
    · exact right.trans ((List.suffix_cons _ _).trans (List.suffix_append _ _)).isInfix

theorem not_infix_of_mem {symbol : α} (needed : symbol ∈ pattern) (missing : symbol ∉ after) :
    ¬pattern <:+: after :=
  fun inside => missing (inside.subset needed)

/-- A pattern cannot begin before symbols it does not contain. -/
theorem infix_append_iff_of_disjoint (disjoint : ∀ symbol ∈ before, symbol ∉ pattern) :
    pattern <:+: before ++ after ↔ pattern <:+: after := by
  induction before with
  | nil => rfl
  | cons symbol before inductionHypothesis =>
      have rest := inductionHypothesis (fun other member =>
        disjoint other (List.mem_cons_of_mem symbol member))
      rw [List.cons_append, List.infix_cons_iff, rest, or_iff_right_of_imp]
      intro begins
      cases pattern with
      | nil => exact List.nil_infix
      | cons first others =>
          obtain rfl := (List.cons_prefix_cons.mp begins).1
          exact absurd List.mem_cons_self (disjoint first List.mem_cons_self)

/-- A pattern that begins with a mark and holds no other begins at a mark of the
text. -/
theorem infix_append_mark_iff {rest : List α} (unmarked : mark ∉ rest) (last : mark ∉ after) :
    mark :: rest <:+: before ++ mark :: after ↔
      mark :: rest <:+: before ∨ rest <+: after := by
  rw [List.infix_append_iff]
  constructor
  · rintro (left | right | ⟨head, tail, split, ends, begins⟩)
    · exact Or.inl left
    · rcases List.infix_cons_iff.mp right with begins | later
      · exact Or.inr (List.cons_prefix_cons.mp begins).2
      · exact absurd (later.subset List.mem_cons_self) last
    · cases head with
      | nil =>
          rw [List.nil_append] at split
          exact Or.inr (List.cons_prefix_cons.mp (split ▸ begins)).2
      | cons symbol head =>
          obtain ⟨-, rfl⟩ := List.cons.inj split
          cases tail with
          | nil =>
              rw [split, List.append_nil]
              exact Or.inl ends.isInfix
          | cons other tail =>
              obtain rfl := (List.cons_prefix_cons.mp begins).1
              exact absurd (List.mem_append_right head List.mem_cons_self) unmarked
  · rintro (left | begins)
    · exact Or.inl left
    · exact Or.inr (Or.inl (List.cons_prefix_cons.mpr ⟨rfl, begins⟩).isInfix)

section Encoding

variable {encode : α → List β} {code : α → β} {text : List α}

/-- Under an encoding in which the symbols of a pattern are single codes, the
encoded pattern begins an encoded text only where the pattern begins the text. -/
theorem prefix_flatMap_iff (single : ∀ symbol ∈ pattern, encode symbol = [code symbol])
    (apart : ∀ symbol ∈ pattern, ∀ other, code symbol ∈ encode other → other = symbol)
    (nonempty : ∀ symbol, encode symbol ≠ []) :
    pattern.flatMap encode <+: text.flatMap encode ↔ pattern <+: text := by
  induction pattern generalizing text with
  | nil => simp
  | cons symbol rest inductionHypothesis =>
      rw [List.flatMap_cons, single symbol List.mem_cons_self, List.singleton_append]
      cases text with
      | nil => simp
      | cons other text =>
          obtain ⟨byte, bytes, shape⟩ := List.exists_cons_of_ne_nil (nonempty other)
          rw [List.flatMap_cons, shape, List.cons_append, List.cons_prefix_cons,
            List.cons_prefix_cons]
          have onwards := @inductionHypothesis text
            (fun later member => single later (List.mem_cons_of_mem symbol member))
            (fun later member => apart later (List.mem_cons_of_mem symbol member))
          constructor
          · rintro ⟨same, begins⟩
            obtain rfl := apart symbol List.mem_cons_self other (by simp [shape, same])
            obtain ⟨-, rfl⟩ := List.cons.inj (shape.symm.trans (single other List.mem_cons_self))
            exact ⟨rfl, onwards.mp begins⟩
          · rintro ⟨rfl, begins⟩
            obtain ⟨rfl, rfl⟩ := List.cons.inj (shape.symm.trans (single symbol List.mem_cons_self))
            exact ⟨rfl, onwards.mpr begins⟩

/-- Under such an encoding the encoded pattern lies in an encoded text exactly
where the pattern lies in the text. -/
theorem infix_flatMap_iff (single : ∀ symbol ∈ pattern, encode symbol = [code symbol])
    (apart : ∀ symbol ∈ pattern, ∀ other, code symbol ∈ encode other → other = symbol)
    (nonempty : ∀ symbol, encode symbol ≠ []) :
    pattern.flatMap encode <:+: text.flatMap encode ↔ pattern <:+: text := by
  induction text with
  | nil =>
      cases pattern with
      | nil => simp
      | cons symbol rest => simp [nonempty symbol]
  | cons other text inductionHypothesis =>
      rw [List.infix_cons_iff, ← inductionHypothesis,
        ← prefix_flatMap_iff single apart nonempty, List.flatMap_cons]
      by_cases inside : other ∈ pattern
      · rw [single other inside, List.singleton_append, List.infix_cons_iff]
      · -- No byte of this symbol is one of the pattern's.
        have disjoint : ∀ byte ∈ encode other, byte ∉ pattern.flatMap encode := by
          intro byte here there
          obtain ⟨symbol, member, among⟩ := List.mem_flatMap.mp there
          rw [single symbol member, List.mem_singleton] at among
          exact inside (apart symbol member other (among ▸ here) ▸ member)
        rw [infix_append_iff_of_disjoint disjoint, iff_or_self]
        intro begins
        exact (infix_append_iff_of_disjoint disjoint).mp begins.isInfix

end Encoding

end Substring

end Npt.Core
