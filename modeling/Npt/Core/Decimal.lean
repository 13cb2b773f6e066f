import Npt.Core.PrefixCode

/-!
Contract: decimal texts of integers inside longer texts.

Owns: which characters such a text has, that it is the text of one integer, and
that it can be told from what follows it after a hyphen.

Does not own: reading a number.
-/

namespace Npt.Core

theorem eq_of_toDigits {left right : Nat} (same : Nat.toDigits 10 left = Nat.toDigits 10 right) :
    left = right := by
  rw [← @Nat.ofDigitChars_ten_toDigits left, same, Nat.ofDigitChars_ten_toDigits]

theorem notMem_toDigits {c : Char} (other : c.isDigit = false) (number : Nat) :
    c ∉ Nat.toDigits 10 number := by
  intro printed
  have digit := Nat.isDigit_of_mem_toDigits (by decide) (by decide) printed
  rw [other] at digit
  cases digit

/-- The text of an integer. -/
theorem toList_toString (number : Int) :
    (toString number).toList =
      if 0 ≤ number then Nat.toDigits 10 number.toNat
      else '-' :: Nat.toDigits 10 number.natAbs := by
  cases number with
  | ofNat magnitude => exact Nat.toList_repr
  | negSucc magnitude =>
      rw [if_neg (by omega)]
      exact (String.toList_append).trans (congrArg _ Nat.toList_repr)

theorem notMem_toString {c : Char} (other : c.isDigit = false) (noSign : c ≠ '-') (number : Int) :
    c ∉ (toString number).toList := by
  rw [toList_toString]
  split
  · exact notMem_toDigits other _
  · rw [List.mem_cons, not_or]
    exact ⟨noSign, notMem_toDigits other _⟩

/-- An integer's text ends at the hyphen after it. -/
theorem eq_of_toString_append_hyphen {left right : Int} {leftRest rightRest : List Char}
    (same : (toString left).toList ++ '-' :: leftRest =
      (toString right).toList ++ '-' :: rightRest) :
    left = right ∧ leftRest = rightRest := by
  have unsigned (number : Nat) : '-' ∉ Nat.toDigits 10 number := notMem_toDigits (by decide) number
  have first (number : Nat) (rest other : List Char) :
      Nat.toDigits 10 number ++ '-' :: rest ≠ '-' :: other := by
    intro signed
    cases digits : Nat.toDigits 10 number with
    | nil => exact absurd digits Nat.toDigits_ne_nil
    | cons digit digits' =>
        rw [digits, List.cons_append] at signed
        refine unsigned number ?_
        rw [digits, (List.cons.inj signed).1]
        exact List.mem_cons_self
  rw [toList_toString, toList_toString] at same
  split at same
  · split at same
    · rename_i leftSign rightSign
      obtain ⟨digits, rests⟩ := eq_of_append_mark (unsigned _) (unsigned _) same
      have magnitudes := eq_of_toDigits digits
      exact ⟨by omega, rests⟩
    · exact absurd same (first _ _ _)
  · split at same
    · exact absurd same.symm (first _ _ _)
    · rename_i leftSign rightSign
      obtain ⟨digits, rests⟩ := eq_of_append_mark (unsigned _) (unsigned _) (List.cons.inj same).2
      have magnitudes := eq_of_toDigits digits
      exact ⟨by omega, rests⟩

end Npt.Core
