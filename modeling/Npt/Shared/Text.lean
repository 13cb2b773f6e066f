import Mathlib.Data.List.Infix

/-!
Contract: the string functions that classify error texts.

Owns: `str::contains` and `str::to_lowercase`, for patterns of ASCII characters.

Does not own: which texts an error has.
-/

namespace Npt.Shared

/-- `str::contains`. -/
def contains (text pattern : String) : Bool := decide (pattern.toList <:+: text.toList)

/-- `char::to_lowercase` as far as ASCII keywords can tell: two other characters
have ASCII letters in their lower case. -/
def lowercaseChar (c : Char) : List Char :=
  if c = Char.ofNat 0x212A then ['k']
  else if c = Char.ofNat 0x130 then ['i', Char.ofNat 0x307]
  else [c.toLower]

def toLowercase (text : String) : String := String.ofList (text.toList.flatMap lowercaseChar)

theorem contains_iff {text pattern : String} :
    contains text pattern = true ↔ pattern.toList <:+: text.toList :=
  decide_eq_true_iff

theorem toList_toLowercase (text : String) :
    (toLowercase text).toList = text.toList.flatMap lowercaseChar :=
  String.toList_ofList

@[simp] theorem toLowercase_append (left right : String) :
    toLowercase (left ++ right) = toLowercase left ++ toLowercase right := by
  simp [toLowercase]

/-- A part of a text brings the patterns it contains. -/
theorem contains_append_of_part {pattern part : String} (found : contains part pattern = true)
    (before after : String) : contains (before ++ part ++ after) pattern = true := by
  rw [contains_iff] at found ⊢
  rw [String.toList_append, String.toList_append]
  exact found.trans (List.infix_append _ _ _)

theorem lowercase_digit {c : Char} (digit : c.isDigit = true) : lowercaseChar c = [c] := by
  have bounds : 48 ≤ c.toNat ∧ c.toNat ≤ 57 := by
    simpa [Char.isDigit, UInt32.le_iff_toNat_le] using digit
  have kelvin : c ≠ Char.ofNat 0x212A := by
    rintro rfl
    exact absurd bounds.2 (by decide)
  have dotted : c ≠ Char.ofNat 0x130 := by
    rintro rfl
    exact absurd bounds.2 (by decide)
  have same : c.toLower = c := by
    have low : ¬65 ≤ c.val := by
      rw [UInt32.le_iff_toNat_le]
      exact fun high => absurd (high.trans bounds.2) (by decide)
    unfold Char.toLower
    rw [dif_neg (fun upper => low upper.1)]
  rw [lowercaseChar, if_neg kelvin, if_neg dotted, same]

/-- A number's text has digits only. -/
theorem not_mem_lowercase_repr (number : Nat) {c : Char} (letter : c.isDigit = false) :
    c ∉ (toLowercase number.repr).toList := by
  rw [toList_toLowercase, Nat.toList_repr]
  intro member
  obtain ⟨digit, printed, same⟩ := List.mem_flatMap.mp member
  have isDigit := Nat.isDigit_of_mem_toDigits (by decide) (by decide) printed
  rw [lowercase_digit isDigit] at same
  obtain rfl := List.mem_singleton.mp same
  rw [isDigit] at letter
  cases letter

end Npt.Shared
