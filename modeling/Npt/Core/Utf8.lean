import Npt.Core.Substring

/-!
Contract: the UTF-8 bytes of a text.

Owns: the bytes as a list, those of a concatenation, that a pattern of ASCII
characters lies in a text where its bytes lie in the text's, and slices between
two byte positions.

Does not own: decoding, or bytes that are no text.
-/

namespace Npt.Core

/-- The UTF-8 bytes of a text. -/
def utf8 (text : String) : List UInt8 := text.toUTF8.toList

namespace Utf8

theorem toList_loop (bytes : ByteArray) (index : Nat) (taken : List UInt8) :
    ByteArray.toList.loop bytes index taken = taken.reverse ++ bytes.data.toList.drop index := by
  fun_induction ByteArray.toList.loop bytes index taken with
  | case1 index taken inside inductionHypothesis =>
      have here : index < bytes.data.toList.length := by simpa using inside
      have read : bytes.get! index = bytes.data.toList[index] := by
        rw [Array.getElem_toList]
        exact getElem!_pos bytes.data index inside
      rw [inductionHypothesis, List.drop_eq_getElem_cons here, read]
      simp
  | case2 index taken outside =>
      have past : bytes.data.toList.length ≤ index := by simpa using outside
      simp [List.drop_eq_nil_of_le past]

theorem toList_eq (bytes : ByteArray) : bytes.toList = bytes.data.toList := by
  simp [ByteArray.toList, toList_loop]

theorem utf8_eq_flatMap (text : String) :
    utf8 text = text.toList.flatMap String.utf8EncodeChar := by
  rw [utf8, toList_eq, String.toUTF8_eq_toByteArray, ← String.utf8Encode_toList, List.utf8Encode,
    List.toList_data_toByteArray]

@[simp] theorem utf8_append (left right : String) :
    utf8 (left ++ right) = utf8 left ++ utf8 right := by
  simp [utf8_eq_flatMap]

theorem utf8EncodeChar_of_ascii {c : Char} (ascii : c.toNat < 0x80) :
    String.utf8EncodeChar c = [UInt8.ofNat c.toNat] := by
  have small : c.val.toNat ≤ 0x7f := Nat.le_of_lt_succ ascii
  simp only [String.utf8EncodeChar, small, ↓reduceIte]
  rfl

/-- A character beyond ASCII has bytes beyond ASCII only. -/
theorem le_of_mem_utf8EncodeChar {c : Char} (beyond : 0x80 ≤ c.toNat) {byte : UInt8}
    (member : byte ∈ String.utf8EncodeChar c) : 0x80 ≤ byte.toNat := by
  have large : ¬c.val.toNat ≤ 0x7f := Nat.not_le.mpr beyond
  simp only [String.utf8EncodeChar, large, ↓reduceIte] at member
  repeat' split at member
  all_goals
    simp only [List.mem_cons, List.not_mem_nil, or_false] at member
    rcases member with rfl | rfl | rfl | rfl <;> simp only [UInt8.toNat_ofNat'] <;> omega

/-- The byte of an ASCII character is a byte of no other character. -/
theorem eq_of_mem_utf8EncodeChar {c other : Char} (ascii : c.toNat < 0x80)
    (member : UInt8.ofNat c.toNat ∈ String.utf8EncodeChar other) : other = c := by
  by_cases plain : other.toNat < 0x80
  · rw [utf8EncodeChar_of_ascii plain, List.mem_singleton] at member
    have same := congrArg UInt8.toNat member
    rw [UInt8.toNat_ofNat', UInt8.toNat_ofNat', Nat.mod_eq_of_lt (by omega),
      Nat.mod_eq_of_lt (by omega)] at same
    exact Char.toNat_inj.mp same.symm
  · have large := le_of_mem_utf8EncodeChar (Nat.not_lt.mp plain) member
    rw [UInt8.toNat_ofNat', Nat.mod_eq_of_lt (by omega)] at large
    omega

/-- A pattern of ASCII characters lies in a text where its bytes lie in the
text's. -/
theorem infix_utf8_iff {pattern : String} (ascii : ∀ c ∈ pattern.toList, c.toNat < 0x80)
    (text : String) : utf8 pattern <:+: utf8 text ↔ pattern.toList <:+: text.toList := by
  rw [utf8_eq_flatMap, utf8_eq_flatMap]
  exact Substring.infix_flatMap_iff (fun c member => utf8EncodeChar_of_ascii (ascii c member))
    (fun c member _ there => eq_of_mem_utf8EncodeChar (ascii c member) there)
    (fun _ => String.utf8EncodeChar_ne_nil)

/-- A text has the byte of an ASCII character where it has the character. -/
theorem mem_utf8_iff {c : Char} (ascii : c.toNat < 0x80) (text : String) :
    UInt8.ofNat c.toNat ∈ utf8 text ↔ c ∈ text.toList := by
  rw [utf8_eq_flatMap, List.mem_flatMap]
  constructor
  · rintro ⟨other, member, there⟩
    exact eq_of_mem_utf8EncodeChar ascii there ▸ member
  · intro member
    exact ⟨c, member, by simp [utf8EncodeChar_of_ascii ascii]⟩

/-! ## Slices -/

/-- The text between two byte positions: none where they are inverted, or where one
is past the end or inside a character. -/
def slice (text : String) (first last : Nat) : Option String :=
  if range : first ≤ last ∧ (String.Pos.Raw.mk first).IsValid text ∧
      (String.Pos.Raw.mk last).IsValid text then
    some (String.extract (text.pos ⟨first⟩ range.2.1) (text.pos ⟨last⟩ range.2.2))
  else none

/-- No slice ends before it starts. -/
theorem slice_of_lt {first last : Nat} (inverted : last < first) (text : String) :
    slice text first last = none :=
  dif_neg (fun range => Nat.not_le.mpr inverted range.1)

/-- The slice between the ends of two initial parts. -/
theorem slice_append (before inside after : String) :
    slice (before ++ inside ++ after) before.utf8ByteSize
      (before.utf8ByteSize + inside.utf8ByteSize) = some inside := by
  have first : (String.Pos.Raw.mk before.utf8ByteSize).IsValid (before ++ inside ++ after) :=
    String.Pos.Raw.isValid_iff_exists_append.mpr
      ⟨before, inside ++ after, String.append_assoc, rfl⟩
  have last : (String.Pos.Raw.mk (before.utf8ByteSize + inside.utf8ByteSize)).IsValid
      (before ++ inside ++ after) :=
    String.Pos.Raw.isValid_iff_exists_append.mpr
      ⟨before ++ inside, after, rfl, by ext; simp⟩
  rw [slice, dif_pos ⟨Nat.le_add_right _ _, first, last⟩]
  congr 1
  rw [← String.toByteArray_inj, String.toByteArray_extract]
  calc (before ++ inside ++ after).toByteArray.extract before.utf8ByteSize
        (before.utf8ByteSize + inside.utf8ByteSize)
      = (before.toByteArray ++ (inside.toByteArray ++ after.toByteArray)).extract
          (before.utf8ByteSize + 0) (before.utf8ByteSize + inside.utf8ByteSize) := by
        rw [String.toByteArray_append, String.toByteArray_append, ByteArray.append_assoc,
          Nat.add_zero]
    _ = (inside.toByteArray ++ after.toByteArray).extract 0 inside.utf8ByteSize :=
        ByteArray.extract_append_size_add' rfl
    _ = inside.toByteArray := ByteArray.extract_append_eq_left rfl

/-- A text that starts and ends with a character is that character or lies in two
of them: one character may be both ends. -/
theorem eq_singleton_or_enclosed {c : Char} {text : String} (starts : text.startsWith c = true)
    (ends : text.endsWith c = true) :
    text = String.singleton c ∨
      ∃ inside, text = String.singleton c ++ inside ++ String.singleton c := by
  obtain ⟨rest, rfl⟩ := String.startsWith_char_iff_exists_append.mp starts
  obtain ⟨start, same⟩ := String.endsWith_char_iff_exists_append.mp ends
  rcases List.eq_nil_or_concat rest.toList with empty | ⟨inside, last, shape⟩
  · left
    rw [String.toList_eq_nil_iff.mp empty, String.append_empty]
  · right
    have shapes := congrArg String.toList same
    rw [String.toList_append, String.toList_append, shape, List.concat_eq_append,
      String.toList_singleton, ← List.append_assoc] at shapes
    obtain ⟨_, lastSame⟩ := List.append_inj' shapes rfl
    obtain rfl := List.singleton_inj.mp lastSame
    refine ⟨String.ofList inside, ?_⟩
    rw [← String.toList_inj]
    simp [shape]

/-- The slice without the ends of an enclosed text. -/
theorem slice_enclosed (c : Char) (inside : String) :
    slice (String.singleton c ++ inside ++ String.singleton c) c.utf8Size
      ((String.singleton c ++ inside ++ String.singleton c).utf8ByteSize - c.utf8Size) =
      some inside := by
  have first : (String.singleton c).utf8ByteSize = c.utf8Size := String.utf8ByteSize_singleton
  have found := slice_append (String.singleton c) inside (String.singleton c)
  rw [String.utf8ByteSize_append, String.utf8ByteSize_append, first, Nat.add_sub_cancel]
  rwa [first] at found

end Utf8

end Npt.Core
