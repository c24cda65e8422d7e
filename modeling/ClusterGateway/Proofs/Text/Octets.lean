import ClusterGateway.Text

/-! # Laws of the octets of a text

The octets of a text are those of its characters one after another, and they spell that text and no
other. No octet of a character beyond the ASCII range is itself an ASCII octet.
-/

namespace ClusterGateway

/-- A text is written in UTF-8 character by character. -/
theorem utf8_eq_flatMap (s : String) : utf8 s = s.toList.flatMap String.utf8EncodeChar := by
  rw [utf8, String.toUTF8_eq_toByteArray, ← String.utf8Encode_toList]
  simp [List.utf8Encode]

@[simp] theorem utf8_ofList (chars : List Char) :
    utf8 (String.ofList chars) = chars.flatMap String.utf8EncodeChar := by
  rw [utf8_eq_flatMap, String.toList_ofList]

@[simp] theorem utf8_append (s t : String) : utf8 (s ++ t) = utf8 s ++ utf8 t := by
  simp [utf8_eq_flatMap]

@[simp] theorem utf8_toString (c : Char) : utf8 c.toString = String.utf8EncodeChar c := by
  rw [Char.toString, utf8_eq_flatMap]
  simp

/-- Texts that are joined are written one after another. -/
theorem utf8_join (parts : List String) : utf8 (String.join parts) = parts.flatMap utf8 := by
  induction parts with
  | nil => rfl
  | cons part parts ih => simp [ih]

/-- The octets of parts with a mark between them: the first part, and the mark before each other. -/
theorem utf8_intercalate_cons (mark part : String) (parts : List String) :
    utf8 (mark.intercalate (part :: parts)) =
      utf8 part ++ parts.flatMap fun p => utf8 mark ++ utf8 p := by
  induction parts generalizing part with
  | nil => simp
  | cons next parts ih => simp [String.intercalate_cons_cons, ih]

/-- The octets of a text spell that text. -/
@[simp] theorem ofUtf8?_utf8 (s : String) : ofUtf8? (utf8 s) = some s := by
  have whole : (⟨(utf8 s).toArray⟩ : ByteArray) = s.toByteArray := by
    simp [utf8]
  rw [ofUtf8?, whole, String.fromUTF8?, dif_pos s.isValidUTF8]
  rfl

/-- The only octet of an ASCII character is its code. -/
theorem utf8EncodeChar_of_ascii {c : Char} (ascii : c.toNat < 0x80) :
    String.utf8EncodeChar c = [UInt8.ofNat c.toNat] := by
  have small : c.val.toNat ≤ 0x7F := Nat.le_of_lt_succ ascii
  simp only [String.utf8EncodeChar, small, ↓reduceIte]
  rfl

/-- The octets of any other character lie beyond the ASCII codes. -/
theorem le_of_mem_utf8EncodeChar {c : Char} (beyond : 0x80 ≤ c.toNat) {b : UInt8}
    (member : b ∈ String.utf8EncodeChar c) : 0x80 ≤ b.toNat := by
  have large : ¬ c.val.toNat ≤ 0x7F := Nat.not_le.2 beyond
  simp only [String.utf8EncodeChar, large, ↓reduceIte] at member
  split at member
  · simp only [List.mem_cons, List.not_mem_nil, or_false] at member
    rcases member with rfl | rfl <;> simp only [UInt8.toNat_ofNat'] <;> omega
  · split at member
    · simp only [List.mem_cons, List.not_mem_nil, or_false] at member
      rcases member with rfl | rfl | rfl <;> simp only [UInt8.toNat_ofNat'] <;> omega
    · simp only [List.mem_cons, List.not_mem_nil, or_false] at member
      rcases member with rfl | rfl | rfl | rfl <;> simp only [UInt8.toNat_ofNat'] <;> omega

end ClusterGateway
