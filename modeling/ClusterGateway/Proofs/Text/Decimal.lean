import ClusterGateway.Json.Reader
import ClusterGateway.Net.Address
import ClusterGateway.Proofs.Text.Octets
import ClusterGateway.Text
import Mathlib.Algebra.Order.Ring.Int

/-! # Decimal digits

The digits of a number read back as that number, whether they are read as characters or as octets,
and they start with a zero only if the number is zero.
-/

namespace ClusterGateway

/-- The digits of a number, the highest first. -/
def decimalDigits (n : Nat) : List Char := Nat.toDigits 10 n

/-- A number is written in its decimal digits. -/
theorem toList_toString_nat (n : Nat) : (toString n).toList = decimalDigits n := Nat.toList_repr

theorem decimalDigits_ne_nil (n : Nat) : decimalDigits n ≠ [] := Nat.toDigits_ne_nil

theorem isDigit_of_mem_decimalDigits {n : Nat} {c : Char} (member : c ∈ decimalDigits n) :
    c.isDigit = true :=
  Nat.isDigit_of_mem_toDigits (by decide) (by decide) member

/-- A digit is one of ten characters that stand side by side. -/
theorem digit_bounds {c : Char} (digit : c.isDigit = true) : 0x30 ≤ c.toNat ∧ c.toNat ≤ 0x39 := by
  simpa [Char.isDigit, UInt32.le_iff_toNat_le] using digit

/-- A digit is no blank. -/
theorem Text.isBlank_of_digit {c : Char} (digit : c.isDigit = true) : isBlank c = false := by
  have bounds := digit_bounds digit
  simp only [isBlank, Bool.or_eq_false_iff, Bool.and_eq_false_iff, decide_eq_false_iff_not]
  omega

@[simp] theorem decimalValue_decimalDigits (n : Nat) : decimalValue (decimalDigits n) = n :=
  Nat.ofDigitChars_ten_toDigits

/-- A number below a power of ten has no more digits than the exponent says. -/
theorem length_decimalDigits_le {n k : Nat} (positive : 0 < k) (small : n < 10 ^ k) :
    (decimalDigits n).length ≤ k :=
  (Nat.length_toDigits_le_iff (by decide) positive).2 small

/-- Only the number zero is written with a zero in front. -/
theorem eq_zero_of_head?_decimalDigits {n : Nat} (zero : (decimalDigits n).head? = some '0') :
    n = 0 := by
  induction n using Nat.strongRecOn with
  | ind n ih =>
      by_cases small : n < 10
      · rw [decimalDigits, Nat.toDigits_of_lt_base small, List.head?_cons,
          Option.some.injEq] at zero
        have code := Nat.toNat_digitChar_of_lt_ten small
        rw [zero] at code
        simpa using code.symm
      · have split := Nat.toDigits_of_base_le (b := 10) (n := n) (by decide) (by omega)
        rw [decimalDigits, split, List.head?_append] at zero
        have front : (decimalDigits (n / 10)).head? = some '0' := by
          cases shorter : (decimalDigits (n / 10)).head? with
          | none => exact absurd (List.head?_eq_none_iff.1 shorter) (decimalDigits_ne_nil _)
          | some c =>
              rw [decimalDigits] at shorter
              rw [shorter, Option.some_or] at zero
              exact zero
        have tenth := ih (n / 10) (by omega) front
        omega

/-- A number that is written with a zero in front is written with that zero alone. -/
theorem length_decimalDigits_of_head? {n : Nat} (zero : (decimalDigits n).head? = some '0') :
    (decimalDigits n).length = 1 := by
  rw [eq_zero_of_head?_decimalDigits zero]
  rfl

/-! ### Digits as octets -/

/-- The octets of the digits of a number. -/
def decimalOctets (n : Nat) : Bytes := (decimalDigits n).map fun c => UInt8.ofNat c.toNat

/-- Characters of the first half of an octet are written in one octet each. -/
theorem flatMap_utf8EncodeChar_of_ascii {chars : List Char}
    (ascii : ∀ c ∈ chars, c.toNat < 0x80) :
    chars.flatMap String.utf8EncodeChar = chars.map fun c => UInt8.ofNat c.toNat := by
  induction chars with
  | nil => rfl
  | cons c chars ih =>
      rw [List.flatMap_cons, List.map_cons, utf8EncodeChar_of_ascii (ascii c List.mem_cons_self),
        ih fun d member => ascii d (List.mem_cons_of_mem c member)]
      rfl

/-- A number is written in the octets of its decimal digits. -/
theorem utf8_toString_nat (n : Nat) : utf8 (toString n) = decimalOctets n := by
  rw [utf8_eq_flatMap, toList_toString_nat]
  apply flatMap_utf8EncodeChar_of_ascii
  intro c member
  have bounds := digit_bounds (isDigit_of_mem_decimalDigits member)
  omega

/-- The octet of a digit is the code of that digit. -/
theorem toNat_ofNat_of_digit {c : Char} (digit : c.isDigit = true) :
    (UInt8.ofNat c.toNat).toNat = c.toNat := by
  have bounds := digit_bounds digit
  rw [UInt8.toNat_ofNat', Nat.mod_eq_of_lt (by omega)]

/-- The octet of a digit counts as a digit in a document. -/
theorem isDigit_ofNat_of_digit {c : Char} (digit : c.isDigit = true) :
    Json.Byte.isDigit (UInt8.ofNat c.toNat) = true := by
  have bounds := digit_bounds digit
  simp only [Json.Byte.isDigit, UInt8.le_iff_toNat_le, toNat_ofNat_of_digit digit,
    Bool.and_eq_true, decide_eq_true_eq]
  exact bounds

theorem isDigit_of_mem_decimalOctets {n : Nat} {b : UInt8} (member : b ∈ decimalOctets n) :
    Json.Byte.isDigit b = true := by
  obtain ⟨c, digit, rfl⟩ := List.mem_map.1 member
  exact isDigit_ofNat_of_digit (isDigit_of_mem_decimalDigits digit)

theorem decimalOctets_ne_nil (n : Nat) : decimalOctets n ≠ [] := by
  simp [decimalOctets, decimalDigits_ne_nil]

/-- Digits have one value as characters and as octets. -/
theorem decimal_map_ofNat {chars : List Char} (digits : ∀ c ∈ chars, c.isDigit = true) :
    Json.Reader.decimal (chars.map fun c => UInt8.ofNat c.toNat) = decimalValue chars := by
  rw [Json.Reader.decimal, decimalValue, List.foldl_map]
  generalize 0 = value
  induction chars generalizing value with
  | nil => rfl
  | cons c chars ih =>
      rw [List.foldl_cons, List.foldl_cons, toNat_ofNat_of_digit (digits c List.mem_cons_self)]
      exact ih (fun d member => digits d (List.mem_cons_of_mem c member)) _

@[simp] theorem decimal_decimalOctets (n : Nat) : Json.Reader.decimal (decimalOctets n) = n := by
  rw [decimalOctets, decimal_map_ofNat fun c member => isDigit_of_mem_decimalDigits member,
    decimalValue_decimalDigits]

/-- The octets of a number have a zero in front only when nothing follows it. -/
theorem length_decimalOctets_of_head? {n : Nat} (zero : (decimalOctets n).head? = some 0x30) :
    (decimalOctets n).length = 1 := by
  rw [decimalOctets, List.length_map]
  apply length_decimalDigits_of_head?
  rw [decimalOctets, List.head?_map, Option.map_eq_some_iff] at zero
  obtain ⟨c, first, code⟩ := zero
  have digit := isDigit_of_mem_decimalDigits (List.mem_of_head? first)
  have value : c.toNat = 0x30 := by
    rw [← toNat_ofNat_of_digit digit, code]
    rfl
  rw [first, ← Char.ofNat_toNat c, value]

end ClusterGateway
