import ClusterGateway.Json.Writer
import ClusterGateway.Proofs.Text.Decimal

/-! # Reading back strings and numbers

What is written of a string or a number is read as that string or number, and the reader stops right
behind it. `Spells reader text a` says so for a reader in general: whatever comes next, as long as
no number could go on with it, the reader takes `text` off the front and gives `a`.
-/

namespace ClusterGateway.Json

variable {α β : Type}

/-- Octets with which a number before them cannot go on. -/
def Delimits (rest : Bytes) : Prop :=
  ∀ b ∈ rest.head?, Byte.isDigit b = false ∧ b ≠ 0x2E ∧ b ≠ 0x65 ∧ b ≠ 0x45

/-- The text of a value for a reader. -/
structure Spells (reader : Reader α) (text : Bytes) (a : α) : Prop where
  /-- The text starts with something other than a blank or the end of a list. -/
  opens : ∃ b more, text = b :: more ∧ Byte.isSpace b = false ∧ b ≠ Byte.closeBracket
  /-- The reader takes the text and no more. -/
  reads : ∀ rest, Delimits rest → reader (text ++ rest) = .ok (a, rest)

/-- A comma or a closing mark ends a number. -/
theorem delimits_cons {b : UInt8} {rest : Bytes}
    (mark : b = Byte.comma ∨ b = Byte.closeBracket ∨ b = Byte.closeBrace) :
    Delimits (b :: rest) := by
  intro c first
  rw [List.head?_cons, Option.mem_some_iff] at first
  subst first
  rcases mark with rfl | rfl | rfl <;> decide

theorem delimits_nil : Delimits [] := by
  intro b first
  exact absurd first (by simp)

namespace Reader

/-! ### One step after another -/

/-- Of two readers the second goes on where the first one stopped. -/
theorem bind_apply (first : Reader α) (next : α → Reader β) (bytes : Bytes) :
    (first >>= next) bytes =
      match first bytes with
      | .ok (a, rest) => next a rest
      | .error fault => .error fault := by
  change (first bytes >>= fun p => next p.1 p.2) = _
  cases first bytes <;> rfl

/-- After a step that succeeds the next one goes on with what is left. -/
theorem bind_of_ok {first : Reader α} {next : α → Reader β} {bytes rest : Bytes} {a : α}
    (done : first bytes = .ok (a, rest)) : (first >>= next) bytes = next a rest := by
  rw [bind_apply, done]

theorem pure_apply (a : α) (bytes : Bytes) : (pure a : Reader α) bytes = .ok (a, bytes) := rfl

/-- The next octet is seen if it is no space. -/
theorem peek_cons {b : UInt8} (rest : Bytes) (solid : Byte.isSpace b = false) :
    peek (b :: rest) = .ok (some b, b :: rest) := by
  simp [peek, solid]

theorem get_apply (bytes : Bytes) : (get : Reader Bytes) bytes = .ok (bytes, bytes) := rfl

theorem skip_cons (b : UInt8) (rest : Bytes) : skip (b :: rest) = .ok ((), rest) := rfl

theorem octet_cons (b : UInt8) (rest : Bytes) : octet (b :: rest) = .ok (b, rest) := rfl

theorem remaining_apply (bytes : Bytes) : remaining bytes = .ok (bytes.length, bytes) := rfl

/-! ### Strings -/

/-- The octets of a character inside a string. -/
def escapedOctets (c : Char) : Bytes := utf8 (escaped c)

/-- A reader that puts octets in front of what another one gives. -/
def prefixed (octets : Bytes) (reader : Reader Bytes) : Reader Bytes := do
  let more ← reader
  return octets ++ more

/-- Octets that are put in front of others are put in front of the whole. -/
theorem prefixed_append (octets more : Bytes) (reader : Reader Bytes) :
    prefixed (octets ++ more) reader = prefixed octets (prefixed more reader) := by
  funext bytes
  simp only [prefixed, bind_apply]
  cases reader bytes with
  | ok result => simp [pure_apply]
  | error fault => rfl

/-- An octet that stands for itself in a string. -/
def IsPlain (b : UInt8) : Prop := b ≠ Byte.quote ∧ b ≠ Byte.backslash ∧ ¬ b < 0x20

/-- Octets without quotes, escapes or control characters are taken into a string as they are. -/
theorem stringOctets_plain {octets : Bytes} (plain : ∀ b ∈ octets, IsPlain b) (fuel : Nat)
    (rest : Bytes) :
    stringOctets (octets.length + fuel) (octets ++ rest) =
      prefixed octets (stringOctets fuel) rest := by
  induction octets with
  | nil =>
      simp only [List.length_nil, Nat.zero_add, List.nil_append, prefixed, bind_apply]
      cases stringOctets fuel rest <;> rfl
  | cons b octets ih =>
      obtain ⟨noQuote, noBackslash, noControl⟩ := plain b List.mem_cons_self
      have tail := ih fun c member => plain c (List.mem_cons_of_mem b member)
      rw [List.length_cons, Nat.add_right_comm, List.cons_append, stringOctets,
        bind_of_ok (octet_cons b _), if_neg noQuote, if_neg noBackslash, if_neg noControl,
        bind_apply, tail, ← List.singleton_append, prefixed_append]
      conv => rhs; rw [prefixed, bind_apply]
      rfl

/-- A backslash, a letter and what they stand for. -/
theorem stringOctets_escape {written rest after : Bytes} (fuel : Nat)
    (read : escape rest = .ok (written, after)) :
    stringOctets (fuel + 1) (Byte.backslash :: rest) =
      prefixed written (stringOctets fuel) after := by
  rw [stringOctets, bind_of_ok (octet_cons _ _), if_neg (by decide), if_pos rfl, bind_of_ok read]
  rfl

/-- A hexadecimal digit has the value that it was written for. -/
theorem hexValue?_hexDigit {n : Nat} (small : n < 16) :
    (String.utf8EncodeChar (hexDigit n)).map Byte.hexValue? = [some n] := by
  have all : ∀ k : Fin 16,
      (String.utf8EncodeChar (hexDigit k)).map Byte.hexValue? = [some k.val] := by decide
  exact all ⟨n, small⟩

/-- Two zeros and two digits are read as the number of the digits. -/
theorem fourHex_hexDigit {n : Nat} (small : n < 256) (rest : Bytes) :
    fourHex ([0x30, 0x30] ++ String.utf8EncodeChar (hexDigit (n / 16)) ++
      String.utf8EncodeChar (hexDigit (n % 16)) ++ rest) = .ok (n, rest) := by
  obtain ⟨high, highOctet, highValue⟩ :=
    List.map_eq_singleton_iff.1 (hexValue?_hexDigit (n := n / 16) (by omega))
  obtain ⟨low, lowOctet, lowValue⟩ :=
    List.map_eq_singleton_iff.1 (hexValue?_hexDigit (n := n % 16) (by omega))
  have zero : Byte.hexValue? 0x30 = some 0 := by decide
  rw [highOctet, lowOctet]
  simp only [List.cons_append, List.nil_append, fourHex, zero, highValue, lowValue]
  rw [show ((0 * 16 + 0) * 16 + n / 16) * 16 + n % 16 = n by omega]

/-- The escape of a control character is read back as the character. -/
theorem unicodeEscape_control {c : Char} (control : c.toNat < 0x20) (rest : Bytes) :
    unicodeEscape ([0x30, 0x30] ++ String.utf8EncodeChar (hexDigit (c.toNat / 16)) ++
      String.utf8EncodeChar (hexDigit (c.toNat % 16)) ++ rest) = .ok (c, rest) := by
  rw [unicodeEscape, bind_of_ok (fourHex_hexDigit (by omega) rest), if_neg (by omega),
    if_pos (by omega), Char.ofNat_toNat]
  rfl

/-- A control character without a letter of its own is read back from its code. -/
theorem escape_control {c : Char} (control : c.toNat < 0x20) (rest : Bytes) :
    escape (0x75 :: ([0x30, 0x30] ++ String.utf8EncodeChar (hexDigit (c.toNat / 16)) ++
      String.utf8EncodeChar (hexDigit (c.toNat % 16)) ++ rest)) =
      .ok (String.utf8EncodeChar c, rest) := by
  rw [escape, bind_of_ok (octet_cons _ _)]
  simp only [show ¬((0x75 : UInt8) = Byte.quote ∨ (0x75 : UInt8) = Byte.backslash ∨
      (0x75 : UInt8) = 0x2F) by decide, show ¬((0x75 : UInt8) = 0x62) by decide,
    show ¬((0x75 : UInt8) = 0x66) by decide, show ¬((0x75 : UInt8) = 0x6E) by decide,
    show ¬((0x75 : UInt8) = 0x72) by decide, show ¬((0x75 : UInt8) = 0x74) by decide,
    ↓reduceIte]
  rw [bind_of_ok (unicodeEscape_control control rest), utf8_toString]
  rfl

/-- A character beyond the controls that is no mark stands for itself. -/
theorem isPlain_of_mem_utf8EncodeChar {c : Char} (noQuote : c ≠ '"') (noBackslash : c ≠ '\\')
    (noControl : ¬ c.toNat < 0x20) {b : UInt8} (member : b ∈ String.utf8EncodeChar c) :
    IsPlain b := by
  by_cases ascii : c.toNat < 0x80
  · rw [utf8EncodeChar_of_ascii ascii, List.mem_singleton] at member
    have code : b.toNat = c.toNat := by
      rw [member, UInt8.toNat_ofNat', Nat.mod_eq_of_lt (by omega)]
    refine ⟨?_, ?_, ?_⟩
    · rintro rfl
      exact noQuote (by rw [← Char.ofNat_toNat c, ← code]; rfl)
    · rintro rfl
      exact noBackslash (by rw [← Char.ofNat_toNat c, ← code]; rfl)
    · rw [UInt8.lt_iff_toNat_lt, code]
      exact noControl
  · have beyond := le_of_mem_utf8EncodeChar (Nat.le_of_not_lt ascii) member
    refine ⟨?_, ?_, ?_⟩
    · rintro rfl
      exact absurd beyond (by decide)
    · rintro rfl
      exact absurd beyond (by decide)
    · rw [UInt8.lt_iff_toNat_lt]
      exact Nat.not_lt.2 (Nat.le_trans (by decide) beyond)

/-- Reading `octets` in a string gives the character `c`, in no more steps than there are octets. -/
def Stands (octets : Bytes) (c : Char) : Prop :=
  ∃ n ≤ octets.length, ∀ fuel rest, stringOctets (n + fuel) (octets ++ rest) =
    prefixed (String.utf8EncodeChar c) (stringOctets fuel) rest

/-- A backslash and an escape stand for the character that the escape gives. -/
theorem stands_escape {c : Char} (octets : Bytes)
    (read : ∀ rest, escape (octets ++ rest) = .ok (String.utf8EncodeChar c, rest)) :
    Stands (Byte.backslash :: octets) c := by
  refine ⟨1, by simp, ?_⟩
  intro fuel rest
  rw [Nat.add_comm, List.cons_append]
  exact stringOctets_escape fuel (read rest)

/-- The escape of a control character stands for it in a string. -/
theorem stands_control {c : Char} (control : c.toNat < 0x20) :
    Stands (utf8 (String.ofList
      ['\\', 'u', '0', '0', hexDigit (c.toNat / 16), hexDigit (c.toNat % 16)])) c := by
  rw [utf8_ofList]
  exact stands_escape (0x75 :: ([0x30, 0x30] ++ String.utf8EncodeChar (hexDigit (c.toNat / 16)) ++
    (String.utf8EncodeChar (hexDigit (c.toNat % 16)) ++ []))) fun rest => by
      simpa using escape_control control rest

/-- Whatever way a character is written, it is read back. -/
theorem stands_escapedOctets (c : Char) : Stands (escapedOctets c) c := by
  have named {n : Nat} (code : c.toNat = n) : c = Char.ofNat n := by
    rw [← code, Char.ofNat_toNat]
  -- The cases are those of the writer, in its order.
  unfold escapedOctets escaped
  split
  · next quote =>
      subst quote
      exact stands_escape [0x22] fun rest => rfl
  split
  · next backslash =>
      subst backslash
      exact stands_escape [0x5C] fun rest => rfl
  split
  · next code =>
      rw [named code]
      exact stands_escape [0x62] fun rest => rfl
  split
  · next code =>
      rw [named code]
      exact stands_escape [0x66] fun rest => rfl
  split
  · next newline =>
      subst newline
      exact stands_escape [0x6E] fun rest => rfl
  split
  · next carriage =>
      subst carriage
      exact stands_escape [0x72] fun rest => rfl
  split
  · next tab =>
      subst tab
      exact stands_escape [0x74] fun rest => rfl
  split
  · next control => exact stands_control control
  · next noQuote noBackslash _ _ _ _ _ noControl =>
      rw [utf8_toString]
      exact ⟨_, Nat.le_refl _, fun fuel rest => stringOctets_plain (fun b member =>
        isPlain_of_mem_utf8EncodeChar noQuote noBackslash noControl member) fuel rest⟩

/-- The octets of a text inside a string. -/
def bodyOctets (s : String) : Bytes := s.toList.flatMap escapedOctets

/-- The octets of a body are read back as the characters that were escaped, up to the closing
quote. -/
theorem stringOctets_body (chars : List Char) (rest : Bytes) :
    ∀ fuel, (chars.flatMap escapedOctets).length < fuel →
      stringOctets fuel (chars.flatMap escapedOctets ++ Byte.quote :: rest) =
        .ok (chars.flatMap String.utf8EncodeChar, rest) := by
  induction chars with
  | nil =>
      intro fuel enough
      obtain ⟨more, rfl⟩ : ∃ more, fuel = more + 1 := ⟨fuel - 1, by simp at enough; omega⟩
      rfl
  | cons c chars ih =>
      intro fuel enough
      rw [List.flatMap_cons, List.length_append] at enough
      obtain ⟨n, steps, read⟩ := stands_escapedOctets c
      obtain ⟨more, rfl⟩ : ∃ more, fuel = n + more := ⟨fuel - n, by omega⟩
      rw [List.flatMap_cons, List.append_assoc, read, prefixed, bind_of_ok (ih more (by omega))]
      rfl

/-- The rest of a string, its opening mark taken, is read as the text. -/
theorem stringBody_body (s : String) (rest : Bytes) :
    stringBody (bodyOctets s ++ Byte.quote :: rest) = .ok (s, rest) := by
  rw [stringBody, bind_of_ok (remaining_apply _), bodyOctets,
    bind_of_ok (stringOctets_body s.toList rest _ (by simp)), ← utf8_eq_flatMap,
    ofUtf8?_utf8]
  rfl

/-- A string is written as its body between quotes. -/
theorem utf8_string (s : String) :
    utf8 (Write.string s) = Byte.quote :: (bodyOctets s ++ [Byte.quote]) := by
  rw [Write.string, utf8_append, utf8_append, utf8_join, List.flatMap_map]
  rfl

/-- A string that was written is read back. -/
theorem string_spelt (s : String) (rest : Bytes) :
    string (utf8 (Write.string s) ++ rest) = .ok (s, rest) := by
  rw [utf8_string, List.cons_append, List.append_assoc, List.singleton_append, string,
    bind_of_ok (peek_cons _ (by decide))]
  simp only [↓reduceIte]
  rw [bind_of_ok (skip_cons _ _), stringBody_body]

/-- A string is spelt by what is written for it. -/
theorem spells_string (s : String) : Spells string (utf8 (Write.string s)) s where
  opens := ⟨Byte.quote, _, utf8_string s, by decide, by decide⟩
  reads rest _ := string_spelt s rest

/-! ### Whole numbers -/

/-- Digits are read back up to where the number ends. -/
theorem digits_spelt (n : Nat) {rest : Bytes} (ends : Delimits rest) :
    digits (decimalOctets n ++ rest) = .ok (decimalOctets n, rest) := by
  have all : ∀ b ∈ decimalOctets n, Byte.isDigit b = true := fun b member =>
    isDigit_of_mem_decimalOctets member
  have stop : ∀ b ∈ rest.head?, ¬ Byte.isDigit b = true := by
    intro b first
    simp [(ends b first).1]
  have taken : rest.takeWhile Byte.isDigit = [] := by
    cases rest with
    | nil => rfl
    | cons b rest => simp [stop b rfl]
  have dropped : rest.dropWhile Byte.isDigit = rest := by
    cases rest with
    | nil => rfl
    | cons b rest => simp [stop b rfl]
  rw [digits, List.takeWhile_append_of_pos all, List.dropWhile_append_of_pos all, taken, dropped,
    List.append_nil]

/-- Digits are read back where there must be one. -/
theorem someDigits_spelt (n : Nat) {rest : Bytes} (ends : Delimits rest) :
    someDigits (decimalOctets n ++ rest) = .ok (decimalOctets n, rest) := by
  have whole := digits_spelt n ends
  cases octets : decimalOctets n with
  | nil => exact absurd octets (decimalOctets_ne_nil n)
  | cons b more =>
      have digit : Byte.isDigit b = true :=
        isDigit_of_mem_decimalOctets (n := n) (by rw [octets]; exact List.mem_cons_self)
      rw [octets] at whole
      simp only [someDigits, List.cons_append, digit, ↓reduceIte]
      exact whole

/-- Where a number ends there is no fraction. -/
theorem fraction_absent {rest : Bytes} (ends : Delimits rest) :
    unsigned.fraction rest = .ok ([], rest) := by
  rw [unsigned.fraction, bind_of_ok (get_apply rest)]
  unfold Delimits at ends
  generalize rest.head? = first at ends
  split
  · exact absurd rfl (ends 0x2E rfl).2.1
  · rfl

theorem exponent_absent {rest : Bytes} (ends : Delimits rest) :
    unsigned.exponent rest = .ok (([], 0), rest) := by
  rw [unsigned.exponent, bind_of_ok (get_apply rest)]
  unfold Delimits at ends
  generalize rest.head? = first at ends
  split
  · next letter =>
      have other := (ends letter rfl).2.2
      rw [if_neg fun either => either.elim other.1 other.2]
      rfl
  · rfl

/-- The number that digits behind a sign stand for. -/
def signed (negative : Bool) (n : Nat) : Int := if negative then -(n : Int) else n

/-- The digits of a number that fits, with or without a sign, are read back as the number. -/
theorem unsigned_spelt (negative : Bool) (n : Nat) {rest : Bytes} (ends : Delimits rest)
    (small : if negative then n ≠ 0 ∧ n ≤ 2 ^ 63 else n < 2 ^ 64) :
    unsigned negative (decimalOctets n ++ rest) = .ok (.whole (signed negative n), rest) := by
  have front : ¬((decimalOctets n).head? = some 0x30 ∧ 1 < (decimalOctets n).length) := by
    rintro ⟨zero, long⟩
    rw [length_decimalOctets_of_head? zero] at long
    exact Nat.lt_irrefl 1 long
  rw [unsigned, bind_of_ok (someDigits_spelt n ends)]
  simp only [if_neg front]
  rw [bind_of_ok (fraction_absent ends), bind_of_ok (exponent_absent ends)]
  simp only [decimal_decimalOctets, and_self, ↓reduceIte]
  cases negative with
  | true =>
      simp only [↓reduceIte] at small
      rw [if_pos ⟨rfl, small.1, small.2⟩]
      rfl
  | false =>
      simp only [Bool.false_eq_true, ↓reduceIte] at small
      rw [if_neg (by simp), if_pos ⟨by simp, small⟩]
      rfl

/-- The octets of a whole number: a sign if it is negative, and digits. -/
theorem utf8_integer (n : Int) :
    utf8 (Write.integer n) = (if n < 0 then [Byte.minus] else []) ++ decimalOctets n.natAbs := by
  cases n with
  | ofNat k =>
      have nonnegative : ¬ Int.ofNat k < 0 := Int.not_lt.2 (Int.natCast_nonneg k)
      rw [if_neg nonnegative]
      exact utf8_toString_nat k
  | negSucc k =>
      rw [if_pos (Int.negSucc_lt_zero k)]
      change utf8 ("-" ++ toString (k + 1)) = _
      rw [utf8_append, utf8_toString_nat]
      rfl

/-- A whole number between the least signed and the greatest unsigned number of 64 bits is read
back. -/
theorem number_spelt (n : Int) (least : -2 ^ 63 ≤ n) (greatest : n < 2 ^ 64) {rest : Bytes}
    (ends : Delimits rest) :
    number (utf8 (Write.integer n) ++ rest) = .ok (.whole n, rest) := by
  rw [utf8_integer, number, bind_of_ok (get_apply _)]
  by_cases negative : n < 0
  · simp only [negative, ↓reduceIte, List.cons_append, List.nil_append]
    rw [bind_of_ok (skip_cons _ _), unsigned_spelt true n.natAbs ends (by simp; omega)]
    simp only [signed, ↓reduceIte]
    rw [show -(n.natAbs : Int) = n by omega]
  · simp only [negative, ↓reduceIte, List.nil_append]
    have digits := unsigned_spelt false n.natAbs ends (by simp; omega)
    have value : signed false n.natAbs = n := by
      simp only [signed, Bool.false_eq_true, ↓reduceIte]
      omega
    rw [value] at digits
    have first : ∀ b ∈ (decimalOctets n.natAbs ++ rest).head?, b ≠ Byte.minus := by
      intro b member minus
      rw [List.head?_append, List.head?_eq_some_head (decimalOctets_ne_nil _), Option.some_or,
        Option.mem_some_iff] at member
      have digit := isDigit_of_mem_decimalOctets (List.head_mem (decimalOctets_ne_nil n.natAbs))
      rw [member, minus] at digit
      exact absurd digit (by decide)
    generalize decimalOctets n.natAbs ++ rest = bytes at digits first
    split
    · exact absurd rfl (first Byte.minus rfl)
    · exact digits

/-- A whole number starts with a sign or a digit. -/
theorem integer_opens (n : Int) :
    ∃ b more, utf8 (Write.integer n) = b :: more ∧ (b = Byte.minus ∨ Byte.isDigit b = true) := by
  rw [utf8_integer]
  by_cases negative : n < 0
  · exact ⟨Byte.minus, decimalOctets n.natAbs, by simp [negative], Or.inl rfl⟩
  · cases octets : decimalOctets n.natAbs with
    | nil => exact absurd octets (decimalOctets_ne_nil _)
    | cons b tail =>
        exact ⟨b, tail, by simp [negative], Or.inr
          (isDigit_of_mem_decimalOctets (n := n.natAbs)
            (by rw [octets]; exact List.mem_cons_self))⟩

/-- What begins a number is no space and closes no list. -/
theorem solid_of_numeral {b : UInt8} (numeral : b = Byte.minus ∨ Byte.isDigit b = true) :
    Byte.isSpace b = false ∧ b ≠ Byte.closeBracket := by
  rcases numeral with rfl | digit
  · decide
  · rw [Byte.isDigit, Bool.and_eq_true, decide_eq_true_eq, decide_eq_true_eq,
      UInt8.le_iff_toNat_le, UInt8.le_iff_toNat_le] at digit
    have low : 0x30 ≤ b.toNat := digit.1
    have high : b.toNat ≤ 0x39 := digit.2
    have other {c : UInt8} (outside : c.toNat < 0x30 ∨ 0x39 < c.toNat) : b ≠ c := by
      rintro rfl
      omega
    constructor
    · simp only [Byte.isSpace, Bool.or_eq_false_iff, decide_eq_false_iff_not]
      exact ⟨⟨⟨other (by decide), other (by decide)⟩, other (by decide)⟩, other (by decide)⟩
    · exact other (by decide)

/-- A whole number between the bounds is read back. -/
theorem spells_integer {least greatest n : Int} (low : -2 ^ 63 ≤ n) (high : n < 2 ^ 64)
    (inside : least ≤ n ∧ n ≤ greatest) :
    Spells (integer least greatest) (utf8 (Write.integer n)) n := by
  obtain ⟨b, more, octets, numeral⟩ := integer_opens n
  have solid := solid_of_numeral numeral
  refine ⟨⟨b, more, octets, solid.1, solid.2⟩, ?_⟩
  intro rest ends
  have whole := number_spelt n low high ends
  rw [octets, List.cons_append] at whole ⊢
  rw [integer, bind_of_ok (peek_cons _ solid.1)]
  simp only [if_pos numeral]
  rw [bind_of_ok whole]
  simp only [if_pos inside]
  rfl

end Reader

end ClusterGateway.Json
