import ClusterGateway.Proofs.Net.Canonical
import Mathlib.Data.List.Induction
import Mathlib.Data.List.TakeWhile
import Mathlib.Data.Set.Basic

/-! # How networks are written

A text names a network if, white space around it left out, it is a dotted quad, a slash and a number
of leading bits, which may have a plus sign and zeros in front. Just these texts are read, and what
is read is the block of all addresses that agree with the quad in so many leading bits, named by its
lowest address. So texts name one block exactly if they are read as networks with one text.
-/

namespace ClusterGateway

/-! ### Digits -/

/-- A digit is the one that is written for its value. -/
theorem digitChar_toNat_sub {c : Char} (digit : c.isDigit = true) :
    (c.toNat - 0x30).digitChar = c := by
  have bounds := digit_bounds digit
  have code := Nat.toNat_digitChar_of_lt_ten (n := c.toNat - 0x30) (by omega)
  apply Char.toNat_inj.1
  rw [code]
  omega

/-- A further digit adds itself to ten times the value before it. -/
theorem decimalValue_concat (digits : List Char) (c : Char) :
    decimalValue (digits ++ [c]) = 10 * decimalValue digits + (c.toNat - 0x30) := by
  rw [decimalValue, List.foldl_append]
  rfl

/-- Leading zeros add nothing to the value. -/
theorem decimalValue_replicate_append (zeros : Nat) (digits : List Char) :
    decimalValue (List.replicate zeros '0' ++ digits) = decimalValue digits := by
  induction zeros with
  | zero => rfl
  | succ zeros ih => exact ih

/-- A digit is written for its own value. -/
theorem decimalDigits_of_digit {c : Char} (digit : c.isDigit = true) :
    decimalDigits (c.toNat - 0x30) = [c] := by
  have bounds := digit_bounds digit
  rw [decimalDigits, Nat.toDigits_of_lt_base (by omega), digitChar_toNat_sub digit]

/-- Digits are the digits of their value, perhaps with zeros in front. -/
theorem exists_zeros_of_digits {digits : List Char} (filled : digits ≠ [])
    (all : ∀ c ∈ digits, c.isDigit = true) :
    ∃ zeros, digits = List.replicate zeros '0' ++ decimalDigits (decimalValue digits) := by
  induction digits using List.reverseRecOn with
  | nil => exact absurd rfl filled
  | append_singleton digits c ih =>
      have digit : c.isDigit = true := all c (List.mem_append_right _ (List.mem_singleton_self c))
      have bounds := digit_bounds digit
      rw [decimalValue_concat]
      by_cases bare : digits = []
      · subst bare
        have value : 10 * decimalValue [] + (c.toNat - 0x30) = c.toNat - 0x30 := Nat.zero_add _
        exact ⟨0, by rw [value, decimalDigits_of_digit digit]; rfl⟩
      · obtain ⟨zeros, whole⟩ := ih bare fun d member => all d (List.mem_append_left _ member)
        rcases Nat.eq_zero_or_pos (decimalValue digits) with zero | positive
        · -- All digits before the last one are zeros.
          refine ⟨zeros + 1, ?_⟩
          have front : digits = List.replicate (zeros + 1) '0' := by
            rw [whole, zero, List.replicate_succ']
            rfl
          rw [zero, Nat.mul_zero, Nat.zero_add, decimalDigits_of_digit digit, ← front]
        · refine ⟨zeros, ?_⟩
          have large : 10 ≤ 10 * decimalValue digits + (c.toNat - 0x30) := by omega
          have tens : (10 * decimalValue digits + (c.toNat - 0x30)) / 10 = decimalValue digits := by
            omega
          have ones : (10 * decimalValue digits + (c.toNat - 0x30)) % 10 = c.toNat - 0x30 := by
            omega
          rw [decimalDigits, Nat.toDigits_of_base_le (by decide) large, tens, ones,
            digitChar_toNat_sub digit, ← List.append_assoc]
          exact congrArg (· ++ [c]) whole

/-! ### The grammar -/

/-- A text is four numbers up to 255 in decimal with dots between them, the octets of an address. -/
def DottedQuad (text : List Char) (address : Ipv4) : Prop :=
  ∃ a b c d, (a ≤ 255 ∧ b ≤ 255 ∧ c ≤ 255 ∧ d ≤ 255) ∧
    text = decimalDigits a ++ '.' :: (decimalDigits b ++ '.' :: (decimalDigits c ++ '.' ::
      decimalDigits d)) ∧
    address.val.toNat = ((a * 256 + b) * 256 + c) * 256 + d

/-- A text is a number in decimal, perhaps with a plus sign or zeros in front. -/
def Unsigned (text : List Char) (n : Nat) : Prop :=
  ∃ sign zeros, (sign = [] ∨ sign = ['+']) ∧
    text = sign ++ (List.replicate zeros '0' ++ decimalDigits n)

/-- A text is an address, a slash and a number of leading bits, perhaps with white space around. -/
def NamesBlock (text : String) (address : Ipv4) (length : Nat) : Prop :=
  length ≤ 32 ∧ ∃ front quad bits back,
    text.toList = front ++ (quad ++ '/' :: bits) ++ back ∧
    (∀ c ∈ front, Text.isBlank c = true) ∧ (∀ c ∈ back, Text.isBlank c = true) ∧
    DottedQuad quad address ∧ Unsigned bits length

/-- The addresses that agree with an address in so many leading bits. -/
def Ipv4.block (address : Ipv4) (length : Nat) : Set Ipv4 :=
  {other | other.val.toNat / 2 ^ (32 - length) = address.val.toNat / 2 ^ (32 - length)}

/-! ### Reading addresses -/

namespace Ipv4

/-- An octet is read from the digits of a number up to 255 and from nothing else, so it has no
leading zeros. -/
theorem octet?_eq_some_iff {text : List Char} {n : Nat} :
    octet? text = some n ↔ n ≤ 255 ∧ text = decimalDigits n := by
  constructor
  · intro read
    rw [octet?] at read
    split at read
    · exact absurd read (by simp)
    · next proper =>
        split at read
        · exact absurd read (by simp)
        · next lone =>
            dsimp only at read
            split at read
            · next small =>
                obtain rfl := Option.some.inj read
                simp only [List.isEmpty_iff, Bool.not_eq_true', not_or, Bool.not_eq_false,
                  List.all_eq_true] at proper
                obtain ⟨zeros, whole⟩ := exists_zeros_of_digits proper.1 proper.2.2
                cases zeros with
                | zero => exact ⟨small, whole⟩
                | succ zeros =>
                    -- A zero in front stands alone, but the digits of the value follow it.
                    refine absurd ⟨?_, ?_⟩ lone
                    · rw [whole]
                      rfl
                    · have more := List.length_pos_iff.2
                        (decimalDigits_ne_nil (decimalValue text))
                      rw [whole, List.length_append, List.length_replicate]
                      omega
            · exact absurd read (by simp)
  · rintro ⟨small, rfl⟩
    exact octet?_decimalDigits small

/-- The number of an address in terms of its four octets. -/
theorem toNat_ofOctets {a b c d : Nat} (first : a ≤ 255) (second : b ≤ 255) (third : c ≤ 255)
    (fourth : d ≤ 255) : (ofOctets a b c d).val.toNat = ((a * 256 + b) * 256 + c) * 256 + d := by
  change (((a * 256 + b) * 256 + c) * 256 + d) % 2 ^ 32 = _
  exact Nat.mod_eq_of_lt (by omega)

/-- Just the dotted quads are read as addresses. -/
theorem parse?_eq_some_iff {text : List Char} {address : Ipv4} :
    parse? text = some address ↔ DottedQuad text address := by
  constructor
  · intro read
    have whole := intercalate_splitAt '.' text
    rw [parse?] at read
    split at read
    · next a b c d parts =>
        simp only [Option.bind_eq_bind, Option.bind_eq_some_iff, octet?_eq_some_iff] at read
        obtain ⟨a, ⟨first, rfl⟩, b, ⟨second, rfl⟩, c, ⟨third, rfl⟩, d, ⟨fourth, rfl⟩, made⟩ := read
        obtain rfl := Option.some.inj made
        refine ⟨a, b, c, d, ⟨first, second, third, fourth⟩, ?_,
          toNat_ofOctets first second third fourth⟩
        rw [← whole, parts]
        simp [List.intercalate_cons_cons]
    · exact absurd read (by simp)
  · rintro ⟨a, b, c, d, ⟨first, second, third, fourth⟩, rfl, value⟩
    have dot (n : Nat) : '.' ∉ decimalDigits n := notMem_decimalDigits (by decide) n
    rw [parse?, splitAt_append_cons (dot _), splitAt_append_cons (dot _),
      splitAt_append_cons (dot _), splitAt_of_notMem (dot _)]
    simp only [octet?_decimalDigits first, octet?_decimalDigits second, octet?_decimalDigits third,
      octet?_decimalDigits fourth]
    have same : ofOctets a b c d = address := by
      cases address
      exact congrArg mk (UInt32.toNat_inj.1 ((toNat_ofOctets first second third fourth).trans
        value.symm))
    exact congrArg some same

end Ipv4

namespace Network

/-! ### Reading numbers of bits -/

/-- A sign is left out, and the digits behind it are read. -/
theorem length?_append {sign digits : List Char} (signed : sign = [] ∨ sign = ['+'])
    (bare : digits.head? ≠ some '+') :
    length? (sign ++ digits) = if digits.isEmpty ∨ !digits.all Char.isDigit then none
      else if decimalValue digits ≤ 255 then some (decimalValue digits) else none := by
  rcases signed with rfl | rfl
  · unfold length?
    dsimp only
    split
    · next rest same => exact absurd (congrArg List.head? same) bare
    · rfl
  · rfl

/-- Just the unsigned numbers up to 255 are read. -/
theorem length?_eq_some_iff {text : List Char} {n : Nat} :
    length? text = some n ↔ n ≤ 255 ∧ Unsigned text n := by
  constructor
  · intro read
    unfold length? at read
    dsimp only at read
    have cut : ∃ sign digits, (sign = [] ∨ sign = ['+']) ∧ text = sign ++ digits ∧
        (if digits.isEmpty ∨ !digits.all Char.isDigit then none else
          if decimalValue digits ≤ 255 then some (decimalValue digits) else none) = some n := by
      split at read
      · next rest => exact ⟨['+'], rest, Or.inr rfl, rfl, read⟩
      · exact ⟨[], text, Or.inl rfl, rfl, read⟩
    obtain ⟨sign, digits, signed, rfl, found⟩ := cut
    split at found
    · exact absurd found (by simp)
    · next proper =>
        split at found
        · next small =>
            obtain rfl := Option.some.inj found
            simp only [List.isEmpty_iff, Bool.not_eq_true', not_or, Bool.not_eq_false,
              List.all_eq_true] at proper
            -- Digits are zeros and then the shortest way to write their value.
            obtain ⟨zeros, whole⟩ := exists_zeros_of_digits proper.1 proper.2
            exact ⟨small, sign, zeros, signed, congrArg _ whole⟩
        · exact absurd found (by simp)
  · rintro ⟨small, sign, zeros, signed, rfl⟩
    have digits : ∀ c ∈ List.replicate zeros '0' ++ decimalDigits n, c.isDigit = true := by
      intro c member
      rcases List.mem_append.1 member with zero | digit
      · rw [List.eq_of_mem_replicate zero]
        rfl
      · exact isDigit_of_mem_decimalDigits digit
    have bare : (List.replicate zeros '0' ++ decimalDigits n).head? ≠ some '+' := by
      intro plus
      exact absurd (digits '+' (List.mem_of_head? plus)) (by decide)
    have proper := List.all_eq_true.2 digits
    rw [length?_append signed bare, if_neg (by simp [decimalDigits_ne_nil, proper]),
      decimalValue_replicate_append, decimalValue_decimalDigits, if_pos small]

/-- A text is cut at its first slash. -/
theorem splitSlash_eq_some_iff {text before after : List Char} :
    splitSlash text = some (before, after) ↔ '/' ∉ before ∧ text = before ++ '/' :: after := by
  constructor
  · intro cut
    induction text generalizing before with
    | nil => exact absurd cut (by simp [splitSlash])
    | cons c rest ih =>
        rw [splitSlash] at cut
        split at cut
        · next slash =>
            obtain ⟨rfl, rfl⟩ := Prod.mk.inj (Option.some.inj cut)
            exact ⟨List.not_mem_nil, by rw [slash]; rfl⟩
        · next other =>
            obtain ⟨⟨front, behind⟩, found, same⟩ := Option.map_eq_some_iff.1 cut
            obtain ⟨rfl, rfl⟩ := Prod.mk.inj same
            obtain ⟨clean, whole⟩ := ih found
            exact ⟨by simp [clean, Ne.symm other], by rw [whole]; rfl⟩
  · rintro ⟨clean, rfl⟩
    exact splitSlash_append_cons clean after

end Network

/-! ### Trimming -/

/-- A text is what is left of it by trimming, between what is dropped. -/
theorem Text.exists_append_trimBy (drop : Char → Bool) (s : List Char) :
    ∃ front back, s = front ++ trimBy drop s ++ back ∧ (∀ c ∈ front, drop c = true) ∧
      ∀ c ∈ back, drop c = true := by
  refine ⟨s.takeWhile drop, ((s.dropWhile drop).reverse.takeWhile drop).reverse, ?_,
    fun c => List.mem_takeWhile_imp, fun c member => ?_⟩
  · rw [trimBy, List.append_assoc, ← List.reverse_append, List.takeWhile_append_dropWhile,
      List.reverse_reverse, List.takeWhile_append_dropWhile]
  · exact List.mem_takeWhile_imp (List.mem_reverse.1 member)

/-- Dropping stops at the first character that is not to be dropped. -/
theorem Text.dropWhile_append_of_head? {drop : Char → Bool} {front s : List Char}
    (before : ∀ c ∈ front, drop c = true) (first : ∀ c ∈ s.head?, drop c = false) :
    (front ++ s).dropWhile drop = s := by
  rw [List.dropWhile_append_of_pos before]
  cases s with
  | nil => rfl
  | cons c rest => exact List.dropWhile_cons_of_neg (by simp [first c rfl])

/-- What is dropped around a text that neither starts nor ends with such characters is trimmed. -/
theorem Text.trimBy_append {drop : Char → Bool} {front s back : List Char} (filled : s ≠ [])
    (before : ∀ c ∈ front, drop c = true) (behind : ∀ c ∈ back, drop c = true)
    (first : ∀ c ∈ s.head?, drop c = false) (last : ∀ c ∈ s.getLast?, drop c = false) :
    trimBy drop (front ++ s ++ back) = s := by
  have start : (front ++ s ++ back).dropWhile drop = s ++ back := by
    rw [List.append_assoc]
    apply dropWhile_append_of_head? before
    rwa [List.head?_append, List.head?_eq_some_head filled, Option.some_or,
      ← List.head?_eq_some_head filled]
  have stop : (s ++ back).reverse.dropWhile drop = s.reverse := by
    rw [List.reverse_append]
    apply dropWhile_append_of_head? fun c member => behind c (List.mem_reverse.1 member)
    rwa [List.head?_reverse]
  rw [trimBy, start, stop, List.reverse_reverse]

/-! ### Reading networks -/

/-- A dotted quad begins with a digit. -/
theorem DottedQuad.exists_head? {quad : List Char} {address : Ipv4}
    (dotted : DottedQuad quad address) : ∃ c, quad.head? = some c ∧ c.isDigit = true := by
  obtain ⟨a, b, c, d, -, rfl, -⟩ := dotted
  have filled := decimalDigits_ne_nil a
  refine ⟨(decimalDigits a).head filled, ?_, isDigit_of_mem_decimalDigits (List.head_mem filled)⟩
  rw [List.head?_append, List.head?_eq_some_head filled, Option.some_or]

/-- A dotted quad has no slash. -/
theorem DottedQuad.slash_notMem {quad : List Char} {address : Ipv4}
    (dotted : DottedQuad quad address) : '/' ∉ quad := by
  obtain ⟨a, b, c, d, -, rfl, -⟩ := dotted
  have slash (n : Nat) : '/' ∉ decimalDigits n := notMem_decimalDigits (by decide) n
  simp [slash]

/-- A number with a sign or leading zeros ends with a digit. -/
theorem Unsigned.exists_getLast? {bits : List Char} {n : Nat} (unsigned : Unsigned bits n) :
    ∃ c, bits.getLast? = some c ∧ c.isDigit = true := by
  obtain ⟨sign, zeros, -, rfl⟩ := unsigned
  have filled := decimalDigits_ne_nil n
  refine ⟨(decimalDigits n).getLast filled, ?_,
    isDigit_of_mem_decimalDigits (List.getLast_mem filled)⟩
  rw [← List.append_assoc, List.getLast?_append, List.getLast?_eq_some_getLast filled,
    Option.some_or]

/-- Just the texts of the grammar are read, and the bits behind the leading ones are cleared. -/
theorem parseCidr_eq_ok_iff {text : String} {net : Network} :
    parseCidr text = .ok net ↔ ∃ address length, ∃ small : length ≤ 32,
      NamesBlock text address length ∧ net = .ofAddress address.val length small := by
  constructor
  · intro read
    obtain ⟨front, back, whole, before, behind⟩ :=
      Text.exists_append_trimBy Text.isBlank text.toList
    rw [parseCidr] at read
    split at read
    · next net parsed =>
        obtain rfl := Except.ok.inj read
        rw [Network.parse] at parsed
        split at parsed
        · exact absurd parsed (by simp)
        · next quad bits cut =>
            obtain ⟨-, middle⟩ := Network.splitSlash_eq_some_iff.1 cut
            split at parsed
            · exact absurd parsed (by simp)
            · next address dotted =>
                split at parsed
                · exact absurd parsed (by simp)
                · next length unsigned =>
                    split at parsed
                    · next small =>
                        rw [middle] at whole
                        exact ⟨address, length, small, ⟨small, front, quad, bits, back, whole,
                          before, behind, Ipv4.parse?_eq_some_iff.1 dotted,
                          (Network.length?_eq_some_iff.1 unsigned).2⟩,
                          (Except.ok.inj parsed).symm⟩
                    · exact absurd parsed (by simp)
    · exact absurd read (by simp)
    · exact absurd read (by simp)
  · rintro ⟨address, length, small, ⟨-, front, quad, bits, back, whole, before, behind, dotted,
      unsigned⟩, rfl⟩
    obtain ⟨first, starts, digit⟩ := dotted.exists_head?
    obtain ⟨last, ends, final⟩ := unsigned.exists_getLast?
    -- Between the blanks the text begins and ends with digits, so only the blanks are cut off.
    have middle : Text.trimBy Text.isBlank text.toList = quad ++ '/' :: bits := by
      rw [whole]
      apply Text.trimBy_append (by simp) before behind
      · simp [List.head?_append, starts, Text.isBlank_of_digit digit]
      · simp [List.getLast?_append, List.getLast?_cons, ends, Text.isBlank_of_digit final]
    rw [parseCidr, Network.parse, middle, Network.splitSlash_append_cons dotted.slash_notMem]
    simp only [Ipv4.parse?_eq_some_iff.2 dotted,
      Network.length?_eq_some_iff.2 ⟨by omega, unsigned⟩, small, ↓reduceDIte]

/-! ### Blocks of addresses -/

/-- The number of a netmask in terms of its length. -/
theorem toNat_netmask {length : Nat} (small : length ≤ 32) :
    (netmask length).toNat = (2 ^ length - 1) * 2 ^ (32 - length) := by
  have all : ∀ k : Fin 33, (netmask k).toNat = (2 ^ k.val - 1) * 2 ^ (32 - k.val) := by decide
  exact all ⟨length, Nat.lt_succ_of_le small⟩

/-- Masking a word clears its low bits. -/
theorem toNat_and_netmask (word : UInt32) {length : Nat} (small : length ≤ 32) :
    (word &&& netmask length).toNat = word.toNat / 2 ^ (32 - length) * 2 ^ (32 - length) := by
  rw [UInt32.toNat_and, toNat_netmask small]
  apply Nat.eq_of_testBit_eq
  intro i
  rw [Nat.testBit_and, Nat.testBit_mul_two_pow, Nat.testBit_mul_two_pow, Nat.testBit_div_two_pow,
    Nat.testBit_two_pow_sub_one]
  by_cases high : 32 - length ≤ i
  · rw [Nat.sub_add_cancel high]
    by_cases inside : i < 32
    · simp [high, show i - (32 - length) < length by omega]
    · have large : 2 ^ 32 ≤ 2 ^ i := Nat.pow_le_pow_right (by decide) (by omega)
      have outside : word.toNat.testBit i = false :=
        Nat.testBit_lt_two_pow (word.toNat_lt.trans_le large)
      simp [outside]
  · simp [high]

namespace Network

/-- The address of a network has no bits behind its length. -/
theorem toNat_address_div_mul (net : Network) :
    net.address.toNat / 2 ^ (32 - net.length) * 2 ^ (32 - net.length) = net.address.toNat := by
  rw [← toNat_and_netmask net.address net.length_le, net.address_and_netmask]

/-- A network contains the words that agree with its lowest one in the leading bits. -/
theorem contains_iff_div_eq {net : Network} {word : UInt32} :
    net.contains word = true ↔
      word.toNat / 2 ^ (32 - net.length) = net.address.toNat / 2 ^ (32 - net.length) := by
  rw [contains, decide_eq_true_iff, mask, ← UInt32.toNat_inj, toNat_and_netmask word net.length_le]
  constructor
  · intro same
    rw [← same, Nat.mul_div_cancel _ (Nat.two_pow_pos _)]
  · intro same
    rw [same, toNat_address_div_mul]

/-- A network contains just the addresses of its block. -/
theorem contains_iff_mem_block {address : Ipv4} {length : Nat} (small : length ≤ 32)
    (other : Ipv4) : (ofAddress address.val length small).contains other.val = true ↔
      other ∈ Ipv4.block address length := by
  rw [contains_iff_div_eq, ofAddress, toNat_and_netmask address.val small,
    Nat.mul_div_cancel _ (Nat.two_pow_pos _)]
  rfl

/-- The addresses of a network follow one another, the lowest one first. -/
theorem contains_iff_le_and_lt {net : Network} {word : UInt32} :
    net.contains word = true ↔ net.address.toNat ≤ word.toNat ∧
      word.toNat < net.address.toNat + 2 ^ (32 - net.length) := by
  have lowest := toNat_address_div_mul net
  rw [contains_iff_div_eq, Nat.div_eq_iff (Nat.two_pow_pos _), lowest]
  have positive := Nat.two_pow_pos (32 - net.length)
  omega

/-- The block of a network ends with the last address at the latest. -/
theorem toNat_address_add_le (net : Network) :
    net.address.toNat + 2 ^ (32 - net.length) ≤ 2 ^ 32 := by
  have whole : 2 ^ net.length * 2 ^ (32 - net.length) = 2 ^ 32 := by
    rw [← Nat.pow_add, Nat.add_sub_cancel' net.length_le]
  have few : net.address.toNat / 2 ^ (32 - net.length) < 2 ^ net.length := by
    rw [Nat.div_lt_iff_lt_mul (Nat.two_pow_pos _), whole]
    exact net.address.toNat_lt
  calc net.address.toNat + 2 ^ (32 - net.length)
      = (net.address.toNat / 2 ^ (32 - net.length) + 1) * 2 ^ (32 - net.length) := by
        rw [Nat.succ_mul, toNat_address_div_mul]
    _ ≤ 2 ^ net.length * 2 ^ (32 - net.length) := Nat.mul_le_mul_right _ few
    _ = 2 ^ 32 := whole

/-- A network inside another one starts no earlier and ends no later. -/
theorem bounds_of_contains {a b : Network}
    (inside : ∀ address : Ipv4, a.contains address.val = true → b.contains address.val = true) :
    b.address.toNat ≤ a.address.toNat ∧
      a.address.toNat + 2 ^ (32 - a.length) ≤ b.address.toNat + 2 ^ (32 - b.length) := by
  have positive := Nat.two_pow_pos (32 - a.length)
  have room := toNat_address_add_le a
  have lowest := contains_iff_le_and_lt.1
    (inside ⟨a.address⟩ (contains_iff_le_and_lt.2 ⟨le_rfl, Nat.lt_add_of_pos_right positive⟩))
  let last : Nat := a.address.toNat + 2 ^ (32 - a.length) - 1
  have value : (UInt32.ofNat last).toNat = last := Nat.mod_eq_of_lt (by omega)
  have highest := contains_iff_le_and_lt.1
    (inside ⟨.ofNat last⟩ (contains_iff_le_and_lt.2 (by rw [value]; omega)))
  rw [value] at highest
  exact ⟨lowest.1, by omega⟩

/-- Networks that contain the same addresses are one network. -/
theorem eq_of_contains {a b : Network}
    (same : ∀ address : Ipv4, a.contains address.val = true ↔ b.contains address.val = true) :
    a = b := by
  obtain ⟨below, ends⟩ := bounds_of_contains fun address => (same address).1
  obtain ⟨above, starts⟩ := bounds_of_contains fun address => (same address).2
  have address : a.address = b.address := UInt32.toNat_inj.1 (Nat.le_antisymm above below)
  rw [address] at ends starts
  have size : 2 ^ (32 - a.length) = 2 ^ (32 - b.length) := by omega
  have free := Nat.pow_right_injective (le_refl 2) size
  have length : a.length = b.length := by
    have small := a.length_le
    have small' := b.length_le
    omega
  cases a
  cases b
  simp_all

end Network

/-! ### Texts and blocks -/

/-- The networks that two texts name have one text just if the texts name one block. -/
theorem text_ofAddress_eq_iff {a b : Ipv4} {k l : Nat} (small : k ≤ 32) (small' : l ≤ 32) :
    (Network.ofAddress a.val k small).text = (Network.ofAddress b.val l small').text ↔
      Ipv4.block a k = Ipv4.block b l := by
  constructor
  · intro same
    ext address
    rw [← Network.contains_iff_mem_block small, ← Network.contains_iff_mem_block small',
      Network.text_injective same]
  · intro same
    apply congrArg Network.text
    apply Network.eq_of_contains
    intro address
    rw [Network.contains_iff_mem_block, Network.contains_iff_mem_block, same]

/-- Just the texts that name a block are read, each as its block with the other bits cleared. What
is read is read again from its own text, and two texts give one such text just if they name one
block. -/
theorem parseCidr_exact :
    (∀ text, (∃ net, parseCidr text = .ok net) ↔
      ∃ address length, NamesBlock text address length) ∧
    (∀ text net, parseCidr text = .ok net → parseCidr net.text = .ok net ∧
      ∀ address length, NamesBlock text address length → net.length = length ∧
        net.address.toNat = address.val.toNat / 2 ^ (32 - length) * 2 ^ (32 - length) ∧
        ∀ other : Ipv4, net.contains other.val = true ↔ other ∈ Ipv4.block address length) ∧
    ∀ s t m n a b k l, parseCidr s = .ok m → parseCidr t = .ok n → NamesBlock s a k →
      NamesBlock t b l → (m.text = n.text ↔ Ipv4.block a k = Ipv4.block b l) := by
  have reads {text address length net} (names : NamesBlock text address length)
      (read : parseCidr text = .ok net) : net = .ofAddress address.val length names.1 :=
    Except.ok.inj (read.symm.trans
      (parseCidr_eq_ok_iff.2 ⟨address, length, names.1, names, rfl⟩))
  refine ⟨fun text => ⟨?_, ?_⟩, fun text net read => ⟨parseCidr_text net, ?_⟩, ?_⟩
  · rintro ⟨net, read⟩
    obtain ⟨address, length, -, names, -⟩ := parseCidr_eq_ok_iff.1 read
    exact ⟨address, length, names⟩
  · rintro ⟨address, length, names⟩
    exact ⟨_, parseCidr_eq_ok_iff.2 ⟨address, length, names.1, names, rfl⟩⟩
  · intro address length names
    obtain rfl := reads names read
    exact ⟨rfl, toNat_and_netmask address.val names.1, Network.contains_iff_mem_block names.1⟩
  · intro s t m n a b k l first second names names'
    rw [reads names first, reads names' second]
    exact text_ofAddress_eq_iff names.1 names'.1

/-- A text with blanks, a plus sign, a leading zero and host bits names the same block as a plain
one. -/
theorem parseCidr_exact_padded :
    NamesBlock " 10.0.0.7/+024\n" ⟨0x0A000007⟩ 24 ∧ NamesBlock "10.0.0.9/24" ⟨0x0A000009⟩ 24 ∧
      ∃ m n, parseCidr " 10.0.0.7/+024\n" = .ok m ∧ parseCidr "10.0.0.9/24" = .ok n ∧
        m.length = 24 ∧ m.address.toNat = 0x0A000000 ∧ m.text = n.text := by
  have first : NamesBlock " 10.0.0.7/+024\n" ⟨0x0A000007⟩ 24 :=
    ⟨by decide, [' '], "10.0.0.7".toList, "+024".toList, ['\n'], by decide,
      List.forall_mem_singleton.2 rfl, List.forall_mem_singleton.2 rfl,
      ⟨10, 0, 0, 7, by decide, by decide, by decide⟩, ['+'], 1, Or.inr rfl, by decide⟩
  have second : NamesBlock "10.0.0.9/24" ⟨0x0A000009⟩ 24 :=
    ⟨by decide, [], "10.0.0.9".toList, "24".toList, [], by decide, List.forall_mem_nil _,
      List.forall_mem_nil _, ⟨10, 0, 0, 9, by decide, by decide, by decide⟩, [], 0, Or.inl rfl,
      by decide⟩
  obtain ⟨accepts, faithful, canonical⟩ := parseCidr_exact
  obtain ⟨m, read⟩ := (accepts _).2 ⟨_, _, first⟩
  obtain ⟨n, read'⟩ := (accepts _).2 ⟨_, _, second⟩
  obtain ⟨length, address, -⟩ := (faithful _ m read).2 _ _ first
  have one : Ipv4.block ⟨0x0A000007⟩ 24 = Ipv4.block ⟨0x0A000009⟩ 24 := rfl
  exact ⟨first, second, m, n, read, read', length, address,
    (canonical _ _ m n _ _ _ _ read read' first second).2 one⟩

end ClusterGateway
