import ClusterGateway.Acl.List
import ClusterGateway.Proofs.Text.Decimal

/-! # The one form of a network

The text of a network is read back as that network, and the bits under which it is kept are those of
no other. So a blocked network may be known by its text or by its bits, as is convenient.
-/

namespace ClusterGateway

/-! ### Parts of a text -/

/-- A text is split at its first mark, and the rest of it at the others. -/
theorem splitAt_append_cons {mark : Char} {part : List Char} (clean : mark ∉ part)
    (rest : List Char) : splitAt mark (part ++ mark :: rest) = part :: splitAt mark rest := by
  induction part with
  | nil => simp [splitAt]
  | cons c part ih =>
      rw [List.mem_cons, not_or] at clean
      rw [List.cons_append, splitAt, if_neg (Ne.symm clean.1), ih clean.2]

/-- A text without the mark is not split. -/
theorem splitAt_of_notMem {mark : Char} {part : List Char} (clean : mark ∉ part) :
    splitAt mark part = [part] := by
  induction part with
  | nil => rfl
  | cons c part ih =>
      rw [List.mem_cons, not_or] at clean
      rw [splitAt, if_neg (Ne.symm clean.1), ih clean.2]

/-- A split text has at least one part. -/
theorem splitAt_ne_nil (mark : Char) (text : List Char) : splitAt mark text ≠ [] := by
  cases text with
  | nil => simp [splitAt]
  | cons c rest =>
      rw [splitAt]
      split
      · simp
      · split <;> simp

/-- A text is its parts with the mark between them. -/
theorem intercalate_splitAt (mark : Char) (text : List Char) :
    [mark].intercalate (splitAt mark text) = text := by
  induction text with
  | nil => rfl
  | cons c rest ih =>
      obtain ⟨part, parts, shape⟩ := List.exists_cons_of_ne_nil (splitAt_ne_nil mark rest)
      rw [shape] at ih
      rw [splitAt, shape]
      split
      · next same =>
          rw [List.intercalate_cons_cons, ih, same]
          rfl
      · cases parts with
        | nil => simpa using ih
        | cons next parts =>
            rw [List.intercalate_cons_cons] at ih ⊢
            rw [← ih]
            rfl

/-- What holds of all characters of joined parts holds of those of each part. -/
theorem forall_mem_of_intercalate {P : Char → Prop} {mark : List Char} {parts : List (List Char)}
    (whole : ∀ c ∈ mark.intercalate parts, P c) : ∀ part ∈ parts, ∀ c ∈ part, P c := by
  induction parts with
  | nil => exact fun part member => absurd member List.not_mem_nil
  | cons part parts ih =>
      cases parts with
      | nil => simpa using whole
      | cons next parts =>
          rw [List.intercalate_cons_cons] at whole
          obtain ⟨front, behind⟩ := List.forall_mem_append.1 whole
          exact List.forall_mem_cons.2 ⟨(List.forall_mem_append.1 front).1, ih behind⟩

/-- What holds of the characters of all parts and of the mark between them holds of the whole. -/
theorem forall_mem_intercalate {P : Char → Prop} {mark : List Char} {parts : List (List Char)}
    (marks : ∀ c ∈ mark, P c) (inside : ∀ part ∈ parts, ∀ c ∈ part, P c) :
    ∀ c ∈ mark.intercalate parts, P c := by
  induction parts with
  | nil => exact fun c member => absurd member List.not_mem_nil
  | cons part parts ih =>
      obtain ⟨front, behind⟩ := List.forall_mem_cons.1 inside
      cases parts with
      | nil => simpa using front
      | cons next parts =>
          rw [List.intercalate_cons_cons]
          exact List.forall_mem_append.2
            ⟨List.forall_mem_append.2 ⟨front, marks⟩, ih behind⟩

/-- A text is split at its first slash. -/
theorem Network.splitSlash_append_cons {part : List Char} (clean : '/' ∉ part)
    (rest : List Char) : splitSlash (part ++ '/' :: rest) = some (part, rest) := by
  induction part with
  | nil => simp [splitSlash]
  | cons c part ih =>
      rw [List.mem_cons, not_or] at clean
      rw [List.cons_append, splitSlash, if_neg (Ne.symm clean.1), ih clean.2]
      rfl

/-- Nothing is trimmed of a text that neither starts nor ends with what is dropped. -/
theorem Text.trimBy_eq_self {drop : Char → Bool} {s : List Char}
    (first : ∀ c ∈ s.head?, drop c = false) (last : ∀ c ∈ s.getLast?, drop c = false) :
    trimBy drop s = s := by
  have front (t : List Char) (keep : ∀ c ∈ t.head?, drop c = false) : t.dropWhile drop = t := by
    cases t with
    | nil => rfl
    | cons c t => rw [List.dropWhile_cons_of_neg (by simp [keep c rfl])]
  rw [trimBy, front s first, front s.reverse (by rwa [List.head?_reverse]), List.reverse_reverse]

/-- Decimal digits are digits and nothing else. -/
theorem notMem_decimalDigits {c : Char} (other : c.isDigit = false) (n : Nat) :
    c ∉ decimalDigits n := by
  intro member
  rw [isDigit_of_mem_decimalDigits member] at other
  exact absurd other (by decide)

/-! ### Addresses -/

namespace Ipv4

/-- A number up to 255 is read back from its decimal digits as an octet. -/
theorem octet?_decimalDigits {n : Nat} (small : n ≤ 255) : octet? (decimalDigits n) = some n := by
  have short : (decimalDigits n).length ≤ 3 := length_decimalDigits_le (by decide) (by omega)
  have digits : (decimalDigits n).all Char.isDigit = true :=
    List.all_eq_true.2 fun _ => isDigit_of_mem_decimalDigits
  have lone : ¬((decimalDigits n).head? = some '0' ∧ 1 < (decimalDigits n).length) := by
    rintro ⟨zero, long⟩
    rw [length_decimalDigits_of_head? zero] at long
    exact Nat.lt_irrefl 1 long
  rw [octet?, if_neg (by simp [decimalDigits_ne_nil, digits, short]), if_neg lone]
  simp [small]

/-- An IPv4 address is written as its four octets in decimal, with dots between them. -/
theorem toList_text (a : Ipv4) :
    a.text.toList =
      decimalDigits (a.val.toNat / 0x1000000) ++ '.' ::
        (decimalDigits (a.val.toNat / 0x10000 % 256) ++ '.' ::
          (decimalDigits (a.val.toNat / 0x100 % 256) ++ '.' ::
            decimalDigits (a.val.toNat % 256))) := by
  simp only [text, octets, List.map_cons, List.map_nil, String.intercalate_cons_cons,
    String.intercalate_singleton, String.toList_append, toList_toString_nat, List.append_assoc]
  rfl

/-- An IPv4 address is made up of its four octets. -/
theorem ofOctets_octets (a : Ipv4) :
    ofOctets (a.val.toNat / 0x1000000) (a.val.toNat / 0x10000 % 256)
      (a.val.toNat / 0x100 % 256) (a.val.toNat % 256) = a := by
  have bound := a.val.toNat_lt
  have whole : ((a.val.toNat / 0x1000000 * 256 + a.val.toNat / 0x10000 % 256) * 256 +
      a.val.toNat / 0x100 % 256) * 256 + a.val.toNat % 256 = a.val.toNat := by
    omega
  rw [ofOctets, whole]
  exact congrArg Ipv4.mk (UInt32.ofNat_toNat)

/-- The text of an address is read back as that address. -/
theorem parse?_text (a : Ipv4) : parse? a.text.toList = some a := by
  have bound := a.val.toNat_lt
  have dot (n : Nat) : '.' ∉ decimalDigits n := notMem_decimalDigits (by decide) n
  rw [parse?, toList_text, splitAt_append_cons (dot _), splitAt_append_cons (dot _),
    splitAt_append_cons (dot _), splitAt_of_notMem (dot _)]
  simp only [octet?_decimalDigits (n := a.val.toNat / 0x1000000) (by omega),
    octet?_decimalDigits (n := a.val.toNat / 0x10000 % 256) (by omega),
    octet?_decimalDigits (n := a.val.toNat / 0x100 % 256) (by omega),
    octet?_decimalDigits (n := a.val.toNat % 256) (by omega)]
  exact congrArg some (ofOctets_octets a)

end Ipv4

namespace Network

/-! ### Texts of networks -/

theorem length?_decimalDigits {n : Nat} (small : n ≤ 255) : length? (decimalDigits n) = some n := by
  have digits : (decimalDigits n).all Char.isDigit = true :=
    List.all_eq_true.2 fun _ => isDigit_of_mem_decimalDigits
  unfold length?
  dsimp only
  split
  · next rest whole =>
      exact absurd (whole ▸ List.mem_cons_self) (notMem_decimalDigits (c := '+') (by decide) n)
  · rw [if_neg (by simp [decimalDigits_ne_nil, digits])]
    simp [small]

/-- A network is written as its address, a slash and its length. -/
theorem toList_text (net : Network) :
    net.text.toList = (Ipv4.text ⟨net.address⟩).toList ++ '/' :: decimalDigits net.length := by
  rw [text, String.toList_append, String.toList_append, toList_toString_nat, List.append_assoc]
  rfl

/-- The text of a network has no blanks at its ends. -/
theorem trimBy_toList_text (net : Network) :
    Text.trimBy Text.isBlank net.text.toList = net.text.toList := by
  apply Text.trimBy_eq_self
  · intro c first
    rw [toList_text, Ipv4.toList_text, List.append_assoc, List.head?_append,
      List.head?_eq_some_head (decimalDigits_ne_nil _), Option.some_or,
      Option.mem_some_iff] at first
    exact Text.isBlank_of_digit (isDigit_of_mem_decimalDigits (first ▸ List.head_mem _))
  · intro c last
    rw [toList_text, List.getLast?_append, List.getLast?_cons,
      List.getLast?_eq_some_getLast (decimalDigits_ne_nil _), Option.some_or, Option.getD_some,
      Option.mem_some_iff] at last
    exact Text.isBlank_of_digit (isDigit_of_mem_decimalDigits (last ▸ List.getLast_mem _))

/-- A network is made of its address and its length. -/
theorem ofAddress_address (net : Network) :
    ofAddress net.address net.length net.length_le = net := by
  obtain ⟨address, length, small, only⟩ := net
  simp only [ofAddress, only]

/-- The text of a network is read back as that network. -/
theorem parse_text (net : Network) : parse net.text = .ok net := by
  have small := net.length_le
  have clean : '/' ∉ (Ipv4.text ⟨net.address⟩).toList := by
    have slash (n : Nat) : '/' ∉ decimalDigits n := notMem_decimalDigits (by decide) n
    simp [Ipv4.toList_text, slash]
  rw [parse, trimBy_toList_text, toList_text, splitSlash_append_cons clean]
  simp only [Ipv4.parse?_text, length?_decimalDigits (n := net.length) (by omega), small,
    ↓reduceDIte, ofAddress_address]

end Network

/-- A network is read back from its text. -/
@[simp] theorem parseCidr_text (net : Network) : parseCidr net.text = .ok net := by
  rw [parseCidr, Network.parse_text]

/-- Networks with one text are one network. -/
theorem Network.text_injective : Function.Injective Network.text := by
  intro a b same
  have read := parseCidr_text a
  rw [same, parseCidr_text] at read
  exact (Except.ok.inj read).symm

/-! ### Bits of networks -/

theorem length_bitsOf (key : UInt32) : (bitsOf key).length = 32 := by simp [bitsOf]

/-- An address is determined by its bits. -/
theorem bitsOf_injective : Function.Injective bitsOf := by
  intro a b same
  apply UInt32.toBitVec_inj.1
  apply BitVec.eq_of_getMsbD_eq
  intro i inside
  have bit := congrArg (fun bits => bits[i]?) same
  simpa [bitsOf, inside] using bit

/-- The set bits of a netmask stand in front. -/
theorem bitsOf_netmask {length : Nat} (small : length ≤ 32) :
    bitsOf (netmask length) = List.replicate length true ++ List.replicate (32 - length) false := by
  have all : ∀ k : Fin 33, bitsOf (netmask k) =
      List.replicate k true ++ List.replicate (32 - k) false := by decide +kernel
  exact all ⟨length, Nat.lt_succ_of_le small⟩

/-- Masking a word clears the bits behind its leading ones. -/
theorem bitsOf_and_netmask (key : UInt32) {length : Nat} (small : length ≤ 32) :
    bitsOf (key &&& netmask length) =
      (bitsOf key).take length ++ List.replicate (32 - length) false := by
  apply List.ext_getElem
  · rw [List.length_append, List.length_take, length_bitsOf, length_bitsOf, List.length_replicate]
    omega
  · intro i inside _
    rw [length_bitsOf] at inside
    have bit := congrArg (fun bits => bits[i]?) (bitsOf_netmask small)
    rw [List.getElem_append]
    split
    next front =>
      rw [List.length_take, length_bitsOf, Nat.min_eq_left small] at front
      have set : (netmask length).toBitVec.getMsbD i = true := by
        simpa [bitsOf, inside, List.getElem?_append, front] using bit
      simp [bitsOf, set]
    next behind =>
      rw [List.length_take, length_bitsOf, Nat.min_eq_left small] at behind
      have last : i - length < 32 - length := by omega
      have clear : (netmask length).toBitVec.getMsbD i = false := by
        simpa [bitsOf, inside, List.getElem?_append, behind, last] using bit
      simp [bitsOf, clear]

/-- The bits under a mask of leading ones are the first bits. -/
theorem takeWhile_zip_replicate (bits : List Bool) (length more : Nat) :
    ((bits.zip (List.replicate length true ++ List.replicate more false)).takeWhile (·.2)).map
      (·.1) = bits.take length := by
  induction length generalizing bits with
  | zero => cases bits <;> cases more <;> rfl
  | succ length ih =>
      cases bits with
      | nil => rfl
      | cons b bits => simp [List.replicate_succ, ih]

namespace Network

/-- The path of a network in a trie is its address up to its length. -/
theorem path_eq_take (net : Network) : net.path = (bitsOf net.address).take net.length := by
  rw [path, leadingBits, mask, bitsOf_netmask net.length_le, takeWhile_zip_replicate]

theorem length_path (net : Network) : net.path.length = net.length := by
  rw [path_eq_take, List.length_take, length_bitsOf, Nat.min_eq_left net.length_le]

/-- The bits of a network behind its leading ones are clear. -/
theorem bitsOf_address (net : Network) :
    bitsOf net.address = net.path ++ List.replicate (32 - net.length) false := by
  rw [path_eq_take, ← bitsOf_and_netmask net.address net.length_le, net.address_and_netmask]

/-- Networks that are kept under the same bits are one network. -/
theorem path_injective : Function.Injective path := by
  intro a b same
  have length : a.length = b.length := by rw [← length_path, same, length_path]
  have address : a.address = b.address :=
    bitsOf_injective (by rw [bitsOf_address, bitsOf_address, same, length])
  cases a
  cases b
  simp_all

end Network

end ClusterGateway
